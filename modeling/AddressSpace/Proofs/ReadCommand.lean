import Mathlib
import AddressSpace.CommandLine.Program
import AddressSpace.Files.Tree
import AddressSpace.Proofs.NodeIdText

/-!
# The `read` command

`uaspace read NODE ATTRIBUTE…` loads the settings file, builds the standard namespace with
the root folder's attributes only when the settings ask for them and `--no-root-attributes`
is absent, and reads the named attributes of the node. Its arguments are checked in a fixed
order: the node, then the number of attributes (1 to 1000), then each attribute in turn, the
first that does not read being the one reported. When all pass it prints one row per
attribute, in order; a row shows a value, with status `Good`, only for the seven attributes
stored on the root folder.

* `mapM_eq_error_of_first`, `mapM_eq_ok_of_forall` — a traversal in `Except` fails with the
  error of its first failing element, and otherwise yields one result per element;
* `readRequests_*` — the outcomes of turning the arguments into requests;
* `getValue_standard_shown`, `getValue_standard_hidden` — what the standard namespace
  answers for one attribute of one node;
* `RowAnswers` — the row that one attribute argument gets;
* `Program.run_read` — a command line that reads as `read` runs the command against the
  settings loaded from its settings path;
* **`read_invocation`** — the outcome of every `read` command line whose settings load.
-/

namespace AddressSpace

/-! ### Traversals in `Except` -/

section Traverse

variable {α β ε : Type} {f : α → Except ε β}

/-- A bind that succeeds ran its first step to a value. -/
theorem exists_of_bind_eq_ok {x : Except ε α} {r : β} (h : (x >>= f) = .ok r) :
    ∃ a, x = .ok a ∧ f a = .ok r := by
  cases x with
  | error e => cases h
  | ok a => exact ⟨a, rfl, h⟩

/-- A traversal fails with the error of the first element that fails. -/
theorem mapM_eq_error_of_first {pre post : List α} {x : α} {e : ε}
    (hpre : ∀ y ∈ pre, ∃ b, f y = .ok b) (hx : f x = .error e) :
    (pre ++ x :: post).mapM f = .error e := by
  induction pre with
  | nil => simp [List.mapM_cons, hx, bind, Except.bind]
  | cons y ys ih =>
    obtain ⟨b, hb⟩ := hpre y List.mem_cons_self
    have hys := ih fun z hz => hpre z (List.mem_cons_of_mem y hz)
    simp [List.mapM_cons, hb, hys, bind, Except.bind]

/-- A traversal whose every element succeeds yields one result per element, in order. -/
theorem mapM_eq_ok_of_forall {l : List α} (h : ∀ x ∈ l, ∃ b, f x = .ok b) :
    ∃ bs, l.mapM f = .ok bs ∧ List.Forall₂ (fun x b => f x = .ok b) l bs := by
  induction l with
  | nil => exact ⟨[], rfl, .nil⟩
  | cons x xs ih =>
    obtain ⟨b, hb⟩ := h x List.mem_cons_self
    obtain ⟨bs, hbs, hall⟩ := ih fun y hy => h y (List.mem_cons_of_mem x hy)
    refine ⟨b :: bs, ?_, .cons hb hall⟩
    simp [List.mapM_cons, hb, hbs, bind, Except.bind, pure, Except.pure]

end Traverse

/-! ### Attributes on the standard namespace -/

/-- The attributes stored on the root folder. -/
def rootAttributeIds : List AttributeId :=
  [.nodeId, .nodeClass, .browseName, .displayName, .description, .writeMask, .userWriteMask]

/-- With root attributes on, each of the seven stored attributes of the root folder reads as
its stored value. -/
theorem getValue_standard_shown {a : AttributeId} (ha : a ∈ rootAttributeIds) :
    ∃ v, ⟨WellKnown.rootFolder.nodeId, a, .value v⟩ ∈ rootAttributes ∧
      (Space.standard true).attributes.getValue (NodeId.numeric 0 84) a = .value v := by
  simp only [rootAttributeIds, List.mem_cons, List.not_mem_nil, or_false] at ha
  rcases ha with rfl | rfl | rfl | rfl | rfl | rfl | rfl <;>
    exact ⟨_, by simp [rootAttributes], rfl⟩

/-- Every other read of the standard namespace finds nothing: root attributes off, another
node, or an attribute the root folder does not store. -/
theorem getValue_standard_hidden {en : Bool} {n : NodeId} {a : AttributeId}
    (h : ¬ (en = true ∧ n = NodeId.numeric 0 84 ∧ a ∈ rootAttributeIds)) :
    (Space.standard en).attributes.getValue n a = DataValue.notReadable := by
  cases en with
  | false => rfl
  | true =>
    by_cases hn : n = NodeId.numeric 0 84
    · subst hn
      have ha : a ∉ rootAttributeIds := fun ha => h ⟨rfl, rfl, ha⟩
      cases a <;> simp [rootAttributeIds] at ha <;> rfl
    · -- every stored record is the root folder's
      have hroot : (WellKnown.rootFolder.nodeId == n) = false :=
        beq_eq_false_iff_ne.2 fun e => hn e.symm
      simp [Space.standard, AttributeStore.getValue, rootAttributes, hroot]

/-- The row that attribute argument `x` of node `n` gets, with root attributes `en`: the
attribute that `x` names, with its stored value shown as `Good` when root attributes are on,
`n` is the root folder and the attribute is stored on it, and otherwise `BadNotReadable`
with no value. -/
def RowAnswers (en : Bool) (n : NodeId) (x : String) (row : ReadRow) : Prop :=
  ∃ a, AttributeId.parse (Text.trim x) = .ok a ∧
    row.nodeId = n ∧ row.attributeName = a.name ∧
    ((en = true ∧ n = NodeId.numeric 0 84 ∧ a ∈ rootAttributeIds) →
      ∃ v, ⟨WellKnown.rootFolder.nodeId, a, .value v⟩ ∈ rootAttributes ∧
        row.status = "Good" ∧ row.value = some v.toText) ∧
    (¬ (en = true ∧ n = NodeId.numeric 0 84 ∧ a ∈ rootAttributeIds) →
      row.status = "BadNotReadable" ∧ row.value = none)

/-- The row of a request for attribute `a` answers the argument that names it. -/
theorem rowAnswers_of_parse {en : Bool} {n : NodeId} {x : String} {a : AttributeId}
    (hx : AttributeId.parse (Text.trim x) = .ok a) :
    RowAnswers en n x (ReadRow.of ⟨n, a⟩ ((Space.standard en).attributes.getValue n a)) := by
  refine ⟨a, hx, rfl, rfl, fun hshown => ?_, fun hhidden => ?_⟩
  · obtain ⟨rfl, rfl, ha⟩ := hshown
    obtain ⟨v, hmem, hv⟩ := getValue_standard_shown ha
    exact ⟨v, hmem, by simp [ReadRow.of, hv, DataValue.statusCode]; rfl,
      by simp [ReadRow.of, hv, DataValue.value?]⟩
  · rw [getValue_standard_hidden hhidden]
    exact ⟨rfl, rfl⟩

/-- An attribute argument that does not read names no attribute. -/
theorem AttributeId.parse_error {s : String} {e : Error} (h : AttributeId.parse s = .error e) :
    ∃ text, e = .unknownAttribute text := by
  unfold AttributeId.parse AttributeId.ofCode at h
  split at h
  · split at h
    · cases h
    · cases h
      exact ⟨_, rfl⟩
  · split at h
    · cases h
    · cases h
      exact ⟨_, rfl⟩

namespace CommandLine

/-! ### What the parser gives a `read`

Entries without a value are made only by flags and counts, under the option's own name; so
under the name of a positional argument every entry has a value, and a required one leaves
at least one. -/

/-- Every entry under the name `x` carries a value. -/
def ValuedAt (x : String) (given : List (String × Option String)) : Prop :=
  ∀ e ∈ given, e.1 = x → e.2.isSome = true

theorem ValuedAt.append {x : String} {g g' : List (String × Option String)}
    (h : ValuedAt x g) (h' : ValuedAt x g') : ValuedAt x (g ++ g') := by
  intro e he hx
  rcases List.mem_append.1 he with he | he
  · exact h e he hx
  · exact h' e he hx

theorem valuedAt_values {x id : String} (vs : List String) :
    ValuedAt x (vs.map fun v => (id, some v)) := by
  intro e he _
  obtain ⟨v, -, rfl⟩ := List.mem_map.1 he
  rfl

theorem Scan.valuedAt_resolve {x : String} {s s' : Scan} (hs : s.resolve = .ok s')
    (h : ValuedAt x s.given) : ValuedAt x s'.given := by
  unfold Scan.resolve at hs
  split at hs
  · cases hs
    exact h
  · split_ifs at hs
    cases hs
    exact h.append (valuedAt_values _)

theorem Scan.valuedAt_react {x : String} {s s' : Scan} {o : OptionSpec} {att : Option String}
    (hs : s.react o att = .ok s') (hx : o.id ≠ x) (h : ValuedAt x s.given) :
    ValuedAt x s'.given := by
  unfold Scan.react at hs
  cases hr : s.resolve with
  | error e => simp [hr, bind, Except.bind] at hs
  | ok s₀ =>
    have h₀ := Scan.valuedAt_resolve hr h
    simp only [hr, bind, Except.bind] at hs
    -- a flag or a count adds an entry without a value, under the option's own name
    have hnone : ValuedAt x [(o.id, none)] := by
      intro e he hex
      simp only [List.mem_singleton] at he
      subst he
      exact absurd hex hx
    split at hs
    · cases hs
    · cases hs
    · split_ifs at hs
      cases hs
      exact h₀.append hnone
    · split_ifs at hs
      cases hs
      exact h₀.append hnone
    all_goals
      split at hs
      · exact Scan.valuedAt_resolve hs h₀
      · cases hs
        exact h₀

/-- Checking the waiting values, then changing only what waits, keeps every named entry. -/
theorem Scan.valuedAt_resolve_then {x : String} {s s' : Scan} {f : Scan → Scan}
    (hs : (s.resolve >>= fun t => pure (f t)) = .ok s') (hf : ∀ t, (f t).given = t.given)
    (h : ValuedAt x s.given) : ValuedAt x s'.given := by
  cases hr : s.resolve with
  | error e => simp [hr, bind, Except.bind] at hs
  | ok s₀ =>
    simp only [hr, bind, Except.bind, pure, Except.pure, Except.ok.injEq] at hs
    subst hs
    rw [hf]
    exact Scan.valuedAt_resolve hr h

theorem Scan.valuedAt_positional {x : String} {lvl : Level} {s s' : Scan} {arg : String}
    (hs : s.positional lvl arg = .ok s') (h : ValuedAt x s.given) : ValuedAt x s'.given := by
  unfold Scan.positional at hs
  simp only at hs
  split at hs
  · cases hs
    exact h
  · split at hs
    · cases hs
    · split at hs
      · split at hs
        · cases hs
          exact h
        · exact Scan.valuedAt_resolve_then hs (fun _ => rfl) h
      · exact Scan.valuedAt_resolve_then hs (fun _ => rfl) h

/-- What a level that was read gave: the scan of its arguments, the values `finish` handed
back, and, when a level below was read, what reading it gave. -/
theorem readLevel_eq_ok {α : Type} {lvl : Level} {args : List String} {v : Option String}
    {below : String → List String → Except Stop α} {given : List (String × Option String)}
    {inner : Option α} (h : readLevel lvl args v below = .ok (given, inner)) :
    ∃ s sub, lvl.scan {} args = .ok (s, sub) ∧ lvl.finish s inner.isSome = .ok given ∧
      ∀ y, inner = some y →
        ∃ name rest, sub = some (name, rest) ∧ below name rest = .ok y := by
  unfold readLevel at h
  obtain ⟨⟨s, sub⟩, hscan, hrest⟩ := exists_of_bind_eq_ok h
  simp only at hrest
  refine ⟨s, sub, hscan, ?_⟩
  -- the last check refuses or hands back the values and the level below unchanged
  have hlast : ∀ {g : List (String × Option String)} {i : Option α},
      (if (lvl.options.any fun o => decide (o.id = "config")) = true ∧
            (!g.any fun e => decide (e.fst = "config")) = true then
          if v = some "" then ((throw Stop.usage : Except Stop Unit) >>= fun _ => pure (g, i))
          else pure (g, i)
        else pure (g, i)) = .ok (given, inner) → g = given ∧ i = inner := by
    intro g i hif
    split_ifs at hif
    · cases hif
    all_goals
      cases hif
      exact ⟨rfl, rfl⟩
  split at hrest
  · next name rest =>
    obtain ⟨i, hi, hrest⟩ := exists_of_bind_eq_ok hrest
    obtain ⟨g, hfin, hrest⟩ := exists_of_bind_eq_ok hrest
    obtain ⟨rfl, rfl⟩ := hlast hrest
    refine ⟨hfin, fun y hy => ⟨name, rest, rfl, ?_⟩⟩
    subst hy
    cases hb : below name rest with
    | error e => simp [hb, Functor.map, Except.map] at hi
    | ok z =>
      simp only [hb, Functor.map, Except.map, Except.ok.injEq, Option.some.injEq] at hi
      rw [hi]
  · obtain ⟨i, hi, hrest⟩ := exists_of_bind_eq_ok hrest
    obtain ⟨g, hfin, hrest⟩ := exists_of_bind_eq_ok hrest
    obtain ⟨rfl, rfl⟩ := hlast hrest
    cases hi
    exact ⟨hfin, fun y hy => by cases hy⟩

/-- A level's values, once read, carry a value under every name that no option of the level
has, and hold every required positional argument. -/
theorem Level.valuedAt_finish {x : String} {lvl : Level} {s : Scan} {b : Bool}
    {given : List (String × Option String)} (hs : lvl.finish s b = .ok given)
    (h : ValuedAt x s.given) :
    ValuedAt x given ∧
      ∀ p ∈ lvl.positionals, p.required = true → given.any (·.1 = p.id) := by
  unfold Level.finish at hs
  obtain ⟨s₀, hres, hrest⟩ := exists_of_bind_eq_ok hs
  simp only at hrest
  split at hrest
  · cases hrest
  · next hmissing =>
    -- the two later checks either refuse or hand back the values read
    have hgiven : given = s₀.given := by
      split at hrest
      · cases hrest
      · split at hrest
        · cases hrest
        · cases hrest
          rfl
    subst hgiven
    refine ⟨Scan.valuedAt_resolve hres h, fun p hp hreq => ?_⟩
    simp only [List.any_eq_true, decide_eq_true_eq, not_exists, not_and,
      Bool.not_eq_true'] at hmissing
    simpa using hmissing p hp hreq

section Options

variable {x : String} {lvl : Level} (hopt : ∀ o ∈ lvl.options, o.id ≠ x)
include hopt

theorem Scan.valuedAt_shorts {cs : List Char} {s s' : Scan} (hs : s.shorts lvl cs = .ok s')
    (h : ValuedAt x s.given) : ValuedAt x s'.given := by
  induction cs generalizing s with
  | nil =>
    cases hs
    exact h
  | cons c rest ih =>
    unfold Scan.shorts at hs
    cases hfind : lvl.options.find? (·.short = some c) with
    | none => simp [hfind] at hs
    | some o =>
      have ho : o.id ≠ x := hopt o (List.mem_of_find?_eq_some hfind)
      simp only [hfind] at hs
      split_ifs at hs
      · split at hs <;> exact Scan.valuedAt_react hs ho h
      · cases hr : s.react o none with
        | error e => simp [hr, bind, Except.bind] at hs
        | ok s₀ =>
          simp only [hr, bind, Except.bind] at hs
          exact ih hs (Scan.valuedAt_react hr ho h)

theorem Scan.valuedAt_long {text : String} {s s' : Scan} (hs : s.long lvl text = .ok s')
    (h : ValuedAt x s.given) : ValuedAt x s'.given := by
  unfold Scan.long at hs
  -- whatever the name of the option, the one found is one of the level's
  split at hs
  split at hs
  · cases hs
  · next o hfind => exact Scan.valuedAt_react hs (hopt o (List.mem_of_find?_eq_some hfind)) h

theorem Level.valuedAt_scan {args : List String} {s s' : Scan}
    {sub : Option (String × List String)} (hs : lvl.scan s args = .ok (s', sub))
    (h : ValuedAt x s.given) : ValuedAt x s'.given := by
  induction args generalizing s with
  | nil =>
    cases hs
    exact h
  | cons arg rest ih =>
    -- one argument is read by a step that keeps the invariant, and the rest by the induction
    have step : ∀ {t : Except Stop Scan}, (∀ s₀, t = .ok s₀ → ValuedAt x s₀.given) →
        (t >>= fun s₀ => lvl.scan s₀ rest) = .ok (s', sub) → ValuedAt x s'.given := by
      intro t hstep hrest
      obtain ⟨s₀, h₀, hrest⟩ := exists_of_bind_eq_ok hrest
      exact ih hrest (hstep s₀ h₀)
    unfold Level.scan at hs
    split_ifs at hs
    · exact step (fun _ h₀ => Scan.valuedAt_positional h₀ h) hs
    · cases hs
      exact h
    · exact ih hs h
    · exact step (fun _ h₀ => Scan.valuedAt_long hopt h₀ h) hs
    · exact step (fun _ h₀ => Scan.valuedAt_shorts hopt h₀ h) hs
    · exact step (fun _ h₀ => Scan.valuedAt_positional h₀ h) hs

theorem readLevel_values_ne_nil {α : Type} {args : List String} {v : Option String}
    {below : String → List String → Except Stop α} {given : List (String × Option String)}
    {inner : Option α} (hlvl : readLevel lvl args v below = .ok (given, inner))
    {p : PositionalSpec} (hp : p ∈ lvl.positionals) (hid : p.id = x) (hreq : p.required = true) :
    values given x ≠ [] := by
  obtain ⟨s, sub, hscan, hfin, -⟩ := readLevel_eq_ok hlvl
  have hempty : ValuedAt x ({} : Scan).given := by simp [ValuedAt]
  obtain ⟨hvalued, hheld⟩ := Level.valuedAt_finish hfin (Level.valuedAt_scan hopt hscan hempty)
  obtain ⟨e, he, hex⟩ := List.any_eq_true.1 (hheld p hp hreq)
  have hex : e.1 = x := by simpa [hid] using hex
  obtain ⟨w, hw⟩ := Option.isSome_iff_exists.1 (hvalued e he hex)
  have hmem : w ∈ values given x := by
    simp only [values, List.mem_filterMap]
    exact ⟨e, he, by simp [hex, hw]⟩
  exact List.ne_nil_of_mem hmem

end Options

/-- Only the `read` command's own values make a `read`. -/
theorem Command.ofGiven_eq_read {name node : String} {g : Given} {action : Option (String × Given)}
    {attrs : List String} (h : Command.ofGiven name g action = .read node attrs) :
    name = "read" ∧ attrs = values g "attributes" := by
  unfold Command.ofGiven at h
  split at h
  case h_2 =>
    cases h
    exact ⟨rfl, rfl⟩
  case h_5 => split at h <;> cases h
  -- every other command is another constructor
  all_goals cases h

/-- **A `read` command line names at least one attribute.** The parser refuses `read` with
no attribute argument, so a command line that reads as `read` carries one. -/
theorem Invocation.parse_read_attributes {args : List String} {v : Option String}
    {inv : Invocation} {node : String} {attrs : List String}
    (h : Invocation.parse args v = .ok inv) (hread : inv.command = .read node attrs) :
    attrs ≠ [] := by
  unfold Invocation.parse at h
  obtain ⟨⟨top, cmd⟩, htop, hrest⟩ := exists_of_bind_eq_ok h
  obtain _ | ⟨name, g, action⟩ := cmd
  · cases hrest
  · simp only [pure, Except.pure, Except.ok.injEq] at hrest
    subst hrest
    obtain ⟨rfl, rfl⟩ := Command.ofGiven_eq_read hread
    -- the values come from reading the `read` level below the program's own
    obtain ⟨_, _, _, _, hbelow⟩ := readLevel_eq_ok htop
    obtain ⟨name, rest, -, hcmd⟩ := hbelow _ rfl
    unfold readCommand at hcmd
    obtain ⟨⟨g', action'⟩, hlvl, hpure⟩ := exists_of_bind_eq_ok hcmd
    simp only [pure, Except.pure, Except.ok.injEq, Prod.mk.injEq] at hpure
    obtain ⟨rfl, rfl, rfl⟩ := hpure
    have hopt : ∀ o ∈ ((commandLevel "read").withGlobals).options, o.id ≠ "attributes" := by
      simp [commandLevel, Level.withGlobals, globalOptions, helpOption]
    exact readLevel_values_ne_nil hopt hlvl (p := { id := "attributes", many := true })
      (by simp [commandLevel, Level.withGlobals]) rfl rfl

/-! ### Arguments into requests -/

section Requests

variable {node : String} {attrs : List String}

/-- A node argument that does not read fails first. -/
theorem readRequests_node_error {e : Error} (h : NodeId.parse (Text.trim node) = .error e) :
    readRequests node attrs = .error (.core e) := by
  simp [readRequests, nodeArgument, h, Except.mapError, bind, Except.bind]

/-- With the node read, no attributes is an empty request. -/
theorem readRequests_empty {n : NodeId} (h : NodeId.parse (Text.trim node) = .ok n) :
    readRequests node [] = .error (.validation .emptyRequest) := by
  simp [readRequests, nodeArgument, h, Except.mapError, bind, Except.bind, validateReadBatch]

/-- With the node read, more than a thousand attributes are refused before any is read. -/
theorem readRequests_too_many {n : NodeId} (h : NodeId.parse (Text.trim node) = .ok n)
    (hmany : maxBatch < attrs.length) :
    readRequests node attrs = .error (.validation (.tooManyReads attrs.length)) := by
  have hne : attrs.length ≠ 0 := by unfold maxBatch at hmany; omega
  simp [readRequests, nodeArgument, h, Except.mapError, bind, Except.bind, validateReadBatch,
    hne, hmany]

/-- With the node read and 1 to 1000 attributes, the requests are the attributes read in
turn, each paired with the node. -/
theorem readRequests_batch {n : NodeId} (h : NodeId.parse (Text.trim node) = .ok n)
    (hne : attrs ≠ []) (hfew : attrs.length ≤ maxBatch) :
    readRequests node attrs = attrs.mapM fun a =>
      (AttributeId.parse (Text.trim a)).mapError Failure.core >>= fun id => pure ⟨n, id⟩ := by
  have hlen : attrs.length ≠ 0 := by simpa using hne
  have hbatch : validateReadBatch attrs.length = .ok () := by
    simp [validateReadBatch, hlen, Nat.not_lt.2 hfew]
  simp [readRequests, nodeArgument, h, hbatch, Except.mapError, bind, Except.bind]

end Requests

/-! ### The command line -/

/-- A command line that reads as `read` runs the command against the settings loaded from
its settings path; a settings file that does not load is the failure. -/
theorem Program.run_read {env : Environment} {args : List String} {inv : Invocation}
    {node : String} {attrs : List String}
    (hparse : Invocation.parse args (env.get? settingsVariable) = .ok inv)
    (hread : inv.command = .read node attrs) (t : FileTree) :
    (Program.run env args : StateM FileTree Outcome).run' t =
      Outcome.ofResult
        (((Settings.load (inv.configPath.getD (defaultSettingsPath env)) :
            StateM FileTree (Except Failure Settings)).run' t).bind fun s =>
          Command.runWith (Context.of s inv.format inv.noRootAttributes) (.read node attrs)) := by
  simp only [Program.run, hparse, Invocation.run, hread]
  generalize (Settings.load (inv.configPath.getD (defaultSettingsPath env)) :
    StateM FileTree (Except Failure Settings)) = load
  -- the command itself is not looked into: the settings are read once, and in either
  -- outcome both sides report the same result
  generalize Command.runWith = run
  rcases hload : load.run t with ⟨res, t'⟩
  cases res <;> simp only [StateT.run'_eq, StateT.run_bind, hload] <;> rfl

/-- The command's answer, once the settings are loaded: the requests, then the rows. -/
theorem runWith_read (ctx : Context) (node : String) (attrs : List String) :
    Command.runWith ctx (.read node attrs) =
      (readRequests node attrs).bind fun reqs =>
        .ok (formatRows (List.zipWith ReadRow.of reqs (ctx.space.read reqs)) ctx.format ++ "\n") :=
  rfl

/-- The request an attribute argument makes, paired with node `n`. -/
theorem request_eq_ok {n : NodeId} {x : String} {q : ReadValueId}
    (h : ((AttributeId.parse (Text.trim x)).mapError Failure.core >>=
      fun id => (pure ⟨n, id⟩ : Except Failure ReadValueId)) = .ok q) :
    ∃ a, AttributeId.parse (Text.trim x) = .ok a ∧ q = ⟨n, a⟩ := by
  cases hx : AttributeId.parse (Text.trim x) with
  | error e => simp [hx, Except.mapError, bind, Except.bind] at h
  | ok a =>
    simp only [hx, Except.mapError, bind, Except.bind, pure, Except.pure, Except.ok.injEq] at h
    exact ⟨a, rfl, h.symm⟩

/-- **What `read` does.** Take a command line that reads as `read NODE ATTRIBUTE…`, and a
settings file at its settings path that loads. The command line names at least one
attribute (and without one the requests would be refused as empty). The program runs over
the standard namespace, with root attributes exactly when the settings ask for them and
`--no-root-attributes` is absent, and its outcome is that of one result: a node that does not
read fails as an invalid node id; then more than a thousand attributes fail validation; then
the first attribute that does not read fails as an unknown attribute; and otherwise one row
is printed per attribute argument, in order, showing the stored value with status `Good`
exactly for the seven attributes stored on the root folder `ns=0;i=84` (in any spelling)
when root attributes are on, and `BadNotReadable` with no value otherwise. -/
theorem read_invocation (env : Environment) (args : List String) (t : FileTree)
    (inv : Invocation) (node : String) (attrs : List String) (s : Settings)
    (hparse : Invocation.parse args (env.get? settingsVariable) = .ok inv)
    (hread : inv.command = .read node attrs)
    (hload : (Settings.load (inv.configPath.getD (defaultSettingsPath env)) :
      StateM FileTree (Except Failure Settings)).run' t = .ok s) :
    attrs ≠ [] ∧
    ∃ r, (Program.run env args : StateM FileTree Outcome).run' t = Outcome.ofResult r ∧
      (∀ e, NodeId.parse (Text.trim node) = .error e →
        r = .error (.core (.invalidNodeId (Text.trim node)))) ∧
      ∀ n, NodeId.parse (Text.trim node) = .ok n →
        readRequests node [] = .error (.validation .emptyRequest) ∧
        (maxBatch < attrs.length → r = .error (.validation (.tooManyReads attrs.length))) ∧
        (attrs.length ≤ maxBatch → ∀ pre x post e, attrs = pre ++ x :: post →
          (∀ y ∈ pre, ∃ a, AttributeId.parse (Text.trim y) = .ok a) →
          AttributeId.parse (Text.trim x) = .error e →
          (∃ text, e = .unknownAttribute text) ∧ r = .error (.core e)) ∧
        (attrs.length ≤ maxBatch →
          (∀ x ∈ attrs, ∃ a, AttributeId.parse (Text.trim x) = .ok a) →
          ∃ rows,
            r = .ok (formatRows rows (OutputFormat.ofText (inv.format.getD s.format)) ++ "\n") ∧
            List.Forall₂ (RowAnswers (s.rootAttributes && !inv.noRootAttributes) n)
              attrs rows) := by
  have hne := Invocation.parse_read_attributes hparse hread
  refine ⟨hne, _, Program.run_read hparse hread t, ?_⟩
  rw [hload, Except.bind, runWith_read]
  refine ⟨fun e he => ?_, fun n hn => ⟨readRequests_empty hn, fun hmany => ?_, fun hfew => ?_,
    fun hfew => ?_⟩⟩
  · rw [readRequests_node_error he, NodeId.eq_invalidNodeId_of_parse he]
    rfl
  · rw [readRequests_too_many hn hmany]
    rfl
  · intro pre x post e hsplit hpre hx
    refine ⟨AttributeId.parse_error hx, ?_⟩
    -- the arguments before `x` make requests, and `x` stops the traversal
    rw [readRequests_batch hn hne hfew, hsplit, mapM_eq_error_of_first (x := x) ?_ ?_]
    · rfl
    · intro y hy
      obtain ⟨a, ha⟩ := hpre y hy
      exact ⟨⟨n, a⟩, by simp [ha, Except.mapError, bind, Except.bind, pure, Except.pure]⟩
    · simp [hx, Except.mapError, bind, Except.bind]
  · intro hall
    obtain ⟨reqs, hreqs, hpairs⟩ := mapM_eq_ok_of_forall (l := attrs)
      (f := fun a => (AttributeId.parse (Text.trim a)).mapError Failure.core >>=
        fun id => (pure ⟨n, id⟩ : Except Failure ReadValueId)) fun x hx => by
      obtain ⟨a, ha⟩ := hall x hx
      exact ⟨⟨n, a⟩, by simp [ha, Except.mapError, bind, Except.bind, pure, Except.pure]⟩
    rw [readRequests_batch hn hne hfew, hreqs]
    refine ⟨_, rfl, ?_⟩
    -- each request is the node and the attribute its argument names
    simp only [Context.of, Space.read, AttributeStore.read, List.zipWith_map_right,
      List.zipWith_self]
    rw [List.forall₂_map_right_iff]
    refine hpairs.imp fun x q hq => ?_
    obtain ⟨a, ha, rfl⟩ := request_eq_ok hq
    exact rowAnswers_of_parse ha

/-- `read ns=0;i=084 DisplayName Value` with `UASPACE_CONFIG=c` and no file at `c`: the
settings are the defaults, and the node is the root folder in another spelling. -/
theorem read_invocation_root_folder :
    Invocation.parse ["read", "ns=0;i=084", "DisplayName", "Value"]
        ((⟨[(settingsVariable, "c")]⟩ : Environment).get? settingsVariable) =
      .ok { configPath := some "c", command := .read "ns=0;i=084" ["DisplayName", "Value"] } ∧
    (Settings.load "c" : StateM FileTree (Except Failure Settings)).run' {} = .ok {} ∧
    ["DisplayName", "Value"] ≠ [] := by
  have hparse : Invocation.parse ["read", "ns=0;i=084", "DisplayName", "Value"]
      ((⟨[(settingsVariable, "c")]⟩ : Environment).get? settingsVariable) =
      .ok { configPath := some "c", command := .read "ns=0;i=084" ["DisplayName", "Value"] } := by
    cbv
  have hload : (Settings.load "c" : StateM FileTree (Except Failure Settings)).run' {} =
      .ok {} := by
    cbv
  exact ⟨hparse, hload, (read_invocation _ _ {} _ _ _ {} hparse rfl hload).1⟩

end CommandLine

end AddressSpace
