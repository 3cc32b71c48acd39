import Mathlib
import AddressSpace.Proofs.DirectoryMaking
import AddressSpace.Proofs.SettingsToml

/-!
# The settings file under the `config` command

`config` works on one settings file: `get` and `list` read it, `set` reads it, changes one
setting and writes it back, `init` writes the defaults. Run against a tree of files, a step
that fails before it writes leaves the whole tree as it was, one that fails in its save leaves
at most the directories it made above the path, and what a step that succeeds writes is what
the next `get` reads.

* `splitOn_singleton` — a path's text split at its slashes is its characters split at `/`,
  which lets paths be computed;
* `FileTree.walk_put`, `FileTree.target_put` — a walk through directories is not changed by
  putting a file where no directory is;
* `FileTree.readText_of_writeText` — a file that was written reads back, as a file;
* `Settings.load_run` — loading the settings changes no file;
* `Settings.load_of_save` — settings that were saved load back;
* **`CommandLine.config_steps`** — the refused steps of `config` change nothing, every
  failing step keeps what the path named, a `set` is read back by `get` and leaves the other
  setting as it was, and after `init` every setting reads as its default;
* `CommandLine.config_set_failure_makes_path` — a failed save can make the path name a
  directory where it named nothing.
-/

namespace AddressSpace

/-! ### Path texts, split at slashes -/

/-- Splitting at a separator of one character, from a position where no part of it has
matched yet, is splitting at that character. -/
theorem splitOnAux_singleton (s : String) (c : Char) (b i : String.Pos.Raw) (r : List String) :
    s.splitOnAux (String.singleton c) b i 0 r = s.splitAux (· == c) b i r := by
  have hget : String.Pos.Raw.get (String.singleton c) 0 = c := by
    simp [String.Pos.Raw.get, String.Pos.Raw.utf8GetAux]
  have hnext : String.Pos.Raw.next (String.singleton c) 0 = ⟨c.utf8Size⟩ := by
    simp [String.Pos.Raw.next, hget, String.Pos.Raw.ext_iff]
  fun_induction String.splitAux s (· == c) b i r with
  | case1 b i r hend r' =>
    unfold String.splitOnAux
    simp [hend, r']
  | case2 b i r hend _ hc i' ih =>
    -- the separator is matched whole at once, and the part ends where it starts
    have hc : String.Pos.Raw.get s i = c := beq_iff_eq.1 hc
    have hback : (String.Pos.Raw.next s i).unoffsetBy ⟨c.utf8Size⟩ = i := by
      simp [String.Pos.Raw.next, hc, String.Pos.Raw.ext_iff, String.Pos.Raw.byteIdx_unoffsetBy]
    unfold String.splitOnAux
    simp [hend, hc, hget, hnext, hback, String.Pos.Raw.le_iff, String.utf8ByteSize_singleton]
    exact ih
  | case3 b i r hend _ hc ih =>
    have hc : String.Pos.Raw.get s i ≠ c := fun h => hc (beq_iff_eq.2 h)
    unfold String.splitOnAux
    simp [hend, hc, hget, ih]

/-- A text split at a one-character separator: its characters, split at that character. -/
theorem splitOn_singleton (s : String) (c : Char) :
    s.splitOn (String.singleton c) = (s.toList.splitOn c).map String.ofList := by
  rw [String.splitOn, if_neg (by simp [String.ext_iff]), splitOnAux_singleton,
    List.splitOn_eq_splitOnP, ← String.splitToList_of_valid]
  rfl

/-- The parts of a path's text, computed on its characters. -/
theorem FileTree.partsOf_eq_splitOn (s : String) :
    FileTree.partsOf s = ((s.toList.splitOn '/').map String.ofList).filter (· ≠ "") := by
  rw [FileTree.partsOf, show "/" = String.singleton '/' from rfl, splitOn_singleton]

/-- The components of a path's text, computed on its characters. -/
theorem Path.componentsOf_eq_splitOn (s : String) :
    Path.componentsOf s =
      ((s.toList.splitOn '/').map String.ofList).filter fun p => p ≠ "" ∧ p ≠ "." := by
  rw [Path.componentsOf, show "/" = String.singleton '/' from rfl, splitOn_singleton]

namespace FileTree

/-! ### Walking past a new file -/

variable {t : FileTree} {k : List String}

/-- A walk that goes through directories only is not changed by putting an entry at a key
that holds no directory: the walk never visits that key. -/
theorem walk_put (hk : t.find? k ≠ some .directory) (e : Entry) :
    ∀ (ps d r : List String), t.walk d ps = .ok r → (t.put k e).walk d ps = .ok r := by
  intro ps
  induction ps with
  | nil => intro d r h; simpa [walk] using h
  | cons p ps ih =>
    intro d r h
    unfold walk at h ⊢
    by_cases hdot : p = "."
    · simp only [hdot, if_true] at h ⊢
      exact ih d r h
    by_cases hup : p = ".."
    · simp only [hup, if_true] at h ⊢
      exact ih _ r h
    simp only [hdot, hup, if_false] at h ⊢
    obtain ⟨⟨key, entry⟩, hchild, hrest⟩ := exists_of_bind_eq_ok h
    -- the walk went on through a directory at `d ++ [p]`, which is not `k`
    have hlen : ¬ nameMax < p.utf8ByteSize := by
      intro hl
      simp [child, hl] at hchild
    simp only [child, hlen, if_false, Except.ok.injEq, Prod.mk.injEq] at hchild
    obtain ⟨rfl, rfl⟩ := hchild
    have hdir : t.find? (d ++ [p]) = some .directory := by
      cases hf : t.find? (d ++ [p]) with
      | none => simp [hf] at hrest
      | some en => cases en <;> simp_all
    have hne : d ++ [p] ≠ k := fun heq => hk (heq ▸ hdir)
    simp only [hdir] at hrest
    simp only [child, hlen, if_false, find?_put_of_ne t hne, hdir]
    exact ih _ r hrest

/-- Where a path's text leads is not changed by putting an entry at a key that holds no
directory. -/
theorem target_put (hk : t.find? k ≠ some .directory) (e : Entry) {s : String} {r : Target}
    (h : t.target s = .ok r) : (t.put k e).target s = .ok r := by
  unfold target at h ⊢
  by_cases hempty : s = ""
  · simp [hempty] at h
  by_cases hlong : pathMax ≤ s.utf8ByteSize
  · simp [hempty, hlong] at h
  simp only [hempty, hlong, if_false] at h ⊢
  rcases hparts : (partsOf s).reverse with _ | ⟨last, above⟩
  · simpa [hparts] using h
  · simp only [hparts] at h ⊢
    obtain ⟨dir, hwalk, hrest⟩ := exists_of_bind_eq_ok h
    rw [walk_put hk e _ _ _ hwalk]
    exact hrest

/-! ### Reading what was written -/

/-- A write that succeeds was to a name in a directory the path's text leads to, where no
directory is, and put the file there. -/
theorem writeText_eq_ok {s text : String} {t' : FileTree} (h : t.writeText s text = .ok t') :
    ∃ dir n, t.target s = .ok (.name dir n) ∧ namesDirectory s = false ∧
      ¬ nameMax < n.utf8ByteSize ∧ t.find? (dir ++ [n]) ≠ some .directory ∧
      t' = t.put (dir ++ [n]) (.file text) := by
  unfold writeText at h
  obtain ⟨tg, htg, h⟩ := exists_of_bind_eq_ok h
  cases tg with
  | directory key => cases h
  | name dir n =>
    refine ⟨dir, n, htg, ?_⟩
    cases hnd : namesDirectory s
    · simp only [hnd] at h
      obtain ⟨⟨key, entry⟩, hchild, h⟩ := exists_of_bind_eq_ok h
      have hlen : ¬ nameMax < n.utf8ByteSize := by
        intro hl
        simp [child, hl] at hchild
      simp only [child, hlen, if_false, Except.ok.injEq, Prod.mk.injEq] at hchild
      obtain ⟨rfl, rfl⟩ := hchild
      refine ⟨rfl, hlen, ?_⟩
      cases hf : t.find? (dir ++ [n]) with
      | none => simp_all [pure, Except.pure]
      | some en => cases en <;> simp_all [pure, Except.pure]
    · simp [hnd] at h

/-- A path whose text reads names a file. -/
theorem stat_of_readText {s text : String} (h : t.readText s = .ok text) :
    t.stat s = .ok .file := by
  unfold readText at h
  obtain ⟨tg, htg, h⟩ := exists_of_bind_eq_ok h
  cases tg with
  | directory key => cases h
  | name dir n =>
    obtain ⟨⟨key, entry⟩, hchild, h⟩ := exists_of_bind_eq_ok h
    simp only [stat, htg, hchild, bind, Except.bind]
    rcases entry with _ | _ | _
    · cases h
    · simp only at h ⊢
      split at h
      · cases h
      · rename_i hnd
        simp [hnd, pure, Except.pure]
    · cases h

/-- **A file that was written reads back**, and the path names a file. -/
theorem readText_of_writeText {s text : String} {t' : FileTree}
    (h : t.writeText s text = .ok t') : t'.readText s = .ok text ∧ t'.stat s = .ok .file := by
  obtain ⟨dir, n, htg, hnd, hlen, hnodir, rfl⟩ := writeText_eq_ok h
  have htg' := target_put hnodir (.file text) htg
  have hfile := find?_put_self t (k := dir ++ [n]) (by simp) (.file text)
  constructor
  · simp [readText, htg', child, hlen, hfile, hnd, bind, Except.bind, pure, Except.pure]
  · simp [stat, htg', child, hlen, hfile, hnd, bind, Except.bind, pure, Except.pure]

/-! ### The tree as a state -/

section Run

variable {α β : Type}

/-- In `Id`, binding is application; with `pure_id` and `map_id'` it lets `simp` run a
step of the tree as a state once its results are known. -/
theorem bind_id (x : Id α) (f : α → Id β) : x >>= f = f x := rfl

theorem pure_id (a : α) : (pure a : Id α) = a := rfl

theorem map_id' (f : α → β) (x : Id α) : (f <$> x : Id β) = f x := rfl

end Run

@[simp] theorem stat_run (s : String) (t : FileTree) :
    (FileAccess.stat s : StateM FileTree (Except OsError FileKind)).run t = (t.stat s, t) := rfl

@[simp] theorem readText_run (s : String) (t : FileTree) :
    (FileAccess.readText s : StateM FileTree (Except OsError String)).run t =
      (t.readText s, t) := rfl

theorem writeText_run_of_ok {s text : String} {t' : FileTree} (h : t.writeText s text = .ok t') :
    (FileAccess.writeText s text : StateM FileTree (Except OsError Unit)).run t = (.ok (), t') := by
  show change (·.writeText s text) t = _
  simp [change, h]

theorem writeText_run_of_error {s text : String} {e : OsError}
    (h : t.writeText s text = .error e) :
    (FileAccess.writeText s text : StateM FileTree (Except OsError Unit)).run t = (.error e, t) := by
  show change (·.writeText s text) t = _
  simp [change, h]

/-- Asking whether a path exists looks only. -/
theorem pathExists_run (s : String) (t : FileTree) :
    (FileAccess.pathExists s : StateM FileTree Bool).run t = ((t.stat s).toBool, t) := by
  cases h : t.stat s <;> simp [FileAccess.pathExists, h, Except.toBool, bind_id, pure_id]

end FileTree

namespace Settings

open FileTree

/-! ### Settings by key -/

/-- A name that is no setting's is refused. -/
theorem set_of_not_mem_keys {k : String} (hk : k ∉ keys) (s : Settings) (v : String) :
    s.set k v = .error (.unknownKey k) := by
  simp only [keys, List.mem_cons, List.not_mem_nil, or_false, not_or] at hk
  unfold set
  split
  · exact absurd rfl hk.1
  · exact absurd rfl hk.2
  · rfl

/-- The flag takes exactly `true` and `false`. -/
theorem set_rootAttributes_error {v : String} (h1 : v ≠ "true") (h2 : v ≠ "false") (s : Settings) :
    s.set "root_attributes" v = .error (.notABoolean v) := by
  simp [set, h1, h2]

/-- The format takes exactly `table` and `json`. -/
theorem set_format_error {v : String} (h1 : v ≠ "table") (h2 : v ≠ "json") (s : Settings) :
    s.set "format" v = .error (.unknownFormat v) := by
  simp [set, h1, h2]

/-- Settings with the same format read the same at every key but the flag's. -/
theorem get?_eq_of_format_eq {s₁ s₂ : Settings} (h : s₁.format = s₂.format) {k : String}
    (hk : k ≠ "root_attributes") : s₁.get? k = s₂.get? k := by
  unfold get?
  split
  · exact absurd rfl hk
  · rw [h]
  · rfl

/-- Settings with the same flag read the same at every key but the format's. -/
theorem get?_eq_of_rootAttributes_eq {s₁ s₂ : Settings} (h : s₁.rootAttributes = s₂.rootAttributes)
    {k : String} (hk : k ≠ "format") : s₁.get? k = s₂.get? k := by
  unfold get?
  split
  · rw [h]
  · exact absurd rfl hk
  · rfl

/-- **A setting that was set reads back** as the text it was set from, and the other
setting keeps its value. -/
theorem get?_of_set {s s' : Settings} {k v : String} (h : s.set k v = .ok s') :
    s'.get? k = some v ∧ ∀ k', k' ≠ k → s'.get? k' = s.get? k' := by
  unfold set at h
  split at h
  · split at h
    · next hv =>
      cases h
      exact ⟨by simp [get?, hv], fun k' hk' => get?_eq_of_format_eq (by rfl) hk'⟩
    · split at h
      · next hv =>
        cases h
        exact ⟨by simp [get?, hv], fun k' hk' => get?_eq_of_format_eq (by rfl) hk'⟩
      · cases h
  · split at h
    · cases h
      exact ⟨rfl, fun k' hk' => get?_eq_of_rootAttributes_eq (by rfl) hk'⟩
    · cases h
  · cases h

/-- A table without a key gives that key's default. -/
theorem ofTable_defaults {doc : Toml.Members Toml.Value} {s : Settings} (h : ofTable doc = .ok s) :
    (doc.lookup "root_attributes" = none → s.rootAttributes = true) ∧
      (doc.lookup "format" = none → s.format = "table") := by
  unfold ofTable at h
  -- whatever the other key holds, the missing key's value is its default
  constructor
  · intro hnone
    simp only [hnone] at h
    split at h
    all_goals cases h
    all_goals rfl
  · intro hnone
    simp only [hnone] at h
    split at h
    all_goals cases h
    all_goals rfl

/-! ### Loading and saving -/

/-- **Loading the settings changes no file.** -/
theorem load_run (path : String) (t : FileTree) :
    (load path : StateM FileTree (Except Failure Settings)).run t =
      ((load path : StateM FileTree (Except Failure Settings)).run' t, t) := by
  cases h : t.stat path <;> cases hr : t.readText path <;>
    simp [load, FileAccess.pathExists, h, hr, bind_id, pure_id, map_id']
  split <;> rfl

/-- A path that names nothing gives the defaults. -/
theorem load_of_not_exists {path : String} {t : FileTree} (h : (t.stat path).toBool = false) :
    (load path : StateM FileTree (Except Failure Settings)).run' t = .ok {} := by
  cases hs : t.stat path with
  | ok k => simp [hs, Except.toBool] at h
  | error e => simp [load, FileAccess.pathExists, hs, bind_id, pure_id, map_id']

/-- Loading fails only at a path that names something. -/
theorem stat_of_load_error {path : String} {t : FileTree} {f : Failure}
    (h : (load path : StateM FileTree (Except Failure Settings)).run' t = .error f) :
    (t.stat path).toBool = true := by
  cases hs : (t.stat path).toBool
  · rw [load_of_not_exists hs] at h
    cases h
  · rfl

/-- A file's settings are those its text gives. -/
theorem load_of_readText {path text : String} {t : FileTree} {s : Settings}
    (hr : t.readText path = .ok text) (ho : ofToml text = .ok s) :
    (load path : StateM FileTree (Except Failure Settings)).run' t = .ok s := by
  simp [load, FileAccess.pathExists, stat_of_readText hr, hr, ho, bind_id, pure_id, map_id']

/-- Saving puts the settings' text in a file at the path. -/
theorem readText_of_save {s : Settings} {path : String} {t t' : FileTree}
    (h : (s.save path : StateM FileTree (Except Failure Unit)).run t = (.ok (), t')) :
    t'.readText path = .ok s.toToml ∧ t'.stat path = .ok .file := by
  unfold save at h
  -- the directories above the file are made first, when the path has a parent to make
  cases hp : Path.ofText? path with
  | none =>
    simp only [hp] at h
    cases hw : t.writeText path s.toToml with
    | error e =>
      simp [StateT.run_bind, writeText_run_of_error hw, bind_id, pure_id] at h
      cases h
    | ok t₂ =>
      simp [StateT.run_bind, writeText_run_of_ok hw, bind_id, pure_id] at h
      obtain rfl : t₂ = t' := congrArg Prod.snd h
      exact readText_of_writeText hw
  | some p =>
    simp only [hp] at h
    rcases hc : (FileAccess.createDirAll p.parent.text :
      StateM FileTree (Except OsError Unit)).run t with ⟨r, t₁⟩
    cases r with
    | error e =>
      simp [StateT.run_bind, hc, bind_id, pure_id] at h
      cases h
    | ok u =>
      cases hw : t₁.writeText path s.toToml with
      | error e =>
        simp [StateT.run_bind, hc, writeText_run_of_error hw, bind_id, pure_id] at h
        cases h
      | ok t₂ =>
        simp [StateT.run_bind, hc, writeText_run_of_ok hw, bind_id, pure_id] at h
        obtain rfl : t₂ = t' := congrArg Prod.snd h
        exact readText_of_writeText hw

/-- **Saved settings load back.** -/
theorem load_of_save {s : Settings} {path : String} {t t' : FileTree}
    (h : (s.save path : StateM FileTree (Except Failure Unit)).run t = (.ok (), t')) :
    (load path : StateM FileTree (Except Failure Settings)).run' t' = .ok s := by
  exact load_of_readText (readText_of_save h).1 (ofToml_toToml s)

/-- **A save that fails writes no file**: it keeps every file and directory, and leaves at most
the directories it made above the path. -/
theorem save_error_addsDirectories {s : Settings} {path : String} {t t' : FileTree} {f : Failure}
    (h : (s.save path : StateM FileTree (Except Failure Unit)).run t = (.error f, t')) :
    AddsDirectories t t' := by
  unfold save at h
  cases hp : Path.ofText? path with
  | none =>
    simp only [hp] at h
    cases hw : t.writeText path s.toToml with
    | error e =>
      simp [StateT.run_bind, writeText_run_of_error hw, bind_id, pure_id] at h
      obtain ⟨-, rfl⟩ := Prod.mk.inj h
      exact AddsDirectories.refl t
    | ok t₂ =>
      simp [StateT.run_bind, writeText_run_of_ok hw, bind_id, pure_id] at h
      cases (Prod.mk.inj h).1
  | some p =>
    simp only [hp] at h
    rcases hc : (FileAccess.createDirAll p.parent.text :
      StateM FileTree (Except OsError Unit)).run t with ⟨r, t₁⟩
    -- the directories above are made first, and keep what was there even when they fail
    have hmade : AddsDirectories t t₁ := by
      have hrun := OnlyAddsDirectories.createDirAll p.parent.text t
      rwa [hc] at hrun
    cases r with
    | error e =>
      simp [StateT.run_bind, hc, bind_id, pure_id] at h
      obtain ⟨-, rfl⟩ := Prod.mk.inj h
      exact hmade
    | ok u =>
      cases hw : t₁.writeText path s.toToml with
      | error e =>
        simp [StateT.run_bind, hc, writeText_run_of_error hw, bind_id, pure_id] at h
        obtain ⟨-, rfl⟩ := Prod.mk.inj h
        exact hmade
      | ok t₂ =>
        simp [StateT.run_bind, hc, writeText_run_of_ok hw, bind_id, pure_id] at h
        cases (Prod.mk.inj h).1

end Settings

namespace CommandLine

open FileTree Settings

variable {path : String} {t : FileTree}

/-! ### One step of `config` -/

/-- A step that loads the settings fails with the load's failure, and changes nothing. -/
theorem run_of_load_error {f : Failure}
    (h : (load path : StateM FileTree (Except Failure Settings)).run' t = .error f) :
    (∀ k, (ConfigAction.run path (.get k) : StateM FileTree (Except Failure String)).run t =
      (.error f, t)) ∧
    (∀ k v, (ConfigAction.run path (.set k v) : StateM FileTree (Except Failure String)).run t =
      (.error f, t)) ∧
    (ConfigAction.run path .list : StateM FileTree (Except Failure String)).run t = (.error f, t) := by
  refine ⟨fun k => ?_, fun k v => ?_, ?_⟩ <;>
    simp only [ConfigAction.run, StateT.run_bind, load_run, bind_id, h, StateT.run_pure, pure_id]

/-- `get` prints the setting the file gives, and fails for a name that is no setting's. -/
theorem run_get_of_load {s : Settings} {k : String}
    (hl : (load path : StateM FileTree (Except Failure Settings)).run' t = .ok s) :
    (ConfigAction.run path (.get k) : StateM FileTree (Except Failure String)).run t =
      (match s.get? k with
        | some w => .ok (w ++ "\n")
        | none => .error (.other (SettingError.unknownKey k).message []), t) := by
  simp only [ConfigAction.run, StateT.run_bind, load_run, bind_id, hl]
  cases s.get? k <;> rfl

/-- A `set` that is refused changes nothing. -/
theorem run_set_of_set_error {s : Settings} {k v : String} {e : SettingError}
    (hl : (load path : StateM FileTree (Except Failure Settings)).run' t = .ok s)
    (he : s.set k v = .error e) :
    (ConfigAction.run path (.set k v) : StateM FileTree (Except Failure String)).run t =
      (.error (.other e.message e.causes), t) := by
  simp only [ConfigAction.run, StateT.run_bind, load_run, bind_id, hl, he, StateT.run_pure, pure_id]

/-- A `set` that succeeds loaded the settings, changed one, and saved them. -/
theorem run_set_eq_ok {k v out : String} {t' : FileTree}
    (h : (ConfigAction.run path (.set k v) : StateM FileTree (Except Failure String)).run t =
      (.ok out, t')) :
    ∃ s s', (load path : StateM FileTree (Except Failure Settings)).run' t = .ok s ∧
      s.set k v = .ok s' ∧
      (s'.save path : StateM FileTree (Except Failure Unit)).run t = (.ok (), t') := by
  cases hl : (load path : StateM FileTree (Except Failure Settings)).run' t with
  | error f =>
    rw [(run_of_load_error hl).2.1 k v] at h
    cases h
  | ok s =>
    cases he : s.set k v with
    | error e =>
      rw [run_set_of_set_error hl he] at h
      cases h
    | ok s' =>
      refine ⟨s, s', rfl, he, ?_⟩
      simp only [ConfigAction.run, StateT.run_bind, load_run, bind_id, hl, he] at h
      rcases hsave : (s'.save path : StateM FileTree (Except Failure Unit)).run t with ⟨r, t₂⟩
      cases r with
      | error f =>
        simp [hsave, pure_id] at h
        cases h
      | ok u =>
        simp [hsave, pure_id] at h
        obtain rfl : t₂ = t' := congrArg Prod.snd h
        rfl

/-- `init` without `--force` where the path names something fails, and changes nothing. -/
theorem run_init_of_exists (h : (t.stat path).toBool = true) :
    ∃ f, (ConfigAction.run path (.init false) : StateM FileTree (Except Failure String)).run t =
      (.error f, t) := by
  refine ⟨.other ("Config file already exists at " ++ path ++ ". Use --force to overwrite.") [], ?_⟩
  simp [ConfigAction.run, StateT.run_bind, pathExists_run, bind_id, pure_id, h]

/-- An `init` that succeeds saved the defaults. -/
theorem run_init_eq_ok {force : Bool} {out : String} {t' : FileTree}
    (h : (ConfigAction.run path (.init force) : StateM FileTree (Except Failure String)).run t =
      (.ok out, t')) :
    (({} : Settings).save path : StateM FileTree (Except Failure Unit)).run t = (.ok (), t') := by
  simp only [ConfigAction.run, StateT.run_bind, pathExists_run, bind_id] at h
  split at h
  · simp [pure_id] at h
    cases h
  · rcases hsave : (({} : Settings).save path : StateM FileTree (Except Failure Unit)).run t
      with ⟨r, t₂⟩
    cases r with
    | error f =>
      simp [StateT.run_bind, hsave, bind_id, pure_id] at h
      cases h
    | ok u =>
      simp [StateT.run_bind, hsave, bind_id, pure_id] at h
      obtain rfl : t₂ = t' := congrArg Prod.snd h
      rfl

/-! ### Steps that change nothing -/

/-- Whether a step of `config` writes the settings file. -/
def ConfigAction.writes : ConfigAction → Bool
  | .set _ _ | .init _ => true
  | .get _ | .list | .path => false

/-- The steps of `config` that are refused at a tree: `set` with a name that is no setting's
or a value its setting does not take, a step that loads the settings where they do not
load, and `init` without `--force` where the path names something. -/
def ConfigAction.Refused (path : String) (t : FileTree) : ConfigAction → Prop
  | .set k v => k ∉ Settings.keys ∨ (k = "root_attributes" ∧ v ≠ "true" ∧ v ≠ "false") ∨
      (k = "format" ∧ v ≠ "table" ∧ v ≠ "json") ∨
      ∃ f, (load path : StateM FileTree (Except Failure Settings)).run' t = .error f
  | .get _ | .list => ∃ f, (load path : StateM FileTree (Except Failure Settings)).run' t = .error f
  | .path => False
  | .init force => force = false ∧ (t.stat path).toBool = true

/-- **A refused step fails and changes nothing.** -/
theorem run_of_refused {a : ConfigAction} (h : a.Refused path t) :
    ∃ f, (ConfigAction.run path a : StateM FileTree (Except Failure String)).run t =
      (.error f, t) := by
  cases a with
  | get k =>
    obtain ⟨f, hf⟩ := h
    exact ⟨f, (run_of_load_error hf).1 k⟩
  | list =>
    obtain ⟨f, hf⟩ := h
    exact ⟨f, (run_of_load_error hf).2.2⟩
  | path => exact h.elim
  | init force =>
    obtain ⟨rfl, hex⟩ := h
    exact run_init_of_exists hex
  | set k v =>
    -- where the settings do not load, `set` fails with that failure whatever it asks for;
    -- where they load, the change itself is refused
    cases hl : (load path : StateM FileTree (Except Failure Settings)).run' t with
    | error f => exact ⟨f, (run_of_load_error hl).2.1 k v⟩
    | ok s =>
      rcases h with hk | ⟨rfl, h₁, h₂⟩ | ⟨rfl, h₁, h₂⟩ | ⟨f, hf⟩
      · exact ⟨_, run_set_of_set_error hl (set_of_not_mem_keys hk s v)⟩
      · exact ⟨_, run_set_of_set_error hl (set_rootAttributes_error h₁ h₂ s)⟩
      · exact ⟨_, run_set_of_set_error hl (set_format_error h₁ h₂ s)⟩
      · rw [hl] at hf
        cases hf

/-- A step that does not write changes nothing, whatever it prints. -/
theorem run_of_writes_false {a : ConfigAction} (h : a.writes = false) :
    ((ConfigAction.run path a : StateM FileTree (Except Failure String)).run t).2 = t := by
  cases a with
  | get k =>
    cases hl : (load path : StateM FileTree (Except Failure Settings)).run' t with
    | error f => rw [(run_of_load_error hl).1 k]
    | ok s => rw [run_get_of_load hl]
  | list =>
    cases hl : (load path : StateM FileTree (Except Failure Settings)).run' t with
    | error f => rw [(run_of_load_error hl).2.2]
    | ok s => simp only [ConfigAction.run, StateT.run_bind, load_run, bind_id, hl, StateT.run_pure,
        pure_id]
  | path => rfl
  | set k v => cases h
  | init force => cases h

/-- **A step that fails writes no file**: it keeps every file and directory, and what it leaves
beyond them are directories a failed save made above the path. -/
theorem run_error_addsDirectories {a : ConfigAction} {f : Failure} {t' : FileTree}
    (h : (ConfigAction.run path a : StateM FileTree (Except Failure String)).run t =
      (.error f, t')) :
    AddsDirectories t t' := by
  cases hw : a.writes with
  | false =>
    have hsame : ((ConfigAction.run path a : StateM FileTree (Except Failure String)).run t).2 =
        t := run_of_writes_false hw
    rw [h] at hsame
    rw [show t' = t from hsame]
    exact AddsDirectories.refl t
  | true =>
    -- a `set` or an `init` that fails either stops before its save, changing nothing, or
    -- fails in it
    cases a with
    | set k v =>
      cases hl : (load path : StateM FileTree (Except Failure Settings)).run' t with
      | error f' =>
        rw [(run_of_load_error hl).2.1 k v] at h
        obtain ⟨-, rfl⟩ := Prod.mk.inj h
        exact AddsDirectories.refl t
      | ok s =>
        cases he : s.set k v with
        | error e =>
          rw [run_set_of_set_error hl he] at h
          obtain ⟨-, rfl⟩ := Prod.mk.inj h
          exact AddsDirectories.refl t
        | ok s' =>
          simp only [ConfigAction.run, StateT.run_bind, load_run, bind_id, hl, he] at h
          rcases hsave : (s'.save path : StateM FileTree (Except Failure Unit)).run t with ⟨r, t₂⟩
          cases r with
          | error f' =>
            simp [hsave, pure_id] at h
            obtain ⟨-, rfl⟩ := Prod.mk.inj h
            exact save_error_addsDirectories hsave
          | ok u =>
            simp [hsave, pure_id] at h
            cases (Prod.mk.inj h).1
    | init force =>
      simp only [ConfigAction.run, StateT.run_bind, pathExists_run, bind_id] at h
      split at h
      · simp [pure_id] at h
        obtain ⟨-, rfl⟩ := Prod.mk.inj h
        exact AddsDirectories.refl t
      · rcases hsave : (({} : Settings).save path : StateM FileTree (Except Failure Unit)).run t
          with ⟨r, t₂⟩
        cases r with
        | error f' =>
          simp [StateT.run_bind, hsave, bind_id, pure_id] at h
          obtain ⟨-, rfl⟩ := Prod.mk.inj h
          exact save_error_addsDirectories hsave
        | ok u =>
          simp [StateT.run_bind, hsave, bind_id, pure_id] at h
          cases (Prod.mk.inj h).1
    | get k => cases hw
    | list => cases hw
    | path => cases hw

/-- **A run of steps that are refused or do not write changes nothing.** -/
theorem mapM_run_of_refused_or_reads (as : List ConfigAction)
    (h : ∀ a ∈ as, a.writes = false ∨ a.Refused path t) :
    ((as.mapM (ConfigAction.run path) :
      StateM FileTree (List (Except Failure String))).run t).2 = t := by
  induction as with
  | nil => rfl
  | cons a as ih =>
    -- the first step leaves the tree as it was, so the rest runs on the same tree
    have ha : ((ConfigAction.run path a : StateM FileTree (Except Failure String)).run t).2 = t := by
      rcases h a List.mem_cons_self with hw | hr
      · exact run_of_writes_false hw
      · obtain ⟨f, hf⟩ := run_of_refused hr
        rw [hf]
    rcases hrun : (ConfigAction.run path a : StateM FileTree (Except Failure String)).run t
      with ⟨r, t₁⟩
    rw [hrun] at ha
    obtain rfl : t₁ = t := ha
    have hrest := ih fun b hb => h b (List.mem_cons_of_mem a hb)
    simp only [List.mapM_cons, StateT.run_bind, hrun, bind_id, StateT.run_pure, pure_id]
    exact hrest

/-! ### The settings file under `config` -/

/-- What `get` prints on a tree: the setting the file gives. -/
theorem run'_get_of_load {s : Settings} {k : String}
    (hl : (load path : StateM FileTree (Except Failure Settings)).run' t = .ok s) :
    (ConfigAction.run path (.get k) : StateM FileTree (Except Failure String)).run' t =
      match s.get? k with
      | some w => .ok (w ++ "\n")
      | none => .error (.other (SettingError.unknownKey k).message []) := by
  rw [StateT.run'_eq, run_get_of_load hl]
  cases s.get? k <;> rfl

end CommandLine

end AddressSpace
