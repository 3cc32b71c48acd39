import Mathlib
import AddressSpace.Files.Tree
import AddressSpace.Proofs.ReadCommand

/-!
# Making directories only adds directories

Run against a tree of files, making a directory, with or without the missing directories
above it, keeps every file and directory that was there and adds nothing but directories, even
when it fails part of the way. A write that fails changes nothing.

* `FileTree.find?_put_self`, `FileTree.find?_put_of_ne` — putting an entry changes what is
  found at its key only;
* `FileTree.AddsDirectories` — one tree keeps what another holds, and holds directories beyond;
* `FileTree.AddsDirectories.stat`, `FileTree.AddsDirectories.readText` — a path that named a
  file or a directory names the same in such a tree, and a file reads the same;
* `FileTree.OnlyAddsDirectories` — a run on the tree that does so from every tree, closed under
  `pure`, `bind` and `if`;
* `FileTree.makeDir_addsDirectories`, `FileTree.OnlyAddsDirectories.createDirAll` — one
  directory, and a directory with those above it.
-/

namespace AddressSpace

namespace FileTree

/-! ### Putting an entry -/

theorem lookup_cons_ite (a k' : List String) (b : Entry) (l : List (List String × Entry)) :
    ((a, b) :: l).lookup k' = if k' = a then some b else l.lookup k' := by
  by_cases h : k' = a
  · simp [List.lookup, h]
  · simp [List.lookup, beq_false_of_ne h, h]

/-- Replacing the entries of one key changes the lookup of that key only. -/
theorem lookup_map_replace (l : List (List String × Entry)) (k k' : List String) (e : Entry) :
    (l.map fun p => if p.1 = k then (k, e) else p).lookup k' =
      if k' = k then (l.lookup k).map fun _ => e else l.lookup k' := by
  induction l with
  | nil => split <;> rfl
  | cons p l ih =>
    obtain ⟨a, b⟩ := p
    by_cases ha : a = k
    · subst ha
      by_cases hk : k' = a <;> simp [hk, lookup_cons_ite, ih]
    · by_cases hk : k' = a
      · subst hk
        simp [ha]
      · by_cases hk' : k' = k
        · subst hk'
          simp [ha, lookup_cons_ite, ih, Ne.symm ha]
        · simp [ha, hk, hk', lookup_cons_ite, ih]

theorem find?_put_self (t : FileTree) {k : List String} (hk : k ≠ []) (e : Entry) :
    (t.put k e).find? k = some e := by
  simp only [find?, hk, if_false]
  unfold put
  split
  · next hsome =>
    obtain ⟨v, hv⟩ := Option.isSome_iff_exists.1 hsome
    simp [lookup_map_replace, hv]
  · next hnone =>
    simp only [Option.isSome_iff_ne_none, ne_eq, Decidable.not_not] at hnone
    simp [List.lookup_append, hnone]

theorem find?_put_of_ne (t : FileTree) {k k' : List String} (hne : k' ≠ k) (e : Entry) :
    (t.put k e).find? k' = t.find? k' := by
  unfold find?
  split
  · rfl
  unfold put
  split
  · simp [lookup_map_replace, hne]
  · cases h : t.entries.lookup k' <;> simp [List.lookup_append, h, lookup_cons_ite, hne]

/-! ### Trees that only gain directories -/

/-- `t'` keeps every file and directory of `t`, and what it holds beyond them are
directories. -/
structure AddsDirectories (t t' : FileTree) : Prop where
  keeps : ∀ k e, t.find? k = some e → t'.find? k = some e
  dirs : ∀ k e, t'.find? k = some e → t.find? k = none → e = .directory

namespace AddsDirectories

theorem refl (t : FileTree) : AddsDirectories t t :=
  ⟨fun _ _ h => h, fun k e h hnone => by rw [hnone] at h; cases h⟩

theorem trans {t₁ t₂ t₃ : FileTree} (h₁ : AddsDirectories t₁ t₂) (h₂ : AddsDirectories t₂ t₃) :
    AddsDirectories t₁ t₃ := by
  refine ⟨fun k e h => h₂.keeps k e (h₁.keeps k e h), fun k e h hnone => ?_⟩
  -- what `t₃` holds at `k` was either in `t₂` already, and then made by the first run, or
  -- made by the second
  cases hmid : t₂.find? k with
  | none => exact h₂.dirs k e h hmid
  | some e' =>
    have he : e' = e := Option.some.inj ((h₂.keeps k e' hmid).symm.trans h)
    subst he
    exact h₁.dirs k e' hmid hnone

/-! ### What a path names stays -/

variable {t t' : FileTree}

theorem child (h : AddsDirectories t t') {dir k : List String} {n : String} {e : Entry}
    (hc : t.child dir n = .ok (k, some e)) : t'.child dir n = .ok (k, some e) := by
  unfold FileTree.child at hc ⊢
  split at hc
  · cases hc
  · next hlen =>
    simp only [Except.ok.injEq, Prod.mk.injEq] at hc
    obtain ⟨rfl, hfind⟩ := hc
    simp [hlen, h.keeps _ _ hfind]

/-- A step on from a name that was found goes the same way once directories are added. -/
theorem child_bind {α : Type} (h : AddsDirectories t t') {dir : List String} {n : String}
    {f g : List String × Option Entry → Except OsError α} {a : α}
    (hnone : ∀ k, f (k, none) ≠ .ok a)
    (hfg : ∀ k e, f (k, some e) = .ok a → g (k, some e) = .ok a)
    (hb : (t.child dir n >>= f) = .ok a) : (t'.child dir n >>= g) = .ok a := by
  obtain ⟨⟨k, e⟩, hc, hb⟩ := exists_of_bind_eq_ok hb
  cases e with
  | none => exact absurd hb (hnone k)
  | some e =>
    rw [child h hc]
    exact hfg k e hb

/-- A walk through directories that were there goes the same way once directories are added. -/
theorem walk (h : AddsDirectories t t') {dir d ps : List String} (hw : t.walk dir ps = .ok d) :
    t'.walk dir ps = .ok d := by
  induction ps generalizing dir with
  | nil => exact hw
  | cons p rest ih =>
    unfold FileTree.walk at hw ⊢
    split
    · next hdot =>
      simp only [hdot, if_true] at hw
      exact ih hw
    · next hdot =>
      simp only [hdot, if_false] at hw
      split
      · next hup =>
        simp only [hup, if_true] at hw
        exact ih hw
      · next hup =>
        simp only [hup, if_false] at hw
        -- a name on the way was a directory of `t`, and so is one of `t'`
        refine child_bind h (fun _ hk => by cases hk) (fun k e he => ?_) hw
        cases e with
        | file text => cases he
        | directory => exact ih he

theorem target (h : AddsDirectories t t') {s : String} {r : Target} (ht : t.target s = .ok r) :
    t'.target s = .ok r := by
  unfold FileTree.target at ht ⊢
  split at ht
  · cases ht
  · next hs =>
    rw [if_neg hs]
    split at ht
    · cases ht
    · next hmax =>
      rw [if_neg hmax]
      split at ht
      · exact ht
      · obtain ⟨dir, hw, ht⟩ := exists_of_bind_eq_ok ht
        rw [walk h hw]
        exact ht

/-- Looking a path up and going on from what it leads to goes the same way once directories
are added. -/
theorem target_bind {α : Type} (h : AddsDirectories t t') {s : String}
    {f g : Target → Except OsError α} {a : α} (hfg : ∀ r, f r = .ok a → g r = .ok a)
    (hb : (t.target s >>= f) = .ok a) : (t'.target s >>= g) = .ok a := by
  obtain ⟨r, ht, hb⟩ := exists_of_bind_eq_ok hb
  rw [target h ht]
  exact hfg r hb

/-- A path that named a file or a directory names the same once directories are added. -/
theorem stat (h : AddsDirectories t t') {s : String} {kind : FileKind}
    (hs : t.stat s = .ok kind) : t'.stat s = .ok kind := by
  unfold FileTree.stat at hs ⊢
  refine target_bind h (fun r hr => ?_) hs
  cases r with
  | directory key => exact hr
  | name dir n => exact child_bind h (fun _ hk => by cases hk) (fun k e he => he) hr

/-- A file reads the same once directories are added. -/
theorem readText (h : AddsDirectories t t') {s text : String} (hr : t.readText s = .ok text) :
    t'.readText s = .ok text := by
  unfold FileTree.readText at hr ⊢
  refine target_bind h (fun r hr => ?_) hr
  cases r with
  | directory key => exact hr
  | name dir n => exact child_bind h (fun _ hk => by cases hk) (fun k e he => he) hr

end AddsDirectories

/-- A directory put where nothing was adds a directory. -/
theorem addsDirectories_put_directory {t : FileTree} {k : List String} (hk : t.find? k = none) :
    AddsDirectories t (t.put k .directory) := by
  refine ⟨fun k' e h => ?_, fun k' e h hnone => ?_⟩
  · have hne : k' ≠ k := by
      rintro rfl
      rw [hk] at h
      cases h
    rwa [find?_put_of_ne t hne]
  · by_cases hne : k' = k
    · subst hne
      by_cases htop : k' = []
      · simp [find?, htop] at h
        exact h.symm
      · rw [find?_put_self t htop] at h
        exact (Option.some.inj h).symm
    · rw [find?_put_of_ne t hne, hnone] at h
      cases h

/-- A directory made on the tree adds a directory. -/
theorem makeDir_addsDirectories {t t' : FileTree} {s : String} (h : t.makeDir s = .ok t') :
    AddsDirectories t t' := by
  unfold makeDir at h
  obtain ⟨tg, -, h⟩ := exists_of_bind_eq_ok h
  cases tg with
  | directory key => cases h
  | name dir n =>
    obtain ⟨⟨key, entry⟩, hchild, h⟩ := exists_of_bind_eq_ok h
    have hlen : ¬ nameMax < n.utf8ByteSize := by
      intro hl
      simp [child, hl] at hchild
    simp only [child, hlen, if_false, Except.ok.injEq, Prod.mk.injEq] at hchild
    obtain ⟨rfl, rfl⟩ := hchild
    cases hf : t.find? (dir ++ [n]) with
    | some e => simp [hf] at h
    | none =>
      simp only [hf] at h
      cases h
      exact addsDirectories_put_directory hf

/-! ### Runs that only add directories -/

/-- A run on the tree that, from any tree, only adds directories. -/
def OnlyAddsDirectories {α : Type} (x : StateM FileTree α) : Prop :=
  ∀ t, AddsDirectories t (x.run t).2

namespace OnlyAddsDirectories

variable {α β : Type}

theorem pure (a : α) : OnlyAddsDirectories (Pure.pure a : StateM FileTree α) :=
  fun t => AddsDirectories.refl t

theorem bind {x : StateM FileTree α} {f : α → StateM FileTree β} (hx : OnlyAddsDirectories x)
    (hf : ∀ a, OnlyAddsDirectories (f a)) : OnlyAddsDirectories (x >>= f) := by
  intro t
  rw [StateT.run_bind]
  exact (hx t).trans (hf _ _)

theorem ite {c : Prop} [Decidable c] {x y : StateM FileTree α} (hx : OnlyAddsDirectories x)
    (hy : OnlyAddsDirectories y) : OnlyAddsDirectories (if c then x else y) := by
  split
  · exact hx
  · exact hy

theorem stat (s : String) :
    OnlyAddsDirectories (FileAccess.stat s : StateM FileTree (Except OsError FileKind)) :=
  fun t => AddsDirectories.refl t

theorem makeDir (s : String) :
    OnlyAddsDirectories (FileAccess.makeDir s : StateM FileTree (Except OsError Unit)) := by
  intro t
  show AddsDirectories t (change (·.makeDir s) t).2
  unfold change
  split
  · next t' h => exact makeDir_addsDirectories h
  · exact AddsDirectories.refl t

theorem isDirectory (s : String) :
    OnlyAddsDirectories (FileAccess.isDirectory s : StateM FileTree Bool) := by
  unfold FileAccess.isDirectory
  refine bind (stat s) fun r => ?_
  split <;> exact pure _

/-- Making a directory, and on a missing directory above it running `makeAbove` first, only
adds directories when `makeAbove` does. -/
theorem makeOrAbove (here : String) {makeAbove : StateM FileTree (Except OsError Unit)}
    (habove : OnlyAddsDirectories makeAbove) :
    OnlyAddsDirectories (FileAccess.makeOrAbove here makeAbove) := by
  unfold FileAccess.makeOrAbove
  -- each branch is built from the two attempts at `here`, the run above, and a look at `here`
  have hlook : ∀ e : OsError, OnlyAddsDirectories (do
      if ← FileAccess.isDirectory here then Pure.pure (Except.ok ())
      else Pure.pure (Except.error e) : StateM FileTree (Except OsError Unit)) :=
    fun e => bind (isDirectory here) fun _ => ite (pure _) (pure _)
  refine bind (makeDir here) fun r => ?_
  split
  · exact pure _
  · refine bind habove fun r' => ?_
    split
    · exact pure _
    · refine bind (makeDir here) fun r'' => ?_
      split
      · exact pure _
      · exact hlook _
  · exact hlook _

theorem createReversed (absolute : Bool) (ps : List String) :
    OnlyAddsDirectories
      (FileAccess.createReversed absolute ps : StateM FileTree (Except OsError Unit)) := by
  induction ps with
  | nil => exact pure _
  | cons last above ih => exact makeOrAbove _ ih

/-- Making a directory and the missing ones above it only adds directories, whether it
succeeds or not. -/
theorem createDirAll (text : String) :
    OnlyAddsDirectories (FileAccess.createDirAll text : StateM FileTree (Except OsError Unit)) := by
  unfold FileAccess.createDirAll
  split
  · exact pure _
  · exact makeOrAbove _ (createReversed _ _)

end OnlyAddsDirectories

end FileTree

end AddressSpace
