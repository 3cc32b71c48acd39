/-!
# File paths

A path names a file by its components: the parts between slashes, with empty parts and
`.` dropped, since they name the directory they stand in.

* `Path` — whether it starts at the root, and its components;
* `Path.ofText?` — the path a text names; the empty text names none;
* `Path.text` — the components joined by slashes;
* `Path.join` — a path below another, unless it starts at the root itself.
-/

namespace AddressSpace

/-- A path: from the root or from the working directory, through its components. -/
structure Path where
  /-- Whether the path starts at the root. -/
  absolute : Bool
  /-- The components, `..` included. -/
  parts : List String
deriving DecidableEq

namespace Path

/-- The components of a text: the parts between slashes, without empty parts and `.`. -/
def componentsOf (s : String) : List String :=
  (s.splitOn "/").filter fun p => p ≠ "" ∧ p ≠ "."

/-- The path a text names; the empty text names none. -/
def ofText? (s : String) : Option Path :=
  if s = "" then none else some ⟨s.startsWith "/", componentsOf s⟩

/-- The path as text: its components joined by slashes, after a slash at the root. -/
def text (p : Path) : String :=
  (if p.absolute then "/" else "") ++ "/".intercalate p.parts

/-- The directory that holds the path's last component. -/
def parent (p : Path) : Path := { p with parts := p.parts.dropLast }

/-- The text of `rest` placed below the directory `base`: a `rest` that starts at the root
stands for itself, and one slash divides the two. -/
def joinText (base rest : String) : String :=
  if rest.startsWith "/" then rest
  else if base = "" then rest
  else if base.endsWith "/" then base ++ rest
  else base ++ "/" ++ rest

end Path

end AddressSpace
