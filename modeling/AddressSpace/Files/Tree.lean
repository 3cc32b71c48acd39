import AddressSpace.Files.Access

/-!
# A tree of files in memory

A working directory as a value: each file or directory under it by its components, in
the order they were made. Operations on it follow the rules of a file system:

* a path's text is walked part by part from the top: every part before the last must
  name a directory that exists (`..` leaves it for the one above, which at the top is the
  top itself, and `.` stays), so `missing/..` and `file/.` name nothing;
* a name longer than 255 bytes, or a path text of 4096 bytes or more, is refused;
* a text that ends in a slash, `.` or `..` names a directory: no file is made there, and a
  file there is not found as a file;
* a directory is never read or overwritten as a file, and a directory is made only where
  nothing is.

* `FileTree` and its `find?`;
* `FileTree.target` — where a path's text leads;
* `FileTree.stat`, `readText`, `writeText`, `makeDir` — the four operations, each with the
  failure a file system gives;
* the `FileAccess` instance of `StateM FileTree`.
-/

namespace AddressSpace

/-- What a path of the tree holds. -/
inductive Entry where
  | file (text : String)
  | directory
deriving DecidableEq

/-- Files and directories by their components, the top directory left out. -/
structure FileTree where
  /-- Every file and directory below the top, in the order they were made. -/
  entries : List (List String × Entry) := []

/-- Where a path's text leads. -/
inductive Target where
  /-- A directory reached by the walk itself: the text ends in `.` or `..`, or has no name. -/
  | directory (key : List String)
  /-- The last name of the text, in the directory that the walk reached. -/
  | name (dir : List String) (last : String)

namespace FileTree

/-- The longest name a directory holds, in bytes. -/
def nameMax : Nat := 255

/-- Path texts of this many bytes or more are refused. -/
def pathMax : Nat := 4096

/-- The parts of a path's text between its slashes, empty ones left out. -/
def partsOf (s : String) : List String := (s.splitOn "/").filter (· ≠ "")

/-- Whether a path's text ends in a slash, which only a directory may stand before. -/
def namesDirectory (s : String) : Bool := s.endsWith "/"

/-- What the tree holds at a key; the top is a directory. -/
def find? (t : FileTree) (k : List String) : Option Entry :=
  if k = [] then some .directory else t.entries.lookup k

/-- Look a name up in a directory: its key and what is there, or a name too long. -/
def child (t : FileTree) (dir : List String) (n : String) :
    Except OsError (List String × Option Entry) :=
  if nameMax < n.utf8ByteSize then .error .nameTooLong else .ok (dir ++ [n], t.find? (dir ++ [n]))

/-- Walk from a directory through parts of a path, each of which must lead to a directory. -/
def walk (t : FileTree) : List String → List String → Except OsError (List String)
  | dir, [] => .ok dir
  | dir, p :: rest =>
    if p = "." then walk t dir rest
    else if p = ".." then walk t dir.dropLast rest
    else do
      let (k, e) ← t.child dir p
      match e with
      | some .directory => walk t k rest
      | some (.file _) => .error .notADirectory
      | none => .error .notFound

/-- Where a path's text leads, once every part before the last is walked. -/
def target (t : FileTree) (s : String) : Except OsError Target :=
  if s = "" then .error .notFound
  else if pathMax ≤ s.utf8ByteSize then .error .nameTooLong
  else
    match (partsOf s).reverse with
    | [] => .ok (.directory [])
    | last :: above => do
      let dir ← t.walk [] above.reverse
      if last = "." then pure (.directory dir)
      else if last = ".." then pure (.directory dir.dropLast)
      else pure (.name dir last)

/-- Put an entry at a key, in place of what is there. -/
def put (t : FileTree) (k : List String) (e : Entry) : FileTree :=
  if (t.entries.lookup k).isSome then
    ⟨t.entries.map fun p => if p.1 = k then (k, e) else p⟩
  else ⟨t.entries ++ [(k, e)]⟩

/-- What a path names. -/
def stat (t : FileTree) (s : String) : Except OsError FileKind := do
  match ← t.target s with
  | .directory _ => pure .directory
  | .name dir n =>
    let (_, e) ← t.child dir n
    match e with
    | some (.file _) => if namesDirectory s then .error .notADirectory else pure .file
    | some .directory => pure .directory
    | none => .error .notFound

/-- The text of a file. -/
def readText (t : FileTree) (s : String) : Except OsError String := do
  match ← t.target s with
  | .directory _ => .error .isADirectory
  | .name dir n =>
    let (_, e) ← t.child dir n
    match e with
    | some (.file text) => if namesDirectory s then .error .notADirectory else pure text
    | some .directory => .error .isADirectory
    | none => .error .notFound

/-- Make or replace a file. A text that ends in a slash names a directory, so no file is
made there, whatever is there. -/
def writeText (t : FileTree) (s text : String) : Except OsError FileTree := do
  match ← t.target s with
  | .directory _ => .error .isADirectory
  | .name dir n =>
    if namesDirectory s then .error .isADirectory
    else
      let (k, e) ← t.child dir n
      match e with
      | some .directory => .error .isADirectory
      | _ => pure (t.put k (.file text))

/-- Make a directory whose parent exists. -/
def makeDir (t : FileTree) (s : String) : Except OsError FileTree := do
  match ← t.target s with
  | .directory _ => .error .alreadyExists
  | .name dir n =>
    let (k, e) ← t.child dir n
    match e with
    | some _ => .error .alreadyExists
    | none => pure (t.put k .directory)

/-- Run a change of the tree, keeping the tree as it was when the change fails. -/
def change (f : FileTree → Except OsError FileTree) : StateM FileTree (Except OsError Unit) :=
  fun t => match f t with
    | .ok t' => (.ok (), t')
    | .error e => (.error e, t)

instance : FileAccess (StateM FileTree) where
  stat s := fun t => (t.stat s, t)
  readText s := fun t => (t.readText s, t)
  writeText s text := change (·.writeText s text)
  makeDir s := change (·.makeDir s)

end FileTree

end AddressSpace
