import AddressSpace.Files.Path

/-!
# File access

What the command line needs of the files around it: to ask what a path names, to read and
write a text file, and to make one directory. A monad that can do these four things is an
instance of `FileAccess`; the program runs against any such monad.

* `OsError` — why an operation on a path failed, with the operating system's wording;
* `FileAccess` — the four primitive operations;
* `pathExists`, `isDirectory`;
* `createDirAll` — make a directory and every missing directory above it: make the
  directory as written; if a directory above is missing, make those first and try again;
  a path that is already a directory is no failure.
-/

namespace AddressSpace

/-- Why an operation on a path failed. -/
inductive OsError where
  /-- A component of the path is missing. -/
  | notFound
  /-- The path exists already. -/
  | alreadyExists
  /-- A component that must be a directory is a file. -/
  | notADirectory
  /-- The path is a directory where a file is needed. -/
  | isADirectory
  /-- A name of the path, or the whole path, is too long. -/
  | nameTooLong
  /-- Any other failure, with its full text. -/
  | other (text : String)
deriving DecidableEq

/-- The operating system's sentence for a failure, with its error number. -/
def OsError.message : OsError → String
  | .notFound => "No such file or directory (os error 2)"
  | .alreadyExists => "File exists (os error 17)"
  | .notADirectory => "Not a directory (os error 20)"
  | .isADirectory => "Is a directory (os error 21)"
  | .nameTooLong => "File name too long (os error 36)"
  | .other text => text

/-- What a path names. -/
inductive FileKind where
  | file
  | directory
deriving DecidableEq

/-- A monad that can look at, read, write and make files and directories. -/
class FileAccess (m : Type → Type) where
  /-- What a path names. -/
  stat : String → m (Except OsError FileKind)
  /-- The text of a file. -/
  readText : String → m (Except OsError String)
  /-- Make or replace a file with a text. -/
  writeText : String → String → m (Except OsError Unit)
  /-- Make one directory, whose parent exists. -/
  makeDir : String → m (Except OsError Unit)

namespace FileAccess

variable {m : Type → Type} [Monad m] [FileAccess m]

/-- Whether a path names a file or a directory. -/
def pathExists (p : String) : m Bool := do
  match ← stat p with
  | .ok _ => pure true
  | .error _ => pure false

/-- Whether a path names a directory. -/
def isDirectory (p : String) : m Bool := do
  match ← stat p with
  | .ok .directory => pure true
  | _ => pure false

/-- Make the directory `here`. When a directory above it is missing, run `makeAbove`, which
makes those, and try once more; a path that is a directory already is no failure. -/
def makeOrAbove (here : String) (makeAbove : m (Except OsError Unit)) :
    m (Except OsError Unit) := do
  match ← makeDir here with
  | .ok () => pure (.ok ())
  | .error .notFound =>
    match ← makeAbove with
    | .error e => pure (.error e)
    | .ok () =>
      match ← makeDir here with
      | .ok () => pure (.ok ())
      | .error e => if ← isDirectory here then pure (.ok ()) else pure (.error e)
  | .error e => if ← isDirectory here then pure (.ok ()) else pure (.error e)

/-- Make the directory whose components are `reversed` read from the last, and the
missing ones above it. -/
def createReversed (absolute : Bool) : List String → m (Except OsError Unit)
  | [] => pure (.ok ())
  | last :: above =>
    makeOrAbove (Path.text ⟨absolute, (last :: above).reverse⟩) (createReversed absolute above)

/-- Make a directory and every missing directory above it. The first attempt names the
directory by the text as given, so that a last component `.` or a final slash still asks
the system about the path as written; the directories above are named by their
components. The empty text names nothing to make. -/
def createDirAll (text : String) : m (Except OsError Unit) :=
  match Path.ofText? text with
  | none => pure (.ok ())
  | some p => makeOrAbove text (createReversed p.absolute p.parent.parts.reverse)

/-- Write a file, making the directories above it first. -/
def writeCreating (p : String) (text : String) : m (Except OsError Unit) := do
  match Path.ofText? p with
  | none => writeText p text
  | some path =>
    match ← createDirAll path.parent.text with
    | .error e => pure (.error e)
    | .ok () => writeText p text

end FileAccess

end AddressSpace
