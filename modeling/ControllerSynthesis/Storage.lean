/-
# Files

What reading a file can give, and a model of a directory for it: names of files
and folders, with slashes between the folders of a path. A dot in a path stays
where it is, and two dots go back to the folder around.

Key definitions: `Storage.Problem`, `Storage.Reader`, `Storage.Directory.read`.
-/

namespace ControllerSynthesis.Storage

/-- Why the text of a file cannot be read. -/
inductive Problem where
  | notFound
  | notDirectory
  | isDirectory
  /-- The bytes are not UTF-8. -/
  | notText
  /-- Any other reason, in the words of the system. -/
  | other (message : String)
  deriving Repr, DecidableEq

/-- The problem in words. -/
def Problem.message : Problem → String
  | notFound => "No such file or directory (os error 2)"
  | notDirectory => "Not a directory (os error 20)"
  | isDirectory => "Is a directory (os error 21)"
  | notText => "stream did not contain valid UTF-8"
  | other message => message

/-- What the paths of files lead to. -/
abbrev Reader := String → Except Problem ByteArray

/-- The text of the file at a path. -/
def readText (reader : Reader) (path : String) : Except Problem String := do
  match String.fromUTF8? (← reader path) with
  | some text => return text
  | none => throw .notText

/-- Something in a directory, under a name with slashes. -/
inductive Entry where
  | file (bytes : ByteArray)
  | folder

/-- The files and folders of a directory. -/
structure Directory where
  entries : List (List String × Entry)

namespace Directory

/-- The parts of a name or a path. -/
def parts (path : String) : List String :=
  path.splitOn "/"

/-- The directory with these names. -/
def ofNames (entries : List (String × Entry)) : Directory :=
  ⟨entries.map fun e => ((parts e.1).filter fun p => p ≠ "" ∧ p ≠ ".", e.2)⟩

/-- What stands under a name: an entry, or a folder around one. -/
def find? (d : Directory) (name : List String) : Option Entry :=
  match d.entries.find? fun e => e.1 = name with
  | some e => some e.2
  | none => if d.entries.any fun e => name.isPrefixOf e.1 then some .folder else none

/-- Whether a part of a path stays in the folder. -/
def stays (part : String) : Bool :=
  part == "" || part == "."

/-- The bytes that the parts of a path lead to from a folder. -/
def walk (d : Directory) : List String → List String → Except Problem ByteArray
  | _, [] => .error .isDirectory
  | place, part :: rest =>
    if stays part then d.walk place rest
    else if part = ".." then
      if place.isEmpty then .error (if rest.all stays then .isDirectory else .notFound)
      else d.walk place.dropLast rest
    else
      match d.find? (place ++ [part]) with
      | none => .error .notFound
      | some .folder => d.walk (place ++ [part]) rest
      | some (.file bytes) => if rest.isEmpty then .ok bytes else .error .notDirectory

/-- The bytes of the file at a path. A path from the root leads out of the
directory. -/
def read (d : Directory) : Reader := fun path =>
  if path = "" then .error .notFound
  else
    match parts path with
    | "" :: rest => .error (if rest.all stays then .isDirectory else .notFound)
    | all => d.walk [] all

end Directory

end ControllerSynthesis.Storage
