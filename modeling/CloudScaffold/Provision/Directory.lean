/-!
# Work directories

A directory holds files by name, in order of their names. Files are written one after the other; the
first whose name is not that of a plain file ends it.

`Directory.write` is TerraForge's `write_files`, by which a run fills its work directory. Contents are
texts of characters, which every file can hold. A text with half of a surrogate pair has no bytes and is
no such text; that TerraForge fails on writing one is left out.
-/
namespace CloudScaffold.Provision

/-- Files by name, in order of names. -/
abbrev Directory := List (String × String)

/-- Why a file cannot be written. -/
inductive FileFault where
  /-- No name, or a name with a directory in it. -/
  | invalidName (name : String)
  | nulInName
  | nameTooLong
  /-- A name that stands for a directory. -/
  | isDirectory (name : String)
  deriving DecidableEq, Repr

def FileFault.message : FileFault → String
  | invalidName n => s!"Invalid file name '{n}'"
  | nulInName => "embedded null byte"
  | nameTooLong => "The file name is too long"
  | isDirectory n => s!"'{n}' is a directory"

/-- The most bytes that a file name may have. -/
def nameLimit : Nat := 255

/-- The fault of a file name, if it has one. -/
def nameFault? (name : String) : Option FileFault :=
  if name = "" || name.toList.contains '/' then some (.invalidName name)
  else if name.toList.contains '\x00' then some .nulInName
  else if name = "." || name = ".." then some (.isDirectory name)
  else if nameLimit < name.utf8ByteSize then some .nameTooLong
  else none

namespace Directory

/-- Writes a file, over the one of its name if there is one. -/
def put : Directory → String → String → Directory
  | [], name, content => [(name, content)]
  | (n, c) :: r, name, content =>
    if n = name then (n, content) :: r
    else if name < n then (name, content) :: (n, c) :: r
    else (n, c) :: put r name content

/-- Writes files in turn, up to the first fault. -/
def write (d : Directory) : List (String × String) → Except FileFault Directory
  | [] => .ok d
  | (name, content) :: r =>
    match nameFault? name with
    | some e => .error e
    | none => write (d.put name content) r

end Directory

end CloudScaffold.Provision
