import CloudScaffold.Text.Parts
/-!
# Folders

A folder is the working directory of a command: the files and directories below it, by the parts of
their paths. A path is made of parts that are neither empty nor a single dot; two dots lead to the
directory above. Outside the folder nothing is taken to be there but the directories above it, and
what is written there is kept apart from the new files of the folder.

This stands for the file system that TerraForge's `load_values_file` reads from and the `write_files` of
its command line writes to.
-/
namespace CloudScaffold.Command

structure Path where
  /-- What makes a path absolute: one slash or two. -/
  root : String := ""
  parts : List String
  deriving DecidableEq, Repr

namespace Path

/-- The path that a text writes. -/
def ofText (text : String) : Path where
  root := match text.toList with
    | '/' :: '/' :: '/' :: _ => "/"
    | '/' :: '/' :: _ => "//"
    | '/' :: _ => "/"
    | _ => ""
  parts := ((Text.partsAt '/' text.toList).map String.ofList).filter fun p => p != "" && p != "."

/-- A path as text; the path without parts is a dot. -/
def text (p : Path) : String :=
  if p.root = "" && p.parts.isEmpty then "." else p.root ++ "/".intercalate p.parts

/-- The path of a file in a directory. -/
def child (p : Path) (name : String) : Path := { p with parts := p.parts ++ [name] }

end Path

/-- What is wrong with a path. -/
inductive PathFault where
  | missing
  | isDirectory
  | notDirectory
  /-- Something else is there already. -/
  | occupied
  | nameTooLong
  deriving DecidableEq, Repr

def PathFault.message : PathFault → String
  | missing => "No such file or directory"
  | isDirectory => "Is a directory"
  | notDirectory => "Not a directory"
  | occupied => "File exists"
  | nameTooLong => "File name too long"

/-- The place of a file or a directory: the names that lead to it from the folder. A place outside
the folder starts with a slash or with two dots for each directory up. -/
abbrev Place := List String

namespace Place

/-- The place that a path starts from. -/
def start (p : Path) : Place := if p.root = "" then [] else ["/"]

/-- The place that a part of a path leads to. -/
def next (here : Place) (part : String) : Place :=
  if part = ".." then
    match here.getLast? with
    | none | some ".." => here ++ [".."]
    | some "/" => here
    | some _ => here.dropLast
  else here ++ [part]

def isOutside : Place → Bool
  | "/" :: _ | ".." :: _ => true
  | _ => false

/-- Whether a place is the folder itself or one of the directories above it. -/
def isAbove (place : Place) : Bool := place = ["/"] || place.all (· == "..")

end Place

structure Folder where
  files : List (Place × String) := []
  directories : List Place := []
  deriving DecidableEq, Repr

namespace Folder

/-- The most bytes that the name of a file may have. -/
def nameLimit : Nat := 255

/-- The most bytes that a path may have. -/
def pathLimit : Nat := 4095

/-- The folder of some files, with the directories that they need. -/
def ofFiles (files : List (String × String)) : Folder where
  files := files.map fun f => ((Path.ofText f.1).parts, f.2)

def isFile (f : Folder) (place : Place) : Bool := (f.files.lookup place).isSome

/-- Whether a place is a directory: one above the folder, one that was made, or one with something
in it. -/
def isDirectory (f : Folder) (place : Place) : Bool :=
  place.isAbove || f.directories.contains place
    || (f.files.map (·.1) ++ f.directories).any fun p =>
      p != place && place.isPrefixOf p

/-- The place that parts lead to. What is on the way must be a directory. -/
def walk (f : Folder) (here : Place) : List String → Except PathFault Place
  | [] => .ok here
  | p :: ps =>
    if f.isFile here then .error .notDirectory
    else if !f.isDirectory here then .error .missing
    else if nameLimit < p.utf8ByteSize then .error .nameTooLong
    else walk f (here.next p) ps

/-- The place of a path. -/
def locate (f : Folder) (p : Path) : Except PathFault Place :=
  if pathLimit < p.text.utf8ByteSize then .error .nameTooLong
  else f.walk (.start p) p.parts

/-- The text of a file. -/
def read (f : Folder) (p : Path) : Except PathFault String := do
  let place ← f.locate p
  match f.files.lookup place with
  | some text => .ok text
  | none => .error (if f.isDirectory place then .isDirectory else .missing)

/-- Sets the text at a place. -/
def put (place : Place) (text : String) : List (Place × String) → List (Place × String)
  | [] => [(place, text)]
  | (p, t) :: r => if p = place then (p, text) :: r else (p, t) :: put place text r

/-- Writes a file, over the one that is there. -/
def write (f : Folder) (p : Path) (text : String) : Except PathFault Folder := do
  let place ← f.locate p
  if f.isDirectory place then .error .isDirectory
  else .ok { f with files := put place text f.files }

/-- Makes the directories that are missing on the way of parts. -/
def makeAll (f : Folder) (here : Place) : List String → Except PathFault Folder
  | [] => .ok f
  | p :: ps =>
    let there := here.next p
    if nameLimit < p.utf8ByteSize then .error .nameTooLong
    else if f.isFile there then .error (if ps.isEmpty then .occupied else .notDirectory)
    else if f.isDirectory there then makeAll f there ps
    else makeAll { f with directories := f.directories ++ [there] } there ps

/-- Makes a directory and those above it, unless they are there. -/
def makeDirectory (f : Folder) (p : Path) : Except PathFault Folder :=
  if pathLimit < p.text.utf8ByteSize then .error .nameTooLong
  else f.makeAll (.start p) p.parts

/-- The files that a folder has and another has not, by path, in order of paths. -/
def newFiles (f before : Folder) : List (String × String) :=
  let fresh := f.files.filter fun e => !e.1.isOutside && !before.isFile e.1
  (fresh.map fun e => ("/".intercalate e.1, e.2)).mergeSort fun a b => decide (a.1 ≤ b.1)

end Folder

end CloudScaffold.Command
