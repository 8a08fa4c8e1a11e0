import FantasyConsole.Files.Surroundings
import FantasyConsole.Path

/-!
# Files and their faults

A host reads and writes files by path. The model of a directory holds files by
name and no directories; around it is a tree of which only the usual things are
known, and what is written there is not seen again. Faults are those a file system
reports, found name by name along a path.
-/
namespace FantasyConsole

inductive FileError where
  | notFound
  | noDevice
  | denied
  | notDirectory
  | isDirectory
  | noSpace
  | nameTooLong
  | other (text : String)
  deriving DecidableEq, Repr

def FileError.message : FileError → String
  | .notFound => "No such file or directory (os error 2)"
  | .noDevice => "No such device or address (os error 6)"
  | .denied => "Permission denied (os error 13)"
  | .notDirectory => "Not a directory (os error 20)"
  | .isDirectory => "Is a directory (os error 21)"
  | .noSpace => "No space left on device (os error 28)"
  | .nameTooLong => "File name too long (os error 36)"
  | .other text => text

/-- What reading a file gives, which may lie elsewhere. -/
inductive Source (α : Type) where
  | content (a : α)
  | device (f : DeviceFile)
  | elsewhere

structure Directory (α : Type) where
  files : List (String × α)

namespace Directory

variable {α : Type}

/-- What a path leads to: a name in the directory or in one around it, where something may be known
to be. -/
inductive Target where
  | file (name : String)
  | around (directory : List String) (known : Option Known)
  | directory (place : Place)
  deriving DecidableEq, Repr

def find? (d : Directory α) (name : String) : Option α := (d.files.find? (·.1 == name)).map (·.2)

def start (p : Path) : Place := if p.absolute then .under [] else .here

/-- What a name means in a place. -/
def target (place : Place) (name : String) : Except FileError Target :=
  if name = "." then .ok (.directory place)
  else if name = ".." then .ok (.directory place.above)
  else if name.utf8ByteSize > Path.nameLimit then .error .nameTooLong
  else
    match place with
    | .here => .ok (.file name)
    | .under names =>
      match Known.find? names name with
      | some (.directory place) => .ok (.directory place)
      | known => .ok (.around names known)

def enter (d : Directory α) (place : Place) (name : String) : Except FileError Place := do
  match ← target place name with
  | .directory place => return place
  | .file name => .error (if (d.find? name).isSome then .notDirectory else .notFound)
  | .around _ known => .error (if known.isSome then .notDirectory else .notFound)

/-- The directory that holds the last name of a path. -/
def place (d : Directory α) (p : Path) : Except FileError Place :=
  p.directories.foldlM d.enter (start p)

/-- The names of a path, if it is neither empty nor too long. -/
def resolve (path : String) : Except FileError Path :=
  if path = "" then .error .notFound
  else if path.utf8ByteSize ≥ Path.sizeLimit then .error .nameTooLong
  else .ok (Path.ofString path)

/-- What a path leads to, where a path of slashes leads to the root. -/
def locate (d : Directory α) (p : Path) : Except FileError Target := do
  let place ← d.place p
  match p.last? with
  | none => return .directory place
  | some name => target place name

def source (d : Directory α) : Target → Except FileError (Source α)
  | .directory _ => .error .isDirectory
  | .file name => ((d.find? name).map .content).elim (.error .notFound) .ok
  | .around _ none => .error .notFound
  | .around _ (some (.device f)) => .ok (.device f)
  | .around _ (some _) => .ok .elsewhere

/-- Read a file. A slash after the name of a file asks for a directory. -/
def read (d : Directory α) (path : String) : Except FileError (Source α) := do
  let p ← resolve path
  let s ← d.source (← d.locate p)
  if p.slashAtEnd then .error .notDirectory
  else
    match s with
    | .device .terminal => .error .noDevice
    | s => .ok s

/-- Where no files are made. -/
def refusal? (directory : List String) : Option FileError :=
  match directory with
  | "proc" :: _ => some .notFound
  | "sys" :: _ | "dev" :: "pts" :: _ => some .denied
  | _ => none

/-- Write a file, which need not exist. No file is made of a name before a slash. -/
def write (d : Directory α) (path : String) (content : α) : Except FileError (Directory α) := do
  let p ← resolve path
  let _ ← d.place p
  if p.slashAtEnd then .error .isDirectory
  else
    match ← d.locate p with
    | .directory _ => .error .isDirectory
    | .file name => .ok ⟨d.files.filter (·.1 != name) ++ [(name, content)]⟩
    | .around _ (some (.device .full)) => .error .noSpace
    | .around _ (some (.device .terminal)) => .error .noDevice
    | .around _ (some _) => .ok d
    | .around directory none =>
      match refusal? directory with
      | some e => .error e
      | none => .ok d

end Directory

end FantasyConsole
