import FantasyConsole.Journal
import FantasyConsole.Image.Encoding

/-!
# Host tasks

A command line is a finite tree of requests to its host: read a file, read the
standard input, write a file, show journal entries. A desk is a host without a
machine: a directory, the standard input and all that was shown.
-/
namespace FantasyConsole.CommandLine

/-- What a file holds: bytes, or a picture that is encoded when it is stored. -/
inductive Content where
  | bytes (b : Array UInt8)
  | picture (format : PictureFormat) (p : Picture)
  deriving DecidableEq

def Content.toBytes : Content → Array UInt8
  | .bytes b => b
  | .picture format p => format.encode p

inductive Task (α : Type) where
  | done (a : α)
  | readFile (path : String) (next : Except FileError (Array UInt8) → Task α)
  | readInput (next : Array UInt8 → Task α)
  | writeFile (path : String) (content : Content) (next : Except FileError Unit → Task α)
  | show (entries : Array Entry) (next : Task α)

namespace Task

variable {α β : Type}

def bind : Task α → (α → Task β) → Task β
  | .done a, k => k a
  | .readFile path next, k => .readFile path fun r => (next r).bind k
  | .readInput next, k => .readInput fun b => (next b).bind k
  | .writeFile path content next, k => .writeFile path content fun r => (next r).bind k
  | .show entries next, k => .show entries (next.bind k)

instance : Monad Task where
  pure := .done
  bind := bind

def read (path : String) : Task (Except FileError (Array UInt8)) := .readFile path .done

def input : Task (Array UInt8) := .readInput .done

def write (path : String) (content : Content) : Task (Except FileError Unit) :=
  .writeFile path content .done

/-- Show the entries of a journal and go on with it emptied. -/
def flush (j : Journal) : Task Journal := .show j.entries (.done { j with entries := #[] })

/-- An empty journal with the filter of a text, after complaints about the text are shown. -/
def journal (filter : String) : Task Journal :=
  let (filter, complaints) := LogFilter.read filter
  flush (complaints.foldl (fun j c => j.print .terminal c.message) (.empty filter))

end Task

structure Desk where
  directory : Directory Content
  input : Array UInt8
  shown : Array Entry

/-- Carry out a task on a desk. Files elsewhere count as empty. -/
def Task.runOn {α : Type} : Task α → Desk → α × Desk
  | .done a, d => (a, d)
  | .readFile path next, d =>
    match d.directory.read path with
    | .ok (.content c) => (next (.ok c.toBytes)).runOn d
    | .ok (.device .input) => (next (.ok d.input)).runOn { d with input := #[] }
    | .ok _ => (next (.ok #[])).runOn d
    | .error e => (next (.error e)).runOn d
  | .readInput next, d => (next d.input).runOn { d with input := #[] }
  | .writeFile path content next, d =>
    match d.directory.write path content with
    | .ok directory => (next (.ok ())).runOn { d with directory }
    | .error e => (next (.error e)).runOn d
  | .show entries next, d => next.runOn { d with shown := d.shown ++ entries }

end FantasyConsole.CommandLine
