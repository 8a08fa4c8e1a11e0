import FantasyConsole.CommandLine.Arguments
import FantasyConsole.CommandLine.Host
import FantasyConsole.Rom.Stamp

/-!
# Stamping a file

The stamping command line reads a payload from a file or the standard input, puts
a header before it and writes the image. Positional arguments name what the input
and output options leave open, in that order.
-/
namespace FantasyConsole.CommandLine

structure StampOptions where
  title : String
  author : String
  version : UInt16
  input : Option String
  output : Option String
  files : List String
  deriving DecidableEq, Repr

/-- A version: a word in hexadecimal. -/
def version? (s : String) : Option UInt16 := (below? 65536 (unsigned? 16 s)).map UInt16.ofNat

namespace StampOptions

def spec : Spec where
  options := [
    ⟨"title", none, some 't', true, fun _ => true⟩,
    ⟨"author", none, some 'c', true, fun _ => true⟩,
    ⟨"version", none, some 'v', true, fun s => (version? s).isSome⟩,
    ⟨"input", none, some 'i', true, fun _ => true⟩,
    ⟨"output", none, some 'o', true, fun _ => true⟩]
  groupSize := 2
  manyGroups := true
  acceptsPositional := fun _ => true

def ofArguments (a : Arguments) : StampOptions where
  title := (a.value? "title").getD ""
  author := (a.value? "author").getD ""
  version := ((a.value? "version").bind version?).getD Header.standardVersion
  input := a.value? "input"
  output := a.value? "output"
  files := a.positionals

end StampOptions

inductive StampError where
  | extraArgument (argument : String)
  | noOutput
  | unreadable (e : FileError)
  | header (e : HeaderError)
  | unwritable (path : String) (e : FileError)
  deriving DecidableEq, Repr

def StampError.message : StampError → String
  | .extraArgument argument => "invalid argument: " ++ argument
  | .noOutput => "output filename is missing"
  | .unreadable e => "can't read input: " ++ e.message
  | .header e => e.message
  | .unwritable path e => "can't write " ++ path ++ ": " ++ e.message

structure Stamped where
  path : String
  pages : Nat
  deriving DecidableEq, Repr

instance : Loggable Stamped where
  topic _ := .stamping
  level _ := .info
  message e := e.path ++ ": " ++ toString e.pages ++ " pages"

/-- The input, if one is named, and the output. -/
def StampOptions.paths (o : StampOptions) : Except StampError (Option String × String) :=
  let (input, rest) :=
    match o.input with
    | some path => (some path, o.files)
    | none => (o.files.head?, o.files.tail)
  let (output, rest) :=
    match o.output with
    | some path => (some path, rest)
    | none => (rest.head?, rest.tail)
  match rest, output with
  | extra :: _, _ => .error (.extraArgument extra)
  | [], none => .error .noOutput
  | [], some output => .ok (input, output)

/-- The payload; no name or a single dash stands for the standard input. -/
def readPayload (input : Option String) : Task (Except FileError (Array UInt8)) := do
  match input with
  | none | some "-" => return .ok (← Task.input)
  | some path => Task.read path

/-- Read, stamp and write. The journal gets a report of a payload that is cut. -/
def stampFile (o : StampOptions) (created : Int64) (j : Journal) :
    Task (Except StampError Unit × Journal) := do
  match o.paths with
  | .error e => return (.error e, j)
  | .ok (input, output) =>
    match ← readPayload input with
    | .error e => return (.error (.unreadable e), j)
    | .ok payload =>
      let j := HeaderInfo.noteCut payload j
      match HeaderInfo.stamp ⟨o.title, o.author, o.version, created⟩ payload with
      | .error e => return (.error (.header e), j)
      | .ok image =>
        match ← Task.write output (.bytes image) with
        | .error e => return (.error (.unwritable output e), j)
        | .ok () => return (.ok (), j.note (Stamped.mk output (image.size / Header.pageSize)))

/-- The stamping command line, with the text of a filter; the result is its exit status. -/
def stampCommand (arguments : List String) (filter : Option String) (created : Int64) :
    Task UInt8 := do
  let j ← Task.journal (filter.getD "warn")
  match readArguments StampOptions.spec arguments with
  | .help => return 0
  | .fault => return 2
  | .done a =>
    match ← stampFile (.ofArguments a) created j with
    | (.ok (), j) =>
      let _ ← Task.flush j
      return 0
    | (.error e, j) =>
      let j ← Task.flush j
      let _ ← Task.flush (j.print .terminal ("ERROR: " ++ e.message))
      return 1

end FantasyConsole.CommandLine
