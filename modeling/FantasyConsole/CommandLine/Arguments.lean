/-!
# Arguments

Arguments are taken from left to right and the first fault decides. An option has
a long or a short name and takes a value, attached or as the next argument; a flag
takes none. Neither may be repeated. A value that stands alone must not look like
an option, but a single dash is a value. After a double dash everything is
positional. Asking for help ends the reading.
-/
namespace FantasyConsole.CommandLine

/-- An option, named by `key` in the result. -/
structure OptionSpec where
  key : String
  long : Option String
  short : Option Char
  takesValue : Bool
  accepts : String → Bool

structure Spec where
  options : List OptionSpec
  /-- The most positional arguments in one uninterrupted group. -/
  groupSize : Nat
  /-- Whether a new group may follow an option. -/
  manyGroups : Bool
  acceptsPositional : String → Bool

structure Arguments where
  options : List (String × String)
  positionals : List String
  deriving DecidableEq, Repr

inductive Reading where
  | done (a : Arguments)
  | help
  | fault
  deriving DecidableEq, Repr

namespace Arguments

def value? (a : Arguments) (key : String) : Option String :=
  (a.options.find? (·.1 == key)).map (·.2)

def hasFlag (a : Arguments) (key : String) : Bool := (a.value? key).isSome

end Arguments

/-- Where the reading stands: what was read, the option that waits for its value, the size of the
open group of positional arguments, and whether only positional arguments follow. -/
structure Reader where
  read : Arguments
  waiting : Option OptionSpec
  group : Nat
  positionalOnly : Bool

namespace Reader

def start : Reader := ⟨⟨[], []⟩, none, 0, false⟩

def take (r : Reader) (o : OptionSpec) (value : String) : Option Reader :=
  if r.read.hasFlag o.key || !o.accepts value then none
  else some { r with read.options := r.read.options ++
    [(o.key, value)], waiting := none, group := 0 }

def takePositional (s : Spec) (r : Reader) (value : String) : Option Reader :=
  let fits := r.group < s.groupSize && (s.manyGroups || r.read.positionals.length < s.groupSize)
  if fits && s.acceptsPositional value then
    some { r with read.positionals := r.read.positionals ++ [value], group := r.group + 1 }
  else none

def await (r : Reader) (o : OptionSpec) : Option Reader :=
  some { r with waiting := some o, group := 0 }

end Reader

/-- The outcome of one argument: go on, or end with help or a fault. -/
inductive Taken where
  | on (r : Reader)
  | help
  | fault

def Taken.of : Option Reader → Taken
  | some r => .on r
  | none => .fault

/-- A long option without its two dashes, with its value if there is an equals sign. -/
def splitLong (body : List Char) : String × Option String :=
  let name := body.takeWhile (· != '=')
  (String.ofList name,
   if name.length < body.length then some (String.ofList (body.drop (name.length + 1))) else none)

def takeLong (s : Spec) (r : Reader) (body : List Char) : Taken :=
  let (name, attached) := splitLong body
  if name = "help" then (if attached.isNone then .help else .fault)
  else
    match s.options.find? (·.long == some name) with
    | none => .fault
    | some o =>
      match o.takesValue, attached with
      | true, some value => .of (r.take o value)
      | true, none => .of (r.await o)
      | false, some _ => .fault
      | false, none => .of (r.take o "")

/-- Short options without the dash: flags may stand together, and the rest of the argument after an
option is its value, less one leading equals sign. -/
def takeShort (s : Spec) (r : Reader) : List Char → Taken
  | [] => .on r
  | c :: rest =>
    if c = 'h' then .help
    else
      match s.options.find? (·.short == some c) with
      | none => .fault
      | some o =>
        if o.takesValue then
          match rest with
          | [] => .of (r.await o)
          | '=' :: value => .of (r.take o (String.ofList value))
          | value => .of (r.take o (String.ofList value))
        else
          match r.take o "" with
          | none => .fault
          | some r => takeShort s r rest

def takeArgument (s : Spec) (r : Reader) (argument : String) : Taken :=
  let plain :=
    match r.waiting with
    | some o => .of (r.take o argument)
    | none => .of (r.takePositional s argument)
  if r.positionalOnly then plain
  else
    match argument.toList with
    | ['-'] => plain
    | '-' :: body =>
      if r.waiting.isSome then .fault
      else
        match body with
        | ['-'] => .on { r with positionalOnly := true }
        | '-' :: name => takeLong s r name
        | letters => takeShort s r letters
    | _ => plain

/-- Take all arguments. An option may not be left waiting. -/
def readFrom (s : Spec) (r : Reader) : List String → Reading
  | [] => if r.waiting.isSome then .fault else .done r.read
  | argument :: rest =>
    match takeArgument s r argument with
    | .on r => readFrom s r rest
    | .help => .help
    | .fault => .fault

def readArguments (s : Spec) (arguments : List String) : Reading := readFrom s .start arguments

def digitValue (c : Char) : Nat :=
  if '0' ≤ c && c ≤ '9' then c.toNat - 48
  else if 'a' ≤ c && c ≤ 'z' then c.toNat - 87
  else if 'A' ≤ c && c ≤ 'Z' then c.toNat - 55
  else 36

/-- A number in the given base: at least one digit, nothing else. -/
def digits? (base : Nat) (cs : List Char) : Option Nat :=
  if cs.isEmpty || cs.any (fun c => base ≤ digitValue c) then none
  else some (cs.foldl (fun n c => n * base + digitValue c) 0)

/-- A number that may follow a plus sign. -/
def unsigned? (base : Nat) (s : String) : Option Nat :=
  match s.toList with
  | '+' :: cs => digits? base cs
  | cs => digits? base cs

def below? (bound : Nat) (n : Option Nat) : Option Nat :=
  n.bind fun n => if n < bound then some n else none

end FantasyConsole.CommandLine
