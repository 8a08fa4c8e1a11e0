import FantasyConsole.CommandLine.Arguments
import FantasyConsole.CommandLine.Host
import FantasyConsole.Frame
import FantasyConsole.Rom.Header

/-!
# Playing an image

The console's command line boots a ROM image, or a separate boot image with the
ROM behind the pager, renders frames and may save the last one as a picture.
-/
namespace FantasyConsole.CommandLine

structure PlayOptions where
  rom : Option String
  bios : Option String
  entry : Option UInt16
  stepLimit : Option UInt64
  headless : Bool
  frames : Nat
  screenshot : Option String
  deriving DecidableEq, Repr

/-- Remove all copies of a pair of letters from the front. -/
def dropPairs (a b : Char) : List Char → List Char
  | x :: y :: rest => if x = a && y = b then dropPairs a b rest else x :: y :: rest
  | cs => cs

/-- A word in hexadecimal; marks 0x and then marks 0X may stand before it. -/
def hexWord? (s : String) : Option UInt16 :=
  (below? 65536 (unsigned? 16 (String.ofList (dropPairs '0' 'X' (dropPairs '0' 'x' s.toList))))).map
    UInt16.ofNat

/-- A count of frames below 2^32; a minus sign is taken before zero. -/
def frames? (s : String) : Option Nat :=
  match s.toList with
  | '-' :: cs => below? 1 (digits? 10 cs)
  | _ => below? 4294967296 (unsigned? 10 s)

def stepLimit? (s : String) : Option UInt64 :=
  (below? 18446744073709551616 (unsigned? 10 s)).map UInt64.ofNat

namespace PlayOptions

def isPath (s : String) : Bool := s != ""

def spec : Spec where
  options := [
    ⟨"bios", some "bios", none, true, isPath⟩,
    ⟨"entry", some "entry", none, true, fun s => (hexWord? s).isSome⟩,
    ⟨"step-limit", some "step-limit", none, true, fun s => (stepLimit? s).isSome⟩,
    ⟨"headless", some "headless", none, false, fun _ => true⟩,
    ⟨"frames", some "frames", none, true, fun s => (frames? s).isSome⟩,
    ⟨"screenshot", some "screenshot", none, true, isPath⟩]
  groupSize := 1
  manyGroups := false
  acceptsPositional := isPath

def ofArguments (a : Arguments) : PlayOptions where
  rom := a.positionals.head?
  bios := a.value? "bios"
  entry := (a.value? "entry").bind hexWord?
  stepLimit := (a.value? "step-limit").bind stepLimit?
  headless := a.hasFlag "headless"
  frames := ((a.value? "frames").bind frames?).getD 60
  screenshot := a.value? "screenshot"

def romPath (o : PlayOptions) : String := o.rom.getD "boot.rom"

end PlayOptions

inductive Failure where
  | file (e : FileError)
  | picture (e : PictureError)
  | endless
  deriving DecidableEq, Repr

def Failure.message : Failure → String
  | .file e => "io error: " ++ e.message
  | .picture e => e.message
  | .endless => "a program did not end"

inductive PlayEvent where
  | romRead (path : String) (size : Nat)
  | romMissing (path : String) (e : FileError)
  | described (h : Header)
  | checksumMismatch (sum : UInt16)
  | headerSkipped
  | bootRanOff
  | noWindow (title : String)
  | rendered (frames : Nat)
  | saved (path : String)
  | failed (e : Failure)

instance : Loggable PlayEvent where
  topic
    | .romRead .. => .rom
    | .saved _ => .screenshot
    | _ => .play
  level
    | .romMissing .. | .checksumMismatch _ | .bootRanOff | .noWindow _ => .warn
    | .headerSkipped => .debug
    | .failed _ => .error
    | _ => .info
  message
    | .romRead path size => "rom: " ++ path ++ " (" ++ toString size ++ " bytes)"
    | .romMissing path e =>
      "rom: " ++ path ++ ": " ++ (Failure.file e).message ++ "; pager has no image"
    | .described h =>
      "rom: \"" ++ h.title ++ "\" by \"" ++ h.author ++ "\", version " ++ hexWord h.version ++ ", "
        ++ toString h.pageCount.toNat ++ " pages"
    | .checksumMismatch sum => "rom: checksum mismatch (header says " ++ hexWord sum ++ ")"
    | .headerSkipped => "rom carries a header; skipping page 0"
    | .bootRanOff =>
      "boot code did not halt (exit code " ++ toString Outcome.ranOff.code.toNat ++ ")"
    | .noWindow title => title ++ ": built without the display feature, running headless"
    | .rendered frames => "rendered " ++ toString frames ++ " frames"
    | .saved path => "screenshot saved to " ++ path
    | .failed e => e.message

def windowTitle (path : String) : String :=
  "B6X " ++ hexWord Header.standardVersion ++ " - " ++ (Path.fileName? path).getD ""

def describe (rom : Rom) (j : Journal) : Journal :=
  match rom.readHeader j with
  | (none, j) => j
  | (some h, j) =>
    let j := j.note (PlayEvent.described h)
    if h.verify rom.bytes then j else j.note (PlayEvent.checksumMismatch h.checksum)

/-- Read the ROM image. Behind a boot image it may be missing. -/
def openRom (o : PlayOptions) (j : Journal) : Task (Except Failure (Option Rom) × Journal) := do
  match ← Task.read o.romPath with
  | .ok bytes =>
    return (.ok (some ⟨bytes⟩), describe ⟨bytes⟩ (j.note (PlayEvent.romRead o.romPath bytes.size)))
  | .error e =>
    if o.bios.isSome then return (.ok none, j.note (PlayEvent.romMissing o.romPath e))
    else return (.error (.file e), j)

/-- Read the boot image if there is one, and find the entry point. -/
def openImage (o : PlayOptions) (rom : Option Rom) (j : Journal) :
    Task (Except Failure (Array UInt8 × UInt16) × Journal) := do
  match o.bios with
  | some path =>
    match ← Task.read path with
    | .ok bytes => return (.ok (bytes, o.entry.getD 0), j)
    | .error e => return (.error (.file e), j)
  | none =>
    match rom with
    | none => return (.ok (#[], o.entry.getD 0), j)
    | some rom =>
      let (entry, j) := rom.entry j
      let entry := o.entry.getD entry
      return (.ok (rom.bytes, entry),
        if entry = Rom.headedEntry then j.note PlayEvent.headerSkipped else j)

/-- Let frames pass and show what each one tells; the last one drawn so far is that of `drawn`. -/
def passFrames (fuel : Nat) :
    (count : Nat) → Machine → (drawn : Option Machine) → Task (Option (Machine × Option Machine))
  | 0, m, drawn => return some (m, drawn)
  | count + 1, m, drawn =>
    match m.pass fuel Screen.height with
    | none => return none
    | some (m, next) => do
      let journal ← Task.flush m.board.journal
      passFrames fuel count { m with board.journal := journal } (next.or drawn)

/-- The frame that is seen at the end; it is blank before any is drawn. -/
def lastFrame (fuel : Nat) (drawn : Option Machine) : Array UInt32 :=
  let blank := Array.replicate Screen.size 0
  (drawn.bind fun m => m.paint fuel blank).getD blank

/-- Save the last frame. A format that does not take it leaves an empty file. -/
def saveFrame (path : String) (frame : Array UInt32) : Task (Except Failure Unit) := do
  match Picture.ofFrame frame, PictureFormat.ofPath path with
  | .error e, _ => return .error (.picture e)
  | _, .error e => return .error (.picture e)
  | .ok p, .ok format =>
    let checked := format.check p
    let content := if checked.isOk then Content.picture format p else .bytes #[]
    match ← Task.write path content with
    | .ok () => return checked.mapError .picture
    | .error e => return .error (.picture (.file e))

/-- Boot, render and save. -/
def playFrom (o : PlayOptions) (fuel : Nat) (j : Journal) :
    Task (Except Failure Unit × Journal) := do
  let (rom, j) ← openRom o j
  match rom with
  | .error e => return (.error e, j)
  | .ok rom =>
    let (image, j) ← openImage o rom j
    match image with
    | .error e => return (.error e, j)
    | .ok (image, entry) =>
      let j ← Task.flush j
      let input ← Task.input
      let m :=
        Machine.standard ⟨o.stepLimit⟩ j.filter ((rom.map (·.bytes)).getD #[]) (some input.toList)
      match m.boot fuel image entry with
      | none => return (.error .endless, j)
      | some (outcome, m) =>
        let j := m.board.journal
        let j := if outcome = .ranOff then j.note PlayEvent.bootRanOff else j
        let j := if o.headless then j else j.note (PlayEvent.noWindow (windowTitle o.romPath))
        let j ← Task.flush j
        match ← passFrames fuel o.frames { m with board.journal := j } none with
        | none => return (.error .endless, j)
        | some (m, drawn) =>
          let j := m.board.journal.note (PlayEvent.rendered o.frames)
          match o.screenshot with
          | none => return (.ok (), j)
          | some path =>
            match ← saveFrame path (lastFrame fuel drawn) with
            | .ok () => return (.ok (), j.note (PlayEvent.saved path))
            | .error e => return (.error e, j)

/-- The console's command line, with the text of a filter; the result is its exit status. -/
def play (arguments : List String) (filter : Option String) (fuel : Nat) : Task UInt8 := do
  let j ← Task.journal (filter.getD "info")
  match readArguments PlayOptions.spec arguments with
  | .help => return 0
  | .fault => return 2
  | .done a =>
    match ← playFrom (.ofArguments a) fuel j with
    | (.ok (), j) =>
      let _ ← Task.flush j
      return 0
    | (.error e, j) =>
      let _ ← Task.flush (j.note (PlayEvent.failed e))
      return 1

end FantasyConsole.CommandLine
