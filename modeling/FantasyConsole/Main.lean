import Std.Time.DateTime.Timestamp
import FantasyConsole.CommandLine.Play
import FantasyConsole.CommandLine.StampFile

/-!
# Program

Carries out the two command lines on the files, the standard input and the clock
of the machine it runs on. The first argument chooses between them.
-/
namespace FantasyConsole.CommandLine

/-- The fault of an error number, which the host may give with its sign turned. -/
def numberedFault (code : UInt32) (details : String) : FileError :=
  match code.toInt32.toInt.natAbs with
  | 2 => .notFound
  | 6 => .noDevice
  | 13 => .denied
  | 20 => .notDirectory
  | 21 => .isDirectory
  | 28 => .noSpace
  | 36 => .nameTooLong
  | n => .other (details ++ " (os error " ++ toString n ++ ")")

def hostFault : IO.Error → FileError
  | .noFileOrDirectory _ code details | .inappropriateType _ code details
  | .permissionDenied _ code details
  | .invalidArgument _ code details | .resourceExhausted _ code details
  | .otherError code details =>
    numberedFault code details
  | e => .other (toString e)

/-- Carry out a task on the host. Entries are shown on the standard error. -/
def Task.perform {α : Type} : Task α → IO α
  | .done a => pure a
  | .readFile path next => do
    let r ← (IO.FS.readBinFile path).toBaseIO
    (next ((r.map (·.data)).mapError hostFault)).perform
  | .readInput next => do
    let b ← (← IO.getStdin).readBinToEnd
    (next b.data).perform
  | .writeFile path content next => do
    let r ← (IO.FS.writeBinFile path ⟨content.toBytes⟩).toBaseIO
    (next (r.mapError hostFault)).perform
  | .show entries next => do
    IO.eprint (shown entries.toList)
    next.perform

/-- More instructions than a run can evaluate in a lifetime. -/
def lifetime : Nat := 4000000000000000000

end FantasyConsole.CommandLine

open FantasyConsole FantasyConsole.CommandLine in
/-- The first argument is the name of a command line, the others are its own. The environment may
have the text of a filter of messages. -/
def main (arguments : List String) : IO UInt32 := do
  let filter ← IO.getEnv "CONSOLE_LOG"
  match arguments with
  | "play" :: rest => return (← (play rest filter lifetime).perform).toUInt32
  | "stamp" :: rest =>
    let now ← Std.Time.Timestamp.now
    let created := Int64.ofInt now.toSecondsSinceUnixEpoch.toInt
    return (← (stampCommand rest filter created).perform).toUInt32
  | _ => return 2
