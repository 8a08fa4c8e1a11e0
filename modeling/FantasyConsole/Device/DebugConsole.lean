import FantasyConsole.Handler
import FantasyConsole.Text.Utf8

/-!
# The debug console

Writing 1 prints both stacks, writing 2 waits for a line of input, other values
are ignored. Without an input source there is nothing to wait for. Reads give 0.
-/
namespace FantasyConsole

structure DebugConsole where
  sink : Sink
  /-- What is left to read, if there is an input source. -/
  input : Option (List UInt8)
  deriving DecidableEq

namespace DebugConsole

def splitLine (bytes : List UInt8) : List UInt8 × List UInt8 :=
  let (line, rest) := bytes.span (· != 10)
  (line ++ rest.take 1, rest.drop 1)

def onWrite (d : DebugConsole) (port : UInt8) : Handler DebugConsole := do
  let command ← Handler.byte port
  if command = 1 then
    Handler.change fun b => b.dumpStacks d.sink
    return d
  else if command = 2 then
    match d.input with
    | none => return d
    | some bytes =>
      let (line, rest) := splitLine bytes
      unless Utf8.isValid line do Handler.note .malformedLine
      return { d with input := some rest }
  else return d

end DebugConsole

end FantasyConsole
