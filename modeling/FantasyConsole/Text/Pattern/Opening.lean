import FantasyConsole.Text.Letter
import FantasyConsole.Text.Pattern.Reader
import FantasyConsole.Text.Pattern.Tree

/-!
# Openings of groups

What stands behind an opening parenthesis: nothing, a name of the group, or flags. Flags
are for the group, or for what follows if the parenthesis is closed right after them.
-/
namespace FantasyConsole.Text.Pattern

open Read

/-- Read flags up to a colon or a closing parenthesis. A minus sign takes those after it back; the
signs so far are `seen`, last first, and the minus sign is none of the flags. -/
def flagChanges : (fuel : Nat) → (seen : List (Option Flag × Span)) → FlagChanges → Read FlagChanges
  | 0, _, changes => return changes
  | fuel + 1, seen, changes => do
    let here := (← get).span
    match ← char? with
    | none => failSince .endInFlags here.start
    | some c =>
      if c = ':' || c = ')' then
        if let (none, minus) :: _ := seen then fail .danglingNegation minus.start minus.stop
        return changes
      let flag? ←
        if c = '-' then pure none
        else if let some f := Flag.ofChar? c then pure (some f)
        else failHere .unknownFlag
      if let some earlier := seen.lookup flag? then
        failTwice (if flag?.isNone then .repeatedNegation else .repeatedFlag) here earlier
      step
      let on := (seen.lookup none).isNone
      flagChanges fuel ((flag?, here) :: seen) (changes ++ (flag?.map fun f => (f, on)).toList)

/-- Letters and the underscore may begin a name; numbers, dots and brackets may follow. -/
def isInName (first : Bool) (c : Char) : Bool :=
  c = '_' || isAlphabetic c || (!first && (c = '.' || c = '[' || c = ']' || isNumeric c))

/-- Read the name of a group up to its closing angle bracket. No other group may have it. -/
def groupName : Read Unit := do
  let r ← get
  let name := r.rest.takeWhile (· != '>')
  let span : Span := ⟨r.place, r.place + name.length⟩
  let good := (name.zipIdx.takeWhile fun (c, i) => isInName (i = 0) c).length
  if good < name.length then fail .badName (r.place + good) (r.place + good + 1)
  if name.length = r.rest.length then fail .unclosedName span.stop span.stop
  if name.isEmpty then fail .emptyName r.place r.place
  let name := String.ofList name
  if let some earlier := r.names.lookup name then failTwice .repeatedName span earlier
  let _ ← accept (name ++ ">")
  modify fun r => { r with names := (name, span) :: r.names }

/-- A group that opens, or flags for what follows. -/
inductive Opening where
  | group (kind : GroupKind)
  | flags (changes : FlagChanges)

/-- Open a group with the next number. -/
def numbered : Read Opening := do
  modify fun r => { r with groups := r.groups + 1 }
  return .group (.numbered (← get).groups)

/-- Read an opening after its parenthesis is reached. -/
def opening : Read Opening := do
  let start ← place
  next
  if ← acceptAny ["?=", "?!", "?<=", "?<!"] then failSince .lookAround start
  let inside ← place
  if ← acceptAny ["?P<", "?<"] then
    groupName
    numbered
  else if ← accept "?" then
    if ← isAtEnd then fail .unclosedGroup start (start + 1)
    let changes ← flagChanges ((← get).rest.length + 1) [] []
    if ← accept ":" then return .group (.flagged changes)
    step
    if changes.isEmpty then fail .missingOperand inside inside
    return .flags changes
  else numbered

end FantasyConsole.Text.Pattern
