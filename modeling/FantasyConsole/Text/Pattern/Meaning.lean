import FantasyConsole.Text.Pattern.Simple
import FantasyConsole.Text.Pattern.Tree

/-!
# What trees stand for

The pattern of a tree depends on flags. Named sets, properties and letters in either
case are known for ASCII alone, so they are refused where a pattern is wide, as it is
at first. Where it is not, what would match parts of a character is refused.
-/
namespace FantasyConsole.Text.Pattern

structure Flags where
  anyCase : Bool
  everyLine : Bool
  dotAll : Bool
  returns : Bool
  wide : Bool
  deriving DecidableEq, Repr

namespace Flags

def standard : Flags := ⟨false, false, false, false, true⟩

/-- Set a flag or take it back. The others make no difference to what fits. -/
def set (f : Flags) (flag : Flag) (on : Bool) : Flags :=
  match flag with
  | .anyCase => { f with anyCase := on }
  | .everyLine => { f with everyLine := on }
  | .dotAll => { f with dotAll := on }
  | .returns => { f with returns := on }
  | .wide => { f with wide := on }
  | .lazy | .spaced => f

def change (f : Flags) (changes : FlagChanges) : Flags :=
  changes.foldl (fun f (flag, on) => f.set flag on) f

end Flags

def refuse {α : Type} (fault : Fault) (span : Span) : Except FaultAt α := .error ⟨fault, span, none⟩

/-! ## Sets -/

/-- A set in the making, and whether it is known to have its letters in both cases. -/
structure Draft where
  set : CharSet
  cased : Bool

namespace Draft

def empty : Draft := ⟨.empty, true⟩

def add (d : Draft) (low high : Char) : Draft := ⟨d.set.add low.toNat high.toNat, false⟩

def union (d e : Draft) : Draft :=
  if e.set.isEmpty || d.set = e.set then d else ⟨d.set.union e.set, d.cased && e.cased⟩

def inter (d e : Draft) : Draft :=
  if d.set.isEmpty then d else if e.set.isEmpty then empty
  else ⟨d.set.inter e.set, d.cased && e.cased⟩

def diff (d e : Draft) : Draft :=
  if d.set.isEmpty || e.set.isEmpty then d else ⟨d.set.diff e.set, d.cased && e.cased⟩

def combine (op : SetOp) (d e : Draft) : Draft :=
  match op with
  | .both => d.inter e
  | .without => d.diff e
  | .oneOf => (d.union e).diff (d.inter e)

def compl (d : Draft) : Draft := ⟨d.set.compl, d.cased || d.set.isEmpty⟩

/-- Take letters in both cases if that is asked for. -/
def fold (d : Draft) (f : Flags) (span : Span) : Except FaultAt Draft :=
  if !f.anyCase || d.cased then .ok d
  else if f.wide then refuse .wideCase span
  else .ok ⟨d.set.bothCases, true⟩

/-- Finish a set: letters in both cases if that is asked for, then all other characters if it is
negated. -/
def finish (d : Draft) (f : Flags) (negated : Bool) (span : Span) : Except FaultAt Draft := do
  let d ← d.fold f span
  if !negated then return d
  else if f.wide then return d.compl
  else refuse .partOfChar span

end Draft

/-- The character that is meant. Without wide characters the number of a byte beyond ASCII is a part
of one. -/
def Letter.value (l : Letter) (f : Flags) : Except FaultAt Char :=
  if !f.wide && l.isByte && 128 ≤ l.char.toNat then refuse .partOfChar l.span else .ok l.char

/-- A character in a set; narrow sets have ASCII characters only. -/
def Letter.inSet (l : Letter) (f : Flags) : Except FaultAt Char := do
  let c ← l.value f
  if !f.wide && 128 ≤ c.toNat then refuse .wideChar l.span else return c

def Shorthand.meaning (s : Shorthand) (f : Flags) (negated : Bool) (span : Span) :
    Except FaultAt Draft :=
  if f.wide then refuse .wideClass span
  else if negated then refuse .partOfChar span
  else .ok ⟨s.set, false⟩

mutual

def SetTree.addTo (f : Flags) (d : Draft) (t : SetTree) : Except FaultAt Draft :=
  match t with
  | .nothing _ => .ok d
  | .letter l => do
    let c ← l.inSet f
    return d.add c c
  | .range low high => do return d.add (← low.inSet f) (← high.inSet f)
  | .named s negated span => do return d.union (← Draft.finish ⟨s, false⟩ f negated span)
  | .shorthand s negated span => do return d.union (← s.meaning f negated span)
  | .property forValues span =>
    refuse (if !f.wide then .wideChar else if forValues then .unknownValue
      else .unknownProperty) span
  | .bracketed negated inner span => do
    return d.union (← (← inner.addTo f .empty).finish f negated span)
  | .union items _ => SetTree.addAllTo f d items
  | .combined op a b _ => do
    let left ← a.addTo f .empty
    let right ← (← b.addTo f .empty).fold f b.span
    let left ← left.fold f a.span
    return d.union (.combine op left right)
termination_by structural t

def SetTree.addAllTo (f : Flags) (d : Draft) (ts : List SetTree) : Except FaultAt Draft :=
  match ts with
  | [] => .ok d
  | t :: rest => do SetTree.addAllTo f (← t.addTo f d) rest
termination_by structural ts

end

/-! ## Patterns -/

def EdgeSign.meaning (e : EdgeSign) (f : Flags) : Edge :=
  match e with
  | .textStart => .textStart
  | .textEnd => .textEnd
  | .lineStart => if f.everyLine then .lineStart f.returns else .textStart
  | .lineEnd => if f.everyLine then .lineEnd f.returns else .textEnd
  | .word e => .word e f.wide

/-- The characters that the sign for any character is for. -/
def anyChar (f : Flags) : CharSet :=
  CharSet.compl (if f.dotAll then .empty else if f.returns then .ofChars ['\n', '\r']
    else .ofChars ['\n'])

def Atom.meaning (f : Flags) : Atom → Except FaultAt Pattern
  | .letter l => do
    let c ← l.value f
    if !f.anyCase then return .literal [c]
    else if f.wide then refuse .wideCase l.span
    else return ofSet (CharSet.ofChars [c]).bothCases
  | .any span => if f.wide then .ok (ofSet (anyChar f)) else refuse .partOfChar span
  | .edge e _ => .ok (.edge (e.meaning f))
  | .set s => do return ofSet (← s.addTo f .empty).set

mutual

/-- The pattern of a tree, and the flags for what follows it. -/
def Tree.meaning (f : Flags) (t : Tree) : Except FaultAt (Pattern × Flags) :=
  match t with
  | .empty => .ok (.empty, f)
  | .atom a => do return (← a.meaning f, f)
  | .flags changes => .ok (.empty, f.change changes)
  | .group (.numbered n) inner _ => do return (.group n (← inner.meaning f).1, f)
  | .group (.flagged changes) inner _ => do return ((← inner.meaning (f.change changes)).1, f)
  | .times least most inner _ => do
    let (p, f) ← inner.meaning f
    return (repeated least most p, f)
  | .all items _ => do
    let (ps, f) ← Tree.meanings f [] items
    return (sequence ps, f)
  | .any branches _ => do
    let (ps, f) ← Tree.meanings f [] branches
    return (choice ps, f)
termination_by structural t

/-- The patterns of several trees, with those of earlier ones, last first. -/
def Tree.meanings (f : Flags) (before : List Pattern) (ts : List Tree) :
    Except FaultAt (List Pattern × Flags) :=
  match ts with
  | [] => .ok (before.reverse, f)
  | t :: rest => do
    let (p, f) ← t.meaning f
    Tree.meanings f (p :: before) rest
termination_by structural ts

end

end FantasyConsole.Text.Pattern
