import FantasyConsole.Text.Pattern.Tree

/-!
# Nesting

Groups, repetitions, sequences, alternatives and sets in brackets nest. The first of
them that stands deeper than allowed is at fault.
-/
namespace FantasyConsole.Text.Pattern

/-- A part that takes one level of `room`, and what is inside it. -/
def nest (room : Nat) (span : Span) (inside : Nat → Option Span) : Option Span :=
  match room with
  | 0 => some span
  | room + 1 => inside room

mutual

/-- The first part that has no room, where `room` levels may nest. -/
def SetTree.firstTooDeep? (room : Nat) (t : SetTree) : Option Span :=
  match t with
  | .bracketed _ inner span => nest room span fun room => inner.firstTooDeep? room
  | .union items span => nest room span fun room => SetTree.firstTooDeepOf? room items
  | .combined _ a b span =>
    nest room span fun room => (a.firstTooDeep? room).orElse fun _ => b.firstTooDeep? room
  | _ => none
termination_by structural t

def SetTree.firstTooDeepOf? (room : Nat) (ts : List SetTree) : Option Span :=
  match ts with
  | [] => none
  | t :: rest => (t.firstTooDeep? room).orElse fun _ => SetTree.firstTooDeepOf? room rest
termination_by structural ts

end

mutual

/-- The first part that has no room, where `room` levels may nest. -/
def Tree.firstTooDeep? (room : Nat) (t : Tree) : Option Span :=
  match t with
  | .atom (.set s) => s.firstTooDeep? room
  | .group _ inner span | .times _ _ inner span =>
    nest room span fun room => inner.firstTooDeep? room
  | .all items span | .any items span => nest room span fun room => Tree.firstTooDeepOf? room items
  | _ => none
termination_by structural t

def Tree.firstTooDeepOf? (room : Nat) (ts : List Tree) : Option Span :=
  match ts with
  | [] => none
  | t :: rest => (t.firstTooDeep? room).orElse fun _ => Tree.firstTooDeepOf? room rest
termination_by structural ts

end

def Tree.checkDepth (t : Tree) : Except FaultAt Unit :=
  match t.firstTooDeep? depthLimit with
  | some span => .error ⟨.tooDeep, span, none⟩
  | none => .ok ()

end FantasyConsole.Text.Pattern
