import FantasyConsole.Word

/-!
# Stacks

A stack is a ring of 256 bytes with an 8-bit pointer. Pushing writes at the
pointer and moves it up, popping moves it down and reads there; both wrap, and
there is no overflow or underflow. A word is pushed high byte first.
-/
namespace FantasyConsole

@[ext] structure Stack where
  cells : Vector UInt8 256
  ptr : UInt8

namespace Stack

def empty : Stack := ⟨Vector.replicate 256 0, 0⟩

@[inline] def get (s : Stack) (i : UInt8) : UInt8 := getElem s.cells i.toNat i.toNat_lt

@[inline] def set (s : Stack) (i v : UInt8) : Stack :=
  { s with cells := s.cells.set i.toNat v i.toNat_lt }

@[inline] def setPtr (s : Stack) (p : UInt8) : Stack := { s with ptr := p }

def push (s : Stack) (v : UInt8) : Stack := ⟨s.cells.set s.ptr.toNat v s.ptr.toNat_lt, s.ptr + 1⟩

def pop (s : Stack) : UInt8 × Stack :=
  let p := s.ptr - 1
  (s.get p, s.setPtr p)

def pushWord (s : Stack) (w : UInt16) : Stack := (s.push (highByte w)).push (lowByte w)

def popWord (s : Stack) : UInt16 × Stack :=
  let (low, s) := s.pop
  let (high, s) := s.pop
  (word high low, s)

/-- Push bytes in order. -/
def pushAll (s : Stack) (bytes : List UInt8) : Stack := bytes.foldl push s

/-- The byte `depth` below the top, which stays on the stack. -/
def peek (s : Stack) (depth : UInt8) : UInt8 := s.get (s.ptr - depth - 1)

/-- The `n` bytes below the pointer, oldest first. -/
def window (s : Stack) (n : UInt8) : List UInt8 :=
  (List.range n.toNat).map fun i => s.get (s.ptr - n + UInt8.ofNat i)

@[simp] theorem ptr_push (s : Stack) (v : UInt8) : (s.push v).ptr = s.ptr + 1 := rfl

@[simp] theorem ptr_pop (s : Stack) : s.pop.2.ptr = s.ptr - 1 := rfl

theorem get_push (s : Stack) (v j : UInt8) :
    (s.push v).get j = if s.ptr = j then v else s.get j := by
  simp [get, push, Vector.getElem_set, UInt8.toNat_inj]

@[simp] theorem get_setPtr (s : Stack) (p j : UInt8) : (s.setPtr p).get j = s.get j := rfl

/-! ## Dump lines

A dump line shows a name, the eight bytes below the pointer, oldest first, and
the pointer. A bar marks the bottom of the stack: after the name when the pointer
is 8, and after the byte of cell 255. -/

/-- The bytes from cell `i` up to the pointer, each with its mark. The cells after cell 255 are
those from 0 on. -/
def dumpFrom (s : Stack) (i : UInt8) : List Char :=
  if i = s.ptr then []
  else hexChars (s.get i) ++ (if i = 0xFF then '|' else ' ') :: s.dumpFrom (i + 1)
termination_by (s.ptr - i).toNat
decreasing_by
  rw [toNat_sub_of_ne ‹¬i = s.ptr›]
  exact Nat.lt_succ_self _

def dump (name : String) (s : Stack) : String :=
  String.ofList (name.toList ++ (if s.ptr = 8 then '|' else ' ') :: s.dumpFrom (s.ptr - 8)
    ++ '<' :: hexChars s.ptr)

end Stack

/-- The working stack holds values, the return stack return addresses. -/
inductive StackId where
  | working | ret
  deriving DecidableEq, Repr

def StackId.other : StackId → StackId
  | .working => .ret
  | .ret => .working

@[ext] structure StackPair where
  working : Stack
  ret : Stack

namespace StackPair

def empty : StackPair := ⟨.empty, .empty⟩

@[inline] def get (s : StackPair) : StackId → Stack
  | .working => s.working
  | .ret => s.ret

@[inline] def modify (s : StackPair) (id : StackId) (f : Stack → Stack) : StackPair :=
  match id with
  | .working => { s with working := f s.working }
  | .ret => { s with ret := f s.ret }

/-- Run an operation with a result on one stack. -/
@[inline] def on {α : Type} (s : StackPair) (id : StackId) (f : Stack → α × Stack) :
    α × StackPair :=
  match id with
  | .working => let (a, t) := f s.working; (a, { s with working := t })
  | .ret => let (a, t) := f s.ret; (a, { s with ret := t })

variable (pair : StackPair) (id : StackId)

theorem on_eq {α : Type} (f : Stack → α × Stack) :
    pair.on id f = ((f (pair.get id)).1, pair.modify id fun s => (f s).2) := by cases id <;> rfl

theorem modify_modify (f g : Stack → Stack) :
    (pair.modify id f).modify id g = pair.modify id fun s => g (f s) := by
  cases id <;> rfl

theorem modify_congr {f g : Stack → Stack} (h : f (pair.get id) = g (pair.get id)) :
    pair.modify id f = pair.modify id g := by
  cases id
  · exact congrArg (StackPair.mk · pair.ret) h
  · exact congrArg (StackPair.mk pair.working ·) h

end StackPair

end FantasyConsole
