import FantasyConsole.Stack

/-!
# Stacks as lists

As long as no more bytes are popped than were pushed, and no more than 256 are held,
a stack gives back what an unbounded list would. The pointer may start anywhere and
words may lie across the end of the ring. The pointer alone is right for every
sequence: it is off its start by the bytes pushed less the bytes popped.
-/
namespace FantasyConsole

inductive StackOp where
  | push (v : UInt8)
  | pop
  | pushWord (w : UInt16)
  | popWord
  deriving DecidableEq, Repr

inductive Popped where
  | byte (v : UInt8)
  | word (w : UInt16)
  deriving DecidableEq, Repr

inductive ByteStep where
  | push | pop
  deriving DecidableEq, Repr

namespace StackOp

/-- An operation on a ring, with what it returns. -/
def perform : StackOp → Stack → List Popped × Stack
  | .push v, s => ([], s.push v)
  | .pop, s => ([.byte s.pop.1], s.pop.2)
  | .pushWord w, s => ([], s.pushWord w)
  | .popWord, s => ([.word s.popWord.1], s.popWord.2)

/-- The same operation on a list, top first. The high byte of a word lies below its low byte, and an
empty list has nothing to pop. -/
def onList : StackOp → List UInt8 → Option (List Popped × List UInt8)
  | .push v, l => some ([], v :: l)
  | .pop, b :: l => some ([.byte b], l)
  | .pushWord w, l => some ([], lowByte w :: highByte w :: l)
  | .popWord, low :: high :: l => some ([.word (word high low)], l)
  | _, _ => none

/-- The bytes that come and go, one after the other. -/
def byteSteps : StackOp → List ByteStep
  | .push _ => [.push]
  | .pop => [.pop]
  | .pushWord _ => [.push, .push]
  | .popWord => [.pop, .pop]

/-- A sequence of operations on a list, with all that is returned. -/
def runOnList : List StackOp → List UInt8 → Option (List Popped × List UInt8)
  | [], l => some ([], l)
  | op :: ops, l =>
    (op.onList l).bind fun r => (runOnList ops r.2).map fun r' => (r.1 ++ r'.1, r'.2)

variable (ops : List StackOp)

def history : List ByteStep := ops.flatMap byteSteps

def pushed : Nat := (history ops).count .push

def popped : Nat := (history ops).count .pop

end StackOp

/-- From a given depth on, the depth stays between nothing and a full ring after each byte. -/
def ByteStep.StaysWithin (depth : Nat) (steps : List ByteStep) : Prop :=
  ∀ k ≤ steps.length, (steps.take k).count .pop ≤ depth + (steps.take k).count .push ∧
    depth + (steps.take k).count .push ≤ (steps.take k).count .pop + 256

namespace ByteStep

instance (depth : Nat) (steps : List ByteStep) : Decidable (StaysWithin depth steps) :=
  inferInstanceAs (Decidable (∀ k ≤ steps.length, _ ∧ _))

variable {depth : Nat} {steps : List ByteStep}

theorem StaysWithin.push (h : StaysWithin depth (.push :: steps)) :
    depth < 256 ∧ StaysWithin (depth + 1) steps := by
  constructor
  · have h₁ := h 1 (by simp)
    simp at h₁
    omega
  · intro k hk
    have hk' := h (k + 1) (by simpa using hk)
    simp at hk'
    omega

theorem StaysWithin.pop (h : StaysWithin depth (.pop :: steps)) :
    ∃ d, depth = d + 1 ∧ StaysWithin d steps := by
  have h₁ := h 1 (by simp)
  simp at h₁
  refine ⟨depth - 1, by omega, fun k hk => ?_⟩
  have hk' := h (k + 1) (by simpa using hk)
  simp at hk'
  omega

end ByteStep

namespace Stack

variable {s : Stack} {l : List UInt8} {b v : UInt8}

def performAll : List StackOp → Stack → List Popped × Stack
  | [], s => ([], s)
  | op :: ops, s =>
    ((op.perform s).1 ++ (performAll ops (op.perform s).2).1, (performAll ops (op.perform s).2).2)

/-! ## The pointer -/

theorem ptr_perform (op : StackOp) (s : Stack) : (op.perform s).2.ptr =
    s.ptr + UInt8.ofNat (op.byteSteps.count .push) - UInt8.ofNat (op.byteSteps.count .pop) := by
  cases op with
  | push v => simp [StackOp.perform, StackOp.byteSteps]
  | pop => simp [StackOp.perform, StackOp.byteSteps]
  | pushWord w =>
    simp [StackOp.perform, StackOp.byteSteps, pushWord]
    grind
  | popWord =>
    simp [StackOp.perform, StackOp.byteSteps, popWord]
    grind

theorem ptr_performAll (ops : List StackOp) (s : Stack) : (performAll ops s).2.ptr =
    s.ptr + UInt8.ofNat (StackOp.pushed ops) - UInt8.ofNat (StackOp.popped ops) := by
  induction ops generalizing s with
  | nil => simp [performAll, StackOp.pushed, StackOp.popped, StackOp.history]
  | cons op ops ih =>
    rw [performAll, ih, ptr_perform]
    simp [StackOp.pushed, StackOp.popped, StackOp.history, UInt8.ofNat_add]
    grind

/-! ## The bytes below it -/

/-- The bytes below the pointer, as many as the list has, are those of the list, top first. -/
structure Shows (s : Stack) (l : List UInt8) : Prop where
  fits : l.length ≤ 256
  peek : ∀ i (h : i < l.length), s.peek (UInt8.ofNat i) = l[i]

theorem shows_nil (s : Stack) : s.Shows [] := ⟨by simp, by simp⟩

theorem peek_push_zero (s : Stack) (v : UInt8) : (s.push v).peek 0 = v := by
  simp [Stack.peek, get_push]

theorem peek_push_succ (s : Stack) (v : UInt8) {i : Nat} (hi : i + 1 < 256) :
    (s.push v).peek (UInt8.ofNat (i + 1)) = s.peek (UInt8.ofNat i) := by
  have hp : s.ptr + 1 - UInt8.ofNat (i + 1) - 1 = s.ptr - UInt8.ofNat i - 1 := by
    rw [UInt8.ofNat_add]
    grind
  have hne : s.ptr ≠ s.ptr - UInt8.ofNat i - 1 := by
    intro h
    refine ofNat_succ_ne_zero hi ?_
    rw [UInt8.ofNat_add]
    grind
  rw [Stack.peek, ptr_push, hp, get_push, if_neg hne, Stack.peek]

theorem peek_pop (s : Stack) (i : Nat) :
    s.pop.2.peek (UInt8.ofNat i) = s.peek (UInt8.ofNat (i + 1)) := by
  have hp : s.ptr - 1 - UInt8.ofNat i - 1 = s.ptr - UInt8.ofNat (i + 1) - 1 := by
    rw [UInt8.ofNat_add]
    grind
  rw [Stack.peek, ptr_pop, hp]
  rfl

theorem Shows.push (h : s.Shows l) (hl : l.length < 256) (v : UInt8) :
    (s.push v).Shows (v :: l) := by
  refine ⟨Nat.succ_le_of_lt hl, fun i hi => ?_⟩
  cases i with
  | zero => exact s.peek_push_zero v
  | succ i =>
    have hi' : i < l.length := by simpa using hi
    rw [s.peek_push_succ v (by omega), h.peek i hi']
    rfl

theorem Shows.pop (h : s.Shows (b :: l)) : s.pop.1 = b ∧ s.pop.2.Shows l := by
  have hfits := h.fits
  have htop := h.peek 0 (by simp)
  simp only [List.length_cons] at hfits
  refine ⟨?_, by omega, fun i hi => ?_⟩
  · simpa [Stack.peek, Stack.pop] using htop
  · rw [s.peek_pop i]
    exact h.peek (i + 1) (by simpa using hi)

theorem Shows.popWord {low high : UInt8} (h : s.Shows (low :: high :: l)) :
    s.popWord.1 = word high low ∧ s.popWord.2.Shows l := by
  obtain ⟨hlow, h₁⟩ := h.pop
  obtain ⟨hhigh, h₂⟩ := h₁.pop
  refine ⟨?_, h₂⟩
  change word s.pop.2.pop.1 s.pop.1 = _
  rw [hlow, hhigh]

/-- One operation: the list has what the ring returns, and the ring goes on as the list does. -/
theorem Shows.perform (h : s.Shows l) (op : StackOp) {steps : List ByteStep}
    (hw : ByteStep.StaysWithin l.length (op.byteSteps ++ steps)) : ∃ l',
    op.onList l = some ((op.perform s).1, l') ∧ (op.perform s).2.Shows l' ∧
    ByteStep.StaysWithin l'.length steps ∧
      l'.length + op.byteSteps.count .pop = l.length + op.byteSteps.count .push := by
  cases op with
  | push v =>
    obtain ⟨hl, hw⟩ := hw.push
    exact ⟨v :: l, rfl, h.push hl v, hw, rfl⟩
  | pushWord w =>
    obtain ⟨hl, hw⟩ := hw.push
    obtain ⟨hl', hw⟩ := hw.push
    exact ⟨lowByte w :: highByte w :: l, rfl, (h.push hl _).push hl' _, hw, rfl⟩
  | pop =>
    obtain ⟨d, hd, hrest⟩ := hw.pop
    obtain ⟨b, l, rfl⟩ := List.exists_cons_of_length_eq_add_one hd
    obtain ⟨hb, h⟩ := h.pop
    have hlen : l.length = d := Nat.succ.inj hd
    refine ⟨l, ?_, h, hlen ▸ hrest, rfl⟩
    rw [StackOp.perform, hb]
    rfl
  | popWord =>
    obtain ⟨d, hd, hw₁⟩ := hw.pop
    obtain ⟨d', rfl, hrest⟩ := hw₁.pop
    obtain ⟨low, l, rfl⟩ := List.exists_cons_of_length_eq_add_one hd
    obtain ⟨high, l, rfl⟩ := List.exists_cons_of_length_eq_add_one (Nat.succ.inj hd)
    obtain ⟨hword, h⟩ := h.popWord
    have hlen : l.length = d' := Nat.succ.inj (Nat.succ.inj hd)
    refine ⟨l, ?_, h, hlen ▸ hrest, rfl⟩
    rw [StackOp.perform, hword]
    rfl

theorem Shows.performAll (h : s.Shows l) (ops : List StackOp)
    (hw : ByteStep.StaysWithin l.length (StackOp.history ops)) : ∃ l',
    StackOp.runOnList ops l = some ((performAll ops s).1, l') ∧ (performAll ops s).2.Shows l' ∧
      l'.length + StackOp.popped ops = l.length + StackOp.pushed ops := by
  induction ops generalizing s l with
  | nil => exact ⟨l, rfl, h, rfl⟩
  | cons op ops ih =>
    obtain ⟨l₁, h₁, hshows, hw₁, hlen₁⟩ := h.perform op hw
    obtain ⟨l₂, h₂, hshows₂, hlen₂⟩ := ih hshows hw₁
    refine ⟨l₂, ?_, hshows₂, ?_⟩
    · rw [StackOp.runOnList, h₁, Option.bind_some, h₂]
      rfl
    · simp only [StackOp.pushed, StackOp.popped, StackOp.history, List.flatMap_cons,
        List.count_append] at hlen₂ ⊢
      omega

theorem Shows.window (h : s.Shows l) {n : UInt8} (hn : n.toNat ≤ l.length) :
    s.window n = (l.take n.toNat).reverse := by
  apply List.ext_getElem
  · simp [Stack.window, hn]
  · intro i hi hi'
    have hin : i < n.toNat := by simpa [Stack.window] using hi
    have hp : s.ptr - n + UInt8.ofNat i = s.ptr - UInt8.ofNat (n.toNat - 1 - i) - 1 := by
      have hsum : UInt8.ofNat i + UInt8.ofNat (n.toNat - 1 - i) + 1 = n := by
        rw [← UInt8.ofNat_add]
        change UInt8.ofNat _ + UInt8.ofNat 1 = n
        rw [← UInt8.ofNat_add, show i + (n.toNat - 1 - i) + 1 = n.toNat by omega, UInt8.ofNat_toNat]
      grind
    have hcell := h.peek (n.toNat - 1 - i) (by omega)
    simp only [Stack.window, List.getElem_map, List.getElem_range, List.getElem_reverse,
      List.getElem_take, hp]
    rw [← Stack.peek, hcell]
    congr 1
    simp
    omega

/-- The ring of 256 bytes is a stack. After any operations the pointer is off its start by the bytes
pushed less the bytes popped. As long as the depth stays within the ring after each byte, every pop
returns what a list would, and peeking and windows show the list that is left. -/
theorem performAll_as_list (s : Stack) (ops : List StackOp) :
    (performAll ops s).2.ptr = s.ptr + UInt8.ofNat (StackOp.pushed ops) - UInt8.ofNat
      (StackOp.popped ops) ∧
      (ByteStep.StaysWithin 0 (StackOp.history ops) → ∃ answers l,
        StackOp.runOnList ops [] = some (answers, l) ∧ (performAll ops s).1 = answers ∧
        l.length + StackOp.popped ops = StackOp.pushed ops ∧
        (∀ (d : UInt8) (h : d.toNat < l.length), (performAll ops s).2.peek d = l[d.toNat]) ∧
        ∀ n : UInt8, n.toNat ≤ l.length →
          (performAll ops s).2.window n = (l.take n.toNat).reverse) := by
  refine ⟨ptr_performAll ops s, fun hw => ?_⟩
  obtain ⟨l, hrun, hshows, hlen⟩ := s.shows_nil.performAll ops hw
  refine ⟨_, l, hrun, rfl, by simpa using hlen, fun d hd => ?_, fun n hn => hshows.window hn⟩
  have hcell := hshows.peek d.toNat hd
  rwa [UInt8.ofNat_toNat] at hcell

/-- A word across the end of the ring, another on top of it, and one byte taken off again. -/
def straddling : List StackOp := [.pushWord 0x1234, .pushWord 0xABCD, .pop]

theorem performAll_as_list_straddling : ByteStep.StaysWithin 0 (StackOp.history straddling) ∧
    ((empty.setPtr 0xFF).performAll straddling).1 = [.byte 0xCD] ∧
    ((empty.setPtr 0xFF).performAll straddling).2.ptr = 2 ∧
    ((empty.setPtr 0xFF).performAll straddling).2.peek 2 = 0x12 ∧
    ((empty.setPtr 0xFF).performAll straddling).2.window 3 = [0x12, 0x34, 0xAB] := by
  have hw : ByteStep.StaysWithin 0 (StackOp.history straddling) := by decide
  have heval : StackOp.runOnList straddling [] = some ([.byte 0xCD], [0xAB, 0x34, 0x12]) := by
    decide
  obtain ⟨hptr, hlist⟩ := performAll_as_list (empty.setPtr 0xFF) straddling
  obtain ⟨answers, l, hrun, hanswers, -, hpeek, hwindow⟩ := hlist hw
  obtain ⟨rfl, rfl⟩ : answers = _ ∧ l = _ := by simpa [heval, eq_comm] using hrun
  exact ⟨hw, hanswers, hptr, hpeek 2 (by decide), hwindow 3 (by decide)⟩

end Stack

end FantasyConsole
