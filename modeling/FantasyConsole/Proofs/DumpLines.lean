import Mathlib.Data.UInt
import Mathlib.Logic.Function.Iterate
import Mathlib.Order.Bounds.Basic
import Mathlib.Tactic.SplitIfs
import FantasyConsole.CommandLine.Arguments
import FantasyConsole.Stack

/-!
# Dump lines

A dump goes up from cell to cell, over the end of the stack if need be, until it meets the
pointer. There are two tests for the bar at the bottom of the stack, one of the pointer after
the name and one of the cell after a byte. Both ask whether as many bytes are still to come as
the pointer counts, so a line has one bar if the pointer is at most 8, with that many bytes
after it. A line can be read from its end, whatever the name is.
-/
namespace FantasyConsole

open CommandLine (digits?)

theorem hexDigit_ne_bar : ∀ n < 16, hexDigit n ≠ '|' := by decide

theorem hexDigit_ne_bracket : ∀ n < 16, hexDigit n ≠ '<' := by decide

theorem digits?_hexDigit :
    ∀ m < 16, ∀ n < 16, digits? 16 [hexDigit m, hexDigit n] = some (m * 16 + n) := by decide

theorem count_bar_hexChars (b : UInt8) : (hexChars b).count '|' = 0 := by
  have hb := b.toNat_lt
  have hhigh := hexDigit_ne_bar (b.toNat / 16) (by omega)
  have hlow := hexDigit_ne_bar (b.toNat % 16) (by omega)
  simp [hexChars, hhigh, hlow]

/-- Going up from `i`, wrapping at the end, `stop` is met after as many steps as it is away and not
before. -/
theorem iterate_add_one_eq_iff {i stop : UInt8} {n : Nat} (h : n ≤ (stop - i).toNat) :
    (· + 1)^[n] i = stop ↔ n = (stop - i).toNat := by
  induction n generalizing i with
  | zero =>
    have hzero : stop - i = 0 ↔ 0 = (stop - i).toNat := by
      rw [← UInt8.toNat_inj, eq_comm, UInt8.toNat_zero]
    rw [Function.iterate_zero_apply, ← hzero, sub_eq_zero, eq_comm]
  | succ n ih =>
    have hne : i ≠ stop := by
      rintro rfl
      rw [UInt8.sub_self] at h
      exact absurd h (Nat.not_succ_le_zero n)
    rw [toNat_sub_of_ne hne] at h ⊢
    rw [Function.iterate_succ_apply, ih (Nat.le_of_succ_le_succ h), Nat.add_right_cancel_iff]

theorem isLeast_iterate_add_one (i stop : UInt8) :
    IsLeast {n | (· + 1)^[n] i = stop} (stop - i).toNat := by
  refine ⟨(iterate_add_one_eq_iff le_rfl).2 rfl, fun n hn => ?_⟩
  by_contra hlt
  have hle : n ≤ (stop - i).toNat := by omega
  exact hlt ((iterate_add_one_eq_iff hle).1 hn).ge

namespace Stack

/-! ## The row of bytes -/

/-- Bytes between separators, of which the one before which `below` bytes are still to come is a
bar. -/
def row (below : Nat) : List UInt8 → List Char
  | [] => [if below = 0 then '|' else ' ']
  | b :: rest => (if below = rest.length + 1 then '|' else ' ') :: hexChars b ++ row below rest

variable {below : Nat} {bytes : List UInt8}

theorem length_row : (row below bytes).length = 3 * bytes.length + 1 := by
  induction bytes with
  | nil => rfl
  | cons b rest ih =>
    rw [row, List.length_append, ih]
    simp [hexChars]
    omega

theorem row_of_length_lt (h : bytes.length < below) :
    row below bytes = ' ' :: bytes.flatMap fun b => hexChars b ++ [' '] := by
  induction bytes with
  | nil => exact congrArg (· :: []) (if_neg (Nat.ne_of_gt h))
  | cons b rest ih =>
    rw [List.length_cons] at h
    rw [row, if_neg (Nat.ne_of_gt h), ih (Nat.lt_of_succ_lt h), List.flatMap_cons]
    simp

theorem row_append {older newer : List UInt8} (h : newer.length = below) :
    row below (older ++ newer) =
      (older.flatMap fun b => ' ' :: hexChars b) ++
        '|' :: newer.flatMap fun b => hexChars b ++ [' '] := by
  subst h
  induction older with
  | nil =>
    cases newer with
    | nil => rfl
    | cons b rest =>
      rw [List.nil_append, row, List.length_cons, if_pos rfl, row_of_length_lt (Nat.lt_succ_self _)]
      simp
  | cons b older ih =>
    have hne : newer.length ≠ (older ++ newer).length + 1 := by
      rw [List.length_append]
      omega
    rw [List.cons_append, row, if_neg hne, ih]
    simp

theorem count_bar_row : (row below bytes).count '|' = if below ≤ bytes.length then 1 else 0 := by
  induction bytes with
  | nil => cases below <;> rfl
  | cons b rest ih =>
    rw [row, List.count_append, List.count_cons, count_bar_hexChars, ih, List.length_cons]
    by_cases hbar : below = rest.length + 1
    · simp [hbar]
    · have hle : below ≤ rest.length + 1 ↔ below ≤ rest.length := by omega
      simp [hbar, hle]

/-! ## The loop -/

variable (s : Stack)

theorem length_window (n : UInt8) : (s.window n).length = n.toNat := by
  rw [window, List.length_map, List.length_range]

theorem window_of_ne {i : UInt8} (h : i ≠ s.ptr) :
    s.window (s.ptr - i) = s.get i :: s.window (s.ptr - (i + 1)) := by
  have hhere : i + UInt8.ofNat 0 = i := UInt8.add_zero i
  have hnext (k : Nat) : i + UInt8.ofNat (k + 1) = i + 1 + UInt8.ofNat k := by
    rw [UInt8.ofNat_add]
    grind
  rw [window, window, sub_sub_self, sub_sub_self, toNat_sub_of_ne h, List.range_succ_eq_map,
    List.map_cons, List.map_map, hhere]
  exact congrArg (s.get i :: ·) (List.map_congr_left fun k _ => congrArg s.get (hnext k))

/-- The loop writes the bytes up to the pointer and has the bar where the row has it. -/
theorem cons_dumpFrom (i : UInt8) :
    (if i = 0 then '|' else ' ') :: s.dumpFrom i = row s.ptr.toNat (s.window (s.ptr - i)) := by
  -- The mark before cell `i` is the one that the round before has written, or the one after
  -- the name.
  fun_induction dumpFrom s i with
  | case1 =>
    have hbar : s.ptr = 0 ↔ s.ptr.toNat = 0 := by rw [← UInt8.toNat_inj, UInt8.toNat_zero]
    rw [sub_self]
    simp only [hbar]
    rfl
  | case2 i h ih =>
    have hbar : i = 0xFF ↔ i + 1 = 0 := by grind
    have hleft : i = 0 ↔ s.ptr.toNat = (s.window (s.ptr - (i + 1))).length + 1 := by
      rw [length_window, ← toNat_sub_of_ne h, UInt8.toNat_inj]
      grind
    rw [window_of_ne s h, row, ← ih]
    simp only [hbar, hleft, List.cons_append]

/-- A line is a name, the row of the eight bytes below the pointer, and the pointer. -/
theorem toList_dump (name : String) :
    (s.dump name).toList = name.toList ++ row s.ptr.toNat (s.window 8) ++
      '<' :: hexChars s.ptr := by
  have hbar : s.ptr = 8 ↔ s.ptr - 8 = 0 := sub_eq_zero.symm
  have hrow := s.cons_dumpFrom (s.ptr - 8)
  rw [sub_sub_self] at hrow
  rw [dump, String.toList_ofList, ← hrow]
  simp only [hbar]

theorem toList_dump_of_le (name : String) (h : s.ptr ≤ 8) :
    ∃ older newer, older ++ newer = s.window 8 ∧ newer.length = s.ptr.toNat ∧
      (s.dump name).toList = name.toList ++ (older.flatMap fun b => ' ' :: hexChars b) ++
        '|' :: (newer.flatMap fun b => hexChars b ++ [' ']) ++ '<' :: hexChars s.ptr := by
  have hle : s.ptr.toNat ≤ 8 := UInt8.le_iff_toNat_le.1 h
  have hwindow : (s.window 8).length = 8 := s.length_window 8
  have happ := List.take_append_drop (8 - s.ptr.toNat) (s.window 8)
  have hnewer : ((s.window 8).drop (8 - s.ptr.toNat)).length = s.ptr.toNat := by
    rw [List.length_drop, hwindow]
    omega
  have hrow := (congrArg (row s.ptr.toNat) happ).symm.trans (row_append hnewer)
  refine ⟨_, _, happ, hnewer, ?_⟩
  rw [toList_dump, hrow, ← List.append_assoc name.toList]

theorem toList_dump_of_lt (name : String) (h : 8 < s.ptr) :
    (s.dump name).toList = name.toList ++
      ' ' :: ((s.window 8).flatMap fun b => hexChars b ++ [' ']) ++ '<' :: hexChars s.ptr := by
  have hlt : (s.window 8).length < s.ptr.toNat := by
    rw [length_window]
    exact UInt8.lt_iff_toNat_lt.1 h
  rw [toList_dump, row_of_length_lt hlt]

theorem count_bar_dump {name : String} (h : '|' ∉ name.toList) :
    (s.dump name).toList.count '|' = if s.ptr ≤ 8 then 1 else 0 := by
  have hpointer : ('<' :: hexChars s.ptr).count '|' = 0 := by
    rw [List.count_cons_of_ne (by decide), count_bar_hexChars]
  rw [toList_dump, List.count_append, List.count_append, List.count_eq_zero_of_not_mem h,
    count_bar_row, hpointer, length_window]
  simp only [UInt8.le_iff_toNat_le, Nat.zero_add, Nat.add_zero]

/-! ## Reading a line -/

/-- The byte that two digits write. -/
def readByte (high low : Char) : Option UInt8 := (digits? 16 [high, low]).map UInt8.ofNat

/-- Read bytes with a separator before each of them, then one more separator and the pointer. -/
def readRow : List Char → Option (List UInt8 × UInt8)
  | [_, '<', high, low] => (readByte high low).map ([], ·)
  | _ :: high :: low :: rest => do
    let b ← readByte high low
    let (bytes, ptr) ← readRow rest
    return (b :: bytes, ptr)
  | _ => none

/-- The bytes and the pointer of a dump line, which are its last 28 characters. -/
def readDump (line : String) : Option (List UInt8 × UInt8) :=
  readRow (line.toList.drop (line.toList.length - 28))

theorem readByte_hexDigit (b : UInt8) :
    readByte (hexDigit (b.toNat / 16)) (hexDigit (b.toNat % 16)) = some b := by
  have hb := b.toNat_lt
  have hvalue : b.toNat / 16 * 16 + b.toNat % 16 = b.toNat := Nat.div_add_mod' b.toNat 16
  rw [readByte, digits?_hexDigit _ (by omega) _ (by omega), hvalue, Option.map_some,
    UInt8.ofNat_toNat]

theorem readRow_row (p : UInt8) :
    readRow (row below bytes ++ '<' :: hexChars p) = some (bytes, p) := by
  induction bytes with
  | nil =>
    change (readByte _ _).map _ = _
    rw [readByte_hexDigit, Option.map_some]
  | cons b rest ih =>
    have hhigh := hexDigit_ne_bracket (b.toNat / 16) (by have := b.toNat_lt; omega)
    simp only [row, hexChars, List.cons_append, List.nil_append] at ih ⊢
    rw [readRow, readByte_hexDigit, ih]
    · rfl
    · exact fun _ hbracket => absurd hbracket hhigh

theorem readDump_dump (name : String) : readDump (s.dump name) = some (s.window 8, s.ptr) := by
  have hlength : (row s.ptr.toNat (s.window 8) ++ '<' :: hexChars s.ptr).length = 28 := by
    rw [List.length_append, length_row, length_window]
    rfl
  rw [readDump, toList_dump, List.append_assoc, List.length_append, hlength, Nat.add_sub_cancel,
    List.drop_left, readRow_row]

/-- A dump line is faithful. The cell that its loop is at, which goes up by one and wraps, meets the
pointer after eight rounds and not before, and what they write are the eight bytes below the
pointer, oldest first. The pointer and these bytes can be read back from the line alone. If the
pointer is at most 8, a bar stands between the bytes, with as many after it as the pointer says;
otherwise there is none. No other bar is in the line if none is in the name. -/
theorem dump_faithful (name : String) :
    IsLeast {n | (· + 1)^[n] (s.ptr - 8) = s.ptr} 8 ∧
    (s.window 8).length = 8 ∧
    readDump (s.dump name) = some (s.window 8, s.ptr) ∧
    (if s.ptr ≤ 8 then
      ∃ older newer, older ++ newer = s.window 8 ∧ newer.length = s.ptr.toNat ∧
        (s.dump name).toList = name.toList ++ (older.flatMap fun b => ' ' :: hexChars b) ++
          '|' :: (newer.flatMap fun b => hexChars b ++ [' ']) ++ '<' :: hexChars s.ptr
    else
      (s.dump name).toList = name.toList ++
        ' ' :: ((s.window 8).flatMap fun b => hexChars b ++ [' ']) ++ '<' :: hexChars s.ptr) ∧
    ('|' ∉ name.toList → (s.dump name).toList.count '|' = if s.ptr ≤ 8 then 1 else 0) := by
  have hrounds : (s.ptr - (s.ptr - 8)).toNat = 8 := by
    rw [sub_sub_self]
    rfl
  refine ⟨hrounds ▸ isLeast_iterate_add_one _ _, s.length_window 8, s.readDump_dump name, ?_,
    s.count_bar_dump⟩
  split_ifs with h
  · exact s.toList_dump_of_le name h
  · exact s.toList_dump_of_lt name (UInt8.not_le.1 h)

/-- Five bytes over the end of the stack: the pointer is 3, and three of them stand after the
bar. -/
theorem dump_faithful_wrapped :
    let s := (empty.setPtr 0xFE).pushAll [1, 2, 3, 4, 5]
    '|' ∉ "RST".toList ∧ s.dump "RST" = "RST 00 00 00 01 02|03 04 05 <03" ∧
      (s.dump "RST").toList.count '|' = 1 ∧
      readDump (s.dump "RST") = some ([0, 0, 0, 1, 2, 3, 4, 5], 3) := by
  intro s
  have hptr : s.ptr = 3 := by decide +kernel
  have hwindow : s.window 8 = [0, 0, 0, 1, 2] ++ [3, 4, 5] := by decide +kernel
  have hname : '|' ∉ "RST".toList := by decide
  obtain ⟨-, -, hread, hline, hbars⟩ := s.dump_faithful "RST"
  have hcount := hbars hname
  rw [hptr, if_pos (by decide)] at hcount hline
  rw [hptr, hwindow] at hread
  obtain ⟨older, newer, happ, hnewer, hline⟩ := hline
  obtain ⟨rfl, rfl⟩ := List.append_inj' (happ.trans hwindow) hnewer
  exact ⟨hname, String.toList_inj.1 (hline.trans (by decide +kernel)), hcount, hread⟩

end Stack

end FantasyConsole
