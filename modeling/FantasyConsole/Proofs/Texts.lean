import Mathlib.Data.List.TakeWhile
import Mathlib.Tactic.SplitIfs
import FantasyConsole.Rom.Stamp

/-!
# Texts in header fields

A text is stored as its UTF-8 bytes and read up to the first zero byte. No character
but NUL has a zero among its bytes, so what is read is the text up to its first NUL.
-/
namespace FantasyConsole

namespace Utf8

theorem decodeFrom_cons (state : Option Partial) (b : UInt8) (bs : List UInt8) :
    decodeFrom state (b :: bs) = (next state b).1 ++ decodeFrom (next state b).2 bs := by
  cases state <;> rfl

/-! ## Reading one byte -/

section Bytes

variable {d : Nat}

theorem toNat_byte (h : d < 256) : (UInt8.ofNat d).toNat = d := UInt8.toNat_ofNat_of_lt' h

theorem lead_one (h : d < 0x80) : lead (UInt8.ofNat d) = ([some (Char.ofNat d)], none) := by
  have hv := toNat_byte (d := d) (by omega)
  simp only [lead, UInt8.lt_iff_toNat_lt, hv, UInt8.reduceToNat]
  rw [if_pos h]

theorem lead_two (hd : 2 ≤ d) (h : d < 0x20) :
    lead (UInt8.ofNat (d + 0xC0)) = ([], some ⟨d, 1, 0x80, 0xBF⟩) := by
  have hv := toNat_byte (d := d + 0xC0) (by omega)
  simp only [lead, UInt8.lt_iff_toNat_lt, hv, UInt8.reduceToNat]
  rw [if_neg (by omega), if_neg (by omega), if_pos (by omega), Nat.add_sub_cancel]

theorem lead_three (h : d < 0x10) : lead (UInt8.ofNat (d + 0xE0)) =
    ([], some ⟨d, 2, if d = 0 then 0xA0 else 0x80, if d = 0xD then 0x9F else 0xBF⟩) := by
  have hv := toNat_byte (d := d + 0xE0) (by omega)
  simp only [lead, UInt8.lt_iff_toNat_lt, ← UInt8.toNat_inj, hv, UInt8.reduceToNat]
  rw [if_neg (by omega), if_neg (by omega), if_neg (by omega), if_pos (by omega),
    Nat.add_sub_cancel]
  simp

theorem lead_four (h : d < 5) : lead (UInt8.ofNat (d + 0xF0)) =
    ([], some ⟨d, 3, if d = 0 then 0x90 else 0x80, if d = 4 then 0x8F else 0xBF⟩) := by
  have hv := toNat_byte (d := d + 0xF0) (by omega)
  simp only [lead, UInt8.lt_iff_toNat_lt, ← UInt8.toNat_inj, hv, UInt8.reduceToNat]
  rw [if_neg (by omega), if_neg (by omega), if_neg (by omega), if_neg (by omega), if_pos (by omega),
    Nat.add_sub_cancel]
  simp

variable {p : Partial} (h : d < 64) (hlow : p.low.toNat ≤ d + 0x80)
    (hhigh : d + 0x80 ≤ p.high.toNat)
include h hlow hhigh

theorem next_continuation : next (some p) (UInt8.ofNat (d + 0x80)) =
    if p.missing = 1 then ([some (Char.ofNat (p.value * 64 + d))], none)
    else ([], some ⟨p.value * 64 + d, p.missing - 1, 0x80, 0xBF⟩) := by
  have hv := toNat_byte (d := d + 0x80) (by omega)
  have hrange : (p.low ≤ UInt8.ofNat (d + 0x80) && UInt8.ofNat (d + 0x80) ≤ p.high) = true := by
    simp only [UInt8.le_iff_toNat_le, hv, hlow, hhigh, decide_true, Bool.and_self]
  have hd : (d + 0x80) % 64 = d := by omega
  rw [next, if_pos hrange, hv]
  dsimp only
  rw [hd]

theorem decodeFrom_last (hm : p.missing = 1) (bs : List UInt8) :
    decodeFrom (some p) (UInt8.ofNat (d + 0x80) :: bs) =
      some (Char.ofNat (p.value * 64 + d)) :: decodeFrom none bs := by
  rw [decodeFrom_cons, next_continuation h hlow hhigh, if_pos hm]
  rfl

theorem decodeFrom_more (hm : p.missing ≠ 1) (bs : List UInt8) :
    decodeFrom (some p) (UInt8.ofNat (d + 0x80) :: bs) =
      decodeFrom (some ⟨p.value * 64 + d, p.missing - 1, 0x80, 0xBF⟩) bs := by
  rw [decodeFrom_cons, next_continuation h hlow hhigh, if_neg hm]
  rfl

end Bytes

/-! ## Reading a character -/

section Characters

variable {v : Nat} (bs : List UInt8)

theorem decodeFrom_two (hlow : 0x80 ≤ v) (hhigh : v < 0x800) :
    decodeFrom none (UInt8.ofNat (v / 64 % 0x20 + 0xC0) :: UInt8.ofNat (v % 64 + 0x80) :: bs) =
      some (Char.ofNat v) :: decodeFrom none bs := by
  have hlead : v / 64 % 0x20 = v / 64 := Nat.mod_eq_of_lt (by omega)
  have hv : v / 64 * 64 + v % 64 = v := by omega
  rw [hlead, decodeFrom_cons, next, lead_two (by omega) (by omega), List.nil_append,
    decodeFrom_last (by omega) (by simp) (by simp; omega) rfl, hv]

/-- The range of the second byte rules out what fits in two bytes, and the surrogates. -/
theorem decodeFrom_three (hlow : 0x800 ≤ v) (hhigh : v < 0x10000)
    (hsurrogate : v < 0xD800 ∨ 0xDFFF < v) :
    decodeFrom none (UInt8.ofNat (v / 4096 % 0x10 + 0xE0) :: UInt8.ofNat (v / 64 % 64 + 0x80) ::
      UInt8.ofNat (v % 64 + 0x80) :: bs) = some (Char.ofNat v) :: decodeFrom none bs := by
  have hlead : v / 4096 % 0x10 = v / 4096 := Nat.mod_eq_of_lt (by omega)
  have hv : (v / 4096 * 64 + v / 64 % 64) * 64 + v % 64 = v := by omega
  have hfirst : (if v / 4096 = 0 then (0xA0 : UInt8) else 0x80).toNat ≤ v / 64 % 64 + 0x80 := by
    split
    · simp
      omega
    · simp
  have hlast : v / 64 % 64 + 0x80 ≤ (if v / 4096 = 0xD then (0x9F : UInt8) else 0xBF).toNat := by
    split <;> simp <;> omega
  rw [hlead, decodeFrom_cons, next, lead_three (by omega), List.nil_append,
    decodeFrom_more (by omega) hfirst hlast (by simp),
    decodeFrom_last (by omega) (by simp) (by simp; omega) rfl, hv]

/-- The range of the second byte rules out what fits in three bytes, and what is past the last
character. -/
theorem decodeFrom_four (hlow : 0x10000 ≤ v) (hhigh : v < 0x110000) :
    decodeFrom none (UInt8.ofNat (v / 262144 % 0x08 + 0xF0) :: UInt8.ofNat (v / 4096 % 64 + 0x80) ::
      UInt8.ofNat (v / 64 % 64 + 0x80) :: UInt8.ofNat (v % 64 + 0x80) :: bs) =
        some (Char.ofNat v) :: decodeFrom none bs := by
  have hlead : v / 262144 % 0x08 = v / 262144 := Nat.mod_eq_of_lt (by omega)
  have hv : ((v / 262144 * 64 + v / 4096 % 64) * 64 + v / 64 % 64) * 64 + v % 64 = v := by omega
  have hfirst : (if v / 262144 = 0 then (0x90 : UInt8) else 0x80).toNat ≤ v / 4096 % 64 + 0x80 := by
    split
    · simp
      omega
    · simp
  have hlast : v / 4096 % 64 + 0x80 ≤ (if v / 262144 = 4 then (0x8F : UInt8) else 0xBF).toNat := by
    split <;> simp <;> omega
  rw [hlead, decodeFrom_cons, next, lead_four (by omega), List.nil_append,
    decodeFrom_more (by omega) hfirst hlast (by simp),
    decodeFrom_more (by omega) (by simp) (by simp; omega) (by simp),
    decodeFrom_last (by omega) (by simp) (by simp; omega) rfl, hv]

theorem decodeFrom_encoded (c : Char) :
    decodeFrom none (String.utf8EncodeChar c ++ bs) = some c :: decodeFrom none bs := by
  have hvalid : c.val.toNat < 0xD800 ∨ 0xDFFF < c.val.toNat ∧ c.val.toNat < 0x110000 := c.valid
  have hc : Char.ofNat c.val.toNat = c := Char.ofNat_toNat c
  unfold String.utf8EncodeChar
  dsimp only
  split_ifs
  · rw [List.cons_append, decodeFrom_cons, next, lead_one (by omega), hc]
    rfl
  · exact (decodeFrom_two bs (by omega) (by omega)).trans (by rw [hc])
  · exact (decodeFrom_three bs (by omega) (by omega) (by omega)).trans (by rw [hc])
  · exact (decodeFrom_four bs (by omega) (by omega)).trans (by rw [hc])

end Characters

theorem decode_encoded (cs : List Char) :
    decode (cs.flatMap String.utf8EncodeChar) = cs.map some := by
  induction cs with
  | nil => rfl
  | cons c cs ih => rw [List.flatMap_cons, decode, decodeFrom_encoded, List.map_cons, ← ih, decode]

end Utf8

namespace HeaderInfo

theorem utf8_eq (s : String) : utf8 s = s.toList.flatMap String.utf8EncodeChar := by
  rw [utf8, String.toUTF8_eq_toByteArray, ← String.utf8Encode_toList, List.utf8Encode,
    List.toList_data_toByteArray]

theorem decodeLossy_utf8 (s : String) : Utf8.decodeLossy (utf8 s) = s := by
  rw [Utf8.decodeLossy, utf8_eq, Utf8.decode_encoded, List.map_map]
  exact (congrArg String.ofList (List.map_id s.toList)).trans String.ofList_toList

/-- The text up to its first NUL. -/
def untilNul (s : String) : String := String.ofList (s.toList.takeWhile (· != '\x00'))

theorem utf8EncodeChar_ne_zero {c : Char} (hc : c ≠ '\x00') {b : UInt8}
    (hb : b ∈ String.utf8EncodeChar c) : b ≠ 0 := by
  have hpos : c.val.toNat ≠ 0 := fun h => hc (Char.toNat_inj.1 h)
  have hzero (n : Nat) : 0 = UInt8.ofNat n ↔ n % 256 = 0 := by
    rw [eq_comm, ← UInt8.toNat_inj]
    simp
  rintro rfl
  unfold String.utf8EncodeChar at hb
  dsimp only at hb
  split_ifs at hb <;> simp only [List.mem_cons, List.not_mem_nil, or_false, hzero] at hb <;> omega

theorem takeWhile_encoded (cs : List Char) : (cs.flatMap String.utf8EncodeChar).takeWhile (· != 0) =
    (cs.takeWhile (· != '\x00')).flatMap String.utf8EncodeChar := by
  induction cs with
  | nil => rfl
  | cons c cs ih =>
    by_cases hc : c = '\x00'
    · subst hc
      rfl
    · rw [List.flatMap_cons, List.takeWhile_cons_of_pos (by simpa using hc),
        List.flatMap_cons, ← ih]
      exact List.takeWhile_append_of_pos fun b hb => by simpa using utf8EncodeChar_ne_zero hc hb

theorem takeWhile_utf8 (s : String) : (utf8 s).takeWhile (· != 0) = utf8 (untilNul s) := by
  rw [utf8_eq, utf8_eq, takeWhile_encoded, untilNul, String.toList_ofList]

theorem untilNul_of_not_mem {s : String} (h : '\x00' ∉ s.toList) : untilNul s = s := by
  have hall : s.toList.takeWhile (· != '\x00') = s.toList := by
    refine List.takeWhile_eq_self_iff.2 fun c hc => bne_iff_ne.2 ?_
    rintro rfl
    exact h hc
  rw [untilNul, hall, String.ofList_toList]

end HeaderInfo

end FantasyConsole
