import FantasyConsole.Proofs.Stamping

/-!
# What a checksum detects

A checksum is the exclusive or of words, so a change of a byte string changes it by the
exclusive or of the differences between the words. An image that is changed keeps a
checksum exactly if these differences cancel out: a change of one word is always noticed,
and a change before the payload never.
-/
namespace FantasyConsole

def xorAll (ws : List UInt16) : UInt16 := ws.foldr (· ^^^ ·) 0

@[simp] theorem xorAll_nil : xorAll [] = 0 := rfl

@[simp] theorem xorAll_cons (w : UInt16) (ws : List UInt16) :
    xorAll (w :: ws) = w ^^^ xorAll ws := rfl

theorem xorAll_append (v w : List UInt16) : xorAll (v ++ w) = xorAll v ^^^ xorAll w := by
  induction v with
  | nil => exact UInt16.zero_xor.symm
  | cons x v ih => rw [List.cons_append, xorAll_cons, ih, xorAll_cons, UInt16.xor_assoc]

theorem xorAll_map_xor {α : Type} (f g : α → UInt16) (l : List α) :
    xorAll (l.map fun i => f i ^^^ g i) = xorAll (l.map f) ^^^ xorAll (l.map g) := by
  induction l with
  | nil => exact UInt16.xor_self.symm
  | cons a l ih =>
    simp only [List.map_cons, xorAll_cons, ih]
    ac_rfl

theorem xorAll_map_of_zero {α : Type} {f : α → UInt16} {l : List α} (h : ∀ a ∈ l, f a = 0) :
    xorAll (l.map f) = 0 := by
  induction l with
  | nil => rfl
  | cons a l ih =>
    rw [List.forall_mem_cons] at h
    rw [List.map_cons, xorAll_cons, h.1, ih h.2, UInt16.xor_self]

theorem xorAll_map_of_single {α : Type} {f : α → UInt16} {l : List α} {i : α}
    (hl : l.Nodup) (hi : i ∈ l) (h : ∀ a ∈ l, a ≠ i → f a = 0) : xorAll (l.map f) = f i := by
  induction l with
  | nil => exact absurd hi List.not_mem_nil
  | cons a l ih =>
    rw [List.nodup_cons] at hl
    rw [List.forall_mem_cons] at h
    rw [List.map_cons, xorAll_cons]
    rcases List.mem_cons.1 hi with rfl | hi
    · have hrest : xorAll (l.map f) = 0 :=
        xorAll_map_of_zero fun b hb => h.2 b hb (ne_of_mem_of_not_mem hb hl.1)
      rw [hrest, UInt16.xor_zero]
    · have ha : f a = 0 := h.1 (ne_of_mem_of_not_mem hi hl.1).symm
      rw [ha, UInt16.zero_xor, ih hl.2 hi h.2]

variable {bytes a b : Array UInt8}

/-- The checksum from the words, as many as the bytes fill or more. -/
theorem checksum_eq_xorAll {words : Nat} (h : (bytes.size + 1) / 2 ≤ words) :
    checksum bytes = xorAll ((List.range words).map (wordAt bytes)) := by
  rw [← fold_wordAt h]
  clear h
  induction words with
  | zero => rfl
  | succ words ih =>
    rw [Nat.fold_succ, ih, List.range_succ, List.map_append, xorAll_append, List.map_singleton,
      xorAll_cons, xorAll_nil, UInt16.xor_zero]

theorem wordAt_append_left (h : a.size % 2 = 0) {i : Nat} (hi : i < a.size / 2) :
    wordAt (a ++ b) i = wordAt a i := by
  simp only [wordAt, Array.getD_eq_getD_getElem?]
  rw [Array.getElem?_append_left (by omega), Array.getElem?_append_left (by omega)]

theorem wordAt_append_right (h : a.size % 2 = 0) (i : Nat) :
    wordAt (a ++ b) (a.size / 2 + i) = wordAt b i := by
  have hfirst : 2 * (a.size / 2 + i) - a.size = 2 * i := by omega
  have hsecond : 2 * (a.size / 2 + i) + 1 - a.size = 2 * i + 1 := by omega
  simp only [wordAt, Array.getD_eq_getD_getElem?]
  rw [Array.getElem?_append_right (by omega), Array.getElem?_append_right (by omega),
    hfirst, hsecond]

theorem checksum_append (h : a.size % 2 = 0) : checksum (a ++ b) = checksum a ^^^ checksum b := by
  have hleft : (List.range (a.size / 2)).map (wordAt (a ++ b)) =
      (List.range (a.size / 2)).map (wordAt a) :=
    List.map_congr_left fun i hi => wordAt_append_left h (List.mem_range.1 hi)
  have hright : (wordAt (a ++ b) ∘ fun i => a.size / 2 + i) = wordAt b :=
    funext (wordAt_append_right h)
  have hwords : ((a ++ b).size + 1) / 2 ≤ a.size / 2 + (b.size + 1) / 2 := by
    rw [Array.size_append]
    omega
  have ha : checksum a = xorAll ((List.range (a.size / 2)).map (wordAt a)) :=
    checksum_eq_xorAll (by omega)
  have hb : checksum b = xorAll ((List.range ((b.size + 1) / 2)).map (wordAt b)) :=
    checksum_eq_xorAll le_rfl
  rw [checksum_eq_xorAll hwords, ha, hb, List.range_add, List.map_append, List.map_map, hleft,
    hright, xorAll_append]

namespace Header

variable {h : Header} {image image' : Array UInt8}

theorem wordAt_payload (image : Array UInt8) (i : Nat) :
    wordAt (image.extract 256 image.size) i = wordAt image (128 + i) := by
  have hget (j : Nat) : (image.extract 256 image.size).getD j 0 = image.getD (256 + j) 0 := by
    rw [Array.getD_eq_getD_getElem?, Array.getD_eq_getD_getElem?, Array.getElem?_extract]
    split
    · rfl
    · rw [Array.getElem?_eq_none (by omega)]
  have hfirst : 256 + 2 * i = 2 * (128 + i) := by omega
  have hsecond : 256 + (2 * i + 1) = 2 * (128 + i) + 1 := by omega
  rw [wordAt, wordAt, hget, hget, hfirst, hsecond]

/-- The numbers of the words that an image holds after its first page, an odd last byte being one
more. -/
def payloadWords (image : Array UInt8) : List Nat := List.range' 128 ((image.size + 1) / 2 - 128)

/-- An image has the recorded checksum if it has a first page and the words after it add up to the
checksum. -/
theorem verify_eq_true_iff : h.verify image = true ↔
    256 ≤ image.size ∧ xorAll ((payloadWords image).map (wordAt image)) = h.checksum := by
  have hsize : ((image.extract 256 image.size).size + 1) / 2 ≤ (image.size + 1) / 2 - 128 := by
    rw [Array.size_extract]
    omega
  have hwords : wordAt (image.extract 256 image.size) = wordAt image ∘ fun i => 128 + i :=
    funext (wordAt_payload image)
  rw [verify, pageSize, Bool.and_eq_true, decide_eq_true_eq, beq_iff_eq, checksum_eq_xorAll hsize,
    hwords, payloadWords, List.range'_eq_map_range, List.map_map]

/-- The differences between the words of two images after the first page. -/
def differences (image image' : Array UInt8) : List UInt16 :=
  (payloadWords image).map fun i => wordAt image i ^^^ wordAt image' i

theorem payloadWords_of_size_eq (hs : image'.size = image.size) :
    payloadWords image' = payloadWords image := by
  rw [payloadWords, payloadWords, hs]

/-- An image that takes the place of one with the recorded checksum has it too if the differences
cancel out. -/
theorem verify_iff_differences (hv : h.verify image = true) (hs : image'.size = image.size) :
    h.verify image' = true ↔ xorAll (differences image image') = 0 := by
  obtain ⟨hsize, hsum⟩ := verify_eq_true_iff.1 hv
  rw [verify_eq_true_iff, payloadWords_of_size_eq hs, hs, differences, xorAll_map_xor, hsum,
    UInt16.xor_eq_zero_iff, and_iff_right hsize, eq_comm]

theorem getD_congr {j : Nat} (h : image'[j]? = image[j]?) : image'.getD j 0 = image.getD j 0 := by
  rw [Array.getD_eq_getD_getElem?, h, Array.getD_eq_getD_getElem?]

theorem wordAt_congr {i : Nat} (hc : ∀ j, j / 2 = i → image'[j]? = image[j]?) :
    wordAt image' i = wordAt image i := by
  rw [wordAt, wordAt, getD_congr (hc (2 * i) (by omega)), getD_congr (hc (2 * i + 1) (by omega))]

theorem wordAt_ne {j : Nat} (hs : image'.size = image.size) (hj : image'[j]? ≠ image[j]?) :
    wordAt image (j / 2) ≠ wordAt image' (j / 2) := by
  intro hw
  have hhigh : image.getD (2 * (j / 2)) 0 = image'.getD (2 * (j / 2)) 0 := by
    simpa [wordAt] using congrArg highByte hw
  have hlow : image.getD (2 * (j / 2) + 1) 0 = image'.getD (2 * (j / 2) + 1) 0 := by
    simpa [wordAt] using congrArg lowByte hw
  have hbyte : image.getD j 0 = image'.getD j 0 := by
    rcases Nat.mod_two_eq_zero_or_one j with h | h
    · rwa [show 2 * (j / 2) = j by omega] at hhigh
    · rwa [show 2 * (j / 2) + 1 = j by omega] at hlow
  apply hj
  by_cases hlt : j < image.size
  · have hlt' : j < image'.size := hs ▸ hlt
    rw [Array.getElem?_eq_getElem hlt, Array.getElem?_eq_getElem hlt']
    simpa [Array.getD_eq_getD_getElem?, hlt, hlt'] using hbyte.symm
  · rw [Array.getElem?_eq_none (by omega), Array.getElem?_eq_none (by omega)]

theorem verify_of_changed_word (hv : h.verify image = true) (hs : image'.size = image.size)
    {j : Nat} (hj : 256 ≤ j)
    (hne : image'[j]? ≠ image[j]?) (hc : ∀ k, 256 ≤ k → k / 2 ≠ j / 2 → image'[k]? = image[k]?) :
    h.verify image' = false := by
  have hlt : j < image.size := by
    by_contra hge
    exact hne (by rw [Array.getElem?_eq_none (by omega), Array.getElem?_eq_none (by omega)])
  have hmem : j / 2 ∈ payloadWords image := by
    rw [payloadWords, List.mem_range'_1]
    omega
  have hsum : xorAll (differences image image') =
      wordAt image (j / 2) ^^^ wordAt image' (j / 2) := by
    refine xorAll_map_of_single List.nodup_range' hmem fun i hi hij => ?_
    rw [payloadWords, List.mem_range'_1] at hi
    rw [UInt16.xor_eq_zero_iff]
    exact (wordAt_congr fun k hk => hc k (by omega) (by omega)).symm
  rw [Bool.eq_false_iff, ne_eq, verify_iff_differences hv hs, hsum, UInt16.xor_eq_zero_iff]
  exact wordAt_ne hs hne

theorem verify_of_payload_eq (hs : image'.size = image.size)
    (hc : ∀ j, 256 ≤ j → image'[j]? = image[j]?) :
    h.verify image' = h.verify image := by
  have hwords : (payloadWords image').map (wordAt image') =
      (payloadWords image).map (wordAt image) := by
    rw [payloadWords_of_size_eq hs]
    refine List.map_congr_left fun i hi => wordAt_congr fun j hj => hc j ?_
    rw [payloadWords, List.mem_range'_1] at hi
    omega
  rw [Bool.eq_iff_iff, verify_eq_true_iff, verify_eq_true_iff, hs, hwords]

end Header

/-- What a checksum detects. A checksum of two strings is the exclusive or of their checksums if the
first ends with a word, and zeros at the end do not show; so the checksum of a stamped image is that
of the payload, or of what is kept of it. An image that has its recorded checksum can be replaced by
one of the same size exactly if the differences between the words of the payload cancel out; a
change of one of these words is always noticed, with or without a change of the first page, and a
change of the first page alone never. -/
theorem checksum_detects :
    (∀ a b : Array UInt8, a.size % 2 = 0 → checksum (a ++ b) = checksum a ^^^ checksum b) ∧
    (∀ (a : Array UInt8) (count : Nat), checksum (a ++ Array.replicate count 0) = checksum a) ∧
    (∀ (info : HeaderInfo) (payload image : Array UInt8), info.stamp payload = .ok image →
      ∃ h, Header.parse image = .ok h ∧
        h.checksum = checksum (image.extract 256 image.size) ∧
        h.checksum = checksum (payload.extract 0 (65535 * 256)) ∧
        (payload.size ≤ 65535 * 256 → h.checksum = checksum payload)) ∧
    ∀ (h : Header) (image image' : Array UInt8), image'.size = image.size →
      (h.verify image = true →
        (h.verify image' = true ↔ xorAll (Header.differences image image') = 0)) ∧
      (h.verify image = true → ∀ j, 256 ≤ j → image'[j]? ≠ image[j]? →
        (∀ k, 256 ≤ k → k / 2 ≠ j / 2 → image'[k]? = image[k]?) → h.verify image' = false) ∧
      ((∀ j, 256 ≤ j → image'[j]? = image[j]?) → h.verify image' = h.verify image) := by
  refine ⟨fun _ _ => checksum_append, checksum_append_zeros, fun info payload image hstamp => ?_,
    fun _ _ _ hs => ⟨fun hv => Header.verify_iff_differences hv hs,
      fun hv _ hj hne hc => Header.verify_of_changed_word hv hs hj hne hc,
      Header.verify_of_payload_eq hs⟩⟩
  obtain ⟨hfits, rfl⟩ := (HeaderInfo.stamp_eq_ok_iff payload).1 hstamp
  have hsize := HeaderInfo.size_page (HeaderInfo.body payload) hfits
  have hrest := HeaderInfo.extract_stamped_body (HeaderInfo.body payload) hfits
    (Array.size_append.trans (congrArg (· + (HeaderInfo.body payload).size) hsize))
  refine ⟨_, HeaderInfo.parse_stamped _ hfits, ?_, HeaderInfo.checksum_body payload,
    fun hshort => ?_⟩
  · rw [hrest]
  · rw [HeaderInfo.checksum_body, Array.extract_eq_self_of_le hshort]

/-- An image with an odd last byte, which is the high byte of the second word of the payload: the
same change of two high bytes goes unnoticed, a change of the last byte does not. -/
theorem checksum_detects_oddLength :
    let image (first last : UInt8) : Array UInt8 := Array.replicate 256 0 ++ #[first, 0x34, last]
    let h : Header := ⟨"B6X", 0x0100, "", "", 0x4434, 2, 0⟩
    h.verify (image 0x12 0x56) = true ∧ h.verify (image 0x13 0x57) = true ∧
    h.verify (image 0x12 0x57) = false := by
  intro image h
  have hverify : h.verify (image 0x12 0x56) = true := by decide +kernel
  have hsize (first last : UInt8) : (image first last).size = 259 := by simp [image]
  obtain ⟨-, -, -, hdetects⟩ := checksum_detects
  have hboth := (hdetects h (image 0x12 0x56) (image 0x13 0x57) (by rw [hsize, hsize])).1 hverify
  have hlast :=
    (hdetects h (image 0x12 0x56) (image 0x12 0x57) (by rw [hsize, hsize])).2.1 hverify
      258 (by decide)
    (by decide +kernel)
  refine ⟨hverify, hboth.2 (by decide +kernel), hlast fun k hk hw => ?_⟩
  obtain rfl | rfl | hend : k = 256 ∨ k = 257 ∨ 259 ≤ k := by omega
  · decide +kernel
  · decide +kernel
  · rw [Array.getElem?_eq_none (by rwa [hsize]), Array.getElem?_eq_none (by rwa [hsize])]

end FantasyConsole
