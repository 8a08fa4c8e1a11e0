import Mathlib.Algebra.Ring.Nat
import FantasyConsole.Proofs.Texts

/-!
# Stamped images

What stamping writes is read back. The header page is eleven pieces in a row, so a
field is found by the lengths of the pieces before it. The zeros that pad a payload do
not show in its checksum, and a payload that has been padded and cut once is not
changed by stamping it again.
-/
namespace FantasyConsole

/-! ## Checksums of padded bytes -/

theorem wordAt_of_size_le {bytes : Array UInt8} {i : Nat} (h : bytes.size ≤ 2 * i) :
    wordAt bytes i = 0 := by
  rw [wordAt, Array.getD_eq_getD_getElem?, Array.getD_eq_getD_getElem?, Array.getElem?_eq_none h,
    Array.getElem?_eq_none (by omega)]
  rfl

theorem fold_wordAt {bytes : Array UInt8} {words : Nat} (h : (bytes.size + 1) / 2 ≤ words) :
    Nat.fold words (fun i _ sum => sum ^^^ wordAt bytes i) 0 = checksum bytes := by
  induction h with
  | refl => rfl
  | step h ih =>
    rw [Nat.fold_succ, ih, wordAt_of_size_le (by have := Nat.le.dest h; omega), UInt16.xor_zero]

theorem wordAt_append_zeros (bytes : Array UInt8) (count i : Nat) :
    wordAt (bytes ++ Array.replicate count 0) i = wordAt bytes i := by
  have hget (j : Nat) : (bytes ++ Array.replicate count 0).getD j 0 = bytes.getD j 0 := by
    simp only [Array.getD_eq_getD_getElem?, Array.getElem?_append, Array.getElem?_replicate]
    split
    · rfl
    · rename_i hj
      rw [Array.getElem?_eq_none (Nat.le_of_not_lt hj)]
      split <;> rfl
  simp only [wordAt, hget]

theorem checksum_append_zeros (bytes : Array UInt8) (count : Nat) :
    checksum (bytes ++ Array.replicate count 0) = checksum bytes := by
  rw [checksum]
  simp only [wordAt_append_zeros]
  exact fold_wordAt (by simp; omega)

namespace Header

/-! ## Fields -/

theorem length_pad {size : Nat} {bytes : List UInt8} (h : bytes.length ≤ size) :
    (pad size bytes).length = size := by
  rw [pad, List.length_append, List.length_replicate, Nat.add_sub_cancel' h]

theorem wordOf_wordBytes (w : UInt16) : wordOf (wordBytes w) = w := word_highByte_lowByte w

theorem takeWhile_append_zeros (bytes : List UInt8) (count : Nat) :
    (bytes ++ List.replicate count 0).takeWhile (· != 0) = bytes.takeWhile (· != 0) := by
  induction bytes with
  | nil => cases count <;> simp [List.replicate_succ]
  | cons b bytes ih => simp only [List.cons_append, List.takeWhile_cons, ih]

/-- A text that fits its field is read up to its first NUL, also where it fills the field. -/
theorem textOf_pad (size : Nat) (s : String) :
    textOf (pad size (HeaderInfo.utf8 s)) = HeaderInfo.untilNul s := by
  rw [textOf, pad, takeWhile_append_zeros, HeaderInfo.takeWhile_utf8, HeaderInfo.decodeLossy_utf8]

theorem toNat_shift_or (t : UInt64) (b : UInt8) (h : t.toNat < 2 ^ 56) :
    (t <<< 8 ||| b.toUInt64).toNat = t.toNat * 256 + b.toNat := by
  have hb := b.toNat_lt
  have he : (8 : UInt64).toNat % 64 = 8 := by decide
  have hs : (t <<< 8 : UInt64).toNat = 2 ^ 8 * t.toNat := by
    rw [UInt64.toNat_shiftLeft, he, Nat.shiftLeft_eq]
    omega
  rw [UInt64.toNat_or, hs, UInt8.toNat_toUInt64, ← Nat.two_pow_add_eq_or_of_lt (by omega)]
  omega

theorem toNat_byteAt (t : UInt64) {k : Nat} (h : k < 8) :
    (t >>> UInt64.ofNat (8 * k)).toUInt8.toNat = t.toNat / 256 ^ k % 256 := by
  have hk : (UInt64.ofNat (8 * k)).toNat % 64 = 8 * k := by
    rw [UInt64.toNat_ofNat']
    omega
  rw [UInt64.toNat_toUInt8, UInt64.toNat_shiftRight, hk, Nat.shiftRight_eq_div_pow, Nat.pow_mul]

theorem toNat_foldr_bytes (t : UInt64) {k count : Nat} (h : k + count ≤ 8) :
    ((List.range' k count).foldr (fun i (s : UInt64) =>
      s <<< 8 ||| (t >>> UInt64.ofNat (8 * i)).toUInt8.toUInt64) 0).toNat =
        t.toNat / 256 ^ k % 256 ^ count := by
  induction count generalizing k with
  | zero => simp [Nat.mod_one]
  | succ count ih =>
    have hrest := ih (k := k + 1) (by omega)
    have hsmall : t.toNat / 256 ^ (k + 1) % 256 ^ count < 2 ^ 56 := by
      have hpow : 256 ^ count ≤ 256 ^ 7 := Nat.pow_le_pow_right (by decide) (by omega)
      exact Nat.lt_of_lt_of_le (Nat.mod_lt _ (Nat.pow_pos (by decide))) hpow
    rw [List.range'_succ, List.foldr_cons, toNat_shift_or _ _ (hrest ▸ hsmall), hrest,
      toNat_byteAt t (by omega), Nat.pow_succ 256 k, ← Nat.div_div_eq_div_mul, Nat.pow_succ,
      Nat.mul_comm (256 ^ count), Nat.mod_mul]
    omega

theorem timeOf_timeBytes (t : Int64) : timeOf (timeBytes t) = t := by
  have hfold := toNat_foldr_bytes t.toUInt64 (show 0 + 8 ≤ 8 by omega)
  have hlt : t.toUInt64.toNat < 256 ^ 8 := t.toUInt64.toNat_lt
  rw [Nat.pow_zero, Nat.div_one, Nat.mod_eq_of_lt hlt] at hfold
  rw [timeOf, timeBytes, List.foldr_map, List.range_eq_range', UInt64.toNat_inj.1 hfold]
  exact Int64.toInt64_toUInt64 t

/-! ## The page as pieces in a row -/

/-- A piece is found at the sum of the lengths before it. -/
theorem extract_flatten {pieces : List (List UInt8)} {piece : List UInt8} {i : Nat}
    (h : pieces[i]? = some piece) (rest : List UInt8) :
    ((pieces.flatten ++ rest).drop ((pieces.map List.length).take i).sum).take piece.length =
      piece := by
  induction pieces generalizing i with
  | nil => simp at h
  | cons first pieces ih =>
    cases i with
    | zero =>
      obtain rfl : first = piece := by simpa using h
      simp
    | succ i =>
      rw [List.map_cons, List.take_succ_cons, List.sum_cons, List.flatten_cons, List.append_assoc,
        ← List.drop_drop, List.drop_left]
      exact ih (by simpa using h)

end Header

namespace HeaderInfo

variable (info : HeaderInfo) (payload body : Array UInt8)

def pieces : List (List UInt8) :=
  [Header.signature, Header.systemName, List.replicate 7 0, Header.wordBytes info.version,
    Header.pad Header.titleSize (utf8 info.title), Header.pad Header.authorSize (utf8 info.author),
    Header.wordBytes (checksum body),
    Header.wordBytes (UInt16.ofNat (body.size / Header.pageSize + 1)), List.replicate 12 0,
    Header.timeBytes info.created, List.replicate 136 0]

theorem page_eq : info.page body = (info.pieces body).flatten := by
  simp [page, pieces]

def Fits : Prop := (utf8 info.title).length ≤ 48 ∧ (utf8 info.author).length ≤ 32

variable {info}

theorem map_length_pieces (h : info.Fits) :
    (info.pieces body).map List.length = [4, 3, 7, 2, 48, 32, 2, 2, 12, 8, 136] := by
  have htitle := Header.length_pad h.1
  have hauthor := Header.length_pad h.2
  rw [pieces, Header.titleSize, Header.authorSize]
  simp only [List.map_cons, List.map_nil, htitle, hauthor]
  rfl

theorem size_page (h : info.Fits) : (info.page body).toArray.size = 256 := by
  rw [List.size_toArray, page_eq, List.length_flatten, map_length_pieces body h]
  rfl

theorem extract_stamped (h : info.Fits) (i start size : Nat) {piece : List UInt8}
    (hp : (info.pieces body)[i]? = some piece)
    (hs : ([4, 3, 7, 2, 48, 32, 2, 2, 12, 8, 136].take i).sum = start) (hz : piece.length = size) :
    (((info.page body).toArray ++ body).extract start (start + size)).toList = piece := by
  have hx := Header.extract_flatten hp body.toList
  rw [map_length_pieces body h, hs, hz, ← page_eq] at hx
  rw [Array.toList_extract, List.extract_eq_take_drop, Nat.add_sub_cancel_left, Array.toList_append]
  exact hx

theorem isSigned_stamped (h : info.Fits) :
    Header.isSigned ((info.page body).toArray ++ body) = true := by
  rw [Header.isSigned, extract_stamped body h 0 0 4 rfl rfl rfl]
  rfl

theorem parse_stamped (h : info.Fits) : Header.parse ((info.page body).toArray ++ body) =
    .ok ⟨"B6X", info.version, untilNul info.title, untilNul info.author, checksum body,
      UInt16.ofNat (body.size / 256 + 1), info.created⟩ := by
  have hsize : ¬((info.page body).toArray ++ body).size < Header.pageSize := by
    rw [Array.size_append, size_page body h, Header.pageSize]
    omega
  have htitle := extract_stamped body h 4 0x10 Header.titleSize rfl rfl (Header.length_pad h.1)
  have hauthor := extract_stamped body h 5 0x40 Header.authorSize rfl rfl (Header.length_pad h.2)
  rw [Header.parse, if_neg hsize, isSigned_stamped body h]
  simp only [extract_stamped body h 1 0x04 3 rfl rfl rfl,
    extract_stamped body h 3 0x0E 2 rfl rfl rfl, htitle, hauthor,
    extract_stamped body h 6 0x60 2 rfl rfl rfl, extract_stamped body h 7 0x62 2 rfl rfl rfl,
    extract_stamped body h 9 0x70 8 rfl rfl rfl, Header.textOf_pad, Header.wordOf_wordBytes,
    Header.timeOf_timeBytes]
  rfl

/-! ## The padded payload -/

theorem body_eq : HeaderInfo.body payload = payload.extract 0 (65535 * 256) ++
    Array.replicate (256 * min ((payload.size + 255) / 256) 65535 -
      (payload.extract 0 (65535 * 256)).size) 0 := by
  rw [Nat.mul_comm 256]
  rfl

theorem size_body :
    (HeaderInfo.body payload).size = 256 * min ((payload.size + 255) / 256) 65535 := by
  rw [body_eq, Array.size_append, Array.size_replicate, Array.size_extract]
  omega

theorem checksum_body :
    checksum (HeaderInfo.body payload) = checksum (payload.extract 0 (65535 * 256)) := by
  rw [body_eq, checksum_append_zeros]

theorem body_body : HeaderInfo.body (HeaderInfo.body payload) = HeaderInfo.body payload := by
  have hsize := size_body payload
  have hkept : (HeaderInfo.body payload).extract 0 (65535 * 256) = HeaderInfo.body payload :=
    Array.extract_eq_self_of_le (by omega)
  have hzeros :
      256 * min (((HeaderInfo.body payload).size + 255) / 256) 65535 -
      (HeaderInfo.body payload).size = 0 := by
    omega
  rw [body_eq (HeaderInfo.body payload), hkept, hzeros, Array.replicate_zero, Array.append_empty]

theorem getD_body {j : Nat} (hj : j < 65535 * 256) :
    (HeaderInfo.body payload).getD j 0 = payload.getD j 0 := by
  simp only [body_eq, Array.getD_eq_getD_getElem?, Array.getElem?_append, Array.size_extract,
    Array.getElem?_replicate]
  by_cases hp : j < payload.size
  · rw [if_pos (by omega), Array.getElem?_extract, if_pos (by omega), Nat.zero_add]
  · rw [if_neg (by omega), Array.getElem?_eq_none (Nat.le_of_not_lt hp)]
    split <;> rfl

/-! ## Stamping -/

theorem stamp_of_fits (h : info.Fits) : info.stamp payload =
    .ok ((info.page (HeaderInfo.body payload)).toArray ++ HeaderInfo.body payload) := by
  have ht : ¬Header.titleSize < (utf8 info.title).length := Nat.not_lt.2 h.1
  have ha : ¬Header.authorSize < (utf8 info.author).length := Nat.not_lt.2 h.2
  simp only [stamp, if_neg ht, if_neg ha]

theorem stamp_eq_ok_iff {image : Array UInt8} : info.stamp payload = .ok image ↔
    info.Fits ∧ image = (info.page (HeaderInfo.body payload)).toArray ++
    HeaderInfo.body payload := by
  constructor
  · intro h
    have hfits : info.Fits := by
      rw [stamp] at h
      dsimp only at h
      split_ifs at h with ht ha
      exact ⟨Nat.le_of_not_lt ht, Nat.le_of_not_lt ha⟩
    rw [stamp_of_fits payload hfits] at h
    exact ⟨hfits, (Except.ok.inj h).symm⟩
  · rintro ⟨hfits, rfl⟩
    exact stamp_of_fits payload hfits

theorem size_stamped (h : info.Fits) :
    ((info.page (HeaderInfo.body payload)).toArray ++ HeaderInfo.body payload).size =
      256 * (min ((payload.size + 255) / 256) 65535 + 1) := by
  rw [Array.size_append, size_page _ h, size_body]
  omega

theorem getD_stamped (h : info.Fits) (j : Nat) :
    ((info.page body).toArray ++ body).getD (256 + j) 0 = body.getD j 0 := by
  have hpage := size_page body h
  rw [Array.getD_eq_getD_getElem?, Array.getElem?_append_right (by omega), hpage,
    Nat.add_sub_cancel_left, Array.getD_eq_getD_getElem?]

theorem extract_stamped_body (h : info.Fits) {size : Nat} (hs : size = 256 + body.size) :
    ((info.page body).toArray ++ body).extract 256 size = body := by
  have hpage := size_page body h
  rw [hs, ← hpage]
  simp

variable (info)

/-- Stamping. A title of more than 48 bytes or an author of more than 32 is refused. Otherwise the
payload, or its first 65535 pages, stands after the header, padded with zeros to whole pages; the
header is read back as it was given, up to the first NUL of each text, with a checksum that the
image has; and if there are no NULs, stamping what follows the header with what was read gives the
image again. -/
theorem stamp_spec :
    (48 < (utf8 info.title).length →
      info.stamp payload = .error (.longTitle (utf8 info.title).length)) ∧
    ((utf8 info.title).length ≤ 48 → 32 < (utf8 info.author).length →
      info.stamp payload = .error (.longAuthor (utf8 info.author).length)) ∧
    ((utf8 info.title).length ≤ 48 → (utf8 info.author).length ≤ 32 →
      let n := min ((payload.size + 255) / 256) 65535
      let kept := payload.extract 0 (65535 * 256)
      ∃ image h, info.stamp payload = .ok image ∧
        image.size = 256 * (n + 1) ∧
        image.extract 256 image.size = kept ++ Array.replicate (256 * n - kept.size) 0 ∧
        Header.parse image = .ok h ∧
        h = ⟨"B6X", info.version, untilNul info.title, untilNul info.author,
          FantasyConsole.checksum kept, UInt16.ofNat (n + 1), info.created⟩ ∧
        h.verify image = true ∧
        ('\x00' ∉ info.title.toList → '\x00' ∉ info.author.toList →
          stamp ⟨h.title, h.author, h.version, h.created⟩ (image.extract 256 image.size) =
            .ok image)) := by
  refine ⟨fun ht => ?_, fun ht ha => ?_, fun ht ha => ?_⟩
  · exact if_pos ht
  · exact (if_neg (Nat.not_lt.2 ht)).trans (if_pos ha)
  · have h : info.Fits := ⟨ht, ha⟩
    have hsize := size_body payload
    have himage := size_stamped payload h
    have hrest := extract_stamped_body (HeaderInfo.body payload) h (himage.trans (by omega))
    have hparse := parse_stamped (HeaderInfo.body payload) h
    have hpages : (HeaderInfo.body payload).size / 256 =
        min ((payload.size + 255) / 256) 65535 := by omega
    rw [checksum_body, hpages] at hparse
    refine ⟨_, _, stamp_of_fits payload h, himage, hrest.trans (body_eq payload), hparse, rfl, ?_,
      fun hnt hna => ?_⟩
    · have hlong : 256 ≤ 256 * (min ((payload.size + 255) / 256) 65535 + 1) := by omega
      rw [Header.verify, Header.pageSize, hrest, checksum_body]
      simp [himage, hlong]
    · dsimp only
      rw [untilNul_of_not_mem hnt, untilNul_of_not_mem hna, hrest, stamp_of_fits _ h, body_body]

/-- A title that leaves no room for a zero after it. -/
theorem stamp_spec_fullTitle : ∃ image h,
    stamp ⟨String.ofList (List.replicate 48 'A'), "Ä", 0x0100, -1⟩ #[1, 2, 3] = .ok image ∧
      image.size = 512 ∧ Header.parse image = .ok h ∧
      h.title = String.ofList (List.replicate 48 'A') ∧
      h.author = "Ä" ∧ h.created = -1 ∧ h.verify image = true := by
  obtain ⟨-, -, hfits⟩ :=
    stamp_spec ⟨String.ofList (List.replicate 48 'A'), "Ä", 0x0100, -1⟩ #[1, 2, 3]
  obtain ⟨image, h, hs, hsize, -, hp, rfl, hv, -⟩ := hfits (by decide +kernel) (by decide +kernel)
  exact ⟨image, _, hs, hsize, hp, untilNul_of_not_mem (by simp),
    untilNul_of_not_mem (by decide +kernel), rfl, hv⟩

end HeaderInfo

end FantasyConsole
