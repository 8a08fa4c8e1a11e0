import FantasyConsole.Proofs.Paging
import FantasyConsole.Proofs.Stamping

/-!
# Stamped images in memory

The header is page zero of an image. Booting puts it at address zero and the payload
behind it, where the entry of a stamped image is; the pager counts the same pages, so
payload page `i` is its page `i + 1`, also where the image is longer than memory.
-/
namespace FantasyConsole

namespace Machine

variable (m : Machine) (image : Array UInt8) (entry : UInt16)

/-- The machine on which booting starts its run. -/
def readied : Machine :=
  let kept := min image.size 65536
  let m := if kept < image.size then m.note (.imageCut image.size kept) else m
  let m := m.load 0 (image.extract 0 kept)
  m.note (.booting entry)

theorem boot_eq (fuel : Nat) :
    m.boot fuel image entry = (m.readied image entry).run fuel entry := rfl

theorem memory_readied : (m.readied image entry).board.core.memory =
    m.board.core.memory.load 0 (image.extract 0 (min image.size 65536)) := by
  unfold readied
  dsimp only
  split <;> rfl

/-- The image lies at address zero, as far as memory reaches. -/
theorem read_readied (a : UInt16) : (m.readied image entry).board.core.memory.read a =
    if h : a.toNat < image.size then image[a.toNat] else m.board.core.memory.read a := by
  have ha := a.toNat_lt
  have hsize : (image.extract 0 (min image.size 65536)).size = min image.size 65536 := by
    rw [Array.size_extract]
    omega
  have hload := m.board.core.memory.read_load 0 (hsize ▸ Nat.min_le_right _ _) a
  rw [UInt16.zero_add] at hload
  rw [memory_readied, hload]
  by_cases h : a.toNat < image.size
  · rw [dif_pos h, dif_pos (by omega), Array.getElem_extract]
    simp only [Nat.zero_add]
  · rw [dif_neg h, dif_neg (by omega)]

end Machine

namespace HeaderInfo

variable {info : HeaderInfo} {payload image : Array UInt8}

theorem entry_of_stamp (h : info.stamp payload = .ok image) (j : Journal) :
    (Rom.mk image).entry j = (0x0100, j) := by
  obtain ⟨hfits, rfl⟩ := (stamp_eq_ok_iff payload).1 h
  rw [Rom.entry, Rom.readHeader, isSigned_stamped _ hfits, parse_stamped _ hfits]
  rfl

theorem getD_of_stamp (h : info.stamp payload = .ok image) {j : Nat} (hj : j < 65535 * 256) :
    image.getD (256 + j) 0 = payload.getD j 0 := by
  obtain ⟨hfits, rfl⟩ := (stamp_eq_ok_iff payload).1 h
  rw [getD_stamped _ hfits, getD_body payload hj]

theorem size_of_stamp (h : info.stamp payload = .ok image) :
    image.size = 256 * (min ((payload.size + 255) / 256) 65535 + 1) := by
  obtain ⟨hfits, rfl⟩ := (stamp_eq_ok_iff payload).1 h
  exact size_stamped payload hfits

end HeaderInfo

namespace Machine

variable {info : HeaderInfo} {payload image : Array UInt8} (h : info.stamp payload = .ok image)
include h

/-- Booting puts the payload where the code of a stamped image begins. -/
theorem read_readied_payload (m : Machine) (entry : UInt16) {i : Nat} (hi : i < payload.size)
    (htop : i < 0xFF00) :
    (m.readied image entry).board.core.memory.read (0x0100 + UInt16.ofNat i) = payload[i] := by
  have hsize := HeaderInfo.size_of_stamp h
  have haddress : (0x0100 + UInt16.ofNat i).toNat = 256 + i := by
    rw [UInt16.toNat_add, UInt16.toNat_ofNat']
    simp
    omega
  have hbyte := HeaderInfo.getD_of_stamp h (j := i) (by omega)
  have hin : 256 + i < image.size := by omega
  rw [Array.getD_eq_getD_getElem?, Array.getD_eq_getD_getElem?, Array.getElem?_eq_getElem hin,
    Array.getElem?_eq_getElem hi] at hbyte
  rw [read_readied]
  simp only [haddress, hin, dif_pos]
  exact hbyte

theorem cell_page (hpos : 0 < image.size) {i : Nat}
    (hi : i < min ((payload.size + 255) / 256) 65535) {k : Nat}
    (hk : k < 256) : Ring.cell hpos image.toVector ((UInt16.ofNat (i + 1)).toNat * 256 + k) =
      payload.getD (256 * i + k) 0 := by
  have hsize := HeaderInfo.size_of_stamp h
  have hpage : (UInt16.ofNat (i + 1)).toNat * 256 + k = 256 + (256 * i + k) := by
    rw [UInt16.toNat_ofNat']
    omega
  have hin : 256 + (256 * i + k) < image.size := by omega
  rw [← HeaderInfo.getD_of_stamp h (by omega), hpage, Array.getD_eq_getD_getElem?,
    Array.getElem?_eq_getElem hin]
  simp [Ring.cell, Nat.mod_eq_of_lt hin]

theorem page_payload {m : Machine} {id : Nat} (hp : m.HasPager id (.ofImage image))
    (fuel : Nat) {i : Nat} (hi : i < min ((payload.size + 255) / 256) 65535) (d : UInt16) : ∃ m',
    m.writeFields fuel (Device.pagerPort - 1) [UInt16.ofNat (i + 1), d, 256] = some m' ∧
    m'.PagerIdle image ∧
      (∀ k < 256, m'.board.core.memory.read (d + UInt16.ofNat k) = payload.getD (256 * i + k) 0) ∧
      ∀ a, (∀ k < 256, a ≠ d + UInt16.ofNat k) →
        m'.board.core.memory.read a = m.board.core.memory.read a := by
  have hpos : 0 < image.size := by
    rw [HeaderInfo.size_of_stamp h]
    omega
  obtain ⟨m', hw, hp', hm'⟩ := hp.copies hpos fuel (UInt16.ofNat (i + 1)) d 256
  refine ⟨m', hw, ⟨id, hp'.routed, hp'.present⟩, fun k hk => ?_, fun a ha => ?_⟩
  · have hnat : (UInt16.ofNat k).toNat = k :=
      UInt16.toNat_ofNat_of_lt' (Nat.lt_trans hk (by decide))
    have hlt : UInt16.ofNat k < 256 := by
      rw [UInt16.lt_iff_toNat_lt, hnat]
      exact hk
    rw [hm', Memory.read_pagerCopy _ _ _ _ hpos, if_pos hlt, hnat, cell_page h hpos hi hk]
  · obtain ⟨b, rfl⟩ : ∃ b, a = d + b := ⟨a - d, by grind⟩
    have hge : ¬b < 256 :=
      fun hb => ha b.toNat (UInt16.lt_iff_toNat_lt.1 hb) (by rw [UInt16.ofNat_toNat])
    rw [hm', Memory.read_pagerCopy _ _ _ _ hpos, if_neg hge]

/-- Stamping, booting and paging agree. A stamped image is entered at 0x0100. When booting starts
its run, memory holds the image from address zero on and is otherwise as before, so byte `i` of the
payload is at 0x0100 + `i`. On a standard machine with this image and an idle pager, writing the
words `i + 1`, `d` and 256 to the pager's field copies page `i` of the payload, padded with zeros,
to `d` and on, around the top of memory, and changes no other byte of memory. -/
theorem image_in_memory : (∀ j, (Rom.mk image).entry j = (0x0100, j)) ∧
    (∀ (m : Machine) (entry : UInt16),
      (∀ fuel, m.boot fuel image entry = (m.readied image entry).run fuel entry) ∧
      (∀ a : UInt16, (m.readied image entry).board.core.memory.read a =
        if h : a.toNat < image.size then image[a.toNat] else m.board.core.memory.read a) ∧
      ∀ i (hi : i < payload.size), i < 0xFF00 →
        (m.readied image entry).board.core.memory.read (0x0100 + UInt16.ofNat i) = payload[i]) ∧
    ∀ (config : Config) (filter : LogFilter) (input : Option (List UInt8)) (m : Machine)
      (fuel : Nat),
      SameSetup (standard config filter image input) m → m.PagerIdle image →
      ∀ i < min ((payload.size + 255) / 256) 65535, ∀ d : UInt16, ∃ m',
        m.writeFields fuel 0x08 [UInt16.ofNat (i + 1), d, 256] = some m' ∧ m'.PagerIdle image ∧
        (∀ k < 256, m'.board.core.memory.read (d + UInt16.ofNat k) = payload.getD (256 * i + k) 0) ∧
        ∀ a, (∀ k < 256, a ≠ d + UInt16.ofNat k) →
          m'.board.core.memory.read a = m.board.core.memory.read a := by
  refine ⟨HeaderInfo.entry_of_stamp h,
    fun m entry => ⟨m.boot_eq image entry, m.read_readied image entry, ?_⟩, ?_⟩
  · intro i hi htop
    exact read_readied_payload h m entry hi htop
  · intro config filter input m fuel hs hidle i hi d
    obtain ⟨id, hp⟩ := hidle.hasPager hs
    exact page_payload h hp fuel hi d

omit h in
/-- A payload of one byte, booted and paged to the last address. -/
theorem image_in_memory_oneByte :
    ∃ image, HeaderInfo.stamp ⟨"", "", 0x0100, 0⟩ #[0xAB] = .ok image ∧
    (∀ m : Machine, (m.readied image 0x0100).board.core.memory.read 0x0100 = 0xAB) ∧
    ∃ m', (standard .standard (.upTo none) image none).writeFields 0 0x08 [1, 0xFFFF,
      256] = some m' ∧
      m'.board.core.memory.read 0xFFFF = 0xAB ∧ m'.board.core.memory.read 0 = 0 := by
  have hfits : (⟨"", "", 0x0100, 0⟩ : HeaderInfo).Fits := by
    constructor <;> decide +kernel
  have h := HeaderInfo.stamp_of_fits #[0xAB] hfits
  obtain ⟨-, hboot, hpage⟩ := image_in_memory h
  obtain ⟨m', hw, -, hread, -⟩ :=
    hpage .standard (.upTo none) none _ 0 (.refl _) (pagerIdle_standard _ _ _ _) 0
      (by decide) 0xFFFF
  have hbyte (m : Machine) : (m.readied _ 0x0100).board.core.memory.read 0x0100 = 0xAB :=
    (hboot m 0x0100).2.2 0 (by decide) (by decide)
  exact ⟨_, h, hbyte, m', hw, hread 0 (by decide), hread 1 (by decide)⟩

end Machine

end FantasyConsole
