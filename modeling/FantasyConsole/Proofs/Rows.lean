import FantasyConsole.Proofs.Scene

/-!
# Rows of a frame

A row is painted into its own cells of the buffer and no others. So after a frame
each cell holds the pixel that the machine had for it when its row was painted,
and the machine that paints a row is the one that has passed the rows up to it.
-/
namespace FantasyConsole

namespace Vdp

def paintCells (v : Vdp) (y : Nat) (frame : Array UInt32) : Nat → Array UInt32
  | 0 => frame
  | n + 1 =>
    let frame := v.paintCells y frame n
    if h : y * 320 + n < frame.size then
      frame.set (y * 320 + n) (v.pixel (UInt16.ofNat n) (UInt16.ofNat y))
    else frame

theorem paintRow_eq_paintCells (v : Vdp) (y : Nat) (frame : Array UInt32) :
    v.paintRow y frame = v.paintCells y frame 320 := by
  have h (n : Nat) : Nat.fold n (fun x _ frame =>
      if h : y * Screen.width + x < frame.size then
        frame.set (y * Screen.width + x) (v.pixel (UInt16.ofNat x) (UInt16.ofNat y))
      else frame) frame = v.paintCells y frame n := by
    induction n with
    | zero => rfl
    | succ n ih => rw [Nat.fold_succ, ih]; rfl
  exact h 320

@[simp] theorem size_paintCells (v : Vdp) (y : Nat) (frame : Array UInt32) (n : Nat) :
    (v.paintCells y frame n).size = frame.size := by
  induction n with
  | zero => rfl
  | succ n ih =>
    rw [paintCells]
    split
    · rw [Array.size_set, ih]
    · exact ih

theorem getElem?_paintCells (v : Vdp) (y : Nat) (frame : Array UInt32) (n i : Nat) :
    (v.paintCells y frame n)[i]? =
      if y * 320 ≤ i ∧ i < y * 320 + n ∧ i < frame.size then
        some (v.pixel (UInt16.ofNat (i - y * 320)) (UInt16.ofNat y))
      else frame[i]? := by
  induction n with
  | zero => rw [if_neg (by omega)]; rfl
  | succ n ih =>
    rw [paintCells]
    split
    · rename_i h
      rw [size_paintCells] at h
      rw [Array.getElem?_set, ih]
      by_cases hi : y * 320 + n = i
      · subst hi
        rw [if_pos rfl, if_pos (by omega), Nat.add_sub_cancel_left]
      · rw [if_neg hi]
        have hiff : (y * 320 ≤ i ∧ i < y * 320 + n ∧ i < frame.size) ↔
            (y * 320 ≤ i ∧ i < y * 320 + (n + 1) ∧ i < frame.size) := by omega
        simp only [hiff]
    · rename_i h
      rw [size_paintCells] at h
      rw [ih]
      have hiff : (y * 320 ≤ i ∧ i < y * 320 + n ∧ i < frame.size) ↔
          (y * 320 ≤ i ∧ i < y * 320 + (n + 1) ∧ i < frame.size) := by omega
      simp only [hiff]

@[simp] theorem size_paintRow (v : Vdp) (y : Nat) (frame : Array UInt32) :
    (v.paintRow y frame).size = frame.size := by
  rw [paintRow_eq_paintCells, size_paintCells]

theorem getElem?_paintRow_self (v : Vdp) {x y : Nat} (frame : Array UInt32) (hx : x < 320)
    (hi : y * 320 + x < frame.size) :
    (v.paintRow y frame)[y * 320 + x]? = some (v.pixel (UInt16.ofNat x) (UInt16.ofNat y)) := by
  rw [paintRow_eq_paintCells, getElem?_paintCells, if_pos (by omega), Nat.add_sub_cancel_left]

theorem getElem?_paintRow_of_ne (v : Vdp) {y i : Nat} (frame : Array UInt32) (h : i / 320 ≠ y) :
    (v.paintRow y frame)[i]? = frame[i]? := by
  rw [paintRow_eq_paintCells, getElem?_paintCells, if_neg (by omega)]

end Vdp

namespace Machine

variable {fuel : Nat}

theorem passRows_add (fuel k n y : Nat) (m : Machine) :
    passRows fuel (k + n) y m = (passRows fuel k y m).bind fun m' =>
      passRows fuel n (y + k) m' := by
  induction k generalizing y m with
  | zero => rw [Nat.zero_add]; rfl
  | succ k ih =>
    rw [Nat.succ_add, passRows, passRows]
    cases m.beginRow fuel (UInt16.ofNat y) with
    | none => rfl
    | some m' =>
      change passRows fuel (k + n) (y + 1) m' = (passRows fuel k (y + 1) m').bind _
      rw [ih, Nat.add_right_comm y 1 k, Nat.add_assoc y k 1]

/-- The last of some rows is begun on the machine that the rows before it leave. -/
theorem passRows_succ (fuel n y : Nat) (m : Machine) :
    passRows fuel (n + 1) y m = (passRows fuel n y m).bind
      (·.beginRow fuel (UInt16.ofNat (y + n))) := by
  rw [passRows_add]
  congr 1
  funext m'
  rw [passRows]
  cases m'.beginRow fuel (UInt16.ofNat (y + n)) <;> rfl

theorem passRows_of_le {n k y : Nat} {m m' : Machine} (h : passRows fuel n y m = some m')
    (hk : k ≤ n) :
    ∃ m₁, passRows fuel k y m = some m₁ := by
  obtain ⟨j, rfl⟩ := Nat.exists_eq_add_of_le hk
  rw [passRows_add] at h
  cases hp : passRows fuel k y m with
  | none => rw [hp] at h; exact absurd h (by simp)
  | some m₁ => exact ⟨m₁, rfl⟩

/-- The machine that paints row `y` of a frame, from the machine after the vertical blank phase. -/
def painter (m₀ : Machine) (fuel y : Nat) : Option Machine := passRows fuel (y + 1) 0 m₀.markPalette

/-- Rows that are drawn keep the size of the buffer and the cells of all other rows. -/
theorem drawRows_frame {count y : Nat} {m m' : Machine} {frame frame' : Array UInt32}
    (h : drawRows fuel count y m frame = some (m', frame')) :
    frame'.size = frame.size ∧
      ∀ i, (i / 320 < y ∨ y + count ≤ i / 320) → frame'[i]? = frame[i]? := by
  induction count generalizing y m frame with
  | zero =>
    simp only [drawRows, Option.some.injEq, Prod.mk.injEq] at h
    obtain ⟨-, rfl⟩ := h
    exact ⟨rfl, fun _ _ => rfl⟩
  | succ count ih =>
    simp only [drawRows] at h
    split at h
    · exact absurd h (by simp)
    · rename_i m₁ h₁
      obtain ⟨hs, hf⟩ := ih h
      refine ⟨by rw [hs, Vdp.size_paintRow], ?_⟩
      intro i hi
      rw [hf i (by omega), Vdp.getElem?_paintRow_of_ne _ _ (by omega)]

/-- Each row that is drawn shows the pixels of the machine that has passed the rows up to it. -/
theorem drawRows_pixel {count y : Nat} {m m' : Machine} {frame frame' : Array UInt32}
    (h : drawRows fuel count y m frame = some (m', frame')) {k x : Nat} (hk : k < count)
    (hx : x < 320) (hi : (y + k) * 320 + x < frame.size) :
    ∃ p, passRows fuel (k + 1) y m = some p ∧
      frame'[(y + k) * 320 + x]? =
        some (p.board.vdp.pixel (UInt16.ofNat x) (UInt16.ofNat (y + k))) := by
  induction count generalizing y m frame k with
  | zero => omega
  | succ count ih =>
    simp only [drawRows] at h
    split at h
    · exact absurd h (by simp)
    · rename_i m₁ h₁
      cases k with
      | zero =>
        refine ⟨m₁, by rw [passRows, h₁]; rfl, ?_⟩
        rw [(drawRows_frame h).2 _ (by omega)]
        exact Vdp.getElem?_paintRow_self _ _ hx hi
      | succ k =>
        have he : y + (k + 1) = y + 1 + k := by omega
        rw [he] at hi ⊢
        obtain ⟨p, hp, hq⟩ := ih h (k := k) (by omega) (by rwa [Vdp.size_paintRow])
        exact ⟨p, by rw [passRows, h₁]; exact hp, hq⟩

theorem passRows_of_drawRows {count y : Nat} {m m' : Machine} {frame frame' : Array UInt32}
    (h : drawRows fuel count y m frame = some (m', frame')) :
    passRows fuel count y m = some m' := by
  rw [← map_fst_drawRows fuel count y m frame, h]
  rfl

theorem rowCount_le (size : Nat) : rowCount size ≤ 224 := Nat.min_le_left _ _

theorem lt_rowCount {size x y : Nat} (hy : y < 224) (hi : y * 320 + x < size) :
    y < rowCount size := by
  rw [rowCount, Screen.height, Screen.width]
  omega

end Machine

end FantasyConsole
