import FantasyConsole.Proofs.SpriteList
import FantasyConsole.Proofs.SpritePictures

/-!
# Which sprite shows

At a pixel the sprites of a row show the first entry with priority whose picture has
something there, failing that the first such entry. The scan of the row samples fewer
entries than that: it ends at the first with priority, and once something is found it
passes over those without.
-/
namespace FantasyConsole

namespace SpriteEntry

/-- An entry shows at a position if its box has it and the picture has something there. -/
def ShowsAt (s : SpriteEntry) (m : Memory) (x y : Nat) : Prop :=
  s.boxColumn x < 8 * s.cellsAcross ∧ s.boxRow y < 8 * s.cellsDown ∧
    s.boxPixel m (s.boxColumn x) (s.boxRow y) ≠ 0

instance (s : SpriteEntry) (m : Memory) (x y : Nat) : Decidable (s.ShowsAt m x y) :=
  inferInstanceAs (Decidable (_ ∧ _ ∧ _))

/-- What an entry shows at a position of its box. -/
def pixelAt (s : SpriteEntry) (m : Memory) (x y : Nat) : LayerPixel :=
  .ofWord s.attributes.toNat (s.boxPixel m (s.boxColumn x) (s.boxRow y))

/-- What an entry has for its layer at a position, none where it does not show. -/
def layerAt (s : SpriteEntry) (m : Memory) (x y : Nat) : Option LayerPixel :=
  if s.ShowsAt m x y then some (s.pixelAt m x y) else none

theorem priority_pixelAt (s : SpriteEntry) (m : Memory) (x y : Nat) :
    (s.pixelAt m x y).priority = s.priority :=
  (and_bit_ne_zero s.attributes (k := 15) (by decide)).symm

theorem paletteRow_mem (s : SpriteEntry) : s.paletteRow ∈ [0x00, 0x10, 0x20, 0x30] := by
  have hrow : s.paletteRow.toNat = s.attributes.toNat / 8192 % 4 * 16 :=
    toNat_paletteRow s.attributes
  have h : s.paletteRow = UInt8.ofNat (s.attributes.toNat / 8192 % 4 * 16) := by
    rw [← hrow, UInt8.ofNat_toNat]
  have hfour : s.attributes.toNat / 8192 % 4 < 4 := Nat.mod_lt _ (by decide)
  rw [h]
  generalize s.attributes.toNat / 8192 % 4 = row at hfour ⊢
  revert row
  decide

theorem toNat_color_pixelAt (s : SpriteEntry) (m : Memory) (x y : Nat) :
    (s.pixelAt m x y).color.toNat =
      s.paletteRow.toNat + s.boxPixel m (s.boxColumn x) (s.boxRow y) := by
  have hrow : s.paletteRow.toNat = s.attributes.toNat / 8192 % 4 * 16 :=
    toNat_paletteRow s.attributes
  have hpixel : s.boxPixel m (s.boxColumn x) (s.boxRow y) < 16 := Memory.tilePixel_lt ..
  rw [pixelAt, LayerPixel.ofWord, UInt8.toNat_ofNat', hrow]
  omega

end SpriteEntry

/-- What is found with one more pixel: a first one with priority takes the place of any without, and
otherwise the first stays. -/
def LayerPixel.under (found next : Option LayerPixel) : Option LayerPixel :=
  if found.any (·.priority) then found else if next.any (·.priority) then next else found.or next

theorem LayerPixel.foldl_under (found : Option LayerPixel) (layers : List (Option LayerPixel)) :
    layers.foldl under found =
      if found.any (·.priority) then found
      else ((layers.filterMap id).find? (·.priority)).or
        (found.or (layers.filterMap id).head?) := by
  induction layers generalizing found with
  | nil => simp
  | cons next rest ih =>
    rw [List.foldl_cons, ih]
    cases next with
    | none => simp [under]
    | some p =>
      cases found with
      | none => cases hp : p.priority <;> simp [under, hp]
      | some q => cases hq : q.priority <;> cases hp : p.priority <;> simp [under, hp, hq]

namespace Vdp

open SpriteEntry

variable {v w : Vdp} {s : SpriteEntry} {x y : UInt16}

theorem shownBy_eq (v : Vdp) (x y : UInt16) (s : SpriteEntry) :
    v.shownBy x y s = s.layerAt v.memory x.toNat y.toNat := by
  have hn := v.toNat_spriteNibble s x y
  unfold shownBy layerAt
  cases h : v.spriteNibble s x y with
  | none =>
    rw [h] at hn
    split at hn
    · exact absurd hn (by simp)
    · rename_i hout
      rw [if_neg fun hs => hout ⟨hs.1, hs.2.1⟩]
      rfl
  | some n =>
    rw [h] at hn
    split at hn
    · rename_i hin
      have hpixel : n.toNat = s.boxPixel v.memory (s.boxColumn x.toNat) (s.boxRow y.toNat) :=
        Option.some.inj hn
      have hlt : n.toNat < 16 := hpixel ▸ Memory.tilePixel_lt ..
      have hshows : s.ShowsAt v.memory x.toNat y.toNat ↔ n ≠ 0 := by
        rw [ShowsAt, ← hpixel, ne_eq n, ← UInt8.toNat_inj]
        exact ⟨fun hs => hs.2.2, fun h0 => ⟨hin.1, hin.2, h0⟩⟩
      by_cases h0 : n = 0
      · rw [if_neg (fun hs => hshows.1 hs h0), Option.bind_some, if_pos h0]
      · rw [if_pos (hshows.2 h0), Option.bind_some, if_neg h0, pixelAt, ← hpixel,
          ← LayerPixel.ofWord_eq hlt]
        rfl
    · exact absurd hn (by simp)

theorem filterMap_shownBy (v : Vdp) (x y : UInt16) (sprites : List SpriteEntry) :
    sprites.filterMap (v.shownBy x y) =
      (sprites.filter fun s => s.ShowsAt v.memory x.toNat y.toNat).map
      (·.pixelAt v.memory x.toNat y.toNat) := by
  rw [← List.filterMap_eq_map, List.filterMap_filter]
  congr 1
  funext s
  rw [shownBy_eq, layerAt]
  simp

/-- The sprites of a prepared row show the first entry with priority that has something at the
position, failing that the first entry that has, whatever has been written to video memory since the
row was prepared. This is what sampling each entry up to the last would find; and it is a palette
index of the entry's row that is not transparent. -/
theorem spritePixel_eq_first (w : Vdp) (x y : UInt16) :
    let shows := fun s : SpriteEntry => s.ShowsAt w.memory x.toNat y.toNat
    w.spritePixel x y =
      ((w.rowSprites.find? fun s => shows s ∧ s.priority = true).or
        (w.rowSprites.find? fun s => shows s)).map
        (·.pixelAt w.memory x.toNat y.toNat) ∧
    w.spritePixel x y =
      (w.rowSprites.map (·.layerAt w.memory x.toNat y.toNat)).foldl LayerPixel.under none ∧
    ∀ p, w.spritePixel x y = some p → ∃ s ∈ w.rowSprites, shows s ∧ p.priority = s.priority ∧
      s.paletteRow ∈ [0x00, 0x10, 0x20, 0x30] ∧
      ∃ n, 1 ≤ n ∧ n ≤ 15 ∧ n = s.boxPixel w.memory (s.boxColumn x.toNat) (s.boxRow y.toNat) ∧
        p.color.toNat = s.paletteRow.toNat + n := by
  intro shows
  have hfirst : w.spritePixel x y =
      ((w.rowSprites.find? fun s => shows s ∧ s.priority = true).or
        (w.rowSprites.find? fun s => shows s)).map
        (·.pixelAt w.memory x.toNat y.toNat) := by
    rw [spritePixel, scanSprites_eq]
    dsimp only
    rw [filterMap_shownBy, List.find?_map, List.find?_filter, List.head?_map, List.head?_filter,
      Option.none_or, ← Option.map_or]
    simp only [Function.comp_apply, priority_pixelAt, decide_eq_true_iff]
    rfl
  refine ⟨hfirst, ?_, ?_⟩
  · rw [LayerPixel.foldl_under, spritePixel, scanSprites_eq, List.filterMap_map]
    have hlayers : id ∘ (·.layerAt w.memory x.toNat y.toNat) = w.shownBy x y := by
      funext s
      exact (w.shownBy_eq x y s).symm
    rw [hlayers]
    rfl
  · intro p hp
    rw [hfirst] at hp
    obtain ⟨s, hs, rfl⟩ := Option.map_eq_some_iff.1 hp
    have hfound : s ∈ w.rowSprites ∧ shows s := by
      rcases Option.or_eq_some_iff.1 hs with hs | ⟨-, hs⟩
      · exact ⟨List.mem_of_find?_eq_some hs, (decide_eq_true_iff.1 (List.find?_some hs :)).1⟩
      · exact ⟨List.mem_of_find?_eq_some hs, decide_eq_true_iff.1 (List.find?_some hs :)⟩
    have hlt : s.boxPixel w.memory (s.boxColumn x.toNat) (s.boxRow y.toNat) < 16 :=
      Memory.tilePixel_lt ..
    refine ⟨s, hfound.1, hfound.2, s.priority_pixelAt _ _ _, s.paletteRow_mem, _, ?_,
      Nat.le_of_lt_succ hlt, rfl, s.toNat_color_pixelAt _ _ _⟩
    exact Nat.one_le_iff_ne_zero.2 hfound.2.2.2

/-- A row of three entries over each other: one with priority and nothing in its picture, one
without priority, and one with priority in another palette row. -/
def overlaid : Vdp :=
  { Vdp.zero with
    memory := (Memory.zero.write 64 0x20).write 96 0x30
    rowSprites := [⟨0x8001, 0, 0, 0⟩, ⟨2, 0, 0, 0⟩, ⟨0xA003, 0, 0, 0⟩] }

/-- The last of them shows: the first has nothing to show, and the second has no priority. -/
theorem spritePixel_eq_first_overlaid : overlaid.spritePixel 0 0 = some ⟨0x13, true⟩ ∧
    ∃ s ∈ overlaid.rowSprites, s.ShowsAt overlaid.memory 0 0 ∧ s.priority = true ∧
      ∃ n, 1 ≤ n ∧ n ≤ 15 ∧ s.paletteRow.toNat + n = 0x13 := by
  obtain ⟨hfirst, -, hcolor⟩ := spritePixel_eq_first overlaid 0 0
  have h : overlaid.spritePixel 0 0 = some ⟨0x13, true⟩ := by
    rw [hfirst]
    decide +kernel
  obtain ⟨s, hs, hshows, hpriority, -, n, hn, hle, -, hsum⟩ := hcolor _ h
  exact ⟨h, s, hs, hshows, hpriority.symm, n, hn, hle, hsum.symm⟩

end Vdp

end FantasyConsole
