import FantasyConsole.Proofs.SpriteList
import FantasyConsole.Proofs.SpritePictures

/-!
# The sprites of a row

An entry shows on a row if its box, whose columns wrap at 512 and whose rows wrap at
256, has a pixel there. The places of a row go to the first entries that show, and
also to such as end just where the columns wrap: these are sampled nowhere on the
screen, so a row full of them leaves out entries that would show.
-/
namespace FantasyConsole

/-- Of the first elements with a weak property, all have the strong one exactly if they are the
first with the strong one. -/
theorem take_filter_eq_iff {α : Type} {p q : α → Bool} (hpq : ∀ a, p a = true → q a = true)
    (l : List α) (n : Nat) :
    (l.filter q).take n = (l.filter p).take n ↔ ∀ a ∈ (l.filter q).take n, p a = true := by
  constructor
  · intro h a ha
    rw [h] at ha
    exact (List.mem_filter.1 (List.mem_of_mem_take ha)).2
  · induction l generalizing n with
    | nil => intro _; rfl
    | cons b l ih =>
      intro h
      cases n with
      | zero => rfl
      | succ n =>
        by_cases hq : q b = true
        · rw [List.filter_cons_of_pos hq, List.take_succ_cons] at h ⊢
          have hp : p b = true := h b List.mem_cons_self
          rw [List.filter_cons_of_pos hp, List.take_succ_cons,
            ih n fun a ha => h a (List.mem_cons_of_mem b ha)]
        · rw [List.filter_cons_of_neg hq] at h ⊢
          rw [List.filter_cons_of_neg fun hp => hq (hpq b hp), ih (n + 1) h]

theorem getElem?_take_filter_append {α : Type} {p : α → Bool} {a : α} (before after : List α)
    (ha : p a = true) {n : Nat} (hn : (before.filter p).length < n) :
    (((before ++ a :: after).filter p).take n)[(before.filter p).length]? = some a := by
  rw [List.getElem?_take_of_lt hn, List.filter_append, List.filter_cons_of_pos ha,
    List.getElem?_append_right (Nat.le_refl _), Nat.sub_self, List.getElem?_cons_zero]

namespace SpriteEntry

theorem width_bounds (s : SpriteEntry) : 8 ≤ s.width.toNat ∧ s.width.toNat ≤ 32 := by
  have hle := s.cellsAcross_le
  have hpos : 1 ≤ s.cellsAcross := Nat.le_add_left ..
  rw [toNat_width]
  omega

/-- The rows of an entry, wrapping at 256, include `y`. -/
def OnRow (s : SpriteEntry) (y : Nat) : Prop := ((y : Int) - s.y.toNat) % 256 < s.height.toNat

def InColumn (s : SpriteEntry) (x : Nat) : Prop := ((x : Int) - s.x.toNat) % 512 < s.width.toNat

instance (s : SpriteEntry) (y : Nat) : Decidable (s.OnRow y) := inferInstanceAs (Decidable (_ < _))

instance (s : SpriteEntry) (x : Nat) : Decidable (s.InColumn x) :=
  inferInstanceAs (Decidable (_ < _))

/-- An entry that is not empty and whose box has a pixel of row `y` of the screen. -/
def ShowsOn (s : SpriteEntry) (y : Nat) : Prop :=
  s.pattern ≠ 0 ∧ (∃ x, x < 320 ∧ s.InColumn x) ∧ s.OnRow y

instance (s : SpriteEntry) (y : Nat) : Decidable (s.ShowsOn y) :=
  inferInstanceAs (Decidable (_ ∧ (∃ x, x < 320 ∧ _) ∧ _))

/-- An entry that is not empty and ends where the columns wrap, just before the first of the
screen. -/
def EndsBeside (s : SpriteEntry) (y : Nat) : Prop :=
  s.pattern ≠ 0 ∧ s.x.toNat + s.width.toNat = 512 ∧ s.OnRow y

instance (s : SpriteEntry) (y : Nat) : Decidable (s.EndsBeside y) :=
  inferInstanceAs (Decidable (_ ∧ _ ∧ _))

variable {s : SpriteEntry} {x y : Nat}

theorem exists_inColumn_iff (hs : s.x.toNat < 512) :
    (∃ x, x < 320 ∧ s.InColumn x) ↔ s.x.toNat < 320 ∨ 512 < s.x.toNat + s.width.toNat := by
  have hwidth := s.width_bounds
  unfold InColumn
  generalize s.width.toNat = w at hwidth ⊢
  generalize s.x.toNat = left at hs ⊢
  constructor
  · rintro ⟨x, hx, hcolumn⟩
    omega
  · rintro (h | h)
    · exact ⟨left, h, by omega⟩
    · exact ⟨0, by omega, by omega⟩

theorem not_showsOn_of_endsBeside (h : s.EndsBeside y) : ¬ s.ShowsOn y := by
  obtain ⟨-, hend, -⟩ := h
  rintro ⟨-, hcolumn, -⟩
  have hwidth := s.width_bounds
  rw [exists_inColumn_iff (by omega)] at hcolumn
  omega

theorem byte_lt_height_iff (hy : y < 65536) :
    (UInt16.ofNat y - s.y).toUInt8.toUInt16 < s.height ↔ s.OnRow y := by
  have hs := s.y.toNat_lt
  rw [UInt16.lt_iff_toNat_lt, UInt8.toNat_toUInt16, UInt16.toNat_toUInt8, UInt16.toNat_sub,
    UInt16.toNat_ofNat_of_lt' hy, OnRow]
  omega

theorem off_screen_iff (hs : s.x.toNat < 512) :
    (320 ≤ s.x ∧ s.x < 512 - s.width) ↔ 320 ≤ s.x.toNat ∧ s.x.toNat + s.width.toNat < 512 := by
  have hwidth := s.width_bounds
  have h512 : ((512 : UInt16) - s.width).toNat = 512 - s.width.toNat :=
    UInt16.toNat_sub_of_le _ _ (UInt16.le_iff_toNat_le.2 (Nat.le_trans hwidth.2 (by decide)))
  have h320 : (320 : UInt16).toNat = 320 := by decide
  rw [UInt16.lt_iff_toNat_lt, UInt16.le_iff_toNat_le, h512, h320]
  omega

/-- The entries that count as covering a row are those that show on it and those that end beside
it. -/
theorem covers_iff (hs : s.x.toNat < 512) (hy : y < 65536) :
    s.covers (UInt16.ofNat y) = true ↔ s.ShowsOn y ∨ s.EndsBeside y := by
  have hvisible : ¬ (320 ≤ s.x ∧ s.x < 512 - s.width) ↔
      (∃ x, x < 320 ∧ s.InColumn x) ∨ s.x.toNat + s.width.toNat = 512 := by
    rw [off_screen_iff hs, exists_inColumn_iff hs]
    omega
  have hcovers : s.covers (UInt16.ofNat y) = true ↔
      s.pattern ≠ 0 ∧ ¬ (320 ≤ s.x ∧ s.x < 512 - s.width) ∧ s.OnRow y := by
    rw [covers, Bool.and_eq_true, Bool.and_eq_true, decide_eq_true_eq,
      byte_lt_height_iff hy, and_assoc, bne_iff_ne, Bool.not_eq_true', Bool.and_eq_false_iff]
    simp only [decide_eq_false_iff_not, not_and_or]
  rw [hcovers, hvisible, ShowsOn, EndsBeside, or_and_right, and_or_left]

end SpriteEntry

namespace Vdp

open SpriteEntry

variable {s : SpriteEntry} {x y : Nat}

theorem isSome_spriteNibble_iff (v : Vdp) (hx : x < 65536) (hy : y < 65536) :
    (v.spriteNibble s (UInt16.ofNat x) (UInt16.ofNat y)).isSome = true ↔ s.InColumn x ∧
      s.OnRow y := by
  have hcolumn : s.boxColumn x < 8 * s.cellsAcross ↔ s.InColumn x := by
    rw [boxColumn, InColumn, toNat_width]
    omega
  have hrow : s.boxRow y < 8 * s.cellsDown ↔ s.OnRow y := by
    rw [boxRow, OnRow, toNat_height]
    omega
  have h := congrArg Option.isSome (v.toNat_spriteNibble s (UInt16.ofNat x) (UInt16.ofNat y))
  rw [Option.isSome_map, UInt16.toNat_ofNat_of_lt' hx, UInt16.toNat_ofNat_of_lt' hy] at h
  rw [h, ← hcolumn, ← hrow]
  split
  · rename_i hbox
    exact iff_of_true rfl hbox
  · rename_i hoff
    exact iff_of_false Bool.false_ne_true hoff

theorem toNat_spriteAt_x (v : Vdp) (a : UInt16) : (v.spriteAt a).x.toNat < 512 := by
  rw [spriteAt, toNat_and_mask _ (k := 9) (by decide)]
  exact Nat.mod_lt _ (by decide)

theorem rowSprites_eq_take (v : Vdp) (hy : y < 224) :
    (v.collectRow (UInt16.ofNat y)).rowSprites =
      ((v.spriteWalk.map v.spriteAt).filter fun s => s.ShowsOn y ∨
        s.EndsBeside y).take rowLimit := by
  rw [rowSprites_collectRow, cached_eq, List.map_take, List.filter_map]
  congr 2
  refine List.filter_congr fun a _ => ?_
  rw [Function.comp_apply, Bool.eq_iff_iff, decide_eq_true_iff]
  exact covers_iff (v.toNat_spriteAt_x a) (by omega)

/-- A row holds the first 32 entries of the list that show on it or end beside it. The latter never
show: the row holds exactly the first entries that do as long as none of its places has gone to one
that does not, and an entry that shows is left out only behind 32 others that took a place. What
shows is what the sampler finds in its box. -/
theorem rowSprites_members (v : Vdp) (hy : y < 224) :
    let walked := v.spriteWalk.map v.spriteAt
    let row := (v.collectRow (UInt16.ofNat y)).rowSprites
    row = (walked.filter fun s => s.ShowsOn y ∨ s.EndsBeside y).take rowLimit ∧
      (∀ s : SpriteEntry, s.EndsBeside y → ¬ s.ShowsOn y) ∧
      (row = (walked.filter (·.ShowsOn y)).take rowLimit ↔ ∀ s ∈ row, s.ShowsOn y) ∧
      (∀ before s after, walked = before ++ s :: after → s.ShowsOn y →
        let places := (before.filter fun t => t.ShowsOn y ∨ t.EndsBeside y).length
        rowLimit ≤ places ∨ row[places]? = some s) ∧
      ∀ (w : Vdp) (s : SpriteEntry) (x : Nat), x < 320 →
        ((w.spriteNibble s (UInt16.ofNat x) (UInt16.ofNat y)).isSome = true ↔ s.InColumn x ∧
          s.OnRow y) := by
  intro walked row
  have hrow : row = (walked.filter fun s => s.ShowsOn y ∨ s.EndsBeside y).take rowLimit :=
    v.rowSprites_eq_take hy
  refine ⟨hrow, fun s hs => not_showsOn_of_endsBeside hs, ?_, ?_, ?_⟩
  · have h := take_filter_eq_iff (p := fun s : SpriteEntry => decide (s.ShowsOn y))
      (q := fun s : SpriteEntry => decide (s.ShowsOn y ∨ s.EndsBeside y))
      (fun s hs => decide_eq_true (.inl (of_decide_eq_true hs))) walked rowLimit
    simp only [decide_eq_true_iff] at h
    rw [hrow]
    exact h
  · intro before s after hwalked hs places
    rcases Nat.lt_or_ge places rowLimit with hplaces | hplaces
    · right
      rw [hrow, hwalked]
      exact getElem?_take_filter_append before after (decide_eq_true (.inl hs)) hplaces
    · exact .inl hplaces
  · intro w s x hx
    exact w.isSome_spriteNibble_iff (by omega) (by omega)

/-- Thirty-two entries that end beside the screen, each linked to the next, and after them one in
its corner. -/
def crowd : List SpriteEntry :=
  (List.range 32).map (fun k => ⟨0x20, UInt16.ofNat (k + 1), 504, 0⟩) ++ [⟨0x20, 32, 0, 0⟩]

def crowdBytes : List UInt8 :=
  (List.range 32).flatMap (fun k => [0, 0x20, 0, UInt8.ofNat (k + 1), 1, 0xF8, 0, 0]) ++
    [0, 0x20, 0, 32, 0, 0, 0, 0]

theorem size_crowdBytes : (crowdBytes ++ List.replicate 65272 0).toArray.size = 65536 := by
  have h : crowdBytes.length = 264 := by decide +kernel
  rw [List.size_toArray, List.length_append, List.length_replicate, h]

def crowded : Vdp := { Vdp.zero with memory := ⟨⟨_, size_crowdBytes⟩⟩ }

theorem walk_crowded : crowded.spriteWalk.map crowded.spriteAt = crowd := by decide +kernel

/-- Entries beside the screen take all places on row 0, and the entry behind them, the only one that
shows there, gets none. -/
theorem unshown_rowSprites_crowded :
    let walked := crowded.spriteWalk.map crowded.spriteAt
    (crowded.collectRow 0).rowSprites = walked.take 32 ∧
      (walked.filter (·.ShowsOn 0)).take rowLimit = walked.drop 32 ∧
      walked.take 32 ≠ walked.drop 32 := by
  have hbeside : ∀ s ∈ crowd.take 32, s.EndsBeside 0 := by decide +kernel
  have hshown : ∀ s ∈ crowd.drop 32, s.ShowsOn 0 := by decide +kernel
  have htaking : crowd.filter (fun s => s.ShowsOn 0 ∨ s.EndsBeside 0) = crowd := by
    refine List.filter_eq_self.2 fun s hs => decide_eq_true ?_
    rw [← List.take_append_drop 32 crowd] at hs
    exact (List.mem_append.1 hs).symm.imp (hshown s) (hbeside s)
  have hshowing : crowd.filter (·.ShowsOn 0) = crowd.drop 32 := by
    conv_lhs => rw [← List.take_append_drop 32 crowd]
    rw [List.filter_append, List.filter_eq_nil_iff.2, List.nil_append, List.filter_eq_self.2]
    · exact fun s hs => decide_eq_true (hshown s hs)
    · exact fun s hs h => not_showsOn_of_endsBeside (hbeside s hs) (of_decide_eq_true h)
  have hrow := crowded.rowSprites_eq_take (y := 0) (by decide)
  rw [walk_crowded, htaking] at hrow
  rw [walk_crowded]
  dsimp only
  rw [hshowing]
  exact ⟨hrow, rfl, by decide⟩

/-- An entry that ends beside the screen, and after it one in its corner. -/
def besideFirst : Vdp :=
  { Vdp.zero with
    memory :=
      (((((Memory.zero.write 1 1).write 3 1).write 4 1).write 5 0xF8).write 9 1).write 11 1 }

/-- The entry beside the screen takes the first place on row 0, and the one that shows takes the
next. -/
theorem rowSprites_members_besideFirst : ∃ s t : SpriteEntry,
    besideFirst.spriteWalk.map besideFirst.spriteAt = [s, t] ∧ s.EndsBeside 0 ∧ t.ShowsOn 0 ∧
      (besideFirst.collectRow 0).rowSprites = [s, t] ∧
      (besideFirst.collectRow 0).rowSprites ≠ ([s, t].filter (·.ShowsOn 0)).take rowLimit := by
  have hwalk : besideFirst.spriteWalk.map besideFirst.spriteAt =
      [⟨1, 1, 504, 0⟩, ⟨1, 1, 0, 0⟩] := by
    decide +kernel
  have hbeside : (⟨1, 1, 504, 0⟩ : SpriteEntry).EndsBeside 0 := by decide
  have hshows : (⟨1, 1, 0, 0⟩ : SpriteEntry).ShowsOn 0 :=
    ⟨by decide, ⟨0, by decide, by decide⟩, by decide⟩
  obtain ⟨hrow, hnot, hiff, -, -⟩ := rowSprites_members besideFirst (y := 0) (by decide)
  rw [hwalk] at hrow hiff
  have hpair : (besideFirst.collectRow (UInt16.ofNat 0)).rowSprites =
      [⟨1, 1, 504, 0⟩, ⟨1, 1, 0, 0⟩] := by
    rw [hrow]
    simp [hbeside, hshows, rowLimit]
  refine ⟨_, _, hwalk, hbeside, hshows, hpair, fun h => ?_⟩
  exact hnot _ hbeside (hiff.1 h _ (by rw [hpair]; exact List.mem_cons_self))

end Vdp

end FantasyConsole
