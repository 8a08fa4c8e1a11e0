import FantasyConsole.Proofs.Scene
import Mathlib.Data.List.Iterate
import Mathlib.Data.Fintype.Pigeonhole
import Mathlib.Data.List.Nodup

/-!
# The walk of the sprite list

The links of a sprite list lead to at most 128 places, so a walk that goes on comes
back to where it was within 128 steps, and from then on sees nothing new. Neither the
bound on the walk nor its end at an entry that links to itself leaves out an entry.
Entries that a cycle brings again are passed over at every pixel.
-/
namespace FantasyConsole

/-! ## Walks in general -/

namespace Walk

variable {α : Type} {f : α → α} {a : α}

/-- After the first repetition a walk sees nothing new. -/
theorem exists_lt_of_repeat {i j : Nat} (hij : i < j) (h : f^[j] a = f^[i] a) (n : Nat) :
    ∃ k < j, f^[n] a = f^[k] a := by
  induction n using Nat.strong_induction_on with
  | _ n ih =>
    by_cases hn : n < j
    · exact ⟨n, hn, rfl⟩
    · have hback : f^[n] a = f^[n - j + i] a := by
        rw [Function.iterate_add_apply, ← h, ← Function.iterate_add_apply,
          Nat.sub_add_cancel (Nat.le_of_not_lt hn)]
      obtain ⟨k, hk, he⟩ := ih (n - j + i) (by omega)
      exact ⟨k, hk, hback.trans he⟩

theorem exists_nodup (f : α → α) (a : α) (n : Nat) :
    ∃ m ≤ n, (List.iterate f a m).Nodup ∧ (m = n ∨ f^[m] a ∈ List.iterate f a m) := by
  induction n with
  | zero => exact ⟨0, Nat.le_refl 0, List.nodup_nil, .inl rfl⟩
  | succ n ih =>
    obtain ⟨m, hm, hnodup, rfl | hmem⟩ := ih
    · by_cases hmem : f^[m] a ∈ List.iterate f a m
      · exact ⟨m, Nat.le_succ m, hnodup, .inr hmem⟩
      · refine ⟨m + 1, Nat.le_refl _, ?_, .inl rfl⟩
        rw [List.iterate_add, List.nodup_append_comm]
        exact List.nodup_cons.2 ⟨hmem, hnodup⟩
    · exact ⟨m, Nat.le_succ_of_le hm, hnodup, .inr hmem⟩

/-- A walk is a list of places seen once, and then such as were seen before. -/
theorem exists_split (f : α → α) (a : α) (n : Nat) : ∃ first again : List α,
    List.iterate f a n = first ++ again ∧ first.Nodup ∧ again ⊆ first := by
  obtain ⟨m, hm, hnodup, rfl | hmem⟩ := exists_nodup f a n
  · exact ⟨_, [], (List.append_nil _).symm, hnodup, List.nil_subset _⟩
  · refine ⟨_, List.iterate f (f^[m] a) (n - m), ?_, hnodup, fun b hb => ?_⟩
    · rw [← List.iterate_add, Nat.add_sub_cancel' hm]
    · obtain ⟨i, hi, he⟩ := List.mem_iterate.1 hmem
      obtain ⟨k, -, rfl⟩ := List.mem_iterate.1 hb
      obtain ⟨l, hl, hb⟩ := exists_lt_of_repeat hi he (k + m)
      exact List.mem_iterate.2 ⟨l, hl, (Function.iterate_add_apply f k m a).symm.trans hb⟩

theorem mem_take_of_repeat {n j : Nat} (hj : j < n)
    (hmem : f^[j] a ∈ (List.iterate f a n).take j) (k : Nat) :
    f^[k] a ∈ (List.iterate f a n).take j := by
  rw [List.take_iterate, Nat.min_eq_left (Nat.le_of_lt hj)] at hmem ⊢
  obtain ⟨i, hi, he⟩ := List.mem_iterate.1 hmem
  obtain ⟨l, hl, hk⟩ := exists_lt_of_repeat hi he k
  exact List.mem_iterate.2 ⟨l, hl, hk⟩

variable {first again : List α}

theorem find?_append_of_subset (p : α → Bool) (hs : again ⊆ first) :
    (first ++ again).find? p = first.find? p := by
  rw [List.find?_append]
  cases hp : first.find? p with
  | some b => rfl
  | none => exact List.find?_eq_none.2 fun b hb => List.find?_eq_none.1 hp b (hs hb)

theorem head?_append_of_subset (hs : again ⊆ first) : (first ++ again).head? = first.head? := by
  cases first with
  | nil => rw [List.eq_nil_of_subset_nil hs, List.append_nil]
  | cons a l => rfl

variable [BEq α] [LawfulBEq α]

theorem eraseDups_of_nodup (h : first.Nodup) : first.eraseDups = first := by
  induction first with
  | nil => rfl
  | cons a l ih =>
    obtain ⟨ha, hl⟩ := List.nodup_cons.1 h
    have hne : l.filter (fun b => !b == a) = l := by
      refine List.filter_eq_self.2 fun b hb => ?_
      simpa using fun he : b = a => ha (he ▸ hb)
    rw [List.eraseDups_cons, hne, ih hl]

theorem eraseDups_append_of_subset (h : first.Nodup) (hs : again ⊆ first) :
    (first ++ again).eraseDups = first := by
  have hnone : again.removeAll first = [] := List.filter_eq_nil_iff.2 fun b hb => by
    simpa using hs hb
  rw [List.eraseDups_append, hnone, eraseDups_of_nodup h]
  exact List.append_nil first

end Walk

namespace Vdp

/-! ## The sprite list -/

def following (v : Vdp) (a : UInt16) : UInt16 := linked (v.register Register.sprites) (v.spriteAt a)

/-- The places that the links lead to from the head of the list. -/
inductive Reached (v : Vdp) : UInt16 → Prop
  | head : v.Reached (v.register Register.sprites)
  | link {a : UInt16} : v.Reached a → v.Reached (v.following a)

def nth (v : Vdp) (n : Nat) : UInt16 := v.following^[n] (v.register Register.sprites)

theorem Reached.exists_nth {v : Vdp} {a : UInt16} (h : v.Reached a) : ∃ n, a = v.nth n := by
  induction h with
  | head => exact ⟨0, rfl⟩
  | link _ ih =>
    obtain ⟨n, rfl⟩ := ih
    exact ⟨n + 1, (Function.iterate_succ_apply' ..).symm⟩

theorem toNat_link_lt (s : SpriteEntry) : s.link.toNat < 128 := by
  have h : s.link ≤ 0x7F := UInt16.and_le_right
  exact Nat.lt_succ_of_le (UInt16.le_iff_toNat_le.1 h)

/-- The number of the entry, counted from the head, that is `n` links away. -/
def slot (v : Vdp) : Nat → Fin 128
  | 0 => 0
  | n + 1 => ⟨(v.spriteAt (v.nth n)).link.toNat, toNat_link_lt _⟩

theorem nth_eq_slot (v : Vdp) (n : Nat) :
    v.nth n = v.register Register.sprites + UInt16.ofNat (v.slot n) <<< 3 := by
  cases n with
  | zero => simp [nth, slot]
  | succ n =>
    rw [nth, Function.iterate_succ_apply', slot]
    simp [following, linked, nth]

/-- Within 128 links the walk comes back to a place. -/
theorem exists_repeat (v : Vdp) : ∃ i j, i < j ∧ j ≤ 128 ∧ v.nth j = v.nth i := by
  obtain ⟨i, j, hne, he⟩ :=
    Fintype.exists_ne_map_eq_of_card_lt (fun k : Fin 129 => v.slot k) (by simp)
  have hnth : v.nth i = v.nth j := by rw [nth_eq_slot, nth_eq_slot, he]
  rcases Nat.lt_or_gt_of_ne (Fin.val_ne_of_ne hne) with h | h
  · exact ⟨i, j, h, by omega, hnth.symm⟩
  · exact ⟨j, i, h, by omega, hnth⟩

/-- The addresses that the links lead through from `address` on, at most `limit` of them and up to
an entry that links to itself. -/
def walkFrom (v : Vdp) (base : UInt16) : (limit : Nat) → (address : UInt16) → List UInt16
  | 0, _ => []
  | limit + 1, address =>
    let next := linked base (v.spriteAt address)
    address :: if next = address then [] else v.walkFrom base limit next

def spriteWalk (v : Vdp) : List UInt16 :=
  v.walkFrom (v.register Register.sprites) walkLimit (v.register Register.sprites)

theorem walkFrom_succ (v : Vdp) (limit : Nat) (a : UInt16) :
    v.walkFrom (v.register Register.sprites) (limit + 1) a =
      a :: if v.following a = a then []
      else v.walkFrom (v.register Register.sprites) limit (v.following a) := rfl

theorem exists_walkFrom_eq (v : Vdp) (limit : Nat) (a : UInt16) :
    ∃ n, v.walkFrom (v.register Register.sprites) limit a = List.iterate v.following a n ∧
      (n = limit ∨ ∃ k, n = k + 1 ∧ v.following^[k + 1] a = v.following^[k] a) := by
  induction limit generalizing a with
  | zero => exact ⟨0, rfl, .inl rfl⟩
  | succ limit ih =>
    rw [walkFrom_succ]
    by_cases hself : v.following a = a
    · exact ⟨1, by rw [if_pos hself]; rfl, .inr ⟨0, rfl, hself⟩⟩
    · obtain ⟨n, hwalk, hend⟩ := ih (v.following a)
      refine ⟨n + 1, ?_, ?_⟩
      · rw [if_neg hself]
        exact congrArg (a :: ·) hwalk
      · rcases hend with rfl | ⟨k, rfl, hk⟩
        · exact .inl rfl
        · exact .inr ⟨k + 1, rfl, hk⟩

theorem exists_spriteWalk_eq (v : Vdp) :
    ∃ n, v.spriteWalk = List.iterate v.following (v.register Register.sprites) n ∧
      ∀ a, v.Reached a → a ∈ v.spriteWalk := by
  obtain ⟨n, hwalk, hend⟩ := v.exists_walkFrom_eq walkLimit (v.register Register.sprites)
  refine ⟨n, hwalk, fun a ha => ?_⟩
  obtain ⟨l, rfl⟩ := ha.exists_nth
  -- There is a repetition among the places looked at, be it of the last place by itself.
  have hrepeat : ∃ i j, i < j ∧ j ≤ n ∧ v.nth j = v.nth i := by
    rcases hend with rfl | ⟨k, rfl, hk⟩
    · obtain ⟨i, j, hij, hj, he⟩ := v.exists_repeat
      exact ⟨i, j, hij, Nat.le_trans hj (by decide), he⟩
    · exact ⟨k, k + 1, Nat.lt_succ_self k, Nat.le_refl _, hk⟩
  obtain ⟨i, j, hij, hj, he⟩ := hrepeat
  obtain ⟨k, hk, hl⟩ := Walk.exists_lt_of_repeat hij he l
  rw [spriteWalk, hwalk, List.mem_iterate]
  exact ⟨k, Nat.lt_of_lt_of_le hk hj, hl⟩

/-! ## What collecting a row looks at -/

def cached (v : Vdp) (y : UInt16) : List UInt16 :=
  (v.examined y).filter fun a => (v.spriteAt a).covers y

/-- Stopping when there is no more room leaves out nothing that would have been kept. -/
theorem examinedFrom_spec (v : Vdp) (base y : UInt16) (limit room : Nat) (hroom : 0 < room)
    (a : UInt16) :
    let counts := fun b => (v.spriteAt b).covers y
    let looked := v.examinedFrom base y limit room a
    let walk := v.walkFrom base limit a
    looked <+: walk ∧ looked.filter counts = (walk.filter counts).take room ∧
      (looked = walk ∨ (looked.filter counts).length = room) := by
  induction limit generalizing room a with
  | zero => exact ⟨List.prefix_refl [], by simp [examinedFrom, walkFrom], .inl rfl⟩
  | succ limit ih =>
    intro counts looked walk
    let next := linked base (v.spriteAt a)
    have hlooked : looked = a :: if (if counts a then room - 1 else room) = 0 ∨ next = a then []
        else v.examinedFrom base y limit (if counts a then room - 1 else room) next := rfl
    have hwalk : walk = a :: if next = a then [] else v.walkFrom base limit next := rfl
    by_cases hnext : next = a
    · rw [if_pos (.inr hnext)] at hlooked
      rw [if_pos hnext] at hwalk
      rw [hlooked, hwalk]
      refine ⟨List.prefix_refl _, (List.take_of_length_le ?_).symm, .inl rfl⟩
      exact Nat.le_trans (List.length_filter_le _ _) hroom
    · rw [if_neg hnext] at hwalk
      cases hcounts : counts a with
      | false =>
        rw [hcounts, if_neg Bool.false_ne_true,
          if_neg (not_or.2 ⟨Nat.ne_of_gt hroom, hnext⟩)] at hlooked
        obtain ⟨hstart, hfilter, hend⟩ := ih room hroom next
        rw [hlooked, hwalk, List.filter_cons_of_neg (by simp [hcounts]),
          List.filter_cons_of_neg (by simp [hcounts])]
        exact ⟨(List.prefix_cons_inj a).2 hstart, hfilter, hend.imp_left (congrArg (a :: ·))⟩
      | true =>
        rw [hcounts, if_pos rfl] at hlooked
        obtain ⟨left, rfl⟩ : ∃ left, room = left + 1 := ⟨room - 1, by omega⟩
        rw [Nat.add_sub_cancel] at hlooked
        rcases Nat.eq_zero_or_pos left with rfl | hleft
        · rw [if_pos (.inl rfl)] at hlooked
          rw [hlooked, hwalk, List.filter_cons_of_pos hcounts, List.filter_cons_of_pos hcounts]
          exact ⟨⟨_, rfl⟩, rfl, .inr rfl⟩
        · rw [if_neg (not_or.2 ⟨Nat.ne_of_gt hleft, hnext⟩)] at hlooked
          obtain ⟨hstart, hfilter, hend⟩ := ih left hleft next
          rw [hlooked, hwalk, List.filter_cons_of_pos hcounts, List.filter_cons_of_pos hcounts,
            List.take_succ_cons]
          exact ⟨(List.prefix_cons_inj a).2 hstart, congrArg (a :: ·) hfilter,
            hend.imp (congrArg (a :: ·)) (congrArg (· + 1))⟩

theorem cached_eq (v : Vdp) (y : UInt16) :
    v.cached y = (v.spriteWalk.filter fun a => (v.spriteAt a).covers y).take rowLimit :=
  (v.examinedFrom_spec (v.register Register.sprites) y walkLimit rowLimit (by decide)
    (v.register Register.sprites)).2.1

theorem rowSprites_collectRow (v : Vdp) (y : UInt16) :
    (v.collectRow y).rowSprites = (v.cached y).map v.spriteAt := by
  rw [collectRow, spritesOnRow, List.filter_map]
  rfl

/-! ## Entries seen again -/

/-- What an entry shows at a screen position, none off its box or where its picture is
transparent. -/
def shownBy (v : Vdp) (x y : UInt16) (s : SpriteEntry) : Option LayerPixel :=
  (v.spriteNibble s x y).bind fun n => if n = 0 then none else some ⟨n ||| s.paletteRow, s.priority⟩

theorem shownBy_eq_some_iff {v : Vdp} {x y : UInt16} {s : SpriteEntry} {p : LayerPixel} :
    v.shownBy x y s = some p ↔
      ∃ n, v.spriteNibble s x y = some n ∧ n ≠ 0 ∧ p = ⟨n ||| s.paletteRow, s.priority⟩ := by
  rw [shownBy, Option.bind_eq_some_iff]
  refine exists_congr fun n => and_congr_right fun _ => ?_
  by_cases h0 : n = 0 <;> simp [h0, eq_comm]

theorem scanSprites_eq (v : Vdp) (x y : UInt16) (found : Option LayerPixel)
    (sprites : List SpriteEntry) :
    v.scanSprites x y found sprites =
      let shown := sprites.filterMap (v.shownBy x y)
      (shown.find? (·.priority)).or (found.or shown.head?) := by
  induction sprites generalizing found with
  | nil => simp [scanSprites]
  | cons s rest ih =>
    -- An entry that shows nothing is passed over, be it sampled or not.
    have hpass (h : v.shownBy x y s = none) :
        v.scanSprites x y found (s :: rest) = v.scanSprites x y found rest := by
      rw [scanSprites]
      split
      · rfl
      · split
        · rfl
        · rename_i n hn
          rw [shownBy, hn] at h
          by_cases h0 : n = 0 <;> simp [h0] at h ⊢
    cases hs : v.shownBy x y s with
    | none => rw [hpass hs, ih, List.filterMap_cons_none hs]
    | some p =>
      obtain ⟨n, hn, h0, rfl⟩ := shownBy_eq_some_iff.1 hs
      rw [List.filterMap_cons_some hs, scanSprites, hn]
      cases hp : s.priority with
      | true => simp [h0]
      | false => cases found <;> simp [h0, ih]

/-- Entries that come again change nothing at any pixel. -/
theorem scanSprites_append_of_subset (v : Vdp) (x y : UInt16) {sprites again : List SpriteEntry}
    (h : again ⊆ sprites) :
    v.scanSprites x y none (sprites ++ again) = v.scanSprites x y none sprites := by
  have hs : again.filterMap (v.shownBy x y) ⊆ sprites.filterMap (v.shownBy x y) :=
    List.filterMap_subset _ h
  rw [scanSprites_eq, scanSprites_eq]
  dsimp only
  rw [List.filterMap_append, Walk.find?_append_of_subset _ hs, Walk.head?_append_of_subset hs]

/-- The cached addresses are the first that the walk comes to and that count, and then such as are
among these already. -/
theorem exists_cached_split (v : Vdp) (y : UInt16) : ∃ first again : List UInt16,
    v.cached y = first ++ again ∧ first.Nodup ∧ again ⊆ first ∧
      first = (v.spriteWalk.eraseDups.filter fun a => (v.spriteAt a).covers y).take rowLimit := by
  obtain ⟨n, hwalk, -⟩ := v.exists_spriteWalk_eq
  obtain ⟨first, again, hsplit, hnodup, hsubset⟩ :=
    Walk.exists_split v.following (v.register Register.sprites) n
  rw [cached_eq, hwalk, hsplit, Walk.eraseDups_append_of_subset hnodup hsubset, List.filter_append,
    List.take_append]
  refine ⟨_, _, rfl, (hnodup.filter _).sublist (List.take_sublist ..), ?_, rfl⟩
  rcases Nat.lt_or_ge (first.filter fun a => (v.spriteAt a).covers y).length rowLimit with hlt | hge
  · rw [List.take_of_length_le (Nat.le_of_lt hlt)]
    exact fun a ha => List.filter_subset _ hsubset (List.mem_of_mem_take ha)
  · rw [Nat.sub_eq_zero_of_le hge, List.take_zero]
    exact List.nil_subset _

/-- Every entry that the links lead to is looked at, in the order of the links and before any entry
is looked at again, unless all slots are taken. A cycle may fill slots with entries that are there
already; the sprites that show are those of the distinct addresses, the first to be reached,
whatever is in video memory when they are sampled. -/
theorem examined_complete (v : Vdp) (y : UInt16) :
    (v.collectRow y).rowSprites = (v.cached y).map v.spriteAt ∧
      (∀ i (h : i < (v.examined y).length), (v.examined y)[i] = v.nth i) ∧
      (∀ j (h : j < (v.examined y).length), (v.examined y)[j] ∈ (v.examined y).take j →
        ∀ a, v.Reached a → a ∈ (v.examined y).take j) ∧
      ((∀ a, v.Reached a → a ∈ v.examined y) ∨ (v.cached y).length = rowLimit) ∧
      (∀ a, v.Reached a → a ∈ v.spriteWalk) ∧
      (v.cached y).eraseDups =
        (v.spriteWalk.eraseDups.filter fun a => (v.spriteAt a).covers y).take rowLimit ∧
      ∀ (w : Vdp) (x y' : UInt16),
        { w with rowSprites := (v.collectRow y).rowSprites }.spritePixel x y' =
          { w with rowSprites := (v.cached y).eraseDups.map v.spriteAt }.spritePixel x y' := by
  obtain ⟨n, hwalk, hreached⟩ := v.exists_spriteWalk_eq
  obtain ⟨hstart, -, hend⟩ :=
    v.examinedFrom_spec (v.register Register.sprites) y walkLimit rowLimit (by decide)
    (v.register Register.sprites)
  obtain ⟨first, again, hcached, hnodup, hsubset, hfirst⟩ := v.exists_cached_split y
  obtain ⟨m, hlooked⟩ : ∃ m, v.examined y =
      List.iterate v.following (v.register Register.sprites) m := by
    refine ⟨min (v.examined y).length n, ?_⟩
    rw [← List.take_iterate, ← hwalk]
    exact List.prefix_iff_eq_take.1 hstart
  have hdistinct : (v.cached y).eraseDups = first := by
    rw [hcached, Walk.eraseDups_append_of_subset hnodup hsubset]
  refine ⟨v.rowSprites_collectRow y, ?_, ?_, ?_, hreached, hdistinct.trans hfirst, ?_⟩
  · intro i h
    simp only [hlooked, List.getElem_iterate]
    rfl
  · intro j h hmem a ha
    obtain ⟨k, rfl⟩ := ha.exists_nth
    simp only [hlooked, List.getElem_iterate, List.length_iterate] at h hmem ⊢
    exact Walk.mem_take_of_repeat h hmem k
  · rcases hend with hall | hfull
    · left
      intro a ha
      rw [examined, hall]
      exact hreached a ha
    · exact .inr hfull
  · intro w x y'
    have hagain : again.map v.spriteAt ⊆ first.map v.spriteAt := List.map_subset _ hsubset
    have hpixel (sprites : List SpriteEntry) :
        ({ w with rowSprites := sprites } : Vdp).spritePixel x y' =
          w.scanSprites x y' none sprites :=
      scanSprites_congr (v := { w with rowSprites := sprites }) (w := w) rfl x y' none sprites
    rw [hdistinct, rowSprites_collectRow, hcached, List.map_append, hpixel, hpixel,
      w.scanSprites_append_of_subset x y' hagain]

/-- Two entries that link to each other. -/
def circling : Vdp :=
  { Vdp.zero with memory := ((Memory.zero.write 1 1).write 3 1).write 9 1 }

/-- Two entries that link to each other and cover row 0 are looked at in turn until all slots are
taken. -/
theorem examined_complete_circling :
    (circling.cached 0).length = 32 ∧ (∀ a, circling.Reached a → a = 0 ∨ a = 8) ∧
      (circling.collectRow 0).rowSprites = (circling.cached 0).map circling.spriteAt ∧
      ∀ x y, (circling.collectRow 0).spritePixel x y =
        { circling with
          rowSprites := [circling.spriteAt 0, circling.spriteAt 8] }.spritePixel x y := by
  obtain ⟨hrow, -, hrepeat, -, -, -, hpixel⟩ := examined_complete circling 0
  have hlength : (circling.cached 0).length = 32 := by decide +kernel
  have hdistinct : (circling.cached 0).eraseDups = [0, 8] := by decide +kernel
  refine ⟨hlength, fun a ha => ?_, hrow, fun x y => ?_⟩
  · have hlooked : (circling.examined 0).take 2 = [0, 8] := by decide +kernel
    have hmem := hrepeat 2 (by decide +kernel) (by decide +kernel) a ha
    rw [hlooked] at hmem
    simpa using hmem
  · have hp := hpixel circling x y
    rw [hdistinct] at hp
    exact hp

end Vdp

end FantasyConsole
