import FantasyConsole.Device.Pager

/-!
# Wrapping transfers

A transfer between buffers is made in runs that end where a side wraps. It comes to the
same as writing cell by cell, in order, with each position reduced modulo the size. A
fill is a copy from a buffer of one cell, and a load is a copy of all that is loaded. A
copy no longer than its target puts each cell in a place of its own, so what it leaves
can be read off place by place; of a longer one the last write to a place is seen.
-/
namespace FantasyConsole

namespace Ring

variable {α : Type} {n m : Nat} (hn : 0 < n) (hm : 0 < m)

/-- The cell at a position counted around the buffer. -/
def cell (v : Vector α n) (i : Nat) : α := getElem v (i % n) (Nat.mod_lt i hn)

def setCell (v : Vector α n) (i : Nat) (a : α) : Vector α n := v.set (i % n) a (Nat.mod_lt i hn)

def copyEach (dst : Vector α n) (start : Nat) (src : Vector α m) (origin : Nat) :
    (count : Nat) → Vector α n
  | 0 => dst
  | count + 1 =>
    copyEach (setCell hn dst start (cell hm src origin)) (start + 1) src (origin + 1) count

theorem cell_setCell (v : Vector α n) (i j : Nat) (a : α) :
    cell hn (setCell hn v i a) j = if i % n = j % n then a else cell hn v j := by
  simp [cell, setCell, Vector.getElem_set]

theorem cell_mod (v : Vector α n) (i : Nat) : cell hn v (i % n) = cell hn v i := by
  simp [cell]

theorem cell_add_size (v : Vector α n) (i : Nat) : cell hn v (i + 1 + (n - 1)) = cell hn v i := by
  rw [show i + 1 + (n - 1) = i + n by omega, ← cell_mod, Nat.add_mod_right, cell_mod]

theorem setCell_mod (v : Vector α n) (i : Nat) (a : α) :
    setCell hn v (i % n) a = setCell hn v i a := by
  simp [setCell]

theorem copyEach_mod (dst : Vector α n) (start : Nat) (src : Vector α m) (origin count : Nat) :
    copyEach hn hm dst (start % n) src (origin % m) count =
      copyEach hn hm dst start src origin count := by
  induction count generalizing dst start origin with
  | zero => rfl
  | succ count ih =>
    rw [copyEach, copyEach, setCell_mod, cell_mod, ← ih _ (start % n + 1), ← ih _ (start + 1),
      Nat.mod_add_mod, Nat.mod_add_mod]

theorem copyEach_mod_start (dst : Vector α n) (start : Nat) (src : Vector α m)
    (origin count : Nat) :
    copyEach hn hm dst (start % n) src origin count =
      copyEach hn hm dst start src origin count := by
  rw [← copyEach_mod, Nat.mod_mod, copyEach_mod]

theorem copyEach_add (dst : Vector α n) (start : Nat) (src : Vector α m) (origin a b : Nat) :
    copyEach hn hm dst start src origin (a + b) =
      copyEach hn hm (copyEach hn hm dst start src origin a) (start + a) src (origin + a) b := by
  induction a generalizing dst start origin with
  | zero => rw [Nat.zero_add]; rfl
  | succ a ih =>
    rw [Nat.succ_add, copyEach, ih, copyEach, Nat.add_right_comm start, Nat.add_right_comm origin];
      rfl

theorem copyRun_eq_copyEach (dst : Vector α n) (start : Nat) (src : Vector α m) (origin count : Nat)
    (hd : start + count ≤ n) (hs : origin + count ≤ m) :
    copyRun dst start src origin count hd hs = copyEach hn hm dst start src origin count := by
  induction count generalizing dst start origin with
  | zero => rfl
  | succ count ih =>
    have hset : setCell hn dst start (cell hm src origin) = dst.set start src[origin] := by
      simp only [setCell, cell, Nat.mod_eq_of_lt (show start < n by omega),
        Nat.mod_eq_of_lt (show origin < m by omega)]
    rw [copyRun, ih, copyEach, hset]

theorem copyRuns_eq_copyEach (dst : Vector α n) (start : Nat) (src : Vector α m) (origin left : Nat)
    (hd : start < n) (hs : origin < m) :
    copyRuns dst start src origin left hd hs = copyEach hn hm dst start src origin left := by
  fun_induction copyRuns dst start src origin left hd hs with
  | case1 => rfl
  | case2 dst start origin left hd hs hleft run ih =>
    have hsplit : run + (left - run) = left := by omega
    rw [ih, copyEach_mod, copyRun_eq_copyEach hn hm, ← copyEach_add, hsplit]

theorem copy_eq_copyEach (dst : Vector α n) (offset : Nat) (src : Vector α m) (origin count : Nat) :
    copy dst offset src origin count = copyEach hn hm dst offset src origin count := by
  rw [copy, dif_neg (Nat.ne_of_gt hn), dif_neg (Nat.ne_of_gt hm),
    copyRuns_eq_copyEach hn hm, copyEach_mod]

omit hn hm in
theorem copy_zero (dst : Vector α n) (offset : Nat) (src : Vector α m) (origin : Nat) :
    copy dst offset src origin 0 = dst := by
  unfold copy
  split
  · rfl
  · split
    · rfl
    · rw [copyRuns, if_pos rfl]

/-! ## Fills and stores are copies -/

theorem fillRun_eq_copyEach (dst : Vector α n) (start : Nat) (v : α) (origin count : Nat)
    (h : start + count ≤ n) :
    fillRun dst start v count h = copyEach hn Nat.one_pos dst start #v[v] origin count := by
  induction count generalizing dst start origin with
  | zero => rfl
  | succ count ih =>
    have hset : setCell hn dst start (cell Nat.one_pos #v[v] origin) = dst.set start v := by
      simp [setCell, cell, Nat.mod_eq_of_lt (show start < n by omega)]
    rw [fillRun, ih _ _ (origin + 1), copyEach, hset]

theorem fillRuns_eq_copyEach (dst : Vector α n) (start : Nat) (v : α) (origin left : Nat)
    (h : start < n) :
    fillRuns dst start v left h = copyEach hn Nat.one_pos dst start #v[v] origin left := by
  fun_induction fillRuns dst start v left h generalizing origin with
  | case1 => rfl
  | case2 dst start left h hleft run ih =>
    have hsplit : run + (left - run) = left := by omega
    rw [ih ((origin + run) % 1), copyEach_mod, fillRun_eq_copyEach hn dst start v origin,
      ← copyEach_add, hsplit]

/-- What a store has written up to `stop`, and the place where it goes on. -/
theorem storeRuns_eq_copyEach (dst : Vector α n) (start : Fin n) (src : Vector α m)
    (origin stop : Nat) (hs : stop ≤ m) :
    storeRuns dst start src origin stop hs =
      (copyEach hn hm dst start src origin (stop - origin),
        ⟨(start + (stop - origin)) % n, Nat.mod_lt _ hn⟩) := by
  fun_induction storeRuns dst start src origin stop hs with
  | case1 dst start origin h =>
    have hdone : stop - origin = 0 := by omega
    simp [hdone, copyEach, Nat.mod_eq_of_lt]
  | case2 dst start origin h run ih =>
    have hsplit : stop - origin = run + (stop - (origin + run)) := by omega
    rw [ih, copyRun_eq_copyEach hn hm, copyEach_mod_start, ← copyEach_add]
    simp only [← hsplit, Nat.mod_add_mod, Nat.add_assoc]

theorem storePieces_eq_copyEach (dst : Vector α n) (start : Fin n) (src : Vector α m)
    (origin : Nat) :
    storePieces dst start src origin = copyEach hn hm dst start src origin (m - origin) := by
  fun_induction storePieces dst start src origin with
  | case1 dst start origin h stop dst' start' hpiece ih =>
    have hsplit : m - origin = (stop - origin) + (m - stop) := by omega
    have hstop : stop = origin + (stop - origin) := by omega
    rw [storeRuns_eq_copyEach hn hm, Prod.mk.injEq] at hpiece
    obtain ⟨rfl, rfl⟩ := hpiece
    rw [ih, copyEach_mod_start, hsplit, copyEach_add, ← hstop]
  | case2 dst start origin h =>
    have hdone : m - origin = 0 := by omega
    rw [hdone]
    rfl

/-- What a copy no longer than its target leaves, from the first place that it reaches once
around. -/
theorem cell_copy (dst : Vector α n) (offset : Nat) (src : Vector α m) (origin : Nat)
    {count i : Nat}
    (hcount : count ≤ n) (hi : i < n) : cell hn (copy dst offset src origin count) (offset + i) =
      if i < count then cell hm src (origin + i) else cell hn dst (offset + i) := by
  rw [copy_eq_copyEach hn hm]
  induction count generalizing dst offset origin i with
  | zero => rfl
  | succ count ih =>
    rw [copyEach]
    cases i with
    | zero =>
      -- The cell written first is the last that the remaining ones could reach, and they are
      -- too few.
      rw [Nat.add_zero offset, Nat.add_zero origin, ← cell_add_size,
        ih _ (offset + 1) _ (by omega) (by omega), if_neg (by omega), cell_add_size, cell_setCell,
        if_pos rfl, if_pos (Nat.zero_lt_succ count)]
    | succ i =>
      have hne : offset % n ≠ (offset + (i + 1)) % n := by
        intro h
        have hd : (offset + (i + 1) - offset) % n = 0 := Nat.sub_mod_eq_zero_of_mod_eq h.symm
        rw [Nat.add_sub_cancel_left, Nat.mod_eq_of_lt hi] at hd
        omega
      have hnext (k : Nat) : k + (i + 1) = k + 1 + i := by omega
      rw [hnext offset, ih _ (offset + 1) _ (by omega) (by omega), cell_setCell,
        ← hnext offset, if_neg hne, hnext origin]
      simp only [Nat.add_lt_add_iff_right]

/-- The last of the cells written to a place stays there, however often a copy goes around. -/
theorem cell_copy_last (dst : Vector α n) (offset : Nat) (src : Vector α m) (origin : Nat)
    {count k : Nat} (hk : k < count) (hlast : count ≤ k + n) :
    cell hn (copy dst offset src origin count) (offset + k) = cell hm src (origin + k) := by
  have hsplit : count = k + 1 + (count - (k + 1)) := by omega
  rw [copy_eq_copyEach hn hm, hsplit, copyEach_add, ← copy_eq_copyEach hn hm, ← cell_add_size,
    ← Nat.add_assoc offset, cell_copy hn hm _ _ _ _ (by omega) (by omega), if_neg (by omega),
    cell_add_size, copyEach_add]
  exact (cell_setCell ..).trans (if_pos rfl)

theorem exists_add_mod_eq (start : Nat) {i : Nat} (hi : i < n) : ∃ k < n, (start + k) % n = i := by
  have hn : 0 < n := Nat.zero_lt_of_lt hi
  have hstart := Nat.mod_lt start hn
  have hdiv := Nat.div_add_mod start n
  have haround : start + (i + (n - start % n)) = i + n * (start / n + 1) := by
    rw [Nat.mul_succ]
    omega
  refine ⟨(i + (n - start % n)) % n, Nat.mod_lt _ hn, ?_⟩
  rw [Nat.add_mod_mod, haround, Nat.add_mul_mod_self_left, Nat.mod_eq_of_lt hi]

omit hn hm in
theorem copy_of_empty (dst : Vector α n) (offset : Nat) (src : Vector α m) (origin count : Nat)
    (h : n = 0 ∨ m = 0) : copy dst offset src origin count = dst := by
  unfold copy
  split
  · rfl
  · rw [dif_pos (h.resolve_left ‹_›)]

omit hn hm in
theorem fill_eq_copy (dst : Vector α n) (offset : Nat) (v : α) (count : Nat) :
    fill dst offset v count = copy dst offset #v[v] 0 count := by
  unfold fill
  split
  · exact (copy_of_empty _ _ _ _ _ (.inl ‹_›)).symm
  · rename_i hn
    have hn : 0 < n := Nat.pos_of_ne_zero hn
    split
    · rename_i hcount
      apply Vector.ext
      intro i hi
      -- The place is reached again in the last round, and nothing comes after that.
      obtain ⟨k, hk, hki⟩ := exists_add_mod_eq (offset + (count - n)) hi
      have hlast : count - n + k < count := by omega
      have hcell := cell_copy_last hn Nat.one_pos dst offset #v[v] 0 hlast (by omega)
      simp only [cell, ← Nat.add_assoc, hki] at hcell
      simp [hcell]
    · rw [fillRuns_eq_copyEach hn dst _ v 0, copy_eq_copyEach hn Nat.one_pos, copyEach_mod_start]

omit hn hm in
theorem store_eq_copy (dst : Vector α n) (start : Fin n) (src : Vector α m) :
    store dst start src = copy dst start src 0 m := by
  rcases Nat.eq_zero_or_pos m with hm | hm
  · rw [copy_of_empty _ _ _ _ _ (.inr hm), store, storePieces, if_neg (by omega)]
  · rw [store, storePieces_eq_copyEach start.pos hm, Nat.sub_zero, copy_eq_copyEach start.pos hm]

/-! ## In order, cell by cell -/

/-- Copy one cell, both positions counted around. An empty side has no cell. -/
def copyCell (dst : Vector α n) (i : Nat) (src : Vector α m) (j : Nat) : Vector α n :=
  match src[j % m]? with
  | some a => dst.setIfInBounds (i % n) a
  | none => dst

theorem copyCell_eq_setCell (dst : Vector α n) (i : Nat) (src : Vector α m) (j : Nat) :
    copyCell dst i src j = setCell hn dst i (cell hm src j) := by
  have hj : src[j % m]? = some (cell hm src j) := Vector.getElem?_eq_getElem (Nat.mod_lt j hm)
  rw [copyCell, hj]
  apply Vector.ext
  intro k hk
  rw [setCell, Vector.getElem_set, Vector.getElem_setIfInBounds]

omit hn hm in
theorem copyCell_of_empty (dst : Vector α n) (i : Nat) (src : Vector α m) (j : Nat)
    (h : n = 0 ∨ m = 0) :
    copyCell dst i src j = dst := by
  unfold copyCell
  split
  · rename_i a hj
    have hm : m ≠ 0 := by
      rintro rfl
      simp at hj
    have hn : n = 0 := h.resolve_right hm
    subst hn
    exact Vector.eq_empty.trans Vector.eq_empty.symm
  · rfl

theorem copyEach_eq_fold (dst : Vector α n) (offset : Nat) (src : Vector α m) (origin count : Nat) :
    copyEach hn hm dst offset src origin count =
      count.fold (fun k _ d => copyCell d (offset + k) src (origin + k)) dst := by
  induction count with
  | zero => rfl
  | succ count ih =>
    rw [copyEach_add, Nat.fold_succ, ← ih, copyCell_eq_setCell hn hm]
    rfl

omit hn hm in
theorem copy_eq_fold (dst : Vector α n) (offset : Nat) (src : Vector α m) (origin count : Nat) :
    copy dst offset src origin count =
      count.fold (fun k _ d => copyCell d (offset + k) src (origin + k)) dst := by
  by_cases h : n = 0 ∨ m = 0
  · rw [copy_of_empty _ _ _ _ _ h]
    induction count with
    | zero => rfl
    | succ count ih => rw [Nat.fold_succ, ← ih, copyCell_of_empty _ _ _ _ h]
  · have hn : 0 < n := by omega
    have hm : 0 < m := by omega
    rw [copy_eq_copyEach hn hm, copyEach_eq_fold]

omit hn hm in
theorem fill_eq_fold (dst : Vector α n) (offset : Nat) (v : α) (count : Nat) :
    fill dst offset v count = count.fold
      (fun k _ d => d.setIfInBounds ((offset + k) % n) v) dst := by
  have hcell (d : Vector α n) (i j : Nat) : copyCell d i #v[v] j = d.setIfInBounds (i % n) v := by
    simp [copyCell, Nat.mod_one]
  rw [fill_eq_copy, copy_eq_fold]
  simp only [hcell]

end Ring

namespace Memory

theorem read_add (m : Memory) (offset a : UInt16) :
    m.read (offset + a) = Ring.cell (by decide) m.cells (offset.toNat + a.toNat) := by
  simp [read, Ring.cell]

theorem load_eq_copy (m : Memory) (offset : UInt16) (bytes : Array UInt8) :
    m.load offset bytes = ⟨Ring.copy m.cells offset.toNat bytes.toVector 0 bytes.size⟩ :=
  congrArg Memory.mk (Ring.store_eq_copy ..)

theorem load_eq_fold (m : Memory) (offset : UInt16) (bytes : Array UInt8) :
    m.load offset bytes = bytes.size.fold
      (fun k _ m => m.write (offset + UInt16.ofNat k) bytes[k]) m := by
  rw [load_eq_copy]
  rcases Nat.eq_zero_or_pos bytes.size with hsize | hsize
  · have hb : bytes = #[] := Array.size_eq_zero_iff.1 hsize
    subst hb
    exact congrArg Memory.mk (Ring.copy_zero ..)
  · have hupTo (i : Nat) (hi : i ≤ bytes.size) :
        (⟨Ring.copyEach (by decide) hsize m.cells offset.toNat bytes.toVector 0 i⟩ : Memory) =
          i.fold (fun k _ m => m.write (offset + UInt16.ofNat k) bytes[k]) m := by
      induction i with
      | zero => rfl
      | succ i ih =>
        rw [Nat.fold_succ, ← ih (by omega), Ring.copyEach_add]
        have hin : i % bytes.size = i := Nat.mod_eq_of_lt (by omega)
        apply Memory.ext
        simp [Ring.copyEach, Ring.setCell, Ring.cell, write, hin]
    rw [Ring.copy_eq_copyEach (by decide) hsize]
    exact hupTo bytes.size (Nat.le_refl _)

theorem read_load (m : Memory) (offset : UInt16) {bytes : Array UInt8} (h : bytes.size ≤ 65536)
    (a : UInt16) :
    (m.load offset bytes).read (offset + a) =
      if h : a.toNat < bytes.size then bytes[a.toNat] else m.read (offset + a) := by
  rcases Nat.eq_zero_or_pos bytes.size with hsize | hsize
  · have hload : m.load offset bytes = m := by simp only [load_eq_copy, hsize, Ring.copy_zero]
    rw [hload, dif_neg (by omega)]
  · rw [read_add, load_eq_copy, Ring.cell_copy (by decide) hsize _ _ _ _ h a.toNat_lt, ← read_add]
    split
    · rename_i ha
      simp [Ring.cell, Nat.mod_eq_of_lt ha]
    · rfl

theorem read_pagerCopy (m : Memory) (page destination count : UInt16) {image : Array UInt8}
    (h : 0 < image.size)
    (a : UInt16) : (Pager.copy image page destination count m).read (destination + a) =
      if a < count then Ring.cell h image.toVector (page.toNat * 256 + a.toNat)
      else m.read (destination + a) := by
  have hcount := count.toNat_lt
  rw [read_add, Pager.copy, Ring.cell_copy (by decide) h _ _ _ _ (by omega) a.toNat_lt, ← read_add]
  simp only [UInt16.lt_iff_toNat_lt]

end Memory

/-- Fill, copy and load make their writes cell by cell in order, for every offset and length. An
empty side has no effect, and of the writes to one place the last is seen. -/
theorem transfers_in_order {α : Type} {n m : Nat} (dst : Vector α n) (src : Vector α m) (v : α)
    (offset origin count : Nat) (memory : Memory) (address : UInt16) (bytes : Array UInt8) :
    Ring.fill dst offset v count =
      count.fold (fun k _ d => d.setIfInBounds ((offset + k) % n) v) dst ∧
      (n = 0 → Ring.fill dst offset v count = dst) ∧
      Ring.copy dst offset src origin count =
        count.fold (fun k _ d => Ring.copyCell d (offset + k) src (origin + k)) dst ∧
      (n = 0 ∨ m = 0 → Ring.copy dst offset src origin count = dst) ∧
      (∀ k < count, count ≤ k + n → 0 < m →
        (Ring.copy dst offset src origin count)[(offset + k) % n]? = src[(origin + k) % m]?) ∧
      memory.load address bytes =
        bytes.size.fold (fun k _ m => m.write (address + UInt16.ofNat k) bytes[k]) memory := by
  refine ⟨Ring.fill_eq_fold .., fun h => ?_, Ring.copy_eq_fold .., Ring.copy_of_empty _ _ _ _ _, ?_,
    memory.load_eq_fold ..⟩
  · rw [Ring.fill_eq_copy, Ring.copy_of_empty _ _ _ _ _ (.inl h)]
  · intro k hk hlast hm
    have hn : 0 < n := by omega
    have hcell := Ring.cell_copy_last hn hm dst offset src origin hk hlast
    rw [Vector.getElem?_eq_getElem (Nat.mod_lt _ hn), Vector.getElem?_eq_getElem (Nat.mod_lt _ hm)]
    exact congrArg some hcell

/-- Five cells, from the last of three on, into four: the first place is written twice. -/
theorem transfers_in_order_overlong :
    (Ring.copy #v[0, 0, 0, 0] 3 #v[1, 2, 3] 2 5)[3]? = some 1 ∧
      Ring.copy #v[0, 0, 0, 0] 3 (#v[] : Vector Nat 0) 2 5 = #v[0, 0, 0, 0] ∧
      Ring.fill (#v[] : Vector Nat 0) 3 7 5 = #v[] := by
  obtain ⟨-, -, -, -, hlast, -⟩ := transfers_in_order #v[0, 0, 0, 0] #v[1, 2, 3] 7 3 2 5 .zero 0 #[]
  obtain ⟨-, -, -, hsource, -⟩ :=
    transfers_in_order #v[0, 0, 0, 0] (#v[] : Vector Nat 0) 7 3 2 5 .zero 0 #[]
  obtain ⟨-, htarget, -⟩ := transfers_in_order (#v[] : Vector Nat 0) #v[1, 2, 3] 7 3 2 5 .zero 0 #[]
  exact ⟨hlast 4 (by decide) (by decide) (by decide), hsource (.inr rfl), htarget rfl⟩

end FantasyConsole
