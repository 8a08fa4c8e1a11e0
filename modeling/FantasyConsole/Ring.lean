/-!
# Circular fill and copy

A buffer of fixed size is addressed modulo its size. A transfer is cut into runs
at the points where either side wraps, and each run is a plain walk over
neighbouring cells. Every index carries its bound, so no access leaves a buffer.
-/
namespace FantasyConsole.Ring

variable {α : Type} {n m : Nat}

/-- Write `v` to `count` neighbouring cells from `start` on. -/
def fillRun (dst : Vector α n) (start : Nat) (v : α) :
    (count : Nat) → start + count ≤ n → Vector α n
  | 0, _ => dst
  | count + 1, h => fillRun (dst.set start v) (start + 1) v count (by omega)

/-- Copy `count` neighbouring cells of `src` from `origin` on to those of `dst` from `start` on. -/
def copyRun (dst : Vector α n) (start : Nat) (src : Vector α m) (origin : Nat) :
    (count : Nat) → start + count ≤ n → origin + count ≤ m → Vector α n
  | 0, _, _ => dst
  | count + 1, hd, hs =>
    copyRun (dst.set start src[origin]) (start + 1) src (origin + 1) count (by omega) (by omega)

/-- Fill `left` cells from `start` on, one run up to the end of the buffer at a time. -/
def fillRuns (dst : Vector α n) (start : Nat) (v : α) (left : Nat) (h : start < n) : Vector α n :=
  if left = 0 then dst
  else
    let run := min (n - start) left
    fillRuns (fillRun dst start v run (by omega)) ((start + run) % n) v (left - run)
      (Nat.mod_lt _ (by omega))
termination_by left
decreasing_by omega

/-- Copy `left` cells, one run up to the nearer of the two buffer ends at a time. -/
def copyRuns (dst : Vector α n) (start : Nat) (src : Vector α m) (origin left : Nat)
    (hd : start < n) (hs : origin < m) : Vector α n :=
  if left = 0 then dst
  else
    let run := min (min (n - start) (m - origin)) left
    copyRuns (copyRun dst start src origin run (by omega) (by omega)) ((start + run) % n) src
      ((origin + run) % m) (left - run) (Nat.mod_lt _ (by omega)) (Nat.mod_lt _ (by omega))
termination_by left
decreasing_by omega

/-- Write `v` to `count` cells from `offset` on, wrapping. A count of the whole size or more fills
all. -/
def fill (dst : Vector α n) (offset : Nat) (v : α) (count : Nat) : Vector α n :=
  if h : n = 0 then dst
  else if n ≤ count then Vector.replicate n v
  else fillRuns dst (offset % n) v count (Nat.mod_lt _ (by omega))

/-- Copy `count` cells of `src` from `origin` on into `dst` from `offset` on, each side wrapping at
its own size. Later cells overwrite earlier ones; an empty side makes the copy do nothing. -/
def copy (dst : Vector α n) (offset : Nat) (src : Vector α m) (origin count : Nat) : Vector α n :=
  if hd : n = 0 then dst
  else if hs : m = 0 then dst
  else copyRuns dst (offset % n) src (origin % m) count (Nat.mod_lt _ (by omega))
    (Nat.mod_lt _ (by omega))

/-- Copy the cells of `src` from `origin` up to `stop` into `dst` from `start` on, one run up to the
end of `dst` at a time. With the result comes the place where the next cell would go. -/
def storeRuns (dst : Vector α n) (start : Fin n) (src : Vector α m) (origin stop : Nat)
    (hs : stop ≤ m) :
    Vector α n × Fin n :=
  if h : stop ≤ origin then (dst, start)
  else
    let run := min (stop - origin) (n - start)
    storeRuns (copyRun dst start src origin run (by omega) (by omega))
      ⟨(start + run) % n, Nat.mod_lt _ start.pos⟩ src (origin + run) stop hs
termination_by stop - origin
decreasing_by
  have := start.isLt
  omega

/-- Copy the cells of `src` from `origin` to its end into `dst` from `start` on, in pieces of the
size of `dst`. A piece may begin anywhere in `dst`. -/
def storePieces (dst : Vector α n) (start : Fin n) (src : Vector α m) (origin : Nat) : Vector α n :=
  if origin < m then
    let stop := min (origin + n) m
    match storeRuns dst start src origin stop (Nat.min_le_right ..) with
    | (dst, start) => storePieces dst start src stop
  else dst
termination_by m - origin
decreasing_by
  have := start.pos
  omega

/-- Copy all of `src` into `dst` from `start` on, wrapping. Later cells overwrite earlier ones. -/
def store (dst : Vector α n) (start : Fin n) (src : Vector α m) : Vector α n :=
  storePieces dst start src 0

end FantasyConsole.Ring
