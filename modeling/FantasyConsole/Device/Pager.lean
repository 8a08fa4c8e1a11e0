import FantasyConsole.Handler

/-!
# The pager

Three words written to the pager's field copy bytes of its image into memory: a
page of 256 bytes, a destination, a count. The third word makes the copy, which
wraps at the ends of image and memory. An empty image ignores all writes.
-/
namespace FantasyConsole

/-- The words received of the next copy. -/
inductive Pager.Phase where
  | idle
  | page (page : UInt16)
  | target (page destination : UInt16)
  deriving DecidableEq, Repr

structure Pager where
  image : Array UInt8
  phase : Pager.Phase
  deriving DecidableEq

namespace Pager

def ofImage (image : Array UInt8) : Pager := ⟨image, .idle⟩

/-- Copy `count` bytes of the image, from the given page on, to memory. -/
def copy (image : Array UInt8) (page destination count : UInt16) (m : Memory) : Memory :=
  ⟨Ring.copy m.cells destination.toNat image.toVector (page.toNat * 256) count.toNat⟩

def onWrite (p : Pager) (port : UInt8) : Handler Pager := do
  if p.image.isEmpty then return p
  let w ← Handler.field port
  match p.phase with
  | .idle => return { p with phase := .page w }
  | .page page => return { p with phase := .target page w }
  | .target page destination =>
    Handler.note (.paged page destination w)
    Handler.change fun b => { b with core.memory := copy p.image page destination w b.core.memory }
    return { p with phase := .idle }

end Pager

end FantasyConsole
