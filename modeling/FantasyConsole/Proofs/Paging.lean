import FantasyConsole.Proofs.Attachment
import FantasyConsole.Proofs.Programs
import FantasyConsole.Proofs.Protocol
import FantasyConsole.Proofs.Transfers

/-!
# Words to the pager

A word written to the pager's field is kept until the third, which makes the copy.
The pager reaches nothing of the machine but memory and the journal, so three fields
written in a row leave one copy and an idle pager.
-/
namespace FantasyConsole

namespace Pager

def receive (p : Pager) (w : UInt16) (m : Memory) : Pager × Memory :=
  if p.image.isEmpty then (p, m)
  else match p.phase with
    | .idle => ({ p with phase := .page w }, m)
    | .page page => ({ p with phase := .target page w }, m)
    | .target page destination => ({ p with phase := .idle }, copy p.image page destination w m)

section Phases

variable {image : Array UInt8} (h : 0 < image.size) (w : UInt16) (m : Memory)

include h

theorem isEmpty_eq_false : image.isEmpty = false := by simpa using Nat.ne_of_gt h

theorem receive_idle : (ofImage image).receive w m = (⟨image, .page w⟩, m) := by
  simp [receive, ofImage, isEmpty_eq_false h]

theorem receive_page (page : UInt16) :
    receive ⟨image, .page page⟩ w m = (⟨image, .target page w⟩, m) := by
  simp [receive, isEmpty_eq_false h]

theorem receive_target (page destination : UInt16) :
    receive ⟨image, .target page destination⟩ w m =
      (ofImage image, copy image page destination w m) := by
  simp [receive, ofImage, isEmpty_eq_false h]

end Phases

theorem follow_onWrite (p : Pager) (port : UInt8) (io : Access) (m : Machine) : ∃ journal,
    (p.onWrite port).follow io m =
      let r := p.receive (m.board.ports.fieldEndingAt port) m.board.core.memory
      some (r.1, { m with board :=
        ⟨⟨r.2, m.board.core.stackPair⟩, m.board.ports, m.board.vdp, journal⟩ }) := by
  obtain ⟨image, phase⟩ := p
  unfold onWrite receive
  by_cases he : image.isEmpty
  · rw [if_pos he, if_pos he]
    exact ⟨m.board.journal, rfl⟩
  · rw [if_neg he, if_neg he]
    cases phase with
    | idle => exact ⟨m.board.journal, rfl⟩
    | page page => exact ⟨m.board.journal, rfl⟩
    | target page destination =>
      let w := m.board.ports.fieldEndingAt port
      exact ⟨m.board.journal.note (Event.paged page destination w), rfl⟩

end Pager

namespace Machine

variable {m : Machine} {id : Nat} {p : Pager}

/-- The pager's port leads to device `id`, which is this pager; the port of its field's high byte is
plain. -/
structure HasPager (m : Machine) (id : Nat) (p : Pager) : Prop where
  plain : m.bus.writeRoute (Device.pagerPort - 1) = none
  routed : m.bus.writeRoute Device.pagerPort = some (.device id)
  present : m.bus.deviceAt? id = some (.pager p)

theorem HasPager.deo (h : m.HasPager id p) (fuel : Nat) (v : UInt8) : ∃ journal,
    m.deo fuel Device.pagerPort v =
      let ports := m.board.ports.set Device.pagerPort v
      let r := p.receive (ports.fieldEndingAt Device.pagerPort) m.board.core.memory
      some { m with
        board := ⟨⟨r.2, m.board.core.stackPair⟩, ports, m.board.vdp, journal⟩
        bus := m.bus.setDevice id (some (.pager r.1)) } := by
  obtain ⟨inner, hi⟩ := m.exists_access fuel
  let stored : Machine := { m with board := m.board.setPort Device.pagerPort v }
  obtain ⟨journal, hf⟩ := p.follow_onWrite Device.pagerPort inner (stored.away id)
  have hd : ((Device.pager p).onWrite Device.pagerPort).follow inner (stored.away id) =
      ((p.onWrite Device.pagerPort).follow inner (stored.away id)).bind fun r =>
      some (.pager r.1, r.2) :=
    Handler.follow_bind (p.onWrite Device.pagerPort) (fun q => .done (Device.pager q))
      (stored.away id)
  refine ⟨journal, ?_⟩
  rw [Machine.deo, hi]
  change m.deoWith inner Device.pagerPort v = _
  rw [deoWith_of_device h.routed h.present, hd, hf]
  simp only [Option.bind_some, Option.map_some, away, back, Bus.setDevice_setDevice]
  rfl

def writeField (m : Machine) (fuel : Nat) (port : UInt8) (w : UInt16) : Option Machine :=
  (m.deo fuel port (highByte w)).bind fun m => m.deo fuel (port + 1) (lowByte w)

def writeFields (m : Machine) (fuel : Nat) (port : UInt8) (ws : List UInt16) : Option Machine :=
  ws.foldlM (fun m w => m.writeField fuel port w) m

theorem HasPager.writeField (h : m.HasPager id p) (fuel : Nat) (w : UInt16) : ∃ m',
    m.writeField fuel (Device.pagerPort - 1) w = some m' ∧
    m'.HasPager id (p.receive w m.board.core.memory).1 ∧
      m'.board.core.memory = (p.receive w m.board.core.memory).2 := by
  let first : Machine := { m with board := m.board.setPort (Device.pagerPort - 1) (highByte w) }
  have hfirst : first.HasPager id p := ⟨h.plain, h.routed, h.present⟩
  have hfield : (first.board.ports.set Device.pagerPort (lowByte w)).fieldEndingAt
      Device.pagerPort = w :=
    Ports.fieldEndingAt_setFieldFrom m.board.ports (Device.pagerPort - 1) w
  obtain ⟨journal, hdeo⟩ := hfirst.deo fuel (lowByte w)
  dsimp only at hdeo
  rw [hfield] at hdeo
  have hsent : m.writeField fuel (Device.pagerPort - 1) w =
      first.deo fuel Device.pagerPort (lowByte w) := by
    rw [Machine.writeField, deo_of_plain h.plain]
    rfl
  exact ⟨_, hsent.trans hdeo, ⟨h.plain, h.routed, Bus.deviceAt?_setDevice_self h.present _⟩, rfl⟩

/-- Three words to an idle pager with an image make one copy, and the pager is idle again. -/
theorem HasPager.copies {image : Array UInt8} (h : m.HasPager id (.ofImage image))
    (hi : 0 < image.size) (fuel : Nat) (page destination count : UInt16) : ∃ m',
    m.writeFields fuel (Device.pagerPort - 1) [page, destination, count] = some m' ∧
    m'.HasPager id (.ofImage image) ∧
      m'.board.core.memory = Pager.copy image page destination count m.board.core.memory := by
  obtain ⟨m₁, hw₁, hp₁, hm₁⟩ := h.writeField fuel page
  rw [Pager.receive_idle hi] at hp₁ hm₁
  obtain ⟨m₂, hw₂, hp₂, hm₂⟩ := hp₁.writeField fuel destination
  rw [Pager.receive_page hi] at hp₂ hm₂
  obtain ⟨m₃, hw₃, hp₃, hm₃⟩ := hp₂.writeField fuel count
  rw [Pager.receive_target hi] at hp₃ hm₃
  refine ⟨m₃, ?_, hp₃, ?_⟩
  · simp [writeFields, hw₁, hw₂, hw₃]
  · rw [hm₃, hm₂, hm₁]

/-! ## The standard pager -/

/-- The pager's port leads to an idle pager with this image. -/
def PagerIdle (m : Machine) (image : Array UInt8) : Prop :=
  ∃ id, m.bus.writeRoute Device.pagerPort = some (.device id) ∧
    m.bus.deviceAt? id = some (.pager (.ofImage image))

theorem pagerIdle_standard (config : Config) (filter : LogFilter) (image : Array UInt8)
    (input : Option (List UInt8)) :
    (standard config filter image input).PagerIdle image :=
  ⟨2, writeRoute_standard config filter image input _,
    deviceAt?_standard config filter image input 2⟩

theorem plain_standard (config : Config) (filter : LogFilter) (image : Array UInt8)
    (input : Option (List UInt8)) :
    (standard config filter image input).bus.writeRoute (Device.pagerPort - 1) = none :=
  writeRoute_standard config filter image input _

theorem PagerIdle.hasPager {image : Array UInt8} (h : m.PagerIdle image) {config : Config}
    {filter : LogFilter} {original : Array UInt8} {input : Option (List UInt8)}
    (hs : SameSetup (standard config filter original input) m) :
    ∃ id, m.HasPager id (.ofImage image) := by
  obtain ⟨id, hr, hd⟩ := h
  exact ⟨id, (hs.writeRoute _).trans (plain_standard config filter original input), hr, hd⟩

end Machine

end FantasyConsole
