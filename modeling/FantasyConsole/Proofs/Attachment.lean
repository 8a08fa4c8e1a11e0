import FantasyConsole.Proofs.Sparing

/-!
# What stays attached

Handlers change what a device remembers and nothing else about it, and a visit puts
the device back into the slot that it was taken from. So every call leaves the
routes, the slots with their names, and in each slot the device that was there.
-/
namespace FantasyConsole

/-- The device with what its handlers change taken away. -/
def Device.fresh : Device → Device
  | .stackPointers => .stackPointers
  | .metadata => .metadata
  | .pager p => .pager (.ofImage p.image)
  | .controller _ => .controller .idle
  | .debug d => .debug { d with input := none }
  | .scripted s => .scripted { s with calls := 0, kept := #[] }

namespace Handler

variable {α : Type}

abbrev AnyChange : (Board → Board) → Prop := fun _ => True

theorem holds_anyChange (h : Handler α) : h.Holds AnyChange fun _ => True := by
  induction h with
  | done a => trivial
  | inspect next ih => exact ih
  | update f next ih => exact ⟨trivial, ih⟩
  | dei port next ih => exact ih
  | deo port v next ih => exact ih
  | run start next ih => exact ih

end Handler

namespace Device

theorem fresh_onRead (d : Device) (port : UInt8) :
    (d.onRead port).Holds Handler.AnyChange fun r => r.2.fresh = d.fresh := by
  cases d with
  | stackPointers =>
    unfold onRead
    dsimp only
    split <;> exact fun _ => rfl
  | metadata => exact fun _ => rfl
  | pager p => exact fun _ => rfl
  | controller c => exact ⟨trivial, rfl⟩
  | debug c => exact rfl
  | scripted s => exact ((s.onRead port s.kept).holds_anyChange.mono fun _ _ => rfl).bind

theorem fresh_onWrite (d : Device) (port : UInt8) :
    (d.onWrite port).Holds Handler.AnyChange fun e => e.fresh = d.fresh := by
  cases d with
  | stackPointers =>
    rw [onWrite]
    dsimp only
    split
    · exact fun _ => ⟨trivial, rfl⟩
    · rfl
  | metadata => rfl
  | pager p =>
    refine (((p.onlyLoads_onWrite port).mono_change fun _ _ => trivial).mono ?_).bind
    intro q hq
    exact congrArg (fun image => Device.pager (.ofImage image)) hq
  | controller c => exact fun _ => ⟨trivial, rfl⟩
  | debug c =>
    refine (((c.onlyReports_onWrite port).mono_change fun _ _ => trivial).mono ?_).bind
    intro e he
    exact congrArg (fun sink => Device.debug ⟨sink, none⟩) he
  | scripted s => exact ((s.onWrite port s.kept).holds_anyChange.mono fun _ _ => rfl).bind

end Device

namespace Bus

variable {b : Bus} {id : Nat} {d : Device}

/-- The routes and the slots, with the devices as they were attached. -/
def layout (b : Bus) : Bus :=
  { b with slots := b.slots.map fun s => { s with device := s.device.map Device.fresh } }

/-- No port leads to a device that is in its slot. -/
def Deviceless (b : Bus) : Prop :=
  ∀ port id, b.readRoute port = some (.device id) ∨ b.writeRoute port = some (.device id) →
    b.deviceAt? id = none

theorem getElem?_setDevice (b : Bus) (id j : Nat) (x : Option Device) :
    (b.setDevice id x).slots[j]? =
      if id = j then b.slots[j]?.map fun s => { s with device := x } else b.slots[j]? :=
  Array.getElem?_modify

theorem deviceAt?_setDevice_of_ne (b : Bus) {id j : Nat} (h : id ≠ j) (x : Option Device) :
    (b.setDevice id x).deviceAt? j = b.deviceAt? j := by
  rw [deviceAt?, getElem?_setDevice, if_neg h, deviceAt?]

theorem deviceAt?_setDevice_none_self (b : Bus) (id : Nat) :
    (b.setDevice id none).deviceAt? id = none := by
  rw [deviceAt?, getElem?_setDevice, if_pos rfl]
  cases b.slots[id]? <;> rfl

theorem deviceAt?_setDevice_self (h : b.deviceAt? id = some d) (x : Option Device) :
    (b.setDevice id x).deviceAt? id = x := by
  obtain ⟨s, hs, -⟩ := Option.bind_eq_some_iff.1 h
  rw [deviceAt?, getElem?_setDevice, if_pos rfl, hs]
  rfl

theorem getElem?_layout (b : Bus) (j : Nat) :
    b.layout.slots[j]? = b.slots[j]?.map fun s => { s with device := s.device.map Device.fresh } :=
  Array.getElem?_map

theorem deviceAt?_layout (b : Bus) (j : Nat) :
    b.layout.deviceAt? j = (b.deviceAt? j).map Device.fresh := by
  rw [deviceAt?, getElem?_layout, deviceAt?]
  cases b.slots[j]? <;> rfl

theorem layout_setDevice (b : Bus) (id : Nat) (x : Option Device) :
    (b.setDevice id x).layout = b.layout.setDevice id (x.map Device.fresh) := by
  suffices h : (b.setDevice id x).layout.slots =
    (b.layout.setDevice id (x.map Device.fresh)).slots from
    congrArg (Bus.mk b.readRoutes b.writeRoutes) h
  apply Array.ext_getElem?
  intro j
  rw [getElem?_layout, getElem?_setDevice, getElem?_setDevice, getElem?_layout]
  by_cases hj : id = j
  · simp only [hj, if_true, Option.map_map]
    rfl
  · simp only [hj, if_false]

theorem setDevice_setDevice_of_deviceAt? (h : b.deviceAt? id = some d) :
    (b.setDevice id none).setDevice id (some d) = b := by
  suffices hs : ((b.setDevice id none).setDevice id (some d)).slots = b.slots from
    congrArg (Bus.mk b.readRoutes b.writeRoutes) hs
  apply Array.ext_getElem?
  intro j
  rw [getElem?_setDevice, getElem?_setDevice]
  by_cases hj : id = j
  · subst hj
    obtain ⟨s, hs, hd⟩ := Option.bind_eq_some_iff.1 h
    rw [hs, ← hd]
    simp
  · simp [hj]

theorem setDevice_setDevice (b : Bus) (id : Nat) (x y : Option Device) :
    (b.setDevice id x).setDevice id y = b.setDevice id y := by
  suffices hs : ((b.setDevice id x).setDevice id y).slots = (b.setDevice id y).slots from
    congrArg (Bus.mk b.readRoutes b.writeRoutes) hs
  apply Array.ext_getElem?
  intro j
  simp only [getElem?_setDevice]
  by_cases hj : id = j
  · simp [hj, Function.comp_def]
  · simp [hj]

theorem attachedCount_layout (b : Bus) : b.layout.attachedCount = b.attachedCount := by
  rw [attachedCount, layout, Array.countP_map, attachedCount]
  congr 1
  funext s
  exact Option.isSome_map

theorem attachedCount_setDevice_none (h : b.deviceAt? id = some d) :
    (b.setDevice id none).attachedCount + 1 = b.attachedCount := by
  obtain ⟨s, hs, hd⟩ := Option.bind_eq_some_iff.1 h
  obtain ⟨hi, hget⟩ := Array.getElem?_eq_some_iff.1 hs
  have hset : (b.setDevice id none).slots = b.slots.set id { s with device := none } := by
    apply Array.ext_getElem?
    intro j
    rw [getElem?_setDevice, Array.getElem?_set]
    by_cases hj : id = j
    · subst hj
      simp [hs]
    · simp [hj]
  have hpos : 0 < b.slots.countP (·.device.isSome) :=
    Array.countP_pos_iff.2 ⟨s, Array.mem_of_getElem? hs, by simp [hd]⟩
  rw [attachedCount, hset, Array.countP_set, attachedCount, hget]
  simp only [hd, Option.isSome_some, if_true, Option.isSome_none, Bool.false_eq_true, if_false]
  omega

end Bus

namespace Machine

/-- Routes, slots and what the host chose are the same, and each slot holds the same device, if
any. -/
structure SameSetup (m m' : Machine) : Prop where
  layout : m'.bus.layout = m.bus.layout
  config : m'.config = m.config
  controller : m'.controller = m.controller

variable {m m' : Machine}

theorem SameSetup.refl (m : Machine) : SameSetup m m := ⟨rfl, rfl, rfl⟩

theorem SameSetup.trans {a b c : Machine} (h : SameSetup a b) (h' : SameSetup b c) :
    SameSetup a c :=
  ⟨h'.layout.trans h.layout, h'.config.trans h.config, h'.controller.trans h.controller⟩

theorem SameSetup.attachedCount (h : SameSetup m m') :
    m'.bus.attachedCount = m.bus.attachedCount := by
  rw [← Bus.attachedCount_layout, h.layout, Bus.attachedCount_layout]

theorem SameSetup.readRoute (h : SameSetup m m') (port : UInt8) :
    m'.bus.readRoute port = m.bus.readRoute port :=
  congrArg (·.readRoute port) h.layout

theorem SameSetup.writeRoute (h : SameSetup m m') (port : UInt8) :
    m'.bus.writeRoute port = m.bus.writeRoute port :=
  congrArg (·.writeRoute port) h.layout

theorem SameSetup.exists_device (h : SameSetup m m') {id : Nat} {d' : Device}
    (hd : m'.bus.deviceAt? id = some d') :
    ∃ d, m.bus.deviceAt? id = some d ∧ d.fresh = d'.fresh := by
  have hl := congrArg (·.deviceAt? id) h.layout
  simp only [Bus.deviceAt?_layout, hd, Option.map_some] at hl
  exact Option.map_eq_some_iff.1 hl.symm

theorem SameSetup.deviceless (h : SameSetup m m') (hm : m.bus.Deviceless) : m'.bus.Deviceless := by
  intro port id hr
  rw [h.readRoute, h.writeRoute] at hr
  refine Option.eq_none_iff_forall_ne_some.2 fun d' hd' => ?_
  obtain ⟨d, hd, -⟩ := h.exists_device hd'
  exact absurd (hd.symm.trans (hm port id hr)) (by simp)

/-- Two machines differ in their boards only. -/
def SameAround (m n : Machine) : Prop := ∃ board, n = { m with board }

theorem SameAround.refl (m : Machine) : SameAround m m := ⟨m.board, rfl⟩

theorem SameAround.trans {a b c : Machine} (h : SameAround a b) (h' : SameAround b c) :
    SameAround a c := by
  obtain ⟨_, rfl⟩ := h
  obtain ⟨board, rfl⟩ := h'
  exact ⟨board, rfl⟩

theorem SameAround.sameSetup (h : SameAround m n) : SameSetup m n := by
  obtain ⟨_, rfl⟩ := h
  exact ⟨rfl, rfl, rfl⟩

theorem SameAround.bus (h : SameAround m n) : n.bus = m.bus := by
  obtain ⟨_, rfl⟩ := h
  rfl

/-- After a visit the device is back. -/
theorem SameSetup.back {id : Nat} {d d' : Device} (h : SameSetup (m.away id) m')
    (hd : m.bus.deviceAt? id = some d) (hf : d'.fresh = d.fresh) : SameSetup m (m'.back id d') where
  layout := by
    have hl : m'.bus.layout = m.bus.layout.setDevice id none :=
      h.layout.trans (m.bus.layout_setDevice id none)
    have hd' : m.bus.layout.deviceAt? id = some d.fresh := by
      rw [Bus.deviceAt?_layout, hd]
      rfl
    change (m'.bus.setDevice id (some d')).layout = m.bus.layout
    rw [Bus.layout_setDevice, hl, Option.map_some, hf, Bus.setDevice_setDevice_of_deviceAt? hd']
  config := h.config
  controller := h.controller

theorem kept_sameSetup : Kept SameSetup where
  refl := .refl
  trans := .trans
  note m e := ⟨rfl, rfl, rfl⟩
  core m f := ⟨rfl, rfl, rfl⟩
  store m port v := ⟨rfl, rfl, rfl⟩
  send m port := ⟨rfl, rfl, rfl⟩
  fetch m port := ⟨rfl, rfl, rfl⟩
  read {io m m' id d d' port v} hio hd hf := by
    obtain ⟨hfresh, hs⟩ :=
      (d.fresh_onRead port).follow hio SameSetup.refl SameSetup.trans
        (fun f _ m => ⟨rfl, rfl, rfl⟩) hf
    exact hs.back hd hfresh
  write {io m m' id d d' port} hio hd hf := by
    obtain ⟨hfresh, hs⟩ :=
      (d.fresh_onWrite port).follow hio SameSetup.refl SameSetup.trans
        (fun f _ m => ⟨rfl, rfl, rfl⟩) hf
    exact hs.back hd hfresh

end Machine

end FantasyConsole
