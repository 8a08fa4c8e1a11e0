import FantasyConsole.Proofs.Calls

/-!
# Devices that leave the video processor alone

A device reaches the video processor through the ports only if none of its
handlers changes it directly. Its fields are closed to devices, so that one could
only replace it as a whole. The standard devices never do whatever their state, and
scripted ones do not if their scripts do not. With such devices a call
changes the video processor by words received and reads answered alone, so it
keeps whatever these two keep.
-/
namespace FantasyConsole

def Board.SparesVideo (f : Board → Board) : Prop := ∀ b, (f b).vdp = b.vdp

/-- No handler of the script changes the video processor directly. -/
structure Script.SparesVideo (s : Script) : Prop where
  read : ∀ port kept, (s.onRead port kept).Holds Board.SparesVideo fun _ => True
  write : ∀ port kept, (s.onWrite port kept).Holds Board.SparesVideo fun _ => True

/-- A change to the board that adds to the journal at most. -/
def Board.OnlyReports (f : Board → Board) : Prop := ∀ b, ∃ journal, f b = { b with journal }

/-- A change to the board that reaches main memory and the journal at most. -/
def Board.OnlyLoads (f : Board → Board) : Prop :=
  ∀ b, ∃ memory journal, f b = { b with core.memory := memory, journal }

theorem Board.OnlyReports.onlyLoads {f : Board → Board} (h : OnlyReports f) : OnlyLoads f := by
  intro b
  obtain ⟨journal, hf⟩ := h b
  exact ⟨b.core.memory, journal, hf⟩

theorem Board.OnlyLoads.sparesVideo {f : Board → Board} (h : OnlyLoads f) : SparesVideo f := by
  intro b
  obtain ⟨memory, journal, hf⟩ := h b
  rw [hf]

theorem Pager.onlyLoads_onWrite (p : Pager) (port : UInt8) :
    (p.onWrite port).Holds Board.OnlyLoads fun q => q.image = p.image := by
  rw [onWrite]
  split
  · rfl
  · intro b
    cases p.phase with
    | idle => rfl
    | page page => rfl
    | target page destination =>
      exact ⟨fun b => ⟨b.core.memory, _, rfl⟩, fun b => ⟨_, b.journal, rfl⟩, rfl⟩

theorem DebugConsole.onlyReports_onWrite (d : DebugConsole) (port : UInt8) :
    (d.onWrite port).Holds Board.OnlyReports fun e => e.sink = d.sink := by
  intro b
  change Handler.Holds _ _ (if b.ports.get port = 1 then _ else _)
  split
  · exact ⟨fun _ => ⟨_, rfl⟩, rfl⟩
  · split
    · cases d.input with
      | none => rfl
      | some bytes =>
        change Handler.Holds _ _ (if Utf8.isValid (splitLine bytes).1 then _ else _)
        split
        · rfl
        · exact ⟨fun _ => ⟨_, rfl⟩, rfl⟩
    · rfl

namespace Device

/-- The device reaches the video processor through the ports only. -/
def SparesVideo : Device → Prop
  | .scripted s => s.SparesVideo
  | _ => True

theorem SparesVideo.holds_onRead {d : Device} (h : d.SparesVideo) (port : UInt8) :
    (d.onRead port).Holds Board.SparesVideo fun r => r.2.SparesVideo := by
  cases d with
  | stackPointers =>
    unfold onRead
    dsimp only
    split <;> exact fun _ => trivial
  | metadata => exact fun _ => trivial
  | pager p => exact fun _ => trivial
  | controller c => exact ⟨fun _ => rfl, trivial⟩
  | debug c => exact trivial
  | scripted s => exact ((h.read port s.kept).mono fun _ _ => ⟨h.read, h.write⟩).bind

theorem SparesVideo.holds_onWrite {d : Device} (h : d.SparesVideo) (port : UInt8) :
    (d.onWrite port).Holds Board.SparesVideo SparesVideo := by
  cases d with
  | stackPointers =>
    rw [onWrite]
    dsimp only
    split
    · exact fun _ => ⟨fun _ => rfl, trivial⟩
    · trivial
  | metadata => trivial
  | pager p =>
    exact (((p.onlyLoads_onWrite port).mono_change fun _ h => h.sparesVideo).mono fun _ _ =>
      trivial).bind
  | controller c => exact fun _ => ⟨fun _ => rfl, trivial⟩
  | debug c =>
    exact (((c.onlyReports_onWrite port).mono_change fun _ h => h.onlyLoads.sparesVideo).mono
      fun _ _ => trivial).bind
  | scripted s => exact ((h.write port s.kept).mono fun _ _ => ⟨h.read, h.write⟩).bind

end Device

/-- A device found after one slot was filled is the new one, or was there before. -/
theorem Bus.deviceAt?_setDevice {b : Bus} {id j : Nat} {x : Option Device} {d : Device}
    (h : (b.setDevice id x).deviceAt? j = some d) : x = some d ∨ b.deviceAt? j = some d := by
  simp only [Bus.deviceAt?, Bus.setDevice, Array.getElem?_modify] at h ⊢
  split at h
  · cases hs : b.slots[j]? with
    | none => simp [hs] at h
    | some s => simp [hs] at h; exact .inl h
  · exact .inr h

/-- Every attached device reaches the video processor through the ports only. -/
def Machine.SparesVideo (m : Machine) : Prop := ∀ id d, m.bus.deviceAt? id = some d → d.SparesVideo

/-- A relation on video processors that receiving a word and answering a read keep. -/
structure Vdp.Kept (Q : Vdp → Vdp → Prop) : Prop where
  refl : ∀ v, Q v v
  trans : ∀ {u v w}, Q u v → Q v w → Q u w
  receive : ∀ v main w, Q v (v.receive main w)
  answer : ∀ v, Q v v.answer.2

namespace Machine

/-- Devices go on sparing the video processor, and it stays related by `Q`. -/
def Through (Q : Vdp → Vdp → Prop) (m m' : Machine) : Prop :=
  m.SparesVideo → m'.SparesVideo ∧ Q m.board.vdp m'.board.vdp

theorem SparesVideo.away {m : Machine} (h : m.SparesVideo) (id : Nat) :
    (m.away id).SparesVideo := by
  intro j d hd
  rcases Bus.deviceAt?_setDevice hd with hn | ho
  · exact absurd hn (by simp)
  · exact h j d ho

theorem SparesVideo.back {m : Machine} (h : m.SparesVideo) (id : Nat) {d : Device}
    (hd : d.SparesVideo) :
    (m.back id d).SparesVideo := by
  intro j e he
  rcases Bus.deviceAt?_setDevice he with hn | ho
  · exact Option.some.inj hn ▸ hd
  · exact h j e ho

theorem sparesVideo_of_slots {m : Machine} (h : ∀ s ∈ m.bus.slots, ∀ d ∈ s.device, d.SparesVideo) :
    m.SparesVideo := by
  intro id d hd
  obtain ⟨s, hs, hd⟩ := Option.bind_eq_some_iff.1 hd
  exact h s (Array.mem_of_getElem? hs) d hd

theorem sparesVideo_standard (config : Config) (filter : LogFilter) (image : Array UInt8)
    (input : Option (List UInt8)) : (standard config filter image input).SparesVideo := by
  apply sparesVideo_of_slots
  simp [standard, installStandard, installVdp, bare, Bus.empty, Device.SparesVideo]

variable {Q : Vdp → Vdp → Prop}

theorem through_follow (hQ : Vdp.Kept Q) {α : Type} {A : α → Prop} {io : Access}
    (hio : io.Keeps (Through Q)) {h : Handler α} (hh : h.Holds Board.SparesVideo A)
    {m m' : Machine} {a : α} (hf : h.follow io m = some (a, m')) : A a ∧ Through Q m m' := by
  refine hh.follow hio (fun m hs => ⟨hs, hQ.refl _⟩) ?_ ?_ hf
  · intro a b c hab hbc hs
    obtain ⟨hb, hq⟩ := hab hs
    obtain ⟨hc, hq'⟩ := hbc hb
    exact ⟨hc, hQ.trans hq hq'⟩
  · intro f hu m hs
    refine ⟨hs, ?_⟩
    rw [hu]
    exact hQ.refl _

theorem kept_through (hQ : Vdp.Kept Q) : Kept (Through Q) where
  refl m hs := ⟨hs, hQ.refl _⟩
  trans hab hbc hs :=
    have ⟨hb, hq⟩ := hab hs
    have ⟨hc, hq'⟩ := hbc hb
    ⟨hc, hQ.trans hq hq'⟩
  note m e hs := ⟨hs, hQ.refl _⟩
  core m f hs := ⟨hs, hQ.refl _⟩
  store m port v hs := ⟨hs, hQ.refl _⟩
  send m port hs := by
    refine ⟨hs, ?_⟩
    rw [Board.vdp_sendVdp]
    exact hQ.receive ..
  fetch m port hs := ⟨hs, hQ.answer _⟩
  read {io m m' id d d' port v} hio hd hf := by
    intro hs
    obtain ⟨hd', ht⟩ := through_follow hQ hio ((hs id d hd).holds_onRead port) hf
    obtain ⟨hs', hq⟩ := ht (hs.away id)
    exact ⟨hs'.back id hd', hq⟩
  write {io m m' id d d' port} hio hd hf := by
    intro hs
    obtain ⟨hd', ht⟩ := through_follow hQ hio ((hs id d hd).holds_onWrite port) hf
    obtain ⟨hs', hq⟩ := ht (hs.away id)
    exact ⟨hs'.back id hd', hq⟩

theorem through_dei (hQ : Vdp.Kept Q) {m m' : Machine} {fuel : Nat} {port v : UInt8}
    (h : m.dei fuel port = some (v, m')) : Through Q m m' :=
  ((kept_through hQ).access m fuel).dei h

theorem through_deo (hQ : Vdp.Kept Q) {m m' : Machine} {fuel : Nat} {port v : UInt8}
    (h : m.deo fuel port v = some m') : Through Q m m' :=
  ((kept_through hQ).access m fuel).deo h

/-- A run with devices that spare the video processor changes it by words and reads alone. -/
theorem through_run (hQ : Vdp.Kept Q) {m m' : Machine} {fuel : Nat} {start : UInt16} {o : Outcome}
    (h : m.run fuel start = some (o, m')) : Through Q m m' :=
  ((kept_through hQ).access m fuel).run h

end Machine

end FantasyConsole
