import FantasyConsole.Proofs.Limits
import FantasyConsole.Proofs.Paging
import FantasyConsole.Proofs.StandardMap
import FantasyConsole.Proofs.Storage
import Mathlib.Tactic.SplitIfs

/-!
# The stream of words to the pager

A host that reads and writes ports of a standard machine in any order makes, as far as
memory is concerned, a stream of words: the contents of the pager's field when its
second port is written. Every three of them are a copy, made at the third, and nothing
else that the host reads or writes gets between them or reaches memory.
-/
namespace FantasyConsole

inductive PortAccess where
  | dei (port : UInt8)
  | deo (port value : UInt8)
  deriving DecidableEq, Repr

/-- An access; what a read returns is left out. -/
def PortAccess.perform (fuel : Nat) : PortAccess → Machine → Option Machine
  | .dei port, m => (m.dei fuel port).map (·.2)
  | .deo port v, m => m.deo fuel port v

def Machine.accesses (m : Machine) (fuel : Nat) (as : List PortAccess) : Option Machine :=
  as.foldlM (fun m a => a.perform fuel m) m

namespace Pager

def highPort : UInt8 := Device.pagerPort - 1

/-- The words in the pager's field when its second port is written, from the byte at its first port
on. -/
def words (high : UInt8) : List PortAccess → List UInt16
  | [] => []
  | .dei _ :: as => words high as
  | .deo port v :: as =>
    if port = Device.pagerPort then word high v :: words high as
    else words (if port = highPort then v else high) as

/-- What a copy makes of memory, place by place: the `count` places from the destination on hold the
bytes of the image from the page on, both wrapping. -/
def copied {image : Array UInt8} (h : 0 < image.size) (page destination count : UInt16)
    (ram : UInt16 → UInt8) :
    UInt16 → UInt8 := fun a =>
  if a - destination < count then
    getElem image ((256 * page.toNat + (a - destination).toNat) % image.size) (Nat.mod_lt _ h)
  else ram a

def transfers {image : Array UInt8} (h : 0 < image.size) :
    List UInt16 → (UInt16 → UInt8) → UInt16 → UInt8
  | page :: destination :: count :: ws, ram => transfers h ws (copied h page destination count ram)
  | _, ram => ram

/-- What words do to a pager and to memory, one after the other. -/
def receiveAll (p : Pager) (ws : List UInt16) (m : Memory) : Pager × Memory :=
  ws.foldl (fun r w => r.1.receive w r.2) (p, m)

variable {image : Array UInt8}

theorem read_copy (h : 0 < image.size) (page destination count : UInt16) (m : Memory) :
    (copy image page destination count m).read = copied h page destination count m.read := by
  funext a
  have hread := m.read_pagerCopy page destination count h (a - destination)
  have ha : destination + (a - destination) = a := by grind
  rw [ha] at hread
  rw [hread, copied, Nat.mul_comm]
  rfl

/-- Three words to an idle pager make a copy and leave it idle; fewer leave memory alone. -/
theorem read_receiveAll (h : 0 < image.size) (m : Memory) :
    (ws : List UInt16) → ((ofImage image).receiveAll ws m).2.read = transfers h ws m.read
  | [] => rfl
  | [page] => by
    rw [receiveAll, List.foldl_cons, receive_idle h]
    rfl
  | [page, destination] => by
    rw [receiveAll, List.foldl_cons, receive_idle h, List.foldl_cons, receive_page h]
    rfl
  | page :: destination :: count :: ws => by
    rw [receiveAll, List.foldl_cons, receive_idle h, List.foldl_cons, receive_page h,
      List.foldl_cons, receive_target h, transfers, ← read_copy h]
    exact read_receiveAll h _ ws

theorem receiveAll_empty (h : image.size = 0) (ws : List UInt16) (m : Memory) :
    (ofImage image).receiveAll ws m = (ofImage image, m) := by
  have he : image.isEmpty = true := by simpa using h
  induction ws with
  | nil => rfl
  | cons w ws ih =>
    rw [receiveAll, List.foldl_cons, receive, ofImage, if_pos he]
    exact ih

end Pager

/-! ## Accesses that the pager does not see -/

/-- A change to the board that leaves memory and the byte at the first port of the pager's field. -/
def Board.SparesPaging (f : Board → Board) : Prop := ∀ b,
  (f b).core.memory = b.core.memory ∧ (f b).ports.get Pager.highPort = b.ports.get Pager.highPort

theorem Board.OnlyReports.sparesPaging {f : Board → Board} (h : OnlyReports f) :
    Board.SparesPaging f := by
  intro b
  obtain ⟨journal, hf⟩ := h b
  rw [hf]
  exact ⟨rfl, rfl⟩

namespace Device

/-- The device is a standard one but not a pager. -/
def IsQuiet : Device → Prop
  | .pager _ | .scripted _ => False
  | _ => True

variable {d : Device}

theorem IsQuiet.isBuiltIn (h : d.IsQuiet) : d.IsBuiltIn := by
  cases d <;> trivial

theorem IsQuiet.of_fresh {e : Device} (h : d.IsQuiet) (he : e.fresh = d.fresh) : e.IsQuiet := by
  cases e <;> cases d <;> simp [fresh, IsQuiet] at he h ⊢

theorem IsQuiet.holds_onRead (h : d.IsQuiet) {port : UInt8} (hport : port ≠ Pager.highPort) :
    (d.onRead port).Holds Board.SparesPaging fun _ => True := by
  cases d with
  | stackPointers =>
    unfold onRead
    dsimp only
    split <;> exact fun _ => trivial
  | metadata => exact fun _ => trivial
  | controller c =>
    exact ⟨fun b => ⟨rfl, (b.ports.get_set port Pager.highPort c.code).trans (if_neg hport)⟩,
      trivial⟩
  | debug c => trivial
  | pager p | scripted s => exact h.elim

theorem IsQuiet.holds_onWrite (h : d.IsQuiet) (port : UInt8) :
    (d.onWrite port).Holds Board.SparesPaging fun _ => True := by
  cases d with
  | stackPointers =>
    rw [onWrite]
    dsimp only
    split
    · exact fun _ => ⟨fun _ => ⟨rfl, rfl⟩, trivial⟩
    · trivial
  | metadata => trivial
  | controller c => exact fun _ => ⟨fun _ => ⟨rfl, rfl⟩, trivial⟩
  | debug c =>
    exact (((c.onlyReports_onWrite port).mono_change fun _ h => h.sparesPaging).mono fun _ _ =>
      trivial).bind
  | pager p | scripted s => exact h.elim

end Device

namespace Handler

variable {α : Type} {U : (Board → Board) → Prop} {A : α → Prop} {R : Machine → Machine → Prop}

/-- A handler that makes no calls returns, and what its changes to the board keep is kept. -/
theorem exists_follow {h : Handler α} (hh : h.Calling fun _ => False) (hA : h.Holds U A)
    (hrefl : ∀ m, R m m) (htrans : ∀ {a b c}, R a b → R b c → R a c)
    (hU : ∀ f, U f → ∀ m, R m { m with board := f m.board })
    (io : Access) (m : Machine) : ∃ a n, h.follow io m = some (a, n) ∧ A a ∧ R m n := by
  have hcongr : h.follow io m = h.follow .refused m :=
    follow_congr fun p hp => (hh.of_mem_calls hp).elim
  have hsome : (h.follow .refused m).isSome :=
    (isSome_follow_iff h m).2 fun p hp => (hh.of_mem_calls hp).elim
  obtain ⟨⟨a, n⟩, hf⟩ := Option.isSome_iff_exists.1 hsome
  exact ⟨a, n, hcongr.trans hf, hA.follow (Access.keeps_refused R) hrefl htrans hU hf⟩

end Handler

namespace Machine

/-- Memory, the byte at the first port of the pager's field and the pager itself are the same. -/
structure SparesPaging (m n : Machine) : Prop where
  memory : n.board.core.memory = m.board.core.memory
  high : n.board.ports.get Pager.highPort = m.board.ports.get Pager.highPort
  pager : n.bus.deviceAt? 2 = m.bus.deviceAt? 2

theorem SparesPaging.refl (m : Machine) : SparesPaging m m := ⟨rfl, rfl, rfl⟩

theorem SparesPaging.trans {a b c : Machine} (h : SparesPaging a b) (h' : SparesPaging b c) :
    SparesPaging a c :=
  ⟨h'.memory.trans h.memory, h'.high.trans h.high, h'.pager.trans h.pager⟩

theorem SparesPaging.visit {α : Type} {m : Machine} {id : Nat} (hid : id ≠ 2) {h : Handler α}
    (hh : h.Calling fun _ => False) (hA : h.Holds Board.SparesPaging fun _ => True) (io : Access) :
    ∃ a n, h.follow io (m.away id) = some (a, n) ∧ ∀ d, SparesPaging m (n.back id d) := by
  obtain ⟨a, n, hf, -, hn⟩ := Handler.exists_follow hh hA SparesPaging.refl SparesPaging.trans
    (fun f hf m => ⟨(hf m.board).1, (hf m.board).2, rfl⟩) io (m.away id)
  have haway : SparesPaging m (m.away id) :=
    ⟨rfl, rfl, Bus.deviceAt?_setDevice_of_ne m.bus hid none⟩
  have hback (d : Device) : SparesPaging n (n.back id d) :=
    ⟨rfl, rfl, Bus.deviceAt?_setDevice_of_ne n.bus hid (some d)⟩
  exact ⟨a, n, hf, fun d => (haway.trans hn).trans (hback d)⟩

section Standard

variable {config : Config} {filter : LogFilter} {image : Array UInt8}
    {input : Option (List UInt8)} {m : Machine}

/-- Behind every number but the pager's there is a quiet device, if any. -/
theorem SameSetup.isQuiet (hs : SameSetup (standard config filter image input) m)
    {id : Nat} {d : Device} (hd : m.bus.deviceAt? id = some d) (hid : id ≠ 2) : d.IsQuiet := by
  obtain ⟨e, he, hf⟩ := hs.exists_device hd
  rw [deviceAt?_standard] at he
  refine Device.IsQuiet.of_fresh ?_ hf.symm
  rcases id with _ | _ | _ | _ | _ | id <;> simp [standardDevices] at he hid <;>
    subst he <;> trivial

theorem readRoute_standard_device {port : UInt8} {id : Nat}
    (h : (standard config filter image input).bus.readRoute port = some (.device id)) :
    id ≠ 2 ∧ port ≠ Pager.highPort := by
  rw [readRoute_standard] at h
  split_ifs at h with h₁ h₂ h₃ h₄ h₅ <;>
    simp only [Option.some.injEq, Route.device.injEq, reduceCtorEq] at h <;> subst h port <;> decide

theorem readRoute_standard_vdp {port : UInt8}
    (h : (standard config filter image input).bus.readRoute port = some .vdp) :
    port = Device.vdpReadPort := by
  rw [readRoute_standard] at h
  split_ifs at h with h₁ h₂ h₃ h₄ h₅ <;> simp only [Option.some.injEq, reduceCtorEq] at h
  exact h₂.symm

theorem writeRoute_standard_device {port : UInt8} {id : Nat}
    (h : (standard config filter image input).bus.writeRoute port = some (.device id))
    (hport : port ≠ Device.pagerPort) : id ≠ 2 := by
  rw [writeRoute_standard] at h
  split_ifs at h with h₁ h₂ h₃ h₄ h₅ h₆ h₇ <;>
    simp only [Option.some.injEq, Route.device.injEq, reduceCtorEq] at h <;> subst h
  all_goals first | decide | exact absurd h₄.symm hport

theorem high_fetched {port : UInt8}
    (h : m.bus.readRoute port = some .vdp → port = Device.vdpReadPort) :
    (m.fetched port).2.board.ports.get Pager.highPort = m.board.ports.get Pager.highPort := by
  unfold fetched
  split
  · rfl
  · rename_i hr
    change (m.board.ports.setFieldFrom port m.board.vdp.answer.1).get Pager.highPort = _
    rw [h hr, Ports.setFieldFrom, Ports.get_set, Ports.get_set, if_neg (by decide),
      if_neg (by decide)]
  · rfl

theorem SameSetup.dei_spares (hs : SameSetup (standard config filter image input) m) (fuel : Nat)
    (port : UInt8) :
    ∃ v n, m.dei fuel port = some (v, n) ∧ SparesPaging m n := by
  have hroute := hs.readRoute port
  rcases m.bus.noDeviceReads_or port with h | ⟨id, d, hr, hd⟩
  · refine ⟨_, _, dei_eq_fetched h fuel, congrArg Core.memory (core_fetched m port),
      high_fetched ?_, ?_⟩
    · exact fun hr => readRoute_standard_vdp (hroute.symm.trans hr)
    · exact congrArg (·.deviceAt? 2) (bus_fetched m port)
  · obtain ⟨hid, hport⟩ := readRoute_standard_device (hroute.symm.trans hr)
    have hq := hs.isQuiet hd hid
    obtain ⟨⟨v, e⟩, n, hf, hn⟩ :=
      SparesPaging.visit (m := m) hid (hq.isBuiltIn.calling_onRead port _)
      (hq.holds_onRead hport) (m.inner fuel)
    refine ⟨v, n.back id e, ?_, hn e⟩
    rw [Machine.dei, access_eq_above]
    change m.deiWith (m.inner fuel) port = _
    rw [deiWith_of_device hr hd, hf]
    rfl

theorem SameSetup.deo_spares (hs : SameSetup (standard config filter image input) m) {port : UInt8}
    (hport : port ≠ Device.pagerPort) (fuel : Nat) (v : UInt8) :
    ∃ n, m.deo fuel port v = some n ∧
      SparesPaging { m with board := m.board.setPort port v } n := by
  let stored : Machine := { m with board := m.board.setPort port v }
  have hroute := hs.writeRoute port
  rcases m.bus.noDeviceWrites_or port with h | ⟨id, d, hr, hd⟩
  · refine ⟨_, deo_eq_stored h fuel v, congrArg Core.memory (core_stored m port v), ?_, ?_⟩
    · rw [ports_stored]
      rfl
    · exact congrArg (·.deviceAt? 2) (bus_stored m port v)
  · have hid := writeRoute_standard_device (hroute.symm.trans hr) hport
    have hq := hs.isQuiet hd hid
    obtain ⟨e, n, hf, hn⟩ :=
      SparesPaging.visit (m := stored) hid (hq.isBuiltIn.calling_onWrite port _)
      (hq.holds_onWrite port) (m.inner fuel)
    refine ⟨n.back id e, ?_, hn e⟩
    rw [Machine.deo, access_eq_above]
    change m.deoWith (m.inner fuel) port v = _
    rw [deoWith_of_device hr hd, hf]
    rfl

/-! ## Whole streams -/

/-- A standard machine whose pager is `p`. -/
structure Serving (config : Config) (filter : LogFilter) (image : Array UInt8)
    (input : Option (List UInt8)) (p : Pager) (m : Machine) : Prop where
  setup : SameSetup (standard config filter image input) m
  pager : m.bus.deviceAt? 2 = some (.pager p)

variable {p : Pager}

theorem Serving.hasPager (h : Serving config filter image input p m) : m.HasPager 2 p where
  plain := (h.setup.writeRoute _).trans (plain_standard config filter image input)
  routed := (h.setup.writeRoute _).trans (writeRoute_standard config filter image input _)
  present := h.pager

theorem Serving.of_spares (h : Serving config filter image input p m) {n : Machine}
    (hs : SameSetup m n)
    (hp : n.bus.deviceAt? 2 = m.bus.deviceAt? 2) : Serving config filter image input p n :=
  ⟨h.setup.trans hs, hp.trans h.pager⟩

theorem Serving.deo_pagerPort (h : Serving config filter image input p m) (fuel : Nat) (v : UInt8) :
    let r := p.receive (word (m.board.ports.get Pager.highPort) v) m.board.core.memory
    ∃ n, m.deo fuel Device.pagerPort v = some n ∧ Serving config filter image input r.1 n ∧
      n.board.core.memory = r.2 ∧
      n.board.ports.get Pager.highPort = m.board.ports.get Pager.highPort := by
  intro r
  obtain ⟨journal, hdeo⟩ := h.hasPager.deo fuel v
  have hlow : (m.board.ports.set Device.pagerPort v).get Device.pagerPort = v := by
    rw [Ports.get_set, if_pos rfl]
  have hhigh : (m.board.ports.set Device.pagerPort v).get Pager.highPort =
      m.board.ports.get Pager.highPort := by
    rw [Ports.get_set, if_neg (by decide)]
  have hfield : (m.board.ports.set Device.pagerPort v).fieldEndingAt Device.pagerPort =
      word (m.board.ports.get Pager.highPort) v := by
    rw [Ports.fieldEndingAt, hlow]
    exact congrArg (word · v) hhigh
  dsimp only at hdeo
  rw [hfield] at hdeo
  have hs := (kept_sameSetup.access m fuel).deo hdeo
  exact ⟨_, hdeo, ⟨h.setup.trans hs, Bus.deviceAt?_setDevice_self h.pager _⟩, rfl, hhigh⟩

/-- The accesses return, and memory is what the words of the stream make of it. -/
theorem Serving.accesses (h : Serving config filter image input p m) (fuel : Nat)
    (as : List PortAccess) : ∃ n, m.accesses fuel as = some n ∧ n.board.core.memory =
      (p.receiveAll (Pager.words (m.board.ports.get Pager.highPort) as) m.board.core.memory).2 := by
  induction as generalizing m p with
  | nil => exact ⟨m, rfl, rfl⟩
  | cons a as ih =>
    -- It is enough to say what the first access does; the others start from there.
    suffices hfirst : ∃ m₁ q, a.perform fuel m = some m₁ ∧ Serving config filter image input q m₁ ∧
        p.receiveAll (Pager.words (m.board.ports.get Pager.highPort) (a :: as))
        m.board.core.memory =
          q.receiveAll (Pager.words (m₁.board.ports.get Pager.highPort) as) m₁.board.core.memory by
      obtain ⟨m₁, q, h₁, hq, hwords⟩ := hfirst
      obtain ⟨n, hn, hm⟩ := ih hq
      refine ⟨n, ?_, hm.trans (congrArg Prod.snd hwords.symm)⟩
      rw [Machine.accesses, List.foldlM_cons, h₁]
      exact hn
    cases a with
    | dei port =>
      obtain ⟨v, m₁, hd, hs⟩ := h.setup.dei_spares fuel port
      have hsame := (kept_sameSetup.access m fuel).dei hd
      refine ⟨m₁, p, by rw [PortAccess.perform, hd]; rfl, h.of_spares hsame hs.pager, ?_⟩
      rw [Pager.words, hs.high, hs.memory]
    | deo port v =>
      by_cases hport : port = Device.pagerPort
      · subst hport
        obtain ⟨m₁, hd, hq, hm, hhigh⟩ := h.deo_pagerPort fuel v
        refine ⟨m₁, _, hd, hq, ?_⟩
        rw [Pager.words, if_pos rfl, hm, hhigh, Pager.receiveAll, List.foldl_cons]
        rfl
      · obtain ⟨m₁, hd, hs⟩ := h.setup.deo_spares hport fuel v
        have hsame := (kept_sameSetup.access m fuel).deo hd
        refine ⟨m₁, p, hd, h.of_spares hsame hs.pager, ?_⟩
        rw [Pager.words, if_neg hport, hs.high, hs.memory]
        change _ = p.receiveAll (Pager.words ((m.board.ports.set port v).get Pager.highPort) as) _
        rw [Ports.get_set]
        rfl

/-- The pager's protocol over whole streams. On a standard machine with an idle pager, whatever else
a host reads and writes, memory ends up as the copies of the complete triples of words leave it,
made in order; words over change nothing, and without an image nothing does. -/
theorem read_accesses (hs : SameSetup (standard config filter image input) m)
    (hp : m.PagerIdle image) (fuel : Nat)
    (as : List PortAccess) : ∃ n, m.accesses fuel as = some n ∧
      (∀ h : 0 < image.size, n.board.core.memory.read =
        Pager.transfers h (Pager.words (m.board.ports.get Pager.highPort) as)
          m.board.core.memory.read) ∧
      (image.size = 0 → n.board.core.memory = m.board.core.memory) := by
  have hserving : Serving config filter image input (.ofImage image) m := by
    obtain ⟨id, hr, hd⟩ := hp
    have hl : m.bus.writeRoute Device.pagerPort = some (.device 2) :=
      (hs.writeRoute _).trans (writeRoute_standard config filter image input _)
    obtain rfl : 2 = id := by simpa [hr] using hl.symm
    exact ⟨hs, hd⟩
  obtain ⟨n, hn, hm⟩ := hserving.accesses fuel as
  refine ⟨n, hn, fun h => ?_, fun h => ?_⟩
  · rw [hm, Pager.read_receiveAll h]
  · rw [hm, Pager.receiveAll_empty h]

end Standard

/-- A standard machine with an image of three bytes. -/
def threeBytes : Machine := standard .standard (.upTo none) #[0xAA, 0xBB, 0xCC] none

/-- Three words to the pager among other accesses, and a fourth: page 1, destination 0xFFFF, two
bytes. -/
def interleaved : List PortAccess :=
  [.deo 0x09 0x01, .dei 0x0C, .deo 0x08 0x7F, .deo 0x08 0xFF, .deo 0x04 0x20, .deo 0x09 0xFF,
    .dei 0x0A, .deo 0x08 0x00, .deo 0x0E 0x01, .deo 0x09 0x02, .deo 0x09 0x44]

/-- The page index is reduced modulo the image, and the copy goes on at address 0. -/
theorem read_accesses_interleaved :
    SameSetup (standard .standard (.upTo none) #[0xAA, 0xBB, 0xCC] none) threeBytes ∧
    threeBytes.PagerIdle #[0xAA, 0xBB, 0xCC] ∧ ∃ n, threeBytes.accesses 0 interleaved = some n ∧
      n.board.core.memory.read 0xFFFF = 0xBB ∧ n.board.core.memory.read 0x0000 = 0xCC := by
  have hp := pagerIdle_standard .standard (.upTo none) #[0xAA, 0xBB, 0xCC] none
  obtain ⟨n, hn, hread, -⟩ := read_accesses (.refl threeBytes) hp 0 interleaved
  have hwords : Pager.words (threeBytes.board.ports.get Pager.highPort) interleaved =
      [0x0001, 0xFFFF, 0x0002, 0x0044] := by
    decide +kernel
  have hmemory := hread (by decide)
  rw [hwords] at hmemory
  refine ⟨.refl threeBytes, hp, n, hn, ?_, ?_⟩
  · rw [hmemory]
    decide +kernel
  · rw [hmemory]
    decide +kernel

end Machine

end FantasyConsole
