import FantasyConsole.Machine

/-!
# The standard device map

Which device stands behind which port of a standard machine, as two tables and a
list. What is known of the bus of such a machine is read off them.
-/
namespace FantasyConsole.Machine

open Device

variable (config : Config) (filter : LogFilter) (image : Array UInt8) (input : Option (List UInt8))

def standardDevices : List Device :=
  [.stackPointers, .metadata, .pager (.ofImage image), .controller .idle, .debug ⟨.terminal, input⟩]

theorem deviceAt?_standard (id : Nat) :
    (standard config filter image input).bus.deviceAt? id = (standardDevices image input)[id]? := by
  rcases id with _ | _ | _ | _ | _ | id <;>
    simp [standard, installStandard, installVdp, Bus.deviceAt?, Bus.empty, standardDevices]

theorem fst_attach (m : Machine) (d : Device) : (m.attach d).1 = m.bus.slots.size := rfl

theorem readRoute_standard (port : UInt8) :
    (standard config filter image input).bus.readRoute port =
      if debugPort = port then some (.device 4)
      else if vdpReadPort = port then some .vdp
      else if codePort = port then some (.device 3)
      else if returnPort = port then some (.device 0)
      else if workingPort = port then some (.device 0)
      else none := by
  simp only [standard, installStandard, installVdp, bus_note, bus_routeWrite, bus_routeRead,
    bus_setController, Bus.readRoute_setReadRoute, Bus.readRoute_setWriteRoute, readRoute_attach,
    bus_bare, Bus.readRoute_empty, fst_attach, Bus.slots_setReadRoute, Bus.slots_setWriteRoute,
    slots_attach, Array.size_push]
  rfl

theorem writeRoute_standard (port : UInt8) :
    (standard config filter image input).bus.writeRoute port =
      if debugPort = port then some (.device 4)
      else if vdpWritePort = port then some .vdp
      else if vectorPort = port then some (.device 3)
      else if pagerPort = port then some (.device 2)
      else if metadataPort = port then some (.device 1)
      else if returnPort = port then some (.device 0)
      else if workingPort = port then some (.device 0)
      else none := by
  simp only [standard, installStandard, installVdp, bus_note, bus_routeWrite, bus_routeRead,
    bus_setController, Bus.writeRoute_setWriteRoute, Bus.writeRoute_setReadRoute, writeRoute_attach,
    bus_bare, Bus.writeRoute_empty, fst_attach, Bus.slots_setReadRoute, Bus.slots_setWriteRoute,
    slots_attach, Array.size_push]
  rfl

end FantasyConsole.Machine
