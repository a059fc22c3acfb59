import ButtonRelay.Fault
import ButtonRelay.Log

/-!
The registry of connected devices, in the order they connected. A device connects once; a
disconnect removes it and is logged by its reason, and a disconnect of a device that is not
connected is refused.
-/

namespace ButtonRelay

/-- The connected devices, oldest first. -/
structure Registry where
  devices : List Device
  deriving DecidableEq, Repr, Inhabited

namespace Registry

/-- No devices. -/
def empty : Registry := ⟨[]⟩

/-- Whether a device is connected. -/
def contains (r : Registry) (d : Device) : Bool := r.devices.contains d

/-- Connects a device. -/
def connect (thread : Thread) (r : Registry) (d : Device) : Logged (Except Fault Registry) := do
  if r.contains d then
    emit .warn .registry thread ("Device already connected: " ++ d.display)
    pure (.error (.duplicateDevice d))
  else
    emit .info .registry thread
      ("Device connected: " ++ d.display ++ " (type " ++ toString d.kind.toInt ++ ")")
    pure (.ok ⟨r.devices ++ [d]⟩)

/-- Disconnects a device for a reason, answering the entry it removed: the first connected
device equal to it. -/
def disconnect (thread : Thread) (r : Registry) (reason : DisconnectReason) (d : Device) :
    Logged (Except Fault (Device × Registry)) := do
  match r.devices.find? (· == d) with
  | some removed =>
    match reason with
    | .announced => emit .info .registry thread ("Device disconnected " ++ removed.display)
    | .timeout => emit .warn .registry thread ("Device timeout " ++ removed.display)
    | .error => emit .error .registry thread ("Device error. Disconnected " ++ removed.display)
    pure (.ok (removed, ⟨r.devices.erase d⟩))
  | none =>
    emit .debug .registry thread
      ("Disconnect (" ++ reason.display ++ ") for unknown device " ++ d.display)
    pure (.error (.notFound d))

end Registry

end ButtonRelay
