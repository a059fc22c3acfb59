import ButtonRelay.Payload.Message
import ButtonRelay.Log

/-!
Reports from devices. A status or error report is decoded and logged; a report that does not
decode is logged as discarded and refused with its fault, and nothing else changes. An
acknowledged command is logged with its size.
-/

namespace ButtonRelay.Reporter

/-- Decodes and logs a status report from a device. -/
def status (thread : Thread) (payload : List UInt8) (device : Device) :
    Logged (Except Fault Status) := do
  match Status.decode payload with
  | .error f =>
    emit .warn .reporter thread ("Discarding status from " ++ device.display ++ ": " ++ f.message)
    pure (.error f)
  | .ok s =>
    emit .info .reporter thread
      ("Received status from: " ++ device.display ++ ". Is pressed: " ++ toString s.isPressed)
    pure (.ok s)

/-- Decodes and logs an error report from a device. -/
def errorReport (thread : Thread) (payload : List UInt8) (device : Device) :
    Logged (Except Fault ErrorReport) := do
  match ErrorReport.decode payload with
  | .error f =>
    emit .warn .reporter thread
      ("Discarding error message from " ++ device.display ++ ": " ++ f.message)
    pure (.error f)
  | .ok e =>
    emit .info .reporter thread ("Received error message from: " ++ device.display ++
      ". Press count: " ++ toString e.pressCount.toNat)
    pure (.ok e)

/-- Logs that a command was delivered. -/
def acknowledge (thread : Thread) (payload : List UInt8) : Logged Unit :=
  emit .info .reporter thread
    ("Command was successfully delivered (" ++ toString payload.length ++ " bytes)")

end ButtonRelay.Reporter
