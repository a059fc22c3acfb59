import ButtonRelay.Device
import ButtonRelay.Config

/-!
The module's faults. Each fault has a kind with a fixed status code for the host, and a text
that names its cause. The payload fault carries the finished decoder text.
-/

namespace ButtonRelay

/-- Everything a module operation can refuse with. -/
inductive Fault where
  | invalidHandle
  | invalidConfiguration (cause : ConfigFault)
  | notFound (device : Device)
  | duplicateDevice (device : Device)
  | invalidIdentification (cause : IdentityFault)
  | empty
  | malformedPayload (message : String)
  | producerFailed
  | io (message : String)
  deriving DecidableEq, Repr

/-- The name of the fault's kind. -/
def Fault.kind : Fault → String
  | .invalidHandle => "InvalidHandle"
  | .invalidConfiguration _ => "InvalidConfiguration"
  | .notFound _ => "NotFound"
  | .duplicateDevice _ => "DuplicateDevice"
  | .invalidIdentification _ => "InvalidIdentification"
  | .empty => "Empty"
  | .malformedPayload _ => "MalformedPayload"
  | .producerFailed => "ProducerFailed"
  | .io _ => "Io"

/-- The status code a host sees. -/
def Fault.statusCode : Fault → Int
  | .invalidHandle => -1
  | .invalidConfiguration _ => -2
  | .notFound _ => -3
  | .duplicateDevice _ => -4
  | .invalidIdentification _ => -5
  | .empty => -6
  | .malformedPayload _ => -7
  | .producerFailed => -8
  | .io _ => -9

/-- The text of a fault. -/
def Fault.message : Fault → String
  | .invalidHandle => "Invalid module handle"
  | .invalidConfiguration c => "Invalid configuration: " ++ c.message
  | .notFound d => "Device not found: " ++ d.display
  | .duplicateDevice d => "Device already connected: " ++ d.display
  | .invalidIdentification c => "Invalid device identification: " ++ c.message
  | .empty => "Command queue is empty"
  | .malformedPayload m => "Malformed payload: " ++ m
  | .producerFailed => "Input producer terminated abnormally"
  | .io m => "IO error: " ++ m

/-- A device identification checked for the module. -/
def Device.check (kind : Int32) (role name : String) : Except Fault Device :=
  (Device.make kind role name).mapError .invalidIdentification

/-- A configuration read for the module. -/
def Config.check (get : String → Option String) : Except Fault Config :=
  (Config.ofLookup get).mapError .invalidConfiguration

end ButtonRelay
