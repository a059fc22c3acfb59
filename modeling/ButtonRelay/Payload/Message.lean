import ButtonRelay.Payload.Reader
import ButtonRelay.Payload.Format
import ButtonRelay.Fault

/-!
The messages a button exchanges with the host, each a JSON object of one field: the command
sent to a button (`press` or `release`), the status it reports (whether it is pressed) and its
error report (a press count). A message says how its struct is named, its field's key and kind,
and how its value stands for that field; a JSON library writes and reads it, and a payload it
refuses is a `malformedPayload` fault naming the message. The module runs on `Payload.json`, the
reader of `Payload.document` with a compact writer.
-/

namespace ButtonRelay

/-- What a button is told to do. -/
inductive Action where
  | press
  | release
  deriving DecidableEq, Repr, Inhabited

/-- The wire name of an action. -/
def Action.name : Action → String
  | .press => "press"
  | .release => "release"

/-- A command for a button. -/
structure Command where
  action : Action
  deriving DecidableEq, Repr, Inhabited

/-- The command the producer sends on a trigger. -/
def Command.press : Command := ⟨.press⟩

/-- What a button reports about itself. -/
structure Status where
  isPressed : Bool
  deriving DecidableEq, Repr, Inhabited

/-- A button's error report. -/
structure ErrorReport where
  pressCount : UInt32
  deriving DecidableEq, Repr, Inhabited

/-- How a message of one field is named, and how its value stands for the field. -/
structure Message (α : Type) where
  /-- The message's name in fault texts. -/
  name : String
  /-- The one field's key. -/
  field : String
  /-- The kind of the field. -/
  shape : Payload.Shape
  /-- The field for a value. -/
  toField : α → shape.Value
  /-- The value for a field. -/
  ofField : shape.Value → α

namespace Message

/-- The bytes of a message. -/
def encode {α : Type} (fmt : Payload.Format) (m : Message α) (v : α) : List UInt8 :=
  fmt.write m.field m.shape (m.toField v)

/-- Reads a message from bytes. -/
def decode {α : Type} (fmt : Payload.Format) (m : Message α) (bytes : List UInt8) : Except Fault α :=
  match fmt.read m.name m.field m.shape bytes with
  | .ok v => .ok (m.ofField v)
  | .error text => .error (.malformedPayload ("Cannot decode " ++ m.name ++ ": " ++ text))

end Message

/-- Actions in the order their variant indices give. -/
def Action.all : List Action := [.press, .release]

/-- Commands: `{"command":"press"}`; the action may also be `{"press":null}`. -/
def Command.message : Message Command where
  name := "ButtonCommand"
  field := "command"
  shape := .variant (Action.all.map Action.name)
  toField c := Action.all.idxOf c.action
  ofField i := ⟨Action.all.getD i .press⟩

/-- Status reports: `{"is_pressed":true}`. -/
def Status.message : Message Status where
  name := "ButtonStatus"
  field := "is_pressed"
  shape := .flag
  toField s := s.isPressed
  ofField := Status.mk

/-- Error reports: `{"press_count":7}`. -/
def ErrorReport.message : Message ErrorReport where
  name := "ButtonError"
  field := "press_count"
  shape := .count
  toField e := e.pressCount
  ofField := ErrorReport.mk

/-- How the reader reads a field of a kind. -/
def Payload.Shape.read : (s : Payload.Shape) → Payload.Read s.Value
  | .count => Payload.count
  | .flag => Payload.boolean
  | .variant names => Payload.variant names

/-- The JSON the module runs on: compact writing, and the reader of `Payload.document`. -/
def Payload.json : Payload.Format where
  write key s v := ("\x7b\"" ++ key ++ "\":" ++ s.text v ++ "\x7d").toUTF8.toList
  read struct key s bytes := (Payload.document struct key s.read bytes).mapError fun f => f.text bytes

/-- The bytes of a command. -/
def Command.encode (c : Command) : List UInt8 := Command.message.encode Payload.json c

/-- Reads a command. -/
def Command.decode (bytes : List UInt8) : Except Fault Command := Command.message.decode Payload.json bytes

/-- The bytes of a status report. -/
def Status.encode (s : Status) : List UInt8 := Status.message.encode Payload.json s

/-- Reads a status report. -/
def Status.decode (bytes : List UInt8) : Except Fault Status := Status.message.decode Payload.json bytes

/-- The bytes of an error report. -/
def ErrorReport.encode (e : ErrorReport) : List UInt8 := ErrorReport.message.encode Payload.json e

/-- Reads an error report. -/
def ErrorReport.decode (bytes : List UInt8) : Except Fault ErrorReport :=
  ErrorReport.message.decode Payload.json bytes

/-- The press command is nineteen bytes. -/
theorem Command.press_encode_length : Command.press.encode.length = 19 := by decide +kernel

end ButtonRelay
