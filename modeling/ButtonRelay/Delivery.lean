import ButtonRelay.Text.Blank

/-!
Delivery modes. Commands are either queued for the host to poll, or handed to a callback the
host registers. A mode is read from text after trimming blanks and lowering ASCII letters, so
`" Callback "` reads as the callback mode while `"ＱＵＥＵＥ"` reads as nothing.
-/

namespace ButtonRelay

/-- Where produced commands go. -/
inductive Delivery where
  | queue
  | callback
  deriving DecidableEq, Repr, Inhabited

/-- The mode in lower case, as it is written in a configuration. -/
def Delivery.display : Delivery → String
  | .queue => "queue"
  | .callback => "callback"

/-- The normal form a mode is compared in: blanks trimmed, ASCII letters lowered. -/
def Delivery.normalize (text : String) : String :=
  Text.asciiLower (Text.trimBlank text)

/-- Reads a mode. On failure the normal form of the text is returned, for the message. -/
def Delivery.parse (text : String) : Except String Delivery :=
  let v := Delivery.normalize text
  if v = "queue" then .ok .queue
  else if v = "callback" then .ok .callback
  else .error v

theorem Delivery.parse_display (d : Delivery) : Delivery.parse d.display = .ok d := by
  cases d <;> rfl

end ButtonRelay
