import ButtonRelay.Input.Fault
import ButtonRelay.Input.Channel

/-!
A pressed-by-hand input over a channel: its handles are the channel's senders, and its reader
the channel's receiver. Handles are numbered from zero in the order they are made and never
renumbered. A press sends the character into the channel; once the reader is gone it fails as
closed, naming the input, and a run of presses stops at its first failure.
-/

namespace ButtonRelay.Input

/-- The input over a channel whose state has type `κ`: its name, the channel, the live handles
and the next handle number. -/
structure Mock (κ : Type) where
  name : String
  channel : κ
  handles : List Nat
  nextHandle : Nat
  deriving DecidableEq, Repr

/-- The default name of an input. -/
def Mock.defaultName : String := "Mock Input"

namespace Mock

variable {κ : Type} [Channel κ]

/-- A new input, with handle 0. -/
def create (name : String) : Mock κ := ⟨name, Channel.create, [0], 1⟩

/-- Whether a handle is live. -/
def holds (m : Mock κ) (h : Nat) : Bool := m.handles.contains h

/-- Presses one character. -/
def press (m : Mock κ) (c : Char) : Except Fault (Mock κ) :=
  match Channel.send m.channel c with
  | some k => .ok { m with channel := k }
  | none => .error (.closed m.name)

/-- Presses every character in order; the first press that fails ends the run. -/
def pressAll (m : Mock κ) : List Char → Except Fault (Mock κ)
  | [] => .ok m
  | c :: more =>
    match m.press c with
    | .ok m' => m'.pressAll more
    | .error f => .error f

/-- A new handle, and its number. -/
def clone (m : Mock κ) : Mock κ × Nat :=
  ({ m with
      channel := Channel.addSender m.channel, handles := m.handles ++ [m.nextHandle],
      nextHandle := m.nextHandle + 1 }, m.nextHandle)

/-- Drops a live handle. -/
def dropHandle (m : Mock κ) (h : Nat) : Mock κ :=
  if m.holds h then { m with channel := Channel.dropSender m.channel, handles := m.handles.erase h }
  else m

/-- Drops the reader. -/
def dropReader (m : Mock κ) : Mock κ := { m with channel := Channel.dropReceiver m.channel }

/-- Whether the reader is gone, as a handle sees it. -/
def isClosed (m : Mock κ) : Bool := Channel.isClosed m.channel

/-- The reader looks once for a press. -/
def poll (m : Mock κ) : Poll × Mock κ :=
  ((Channel.poll m.channel).1, { m with channel := (Channel.poll m.channel).2 })

end Mock

end ButtonRelay.Input
