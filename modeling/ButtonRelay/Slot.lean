import ButtonRelay.Sink

/-!
A sink slot: the sink deliveries go to now, which the host may replace at any time. A sink
taken from the slot keeps working after it is replaced: a queue sink still fills the one
command queue, and a callback still receives. The host may take out and keep any number of sinks.
Callbacks are numbered 1, 2, ... in the order they are installed.
-/

namespace ButtonRelay

/-- The slot's current sink, the sinks the host took out of it in the order it took them, where
deliveries went, and how many callbacks were installed. -/
structure Slot where
  current : Sink
  held : List Sink
  outbox : Outbox
  callbacks : Nat
  deriving DecidableEq, Repr

namespace Slot

/-- A slot holding a queue sink over an empty queue. -/
def start : Slot := ⟨.queue, [], Outbox.empty, 0⟩

/-- Delivers through a sink, answering whether it was delivered and the sink's mode. -/
def deliverWith (s : Slot) (sink : Sink) (e : Envelope) : Logged ((Bool × Delivery) × Slot) := do
  let (ok, box) ← sink.deliver .host e s.outbox
  pure ((ok, sink.mode), { s with outbox := box })

/-- Delivers through the current sink. -/
def deliver (s : Slot) (e : Envelope) : Logged ((Bool × Delivery) × Slot) :=
  s.deliverWith s.current e

/-- Delivers through the `i`-th sink taken out earlier, if there is one. -/
def deliverHeld (s : Slot) (i : Nat) (e : Envelope) : Option (Logged ((Bool × Delivery) × Slot)) :=
  s.held[i]?.map fun sink => s.deliverWith sink e

/-- Takes the current sink out, keeping it. -/
def hold (s : Slot) : Slot := { s with held := s.held ++ [s.current] }

/-- Installs a queue sink over the same queue. -/
def replaceQueue (s : Slot) : Slot := { s with current := .queue }

/-- Installs the next callback. -/
def replaceCallback (s : Slot) : Slot :=
  { s with current := .callback (s.callbacks + 1), callbacks := s.callbacks + 1 }

/-- Installs a callback sink with no callback. -/
def replaceUnregistered (s : Slot) : Slot := { s with current := .unregistered }

/-- What the callbacks received since last asked, and the slot without it. -/
def takeReceived (s : Slot) : List (Nat × Envelope) × Slot :=
  (s.outbox.received, { s with outbox := { s.outbox with received := [] } })

/-- The oldest queued command with how many are left, and the slot without it. -/
def drain (s : Slot) : Option (Envelope × Nat) × Slot :=
  let (got, q) := s.outbox.queue.drain
  (got, { s with outbox := { s.outbox with queue := q } })

/-- The mode of the current sink. -/
def mode (s : Slot) : Delivery := s.current.mode

end Slot

end ButtonRelay
