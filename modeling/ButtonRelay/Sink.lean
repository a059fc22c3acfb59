import ButtonRelay.Queue
import ButtonRelay.Delivery

/-!
Where commands are delivered. The queue sink puts each envelope on the command queue; a
callback sink hands it to the host's callback, or, with no callback registered, drops it with
a warning. Callbacks are known by their number, and what they receive is kept in order. A host's
callback may also panic when it is called: the panic unwinds the thread that called it, and the
call never returns.
-/

namespace ButtonRelay

/-- What a host's callback does with a command: keep it, or panic. -/
inductive Callback where
  | record
  | panic
  deriving DecidableEq, Repr

/-- A delivery sink. -/
inductive Sink where
  | queue
  | callback (id : Nat)
  /-- The host's callback number `id`, which panics when it is called. -/
  | panicking (id : Nat)
  | unregistered
  deriving DecidableEq, Repr, Inhabited

/-- The sink of the host's callback number `id`. -/
def Callback.sink (id : Nat) : Callback → Sink
  | .record => .callback id
  | .panic => .panicking id

/-- Whether handing an envelope to the sink panics. -/
def Sink.panics : Sink → Bool
  | .panicking _ => true
  | _ => false

/-- The mode of a sink. -/
def Sink.mode : Sink → Delivery
  | .queue => .queue
  | _ => .callback

/-- The first sink of a mode: the queue, or a callback sink with no callback yet. -/
def Sink.initial : Delivery → Sink
  | .queue => .queue
  | .callback => .unregistered

/-- What deliveries reach: the queue, and what each callback received, in order. -/
structure Outbox where
  queue : Queue
  received : List (Nat × Envelope)
  deriving DecidableEq, Repr, Inhabited

/-- Nothing delivered yet. -/
def Outbox.empty : Outbox := ⟨Queue.empty, []⟩

/-- Delivers an envelope; `false` when it was dropped. A panicking callback never returns, so it
delivers nothing; a caller looks at `Sink.panics` first, as the producer does. -/
def Sink.deliver (thread : Thread) (s : Sink) (e : Envelope) (box : Outbox) : Logged (Bool × Outbox) :=
  match s with
  | .queue => do
    let q ← box.queue.push thread e
    pure (true, { box with queue := q })
  | .callback id => pure (true, { box with received := box.received ++ [(id, e)] })
  | .panicking _ => pure (false, box)
  | .unregistered => do
    emit .warn .sink thread
      ("No command callback registered, dropping command for " ++ e.target.display)
    pure (false, box)

/-- A delivery mode's debug name. -/
def Delivery.debug : Delivery → String
  | .queue => "Queue"
  | .callback => "Callback"

/-- The debug text of the slot holding a sink. -/
def Sink.slotDebug (s : Sink) : String := "SinkSlot \x7b mode: " ++ s.mode.debug ++ " \x7d"

/-- The debug text of a callback sink. -/
def callbackSinkDebug (registered : Bool) : String :=
  "CallbackSink \x7b registered: " ++ toString registered ++ " \x7d"

theorem Sink.deliver_queue (t : Thread) (e : Envelope) (box : Outbox) (log : List Event) :
    (((Sink.queue.deliver t e box).run log).1.2.queue.pending) = box.queue.pending ++ [e] := rfl

end ButtonRelay
