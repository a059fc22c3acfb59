import ButtonRelay.Sink
import ButtonRelay.Registry
import ButtonRelay.Payload.Message
import ButtonRelay.Input.Source

/-!
What the input producer does with one read. Each press of the trigger sends a press command to
every connected device, oldest first, through the sink current at that moment, and counts one
trigger even when no device is connected. Other presses are ignored and unreadable lines skipped.
A callback that panics unwinds the producer in the middle of a trigger, before anything of that
trigger is delivered or counted.
-/

namespace ButtonRelay

/-- What the producer has counted. The counters are 64-bit; a run reaches their bound only after
2^64 triggers or commands, and the model counts in `Nat`. -/
structure Stats where
  triggers : Nat
  delivered : Nat
  dropped : Nat
  deriving DecidableEq, Repr, Inhabited

/-- Nothing counted. -/
def Stats.zero : Stats := ⟨0, 0, 0⟩

/-- The debug text of the counts. -/
def Stats.debug (s : Stats) : String :=
  "ProducerStats \x7b triggers_observed: " ++ toString s.triggers ++ ", commands_delivered: " ++
    toString s.delivered ++ ", commands_dropped: " ++ toString s.dropped ++ " \x7d"

/-- Sends the press command to each device through `sink`, counting what was delivered and
what was dropped; `none` when the sink's callback panics, on the first device. -/
def sendAll (sink : Sink) : List Device → Outbox → Stats → Logged (Option (Outbox × Stats))
  | [], box, stats => pure (some (box, stats))
  | d :: more, box, stats => do
    emit .trace .producer .producer ("Delivering command to " ++ d.display)
    if sink.panics then pure none else
    let (ok, box') ← sink.deliver .producer ⟨Command.press.encode, d⟩ box
    let stats' := if ok then { stats with delivered := stats.delivered + 1 }
      else { stats with dropped := stats.dropped + 1 }
    sendAll sink more box' stats'

/-- One trigger: the command goes to every connected device, then the trigger is counted;
`none` when a callback panicked on the way. -/
def fanOut (devices : List Device) (sink : Sink) (box : Outbox) (stats : Stats) :
    Logged (Option (Outbox × Stats)) := do
  let sent ← if devices.isEmpty then do
      emit .debug .producer .producer "Trigger observed with no connected devices"
      pure (some (box, stats))
    else sendAll sink devices box stats
  pure (sent.map fun (box', stats') => (box', { stats' with triggers := stats'.triggers + 1 }))

/-- What the producer works on, shared with its owner: the devices, the sink, where deliveries
go, and the counts. -/
structure Plant where
  registry : Registry
  sink : Sink
  outbox : Outbox
  stats : Stats
  deriving DecidableEq, Repr

/-- What one read does to the plant: the trigger sends the press command to every connected
device, any other press is ignored, an unreadable line is skipped, and the end or failure of the
source is logged. `none` when a callback panicked. -/
def Plant.take (trigger : Char) (name : String) (plant : Plant) : Input.Read → Logged (Option Plant)
  | .value c =>
    if c = trigger then do
      let sent ← fanOut plant.registry.devices plant.sink plant.outbox plant.stats
      pure (sent.map fun (box, stats) => { plant with outbox := box, stats := stats })
    else do
      emit .trace .producer .producer ("Ignoring input " ++ Text.quoteChar c)
      pure (some plant)
  | .failed (.invalidData m) => do
    emit .warn .producer .producer ("Skipping unreadable input: " ++ m)
    pure (some plant)
  | .closed => do
    emit .info .producer .producer ("Input source " ++ name ++ " closed")
    pure (some plant)
  | .failed f => do
    emit .error .producer .producer ("Input source " ++ name ++ " failed: " ++ f.message)
    pure (some plant)
  | .pending => pure (some plant)

end ButtonRelay
