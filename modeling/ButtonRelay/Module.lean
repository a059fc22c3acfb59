import ButtonRelay.Worker
import ButtonRelay.Reporter

/-!
An accessory module: a configuration, and the input producer's thread with what it shares with
the host (the registry, the command queue, the current sink and the counts). The host connects
and disconnects devices, takes queued commands or registers a callback, and forwards what devices
report. Every press the source yields is handled before the host's next call, so the module is a
plain state: between calls the thread has read all its source holds for now.
-/

namespace ButtonRelay

/-- The module's name in its log lines. -/
def moduleName : String := "Car Accessory Module"

/-- The module's number. -/
def moduleNumber : Int := 2

/-- A running module: its configuration, the producer's thread, whether the thread's source waits
behind a gate the host opens, and how many callbacks were registered. -/
structure Module where
  config : Config
  producer : Worker Input.Source
  gated : Bool
  callbacks : Nat
  deriving DecidableEq, Repr

namespace Module

/-- What the producer shares with the host. -/
def plant (m : Module) : Plant := m.producer.plant

/-- The module with what the producer shares changed. -/
def withPlant (m : Module) (plant : Plant) : Module :=
  { m with producer := { m.producer with plant := plant } }

/-- The name the producer knows its source by. -/
def sourceName (m : Module) : String := m.producer.source.describe

/-- Lets the producer read what its source holds now, unless the source is still behind its gate.
A thread that panics takes its source down with it. -/
def settle (m : Module) : Logged Module :=
  if m.gated then pure m else do
    let w ← Worker.settleFuel m.config.trigger m.sourceName (Input.Source.next .producer)
      (m.producer.source.reach + 1) m.producer
    pure { m with producer := if w.stage = .panicked then { w with source := w.source.release } else w }

/-- Starts a module reading from `source`; a gated source waits for `openGate`. -/
def start (config : Config) (source : Input.Source) (gated : Bool) : Logged Module := do
  emit .info .producer .host ("Input producer started (trigger " ++ Text.quoteChar config.trigger ++ ")")
  emit .debug .producer .producer ("Listening on " ++ source.describe)
  emit .info .context .host (moduleName ++ " initialized (trigger " ++
    Text.quoteChar config.trigger ++ ", delivery " ++ config.delivery.display ++ ")")
  let m : Module := ⟨config,
    Worker.spawn source ⟨Registry.empty, Sink.initial config.delivery, Outbox.empty, Stats.zero⟩, gated, 0⟩
  m.settle

/-- Reads the configuration, then starts; a refused configuration is logged. -/
def ofSettings (get : String → Option String) (source : Input.Source) (gated : Bool) :
    Logged (Except Fault Module) := do
  match Config.check get with
  | .error f => do
    emit .error .context .host (moduleName ++ ": " ++ f.message)
    pure (.error f)
  | .ok config => .ok <$> start config source gated

/-- Opens the gate of the source; the producer then reads what it holds. -/
def openGate (m : Module) : Logged Module := { m with gated := false }.settle

/-- Connects a device. -/
def connect (m : Module) (d : Device) : Logged (Except Fault Module) := do
  match ← m.plant.registry.connect .host d with
  | .ok r => pure (.ok (m.withPlant { m.plant with registry := r }))
  | .error f => pure (.error f)

/-- Disconnects a device. -/
def disconnect (m : Module) (reason : DisconnectReason) (d : Device) :
    Logged (Except Fault Module) := do
  match ← m.plant.registry.disconnect .host reason d with
  | .ok (_, r) => pure (.ok (m.withPlant { m.plant with registry := r }))
  | .error f => pure (.error f)

/-- Registers the host's next callback; later commands go to it. -/
def registerCallback (m : Module) (f : Callback) : Logged Module := do
  let n := m.callbacks + 1
  emit .info .context .host "Command callback registered"
  pure { m.withPlant { m.plant with sink := f.sink n } with callbacks := n }

/-- What the callbacks received since last asked, and the module without it. -/
def takeReceived (m : Module) : List (Nat × Envelope) × Module :=
  (m.plant.outbox.received, m.withPlant { m.plant with outbox := { m.plant.outbox with received := [] } })

/-- The current delivery mode. -/
def deliveryMode (m : Module) : Delivery := m.plant.sink.mode

/-- Waits for a command. A timeout in milliseconds always has a deadline, and nothing else
pushes while the host's call runs (every press was handled before it), so the wait answers from
the queue as it stands; a wait that ends empty is logged. -/
def wait (m : Module) (timeoutMs : Nat) : Logged WaitOutcome := do
  let outcome := m.plant.outbox.queue.waitNow
  if outcome = .timedOut then
    emit .trace .context .host ("No command within " ++ durationText timeoutMs)
  pure outcome

/-- Takes the oldest queued command and how many are left. -/
def getCommand (m : Module) : Except Fault ((Envelope × Nat) × Module) :=
  match m.plant.outbox.queue.drain with
  | (some got, q) => .ok (got, m.withPlant { m.plant with outbox := { m.plant.outbox with queue := q } })
  | (none, _) => .error .empty

/-- The number of queued commands. -/
def pending (m : Module) : Nat := m.plant.outbox.queue.pending.length

/-- Stops the producer's thread, with whether the stop failed. -/
def stop (m : Module) : Logged (Except Fault Unit × Worker Input.Source) :=
  m.producer.stop m.config.trigger m.sourceName (Input.Source.next .producer)

/-- Stops the producer and ends the module. The end fails when the producer's thread panicked;
the module is gone either way. -/
def destroy (m : Module) : Logged (Except Fault Unit) := do
  let (stopped, _) ← m.stop
  match stopped with
  | .ok () => do
    emit .info .context .host (moduleName ++ " destroyed")
    pure (.ok ())
  | .error f => pure (.error f)

/-- Lets go of the module without ending it: the producer is stopped as it is dropped, and a stop
that fails is logged. -/
def release (m : Module) : Logged Unit := do
  let (stopped, _) ← m.stop
  match stopped with
  | .ok () => pure ()
  | .error f => emit .warn .producer .host ("Input producer shutdown failed: " ++ f.message)

/-- The module's debug text. -/
def debug (m : Module) : String :=
  "ModuleContext \x7b producer: InputProducer \x7b state: " ++ m.producer.state.name ++ ", stats: " ++
    m.plant.stats.debug ++ ", joined: " ++ toString m.producer.joined ++ " \x7d, config: ModuleConfig \x7b trigger: " ++ Text.quoteChar m.config.trigger ++
    ", delivery: " ++ m.config.delivery.debug ++ " \x7d, registry: DeviceRegistry \x7b devices: RwLock \x7b data: " ++
    debugList (m.plant.registry.devices.map Device.debug) ++
    " \x7d \x7d, queue: CommandQueue \x7b pending: Mutex \x7b data: " ++
    debugList (m.plant.outbox.queue.pending.map Envelope.debug) ++
    " \x7d, available: Condvar \x7b .. \x7d \x7d, sink: " ++ m.plant.sink.slotDebug ++ ", reporter: StatusReporter \x7d"

/-- The hand-pressed input the module reads, if it reads one. -/
def channel (m : Module) : Option (Input.Mock Input.Pipe) :=
  match m.producer.source with
  | .mock c => some c
  | _ => none

/-- The module with its hand-pressed input changed. -/
def withChannel (m : Module) (c : Input.Mock Input.Pipe) : Module :=
  { m with producer := { m.producer with source := .mock c } }

end Module

end ButtonRelay
