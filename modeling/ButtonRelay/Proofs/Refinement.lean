import ButtonRelay.Host
import ButtonRelay.Proofs.Registry
import ButtonRelay.Proofs.Worker
import ButtonRelay.Proofs.Mock

namespace ButtonRelay

/-- The calls a host makes on a running module through its handle, with presses of the
hand-held button between them. -/
inductive HostCall where
  | connect (d : Device)
  | disconnect (reason : DisconnectReason) (d : Device)
  | devices
  | press (cs : List Char)
  | registerCallback
  | wait (timeoutMs : Nat)
  | getCommand
  | forwardStatus (payload : List UInt8) (d : Device)
  | forwardError (payload : List UInt8) (d : Device)
  | ack (payload : List UInt8)

/-- The session step a host call is. -/
def HostCall.step : HostCall → Step
  | .connect d => .connect d
  | .disconnect reason d => .disconnect reason d
  | .devices => .devices
  | .press cs => .press cs
  | .registerCallback => .registerCallback .record
  | .wait ms => .wait ms
  | .getCommand => .getCommand
  | .forwardStatus payload d => .forwardStatus payload d
  | .forwardError payload d => .forwardError payload d
  | .ack payload => .ack payload

/-- A module in the terms of its contract: the connected devices and the queued commands, both
oldest first, the sink commands go to, what the callbacks received, and how many callbacks were
registered. -/
structure Abstract where
  devices : List Device
  queue : List Envelope
  sink : Sink
  received : List (Nat × Envelope)
  callbacks : Nat

namespace Abstract

/-- The bytes of the press command. -/
def pressPayload : List UInt8 := "\x7b\"command\":\"press\"\x7d".toUTF8.toList

/-- A module just started: no devices, nothing queued or received, and commands going to the
queue, or nowhere until a callback is registered. -/
def start (delivery : Delivery) : Abstract where
  devices := []
  queue := []
  sink := match delivery with
    | .queue => .queue
    | .callback => .unregistered
  received := []
  callbacks := 0

/-- A trigger: the press command for each connected device, in connection order, goes to the
back of the queue or to the current callback, or is dropped while no callback is registered. The
host registers no callback that panics. -/
def fire (a : Abstract) : Abstract :=
  let sent : List Envelope := a.devices.map fun d => ⟨pressPayload, d⟩
  match a.sink with
  | .queue => { a with queue := a.queue ++ sent }
  | .callback k => { a with received := a.received ++ sent.map ((k, ·)) }
  | .unregistered | .panicking _ => a

/-- A press of the button: the trigger fires, any other character changes nothing. -/
def press (trigger : Char) (a : Abstract) (c : Char) : Abstract :=
  if c = trigger then a.fire else a

/-- One host call: its answer and the module after it. -/
def step (trigger : Char) (a : Abstract) : HostCall → Reply × Abstract
  | .connect d =>
    if d ∈ a.devices then (.fault (.duplicateDevice d), a)
    else (.ok, { a with devices := a.devices ++ [d] })
  | .disconnect _ d =>
    if d ∈ a.devices then (.ok, { a with devices := a.devices.erase d })
    else (.fault (.notFound d), a)
  | .devices => (.devices a.devices, a)
  | .press cs => (.ok, cs.foldl (press trigger) a)
  | .registerCallback =>
    (.ok, { a with sink := .callback (a.callbacks + 1), callbacks := a.callbacks + 1 })
  | .wait _ => (.outcome (if a.queue = [] then .timedOut else .ready), a)
  | .getCommand =>
    match a.queue with
    | e :: rest => (.command e rest.length, { a with queue := rest })
    | [] => (.fault .empty, a)
  | .forwardStatus payload _ =>
    (match Status.decode payload with
      | .ok _ => .ok
      | .error f => .fault f, a)
  | .forwardError payload _ =>
    (match ErrorReport.decode payload with
      | .ok _ => .ok
      | .error f => .fault f, a)
  | .ack _ => (.ok, a)

/-- The calls in order: their answers and the module after them. -/
def run (trigger : Char) (a : Abstract) : List HostCall → List Reply × Abstract
  | [] => ([], a)
  | call :: more =>
    ((a.step trigger call).1 :: ((a.step trigger call).2.run trigger more).1,
      ((a.step trigger call).2.run trigger more).2)

end Abstract

/-- The abstract module a module stands for. -/
def Module.abstract (m : Module) : Abstract :=
  ⟨m.plant.registry.devices, m.plant.outbox.queue.pending, m.plant.sink, m.plant.outbox.received,
    m.callbacks⟩

/-- The abstract module a session's handle holds, if it holds one. -/
def Session.abstract (s : Session) : Option Abstract := s.module.map Module.abstract

theorem Abstract.fire_sink (a : Abstract) : a.fire.sink = a.sink := by
  unfold Abstract.fire
  split <;> rfl

theorem Abstract.press_sink (trigger : Char) (cs : List Char) (a : Abstract) :
    (cs.foldl (Abstract.press trigger) a).sink = a.sink := by
  induction cs generalizing a with
  | nil => rfl
  | cons c more ih =>
    rw [List.foldl_cons, ih]
    by_cases fires : c = trigger <;> simp [Abstract.press, fires, Abstract.fire_sink]

/-- No host call makes the sink one that panics. -/
theorem Abstract.step_calm {a : Abstract} (calm : a.sink.panics = false) (trigger : Char) (call : HostCall) :
    (a.step trigger call).2.sink.panics = false := by
  cases call with
  | connect d => by_cases present : d ∈ a.devices <;> simp [Abstract.step, present, calm]
  | disconnect reason d => by_cases present : d ∈ a.devices <;> simp [Abstract.step, present, calm]
  | press cs => simp [Abstract.step, Abstract.press_sink, calm]
  | registerCallback => rfl
  | getCommand => cases front : a.queue <;> simp [Abstract.step, front, calm]
  | devices | wait _ | forwardStatus _ _ | forwardError _ _ | ack _ => exact calm

/-- A hand-pressed channel with nothing queued, a sender, and its reader. -/
structure Input.Mock.Idle (c : Input.Mock Input.Pipe) : Prop where
  quiet : c.channel.queued = []
  live : c.channel.senders ≠ 0
  reading : c.channel.receiving = true

/-- While the reader is there, every press of a run goes into the channel. -/
theorem Input.Mock.pressAll_pipe {c : Input.Mock Input.Pipe} (reading : c.channel.receiving = true)
    (cs : List Char) :
    c.pressAll cs = .ok { c with channel := { c.channel with queued := c.channel.queued ++ cs } } := by
  induction cs generalizing c with
  | nil => simp [Input.Mock.pressAll]
  | cons x more ih =>
    have first : c.press x = .ok { c with channel := { c.channel with queued := c.channel.queued ++ [x] } } := by
      simp [Input.Mock.press, Input.Channel.send, reading]
    have rest := ih (c := { c with channel := { c.channel with queued := c.channel.queued ++ [x] } }) reading
    simp only [Input.Mock.pressAll, first]
    simpa using rest

/-- A module whose producer listens, with no stop signal and no gate, on an idle hand-pressed
channel, and whose sink does not panic. -/
structure Module.Pressable (m : Module) (c : Input.Mock Input.Pipe) : Prop where
  reads : m.producer.source = .mock c
  idle : c.Idle
  listening : m.producer.stage = .listening
  quiet : m.producer.stopSent = false
  ungated : m.gated = false
  calm : m.plant.sink.panics = false

theorem Command.press_encode : Command.press.encode = Abstract.pressPayload := by decide +kernel

@[simp] theorem Module.plant_mk (config : Config) (producer : Worker Input.Source) (gated : Bool) (callbacks : Nat) :
    (Module.mk config producer gated callbacks).plant = producer.plant := rfl

@[simp] theorem Module.withPlant_plant (m : Module) (p : Plant) : (m.withPlant p).plant = p := rfl

@[simp] theorem Module.withPlant_producer (m : Module) (p : Plant) :
    (m.withPlant p).producer = { m.producer with plant := p } := rfl

@[simp] theorem Module.withPlant_config (m : Module) (p : Plant) : (m.withPlant p).config = m.config := rfl

@[simp] theorem Module.withPlant_gated (m : Module) (p : Plant) : (m.withPlant p).gated = m.gated := rfl

@[simp] theorem Module.withPlant_callbacks (m : Module) (p : Plant) : (m.withPlant p).callbacks = m.callbacks := rfl

@[simp] theorem Module.withPlant_withPlant (m : Module) (p q : Plant) :
    (m.withPlant p).withPlant q = m.withPlant q := rfl

theorem Module.abstract_fire (m : Module) : (m.withPlant m.plant.fire).abstract = m.abstract.fire := by
  cases sink : m.plant.sink <;>
    simp [Module.abstract, Abstract.fire, Plant.fire, Outbox.receive, sink, pressFor, Command.press_encode]

theorem Module.abstract_reads (trigger : Char) (cs : List Char) (m : Module) :
    (m.withPlant (cs.foldl (Plant.read trigger) m.plant)).abstract = cs.foldl (Abstract.press trigger) m.abstract := by
  induction cs generalizing m with
  | nil => rfl
  | cons c more ih =>
    have once : (m.withPlant (m.plant.read trigger c)).abstract = m.abstract.press trigger c := by
      by_cases fires : c = trigger
      · simpa [Plant.read, Abstract.press, fires] using m.abstract_fire
      · simp [Plant.read, Abstract.press, fires]
        rfl
    simp only [List.foldl_cons, ← once]
    simpa using ih (m.withPlant (m.plant.read trigger c))

theorem Module.connect_run (m : Module) (d : Device) (log : List Event) :
    ((m.connect d).run log).1 =
      if d ∈ m.plant.registry.devices then .error (.duplicateDevice d)
      else .ok (m.withPlant { m.plant with registry := ⟨m.plant.registry.devices ++ [d]⟩ }) := by
  by_cases present : d ∈ m.plant.registry.devices <;>
    simp only [Module.connect, Logged.bind_fst, Registry.connect_run, present, if_true, if_false,
      StateT.run_pure, Logged.pure_fst]

theorem Module.disconnect_run (m : Module) (reason : DisconnectReason) (d : Device) (log : List Event) :
    ((m.disconnect reason d).run log).1 =
      if d ∈ m.plant.registry.devices then
        .ok (m.withPlant { m.plant with registry := ⟨m.plant.registry.devices.erase d⟩ })
      else .error (.notFound d) := by
  by_cases present : d ∈ m.plant.registry.devices <;>
    simp only [Module.disconnect, Logged.bind_fst, Registry.disconnect_run, present, if_true, if_false,
      StateT.run_pure, Logged.pure_fst]

theorem Module.registerCallback_run (m : Module) (f : Callback) (log : List Event) :
    ((m.registerCallback f).run log).1 =
      { m.withPlant { m.plant with sink := f.sink (m.callbacks + 1) } with callbacks := m.callbacks + 1 } := by
  simp [Module.registerCallback, emit]

theorem Module.wait_run (m : Module) (ms : Nat) (log : List Event) :
    ((m.wait ms).run log).1 = m.plant.outbox.queue.waitNow := by
  by_cases quiet : m.plant.outbox.queue.waitNow = .timedOut <;> simp [Module.wait, quiet, emit]

/-- Over a hand-pressed channel that still has a sender and its reader, the producer reads every
press queued, in order, and stops at the empty channel, when no callback panics. -/
theorem Worker.settleFuel_mock (trigger : Char) (name : String) {c : Input.Mock Input.Pipe} {n : Nat}
    (live : n ≠ 0) (cs : List Char) {w : Worker Input.Source}
    (reads : w.source = .mock { c with channel := ⟨cs, n, true⟩ }) (listening : w.stage = .listening)
    (quiet : w.stopSent = false) (calm : w.plant.sink.panics = false) (fuel : Nat) (enough : cs.length < fuel)
    (log : List Event) :
    ((Worker.settleFuel trigger name (Input.Source.next .producer) fuel w).run log).1 =
      { w with source := .mock { c with channel := ⟨[], n, true⟩ }, plant := cs.foldl (Plant.read trigger) w.plant } := by
  obtain ⟨fuel, rfl⟩ : ∃ k, fuel = k + 1 := ⟨fuel - 1, by omega⟩
  rw [Worker.settleFuel_succ trigger name _ listening quiet]
  cases cs with
  | nil =>
    -- the empty channel with a sender is not ready yet: the thread stops there
    have polled : ((Input.Source.next .producer w.source).run log).1 =
        (.pending, .mock { c with channel := ⟨[], n, true⟩ }) := by
      simp [reads, Input.Source.next, Input.Mock.poll, Input.Channel.poll, live]
    rw [polled, if_pos rfl, Worker.took_calm trigger listening (by simp [Plant.crashesOn]) rfl]
    rfl
  | cons x more =>
    have polled : ((Input.Source.next .producer w.source).run log).1 =
        (.value x, .mock { c with channel := ⟨more, n, true⟩ }) := by
      simp [reads, Input.Source.next, Input.Mock.poll, Input.Channel.poll]
    have crash : w.plant.crashesOn trigger (.value x) = false := by
      simp [Plant.crashesOn, Plant.crashes, calm]
    rw [polled, if_neg (by simp), Worker.took_calm trigger listening crash rfl]
    have calm' : (w.plant.after trigger (.value x)).sink.panics = false := by
      by_cases fires : x = trigger <;> simp [Plant.after, Plant.read, Plant.fire, fires, calm]
    rw [Worker.settleFuel_mock trigger name live more
      (w := { w with source := .mock { c with channel := ⟨more, n, true⟩ }, plant := w.plant.after trigger (.value x) })
      rfl listening quiet calm' fuel (by simp at enough; omega)]
    rfl

/-- Presses put on an idle channel are all read before the host's next call; the producer is
left as it was but for what it shares. -/
theorem Module.settle_pressed {m : Module} {c : Input.Mock Input.Pipe} (p : m.Pressable c) (cs : List Char)
    (log : List Event) :
    ((m.withChannel { c with channel := { c.channel with queued := cs } }).settle.run log).1 =
      m.withPlant (cs.foldl (Plant.read m.config.trigger) m.plant) := by
  obtain ⟨name, ⟨queued, senders, receiving⟩, handles, next⟩ := c
  obtain ⟨quiet, live, reading⟩ := p.idle
  simp only at quiet live reading
  subst quiet reading
  obtain ⟨config, ⟨source, stage, state, stopSent, joined, plant⟩, gated, callbacks⟩ := m
  obtain ⟨reads, -, listening, quiet, ungated, calm⟩ := p
  simp only at reads listening quiet ungated
  subst reads listening quiet ungated
  simp only [Module.settle, Module.withChannel, Bool.false_eq_true, if_false, Logged.bind_fst, Input.Source.reach,
    Module.sourceName]
  rw [Worker.settleFuel_mock _ _ live cs (c := ⟨name, ⟨[], senders, true⟩, handles, next⟩)
    (w := ⟨.mock ⟨name, ⟨cs, senders, true⟩, handles, next⟩, .listening, state, false, joined, plant⟩)
    rfl rfl rfl calm _ (by omega)]
  -- the channel is read empty again, which is how it was before the presses
  rfl

theorem Reporter.status_run (thread : Thread) (payload : List UInt8) (device : Device) (log : List Event) :
    ((Reporter.status thread payload device).run log).1 = Status.decode payload := by
  cases decoded : Status.decode payload <;> simp [Reporter.status, decoded, emit]

theorem Reporter.errorReport_run (thread : Thread) (payload : List UInt8) (device : Device) (log : List Event) :
    ((Reporter.errorReport thread payload device).run log).1 = ErrorReport.decode payload := by
  cases decoded : ErrorReport.decode payload <;> simp [Reporter.errorReport, decoded, emit]

theorem Session.faultOr_run (r : Logged (Except Fault Module)) (m : Module) (log : List Event) :
    ((Session.faultOr r m).run log).1 =
      match (r.run log).1 with
      | .ok m' => (.ok, m')
      | .error f => (.fault f, m) := by
  cases result : (r.run log).1 <;>
    simp only [Session.faultOr, Logged.bind_fst, result, StateT.run_pure, Logged.pure_fst]

/-- What a call on a session holding `m` gives when the module follows its abstract module: the
abstract answer, and the session holding a module that stands for the abstract module after the
call, with `m`'s configuration, gate and producer thread; only what the producer shares changes. -/
def Session.Answers (s : Session) (m : Module) (call : HostCall) (result : Reply × Session) : Prop :=
  ∃ m', result = ((m.abstract.step m.config.trigger call).1, { s with module := some m' }) ∧
    m'.abstract = (m.abstract.step m.config.trigger call).2 ∧ m'.config = m.config ∧ m'.gated = m.gated ∧
    m'.producer = { m.producer with plant := m'.plant }

/-- A module that answers a call as its abstract module does can still be pressed. -/
theorem Module.Pressable.step {m m' : Module} {c : Input.Mock Input.Pipe} (p : m.Pressable c) {call : HostCall}
    (abstract : m'.abstract = (m.abstract.step m.config.trigger call).2) (gated : m'.gated = m.gated)
    (producer : m'.producer = { m.producer with plant := m'.plant }) : m'.Pressable c where
  reads := by rw [producer]; exact p.reads
  idle := p.idle
  listening := by rw [producer]; exact p.listening
  quiet := by rw [producer]; exact p.quiet
  ungated := gated.trans p.ungated
  calm := by
    have sink : m'.plant.sink = (m.abstract.step m.config.trigger call).2.sink := congrArg Abstract.sink abstract
    rw [sink]
    exact Abstract.step_calm p.calm _ call

section Calls

variable {s : Session} {m : Module} (holds : s.module = some m) (log : List Event)
include holds

theorem Session.holding_self : { s with module := some m } = s := by
  cases s
  simp only at holds
  rw [holds]

/-- A call through the handle answers what the module's computation answers and keeps the
module it leaves. -/
theorem Session.withModule_answers {call : HostCall} {k : Module → Logged (Reply × Module)} (after : Module)
    (run : ((k m).run log).1 = ((m.abstract.step m.config.trigger call).1, after))
    (abstract : after.abstract = (m.abstract.step m.config.trigger call).2) (config : after.config = m.config)
    (gated : after.gated = m.gated) (producer : after.producer = { m.producer with plant := after.plant }) :
    s.Answers m call ((s.withModule k).run log).1 := by
  refine ⟨after, ?_, abstract, config, gated, producer⟩
  simp only [Session.withModule, holds, Logged.bind_fst, run, StateT.run_pure, Logged.pure_fst]

theorem Session.connect_answers (d : Device) : s.Answers m (.connect d) ((s.step (.connect d)).run log).1 := by
  by_cases present : d ∈ m.plant.registry.devices
  · apply Session.withModule_answers holds log m _ _ rfl rfl rfl
    · simp only [Session.faultOr_run, Module.connect_run, present, if_true, Abstract.step, Module.abstract]
    · simp only [Abstract.step, Module.abstract, present, if_true]
  · apply Session.withModule_answers holds log
      (m.withPlant { m.plant with registry := ⟨m.plant.registry.devices ++ [d]⟩ }) _ _ rfl rfl rfl
    · simp only [Session.faultOr_run, Module.connect_run, present, if_false, Abstract.step, Module.abstract]
    · simp only [Abstract.step, Module.abstract, present, if_false, Module.withPlant_plant,
        Module.withPlant_callbacks]

theorem Session.disconnect_answers (reason : DisconnectReason) (d : Device) :
    s.Answers m (.disconnect reason d) ((s.step (.disconnect reason d)).run log).1 := by
  by_cases present : d ∈ m.plant.registry.devices
  · apply Session.withModule_answers holds log
      (m.withPlant { m.plant with registry := ⟨m.plant.registry.devices.erase d⟩ }) _ _ rfl rfl rfl
    · simp only [Session.faultOr_run, Module.disconnect_run, present, if_true, Abstract.step, Module.abstract]
    · simp only [Abstract.step, Module.abstract, present, if_true, Module.withPlant_plant,
        Module.withPlant_callbacks]
  · apply Session.withModule_answers holds log m _ _ rfl rfl rfl
    · simp only [Session.faultOr_run, Module.disconnect_run, present, if_false, Abstract.step, Module.abstract]
    · simp only [Abstract.step, Module.abstract, present, if_false]

theorem Session.devices_answers : s.Answers m .devices ((s.step .devices).run log).1 :=
  Session.withModule_answers holds log m rfl rfl rfl rfl rfl

/-- Registering a callback switches to a new callback and keeps what is queued. -/
theorem Session.registerCallback_answers :
    s.Answers m .registerCallback ((s.step (HostCall.registerCallback).step).run log).1 := by
  apply Session.withModule_answers holds log
    { m.withPlant { m.plant with sink := .callback (m.callbacks + 1) } with callbacks := m.callbacks + 1 }
    _ rfl rfl rfl rfl
  simp only [Logged.bind_fst, Module.registerCallback_run, Callback.sink, StateT.run_pure, Logged.pure_fst,
    Abstract.step]

/-- A wait answers from the queue as it stands, whatever its timeout. -/
theorem Session.wait_answers (ms : Nat) : s.Answers m (.wait ms) ((s.step (.wait ms)).run log).1 := by
  apply Session.withModule_answers holds log m _ rfl rfl rfl rfl
  have outcome : m.plant.outbox.queue.waitNow =
      if m.plant.outbox.queue.pending = [] then .timedOut else .ready := by
    cases front : m.plant.outbox.queue.pending <;> simp [Queue.waitNow, front]
  simp only [Logged.bind_fst, Module.wait_run, outcome, StateT.run_pure, Logged.pure_fst, Abstract.step,
    Module.abstract]
  rfl

/-- Taking a command takes the oldest queued one and tells how many are left. -/
theorem Session.getCommand_answers : s.Answers m .getCommand ((s.step .getCommand).run log).1 := by
  cases front : m.plant.outbox.queue.pending with
  | nil =>
    apply Session.withModule_answers holds log m _ _ rfl rfl rfl
    · simp [Module.getCommand, Queue.drain, front, Abstract.step, Module.abstract]
    · simp [Abstract.step, Module.abstract, front]
  | cons e rest =>
    apply Session.withModule_answers holds log
      (m.withPlant { m.plant with outbox := { m.plant.outbox with queue := ⟨rest⟩ } }) _ _ rfl rfl rfl
    · simp [Module.getCommand, Queue.drain, front, Abstract.step, Module.abstract]
    · simp [Abstract.step, Module.abstract, front]

theorem Session.forwardStatus_answers (payload : List UInt8) (d : Device) :
    s.Answers m (.forwardStatus payload d) ((s.step (.forwardStatus payload d)).run log).1 := by
  apply Session.withModule_answers holds log m _ rfl rfl rfl rfl
  cases decoded : Status.decode payload <;>
    simp only [Logged.bind_fst, Reporter.status_run, decoded, StateT.run_pure, Logged.pure_fst, Abstract.step]

theorem Session.forwardError_answers (payload : List UInt8) (d : Device) :
    s.Answers m (.forwardError payload d) ((s.step (.forwardError payload d)).run log).1 := by
  apply Session.withModule_answers holds log m _ rfl rfl rfl rfl
  cases decoded : ErrorReport.decode payload <;>
    simp only [Logged.bind_fst, Reporter.errorReport_run, decoded, StateT.run_pure, Logged.pure_fst, Abstract.step]

theorem Session.ack_answers (payload : List UInt8) : s.Answers m (.ack payload) ((s.step (.ack payload)).run log).1 := by
  apply Session.withModule_answers holds log m _ rfl rfl rfl rfl
  simp only [Logged.bind_fst, StateT.run_pure, Logged.pure_fst, Abstract.step]

/-- Pressing the button on an idle channel hands every press to the producer, which reads them all
before the host's next call: each trigger fires, and nothing else changes. -/
theorem Session.press_answers {c : Input.Mock Input.Pipe} (pressing : s.pressing = true) (p : m.Pressable c)
    (cs : List Char) : s.Answers m (.press cs) ((s.step (.press cs)).run log).1 := by
  have channel : s.channel = some c := by simp [Session.channel, holds, Module.channel, p.reads]
  have pressed : c.pressAll cs = .ok { c with channel := { c.channel with queued := cs } } := by
    rw [Input.Mock.pressAll_pipe p.idle.reading, p.idle.quiet, List.nil_append]
  have attached : m.channel.isSome = true := by simp [Module.channel, p.reads]
  refine ⟨m.withPlant (cs.foldl (Plant.read m.config.trigger) m.plant), ?_, Module.abstract_reads _ _ m,
    rfl, rfl, rfl⟩
  simp only [Session.step, channel, pressing, Bool.not_true, Bool.false_eq_true, if_false, pressed,
    Logged.bind_fst, Session.updateChannel, holds, attached, if_true, Module.settle_pressed p,
    StateT.run_pure, Logged.pure_fst, Abstract.step]

/-- Every host call on a session whose module can be pressed answers as the abstract module does
and moves the module as the abstract module moves. -/
theorem Session.step_refines {c : Input.Mock Input.Pipe} (pressing : s.pressing = true) (p : m.Pressable c)
    (call : HostCall) : s.Answers m call ((s.step call.step).run log).1 := by
  cases call with
  | connect d => exact Session.connect_answers holds log d
  | disconnect reason d => exact Session.disconnect_answers holds log reason d
  | devices => exact Session.devices_answers holds log
  | press cs => exact Session.press_answers holds log pressing p cs
  | registerCallback => exact Session.registerCallback_answers holds log
  | wait ms => exact Session.wait_answers holds log ms
  | getCommand => exact Session.getCommand_answers holds log
  | forwardStatus payload d => exact Session.forwardStatus_answers holds log payload d
  | forwardError payload d => exact Session.forwardError_answers holds log payload d
  | ack payload => exact Session.ack_answers holds log payload

end Calls

theorem Abstract.run_cons (trigger : Char) (a : Abstract) (call : HostCall) (more : List HostCall) :
    a.run trigger (call :: more) =
      ((a.step trigger call).1 :: ((a.step trigger call).2.run trigger more).1,
        ((a.step trigger call).2.run trigger more).2) := rfl

/-- A run of host calls on a session whose module can be pressed answers as the abstract module
does, call by call, and leaves a module that stands for the abstract module after the calls. -/
theorem Session.run_refines {c : Input.Mock Input.Pipe} (calls : List HostCall) (s : Session) (m : Module)
    (log : List Event) (holds : s.module = some m) (pressing : s.pressing = true) (p : m.Pressable c) :
    ∃ m', ((s.run (calls.map HostCall.step)).run log).1 =
        ((m.abstract.run m.config.trigger calls).1, { s with module := some m' }) ∧
      m'.abstract = (m.abstract.run m.config.trigger calls).2 ∧ m'.config = m.config ∧ m'.gated = m.gated ∧
      m'.producer = { m.producer with plant := m'.plant } := by
  induction calls generalizing s m log with
  | nil =>
    refine ⟨m, ?_, rfl, rfl, rfl, rfl⟩
    simp only [List.map_nil, Session.run, StateT.run_pure, Logged.pure_fst, Abstract.run,
      Session.holding_self holds]
  | cons call more ih =>
    -- the first call moves the module; the rest of the run starts from the module it leaves
    obtain ⟨m₁, first, abstract₁, config₁, gated₁, producer₁⟩ := Session.step_refines holds log pressing p call
    obtain ⟨m₂, rest, abstract₂, config₂, gated₂, producer₂⟩ :=
      ih { s with module := some m₁ } m₁ ((s.step call.step).run log).2 rfl pressing
        (p.step abstract₁ gated₁ producer₁)
    refine ⟨m₂, ?_, ?_, config₂.trans config₁, gated₂.trans gated₁, by rw [producer₂, producer₁]⟩
    · simp only [List.map_cons, Session.run, Logged.bind_fst, first, rest, StateT.run_pure, Logged.pure_fst,
        Abstract.run_cons, ← abstract₁, config₁]
    · rw [abstract₂, Abstract.run_cons, abstract₁, config₁]

/-- The module a valid configuration starts on a fresh hand-pressed channel. -/
def Module.fresh (config : Config) (name : String) : Module :=
  ⟨config, Worker.spawn (.mock (Input.Mock.create name))
    ⟨Registry.empty, Sink.initial config.delivery, Outbox.empty, Stats.zero⟩, false, 0⟩

@[simp] theorem Module.fresh_config (config : Config) (name : String) :
    (Module.fresh config name).config = config := rfl

theorem Input.Mock.create_idle (name : String) : (Input.Mock.create name : Input.Mock Input.Pipe).Idle :=
  ⟨rfl, Nat.one_ne_zero, rfl⟩

theorem Module.fresh_pressable (config : Config) (name : String) :
    (Module.fresh config name).Pressable (Input.Mock.create name) where
  reads := rfl
  idle := Input.Mock.create_idle name
  listening := rfl
  quiet := rfl
  ungated := rfl
  calm := by
    cases delivery : config.delivery <;>
      simp [Module.fresh, Module.plant, Worker.spawn, Sink.initial, Sink.panics, delivery]

theorem Module.start_mock (config : Config) (name : String) (log : List Event) :
    ((Module.start config (.mock (Input.Mock.create name)) false).run log).1 = Module.fresh config name := by
  simp only [Module.start, Logged.bind_fst]
  exact Module.settle_pressed (Module.fresh_pressable config name) [] _

theorem Session.begin_mock {get : String → Option String} {config : Config}
    (valid : Config.ofLookup get = .ok config) (name : String) (log : List Event) :
    ((Session.begin get (.mock name)).run log).1 = .ok (Session.holding (Module.fresh config name) false) := by
  simp only [Session.begin, Feed.openSource, Module.ofSettings, Config.check, valid, Except.mapError,
    Logged.bind_fst, Logged.map_fst, Module.start_mock, StateT.run_pure, Logged.pure_fst]

theorem Module.fresh_abstract (config : Config) (name : String) :
    (Module.fresh config name).abstract = Abstract.start config.delivery := by
  cases delivery : config.delivery <;> simp [Module.fresh, Module.abstract, Module.plant, Worker.spawn,
    Abstract.start, Sink.initial, delivery, Registry.empty, Outbox.empty, Queue.empty]

/-- A module started through its handle with a valid configuration and driven by the host, in
any order, answers every call and moves exactly as its abstract module does. The host may connect
and disconnect devices, press the button, register a callback, wait for and take commands,
forward reports and acknowledge commands. A press of another character changes nothing, and a
press of the trigger sends the press command to each connected device in connection order. The
commands go onto the queue, to the current callback, or nowhere while no callback is registered.
The sink starts as the queue or as no callback, by the delivery mode, and registering a callback
switches to a new one and keeps what is queued. -/
theorem Session.begin_refines_abstract {get : String → Option String} {config : Config}
    (valid : Config.ofLookup get = .ok config) (name : String) (calls : List HostCall) :
    ∃ s, (∀ log, ((Session.begin get (.mock name)).run log).1 = .ok s) ∧
      s.abstract = some (Abstract.start config.delivery) ∧
      ∀ log, ∃ s', ((s.run (calls.map HostCall.step)).run log).1 =
          (((Abstract.start config.delivery).run config.trigger calls).1, s') ∧
        s'.abstract = some ((Abstract.start config.delivery).run config.trigger calls).2 ∧
        s'.module.map Module.pending =
          some ((Abstract.start config.delivery).run config.trigger calls).2.queue.length := by
  refine ⟨Session.holding (Module.fresh config name) false, Session.begin_mock valid name, ?_, ?_⟩
  · simp [Session.abstract, Session.holding, Module.fresh_abstract]
  · intro log
    have pressing : (Session.holding (Module.fresh config name) false).pressing = true := by
      simp [Session.holding, Module.channel, Module.fresh, Worker.spawn]
    obtain ⟨m', run, abstract, -, -, -⟩ := Session.run_refines calls
      (Session.holding (Module.fresh config name) false) (Module.fresh config name) log rfl pressing
      (Module.fresh_pressable config name)
    rw [Module.fresh_abstract, Module.fresh_config] at run abstract
    have queued : m'.plant.outbox.queue.pending =
        ((Abstract.start config.delivery).run config.trigger calls).2.queue := congrArg Abstract.queue abstract
    refine ⟨_, run, ?_, ?_⟩
    · simp [Session.abstract, abstract]
    · simp [Module.pending, queued]

/-- A queue module on the trigger `x`, with one device connected, a press of `a` and of `x`, and
the command taken. -/
theorem Session.pressed_button_refines :
    Config.ofLookup (fun key => if key = "button" then some "x" else none) = .ok ⟨'x', .queue⟩ ∧
      ∃ s, (∀ log, ((Session.begin (fun key => if key = "button" then some "x" else none)
          (.mock "Mock Input")).run log).1 = .ok s) ∧
        s.abstract = some (Abstract.start .queue) ∧
        ∀ log, ∃ s', ((s.run ([.connect ⟨0, "GreenButton", "A-1"⟩, .press ['a', 'x'], .getCommand].map
            HostCall.step)).run log).1 =
            (((Abstract.start .queue).run 'x'
              [.connect ⟨0, "GreenButton", "A-1"⟩, .press ['a', 'x'], .getCommand]).1, s') ∧
          s'.abstract = some ((Abstract.start .queue).run 'x'
            [.connect ⟨0, "GreenButton", "A-1"⟩, .press ['a', 'x'], .getCommand]).2 ∧
          s'.module.map Module.pending = some ((Abstract.start .queue).run 'x'
            [.connect ⟨0, "GreenButton", "A-1"⟩, .press ['a', 'x'], .getCommand]).2.queue.length :=
  ⟨rfl, @Session.begin_refines_abstract _ ⟨'x', .queue⟩ rfl "Mock Input"
    [.connect ⟨0, "GreenButton", "A-1"⟩, .press ['a', 'x'], .getCommand]⟩

end ButtonRelay
