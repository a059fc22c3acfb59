import ButtonRelay.Proofs.Refinement

namespace ButtonRelay.Interleaving

/-- Where the producer stands in emitting one trigger. Once it has taken the devices and the
sink it keeps them, as the emitting thread does after letting go of their locks. -/
inductive Emit where
  | idle
  /-- The connected devices are taken and there is at least one: the sink is looked up next. -/
  | snapped (devices : List Device)
  /-- The sink is taken; these devices still wait for their command through it. -/
  | delivering (sink : Sink) (rest : List Device)
  /-- No device was connected, and only the count is left. -/
  | counting
  /-- The sink's callback panicked on a delivery: the producer's thread is gone, and the trigger
  is neither finished nor counted. -/
  | crashed
  deriving DecidableEq, Repr

/-- A module driven by two threads: the host's calls, and a producer part way through a trigger.
The callbacks the host registers here record what they receive; a callback of the module that
panics ends the producer. -/
structure State where
  module : Module
  emit : Emit
  deriving DecidableEq, Repr

/-- A host call that may come while the producer is part way through a trigger. Each is atomic
under the one lock it takes. -/
inductive HostStep where
  | connect (d : Device)
  | disconnect (reason : DisconnectReason) (d : Device)
  | registerCallback
  | getCommand

/-- Which thread moves next. -/
inductive Turn where
  | producer
  | host (call : HostStep)

/-- What one step of the producer does, as others can see it. -/
inductive Emitted where
  | snapshot (devices : List Device)
  | lookup (sink : Sink)
  | delivered (sink : Sink) (e : Envelope)
  | counted
  deriving DecidableEq, Repr

/-- All that one trigger does, in order: it takes the connected devices; when there are some, it
takes the current sink and hands each device its press command through that sink, in connection
order; then it is counted. -/
def triggerEvents (devices : List Device) (sink : Sink) : List Emitted :=
  .snapshot devices :: ((if devices.isEmpty then []
    else .lookup sink :: devices.map fun d => .delivered sink (pressFor d)) ++ [.counted])

namespace State

/-- The producer's next step: the snapshot that starts a trigger, the sink lookup, one delivery
with its count, or the count of the trigger. A delivery to a callback that panics ends the
producer where it stands, and an ended producer does nothing more. -/
def produce (s : State) : State × List Emitted :=
  match s.emit with
  | .idle =>
    let devices := s.module.plant.registry.devices
    ({ s with emit := if devices.isEmpty then .counting else .snapped devices }, [.snapshot devices])
  | .snapped devices =>
    ({ s with emit := .delivering s.module.plant.sink devices }, [.lookup s.module.plant.sink])
  | .delivering sink (d :: rest) =>
    if sink.panics then ({ s with emit := .crashed }, []) else
    let plant := s.module.plant
    let (ok, box) := ((sink.deliver .producer (pressFor d) plant.outbox).run []).1
    let stats := if ok then { plant.stats with delivered := plant.stats.delivered + 1 }
      else { plant.stats with dropped := plant.stats.dropped + 1 }
    (⟨s.module.withPlant { plant with outbox := box, stats := stats }, .delivering sink rest⟩,
      [.delivered sink (pressFor d)])
  | .delivering _ [] | .counting =>
    let stats := s.module.plant.stats
    (⟨s.module.withPlant { s.module.plant with stats := { stats with triggers := stats.triggers + 1 } },
      .idle⟩, [.counted])
  | .crashed => (s, [])

/-- A host call; one that is refused changes nothing. -/
def host (s : State) : HostStep → State
  | .connect d =>
    match ((s.module.connect d).run []).1 with
    | .ok m => { s with module := m }
    | .error _ => s
  | .disconnect reason d =>
    match ((s.module.disconnect reason d).run []).1 with
    | .ok m => { s with module := m }
    | .error _ => s
  | .registerCallback => { s with module := ((s.module.registerCallback .record).run []).1 }
  | .getCommand =>
    match s.module.getCommand with
    | .ok (_, m) => { s with module := m }
    | .error _ => s

/-- One move of the thread whose turn it is, with what the producer did in it. -/
def step (s : State) : Turn → State × List Emitted
  | .producer => s.produce
  | .host call => (s.host call, [])

/-- The moves in order, with all the producer did. -/
def run (s : State) : List Turn → State × List Emitted
  | [] => (s, [])
  | turn :: more => (((s.step turn).1.run more).1, (s.step turn).2 ++ ((s.step turn).1.run more).2)

theorem run_cons (s : State) (turn : Turn) (more : List Turn) :
    s.run (turn :: more) =
      (((s.step turn).1.run more).1, (s.step turn).2 ++ ((s.step turn).1.run more).2) := rfl

theorem produce_registry (s : State) : s.produce.1.module.plant.registry = s.module.plant.registry := by
  obtain ⟨m, emit⟩ := s
  rcases emit with _ | devices | ⟨sink, _ | ⟨d, rest⟩⟩ | _ | _
  case delivering.cons => simp only [produce]; split <;> rfl
  all_goals rfl

/-- A host call never moves the producer: the devices and the sink it took stay as they were. -/
theorem host_emit (s : State) (call : HostStep) : (s.host call).emit = s.emit := by
  cases call <;> simp only [host] <;> split <;> rfl

/-- A host call keeps the registry free of repeats. -/
theorem host_unique (s : State) (call : HostStep) (unique : s.module.plant.registry.devices.Nodup) :
    (s.host call).module.plant.registry.devices.Nodup := by
  cases call with
  | connect d =>
    by_cases present : d ∈ s.module.plant.registry.devices
    · simpa [host, Module.connect_run, present] using unique
    · simpa [host, Module.connect_run, present] using (Registry.OrderedSet.Step.insert present).nodup unique
  | disconnect reason d =>
    by_cases present : d ∈ s.module.plant.registry.devices
    · simpa [host, Module.disconnect_run, present] using unique.erase d
    · simpa [host, Module.disconnect_run, present] using unique
  | registerCallback => simpa [host, Module.registerCallback_run] using unique
  | getCommand =>
    cases drained : s.module.plant.outbox.queue.drain with
    | mk got q => cases got <;> simpa [host, Module.getCommand, drained] using unique

end State

/-- What the trigger under way has done so far, given where the producer stands: nothing when it
is idle; otherwise it took devices without repeats, and then the sink and the deliveries made so
far, the devices delivered to and those still waiting making up what it took. -/
inductive Begun : Emit → List Emitted → Prop
  | idle : Begun .idle []
  | snapped {devices : List Device} (nonempty : devices ≠ []) (unique : devices.Nodup) :
      Begun (.snapped devices) [.snapshot devices]
  | delivering {sink : Sink} {sent rest : List Device} (nonempty : sent ++ rest ≠ [])
      (unique : (sent ++ rest).Nodup) :
      Begun (.delivering sink rest)
        (.snapshot (sent ++ rest) :: .lookup sink :: sent.map fun d => .delivered sink (pressFor d))
  | counting : Begun .counting [.snapshot []]
  /-- The trigger ended in a callback's panic, after these deliveries. -/
  | crashed {sink : Sink} {sent rest : List Device} (nonempty : sent ++ rest ≠ [])
      (unique : (sent ++ rest).Nodup) :
      Begun .crashed
        (.snapshot (sent ++ rest) :: .lookup sink :: sent.map fun d => .delivered sink (pressFor d))

/-- What a trigger has done so far is the beginning of all it does. -/
theorem Begun.prefix {emit : Emit} {current : List Emitted} (begun : Begun emit current) :
    ∃ devices sink, devices.Nodup ∧ current <+: triggerEvents devices sink := by
  cases begun with
  | idle => exact ⟨[], .queue, List.nodup_nil, List.nil_prefix⟩
  | @snapped devices _ distinct => exact ⟨devices, .queue, distinct, _, rfl⟩
  | @delivering sink sent rest nonempty distinct | @crashed sink sent rest nonempty distinct =>
    refine ⟨sent ++ rest, sink, distinct, (rest.map fun d => .delivered sink (pressFor d)) ++ [.counted], ?_⟩
    simp [triggerEvents, nonempty]
  | counting => exact ⟨[], .queue, List.nodup_nil, [.counted], rfl⟩

/-- One step of the producer either ends the trigger under way, having done all a trigger does,
or carries it one step further, or leaves it where a panic ended it. -/
theorem Begun.produce {s : State} {current : List Emitted} (begun : Begun s.emit current)
    (registered : s.module.plant.registry.devices.Nodup) :
    (∃ devices sink, devices.Nodup ∧ current ++ s.produce.2 = triggerEvents devices sink ∧
        s.produce.1.emit = .idle) ∨
      Begun s.produce.1.emit (current ++ s.produce.2) := by
  obtain ⟨m, emit⟩ := s
  cases begun with
  | idle =>
    right
    cases connected : m.plant.registry.devices with
    | nil => simpa [State.produce, connected] using Begun.counting
    | cons d more =>
      rw [connected] at registered
      simpa [State.produce, connected] using Begun.snapped (List.cons_ne_nil d more) registered
  | @snapped devices nonempty distinct =>
    exact .inr (@Begun.delivering _ [] devices nonempty distinct)
  | @delivering sink sent rest nonempty distinct =>
    cases rest with
    | nil =>
      left
      refine ⟨sent, sink, by simpa using distinct, ?_, rfl⟩
      simp [State.produce, triggerEvents, by simpa using nonempty]
    | cons d rest =>
      right
      by_cases panics : sink.panics = true
      · -- the callback panics on this delivery: the trigger stops where it is
        simpa [State.produce, panics] using @Begun.crashed sink sent (d :: rest) nonempty distinct
      · have next := @Begun.delivering sink (sent ++ [d]) rest (by simp) (by simpa using distinct)
        simpa [State.produce, panics] using next
  | counting => exact .inl ⟨[], .queue, List.nodup_nil, rfl, rfl⟩
  | @crashed sink sent rest nonempty distinct =>
    exact .inr (by simpa [State.produce] using @Begun.crashed sink sent rest nonempty distinct)

/-- What the producer has done so far is a list of whole triggers, each over devices without
repeats, and then the trigger under way; and the registry has no repeats. -/
structure Traced (s : State) (events : List Emitted) : Prop where
  registered : s.module.plant.registry.devices.Nodup
  split : ∃ (done : List (List Device × Sink)) (current : List Emitted),
    events = done.flatMap (fun t => triggerEvents t.1 t.2) ++ current ∧
    (∀ t ∈ done, t.1.Nodup) ∧ Begun s.emit current

theorem Traced.start {m : Module} (registered : m.plant.registry.devices.Nodup) :
    Traced ⟨m, .idle⟩ [] :=
  ⟨registered, [], [], rfl, by simp, .idle⟩

/-- A move of either thread keeps the producer's events whole triggers and a trigger under way. -/
theorem Traced.step {s : State} {events : List Emitted} (traced : Traced s events) (turn : Turn) :
    Traced (s.step turn).1 (events ++ (s.step turn).2) := by
  obtain ⟨registered, done, current, split, distinct, begun⟩ := traced
  cases turn with
  | producer =>
    refine ⟨(State.produce_registry s).symm ▸ registered, ?_⟩
    rcases begun.produce registered with ⟨devices, sink, unique, whole, idle⟩ | further
    · -- the trigger under way is over and joins the whole ones
      refine ⟨done ++ [(devices, sink)], [], ?_, ?_, ?_⟩
      · simp [State.step, split, ← whole]
      · intro t member
        rcases List.mem_append.mp member with earlier | last
        · exact distinct t earlier
        · rw [List.mem_singleton.mp last]
          exact unique
      · rw [State.step, idle]
        exact .idle
    · exact ⟨done, current ++ s.produce.2, by simp [State.step, split], distinct, further⟩
  | host call =>
    refine ⟨State.host_unique s call registered, done, current, by simp [State.step, split], distinct, ?_⟩
    rw [State.step, State.host_emit]
    exact begun

theorem Traced.run {s : State} {events : List Emitted} (traced : Traced s events) (schedule : List Turn) :
    Traced (s.run schedule).1 (events ++ (s.run schedule).2) := by
  induction schedule generalizing s events with
  | nil => simpa [State.run] using traced
  | cons turn more ih =>
    rw [State.run_cons, ← List.append_assoc]
    exact ih (traced.step turn)

/-- However the host's calls fall between the producer's steps, the producer's work is whole
triggers, one after another, and then the beginning of one more. Each trigger takes the devices
connected at that instant, without repeats, and hands each its press command exactly once, in
connection order, all through the one sink it looked up. A device connected after the snapshot
gets nothing from that trigger, and one disconnected after it still gets its command. -/
theorem run_whole_triggers (m : Module) (registered : m.plant.registry.devices.Nodup)
    (schedule : List Turn) :
    ∃ (done : List (List Device × Sink)) (devices : List Device) (sink : Sink) (current : List Emitted),
      ((State.mk m .idle).run schedule).2 = done.flatMap (fun t => triggerEvents t.1 t.2) ++ current ∧
      (∀ t ∈ done, t.1.Nodup) ∧ devices.Nodup ∧ current <+: triggerEvents devices sink := by
  obtain ⟨_, done, current, split, distinct, begun⟩ := (Traced.start registered).run schedule
  obtain ⟨devices, sink, unique, begins⟩ := begun.prefix
  exact ⟨done, devices, sink, current, by simpa using split, distinct, unique, begins⟩

/-- Two buttons are connected when a trigger takes its snapshot; a callback is registered before
its lookup, and the first button is disconnected and a third connected while it delivers. -/
theorem run_whole_triggers_callback_midway :
    (Module.fresh ⟨'x', .queue⟩ "Mock Input").plant.registry.devices.Nodup ∧
      ∃ (done : List (List Device × Sink)) (devices : List Device) (sink : Sink) (current : List Emitted),
        ((State.mk (Module.fresh ⟨'x', .queue⟩ "Mock Input") .idle).run
            [.host (.connect ⟨0, "GreenButton", "A-1"⟩), .host (.connect ⟨0, "RedButton", "B-2"⟩), .producer,
              .host .registerCallback, .producer, .host (.disconnect .announced ⟨0, "GreenButton", "A-1"⟩),
              .host (.connect ⟨0, "BlueButton", "C-3"⟩), .producer, .producer, .producer]).2 =
          done.flatMap (fun t => triggerEvents t.1 t.2) ++ current ∧
        (∀ t ∈ done, t.1.Nodup) ∧ devices.Nodup ∧ current <+: triggerEvents devices sink :=
  ⟨List.nodup_nil, run_whole_triggers (Module.fresh ⟨'x', .queue⟩ "Mock Input") List.nodup_nil
    [.host (.connect ⟨0, "GreenButton", "A-1"⟩), .host (.connect ⟨0, "RedButton", "B-2"⟩), .producer,
      .host .registerCallback, .producer, .host (.disconnect .announced ⟨0, "GreenButton", "A-1"⟩),
      .host (.connect ⟨0, "BlueButton", "C-3"⟩), .producer, .producer, .producer]⟩

example :
    ((State.mk (Module.fresh ⟨'x', .queue⟩ "Mock Input") .idle).run
      [.host (.connect ⟨0, "GreenButton", "A-1"⟩), .host (.connect ⟨0, "RedButton", "B-2"⟩), .producer,
        .host .registerCallback, .producer, .host (.disconnect .announced ⟨0, "GreenButton", "A-1"⟩),
        .host (.connect ⟨0, "BlueButton", "C-3"⟩), .producer, .producer, .producer]).2 =
      triggerEvents [⟨0, "GreenButton", "A-1"⟩, ⟨0, "RedButton", "B-2"⟩] (.callback 1) := by
  decide +kernel

/-- Delivering to the devices still waiting through a sink that does not panic, with no host call
in between, hands each its command through the sink taken, counts each, and then counts the
trigger. -/
theorem run_delivering (m : Module) {sink : Sink} (calm : sink.panics = false) (rest : List Device) :
    (State.mk m (.delivering sink rest)).run (List.replicate (rest.length + 1) .producer) =
      (⟨m.withPlant { m.plant with
          outbox := m.plant.outbox.receive sink (rest.map pressFor),
          stats := { m.plant.stats.count sink.accepts rest.length with
            triggers := m.plant.stats.triggers + 1 } }, .idle⟩,
        (rest.map fun d => .delivered sink (pressFor d)) ++ [.counted]) := by
  induction rest generalizing m with
  | nil => simp [State.run, State.step, State.produce, Outbox.receive_nil, Stats.count_zero]
  | cons d rest ih =>
    rw [List.length_cons, List.replicate_succ, State.run_cons]
    simp only [State.step, State.produce, calm, Bool.false_eq_true, if_false, Sink.deliver_run, Stats.count_one, ih]
    simp [Outbox.receive_append, Stats.count_add, Nat.add_comm 1]

/-- With no host call in between and a sink that does not panic, the steps of a trigger do just
what one trigger of the module does. -/
theorem run_trigger_alone (m : Module) (calm : m.plant.sink.panics = false) :
    (State.mk m .idle).run
        (List.replicate (triggerEvents m.plant.registry.devices m.plant.sink).length .producer) =
      (⟨m.withPlant m.plant.fire, .idle⟩, triggerEvents m.plant.registry.devices m.plant.sink) := by
  cases connected : m.plant.registry.devices with
  | nil =>
    simp [triggerEvents, State.run, State.step, State.produce, connected, Plant.fire, Outbox.receive_nil,
      Stats.count_zero]
  | cons d more =>
    have steps : (triggerEvents (d :: more) m.plant.sink).length = (d :: more).length + 1 + 1 + 1 := by
      simp [triggerEvents]
    rw [steps, List.replicate_succ, List.replicate_succ, State.run_cons, State.run_cons]
    simp only [State.step, State.produce, connected, List.isEmpty_cons, Bool.false_eq_true, if_false,
      run_delivering m calm]
    simp [triggerEvents, Plant.fire, connected]

end ButtonRelay.Interleaving
