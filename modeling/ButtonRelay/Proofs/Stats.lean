import Mathlib
import ButtonRelay.Proofs.Interleaving
import ButtonRelay.Proofs.Slot

namespace ButtonRelay

/-- What a delivery through a sink drops: the envelope, for a callback sink with no callback. A
callback that panics never returns to take it, and the producer ends before it counts one. -/
def Sink.toNowhere : Sink → Envelope → List Envelope
  | .unregistered, e | .panicking _, e => [e]
  | _, _ => []

/-- The envelopes these deliveries dropped, in order. -/
def droppedBy (routed : List (Sink × Envelope)) : List Envelope :=
  routed.flatMap fun d => d.1.toNowhere d.2

@[simp] theorem droppedBy_append (routed more : List (Sink × Envelope)) :
    droppedBy (routed ++ more) = droppedBy routed ++ droppedBy more := by
  simp [droppedBy]

/-- Every delivery lands in exactly one of the queue, a callback and nowhere. -/
theorem landed_once (routed : List (Sink × Envelope)) :
    (queuedBy routed).length + (calledBy routed).length + (droppedBy routed).length = routed.length := by
  induction routed with
  | nil => rfl
  | cons d more ih =>
    obtain ⟨sink, e⟩ := d
    have once : (sink.toQueue e).length + (sink.toCallbacks e).length + (sink.toNowhere e).length = 1 := by
      cases sink <;> rfl
    simp only [queuedBy, calledBy, droppedBy, List.flatMap_cons, List.length_append, List.length_cons] at ih ⊢
    omega

/-- A delivery counts as delivered when it reaches the queue or a callback, and as dropped when it
reaches nowhere. -/
theorem Stats.count_landed (stats : Stats) (sink : Sink) (e : Envelope) :
    stats.count sink.accepts 1 =
      { stats with
        delivered := stats.delivered + (sink.toQueue e).length + (sink.toCallbacks e).length
        dropped := stats.dropped + (sink.toNowhere e).length } := by
  cases sink <;> rfl

namespace Interleaving

/-- The delivery a producer step made, with the sink it went through. -/
def Emitted.handed : Emitted → List (Sink × Envelope)
  | .delivered sink e => [(sink, e)]
  | _ => []

/-- Whether a producer step took the connected devices, which begins a trigger. -/
def Emitted.isSnapshot : Emitted → Bool
  | .snapshot _ => true
  | _ => false

/-- The deliveries the producer made, in order, each with the sink it went through. -/
def handedBy (events : List Emitted) : List (Sink × Envelope) := events.flatMap Emitted.handed

@[simp] theorem handedBy_append (events more : List Emitted) :
    handedBy (events ++ more) = handedBy events ++ handedBy more := by
  simp [handedBy]

@[simp] theorem handedBy_nil : handedBy [] = [] := rfl

@[simp] theorem handedBy_cons (e : Emitted) (events : List Emitted) :
    handedBy (e :: events) = e.handed ++ handedBy events := rfl

/-- Deliveries count no trigger. -/
theorem deliveries_uncounted (sink : Sink) (devices : List Device) :
    (devices.map fun d => Emitted.delivered sink (pressFor d)).count .counted = 0 := by
  simp [List.count_eq_zero]

theorem handedBy_deliveries (sink : Sink) (devices : List Device) :
    handedBy (devices.map fun d => Emitted.delivered sink (pressFor d)) = devices.map fun d => (sink, pressFor d) := by
  induction devices with
  | nil => rfl
  | cons d more ih => simpa [Emitted.handed] using ih

/-- A trigger is counted once. -/
theorem triggerEvents_counted (devices : List Device) (sink : Sink) :
    (triggerEvents devices sink).count .counted = 1 := by
  cases devices <;> simp [triggerEvents, deliveries_uncounted]

/-- A trigger takes the devices once. -/
theorem triggerEvents_snapshots (devices : List Device) (sink : Sink) :
    (triggerEvents devices sink).countP Emitted.isSnapshot = 1 := by
  cases devices <;> simp [triggerEvents, Emitted.isSnapshot, List.countP_cons]

/-- A trigger makes one delivery for each device it took. -/
theorem triggerEvents_handed (devices : List Device) (sink : Sink) :
    (handedBy (triggerEvents devices sink)).length = devices.length := by
  cases devices <;> simp [triggerEvents, Emitted.handed, handedBy_deliveries]

/-- The trigger under way is not counted yet. -/
theorem Begun.uncounted {emit : Emit} {current : List Emitted} (begun : Begun emit current) :
    current.count .counted = 0 := by
  cases begun <;> simp [deliveries_uncounted]

/-- A producer with no trigger under way has done nothing of one. -/
theorem Begun.idle_nil {current : List Emitted} (begun : Begun .idle current) : current = [] := by
  cases begun
  rfl

/-- What whole triggers did: one count each, one snapshot each, and one delivery for each device
each took. -/
theorem whole_triggers (done : List (List Device × Sink)) :
    (done.flatMap fun t => triggerEvents t.1 t.2).count .counted = done.length ∧
      (done.flatMap fun t => triggerEvents t.1 t.2).countP Emitted.isSnapshot = done.length ∧
      (handedBy (done.flatMap fun t => triggerEvents t.1 t.2)).length = (done.map fun t => t.1.length).sum := by
  induction done with
  | nil => simp
  | cons t more ih =>
    obtain ⟨counted, snapshots, handed⟩ := ih
    simp only [List.flatMap_cons, List.count_append, List.countP_append, handedBy_append, List.length_append,
      triggerEvents_counted, triggerEvents_snapshots, triggerEvents_handed, List.map_cons, List.sum_cons, List.length_cons]
    omega

namespace State

/-- A host call changes only the devices, the sink and the callbacks, and takes commands only from
the front of the queue: the counts and what the callbacks received stay as they were. -/
theorem host_plant (s : State) (call : HostStep) :
    ∃ taken, taken ++ (s.host call).module.plant.outbox.queue.pending = s.module.plant.outbox.queue.pending ∧
      (s.host call).module.plant.outbox.received = s.module.plant.outbox.received ∧
      (s.host call).module.plant.stats = s.module.plant.stats := by
  cases call with
  | connect d =>
    refine ⟨[], ?_⟩
    by_cases present : d ∈ s.module.plant.registry.devices <;> simp [host, Module.connect_run, present]
  | disconnect reason d =>
    refine ⟨[], ?_⟩
    by_cases present : d ∈ s.module.plant.registry.devices <;> simp [host, Module.disconnect_run, present]
  | registerCallback => exact ⟨[], by simp [host, Module.registerCallback_run]⟩
  | getCommand =>
    cases front : s.module.plant.outbox.queue.pending with
    | nil => exact ⟨[], by simp [host, Module.getCommand, Queue.drain, front]⟩
    | cons e rest => exact ⟨[e], by simp [host, Module.getCommand, Queue.drain, front]⟩

end State

/-- The producer's counts and what it delivered agree with what it did since `start`: the trigger
count grew by the triggers counted, the delivered count by the envelopes put on the queue and
handed to callbacks, and the dropped count by those that reached nowhere; the callbacks received
what was handed to them; and what the host took, followed by the queue, is the queue at the start
followed by what the producer put on it. -/
structure Accounted (start : Module) (s : State) (events : List Emitted) : Prop where
  triggers : s.module.plant.stats.triggers = start.plant.stats.triggers + events.count .counted
  delivered : s.module.plant.stats.delivered =
    start.plant.stats.delivered + (queuedBy (handedBy events)).length + (calledBy (handedBy events)).length
  dropped : s.module.plant.stats.dropped = start.plant.stats.dropped + (droppedBy (handedBy events)).length
  received : s.module.plant.outbox.received = start.plant.outbox.received ++ calledBy (handedBy events)
  queue : ∃ taken, taken ++ s.module.plant.outbox.queue.pending =
    start.plant.outbox.queue.pending ++ queuedBy (handedBy events)

theorem Accounted.start (m : Module) (emit : Emit) : Accounted m ⟨m, emit⟩ [] :=
  ⟨rfl, rfl, rfl, by simp [handedBy, calledBy], ⟨[], by simp [handedBy, queuedBy]⟩⟩

/-- A producer step that does nothing others can see keeps the counts and the deliveries. -/
theorem Accounted.still {start : Module} {s : State} {events : List Emitted} (acc : Accounted start s events)
    {t : State} (same : t.module = s.module) : Accounted start t (events ++ []) := by
  obtain ⟨triggers, delivered, dropped, received, queue⟩ := acc
  refine ⟨?_, ?_, ?_, ?_, ?_⟩ <;> simp only [same, List.append_nil] <;> assumption

/-- A producer step that delivers nothing and counts no trigger keeps the counts and the deliveries. -/
theorem Accounted.quiet {start : Module} {s : State} {events : List Emitted} (acc : Accounted start s events)
    {t : State} {e : Emitted} (same : t.module = s.module) (uncounted : e ≠ .counted)
    (handed : e.handed = []) : Accounted start t (events ++ [e]) := by
  obtain ⟨triggers, delivered, dropped, received, queue⟩ := acc
  have uncounted' : [e].count .counted = 0 := by simpa [List.count_cons] using uncounted
  have handed' : handedBy [e] = [] := by simpa [handedBy] using handed
  refine ⟨?_, ?_, ?_, ?_, ?_⟩ <;> simp only [same, List.count_append, uncounted', handedBy_append, handed',
    List.append_nil, Nat.add_zero] <;> assumption

/-- Counting a trigger adds one to the trigger count and changes nothing else. -/
theorem Accounted.counted {start : Module} {s : State} {events : List Emitted} (acc : Accounted start s events)
    {t : State} (outbox : t.module.plant.outbox = s.module.plant.outbox)
    (stats : t.module.plant.stats = { s.module.plant.stats with triggers := s.module.plant.stats.triggers + 1 }) :
    Accounted start t (events ++ [.counted]) := by
  obtain ⟨triggers, delivered, dropped, received, queue⟩ := acc
  have nothing : handedBy [Emitted.counted] = [] := rfl
  refine ⟨?_, ?_, ?_, ?_, ?_⟩ <;>
    simp only [stats, outbox, handedBy_append, nothing, List.append_nil, List.count_append, List.count_singleton_self]
  · omega
  all_goals assumption

/-- A delivery through a sink lands where that sink sends it, and is counted as delivered or as
dropped by where it landed. -/
theorem Accounted.landed {start : Module} {s : State} {events : List Emitted} (acc : Accounted start s events)
    {t : State} {sink : Sink} {e : Envelope} (outbox : t.module.plant.outbox = s.module.plant.outbox.receive sink [e])
    (stats : t.module.plant.stats = s.module.plant.stats.count sink.accepts 1) :
    Accounted start t (events ++ [.delivered sink e]) := by
  obtain ⟨triggers, delivered, dropped, received, ⟨taken, queue⟩⟩ := acc
  have once : handedBy [Emitted.delivered sink e] = [(sink, e)] := rfl
  have landed := Stats.count_landed s.module.plant.stats sink e
  refine ⟨?_, ?_, ?_, ?_, ⟨taken, ?_⟩⟩
  · simp [stats, landed, triggers]
  · simp only [stats, landed, handedBy_append, once, queuedBy_append, calledBy_append, List.length_append, delivered]
    simp only [queuedBy, calledBy, List.flatMap_cons, List.flatMap_nil, List.append_nil]
    omega
  · simp only [stats, landed, handedBy_append, once, droppedBy_append, List.length_append, dropped]
    simp [droppedBy, Nat.add_assoc]
  · simp only [outbox, Outbox.receive_received, handedBy_append, once, calledBy_append, received, List.append_assoc]
    simp [calledBy]
  · simp only [outbox, Outbox.receive_pending, handedBy_append, once, queuedBy_append, ← List.append_assoc, queue]
    simp [queuedBy]

/-- Each producer step keeps the counts in agreement with what the producer did. -/
theorem Accounted.produce {start : Module} {s : State} {events : List Emitted} (acc : Accounted start s events) :
    Accounted start s.produce.1 (events ++ s.produce.2) := by
  obtain ⟨m, emit⟩ := s
  rcases emit with _ | devices | ⟨sink, _ | ⟨d, rest⟩⟩ | _ | _
  · exact acc.quiet rfl (by simp) rfl
  · exact acc.quiet rfl (by simp) rfl
  · exact acc.counted rfl rfl
  · by_cases panics : sink.panics = true
    · -- the callback panics: nothing is delivered or counted
      simpa [State.produce, panics] using acc.still (t := ⟨m, .crashed⟩) rfl
    · simpa [State.produce, panics] using
        acc.landed (t := (State.produce ⟨m, .delivering sink (d :: rest)⟩).1)
          (by simp [State.produce, panics, Sink.deliver_run])
          (by simp [State.produce, panics, Sink.deliver_run, Stats.count_one])
  · exact acc.counted rfl rfl
  · exact acc.still rfl

theorem Accounted.host {start : Module} {s : State} {events : List Emitted} (acc : Accounted start s events)
    (call : HostStep) : Accounted start (s.host call) events := by
  obtain ⟨triggers, delivered, dropped, received, ⟨taken, queue⟩⟩ := acc
  obtain ⟨took, front, received', stats⟩ := s.host_plant call
  refine ⟨?_, ?_, ?_, ?_, ⟨taken ++ took, ?_⟩⟩
  · rw [stats, triggers]
  · rw [stats, delivered]
  · rw [stats, dropped]
  · rw [received', received]
  · rw [List.append_assoc, front, queue]

theorem Accounted.step {start : Module} {s : State} {events : List Emitted} (acc : Accounted start s events)
    (turn : Turn) : Accounted start (s.step turn).1 (events ++ (s.step turn).2) := by
  cases turn with
  | producer => exact acc.produce
  | host call => simpa [State.step] using acc.host call

theorem Accounted.run {start : Module} {s : State} {events : List Emitted} (acc : Accounted start s events)
    (schedule : List Turn) : Accounted start (s.run schedule).1 (events ++ (s.run schedule).2) := by
  induction schedule generalizing s events with
  | nil => simpa [State.run] using acc
  | cons turn more ih =>
    rw [State.run_cons, ← List.append_assoc]
    exact ih (acc.step turn)

/-- However the host's calls fall between the producer's steps, its counts tell what it did. The
delivered count grew by the envelopes it put on the queue and handed to callbacks, and the dropped
count by those offered to a callback sink with no callback; the callbacks received exactly the
former, and the queue holds what it put there after what was queued, less what the host took from
the front. Its work is whole triggers and the beginning of one more, and the trigger count grew by
exactly the whole ones: a reader that sees the count grown by `k` sees every delivery of the first
`k` triggers done. Between triggers, the trigger count grew by the triggers begun, empty ones
included, and the delivered and dropped counts together by the devices each trigger took. -/
theorem run_counts_triggers (m : Module) (registered : m.plant.registry.devices.Nodup) (schedule : List Turn) :
    let s := ((State.mk m .idle).run schedule).1
    let events := ((State.mk m .idle).run schedule).2
    s.module.plant.stats.delivered =
        m.plant.stats.delivered + (queuedBy (handedBy events)).length + (calledBy (handedBy events)).length ∧
      s.module.plant.stats.dropped = m.plant.stats.dropped + (droppedBy (handedBy events)).length ∧
      s.module.plant.outbox.received = m.plant.outbox.received ++ calledBy (handedBy events) ∧
      (∃ taken, taken ++ s.module.plant.outbox.queue.pending =
        m.plant.outbox.queue.pending ++ queuedBy (handedBy events)) ∧
      ∃ (done : List (List Device × Sink)) (current : List Emitted),
        events = done.flatMap (fun t => triggerEvents t.1 t.2) ++ current ∧ .counted ∉ current ∧
        s.module.plant.stats.triggers = m.plant.stats.triggers + done.length ∧
        (s.emit = .idle →
          current = [] ∧ s.module.plant.stats.triggers = m.plant.stats.triggers + events.countP Emitted.isSnapshot ∧
          s.module.plant.stats.delivered + s.module.plant.stats.dropped =
            m.plant.stats.delivered + m.plant.stats.dropped + (done.map fun t => t.1.length).sum) := by
  dsimp only
  obtain ⟨triggers, delivered, dropped, received, queue⟩ := (Accounted.start m .idle).run schedule
  obtain ⟨-, done, current, split, -, begun⟩ := (Traced.start registered).run schedule
  generalize (State.mk m .idle).run schedule = after at *
  obtain ⟨s, events⟩ := after
  simp only [List.nil_append] at triggers delivered dropped received queue split ⊢
  obtain ⟨counted, snapshots, handed⟩ := whole_triggers done
  have uncounted := begun.uncounted
  refine ⟨delivered, dropped, received, queue, done, current, split, List.count_eq_zero.mp uncounted, ?_, ?_⟩
  · rw [triggers, split, List.count_append, counted, uncounted, Nat.add_zero]
  · intro idle
    -- between triggers nothing of one is under way, so the events are the whole triggers
    have nothing : current = [] := Begun.idle_nil (idle ▸ begun)
    have whole : events = done.flatMap fun t => triggerEvents t.1 t.2 := by rw [split, nothing, List.append_nil]
    have landed := landed_once (handedBy events)
    refine ⟨nothing, ?_, ?_⟩
    · rw [triggers, whole, counted, snapshots]
    · rw [← whole] at handed
      omega

/-- Two buttons are connected to a module whose callback sink has no callback yet; a trigger takes
them and looks up that sink, and a callback is registered before it delivers. -/
theorem run_counts_triggers_dropped_midway :
    (Module.fresh ⟨'x', .callback⟩ "Mock Input").plant.registry.devices.Nodup ∧
      let schedule : List Turn :=
        [.host (.connect ⟨0, "GreenButton", "A-1"⟩), .host (.connect ⟨0, "RedButton", "B-2"⟩), .producer, .producer,
          .host .registerCallback, .producer, .producer, .producer]
      let s := ((State.mk (Module.fresh ⟨'x', .callback⟩ "Mock Input") .idle).run schedule).1
      let events := ((State.mk (Module.fresh ⟨'x', .callback⟩ "Mock Input") .idle).run schedule).2
      s.module.plant.stats.delivered = (Module.fresh ⟨'x', .callback⟩ "Mock Input").plant.stats.delivered +
          (queuedBy (handedBy events)).length + (calledBy (handedBy events)).length ∧
        s.module.plant.stats.dropped =
          (Module.fresh ⟨'x', .callback⟩ "Mock Input").plant.stats.dropped + (droppedBy (handedBy events)).length ∧
        s.module.plant.outbox.received =
          (Module.fresh ⟨'x', .callback⟩ "Mock Input").plant.outbox.received ++ calledBy (handedBy events) ∧
        (∃ taken, taken ++ s.module.plant.outbox.queue.pending =
          (Module.fresh ⟨'x', .callback⟩ "Mock Input").plant.outbox.queue.pending ++ queuedBy (handedBy events)) ∧
        ∃ (done : List (List Device × Sink)) (current : List Emitted),
          events = done.flatMap (fun t => triggerEvents t.1 t.2) ++ current ∧ .counted ∉ current ∧
          s.module.plant.stats.triggers = (Module.fresh ⟨'x', .callback⟩ "Mock Input").plant.stats.triggers + done.length ∧
          (s.emit = .idle →
            current = [] ∧
            s.module.plant.stats.triggers =
              (Module.fresh ⟨'x', .callback⟩ "Mock Input").plant.stats.triggers + events.countP Emitted.isSnapshot ∧
            s.module.plant.stats.delivered + s.module.plant.stats.dropped =
              (Module.fresh ⟨'x', .callback⟩ "Mock Input").plant.stats.delivered +
                (Module.fresh ⟨'x', .callback⟩ "Mock Input").plant.stats.dropped + (done.map fun t => t.1.length).sum) :=
  ⟨List.nodup_nil, run_counts_triggers (Module.fresh ⟨'x', .callback⟩ "Mock Input") List.nodup_nil _⟩

example :
    ((State.mk (Module.fresh ⟨'x', .callback⟩ "Mock Input") .idle).run
      [.host (.connect ⟨0, "GreenButton", "A-1"⟩), .host (.connect ⟨0, "RedButton", "B-2"⟩), .producer, .producer,
        .host .registerCallback, .producer, .producer, .producer]).1.module.plant.stats = ⟨1, 0, 2⟩ := by
  decide +kernel

end Interleaving

end ButtonRelay
