import ButtonRelay.Producer

namespace ButtonRelay

/-- The press command addressed to a device. -/
def pressFor (d : Device) : Envelope := ⟨Command.press.encode, d⟩

/-- Whether a sink takes what it is handed, rather than dropping it. -/
def Sink.accepts : Sink → Bool
  | .queue | .callback _ => true
  | .panicking _ | .unregistered => false

/-- Where envelopes handed to a sink end up: at the back of the queue, at the end of the
callback's log, or nowhere. -/
def Outbox.receive (box : Outbox) : Sink → List Envelope → Outbox
  | .queue, es => { box with queue := ⟨box.queue.pending ++ es⟩ }
  | .callback k, es => { box with received := box.received ++ es.map ((k, ·)) }
  | .panicking _, _ | .unregistered, _ => box

/-- Counts envelopes as delivered or as dropped. -/
def Stats.count (stats : Stats) (delivered : Bool) (n : Nat) : Stats :=
  if delivered then { stats with delivered := stats.delivered + n }
  else { stats with dropped := stats.dropped + n }

theorem Sink.deliver_run (thread : Thread) (s : Sink) (e : Envelope) (box : Outbox) (log : List Event) :
    ((s.deliver thread e box).run log).1 = (s.accepts, box.receive s [e]) := by
  cases s <;> simp [Sink.deliver, Sink.accepts, Outbox.receive, Queue.push, emit]

theorem Outbox.receive_nil (box : Outbox) (s : Sink) : box.receive s [] = box := by
  cases s <;> simp [Outbox.receive]

theorem Outbox.receive_append (box : Outbox) (s : Sink) (es es' : List Envelope) :
    (box.receive s es).receive s es' = box.receive s (es ++ es') := by
  cases s <;> simp [Outbox.receive]

theorem Stats.count_zero (stats : Stats) (delivered : Bool) : stats.count delivered 0 = stats := by
  cases delivered <;> simp [Stats.count]

theorem Stats.count_add (stats : Stats) (delivered : Bool) (n n' : Nat) :
    (stats.count delivered n).count delivered n' = stats.count delivered (n + n') := by
  cases delivered <;> simp [Stats.count, Nat.add_assoc]

/-- One delivery is a count of one. -/
theorem Stats.count_one (stats : Stats) (ok : Bool) :
    (if ok then { stats with delivered := stats.delivered + 1 }
      else { stats with dropped := stats.dropped + 1 }) = stats.count ok 1 := by
  cases ok <;> rfl

@[simp] theorem Stats.count_triggers (stats : Stats) (delivered : Bool) (n : Nat) :
    (stats.count delivered n).triggers = stats.triggers := by
  cases delivered <;> rfl

/-- Sending to a list of devices through a sink that does not panic hands each its press
command, in order, to that sink, and counts them all as delivered or all as dropped. -/
theorem sendAll_run {sink : Sink} (calm : sink.panics = false) (devices : List Device) (box : Outbox)
    (stats : Stats) (log : List Event) :
    ((sendAll sink devices box stats).run log).1 =
      some (box.receive sink (devices.map pressFor), stats.count sink.accepts devices.length) := by
  induction devices generalizing box stats log with
  | nil => simp [sendAll, Outbox.receive_nil, Stats.count_zero]
  | cons d more ih =>
    -- one delivery is a count of one, so the rest of the list adds to it
    simp only [sendAll, calm, Bool.false_eq_true, if_false, Logged.bind_fst, Sink.deliver_run, Stats.count_one, ih,
      Outbox.receive_append, Stats.count_add, List.map_cons, List.length_cons, pressFor, List.singleton_append,
      Nat.add_comm 1]

/-- A sink that panics does so on the first device. -/
theorem sendAll_panics {sink : Sink} (panics : sink.panics = true) (d : Device) (more : List Device) (box : Outbox)
    (stats : Stats) (log : List Event) : ((sendAll sink (d :: more) box stats).run log).1 = none := by
  simp [sendAll, panics, emit]

/-- A trigger delivers and is counted unless a callback panics on the way, which happens exactly
when the sink panics and some device is connected. -/
theorem fanOut_run (devices : List Device) (sink : Sink) (box : Outbox) (stats : Stats) (log : List Event) :
    ((fanOut devices sink box stats).run log).1 =
      if sink.panics ∧ devices ≠ [] then none
      else some (box.receive sink (devices.map pressFor),
        { stats.count sink.accepts devices.length with triggers := stats.triggers + 1 }) := by
  cases devices with
  | nil => simp [fanOut, emit, Outbox.receive_nil, Stats.count_zero]
  | cons d more =>
    cases panics : sink.panics with
    | true =>
      simp only [fanOut, Logged.bind_fst, List.isEmpty_cons, Bool.false_eq_true, if_false, sendAll_panics panics,
        StateT.run_pure, Logged.pure_fst, Option.map_none]
      simp
    | false =>
      simp only [fanOut, Logged.bind_fst, List.isEmpty_cons, Bool.false_eq_true, if_false, sendAll_run panics,
        StateT.run_pure, Logged.pure_fst, Option.map_some, Stats.count_triggers]
      simp

/-- One trigger: the press command goes to each connected device through the current sink, and
the trigger is counted. -/
def Plant.fire (plant : Plant) : Plant :=
  { plant with
    outbox := plant.outbox.receive plant.sink (plant.registry.devices.map pressFor)
    stats := { plant.stats.count plant.sink.accepts plant.registry.devices.length with
      triggers := plant.stats.triggers + 1 } }

/-- What a value read from the source does: the trigger fires, anything else is ignored. -/
def Plant.read (trigger : Char) (plant : Plant) (c : Char) : Plant :=
  if c = trigger then plant.fire else plant

/-- Whether a trigger read now makes a callback panic: the sink panics and a device is connected. -/
def Plant.crashes (plant : Plant) : Bool := plant.sink.panics && !plant.registry.devices.isEmpty

/-- What a read does to the plant: a press is read as above, and anything else leaves it. -/
def Plant.after (trigger : Char) (plant : Plant) : Input.Read → Plant
  | .value c => plant.read trigger c
  | _ => plant

/-- Whether a read makes a callback panic: it is the trigger, and the plant crashes on it. -/
def Plant.crashesOn (trigger : Char) (plant : Plant) (r : Input.Read) : Bool :=
  decide (r = .value trigger) && plant.crashes

theorem Plant.take_value (trigger : Char) (name : String) (plant : Plant) (c : Char) (log : List Event) :
    ((plant.take trigger name (.value c)).run log).1 =
      if plant.crashesOn trigger (.value c) then none else some (plant.read trigger c) := by
  by_cases fires : c = trigger
  · subst fires
    simp only [Plant.take, if_true, Logged.bind_fst, fanOut_run, StateT.run_pure, Logged.pure_fst,
      Plant.crashesOn, Plant.crashes, Plant.read, Plant.fire]
    by_cases crash : plant.sink.panics = true ∧ plant.registry.devices ≠ [] <;> simp [crash]
  · simp [Plant.take, fires, Plant.read, Plant.crashesOn, emit]

/-- A read changes the plant as `Plant.after` says, unless a callback panics on it. -/
theorem Plant.take_run (trigger : Char) (name : String) (plant : Plant) (r : Input.Read) (log : List Event) :
    ((plant.take trigger name r).run log).1 =
      if plant.crashesOn trigger r then none else some (plant.after trigger r) := by
  cases r with
  | value c => exact Plant.take_value trigger name plant c log
  | failed f => cases f <;> simp [Plant.take, Plant.after, Plant.crashesOn, emit]
  | closed | pending => simp [Plant.take, Plant.after, Plant.crashesOn, emit]

end ButtonRelay
