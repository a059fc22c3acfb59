import Mathlib.Data.List.Induction
import ButtonRelay.Slot
import ButtonRelay.Proofs.Producer

namespace ButtonRelay

/-- What a delivery through a sink puts on the queue: the envelope, for a queue sink. -/
def Sink.toQueue : Sink → Envelope → List Envelope
  | .queue, e => [e]
  | _, _ => []

/-- What a delivery through a sink hands to a callback: the envelope with the callback's number,
for a registered callback. -/
def Sink.toCallbacks : Sink → Envelope → List (Nat × Envelope)
  | .callback k, e => [(k, e)]
  | _, _ => []

/-- The envelopes these deliveries put on the queue, in order. -/
def queuedBy (routed : List (Sink × Envelope)) : List Envelope :=
  routed.flatMap fun d => d.1.toQueue d.2

/-- What these deliveries handed to callbacks, in order, each with its callback's number. -/
def calledBy (routed : List (Sink × Envelope)) : List (Nat × Envelope) :=
  routed.flatMap fun d => d.1.toCallbacks d.2

theorem Outbox.receive_pending (box : Outbox) (sink : Sink) (es : List Envelope) :
    (box.receive sink es).queue.pending = box.queue.pending ++ es.flatMap fun e => sink.toQueue e := by
  cases sink <;> simp [Outbox.receive, Sink.toQueue]

theorem Outbox.receive_received (box : Outbox) (sink : Sink) (es : List Envelope) :
    (box.receive sink es).received = box.received ++ es.flatMap fun e => sink.toCallbacks e := by
  cases sink <;> simp [Outbox.receive, Sink.toCallbacks, List.map_eq_flatMap]

@[simp] theorem queuedBy_append (routed more : List (Sink × Envelope)) :
    queuedBy (routed ++ more) = queuedBy routed ++ queuedBy more := by
  simp [queuedBy]

@[simp] theorem calledBy_append (routed more : List (Sink × Envelope)) :
    calledBy (routed ++ more) = calledBy routed ++ calledBy more := by
  simp [calledBy]

namespace Slot

/-- A step on a sink slot: deliver through the current sink, take the current sink and keep it,
deliver through the `i`-th sink kept, install a queue sink over the same queue, a new callback or
a callback sink with no callback, or take the oldest queued envelope. -/
inductive Call where
  | deliver (e : Envelope)
  | hold
  | deliverHeld (i : Nat) (e : Envelope)
  | replaceQueue
  | replaceCallback
  | replaceUnregistered
  | drain
  deriving DecidableEq

/-- What a slot step answers. -/
inductive Answer where
  /-- Whether the sink took the envelope, and the sink's mode. -/
  | delivered (ok : Bool) (mode : Delivery)
  /-- A delivery through a kept sink that is not there. -/
  | noneHeld
  | done
  | drained (got : Option (Envelope × Nat))
  deriving DecidableEq

/-- The delivery an answer reports. -/
def Answer.delivery? : Answer → Option (Bool × Delivery)
  | .delivered ok mode => some (ok, mode)
  | _ => none

/-- The envelope an answer hands out from the queue. -/
def Answer.taken? : Answer → Option Envelope
  | .drained (some (e, _)) => some e
  | _ => none

/-- The mode of the sink a step installs, if it installs one. -/
def Call.installs : Call → Option Delivery
  | .replaceQueue => some .queue
  | .replaceCallback | .replaceUnregistered => some .callback
  | _ => none

/-- The sink a step hands its envelope to, with the envelope. -/
def receiver (s : Slot) : Call → Option (Sink × Envelope)
  | .deliver e => some (s.current, e)
  | .deliverHeld i e => s.held[i]?.map fun sink => (sink, e)
  | _ => none

/-- Makes one step. -/
def answer (s : Slot) : Call → Answer × Slot
  | .deliver e =>
    let r := ((s.deliver e).run []).1
    (.delivered r.1.1 r.1.2, r.2)
  | .hold => (.done, s.hold)
  | .deliverHeld i e =>
    match s.deliverHeld i e with
    | some run => (.delivered (run.run []).1.1.1 (run.run []).1.1.2, (run.run []).1.2)
    | none => (.noneHeld, s)
  | .replaceQueue => (.done, s.replaceQueue)
  | .replaceCallback => (.done, s.replaceCallback)
  | .replaceUnregistered => (.done, s.replaceUnregistered)
  | .drain => (.drained s.drain.1, s.drain.2)

/-- The steps made so far: their answers, each delivery with the sink it went through, and the
slot. -/
structure Trace where
  answers : List Answer
  routed : List (Sink × Envelope)
  slot : Slot

/-- One more step. -/
def Trace.step (t : Trace) (call : Call) : Trace :=
  ⟨t.answers ++ [(t.slot.answer call).1], t.routed ++ (t.slot.receiver call).toList,
    (t.slot.answer call).2⟩

/-- The steps in order, from a slot holding a queue sink over an empty queue. -/
def replay (calls : List Call) : Trace := calls.foldl Trace.step ⟨[], [], start⟩

theorem replay_append (calls more : List Call) : replay (calls ++ more) = more.foldl Trace.step (replay calls) := by
  simp only [replay, List.foldl_append]

theorem replay_concat (calls : List Call) (call : Call) : replay (calls ++ [call]) = (replay calls).step call := by
  simp only [replay_append, List.foldl_cons, List.foldl_nil]

theorem deliverWith_run (s : Slot) (sink : Sink) (e : Envelope) (log : List Event) :
    ((s.deliverWith sink e).run log).1 = ((sink.accepts, sink.mode), { s with outbox := s.outbox.receive sink [e] }) := by
  simp only [deliverWith, Logged.bind_fst, Sink.deliver_run, StateT.run_pure, Logged.pure_fst]

/-- A step that hands an envelope to a sink answers whether that sink takes it and its mode, and
changes only where deliveries went, as that sink receives. -/
theorem answer_receiver {s : Slot} {call : Call} {sink : Sink} {e : Envelope}
    (routed : s.receiver call = some (sink, e)) :
    s.answer call = (.delivered sink.accepts sink.mode, { s with outbox := s.outbox.receive sink [e] }) := by
  cases call with
  | deliver e' =>
    obtain ⟨rfl, rfl⟩ : s.current = sink ∧ e' = e := by simpa [receiver] using routed
    simp only [answer, Slot.deliver, deliverWith_run]
  | deliverHeld i e' =>
    obtain ⟨kept, rfl⟩ : s.held[i]? = some sink ∧ e' = e := by simpa [receiver] using routed
    simp only [answer, Slot.deliverHeld, kept, Option.map_some, deliverWith_run]
  | _ => simp [receiver] at routed

/-- A step that delivers nothing and takes nothing from the queue leaves where deliveries went as
it was. -/
theorem answer_quiet {s : Slot} {call : Call} (routed : s.receiver call = none) (kept : call ≠ .drain) :
    (s.answer call).1.delivery? = none ∧ (s.answer call).1.taken? = none ∧ (s.answer call).2.outbox = s.outbox := by
  cases call with
  | deliver e => simp [receiver] at routed
  | deliverHeld i e =>
    have none : s.held[i]? = none := by simpa [receiver] using routed
    simp [answer, Slot.deliverHeld, none, Answer.delivery?, Answer.taken?]
  | drain => exact absurd rfl kept
  | _ => simp [answer, Answer.delivery?, Answer.taken?, hold, replaceQueue, replaceCallback, replaceUnregistered]

/-- The deliveries made so far agree with where they went: each delivery answers whether its sink
took the envelope and the sink's mode; the envelopes drains handed out, followed by the queue,
are those delivered through a queue sink; and the callbacks received exactly what was delivered
through them. -/
structure Trace.Routes (t : Trace) : Prop where
  answered : t.answers.filterMap Answer.delivery? = t.routed.map fun d => (d.1.accepts, d.1.mode)
  queue : t.answers.filterMap Answer.taken? ++ t.slot.outbox.queue.pending = queuedBy t.routed
  callbacks : t.slot.outbox.received = calledBy t.routed

theorem Trace.Routes.start : (Trace.mk [] [] start).Routes :=
  ⟨rfl, rfl, rfl⟩

theorem Trace.Routes.step {t : Trace} (routes : t.Routes) (call : Call) : (t.step call).Routes := by
  obtain ⟨answered, queue, callbacks⟩ := routes
  cases routed : t.slot.receiver call with
  | some d =>
    -- a delivery: its sink takes the envelope or drops it, and the queue or a callback gets it
    obtain ⟨sink, e⟩ := d
    have answered' := answer_receiver routed
    refine ⟨?_, ?_, ?_⟩
    · simp [Trace.step, routed, answered', answered, Answer.delivery?]
    · simp only [Trace.step, routed, answered', List.filterMap_append, Option.toList_some, queuedBy_append,
        ← queue, Outbox.receive_pending, List.append_assoc]
      simp [Answer.taken?, queuedBy]
    · simp [Trace.step, routed, answered', callbacks, Outbox.receive_received, calledBy]
  | none =>
    by_cases drained : call = .drain
    · -- a drain hands out the front of the queue, or nothing when it is empty
      subst drained
      refine ⟨?_, ?_, ?_⟩
      · simpa [Trace.step, routed, answer, List.filterMap_cons, Answer.delivery?] using answered
      · cases front : t.slot.outbox.queue.pending with
        | nil =>
          simpa [Trace.step, routed, answer, Slot.drain, Queue.drain, front, List.filterMap_cons, Answer.taken?]
            using queue
        | cons e rest =>
          simpa [Trace.step, routed, answer, Slot.drain, Queue.drain, front, Answer.taken?] using queue
      · simpa [Trace.step, routed, answer, Slot.drain] using callbacks
    · obtain ⟨silent, untaken, same⟩ := answer_quiet routed drained
      refine ⟨?_, ?_, ?_⟩
      · simpa [Trace.step, routed, silent] using answered
      · simpa [Trace.step, routed, untaken, same] using queue
      · simpa [Trace.step, routed, same] using callbacks

theorem replay_routes_run (calls : List Call) : (replay calls).Routes := by
  induction calls using List.reverseRecOn with
  | nil => exact Trace.Routes.start
  | append_singleton calls call ih =>
    rw [replay_concat]
    exact ih.step call

/-- A step installs a sink of the mode it names and otherwise keeps the current sink. -/
theorem answer_mode (s : Slot) (call : Call) : (s.answer call).2.mode = call.installs.getD s.mode := by
  cases call with
  | deliver e => simp [answer, Slot.deliver, deliverWith_run, mode, Call.installs]
  | deliverHeld i e =>
    cases held : s.held[i]? <;> simp [answer, Slot.deliverHeld, held, deliverWith_run, mode, Call.installs]
  | drain => simp [answer, Slot.drain, mode, Call.installs]
  | _ => simp [answer, mode, Call.installs, hold, replaceQueue, replaceCallback, replaceUnregistered, Sink.mode]

/-- The slot's mode is that of the sink installed last, and the queue's before any is. -/
theorem replay_mode (calls : List Call) :
    (replay calls).slot.mode = ((calls.filterMap Call.installs).getLast?).getD .queue := by
  induction calls using List.reverseRecOn with
  | nil => rfl
  | append_singleton calls call ih =>
    rw [replay_concat, Trace.step, answer_mode, ih, List.filterMap_append]
    generalize calls.filterMap Call.installs = installed
    cases installs : call.installs <;> simp [installs]

/-- Taking the current sink keeps it after those taken before; nothing else changes what is kept. -/
theorem answer_held (s : Slot) (call : Call) :
    (s.answer call).2.held = if call = .hold then s.held ++ [s.current] else s.held := by
  cases call with
  | deliver e => simp [answer, Slot.deliver, deliverWith_run]
  | deliverHeld i e => cases held : s.held[i]? <;> simp [answer, Slot.deliverHeld, held, deliverWith_run]
  | hold => simp [answer, hold]
  | drain => simp [answer, Slot.drain]
  | _ => simp [answer, replaceQueue, replaceCallback, replaceUnregistered]

/-- What is kept only grows, at its end. -/
theorem replay_held_append (calls more : List Call) :
    (replay calls).slot.held <+: (replay (calls ++ more)).slot.held := by
  induction more using List.reverseRecOn with
  | nil => simp
  | append_singleton more call ih =>
    rw [← List.append_assoc, replay_concat, Trace.step, answer_held]
    split
    · exact ih.trans (List.prefix_append _ _)
    · exact ih

theorem replay_held_length (calls : List Call) : (replay calls).slot.held.length = calls.count .hold := by
  induction calls using List.reverseRecOn with
  | nil => rfl
  | append_singleton calls call ih =>
    rw [replay_concat, Trace.step, answer_held, List.count_append]
    by_cases taken : call = .hold <;> simp [taken, ih]

/-- A sink taken out of the slot stays kept at the place of its taking, whatever is installed or
taken after it. -/
theorem replay_held (pre post : List Call) :
    (replay (pre ++ .hold :: post)).slot.held[pre.count .hold]? = some (replay pre).slot.current := by
  have kept : (replay (pre ++ [.hold])).slot.held = (replay pre).slot.held ++ [(replay pre).slot.current] := by
    simp [replay_concat, Trace.step, answer_held]
  obtain ⟨later, grown⟩ := replay_held_append (pre ++ [.hold]) post
  rw [List.append_assoc, List.singleton_append] at grown
  have place : (replay pre).slot.held.length = pre.count .hold := replay_held_length pre
  rw [← grown, kept, List.append_assoc, List.getElem?_append_right (Nat.le_of_eq place), place, Nat.sub_self,
    List.singleton_append, List.getElem?_cons_zero]

/-- Any sequence of steps on a slot that starts with a queue sink over an empty queue routes
every envelope where its sink sends it. A delivery answers whether its sink took it (a queue
sink or a registered callback does, a callback sink with no callback does not) and the sink's
mode. The envelopes the drains handed out, followed by the queue, are exactly those delivered
through any queue sink (current or kept), in delivery order. The callbacks received exactly what
was delivered through them, each with its number, in order, and what went to a callback sink with
no callback is nowhere. The slot's mode is that of the sink installed last. Each sink kept
stays kept, in the order of taking, and delivers through itself, the sink current when it was
taken, whatever is installed or taken after it. -/
theorem replay_routes_deliveries (calls : List Call) :
    let t := replay calls
    t.answers.filterMap Answer.delivery? = t.routed.map (fun d => (d.1.accepts, d.1.mode)) ∧
      t.answers.filterMap Answer.taken? ++ t.slot.outbox.queue.pending = queuedBy t.routed ∧
      t.slot.outbox.received = calledBy t.routed ∧
      t.slot.mode = ((calls.filterMap Call.installs).getLast?).getD .queue ∧
      ∀ pre post, calls = pre ++ .hold :: post →
        ∀ e, t.slot.receiver (.deliverHeld (pre.count .hold) e) = some ((replay pre).slot.current, e) := by
  intro t
  obtain ⟨answered, queue, callbacks⟩ := replay_routes_run calls
  refine ⟨answered, queue, callbacks, replay_mode calls, ?_⟩
  intro pre post split e
  have kept : t.slot.held[pre.count .hold]? = some (replay pre).slot.current := by
    simp only [t, split]
    exact replay_held pre post
  simp [receiver, kept]

/-- A callback is installed and kept, then a queue sink installed and kept as well: the first sink
kept still hands what it is given to that callback. -/
theorem replay_routes_kept_callback :
    ([.replaceCallback, .hold, .replaceQueue, .hold, .deliver ⟨[1], ⟨0, "GreenButton", "A-1"⟩⟩] : List Call) =
        [.replaceCallback] ++ .hold :: [.replaceQueue, .hold, .deliver ⟨[1], ⟨0, "GreenButton", "A-1"⟩⟩] ∧
      (replay [.replaceCallback, .hold, .replaceQueue, .hold, .deliver ⟨[1], ⟨0, "GreenButton", "A-1"⟩⟩]).slot.receiver
          (.deliverHeld 0 ⟨[2], ⟨0, "GreenButton", "A-1"⟩⟩) =
        some ((replay [.replaceCallback]).slot.current, ⟨[2], ⟨0, "GreenButton", "A-1"⟩⟩) :=
  ⟨rfl, (replay_routes_deliveries [.replaceCallback, .hold, .replaceQueue, .hold,
    .deliver ⟨[1], ⟨0, "GreenButton", "A-1"⟩⟩]).2.2.2.2 [.replaceCallback]
    [.replaceQueue, .hold, .deliver ⟨[1], ⟨0, "GreenButton", "A-1"⟩⟩] rfl _⟩

example :
    (replay [.hold, .replaceCallback, .hold, .deliverHeld 0 ⟨[1], ⟨0, "GreenButton", "A-1"⟩⟩,
      .deliverHeld 1 ⟨[2], ⟨0, "GreenButton", "A-1"⟩⟩, .replaceUnregistered,
      .deliver ⟨[3], ⟨0, "GreenButton", "A-1"⟩⟩]).slot.outbox =
      ⟨⟨[⟨[1], ⟨0, "GreenButton", "A-1"⟩⟩]⟩, [(1, ⟨[2], ⟨0, "GreenButton", "A-1"⟩⟩)]⟩ := by
  decide

end Slot

end ButtonRelay
