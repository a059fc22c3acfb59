import Mathlib
import ButtonRelay.Cli.Bridge
import ButtonRelay.Proofs.Interleaving
import ButtonRelay.Proofs.Slot

namespace ButtonRelay.Interleaving

/-- The producer never takes from the queue: what was queued stays, with what it delivers after. -/
theorem State.produce_queue (s : State) :
    ∃ more, s.produce.1.module.plant.outbox.queue.pending = s.module.plant.outbox.queue.pending ++ more := by
  obtain ⟨m, emit⟩ := s
  rcases emit with _ | devices | ⟨sink, _ | ⟨d, rest⟩⟩ | _ | _
  · exact ⟨[], by simp [State.produce]⟩
  · exact ⟨[], by simp [State.produce]⟩
  · exact ⟨[], by simp [State.produce]⟩
  · by_cases panics : sink.panics
    · exact ⟨[], by simp [State.produce, panics]⟩
    · exact ⟨sink.toQueue (pressFor d), by simp [State.produce, panics, Sink.deliver_run, Outbox.receive_pending]⟩
  · exact ⟨[], by simp [State.produce]⟩
  · exact ⟨[], by simp [State.produce]⟩

end ButtonRelay.Interleaving

namespace ButtonRelay.Cli

/-- The polling thread beside the producer: the module with the producer's place in its trigger,
the polling loop, and the calls the loop made so far. -/
structure Polling where
  state : Interleaving.State
  poller : Poller
  calls : List PollCall

/-- Which thread moves next. -/
inductive PollTurn where
  | producer
  | poller

namespace Polling

/-- The loop starts at its top with nothing answered, wherever the producer stands. -/
def start (s : Interleaving.State) : Polling := ⟨s, ⟨0, .waiting⟩, []⟩

/-- One move of the thread whose turn it is. -/
def step (device : Device) (r : Polling) : PollTurn → Polling
  | .producer => { r with state := r.state.produce.1 }
  | .poller =>
    let next := r.poller.step device r.state.module
    ⟨{ r.state with module := next.1.2 }, next.1.1, r.calls ++ next.2⟩

/-- The moves in order. -/
def run (device : Device) (r : Polling) : List PollTurn → Polling
  | [] => r
  | turn :: more => (r.step device turn).run device more

end Polling

/-- A round of the polling loop: a wait that timed out, or a ready wait and the commands taken
then, each with how many were left, until a take found the queue empty. -/
inductive Round where
  | timedOut
  | drained (taken : List (Envelope × Nat))

/-- The commands a round took. -/
def Round.commands : Round → List (Envelope × Nat)
  | .timedOut => []
  | .drained taken => taken

/-- What the loop calls for one command taken: the take, the command's acknowledgement, and a
pressed status for the device. -/
def answering (device : Device) (taken : Envelope × Nat) : List PollCall :=
  [.take taken.1 taken.2, .ack taken.1.payload, .status (Status.encode ⟨true⟩) device]

/-- The error report sent when a round ends with `count` commands answered: one carrying the
count, when it is a positive multiple of ten. -/
def reportAt (device : Device) (count : Nat) : List PollCall :=
  if 0 < count ∧ count % 10 = 0 then [.errorReport (ErrorReport.encode ⟨count.toUInt32⟩) device] else []

/-- The calls of a round after `count` commands answered. -/
def Round.calls (device : Device) (count : Nat) : Round → List PollCall
  | .timedOut => [.wait .timedOut]
  | .drained taken =>
    .wait .ready :: taken.flatMap (answering device) ++ .empty :: reportAt device (count + taken.length)

/-- The calls of rounds in order, after `count` commands answered. -/
def roundCalls (device : Device) (count : Nat) : List Round → List PollCall
  | [] => []
  | r :: more => r.calls device count ++ roundCalls device (count + r.commands.length) more

/-- The counts at which the rounds that found commands end. -/
def roundEnds (count : Nat) : List Round → List Nat
  | [] => []
  | .timedOut :: more => roundEnds count more
  | .drained taken :: more => (count + taken.length) :: roundEnds (count + taken.length) more

/-- The calls of the round under way, by where the loop stands: none at the top of the loop; the
ready wait and the commands taken so far; or those and the take that found the queue empty. -/
def begun (device : Device) : PollPhase → List (Envelope × Nat) → List PollCall
  | .waiting, _ => []
  | .taking, taken => .wait .ready :: taken.flatMap (answering device)
  | .checking, taken => .wait .ready :: taken.flatMap (answering device) ++ [.empty]

/-- The round under way: none at the top of the loop; while taking, a command still queued if
none was taken yet; at the check, at least one command taken. -/
inductive Underway (queued : Prop) : PollPhase → List (Envelope × Nat) → Prop
  | waiting : Underway queued .waiting []
  | first : queued → Underway queued .taking []
  | taking {taken : List (Envelope × Nat)} : taken ≠ [] → Underway queued .taking taken
  | checking {taken : List (Envelope × Nat)} : taken ≠ [] → Underway queued .checking taken

theorem Underway.mono {queued more : Prop} {phase : PollPhase} {taken : List (Envelope × Nat)}
    (underway : Underway queued phase taken) (implies : queued → more) : Underway more phase taken := by
  cases underway with
  | waiting => exact .waiting
  | first q => exact .first (implies q)
  | taking nonempty => exact .taking nonempty
  | checking nonempty => exact .checking nonempty

theorem roundCalls_append (device : Device) (count : Nat) (rounds : List Round) (last : Round) :
    roundCalls device count (rounds ++ [last]) =
      roundCalls device count rounds ++ last.calls device (count + (rounds.flatMap Round.commands).length) := by
  induction rounds generalizing count with
  | nil => simp [roundCalls]
  | cons r more ih => simp [roundCalls, ih, Nat.add_assoc]

section Steps

variable {device : Device} {p : Poller} {m : Module}

theorem Poller.step_ready (top : p.phase = .waiting) (queued : m.plant.outbox.queue.pending ≠ []) :
    p.step device m = ((⟨p.count, .taking⟩, m), [.wait .ready]) := by
  simp [Poller.step, top, Queue.waitNow, queued]

theorem Poller.step_timedOut (top : p.phase = .waiting) (empty : m.plant.outbox.queue.pending = []) :
    p.step device m = ((p, m), [.wait .timedOut]) := by
  simp [Poller.step, top, Queue.waitNow, empty]

theorem Poller.step_take {e : Envelope} {rest : List Envelope} (top : p.phase = .taking)
    (queue : m.plant.outbox.queue.pending = e :: rest) :
    p.step device m = ((⟨p.count + 1, .taking⟩,
      m.withPlant { m.plant with outbox := { m.plant.outbox with queue := ⟨rest⟩ } }),
      answering device (e, rest.length)) := by
  simp [Poller.step, top, Module.getCommand, Queue.drain, queue, answering]

theorem Poller.step_empty (top : p.phase = .taking) (empty : m.plant.outbox.queue.pending = []) :
    p.step device m = ((⟨p.count, .checking⟩, m), [.empty]) := by
  simp [Poller.step, top, Module.getCommand, Queue.drain, empty]

theorem Poller.step_check (top : p.phase = .checking) :
    p.step device m = ((⟨p.count, .waiting⟩, m), reportAt device p.count) := by
  simp [Poller.step, top, reportAt]

end Steps

theorem Polling.run_append (device : Device) (r : Polling) (first next : List PollTurn) :
    r.run device (first ++ next) = (r.run device first).run device next := by
  induction first generalizing r with
  | nil => rfl
  | cons turn more ih => exact ih (r.step device turn)

/-- The bridge's answering of the queued commands is the loop taking them while the producer is
quiet: it ends at the check with the same count and module. -/
theorem answerAll_taking (device : Device) (emit : Interleaving.Emit) :
    ∀ (n count : Nat) (m : Module) (calls : List PollCall) (log : List Event), m.pending = n →
      let r := (Polling.mk ⟨m, emit⟩ ⟨count, .taking⟩ calls).run device (List.replicate (n + 1) .poller)
      ((answerAll device count n m).run log).1 = (r.poller.count, r.state.module) ∧
        r.poller.phase = .checking := by
  intro n
  induction n with
  | zero =>
    intro count m calls log pending
    have empty : m.plant.outbox.queue.pending = [] := List.length_eq_zero_iff.mp pending
    simp [answerAll, Polling.run, Polling.step, Poller.step_empty (p := ⟨count, .taking⟩) rfl empty]
  | succ n ih =>
    intro count m calls log pending
    obtain ⟨e, rest, queue⟩ := List.exists_cons_of_length_eq_add_one pending
    have left : rest.length = n := by simpa [Module.pending, queue] using pending
    have taken : m.getCommand = .ok ((e, n), m.withPlant { m.plant with outbox :=
        { m.plant.outbox with queue := ⟨rest⟩ } }) := by
      simp [Module.getCommand, Queue.drain, queue, left]
    rw [List.replicate_succ, answerAll, taken]
    simp only [Polling.run, Polling.step, Poller.step_take (p := ⟨count, .taking⟩) rfl queue]
    exact ih (count + 1) _ _ _ (by simpa [Module.pending] using left)

/-- One poll of the bridge is one round of the loop while the producer is quiet: a wait that
times out when nothing is queued, else a wait, the takes of every command queued, the take that
finds the queue empty and the check. -/
theorem poll_round (device : Device) (emit : Interleaving.Emit) (count : Nat) (m : Module)
    (calls : List PollCall) (log : List Event) :
    let r := (Polling.mk ⟨m, emit⟩ ⟨count, .waiting⟩ calls).run device
      (List.replicate (if m.pending = 0 then 1 else m.pending + 3) .poller)
    ((poll device count m).run log).1 = (r.poller.count, r.state.module) ∧ r.poller.phase = .waiting := by
  intro r
  -- the error report only logs: what the poll answers is what answering the commands does
  have answered : ((poll device count m).run log).1 = ((answerAll device count m.pending m).run log).1 := by
    rw [poll, Logged.bind_fst]
    obtain ⟨⟨count', m'⟩, log'⟩ := (answerAll device count m.pending m).run log
    dsimp only
    split <;> rfl
  by_cases quiet : m.pending = 0
  · have empty : m.plant.outbox.queue.pending = [] := List.length_eq_zero_iff.mp quiet
    simp [r, answered, quiet, answerAll, Polling.run, Polling.step,
      Poller.step_timedOut (p := ⟨count, .waiting⟩) rfl empty]
  · have queued : m.plant.outbox.queue.pending ≠ [] := fun empty => quiet (by simp [Module.pending, empty])
    have turns : List.replicate (m.pending + 3) PollTurn.poller =
        [.poller] ++ List.replicate (m.pending + 1) .poller ++ [.poller] := by
      rw [show m.pending + 3 = 1 + (m.pending + 1) + 1 by omega, List.replicate_add, List.replicate_add]
      rfl
    obtain ⟨same, checking⟩ := answerAll_taking device emit m.pending count m (calls ++ [.wait .ready]) log rfl
    simp only [r, quiet, if_false, turns, Polling.run_append]
    simp only [Polling.run, Polling.step, Poller.step_ready (p := ⟨count, .waiting⟩) rfl queued]
      at same checking ⊢
    simp [answered, same, Poller.step_check checking]

/-- What the loop called so far is whole rounds, each that waited ready having taken a command,
and then the round under way; the count is what all of them took. -/
structure Traced (device : Device) (r : Polling) : Prop where
  split : ∃ (rounds : List Round) (taken : List (Envelope × Nat)),
    r.calls = roundCalls device 0 rounds ++ begun device r.poller.phase taken ∧
    (∀ round ∈ rounds, round.commands ≠ [] ∨ round = .timedOut) ∧
    r.poller.count = (rounds.flatMap Round.commands).length + taken.length ∧
    Underway (r.state.module.plant.outbox.queue.pending ≠ []) r.poller.phase taken

theorem Traced.start (device : Device) (s : Interleaving.State) : Traced device (Polling.start s) :=
  ⟨[], [], by simp [Polling.start, roundCalls, begun], by simp, by simp [Polling.start], .waiting⟩

theorem Traced.producer {device : Device} {r : Polling} (traced : Traced device r) :
    Traced device (r.step device .producer) := by
  obtain ⟨rounds, taken, calls, whole, count, underway⟩ := traced.split
  obtain ⟨more, grown⟩ := Interleaving.State.produce_queue r.state
  refine ⟨rounds, taken, calls, whole, count, underway.mono fun queued => ?_⟩
  simp only [Polling.step, grown]
  exact fun empty => queued (List.append_eq_nil_iff.mp empty).1

/-- A wait that finds a command begins a round; one that times out is a round of its own. -/
theorem Traced.waiting {device : Device} {r : Polling} (traced : Traced device r)
    (top : r.poller.phase = .waiting) : Traced device (r.step device .poller) := by
  obtain ⟨rounds, taken, calls, whole, count, underway⟩ := traced.split
  rw [top] at underway
  cases underway
  by_cases queued : r.state.module.plant.outbox.queue.pending = []
  · refine ⟨rounds ++ [.timedOut], [], ?_, ?_, ?_, ?_⟩
    · simp [Polling.step, Poller.step_timedOut top queued, calls, top, begun, roundCalls_append, Round.calls]
    · intro round member
      rcases List.mem_append.mp member with earlier | last
      · exact whole round earlier
      · exact .inr (List.mem_singleton.mp last)
    · simpa [Polling.step, Poller.step_timedOut top queued, Round.commands] using count
    · simpa [Polling.step, Poller.step_timedOut top queued, top] using Underway.waiting
  · refine ⟨rounds, [], ?_, whole, ?_, ?_⟩
    · simp [Polling.step, Poller.step_ready top queued, calls, top, begun]
    · simpa [Polling.step, Poller.step_ready top queued] using count
    · simpa [Polling.step, Poller.step_ready top queued] using Underway.first queued

/-- Each take answers a command, until one finds the queue empty; a round that waited ready took
one first, since only the polling loop takes from the queue. -/
theorem Traced.taking {device : Device} {r : Polling} (traced : Traced device r)
    (top : r.poller.phase = .taking) : Traced device (r.step device .poller) := by
  obtain ⟨rounds, taken, calls, whole, count, underway⟩ := traced.split
  rw [top] at underway
  cases queue : r.state.module.plant.outbox.queue.pending with
  | nil =>
    have nonempty : taken ≠ [] := by
      cases underway with
      | first queued => exact absurd queue queued
      | taking nonempty => exact nonempty
    refine ⟨rounds, taken, ?_, whole, ?_, ?_⟩
    · simp [Polling.step, Poller.step_empty top queue, calls, top, begun]
    · simpa [Polling.step, Poller.step_empty top queue] using count
    · simpa [Polling.step, Poller.step_empty top queue] using @Underway.checking _ taken nonempty
  | cons e rest =>
    refine ⟨rounds, taken ++ [(e, rest.length)], ?_, whole, ?_, ?_⟩
    · simp [Polling.step, Poller.step_take top queue, calls, top, begun]
    · simp [Polling.step, Poller.step_take top queue, count, Nat.add_assoc]
    · simpa [Polling.step, Poller.step_take top queue]
        using @Underway.taking _ (taken ++ [(e, rest.length)]) (by simp)

/-- The check ends the round, with the error report due at its count. -/
theorem Traced.checking {device : Device} {r : Polling} (traced : Traced device r)
    (top : r.poller.phase = .checking) : Traced device (r.step device .poller) := by
  obtain ⟨rounds, taken, calls, whole, count, underway⟩ := traced.split
  rw [top] at underway
  cases underway with
  | checking nonempty =>
    have ends : 0 + (rounds.flatMap Round.commands).length + taken.length = r.poller.count := by omega
    refine ⟨rounds ++ [.drained taken], [], ?_, ?_, ?_, ?_⟩
    · simp only [Polling.step, Poller.step_check top, calls, top, begun, roundCalls_append, Round.calls, ends]
      simp
    · intro round member
      rcases List.mem_append.mp member with earlier | last
      · exact whole round earlier
      · exact .inl (by simpa [List.mem_singleton.mp last, Round.commands] using nonempty)
    · simp [Polling.step, Poller.step_check top, count, Round.commands]
    · simpa [Polling.step, Poller.step_check top] using Underway.waiting

theorem Traced.step {device : Device} {r : Polling} (traced : Traced device r) (turn : PollTurn) :
    Traced device (r.step device turn) := by
  cases turn with
  | producer => exact traced.producer
  | poller =>
    cases top : r.poller.phase with
    | waiting => exact traced.waiting top
    | taking => exact traced.taking top
    | checking => exact traced.checking top

theorem Traced.run {device : Device} {r : Polling} (traced : Traced device r) (schedule : List PollTurn) :
    Traced device (r.run device schedule) := by
  induction schedule generalizing r with
  | nil => exact traced
  | cons turn more ih => exact ih (traced.step turn)

/-- The command a call took, if it took one. -/
def PollCall.taken : PollCall → Option Envelope
  | .take e _ => some e
  | .wait _ | .empty | .ack _ | .status _ _ | .errorReport _ _ => none

/-- The payload a call acknowledged, if it was an acknowledgement. -/
def PollCall.acked : PollCall → Option (List UInt8)
  | .ack payload => some payload
  | .wait _ | .take _ _ | .empty | .status _ _ | .errorReport _ _ => none

/-- The status a call forwarded, with its device, if it forwarded one. -/
def PollCall.statusSent : PollCall → Option (List UInt8 × Device)
  | .status payload d => some (payload, d)
  | .wait _ | .take _ _ | .empty | .ack _ | .errorReport _ _ => none

/-- The error report a call forwarded, with its device, if it forwarded one. -/
def PollCall.reported : PollCall → Option (List UInt8 × Device)
  | .errorReport payload d => some (payload, d)
  | .wait _ | .take _ _ | .empty | .ack _ | .status _ _ => none

/-- A view of the calls that sees none of the waits, the empty takes and the error reports: what
it sees is in the answers to the commands taken. -/
structure Answers {β : Type} (view : PollCall → Option β) : Prop where
  wait : ∀ outcome, view (.wait outcome) = none
  empty : view .empty = none
  report : ∀ payload d, view (.errorReport payload d) = none

theorem reportAt_view {β : Type} {view : PollCall → Option β} (answers : Answers view)
    (device : Device) (count : Nat) : (reportAt device count).filterMap view = [] := by
  unfold reportAt
  split <;> simp [answers.report]

theorem roundCalls_view {β : Type} {view : PollCall → Option β} (answers : Answers view)
    (device : Device) (count : Nat) (rounds : List Round) :
    (roundCalls device count rounds).filterMap view =
      ((rounds.flatMap Round.commands).flatMap (answering device)).filterMap view := by
  induction rounds generalizing count with
  | nil => simp [roundCalls]
  | cons r more ih =>
    cases r with
    | timedOut => simp [roundCalls, Round.calls, Round.commands, answers.wait, ih]
    | drained taken =>
      simp [roundCalls, Round.calls, Round.commands, answers.wait, answers.empty, reportAt_view answers, ih]

theorem begun_view {β : Type} {view : PollCall → Option β} (answers : Answers view) (device : Device)
    {queued : Prop} {phase : PollPhase} {taken : List (Envelope × Nat)}
    (underway : Underway queued phase taken) :
    (begun device phase taken).filterMap view = (taken.flatMap (answering device)).filterMap view := by
  cases underway <;> simp [begun, answers.wait, answers.empty]

/-- A view that sees one thing in the answer to each command sees those things in order. -/
theorem answering_view {β : Type} (view : PollCall → Option β) (pick : Envelope × Nat → β) (device : Device)
    (once : ∀ c, (answering device c).filterMap view = [pick c]) (commands : List (Envelope × Nat)) :
    (commands.flatMap (answering device)).filterMap view = commands.map pick := by
  induction commands with
  | nil => rfl
  | cons c more ih =>
    rw [List.flatMap_cons, List.filterMap_append, once, ih, List.map_cons, List.singleton_append]

theorem answering_reported (device : Device) (commands : List (Envelope × Nat)) :
    (commands.flatMap (answering device)).filterMap PollCall.reported = [] := by
  simp [List.filterMap_flatMap, answering, PollCall.reported, List.filterMap_cons]

theorem reportAt_reported (device : Device) (count : Nat) :
    (reportAt device count).filterMap PollCall.reported =
      ([count].filter fun c => 0 < c ∧ c % 10 = 0).map
        fun c => (ErrorReport.encode ⟨c.toUInt32⟩, device) := by
  by_cases due : 0 < count ∧ count % 10 = 0 <;> simp [reportAt, due, PollCall.reported]

theorem begun_reported (device : Device) (phase : PollPhase) (taken : List (Envelope × Nat)) :
    (begun device phase taken).filterMap PollCall.reported = [] := by
  cases phase <;> simp [begun, answering_reported, PollCall.reported, List.filterMap_cons]

/-- The error reports of whole rounds: one for each round that ends at a positive multiple of ten,
carrying the count it ends at. -/
theorem roundCalls_reported (device : Device) (count : Nat) (rounds : List Round) :
    (roundCalls device count rounds).filterMap PollCall.reported =
      ((roundEnds count rounds).filter fun c => 0 < c ∧ c % 10 = 0).map
        fun c => (ErrorReport.encode ⟨c.toUInt32⟩, device) := by
  induction rounds generalizing count with
  | nil => simp [roundCalls, roundEnds]
  | cons r more ih =>
    cases r with
    | timedOut =>
      simp [roundCalls, roundEnds, Round.calls, Round.commands, PollCall.reported, List.filterMap_cons, ih]
    | drained taken =>
      have ends : roundEnds count (.drained taken :: more) =
          [count + taken.length] ++ roundEnds (count + taken.length) more := rfl
      rw [ends, List.filter_append, List.map_append, ← reportAt_reported, ← ih]
      simp [roundCalls, Round.calls, Round.commands, PollCall.reported, List.filterMap_cons, answering_reported]

/-- Rounds that each took a command end at counts that only grow. -/
theorem roundEnds_increasing (count : Nat) {rounds : List Round}
    (whole : ∀ round ∈ rounds, round.commands ≠ [] ∨ round = .timedOut) :
    (roundEnds count rounds).Pairwise (· < ·) ∧ ∀ c ∈ roundEnds count rounds, count < c := by
  induction rounds generalizing count with
  | nil => simp [roundEnds]
  | cons r more ih =>
    have later := fun c => ih c fun round member => whole round (List.mem_cons_of_mem r member)
    cases r with
    | timedOut => simpa [roundEnds] using later count
    | drained taken =>
      have nonempty : taken ≠ [] := by simpa [Round.commands] using whole _ List.mem_cons_self
      have grows : count < count + taken.length := by
        have := List.length_pos_of_ne_nil nonempty
        omega
      obtain ⟨increasing, above⟩ := later (count + taken.length)
      refine ⟨List.pairwise_cons.mpr ⟨above, increasing⟩, ?_⟩
      intro c member
      rcases List.mem_cons.mp member with rfl | deeper
      · exact grows
      · exact grows.trans (above c deeper)

/-- However the producer's steps fall between the polling loop's, the loop's calls are whole rounds
and then the round under way. A round is a wait that timed out, or a ready wait, then each
command taken with its acknowledgement and a pressed status for the device, then the take that
found the queue empty, and an error report carrying the count when the round ends at a positive
multiple of ten. The rounds end at growing counts, so a count is reported at most once, and only
when a round ends there. Every command taken is acknowledged once and answered once, and the loop's
count is the number of commands taken. -/
theorem polling_answers_by_rounds (device : Device) (s : Interleaving.State) (schedule : List PollTurn) :
    let r := (Polling.start s).run device schedule
    (∃ (rounds : List Round) (taken : List (Envelope × Nat)),
      r.calls = roundCalls device 0 rounds ++ begun device r.poller.phase taken ∧
      (roundEnds 0 rounds).Pairwise (· < ·) ∧
      r.calls.filterMap PollCall.reported =
        ((roundEnds 0 rounds).filter fun c => 0 < c ∧ c % 10 = 0).map
          fun c => (ErrorReport.encode ⟨c.toUInt32⟩, device)) ∧
    r.calls.filterMap PollCall.acked = (r.calls.filterMap PollCall.taken).map Envelope.payload ∧
    r.calls.filterMap PollCall.statusSent =
      (r.calls.filterMap PollCall.taken).map (fun _ => (Status.encode ⟨true⟩, device)) ∧
    r.poller.count = (r.calls.filterMap PollCall.taken).length := by
  intro r
  obtain ⟨rounds, taken, calls, whole, count, underway⟩ := ((Traced.start device s).run schedule).split
  -- Takes, acknowledgements and statuses all sit in the answers to the commands taken.
  have viewed {β : Type} (view : PollCall → Option β) (pick : Envelope × Nat → β) (answers : Answers view)
      (once : ∀ c, (answering device c).filterMap view = [pick c]) :
      r.calls.filterMap view = (rounds.flatMap Round.commands ++ taken).map pick := by
    rw [calls, List.filterMap_append, roundCalls_view answers, begun_view answers device underway,
      ← List.filterMap_append, ← List.flatMap_append, answering_view view pick device once]
  have takes := viewed PollCall.taken Prod.fst ⟨fun _ => rfl, rfl, fun _ _ => rfl⟩ fun _ => rfl
  have acks := viewed PollCall.acked (·.1.payload) ⟨fun _ => rfl, rfl, fun _ _ => rfl⟩ fun _ => rfl
  have statuses := viewed PollCall.statusSent (fun _ => (Status.encode ⟨true⟩, device))
    ⟨fun _ => rfl, rfl, fun _ _ => rfl⟩ fun _ => rfl
  refine ⟨⟨rounds, taken, calls, (roundEnds_increasing 0 whole).1, ?_⟩, ?_, ?_, ?_⟩
  · rw [calls, List.filterMap_append, roundCalls_reported, begun_reported, List.append_nil]
  · rw [acks, takes, List.map_map]
    rfl
  · rw [statuses, takes, List.map_map]
    rfl
  · rw [takes, List.length_map, List.length_append]
    exact count

/-- Nine presses are answered in one round and two in the next: the count passes ten without a
round ending there, and no error report is sent, though eleven presses were answered. -/
theorem polling_skips_ten_across_rounds :
    let button : Device := ⟨0, "GreenButton", "A-1"⟩
    let m := Module.fresh ⟨'x', .queue⟩ "Console"
    let r := (Polling.start ⟨m.withPlant { m.plant with registry := ⟨[button]⟩ }, .idle⟩).run button
      (List.replicate 36 .producer ++ List.replicate 12 .poller ++ List.replicate 8 .producer ++
        List.replicate 5 .poller)
    r.poller.count = 11 ∧ r.calls.filterMap PollCall.reported = [] := by
  decide +kernel

end ButtonRelay.Cli
