import ButtonRelay.Worker
import ButtonRelay.Proofs.Producer

namespace ButtonRelay

/-- What a sequenced computation logs, read off the first one's run. -/
theorem Logged.bind_snd {α β : Type} (x : Logged α) (f : α → Logged β) (log : List Event) :
    ((x >>= f).run log).2 = ((f (x.run log).1).run (x.run log).2).2 := rfl

/-- A state's place in the order `Running`, `Stopping`, `Terminated`. -/
def Lifecycle.rank : Lifecycle → Nat
  | .running => 0
  | .stopping => 1
  | .terminated => 2

theorem Lifecycle.rank_le_terminated (s : Lifecycle) : s.rank ≤ Lifecycle.terminated.rank := by
  cases s <;> decide

/-- The state a thread at a stage has published. A thread that panicked published nothing after
`Running`. -/
def Stage.lifecycle : Stage → Lifecycle
  | .listening | .idle | .panicked => .running
  | .stopping => .stopping
  | .finished => .terminated

theorem Move.quiet_cons {m : Move} {more : List Move} (unsignalled : .signal ∉ m :: more)
    (unstopped : .stop ∉ m :: more) : (m ≠ .signal ∧ m ≠ .stop) ∧ .signal ∉ more ∧ .stop ∉ more := by
  simp only [List.mem_cons, not_or] at unsignalled unstopped
  exact ⟨⟨Ne.symm unsignalled.1, Ne.symm unstopped.1⟩, unsignalled.2, unstopped.2⟩

namespace Worker

section
variable {σ : Type} (trigger : Char) (name : String) (next : σ → Logged (Input.Read × σ)) {w : Worker σ}

/-- The thread after it handled, in its loop, a read `r` with the source's next step. A read on
which a callback panics leaves the thread panicked and the plant as it was. -/
def took (w : Worker σ) (r : Input.Read × σ) : Worker σ :=
  if w.plant.crashesOn trigger r.1 then { w with source := r.2, stage := .panicked }
  else { w with source := r.2, plant := w.plant.after trigger r.1, stage := if r.1.ends then .idle else .listening }

@[simp] theorem took_stopSent (r : Input.Read × σ) : (w.took trigger r).stopSent = w.stopSent := by
  unfold took; split <;> rfl

@[simp] theorem took_joined (r : Input.Read × σ) : (w.took trigger r).joined = w.joined := by
  unfold took; split <;> rfl

@[simp] theorem took_state (r : Input.Read × σ) : (w.took trigger r).state = w.state := by
  unfold took; split <;> rfl

@[simp] theorem took_source (r : Input.Read × σ) : (w.took trigger r).source = r.2 := by
  unfold took; split <;> rfl

/-- After a read the thread is still in its loop, waiting for the signal, or panicked. -/
theorem took_stage (w : Worker σ) (r : Input.Read × σ) :
    (w.took trigger r).stage = .listening ∨ (w.took trigger r).stage = .idle ∨
      (w.took trigger r).stage = .panicked := by
  unfold took
  split
  · exact .inr (.inr rfl)
  · cases r.1.ends <;> simp

/-- A read that neither ends the source nor makes a callback panic leaves the thread in its loop,
with the plant after the read. -/
theorem took_calm (listening : w.stage = .listening) {r : Input.Read} (calm : w.plant.crashesOn trigger r = false)
    (stays : r.ends = false) (source : σ) :
    w.took trigger (r, source) = { w with source := source, plant := w.plant.after trigger r } := by
  obtain ⟨source', stage, state, stopSent, joined, plant⟩ := w
  simp only at listening
  subst listening
  simp [took, calm, stays]

theorem publish_run (stage : Stage) (state : Lifecycle) (log : List Event) :
    ((w.publish stage state).run log).1 = { w with stage := stage, state := state } := rfl

/-- One read: the source's next step, and the thread after it handled what it read. -/
theorem read_run (log : List Event) :
    ((w.read trigger name next).run log).1 =
      (((next w.source).run log).1.1, w.took trigger ((next w.source).run log).1) := by
  rcases first : (next w.source).run log with ⟨⟨r, source⟩, log'⟩
  simp only [read, Logged.bind_fst, first, Plant.take_run]
  by_cases crash : w.plant.crashesOn trigger r = true <;> simp [crash, took]

/-- In its loop and with no stop signal, the thread reads once and handles what it read. -/
theorem turn_reads (listening : w.stage = .listening) (running : w.stopSent = false) (log : List Event) :
    ((w.turn trigger name next).run log).1 = w.took trigger ((next w.source).run log).1 := by
  simp only [turn, listening, running, Bool.false_eq_true, if_false, Logged.bind_fst, read_run]
  rfl

/-- In its loop or waiting, the thread sees the stop signal once it is sent and publishes `Stopping`. -/
theorem turn_sees_stop (waiting : w.stage = .listening ∨ w.stage = .idle) (signalled : w.stopSent = true)
    (log : List Event) :
    ((w.turn trigger name next).run log).1 = { w with stage := .stopping, state := .stopping } := by
  rcases waiting with listening | idle
  · simp only [turn, listening, signalled, if_true, publish_run]
  · simp only [turn, idle, signalled, if_true, publish_run]

theorem turn_idle (idle : w.stage = .idle) (running : w.stopSent = false) (log : List Event) :
    ((w.turn trigger name next).run log).1 = w := by
  simp [turn, idle, running]

theorem turn_stopping (stopping : w.stage = .stopping) (log : List Event) :
    ((w.turn trigger name next).run log).1 = { w with stage := .finished, state := .terminated } := by
  simp only [turn, stopping, publish_run]

/-- A thread that ended, normally or by a panic, takes no more steps. -/
theorem turn_ended (ended : w.stage = .finished ∨ w.stage = .panicked) (log : List Event) :
    ((w.turn trigger name next).run log).1 = w := by
  rcases ended with finished | panicked
  · simp [turn, finished]
  · simp [turn, panicked]

/-- Everything a turn can do: read once in the loop, see the stop signal, end the thread, or
nothing at all while the thread waits with no signal or has ended. -/
theorem turn_cases (w : Worker σ) (log : List Event) :
    (w.stage = .listening ∧ w.stopSent = false ∧
      ((w.turn trigger name next).run log).1 = w.took trigger ((next w.source).run log).1) ∨
    ((w.stage = .listening ∨ w.stage = .idle) ∧ w.stopSent = true ∧
      ((w.turn trigger name next).run log).1 = { w with stage := .stopping, state := .stopping }) ∨
    (w.stage = .stopping ∧
      ((w.turn trigger name next).run log).1 = { w with stage := .finished, state := .terminated }) ∨
    ((w.stage = .idle ∧ w.stopSent = false ∨ w.stage = .finished ∨ w.stage = .panicked) ∧
      ((w.turn trigger name next).run log).1 = w) := by
  cases stage : w.stage with
  | listening =>
    rcases Bool.eq_false_or_eq_true w.stopSent with sent | sent
    · exact .inr (.inl ⟨.inl rfl, sent, turn_sees_stop trigger name next (.inl stage) sent log⟩)
    · exact .inl ⟨rfl, sent, turn_reads trigger name next stage sent log⟩
  | idle =>
    rcases Bool.eq_false_or_eq_true w.stopSent with sent | sent
    · exact .inr (.inl ⟨.inr rfl, sent, turn_sees_stop trigger name next (.inr stage) sent log⟩)
    · exact .inr (.inr (.inr ⟨.inl ⟨rfl, sent⟩, turn_idle trigger name next stage sent log⟩))
  | stopping => exact .inr (.inr (.inl ⟨rfl, turn_stopping trigger name next stage log⟩))
  | finished => exact .inr (.inr (.inr ⟨.inr (.inl rfl), turn_ended trigger name next (.inl stage) log⟩))
  | panicked => exact .inr (.inr (.inr ⟨.inr (.inr rfl), turn_ended trigger name next (.inr stage) log⟩))

/-- A turn never touches what the owner holds. -/
@[simp] theorem turn_stopSent (log : List Event) :
    ((w.turn trigger name next).run log).1.stopSent = w.stopSent := by
  rcases turn_cases trigger name next w log with ⟨-, -, moved⟩ | ⟨-, -, moved⟩ | ⟨-, moved⟩ | ⟨-, moved⟩ <;>
    simp [moved]

@[simp] theorem turn_joined (log : List Event) :
    ((w.turn trigger name next).run log).1.joined = w.joined := by
  rcases turn_cases trigger name next w log with ⟨-, -, moved⟩ | ⟨-, -, moved⟩ | ⟨-, moved⟩ | ⟨-, moved⟩ <;>
    simp [moved]

/-- Once the stop signal is sent a turn reads nothing: the source and the plant stay as they were. -/
theorem turn_signalled (sent : w.stopSent = true) (log : List Event) :
    ((w.turn trigger name next).run log).1.source = w.source ∧
      ((w.turn trigger name next).run log).1.plant = w.plant := by
  rcases turn_cases trigger name next w log with ⟨-, quiet, -⟩ | ⟨-, -, moved⟩ | ⟨-, moved⟩ | ⟨-, moved⟩
  · simp [sent] at quiet
  all_goals rw [moved]; exact ⟨rfl, rfl⟩

/-- Two turns after the stop signal a thread that did not panic has ended. -/
theorem turn_turn_finished (sent : w.stopSent = true) (alive : w.stage ≠ .panicked) (log log' : List Event) :
    ((((w.turn trigger name next).run log).1.turn trigger name next).run log').1.stage = .finished := by
  rcases turn_cases trigger name next w log with
    ⟨-, quiet, -⟩ | ⟨-, -, moved⟩ | ⟨-, moved⟩ | ⟨⟨-, quiet⟩ | finished | panicked, moved⟩
  · simp [sent] at quiet
  · rw [moved, turn_stopping trigger name next rfl]
  · rw [moved, turn_ended trigger name next (.inl rfl)]
  · simp [sent] at quiet
  · rw [moved, turn_ended trigger name next (.inl finished), finished]
  · exact absurd panicked alive

/-- A stop of a joined thread does nothing, succeeds and logs nothing. -/
theorem stop_joined (joined : w.joined = true) (log : List Event) :
    (w.stop trigger name next).run log = ((.ok (), w), log) := by
  simp only [stop, joined, if_true]
  rfl

/-- The join of a thread that panicked fails; the thread counts as joined. -/
theorem stop_panicked (waiting : w.joined = false) (panicked : w.stage = .panicked) (log : List Event) :
    ((w.stop trigger name next).run log).1 = (.error .producerFailed, { w.signal with joined := true }) := by
  simp only [stop, waiting, panicked, Bool.false_eq_true, if_false, if_true]
  rfl

/-- A stop of a thread not yet joined that did not panic: the signal, two turns, and the join. -/
theorem stop_run (waiting : w.joined = false) (alive : w.stage ≠ .panicked) (log : List Event) :
    ((w.stop trigger name next).run log).1 =
      (.ok (), { ((((w.signal.turn trigger name next).run log).1.turn trigger name next).run
          ((w.signal.turn trigger name next).run log).2).1 with joined := true }) := by
  simp only [stop, waiting, alive, Bool.false_eq_true, if_false]
  rfl

/-- The log of a stop of a thread not yet joined that did not panic: its two turns, then the stop. -/
theorem stop_log (waiting : w.joined = false) (alive : w.stage ≠ .panicked) (log : List Event) :
    ((w.stop trigger name next).run log).2 =
      ((((w.signal.turn trigger name next).run log).1.turn trigger name next).run
          ((w.signal.turn trigger name next).run log).2).2 ++ [⟨.info, .producer, .host, "Input producer stopped"⟩] := by
  simp only [stop, waiting, alive, Bool.false_eq_true, if_false]
  rfl

/-- The three ways a stop goes: a joined thread is left as it is; one that panicked is joined,
and the join fails; any other is signalled, turned twice and joined. -/
theorem stop_cases (w : Worker σ) (log : List Event) :
    (w.joined = true ∧ ((w.stop trigger name next).run log).1 = (.ok (), w)) ∨
    (w.joined = false ∧ w.stage = .panicked ∧
      ((w.stop trigger name next).run log).1 = (.error .producerFailed, { w.signal with joined := true })) ∨
    (w.joined = false ∧ w.stage ≠ .panicked ∧
      ((w.stop trigger name next).run log).1 =
        (.ok (), { ((((w.signal.turn trigger name next).run log).1.turn trigger name next).run
          ((w.signal.turn trigger name next).run log).2).1 with joined := true })) := by
  cases joined : w.joined with
  | true => exact .inl ⟨rfl, congrArg Prod.fst (stop_joined trigger name next joined log)⟩
  | false =>
    by_cases panicked : w.stage = .panicked
    · exact .inr (.inl ⟨rfl, panicked, stop_panicked trigger name next joined panicked log⟩)
    · exact .inr (.inr ⟨rfl, panicked, stop_run trigger name next joined panicked log⟩)

/-- A stop fails exactly when it joins a thread that panicked, and otherwise succeeds. -/
theorem stop_result (log : List Event) :
    ((w.stop trigger name next).run log).1.1 =
      if w.stage = .panicked ∧ w.joined = false then .error .producerFailed else .ok () := by
  rcases stop_cases trigger name next w log with
    ⟨joined, stopped⟩ | ⟨waiting, panicked, stopped⟩ | ⟨-, alive, stopped⟩
  · simp [stopped, joined]
  · simp [stopped, waiting, panicked]
  · simp [stopped, alive]

/-- After the signal, a turn logs on the thread's own thread only. -/
theorem turn_hostEvents (sent : w.stopSent = true) (log : List Event) :
    hostEvents ((w.turn trigger name next).run log).2 = hostEvents log := by
  cases stage : w.stage <;> simp [turn, stage, sent, publish, emit, hostEvents]

/-- What a stop logs on the owner's thread: nothing for a joined thread, the failed join of one
that panicked, and otherwise that it stopped. -/
theorem stop_hostEvents (log : List Event) :
    hostEvents ((w.stop trigger name next).run log).2 = hostEvents log ++
      if w.joined then []
      else if w.stage = .panicked then [⟨.error, .producer, .host, "Input producer thread panicked"⟩]
      else [⟨.info, .producer, .host, "Input producer stopped"⟩] := by
  cases joined : w.joined with
  | true => simp [stop_joined trigger name next joined]
  | false =>
    by_cases panicked : w.stage = .panicked
    · simp [stop, joined, panicked, emit, hostEvents]
    · have first := turn_hostEvents trigger name next (w := w.signal) rfl log
      have second := turn_hostEvents trigger name next
        (w := ((w.signal.turn trigger name next).run log).1) (by simp [Worker.signal])
        ((w.signal.turn trigger name next).run log).2
      simp only [hostEvents] at first second ⊢
      rw [stop_log trigger name next joined panicked, List.filter_append, second, first]
      simp [panicked]

/-- After a stop the thread is joined. -/
theorem stop_joins (log : List Event) : ((w.stop trigger name next).run log).1.2.joined = true := by
  rcases stop_cases trigger name next w log with ⟨joined, stopped⟩ | ⟨-, -, stopped⟩ | ⟨-, -, stopped⟩
  · rw [stopped]
    exact joined
  · rw [stopped]
  · rw [stopped]

/-- A stop reads nothing: the signal goes first, so neither of its turns reads. -/
theorem stop_keeps (log : List Event) :
    ((w.stop trigger name next).run log).1.2.source = w.source ∧
      ((w.stop trigger name next).run log).1.2.plant = w.plant := by
  rcases stop_cases trigger name next w log with ⟨-, stopped⟩ | ⟨-, -, stopped⟩ | ⟨-, -, stopped⟩ <;>
    rw [stopped]
  · exact ⟨rfl, rfl⟩
  · exact ⟨rfl, rfl⟩
  · obtain ⟨source, plant⟩ := turn_signalled trigger name next (w := w.signal) rfl log
    obtain ⟨source', plant'⟩ := turn_signalled trigger name next
      (w := ((w.signal.turn trigger name next).run log).1) (by simp [Worker.signal])
      ((w.signal.turn trigger name next).run log).2
    exact ⟨source'.trans source, plant'.trans plant⟩

end

/-- What holds of the thread at every point of its life: the state it published is its stage's,
it leaves its loop only on the stop signal, and a joined thread has ended, normally or by a
panic. -/
structure Consistent {σ : Type} (w : Worker σ) : Prop where
  published : w.state = w.stage.lifecycle
  signalled : w.stage = .stopping ∨ w.stage = .finished → w.stopSent = true
  ended : w.joined = true → w.stage = .finished ∨ w.stage = .panicked

section
variable {σ : Type} (trigger : Char) (name : String) (next : σ → Logged (Input.Read × σ)) {w : Worker σ}

theorem Consistent.spawn (source : σ) (plant : Plant) : (spawn source plant).Consistent :=
  ⟨rfl, by simp [Worker.spawn], by simp [Worker.spawn]⟩

/-- Consistency reads only the thread's stage, its published state, the signal and the join. -/
theorem Consistent.withSource (c : w.Consistent) (source : σ) : ({ w with source := source }).Consistent :=
  ⟨c.published, c.signalled, c.ended⟩

theorem Consistent.withPlant (c : w.Consistent) (plant : Plant) : ({ w with plant := plant }).Consistent :=
  ⟨c.published, c.signalled, c.ended⟩

/-- Before the stop signal the thread is `Running`, whatever it has read. -/
theorem Consistent.running (c : w.Consistent) (quiet : w.stopSent = false) : w.state = .running := by
  rw [c.published]
  cases stage : w.stage with
  | listening | idle | panicked => rfl
  | stopping | finished =>
    have sent := c.signalled (by simp [stage])
    simp [quiet] at sent

theorem Consistent.unjoined (c : w.Consistent) (waiting : w.stage = .listening ∨ w.stage = .idle) :
    w.joined = false := by
  cases joined : w.joined with
  | false => rfl
  | true => rcases waiting with s | s <;> rcases c.ended joined with e | e <;> simp [s] at e

/-- A read keeps the thread in its loop, sends it waiting or leaves it panicked: all `Running`. -/
theorem Consistent.took (c : w.Consistent) (listening : w.stage = .listening) (r : Input.Read × σ) :
    (w.took trigger r).Consistent := by
  have unjoined := c.unjoined (.inl listening)
  have running : w.state = .running := by rw [c.published, listening]; rfl
  rcases took_stage trigger w r with s | s | s <;>
    exact ⟨by simp [s, running, Stage.lifecycle], by simp [s], by simp [unjoined]⟩

theorem Consistent.turn (c : w.Consistent) (log : List Event) :
    ((w.turn trigger name next).run log).1.Consistent := by
  rcases turn_cases trigger name next w log with
    ⟨listening, -, moved⟩ | ⟨waiting, sent, moved⟩ | ⟨stopping, moved⟩ | ⟨-, moved⟩ <;> rw [moved]
  · exact c.took trigger listening _
  · exact ⟨rfl, fun _ => sent, by simp [c.unjoined waiting]⟩
  · exact ⟨rfl, fun _ => c.signalled (.inl stopping), fun _ => .inl rfl⟩
  · exact c

/-- A turn never moves the published state back. -/
theorem Consistent.turn_rank (c : w.Consistent) (log : List Event) :
    w.state.rank ≤ ((w.turn trigger name next).run log).1.state.rank := by
  rcases turn_cases trigger name next w log with
    ⟨-, -, moved⟩ | ⟨waiting, -, moved⟩ | ⟨-, moved⟩ | ⟨-, moved⟩
  · simp only [moved, took_state, Nat.le_refl]
  · rw [moved, c.published]
    rcases waiting with s | s <;> simp [s, Stage.lifecycle, Lifecycle.rank]
  · rw [moved]
    exact Lifecycle.rank_le_terminated _
  · simp only [moved, Nat.le_refl]

theorem Consistent.signal (c : w.Consistent) : w.signal.Consistent :=
  ⟨c.published, fun _ => rfl, c.ended⟩

/-- A stop keeps the thread consistent. -/
theorem Consistent.stop (c : w.Consistent) (log : List Event) :
    ((w.stop trigger name next).run log).1.2.Consistent := by
  rcases stop_cases trigger name next w log with ⟨-, stopped⟩ | ⟨-, panicked, stopped⟩ | ⟨-, alive, stopped⟩ <;>
    rw [stopped]
  · exact c
  · exact ⟨c.published, fun _ => rfl, fun _ => .inr panicked⟩
  · have twice := (c.signal.turn trigger name next log).turn trigger name next
      ((w.signal.turn trigger name next).run log).2
    have finished := turn_turn_finished trigger name next (w := w.signal) rfl alive log
      ((w.signal.turn trigger name next).run log).2
    exact ⟨twice.published, twice.signalled, fun _ => .inl finished⟩

/-- A stop of a thread that did not panic succeeds and leaves it `Terminated`. -/
theorem Consistent.stop_terminated (c : w.Consistent) (alive : w.stage ≠ .panicked) (log : List Event) :
    ((w.stop trigger name next).run log).1.1 = .ok () ∧
      ((w.stop trigger name next).run log).1.2.state = .terminated := by
  have ended := c.stop trigger name next log
  rcases stop_cases trigger name next w log with ⟨joined, stopped⟩ | ⟨-, panicked, -⟩ | ⟨-, -, stopped⟩
  · rw [stopped]
    have finished := (c.ended joined).resolve_right alive
    exact ⟨rfl, by rw [c.published, finished]; rfl⟩
  · exact absurd panicked alive
  · rw [stopped] at ended ⊢
    have finished := turn_turn_finished trigger name next (w := w.signal) rfl alive log
      ((w.signal.turn trigger name next).run log).2
    exact ⟨rfl, by rw [ended.published]; simp only [finished]; rfl⟩

/-- A thread that panicked keeps the state it last published through any stop. -/
theorem stop_panicked_state (panicked : w.stage = .panicked) (log : List Event) :
    ((w.stop trigger name next).run log).1.2.state = w.state := by
  cases joined : w.joined with
  | true => rw [stop_joined trigger name next joined]
  | false => rw [stop_panicked trigger name next joined panicked]; rfl

theorem Consistent.stop_rank (c : w.Consistent) (log : List Event) :
    w.state.rank ≤ ((w.stop trigger name next).run log).1.2.state.rank := by
  by_cases panicked : w.stage = .panicked
  · have same := stop_panicked_state trigger name next panicked log
    exact Nat.le_of_eq (congrArg Lifecycle.rank same.symm)
  · rw [(c.stop_terminated trigger name next panicked log).2]
    exact Lifecycle.rank_le_terminated _

theorem act_stop (log : List Event) :
    ((w.act trigger name next .stop).run log).1 = ((w.stop trigger name next).run log).1.2 := rfl

theorem Consistent.act (c : w.Consistent) (m : Move) (log : List Event) :
    ((w.act trigger name next m).run log).1.Consistent := by
  cases m with
  | turn => exact c.turn trigger name next log
  | signal => exact c.signal
  | stop => rw [act_stop]; exact c.stop trigger name next log
  | observe => exact c

theorem Consistent.act_rank (c : w.Consistent) (m : Move) (log : List Event) :
    w.state.rank ≤ ((w.act trigger name next m).run log).1.state.rank := by
  cases m with
  | turn => exact c.turn_rank trigger name next log
  | stop => rw [act_stop]; exact c.stop_rank trigger name next log
  | signal | observe => exact Nat.le_refl _

/-- A thread that panicked stays so, and no move reads. -/
theorem act_panicked (panicked : w.stage = .panicked) (m : Move) (log : List Event) :
    ((w.act trigger name next m).run log).1.stage = .panicked ∧
      ((w.act trigger name next m).run log).1.source = w.source ∧
      ((w.act trigger name next m).run log).1.plant = w.plant := by
  cases m with
  | turn =>
    simp only [act]
    rw [turn_ended trigger name next (.inr panicked)]
    exact ⟨panicked, rfl, rfl⟩
  | signal | observe => exact ⟨panicked, rfl, rfl⟩
  | stop =>
    rw [act_stop]
    cases joined : w.joined with
    | true => rw [stop_joined trigger name next joined]; exact ⟨panicked, rfl, rfl⟩
    | false => rw [stop_panicked trigger name next joined panicked]; exact ⟨panicked, rfl, rfl⟩

/-- Once the signal is sent no move reads: the source and the plant stay, and the signal stays sent. -/
theorem act_signalled (sent : w.stopSent = true) (m : Move) (log : List Event) :
    ((w.act trigger name next m).run log).1.stopSent = true ∧
      ((w.act trigger name next m).run log).1.source = w.source ∧
      ((w.act trigger name next m).run log).1.plant = w.plant := by
  cases m with
  | turn =>
    simp only [act]
    exact ⟨by simp [sent], turn_signalled trigger name next sent log⟩
  | signal => exact ⟨rfl, rfl, rfl⟩
  | observe => exact ⟨sent, rfl, rfl⟩
  | stop =>
    rw [act_stop]
    refine ⟨?_, stop_keeps trigger name next log⟩
    rcases stop_cases trigger name next w log with ⟨-, stopped⟩ | ⟨-, -, stopped⟩ | ⟨-, -, stopped⟩ <;>
      rw [stopped]
    · exact sent
    · rfl
    · simp [Worker.signal]

/-- A thread that was sent the signal, or that panicked, reads nothing more, whatever the moves. -/
theorem act_stalled (stalled : w.stopSent = true ∨ w.stage = .panicked) (m : Move) (log : List Event) :
    (((w.act trigger name next m).run log).1.stopSent = true ∨
        ((w.act trigger name next m).run log).1.stage = .panicked) ∧
      ((w.act trigger name next m).run log).1.source = w.source ∧
      ((w.act trigger name next m).run log).1.plant = w.plant := by
  rcases stalled with sent | panicked
  · obtain ⟨sent', kept⟩ := act_signalled trigger name next sent m log
    exact ⟨.inl sent', kept⟩
  · obtain ⟨panicked', kept⟩ := act_panicked trigger name next panicked m log
    exact ⟨.inr panicked', kept⟩

theorem act_quiet (quiet : w.stopSent = false) {m : Move} (other : m ≠ .signal ∧ m ≠ .stop) (log : List Event) :
    ((w.act trigger name next m).run log).1.stopSent = false := by
  cases m with
  | turn => simpa [act] using quiet
  | observe => exact quiet
  | signal | stop => simp at other

theorem run_cons (m : Move) (more : List Move) (log : List Event) :
    ((w.run trigger name next (m :: more)).run log).1 =
      (((((w.act trigger name next m).run log).1.run trigger name next more).run
          ((w.act trigger name next m).run log).2).1.1,
        if m = .observe then
          w.state :: ((((w.act trigger name next m).run log).1.run trigger name next more).run
            ((w.act trigger name next m).run log).2).1.2
        else ((((w.act trigger name next m).run log).1.run trigger name next more).run
            ((w.act trigger name next m).run log).2).1.2) := rfl

/-- Along every run the thread stays consistent and what the owner observes never goes back:
each observation is no lower than the state the run starts from and no higher than the state it
ends in. -/
theorem Consistent.run (c : w.Consistent) {moves : List Move} {log : List Event} {w' : Worker σ}
    {seen : List Lifecycle} (reached : ((w.run trigger name next moves).run log).1 = (w', seen)) :
    w'.Consistent ∧ w.state.rank ≤ w'.state.rank ∧ seen.Pairwise (fun a b => a.rank ≤ b.rank) ∧
      ∀ s ∈ seen, w.state.rank ≤ s.rank ∧ s.rank ≤ w'.state.rank := by
  induction moves generalizing w log w' seen with
  | nil =>
    obtain ⟨rfl, rfl⟩ := Prod.mk.inj reached
    exact ⟨c, Nat.le_refl _, List.Pairwise.nil, by simp⟩
  | cons m more ih =>
    have step := c.act_rank trigger name next m log
    obtain ⟨c', up, ordered, between⟩ := ih (c.act trigger name next m log) rfl
    rw [run_cons] at reached
    obtain ⟨rfl, rfl⟩ := Prod.mk.inj reached
    refine ⟨c', Nat.le_trans step up, ?_, ?_⟩
    · split
      · exact List.pairwise_cons.2 ⟨fun s later => Nat.le_trans step (between s later).1, ordered⟩
      · exact ordered
    · split
      · intro s seen
        rcases List.mem_cons.1 seen with rfl | later
        · exact ⟨Nat.le_refl _, Nat.le_trans step up⟩
        · exact ⟨Nat.le_trans step (between s later).1, (between s later).2⟩
      · exact fun s later => ⟨Nat.le_trans step (between s later).1, (between s later).2⟩

/-- With no signal and no stop among the moves, the thread stays `Running` and is observed so,
whatever it reads. -/
theorem Consistent.run_running (c : w.Consistent) (quiet : w.stopSent = false) {moves : List Move}
    (unsignalled : .signal ∉ moves) (unstopped : .stop ∉ moves) {log : List Event} {w' : Worker σ}
    {seen : List Lifecycle} (reached : ((w.run trigger name next moves).run log).1 = (w', seen)) :
    w'.stopSent = false ∧ ∀ s ∈ seen, s = .running := by
  induction moves generalizing w log w' seen with
  | nil =>
    obtain ⟨rfl, rfl⟩ := Prod.mk.inj reached
    exact ⟨quiet, by simp⟩
  | cons m more ih =>
    obtain ⟨other, unsignalled', unstopped'⟩ := Move.quiet_cons unsignalled unstopped
    obtain ⟨quiet', running⟩ :=
      ih (c.act trigger name next m log) (act_quiet trigger name next quiet other log) unsignalled' unstopped' rfl
    rw [run_cons] at reached
    obtain ⟨rfl, rfl⟩ := Prod.mk.inj reached
    refine ⟨quiet', ?_⟩
    split
    · intro s seen
      rcases List.mem_cons.1 seen with rfl | later
      · exact c.running quiet
      · exact running s later
    · exact running

/-- One step of the thread's reading while it listens with no signal: a read, then more unless
it found nothing for now. -/
theorem settleFuel_succ (listening : w.stage = .listening) (quiet : w.stopSent = false) (fuel : Nat)
    (log : List Event) :
    ((settleFuel trigger name next (fuel + 1) w).run log).1 =
      if ((next w.source).run log).1.1 = .pending then w.took trigger ((next w.source).run log).1
      else ((settleFuel trigger name next fuel (w.took trigger ((next w.source).run log).1)).run
        ((w.read trigger name next).run log).2).1 := by
  simp only [settleFuel, listening, quiet, and_self, if_true, Logged.bind_fst, read_run]
  split <;> rfl

/-- The thread's own reading keeps it consistent and never touches what the owner holds. -/
theorem Consistent.settleFuel (c : w.Consistent) (fuel : Nat) (log : List Event) :
    ((Worker.settleFuel trigger name next fuel w).run log).1.Consistent ∧
      ((Worker.settleFuel trigger name next fuel w).run log).1.stopSent = w.stopSent ∧
      ((Worker.settleFuel trigger name next fuel w).run log).1.joined = w.joined := by
  induction fuel generalizing w log with
  | zero => exact ⟨c, rfl, rfl⟩
  | succ fuel ih =>
    by_cases reading : w.stage = .listening ∧ w.stopSent = false
    · rw [settleFuel_succ trigger name next reading.1 reading.2]
      have c' := c.took trigger reading.1 ((next w.source).run log).1
      split
      · exact ⟨c', by simp, by simp⟩
      · obtain ⟨c'', sent, joined⟩ := ih c' ((w.read trigger name next).run log).2
        exact ⟨c'', by simp [sent], by simp [joined]⟩
    · simp only [Worker.settleFuel, reading, if_false]
      exact ⟨c, rfl, rfl⟩

/-- Once the signal is sent or a callback panicked, nothing more is read, whatever the moves. -/
theorem run_stalled (stalled : w.stopSent = true ∨ w.stage = .panicked) (moves : List Move) (log : List Event) :
    ((w.run trigger name next moves).run log).1.1.source = w.source ∧
      ((w.run trigger name next moves).run log).1.1.plant = w.plant := by
  induction moves generalizing w log with
  | nil => exact ⟨rfl, rfl⟩
  | cons m more ih =>
    obtain ⟨stalled', source, plant⟩ := act_stalled trigger name next stalled m log
    obtain ⟨source', plant'⟩ := ih stalled' ((w.act trigger name next m).run log).2
    rw [run_cons]
    exact ⟨source'.trans source, plant'.trans plant⟩

end

end Worker

end ButtonRelay
