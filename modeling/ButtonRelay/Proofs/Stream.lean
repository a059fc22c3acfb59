import Mathlib
import ButtonRelay.Proofs.Worker

namespace ButtonRelay

/-- What the plant does with the results read, in order: the trigger fires once for each
trigger read, and every other result leaves it as it is. -/
theorem Plant.foldl_after (trigger : Char) (reads : List Input.Read) (plant : Plant) :
    reads.foldl (Plant.after trigger) plant = Plant.fire^[reads.count (.value trigger)] plant := by
  induction reads generalizing plant with
  | nil => rfl
  | cons r more ih =>
    rw [List.foldl_cons, ih, List.count_cons]
    cases r with
    | value c =>
      by_cases fires : c = trigger
      · subst fires
        simp [Plant.after, Plant.read, Function.iterate_succ_apply]
      · simp [Plant.after, Plant.read, fires]
    | closed | pending | failed f => simp [Plant.after]

namespace Worker

/-- A source seen as the results its reads yield one after another; its step is the number of
results read so far. -/
def stream (results : Nat → Input.Read) (read : Nat) : Logged (Input.Read × Nat) :=
  pure (results read, read + 1)

/-- What a thread that has read the first `w.source` results of a stream has done: the plant took
them in order, the thread read on after a result only if it did not end the source, it waits only
after one that did, and it panicked only on a trigger read while a callback panics, which the plant
did not take. -/
structure Follows (trigger : Char) (results : Nat → Input.Read) (plant : Plant) (w : Worker Nat) : Prop where
  fed : w.stage ≠ .panicked → w.plant = ((List.range w.source).map results).foldl (Plant.after trigger) plant
  readOn : ∀ i, i + 1 < w.source → (results i).ends = false
  listening : w.stage = .listening → ∀ i < w.source, (results i).ends = false
  idle : w.stage = .idle → ∃ i, w.source = i + 1 ∧ (results i).ends = true
  panicked : w.stage = .panicked → ∃ i, w.source = i + 1 ∧ results i = .value trigger ∧
    w.plant.crashes = true ∧ w.plant = ((List.range i).map results).foldl (Plant.after trigger) plant

section
variable (trigger : Char) (name : String) (results : Nat → Input.Read) (plant : Plant) {w : Worker Nat}

theorem Follows.spawn : (spawn 0 plant).Follows trigger results plant :=
  ⟨fun _ => rfl, by simp [Worker.spawn], by simp [Worker.spawn], by simp [Worker.spawn], by simp [Worker.spawn]⟩

theorem turn_stream (listening : w.stage = .listening) (quiet : w.stopSent = false) (log : List Event) :
    ((w.turn trigger name (stream results)).run log).1 = w.took trigger (results w.source, w.source + 1) :=
  turn_reads trigger name (stream results) listening quiet log

/-- A thread that reads on from where it follows the stream: the plant takes the result, or a
callback panics on it. -/
theorem Follows.took (f : w.Follows trigger results plant) (listening : w.stage = .listening) :
    (w.took trigger (results w.source, w.source + 1)).Follows trigger results plant := by
  have before := f.listening listening
  have fed := f.fed (by simp [listening])
  unfold Worker.took
  split
  · -- a callback panicked on the trigger just read: the plant is left before it
    rename_i crash
    obtain ⟨trig, crashes⟩ : results w.source = .value trigger ∧ w.plant.crashes = true := by
      simpa [Plant.crashesOn] using crash
    exact ⟨by simp, fun i bound => before i (by simp at bound; omega), by simp, by simp,
      fun _ => ⟨w.source, rfl, trig, crashes, fed⟩⟩
  · -- no result before it ended the source, and the plant took this one
    have fed' : w.plant.after trigger (results w.source) =
        ((List.range (w.source + 1)).map results).foldl (Plant.after trigger) plant := by
      simp [List.range_succ, List.foldl_append, fed]
    cases ends : (results w.source).ends
    · refine ⟨fun _ => fed', fun i bound => before i (by simp at bound; omega), ?_, by simp, by simp⟩
      intro _ i bound
      rcases Nat.lt_succ_iff_lt_or_eq.1 bound with earlier | last
      · exact before i earlier
      · subst last
        exact ends
    · exact ⟨fun _ => fed', fun i bound => before i (by simp at bound; omega), by simp,
        fun _ => ⟨w.source, rfl, ends⟩, by simp⟩

theorem Follows.turn (f : w.Follows trigger results plant) (log : List Event) :
    ((w.turn trigger name (stream results)).run log).1.Follows trigger results plant := by
  rcases turn_cases trigger name (stream results) w log with
    ⟨listening, quiet, -⟩ | ⟨waiting, -, moved⟩ | ⟨stopping, moved⟩ | ⟨-, moved⟩
  · rw [turn_stream trigger name results listening quiet log]
    exact f.took trigger results plant listening
  · rw [moved]
    have alive : w.stage ≠ .panicked := by rcases waiting with s | s <;> simp [s]
    exact ⟨fun _ => f.fed alive, f.readOn, by simp, by simp, by simp⟩
  · rw [moved]
    exact ⟨fun _ => f.fed (by simp [stopping]), f.readOn, by simp, by simp, by simp⟩
  · rw [moved]
    exact f

theorem Follows.signal (f : w.Follows trigger results plant) : w.signal.Follows trigger results plant :=
  ⟨f.fed, f.readOn, f.listening, f.idle, f.panicked⟩

theorem Follows.act (f : w.Follows trigger results plant) (m : Move) (log : List Event) :
    ((w.act trigger name (stream results) m).run log).1.Follows trigger results plant := by
  cases m with
  | turn => exact f.turn trigger name results plant log
  | signal => exact f.signal
  | observe => exact f
  | stop =>
    rw [act_stop]
    cases joined : w.joined with
    | true => rw [stop_joined trigger name (stream results) joined]; exact f
    | false =>
      by_cases panicked : w.stage = .panicked
      · rw [stop_panicked trigger name (stream results) joined panicked]
        exact ⟨f.fed, f.readOn, f.listening, f.idle, f.panicked⟩
      · rw [stop_run trigger name (stream results) joined panicked]
        have twice := (f.signal.turn trigger name results plant log).turn trigger name results plant
          ((w.signal.turn trigger name (stream results)).run log).2
        exact ⟨twice.fed, twice.readOn, twice.listening, twice.idle, twice.panicked⟩

theorem Follows.run (f : w.Follows trigger results plant) (moves : List Move) (log : List Event) :
    ((w.run trigger name (stream results) moves).run log).1.1.Follows trigger results plant := by
  induction moves generalizing w log with
  | nil => exact f
  | cons m more ih =>
    rw [run_cons]
    exact ih (f.act trigger name results plant m log) _

theorem act_source_le (m : Move) (log : List Event) :
    ((w.act trigger name (stream results) m).run log).1.source ≤ w.source + if m = .turn then 1 else 0 := by
  cases m with
  | turn =>
    simp only [act, if_true]
    rcases turn_cases trigger name (stream results) w log with
      ⟨listening, quiet, -⟩ | ⟨-, -, moved⟩ | ⟨-, moved⟩ | ⟨-, moved⟩
    · rw [turn_stream trigger name results listening quiet log, took_source]
    all_goals rw [moved]; exact Nat.le_succ _
  | signal | observe => exact Nat.le_refl _
  | stop =>
    rw [act_stop, (stop_keeps trigger name (stream results) log).1]
    exact Nat.le_refl _

/-- A run reads at most once a turn. -/
theorem run_source_le (moves : List Move) (log : List Event) :
    ((w.run trigger name (stream results) moves).run log).1.1.source ≤ w.source + moves.count .turn := by
  induction moves generalizing w log with
  | nil => exact Nat.le_refl _
  | cons m more ih =>
    rw [run_cons, List.count_cons]
    have step := act_source_le trigger name results (w := w) m log
    have rest := ih (w := ((w.act trigger name (stream results) m).run log).1) ((w.act trigger name (stream results) m).run log).2
    by_cases turning : m = .turn
    · subst turning
      simp only [if_true] at step
      simp only [beq_self_eq_true, if_true]
      omega
    · simp only [turning, if_false] at step
      simp only [beq_iff_eq, turning, if_false]
      omega

/-- With no signal, a thread in its loop reads once a turn; once waiting or panicked it stays so. -/
theorem act_reading {n : Nat} (quiet : w.stopSent = false)
    (reading : w.stage = .listening ∧ w.source = n ∨ w.stage = .idle ∨ w.stage = .panicked) {m : Move}
    (other : m ≠ .signal ∧ m ≠ .stop) (log : List Event) :
    let w' := ((w.act trigger name (stream results) m).run log).1
    w'.stage = .listening ∧ w'.source = n + (if m = .turn then 1 else 0) ∨ w'.stage = .idle ∨
      w'.stage = .panicked := by
  cases m with
  | turn =>
    simp only [act, if_true]
    rcases reading with ⟨listening, rfl⟩ | idle | panicked
    · rw [turn_stream trigger name results listening quiet log]
      unfold took
      split
      · exact .inr (.inr rfl)
      · cases ends : (results w.source).ends
        · exact .inl ⟨by simp, rfl⟩
        · exact .inr (.inl (by simp))
    · rw [turn_idle trigger name (stream results) idle quiet log]
      exact .inr (.inl idle)
    · rw [turn_ended trigger name (stream results) (.inr panicked) log]
      exact .inr (.inr panicked)
  | observe => simpa [act] using reading
  | signal | stop => simp at other

theorem run_reading {n : Nat} (quiet : w.stopSent = false)
    (reading : w.stage = .listening ∧ w.source = n ∨ w.stage = .idle ∨ w.stage = .panicked) {moves : List Move}
    (unsignalled : .signal ∉ moves) (unstopped : .stop ∉ moves) (log : List Event) :
    let w' := ((w.run trigger name (stream results) moves).run log).1.1
    w'.stage = .listening ∧ w'.source = n + moves.count .turn ∨ w'.stage = .idle ∨ w'.stage = .panicked := by
  induction moves generalizing w n log with
  | nil => exact reading
  | cons m more ih =>
    obtain ⟨other, unsignalled', unstopped'⟩ := Move.quiet_cons unsignalled unstopped
    have step := act_reading trigger name results quiet reading other log
    have rest := ih (act_quiet trigger name (stream results) quiet other log) step unsignalled' unstopped'
      ((w.act trigger name (stream results) m).run log).2
    rw [run_cons, List.count_cons]
    by_cases turning : m = .turn
    · subst turning
      simpa [Nat.add_assoc, Nat.add_comm 1] using rest
    · simpa [turning] using rest

end

/-- How the producer thread reads a source, for every source seen as the sequence of results its
reads yield, and every order of turns, stop signals, stops and looks. The plant has taken the
results read, in order: the trigger has fired once for each trigger read, and nothing else did
anything. No result is read after one that ended the source, that is after the first end or
failure; an unreadable line or another press does not end it. A callback that panics ends the
thread on the trigger it was handed, with the plant as the triggers before it left it. The thread
reads at most once a turn, and with no stop it reads once every turn until the source ends or a
callback panics. Once the stop signal is sent, or a callback panicked, nothing more is read, and
so nothing more fires. -/
theorem run_reads_stream (trigger : Char) (name : String) (results : Nat → Input.Read) (plant : Plant)
    (moves : List Move) (log : List Event) :
    let w := (((spawn 0 plant).run trigger name (stream results) moves).run log).1.1
    (w.stage ≠ .panicked →
      w.plant = Plant.fire^[((List.range w.source).map results).count (.value trigger)] plant) ∧
      (w.stage = .panicked → ∃ i, w.source = i + 1 ∧ results i = .value trigger ∧ w.plant.crashes = true ∧
        w.plant = Plant.fire^[((List.range i).map results).count (.value trigger)] plant) ∧
      (∀ i, i + 1 < w.source → (results i).ends = false) ∧
      w.source ≤ moves.count .turn ∧
      (.signal ∉ moves → .stop ∉ moves →
        w.source = moves.count .turn ∨ (∃ i, w.source = i + 1 ∧ (results i).ends = true) ∨
          w.stage = .panicked) ∧
      (w.stopSent = true ∨ w.stage = .panicked → ∀ more log',
        ((w.run trigger name (stream results) more).run log').1.1.source = w.source ∧
          ((w.run trigger name (stream results) more).run log').1.1.plant = w.plant) := by
  intro w
  have follows := (Follows.spawn trigger results plant).run trigger name results plant moves log
  refine ⟨fun alive => by rw [follows.fed alive, Plant.foldl_after], ?_, follows.readOn, ?_, ?_, ?_⟩
  · intro panicked
    obtain ⟨i, read, trig, crashes, fed⟩ := follows.panicked panicked
    exact ⟨i, read, trig, crashes, by rw [fed, Plant.foldl_after]⟩
  · have bound := run_source_le trigger name results (w := spawn 0 plant) moves log
    rw [show (spawn 0 plant : Worker Nat).source = 0 from rfl, Nat.zero_add] at bound
    exact bound
  · intro unsignalled unstopped
    rcases run_reading trigger name results (w := spawn 0 plant) rfl (.inl ⟨rfl, rfl⟩) unsignalled unstopped log with
      ⟨-, reads⟩ | idle | panicked
    · exact .inl (reads.trans (Nat.zero_add _))
    · exact .inr (.inl (follows.idle idle))
    · exact .inr (.inr panicked)
  · intro stalled more log'
    exact run_stalled trigger name (stream results) stalled more log'

/- Two triggers among an unreadable line and another press, then the end: eight turns read five
results, fire twice, and leave the thread waiting. -/
example :
    let w := (((spawn 0 (⟨Registry.empty, Sink.initial .queue, Outbox.empty, Stats.zero⟩ : Plant)).run 'x' "test"
      (stream fun i => [.value 'x', .failed (.invalidData "bad"), .value 'y', .value 'x', .closed].getD i (.value 'x'))
      (List.replicate 8 .turn)).run []).1.1
    w.source = 5 ∧ w.plant.stats.triggers = 2 ∧ w.stage = .idle := by
  decide

end Worker

end ButtonRelay
