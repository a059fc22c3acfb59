import ButtonRelay.Proofs.Handle

/-!
The producer's lifecycle as its owner sees it. The thread is observed `Running` until it is sent
the stop signal, then `Stopping`, then `Terminated` once it has finished, and never back; a stop
joins the thread, and fails only when the thread panicked, which leaves it `Running`. Through a
module handle only destroying the module sends the signal: the invariant that the producer is
consistent and unsignalled holds of every module a handle holds, so the producer answers
`Running` to every call before the module is destroyed (`Worker.run_lifecycle`).
-/

namespace ButtonRelay

/-- A module whose producer's thread is consistent and has not been sent the stop signal. -/
structure Module.Alive (m : Module) : Prop where
  consistent : m.producer.Consistent
  unsignalled : m.producer.stopSent = false

/-- Every module the handle holds is alive. -/
def Session.Alive (s : Session) : Prop := ∀ m, s.module = some m → m.Alive

namespace Module.Alive

variable {m : Module}

theorem withPlant (alive : m.Alive) (p : Plant) : (m.withPlant p).Alive :=
  ⟨alive.consistent.withPlant p, alive.unsignalled⟩

theorem withChannel (alive : m.Alive) (c : Input.Mock Input.Pipe) : (m.withChannel c).Alive :=
  ⟨alive.consistent.withSource _, alive.unsignalled⟩

/-- The producer's own reading keeps its module alive, also when a callback panics on the way. -/
theorem settle (alive : m.Alive) (log : List Event) : (m.settle.run log).1.Alive := by
  unfold Module.settle
  split
  · exact alive
  · obtain ⟨consistent, sent, -⟩ := alive.consistent.settleFuel m.config.trigger m.sourceName
      (Input.Source.next .producer) (m.producer.source.reach + 1) log
    rw [Logged.bind_fst]
    split
    · exact ⟨consistent.withSource _, sent.trans alive.unsignalled⟩
    · exact ⟨consistent, sent.trans alive.unsignalled⟩

theorem start (config : Config) (source : Input.Source) (gated : Bool) (log : List Event) :
    ((Module.start config source gated).run log).1.Alive := by
  simp only [Module.start, Logged.bind_fst]
  exact settle ⟨Worker.Consistent.spawn _ _, rfl⟩ _

theorem ofSettings {get : String → Option String} {source : Input.Source} {gated : Bool} {log : List Event}
    (started : ((Module.ofSettings get source gated).run log).1 = .ok m) : m.Alive := by
  unfold Module.ofSettings at started
  cases checked : Config.check get with
  | error f => simp [checked, emit] at started
  | ok config =>
    simp only [checked, Functor.map] at started
    obtain rfl := Except.ok.inj started
    exact start config source gated log

theorem connect (alive : m.Alive) {d : Device} {m' : Module} {log : List Event}
    (connected : ((m.connect d).run log).1 = .ok m') : m'.Alive := by
  rw [Module.connect_run] at connected
  split at connected
  · cases connected
  · cases connected
    exact alive.withPlant _

theorem disconnect (alive : m.Alive) {reason : DisconnectReason} {d : Device} {m' : Module} {log : List Event}
    (disconnected : ((m.disconnect reason d).run log).1 = .ok m') : m'.Alive := by
  rw [Module.disconnect_run] at disconnected
  split at disconnected
  · cases disconnected
    exact alive.withPlant _
  · cases disconnected

theorem registerCallback (alive : m.Alive) (f : Callback) (log : List Event) :
    ((m.registerCallback f).run log).1.Alive := by
  rw [Module.registerCallback_run]
  exact ⟨alive.consistent.withPlant _, alive.unsignalled⟩

theorem getCommand {r : Envelope × Nat} {m' : Module} (alive : m.Alive) (taken : m.getCommand = .ok (r, m')) :
    m'.Alive := by
  unfold Module.getCommand at taken
  split at taken
  · obtain ⟨-, rfl⟩ := Prod.mk.inj (Except.ok.inj taken)
    exact alive.withPlant _
  · cases taken

end Module.Alive

namespace Session

variable {s : Session}

theorem Alive.of_holds {m : Module} (holds : s.module = some m) (alive : m.Alive) : s.Alive := by
  intro m' same
  rw [holds] at same
  obtain rfl := Option.some.inj same
  exact alive

theorem Alive.of_module {s' : Session} (alive : s.Alive) (same : s'.module = s.module) : s'.Alive :=
  fun m holds => alive m (same ▸ holds)

theorem Alive.holding {m : Module} (alive : m.Alive) : ({ s with module := some m } : Session).Alive :=
  Alive.of_holds rfl alive

theorem Alive.withModule (alive : s.Alive) {k : Module → Logged (Reply × Module)}
    (keeps : ∀ m log, m.Alive → ((k m).run log).1.2.Alive) (log : List Event) :
    ((s.withModule k).run log).1.2.Alive := by
  cases holds : s.module with
  | none => rw [withModule_empty holds]; exact alive
  | some m => rw [withModule_some holds]; exact Alive.holding (keeps m log (alive m holds))

theorem Alive.faultOr {r : Logged (Except Fault Module)} {m : Module} (alive : m.Alive)
    (keeps : ∀ m' log, (r.run log).1 = .ok m' → m'.Alive) (log : List Event) :
    ((Session.faultOr r m).run log).1.2.Alive := by
  rw [faultOr_run]
  cases result : (r.run log).1 with
  | ok m' => exact keeps m' log result
  | error f => exact alive

/-- A new channel lets the producer read, which keeps its module alive. -/
theorem Alive.updateChannel (alive : s.Alive) (c : Input.Mock Input.Pipe) (log : List Event) :
    ((s.updateChannel c).run log).1.Alive := by
  cases holds : s.module with
  | none => simp only [Session.updateChannel, holds]; exact alive.of_module holds.symm
  | some m =>
    simp only [Session.updateChannel, holds]
    split
    · rw [Logged.bind_fst]
      exact Alive.holding (((alive m holds).withChannel c).settle _)
    · exact alive.of_module holds.symm

/-- No call through the handle sends the producer the stop signal but destroying the module, and
that lets go of the module. -/
theorem Alive.step (alive : s.Alive) (st : Step) (log : List Event) : ((s.step st).run log).1.2.Alive := by
  cases st with
  | connect d =>
    refine alive.withModule (fun m log alive => ?_) log
    exact Alive.faultOr alive (fun _ _ connected => alive.connect connected) log
  | disconnect reason d =>
    refine alive.withModule (fun m log alive => ?_) log
    exact Alive.faultOr alive (fun _ _ disconnected => alive.disconnect disconnected) log
  | registerCallback f =>
    refine alive.withModule (fun m log alive => ?_) log
    exact alive.registerCallback f log
  | getCommand =>
    refine alive.withModule (fun m log alive => ?_) log
    cases taken : m.getCommand with
    | ok r => exact alive.getCommand taken
    | error f => exact alive
  | devices | deliveryMode | wait ms | state | stats =>
    refine alive.withModule (fun m log alive => ?_) log
    exact alive
  | forwardStatus payload d => rw [forwardStatus_keeps]; exact alive
  | forwardError payload d => rw [forwardError_keeps]; exact alive
  | ack payload => rw [ack_keeps]; exact alive
  | press cs =>
    simp only [Session.step]
    split
    · exact alive
    · split
      · exact alive
      · split
        · rw [Logged.bind_fst]
          exact alive.updateChannel _ _
        · exact alive
  | closeInput =>
    simp only [Session.step]
    split
    · exact alive
    · split
      · exact alive
      · rw [Logged.bind_fst]
        exact Alive.updateChannel (s := { s with pressing := false }) alive _ _
  | feed =>
    simp only [Session.step]
    split
    · exact alive
    · split
      · exact alive
      · rename_i m holds
        rw [Logged.bind_fst]
        have opened : ({ m with gated := false } : Module).Alive := ⟨(alive m holds).consistent, (alive m holds).unsignalled⟩
        exact Alive.holding (opened.settle _)
  | inputClosed =>
    simp only [Session.step]
    split
    · exact alive
    · split <;> exact alive
  | callbackLog =>
    simp only [Session.step]
    split
    · exact alive.of_module rfl
    · rename_i m holds
      exact Alive.holding ((alive m holds).withPlant _)
  | destroy =>
    intro m' holds
    rw [step_destroy_module] at holds
    cases holds
  | isValid | moduleNumber => exact alive
  | debug =>
    simp only [Session.step]
    split <;> exact alive

/-- Every run of calls keeps every module the handle holds alive. -/
theorem Alive.run (alive : s.Alive) (calls : List Step) (log : List Event) :
    ((s.run calls).run log).1.2.Alive := by
  induction calls generalizing s log with
  | nil => exact alive
  | cons st more ih =>
    rw [run_cons_session]
    exact ih (alive.step st log) _

/-- A handle begun with a valid configuration holds a module, and the module is alive. -/
theorem begin_alive {get : String → Option String} {feed : Feed} {log : List Event}
    (begun : ((Session.begin get feed).run log).1 = .ok s) : ∃ m, s.module = some m ∧ m.Alive := by
  unfold Session.begin at begun
  cases opened : feed.openSource with
  | error f => simp [opened] at begun
  | ok sourced =>
    obtain ⟨source, gated⟩ := sourced
    simp only [opened, Logged.bind_fst] at begun
    cases started : ((Module.ofSettings get source gated).run log).1 with
    | error f => simp [started] at begun
    | ok m =>
      simp only [started] at begun
      obtain rfl := Except.ok.inj begun
      exact ⟨m, rfl, Module.Alive.ofSettings started⟩

theorem step_state {m : Module} (holds : s.module = some m) (log : List Event) :
    ((s.step .state).run log).1.1 = .state m.producer.state.name := by
  simp only [step]
  rw [withModule_some holds]
  rfl

end Session

namespace Worker

/- A source that ends at once: the thread waits `Running` until the signal, is seen `Stopping`
before its last turn, and the stop joins it `Terminated`. -/
example :
    (((spawn () (⟨Registry.empty, Sink.initial .queue, Outbox.empty, Stats.zero⟩ : Plant)).run 'x' "test"
      (fun u => pure (.closed, u))
      [.observe, .turn, .observe, .signal, .observe, .turn, .observe, .stop, .observe, .stop]).run []).1.2 =
      [.running, .running, .running, .stopping, .terminated] := by
  decide

end Worker

end ButtonRelay
