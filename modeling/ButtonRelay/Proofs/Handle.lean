import Mathlib
import ButtonRelay.Proofs.Refinement

namespace ButtonRelay

/-- Whether a reply refuses the call: a fault of the module, a fault of the hand-pressed input, or
a call the host cannot make. -/
def Reply.refusal : Reply → Bool
  | .fault _ | .inputFault _ | .refused _ => true
  | _ => false

/-- What a logged computation answers once mapped, read off the run it maps. -/
@[simp] theorem Logged.run_map_fst {α β : Type} (f : α × List Event → β × List Event) (p : Id (α × List Event)) :
    (f <$> p).1 = (f p).1 := rfl

/-- A payload that does not decode is refused as malformed, whatever the message and the format. -/
theorem Message.decode_fault {α : Type} {fmt : Payload.Format} {m : Message α} {bytes : List UInt8} {f : Fault}
    (refused : m.decode fmt bytes = .error f) : ∃ text, f = .malformedPayload text := by
  cases read : fmt.read m.name m.field m.shape bytes with
  | error text =>
    simp only [Message.decode, read, Except.error.injEq] at refused
    exact ⟨_, refused.symm⟩
  | ok v => simp [Message.decode, read] at refused

/-- Whether a call goes through the module handle: the thirteen calls that need a module. The
host's own calls (its press handle, the gate of a line source, the callbacks' log) and the calls
that cannot fail (validity, the module number, the debug text) do not. -/
def Step.throughHandle : Step → Bool
  | .connect _ | .disconnect _ _ | .devices | .registerCallback _ | .deliveryMode | .wait _ | .getCommand
  | .forwardStatus _ _ | .forwardError _ _ | .ack _ | .state | .stats | .destroy => true
  | _ => false

/-- The faults only the handle gives: it holds no module, or the producer failed as it ended the
module. -/
def Fault.ofHandle : Fault → Bool
  | .invalidHandle | .producerFailed => true
  | _ => false

/-- Stopping the module's producer fails exactly when its thread panicked and was not joined. -/
theorem Module.stop_result (m : Module) (log : List Event) :
    (m.stop.run log).1.1 =
      if m.producer.stage = .panicked ∧ m.producer.joined = false then .error .producerFailed else .ok () :=
  Worker.stop_result _ _ _ log

/-- Ending the module answers what stopping its producer answers. -/
theorem Module.destroy_run (m : Module) (log : List Event) : (m.destroy.run log).1 = (m.stop.run log).1.1 := by
  rcases stopped : m.stop.run log with ⟨⟨result, w⟩, log'⟩
  simp only [Module.destroy, Logged.bind_fst, stopped]
  cases result <;> rfl

theorem Module.destroy_log (m : Module) (log : List Event) :
    (m.destroy.run log).2 = (m.stop.run log).2 ++
      if (m.stop.run log).1.1 = .ok () then [⟨.info, .context, .host, moduleName ++ " destroyed"⟩] else [] := by
  rcases stopped : m.stop.run log with ⟨⟨result, w⟩, log'⟩
  simp only [Module.destroy, Logged.bind_snd, stopped]
  cases result <;> simp [emit]

/-- What ending the module logs on the host's thread: the producer stopped, unless it was joined
already, and the module destroyed; or only the failed join of a producer that panicked. -/
theorem Module.destroy_hostEvents (m : Module) (log : List Event) :
    hostEvents (m.destroy.run log).2 = hostEvents log ++
      if m.producer.joined then [⟨.info, .context, .host, moduleName ++ " destroyed"⟩]
      else if m.producer.stage = .panicked then [⟨.error, .producer, .host, "Input producer thread panicked"⟩]
      else [⟨.info, .producer, .host, "Input producer stopped"⟩, ⟨.info, .context, .host, moduleName ++ " destroyed"⟩] := by
  have stopped : hostEvents (m.stop.run log).2 = _ := Worker.stop_hostEvents _ _ _ log
  simp only [Module.destroy_log, Module.stop_result, hostEvents, List.filter_append] at stopped ⊢
  rw [stopped]
  cases m.producer.joined <;> by_cases panicked : m.producer.stage = .panicked <;> simp [panicked]

namespace Session

theorem withModule_empty {s : Session} (empty : s.module = none) (k : Module → Logged (Reply × Module))
    (log : List Event) : ((s.withModule k).run log).1 = (.fault .invalidHandle, s) := by
  simp [withModule, empty]

theorem withModule_some {s : Session} {m : Module} (holds : s.module = some m) (k : Module → Logged (Reply × Module))
    (log : List Event) :
    ((s.withModule k).run log).1 = (((k m).run log).1.1, { s with module := some ((k m).run log).1.2 }) := by
  simp only [withModule, holds]
  rfl

theorem updateChannel_isSome (s : Session) (c : Input.Mock Input.Pipe) (log : List Event) :
    ((s.updateChannel c).run log).1.module.isSome = s.module.isSome := by
  cases holds : s.module with
  | none => simp [updateChannel, holds]
  | some m => by_cases attached : m.channel.isSome <;> simp [updateChannel, holds, attached]

/-- What a call that does not go through the handle does to it: it never answers a fault only the
handle gives, it keeps whether the handle holds a module, and when it is refused it keeps the whole
session. -/
structure Aside (s : Session) (result : Reply × Session) : Prop where
  handleFree : ∀ f, f.ofHandle = true → result.1 ≠ .fault f
  valid : result.2.module.isSome = s.module.isSome
  refused : result.1.refusal = true → result.2 = s

/-- The host's own calls (its press handle, the gate, the callbacks' log) and the calls that
cannot fail leave the handle alone. A call that needs the press handle or the gate is refused
before anything is pressed or opened, and a press on a closed channel presses nothing. -/
theorem step_aside (s : Session) {st : Step} (other : st.throughHandle = false) (log : List Event) :
    s.Aside ((s.step st).run log).1 := by
  cases st with
  | press cs =>
    cases channel : s.channel with
    | none => constructor <;> simp [step, channel, noMock]
    | some c =>
      cases pressing : s.pressing with
      | false => constructor <;> simp [step, channel, pressing, noMock]
      | true =>
        cases pressed : c.pressAll cs with
        | ok c' => constructor <;> simp [step, channel, pressing, pressed, Reply.refusal, updateChannel_isSome]
        | error f => constructor <;> simp [step, channel, pressing, pressed]
  | closeInput =>
    cases channel : s.channel with
    | none => constructor <;> simp [step, channel, noMock]
    | some c =>
      cases pressing : s.pressing with
      | false => constructor <;> simp [step, channel, pressing, noMock]
      | true =>
        have kept := updateChannel_isSome { s with pressing := false } (c.dropHandle 0) log
        constructor <;> simp [step, channel, pressing, Reply.refusal, kept]
  | feed =>
    cases gate : s.gate with
    | false => constructor <;> simp [step, gate]
    | true => cases holds : s.module <;> constructor <;> simp [step, gate, holds, Reply.refusal]
  | inputClosed =>
    cases channel : s.channel with
    | none => constructor <;> simp [step, channel, noMock]
    | some c => cases pressing : s.pressing <;> constructor <;> simp [step, channel, pressing, noMock, Reply.refusal]
  | callbackLog | debug => cases holds : s.module <;> constructor <;> simp [step, holds, Reply.refusal]
  | isValid | moduleNumber => constructor <;> simp [step, Reply.refusal]
  | connect d | disconnect reason d | devices | registerCallback f | deliveryMode | wait ms | getCommand
  | forwardStatus payload d | forwardError payload d | ack payload | state | stats | destroy =>
    simp [Step.throughHandle] at other

/-- A call through the handle is refused only with the session kept, as long as the module's own
computation is refused only with the module kept. -/
theorem withModule_refusal {s : Session} {k : Module → Logged (Reply × Module)} {log : List Event}
    (keeps : ∀ m, ((k m).run log).1.1.refusal = true → ((k m).run log).1.2 = m)
    (refused : ((s.withModule k).run log).1.1.refusal = true) : ((s.withModule k).run log).1.2 = s := by
  cases holds : s.module with
  | none => rw [withModule_empty holds]
  | some m =>
    rw [withModule_some holds] at refused ⊢
    rw [keeps m refused]
    exact holding_self holds

/-- A call through the handle whose computation always keeps the module keeps the session. -/
theorem withModule_same {s : Session} {k : Module → Logged (Reply × Module)} {log : List Event}
    (same : ∀ m, ((k m).run log).1.2 = m) : ((s.withModule k).run log).1.2 = s := by
  cases holds : s.module with
  | none => rw [withModule_empty holds]
  | some m =>
    rw [withModule_some holds, same m]
    exact holding_self holds

/-- A module call that may fail keeps the module when it fails. -/
theorem faultOr_keeps (r : Logged (Except Fault Module)) (m : Module) (log : List Event)
    (refused : ((faultOr r m).run log).1.1.refusal = true) : ((faultOr r m).run log).1.2 = m := by
  rw [faultOr_run] at refused ⊢
  cases result : (r.run log).1 with
  | ok m' => simp [result, Reply.refusal] at refused
  | error f => rfl

theorem forwardStatus_keeps (payload : List UInt8) (d : Device) (s : Session) (log : List Event) :
    ((s.step (.forwardStatus payload d)).run log).1.2 = s := by
  refine withModule_same fun m => ?_
  cases decoded : Status.decode payload <;>
    simp only [Logged.bind_fst, Reporter.status_run, decoded, StateT.run_pure, Logged.pure_fst]

theorem forwardError_keeps (payload : List UInt8) (d : Device) (s : Session) (log : List Event) :
    ((s.step (.forwardError payload d)).run log).1.2 = s := by
  refine withModule_same fun m => ?_
  cases decoded : ErrorReport.decode payload <;>
    simp only [Logged.bind_fst, Reporter.errorReport_run, decoded, StateT.run_pure, Logged.pure_fst]

theorem ack_keeps (payload : List UInt8) (s : Session) (log : List Event) :
    ((s.step (.ack payload)).run log).1.2 = s :=
  withModule_same fun _ => rfl

/-- A call through the handle answers a fault only the handle gives exactly when it holds no
module, and then that the handle is invalid, as long as the module's own computation never
answers such a fault. -/
theorem withModule_handleFault {s : Session} {k : Module → Logged (Reply × Module)} {log : List Event}
    (own : ∀ m f, f.ofHandle = true → ((k m).run log).1.1 ≠ .fault f) {f : Fault} (byHandle : f.ofHandle = true) :
    ((s.withModule k).run log).1.1 = .fault f ↔ s.module = none ∧ f = .invalidHandle := by
  cases holds : s.module with
  | none => simp [withModule_empty holds, eq_comm]
  | some m => simpa [withModule_some holds] using own m f byHandle

/-- A module call that may fail answers with the fault it fails with. -/
theorem faultOr_handleFault (r : Logged (Except Fault Module)) (m : Module) (log : List Event)
    (own : ∀ f, f.ofHandle = true → (r.run log).1 ≠ .error f) :
    ∀ f, f.ofHandle = true → ((faultOr r m).run log).1.1 ≠ .fault f := by
  intro f byHandle
  rw [faultOr_run]
  cases result : (r.run log).1 with
  | ok m' => simp
  | error f' => simpa [result] using own f byHandle

/-- Every call through the handle but destroy answers a fault only the handle gives exactly when
the handle holds no module, and then that it is invalid: the module itself never answers so. -/
theorem step_handleFault (s : Session) {st : Step} (through : st.throughHandle = true) (other : st ≠ .destroy)
    (log : List Event) {f : Fault} (byHandle : f.ofHandle = true) :
    ((s.step st).run log).1.1 = .fault f ↔ s.module = none ∧ f = .invalidHandle := by
  cases st with
  | connect d =>
    refine withModule_handleFault (fun m => faultOr_handleFault _ m log ?_) byHandle
    intro f' byHandle'
    by_cases present : d ∈ m.plant.registry.devices <;>
      cases f' <;> simp_all [Module.connect_run, Fault.ofHandle]
  | disconnect reason d =>
    refine withModule_handleFault (fun m => faultOr_handleFault _ m log ?_) byHandle
    intro f' byHandle'
    by_cases present : d ∈ m.plant.registry.devices <;>
      cases f' <;> simp_all [Module.disconnect_run, Fault.ofHandle]
  | devices | deliveryMode | state | stats | registerCallback _ | ack _ | wait _ =>
    exact withModule_handleFault (fun m f' _ => by simp) byHandle
  | getCommand =>
    refine withModule_handleFault (fun m f' byHandle' => ?_) byHandle
    cases front : m.plant.outbox.queue.pending <;> cases f' <;>
      simp_all [Module.getCommand, Queue.drain, Fault.ofHandle]
  | forwardStatus payload d =>
    refine withModule_handleFault (fun m f' byHandle' => ?_) byHandle
    cases decoded : Status.decode payload with
    | ok status =>
      simp only [Logged.bind_fst, Reporter.status_run, decoded, StateT.run_pure, Logged.pure_fst]
      simp
    | error f =>
      -- a payload that does not decode is malformed, which is no fault of the handle
      obtain ⟨text, rfl⟩ := Message.decode_fault decoded
      simp only [Logged.bind_fst, Reporter.status_run, decoded, StateT.run_pure, Logged.pure_fst]
      intro same
      cases same
      simp [Fault.ofHandle] at byHandle'
  | forwardError payload d =>
    refine withModule_handleFault (fun m f' byHandle' => ?_) byHandle
    cases decoded : ErrorReport.decode payload with
    | ok report =>
      simp only [Logged.bind_fst, Reporter.errorReport_run, decoded, StateT.run_pure, Logged.pure_fst]
      simp
    | error f =>
      obtain ⟨text, rfl⟩ := Message.decode_fault decoded
      simp only [Logged.bind_fst, Reporter.errorReport_run, decoded, StateT.run_pure, Logged.pure_fst]
      intro same
      cases same
      simp [Fault.ofHandle] at byHandle'
  | destroy => exact absurd rfl other
  | press cs | closeInput | feed | inputClosed | callbackLog | isValid | moduleNumber | debug =>
    simp [Step.throughHandle] at through

/-- Destroying a module ends it: the handle answers what ending it answers and holds no module
after, and a hand-pressed channel the module read is let go of, its reader dropped. -/
theorem step_destroy_some {s : Session} {m : Module} (holds : s.module = some m) (log : List Event) :
    (s.step .destroy).run log =
      ((if m.producer.stage = .panicked ∧ m.producer.joined = false then .fault .producerFailed else .ok,
        ⟨none, (match m.channel with
          | some c => some c.dropReader
          | none => s.detached), s.pressing, s.gate, m.plant.outbox.received⟩), (m.destroy.run log).2) := by
  have ended := m.destroy_run log
  rw [m.stop_result] at ended
  refine Prod.ext (Prod.ext ?_ ?_) ?_
  · simp only [step, holds, Logged.bind_fst, ended, StateT.run_pure, Logged.pure_fst]
    by_cases failed : m.producer.stage = .panicked ∧ m.producer.joined = false <;> simp [failed]
  · -- the handle's new record does not depend on how the end went
    obtain ⟨module, detached, pressing, gate, unread⟩ := s
    cases holds
    rfl
  · simp only [step, holds, Logged.bind_snd]
    rfl

/-- Only a destroy fails with a producer that failed. -/
theorem step_producerFailed (s : Session) {st : Step} (log : List Event)
    (failed : ((s.step st).run log).1.1 = .fault .producerFailed) : st = .destroy := by
  by_contra other
  cases through : st.throughHandle with
  | false => exact (step_aside s through log).handleFree .producerFailed rfl failed
  | true =>
    have := (step_handleFault s through other log (f := .producerFailed) rfl).1 failed
    simp at this

/-- Every refused call leaves the session as it was, but a destroy whose producer failed: that
one still lets go of the module. -/
theorem step_refusal_keeps (s : Session) (st : Step) (log : List Event)
    (refused : ((s.step st).run log).1.1.refusal = true)
    (stopped : ((s.step st).run log).1.1 ≠ .fault .producerFailed) : ((s.step st).run log).1.2 = s := by
  cases through : st.throughHandle with
  | false => exact (step_aside s through log).refused refused
  | true =>
    cases st with
    | connect d | disconnect reason d => exact withModule_refusal (fun m => faultOr_keeps _ m log) refused
    | devices | deliveryMode | state | stats | wait ms => exact withModule_refusal (fun _ _ => rfl) refused
    | forwardStatus payload d => exact forwardStatus_keeps payload d s log
    | forwardError payload d => exact forwardError_keeps payload d s log
    | ack payload => exact ack_keeps payload s log
    | registerCallback f =>
      refine withModule_refusal (fun m answered => ?_) refused
      simp [Reply.refusal] at answered
    | getCommand =>
      refine withModule_refusal (fun m answered => ?_) refused
      cases taken : m.getCommand with
      | ok got => simp [taken, Reply.refusal] at answered
      | error f => simp
    | destroy =>
      cases holds : s.module with
      | none => simp [step, holds]
      | some m =>
        -- a destroy that went through answers `ok`, or the failed stop
        rw [step_destroy_some holds] at refused stopped
        by_cases failed : m.producer.stage = .panicked ∧ m.producer.joined = false
        · simp [failed] at stopped
        · simp [failed, Reply.refusal] at refused
    | press cs | closeInput | feed | inputClosed | callbackLog | isValid | moduleNumber | debug =>
      simp [Step.throughHandle] at through

/-- A call the module refuses, with whatever fault (a device already connected, a device not
connected, an empty queue, a payload that does not decode, a handle with no module), leaves the
session exactly as it was: the devices and their order, the queue and its order, the sink and the
counts. So does every other refusal the host meets, but a destroy whose producer failed, the one
call that answers so. Forwarding a status or an error report and acknowledging a command never
change the session, whatever the payload and the device. -/
theorem refused_call_changes_nothing (s : Session) (st : Step) (log : List Event) :
    (((s.step st).run log).1.1.refusal = true → ((s.step st).run log).1.1 ≠ .fault .producerFailed →
        ((s.step st).run log).1.2 = s) ∧
      (((s.step st).run log).1.1 = .fault .producerFailed → st = .destroy) ∧
      ∀ payload d, ((s.step (.forwardStatus payload d)).run log).1.2 = s ∧
        ((s.step (.forwardError payload d)).run log).1.2 = s ∧ ((s.step (.ack payload)).run log).1.2 = s :=
  ⟨step_refusal_keeps s st log, step_producerFailed s log,
    fun payload d => ⟨forwardStatus_keeps payload d s log, forwardError_keeps payload d s log, ack_keeps payload s log⟩⟩

/-- Taking a command from a module just started finds the queue empty, and the session is left as
it was. -/
theorem refused_take_keeps_fresh_session :
    (((Session.holding (Module.fresh ⟨'x', .queue⟩ "Mock Input") false).step .getCommand).run []).1.1.refusal =
        true ∧
      (((Session.holding (Module.fresh ⟨'x', .queue⟩ "Mock Input") false).step .getCommand).run []).1.1 ≠
        .fault .producerFailed ∧
      (((Session.holding (Module.fresh ⟨'x', .queue⟩ "Mock Input") false).step .getCommand).run []).1.2 =
        Session.holding (Module.fresh ⟨'x', .queue⟩ "Mock Input") false := by
  have taken : (((Session.holding (Module.fresh ⟨'x', .queue⟩ "Mock Input") false).step .getCommand).run []).1.1 =
      .fault .empty := rfl
  exact ⟨by rw [taken]; rfl, by rw [taken]; simp,
    (refused_call_changes_nothing _ .getCommand []).1 (by rw [taken]; rfl) (by rw [taken]; simp)⟩

theorem withModule_isSome (s : Session) (k : Module → Logged (Reply × Module)) (log : List Event) :
    ((s.withModule k).run log).1.2.module.isSome = s.module.isSome := by
  cases holds : s.module with
  | none => simp [withModule_empty holds, holds]
  | some m => rw [withModule_some holds]; rfl

/-- Only destroying the module changes whether the handle holds one. -/
theorem step_isSome (s : Session) {st : Step} (other : st ≠ .destroy) (log : List Event) :
    ((s.step st).run log).1.2.module.isSome = s.module.isSome := by
  cases through : st.throughHandle with
  | false => exact (step_aside s through log).valid
  | true =>
    cases st with
    | connect d | disconnect reason d | devices | registerCallback f | deliveryMode | wait ms | getCommand
    | forwardStatus payload d | forwardError payload d | ack payload | state | stats =>
      exact withModule_isSome s _ log
    | destroy => exact absurd rfl other
    | press cs | closeInput | feed | inputClosed | callbackLog | isValid | moduleNumber | debug =>
      simp [Step.throughHandle] at through

/-- Destroying leaves the handle with no module, whatever it answers. -/
theorem step_destroy_module (s : Session) (log : List Event) : ((s.step .destroy).run log).1.2.module = none := by
  cases holds : s.module with
  | none => simp [step, holds]
  | some m => rw [step_destroy_some holds]

theorem run_cons_session (s : Session) (st : Step) (more : List Step) (log : List Event) :
    ((s.run (st :: more)).run log).1.2 = ((((s.step st).run log).1.2.run more).run ((s.step st).run log).2).1.2 :=
  rfl

/-- The handle holds a module after a run of calls exactly when it held one before and none of
the calls destroyed it. -/
theorem run_isSome (s : Session) (calls : List Step) (log : List Event) :
    ((s.run calls).run log).1.2.module.isSome = true ↔ s.module.isSome = true ∧ .destroy ∉ calls := by
  induction calls generalizing s log with
  | nil => simp [run]
  | cons st more ih =>
    rw [run_cons_session, ih]
    by_cases destroying : st = .destroy
    · subst destroying
      simp [step_destroy_module]
    · have other : Step.destroy ≠ st := fun same => destroying same.symm
      rw [step_isSome s destroying, List.mem_cons]
      simp [other]

/-- Every call through the handle answers that the handle is invalid exactly when it holds no
module. -/
theorem step_invalidHandle (s : Session) {st : Step} (through : st.throughHandle = true) (log : List Event) :
    ((s.step st).run log).1.1 = .fault .invalidHandle ↔ s.module = none := by
  by_cases destroying : st = .destroy
  · subst destroying
    cases holds : s.module with
    | none => simp [step, holds]
    | some m =>
      rw [step_destroy_some holds]
      split <;> simp
  · simpa using step_handleFault s through destroying log (f := .invalidHandle) rfl

/-- Destroying a module stops its producer and ends the module, and lets go of the hand-pressed
channel the producer read: the host's handle, while it holds one, finds the channel closed. The
end fails exactly when the producer's thread panicked: the stop logs the failed join and nothing
more. Otherwise the host's thread logs that the producer stopped, if it was not joined already,
and that the module is destroyed. -/
theorem destroy_releases {s : Session} {m : Module} (holds : s.module = some m) (log : List Event) :
    ((s.step .destroy).run log).1.1 =
        (if m.producer.stage = .panicked ∧ m.producer.joined = false then .fault .producerFailed else .ok) ∧
      hostEvents ((s.step .destroy).run log).2 = hostEvents log ++
        (if m.producer.joined then [⟨.info, .context, .host, moduleName ++ " destroyed"⟩]
        else if m.producer.stage = .panicked then [⟨.error, .producer, .host, "Input producer thread panicked"⟩]
        else [⟨.info, .producer, .host, "Input producer stopped"⟩, ⟨.info, .context, .host, moduleName ++ " destroyed"⟩]) ∧
      (m.channel.isSome = true → s.pressing = true → ∀ log',
        ((((s.step .destroy).run log).1.2.step .inputClosed).run log').1.1 = .closed true) := by
  rw [step_destroy_some holds]
  refine ⟨rfl, m.destroy_hostEvents log, ?_⟩
  intro attached pressing log'
  obtain ⟨c, channel⟩ := Option.isSome_iff_exists.mp attached
  simp [step, channel, pressing, Session.channel, Input.Mock.dropReader, Input.Mock.isClosed, Input.Channel.isClosed,
    Input.Channel.dropReceiver]

end Session

theorem Module.start_config (config : Config) (source : Input.Source) (gated : Bool) (log : List Event) :
    ((Module.start config source gated).run log).1.config = config := by
  simp [Module.start, Module.settle, emit]
  split <;> rfl

/-- A refused configuration starts nothing: the start answers the configuration's fault and logs
only that. -/
theorem Module.ofSettings_refused {get : String → Option String} {c : ConfigFault}
    (refused : Config.ofLookup get = .error c) (source : Input.Source) (gated : Bool) (log : List Event) :
    (Module.ofSettings get source gated).run log =
      (.error (.invalidConfiguration c),
        log ++ [⟨.error, .context, .host, moduleName ++ ": " ++ (Fault.invalidConfiguration c).message⟩]) := by
  simp [Module.ofSettings, Config.check, refused, Except.mapError, emit]
  rfl

theorem Module.ofSettings_started {get : String → Option String} {config : Config}
    (valid : Config.ofLookup get = .ok config) (source : Input.Source) (gated : Bool) (log : List Event) :
    ∃ m, ((Module.ofSettings get source gated).run log).1 = .ok m ∧ m.config = config := by
  refine ⟨((Module.start config source gated).run log).1, ?_, Module.start_config config source gated log⟩
  simp [Module.ofSettings, Config.check, valid, Except.mapError]

namespace Session

/-- A module handle is valid from a start with a valid configuration until it is destroyed. A
start fails, with the configuration's fault, exactly when the configuration is refused, and then
starts no producer and logs only the refusal. Over any calls on a handle, a call through the
handle answers that the handle is invalid exactly when the handle held no module to begin with
or was destroyed by an earlier call, and no other call ever answers so. Destroying leaves the
handle invalid whatever it answers, so every later destroy is refused; no other call changes
whether the handle is valid. Destroying a valid handle stops the producer, ends the module and
lets go of its source, so that a hand-pressed channel is then closed; it fails only when the
producer's thread panicked, and the handle is invalid all the same. -/
theorem handle_valid_until_destroyed :
    (∀ (get : String → Option String) (c : ConfigFault) (source : Input.Source) (gated : Bool) (log : List Event),
      Config.ofLookup get = .error c →
        (Module.ofSettings get source gated).run log =
          (.error (.invalidConfiguration c),
            log ++ [⟨.error, .context, .host, moduleName ++ ": " ++ (Fault.invalidConfiguration c).message⟩])) ∧
    (∀ (get : String → Option String) (config : Config) (source : Input.Source) (gated : Bool) (log : List Event),
      Config.ofLookup get = .ok config →
        ∃ m, ((Module.ofSettings get source gated).run log).1 = .ok m ∧ m.config = config) ∧
    (∀ (s : Session) (calls : List Step) (st : Step) (log log' : List Event),
      ((((s.run calls).run log).1.2.step st).run log').1.1 = .fault .invalidHandle ↔
        st.throughHandle = true ∧ (s.module = none ∨ .destroy ∈ calls)) ∧
    (∀ (s : Session) (calls : List Step) (log : List Event),
      ((s.run calls).run log).1.2.module.isSome = true ↔ s.module.isSome = true ∧ .destroy ∉ calls) ∧
    (∀ (s : Session) (st : Step) (log : List Event), st ≠ .destroy →
      ((s.step st).run log).1.2.module.isSome = s.module.isSome) ∧
    (∀ (s : Session) (log : List Event), ((s.step .destroy).run log).1.2.module = none) ∧
    (∀ (s : Session) (m : Module) (log : List Event), s.module = some m →
      ((s.step .destroy).run log).1.1 =
          (if m.producer.stage = .panicked ∧ m.producer.joined = false then .fault .producerFailed else .ok) ∧
        hostEvents ((s.step .destroy).run log).2 = hostEvents log ++
          (if m.producer.joined then [⟨.info, .context, .host, moduleName ++ " destroyed"⟩]
          else if m.producer.stage = .panicked then [⟨.error, .producer, .host, "Input producer thread panicked"⟩]
          else [⟨.info, .producer, .host, "Input producer stopped"⟩, ⟨.info, .context, .host, moduleName ++ " destroyed"⟩]) ∧
        (m.channel.isSome = true → s.pressing = true → ∀ log',
          ((((s.step .destroy).run log).1.2.step .inputClosed).run log').1.1 = .closed true)) := by
  refine ⟨fun get c source gated log refused => Module.ofSettings_refused refused source gated log,
    fun get config source gated log valid => Module.ofSettings_started valid source gated log, ?_, run_isSome,
    fun s st log other => step_isSome s other log, step_destroy_module, fun s m log holds => destroy_releases holds log⟩
  intro s calls st log log'
  -- the reply depends on the handle only through whether it still holds a module
  have held := run_isSome s calls log
  cases through : st.throughHandle with
  | true =>
    rw [step_invalidHandle _ through, ← Option.not_isSome_iff_eq_none, held, ← Option.not_isSome_iff_eq_none]
    simp only [not_and_or, not_not, true_and]
  | false => simpa using (step_aside _ through log').handleFree .invalidHandle rfl

/-- A module started on a hand-pressed channel without a button is refused, and a handle destroyed
once refuses to hand out a command. -/
theorem handle_refused_after_destroy :
    Config.ofLookup (fun _ => none) = .error .missingButton ∧
      (Module.ofSettings (fun _ => none) (.mock (Input.Mock.create "Mock Input")) false).run [] =
        (.error (.invalidConfiguration .missingButton),
          [⟨.error, .context, .host, moduleName ++ ": " ++ (Fault.invalidConfiguration .missingButton).message⟩]) ∧
      (((((Session.holding (Module.fresh ⟨'x', .queue⟩ "Mock Input") false).run [.destroy]).run []).1.2.step
        .getCommand).run []).1.1 = .fault .invalidHandle :=
  ⟨rfl, handle_valid_until_destroyed.1 _ _ _ _ [] rfl,
    (handle_valid_until_destroyed.2.2.1 _ [.destroy] .getCommand [] []).2 ⟨rfl, .inr (List.mem_singleton_self _)⟩⟩

end Session

end ButtonRelay
