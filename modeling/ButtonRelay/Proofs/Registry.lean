import Mathlib.Data.List.Induction
import ButtonRelay.Registry

namespace ButtonRelay.Registry

theorem connect_run (thread : Thread) (r : Registry) (d : Device) (log : List Event) :
    ((r.connect thread d).run log).1 =
      if d ∈ r.devices then .error (.duplicateDevice d) else .ok ⟨r.devices ++ [d]⟩ := by
  by_cases present : d ∈ r.devices <;> simp [connect, contains, present, emit]

theorem find_self {devices : List Device} {d e : Device} (found : devices.find? (· == d) = some e) :
    e = d := by
  simpa using List.find?_some found

/-- The entry a disconnect removes is the device asked for, and the reason only picks the log
line. -/
theorem disconnect_run (thread : Thread) (r : Registry) (reason : DisconnectReason) (d : Device)
    (log : List Event) :
    ((r.disconnect thread reason d).run log).1 =
      if d ∈ r.devices then .ok (d, ⟨r.devices.erase d⟩) else .error (.notFound d) := by
  cases found : r.devices.find? (· == d) with
  | none =>
    have absent : d ∉ r.devices := fun present => by
      simpa using List.find?_eq_none.mp found d present
    simp [disconnect, found, absent, emit]
  | some e =>
    obtain rfl := find_self found
    have present : e ∈ r.devices := List.mem_of_find?_eq_some found
    cases reason <;> simp [disconnect, found, present, emit]

/-- A call the host makes on the registry. -/
inductive Call where
  | connect (d : Device)
  | disconnect (reason : DisconnectReason) (d : Device)

/-- What a registry call answers. -/
inductive Answer where
  | connected
  | removed (d : Device)
  | refused (f : Fault)
  deriving DecidableEq

/-- Makes one call from the host; a refused call leaves the registry as it was. -/
def answer (r : Registry) : Call → Answer × Registry
  | .connect d =>
    match ((r.connect .host d).run []).1 with
    | .ok r' => (.connected, r')
    | .error f => (.refused f, r)
  | .disconnect reason d =>
    match ((r.disconnect .host reason d).run []).1 with
    | .ok (removed, r') => (.removed removed, r')
    | .error f => (.refused f, r)

/-- Makes the calls in order on an empty registry, collecting the answers. -/
def replay (calls : List Call) : List Answer × Registry :=
  calls.foldl (fun done call => (done.1 ++ [(done.2.answer call).1], (done.2.answer call).2))
    ([], empty)

theorem replay_append (calls : List Call) (call : Call) :
    replay (calls ++ [call]) =
      ((replay calls).1 ++ [((replay calls).2.answer call).1], ((replay calls).2.answer call).2) := by
  simp only [replay, List.foldl_append, List.foldl_cons, List.foldl_nil]

theorem answer_connect (r : Registry) (d : Device) :
    r.answer (.connect d) =
      if d ∈ r.devices then (.refused (.duplicateDevice d), r) else (.connected, ⟨r.devices ++ [d]⟩) := by
  by_cases present : d ∈ r.devices <;> simp [answer, connect_run, present]

theorem answer_disconnect (r : Registry) (reason : DisconnectReason) (d : Device) :
    r.answer (.disconnect reason d) =
      if d ∈ r.devices then (.removed d, ⟨r.devices.erase d⟩) else (.refused (.notFound d), r) := by
  by_cases present : d ∈ r.devices <;> simp [answer, disconnect_run, present]

/-- One call on the insertion-ordered set a registry stands for. A new device goes to the end and
a known one is refused; a known device is taken out of the one place it stands, the others
keeping their order, and an unknown one is refused. The reason of a removal is free. -/
inductive OrderedSet.Step : List Device → Call → Answer → List Device → Prop
  | insert {set : List Device} {d : Device} (fresh : d ∉ set) :
      Step set (.connect d) .connected (set ++ [d])
  | duplicate {set : List Device} {d : Device} (present : d ∈ set) :
      Step set (.connect d) (.refused (.duplicateDevice d)) set
  | remove {before after : List Device} {d : Device} (reason : DisconnectReason)
      (notBefore : d ∉ before) (notAfter : d ∉ after) :
      Step (before ++ d :: after) (.disconnect reason d) (.removed d) (before ++ after)
  | missing {set : List Device} {d : Device} (reason : DisconnectReason) (absent : d ∉ set) :
      Step set (.disconnect reason d) (.refused (.notFound d)) set

/-- Calls made in order on the empty set, with their answers and the set they leave. -/
inductive OrderedSet.Run : List Call → List Answer → List Device → Prop
  | empty : Run [] [] []
  | step {calls : List Call} {answers : List Answer} {set set' : List Device} {call : Call}
      {answer : Answer} (run : Run calls answers set) (step : Step set call answer set') :
      Run (calls ++ [call]) (answers ++ [answer]) set'

theorem OrderedSet.Step.nodup {set set' : List Device} {call : Call} {answer : Answer}
    (step : Step set call answer set') (unique : set.Nodup) : set'.Nodup := by
  cases step with
  | insert fresh =>
    refine List.nodup_append.mpr ⟨unique, List.nodup_cons.mpr ⟨List.not_mem_nil, List.nodup_nil⟩, ?_⟩
    intro a member b same
    rw [List.mem_singleton.mp same]
    exact fun equal => fresh (equal ▸ member)
  | duplicate => exact unique
  | remove reason notBefore notAfter =>
    obtain ⟨uniqueBefore, uniqueRest, apart⟩ := List.nodup_append.mp unique
    refine List.nodup_append.mpr ⟨uniqueBefore, (List.nodup_cons.mp uniqueRest).2, ?_⟩
    exact fun a member b later => apart a member b (List.mem_cons_of_mem _ later)
  | missing => exact unique

theorem OrderedSet.Run.nodup {calls : List Call} {answers : List Answer} {set : List Device}
    (run : Run calls answers set) : set.Nodup := by
  induction run with
  | empty => exact List.nodup_nil
  | step _ step ih => exact step.nodup ih

/-- On a registry without repeats, every call is a step of the ordered set. -/
theorem answer_step {r : Registry} (unique : r.devices.Nodup) (call : Call) :
    OrderedSet.Step r.devices call (r.answer call).1 (r.answer call).2.devices := by
  cases call with
  | connect d =>
    rw [answer_connect]
    by_cases present : d ∈ r.devices
    · simp only [present, if_true]
      exact .duplicate present
    · simp only [present, if_false]
      exact .insert present
  | disconnect reason d =>
    rw [answer_disconnect]
    by_cases present : d ∈ r.devices
    · obtain ⟨before, after, notBefore, split, erased⟩ := List.exists_erase_eq present
      have notAfter : d ∉ after := by
        rw [split] at unique
        exact (List.nodup_cons.mp (List.nodup_append.mp unique).2.1).1
      simp only [present, if_true, erased]
      rw [split]
      exact .remove reason notBefore notAfter
    · simp only [present, if_false]
      exact .missing reason present

theorem replay_run (history : List Call) :
    OrderedSet.Run history (replay history).1 (replay history).2.devices := by
  induction history using List.reverseRecOn with
  | nil => exact .empty
  | append_singleton calls call ih =>
    rw [replay_append]
    exact .step ih (answer_step ih.nodup call)

/-- Whatever the host connects and disconnects, in any order and for any reasons, the registry
is the insertion-ordered set of the connected devices: every answer and every state is that of
the set. So no device is connected twice, the reason of a disconnect never changes its outcome,
and a device disconnected is no longer contained. -/
theorem replay_ordered_set (history : List Call) :
    OrderedSet.Run history (replay history).1 (replay history).2.devices ∧
      (replay history).2.devices.Nodup ∧
      (∀ reason reason' d, (replay history).2.answer (.disconnect reason d) =
        (replay history).2.answer (.disconnect reason' d)) ∧
      (∀ reason d removed r', (replay history).2.answer (.disconnect reason d) = (.removed removed, r') →
        r'.contains d = false) := by
  have run := replay_run history
  refine ⟨run, run.nodup, ?_, ?_⟩
  · intro reason reason' d
    simp only [answer_disconnect]
  · intro reason d removed r' answered
    rw [answer_disconnect] at answered
    by_cases present : d ∈ (replay history).2.devices
    · simp only [present, if_true, Prod.mk.injEq] at answered
      rw [← answered.2]
      simpa [contains] using run.nodup.not_mem_erase
    · simp [present] at answered

end ButtonRelay.Registry
