import Mathlib.Data.List.Induction
import ButtonRelay.Queue

namespace ButtonRelay.Queue

theorem push_run (thread : Thread) (q : Queue) (e : Envelope) (log : List Event) :
    ((q.push thread e).run log).1 = ⟨q.pending ++ [e]⟩ := rfl

/-- A call on the queue, made atomically under its lock from any thread. -/
inductive Call where
  | push (thread : Thread) (e : Envelope)
  | drain
  | wait (t : Timeout)
  | len
  | isEmpty

/-- What a queue call answers. -/
inductive Answer where
  | pushed
  | drained (got : Option (Envelope × Nat))
  | outcome (o : WaitOutcome)
  /-- A wait with no deadline on an empty queue: no other call can come while it holds the lock,
  so it is still asleep. -/
  | asleep
  | length (n : Nat)
  | empty (b : Bool)
  deriving DecidableEq

/-- Makes one call. A call is atomic, so a wait is woken by nothing but its deadline: it answers
from the queue as it stands, or sleeps on with no deadline. -/
def answer (q : Queue) : Call → Answer × Queue
  | .push thread e => (.pushed, ((q.push thread e).run []).1)
  | .drain => (.drained q.drain.1, q.drain.2)
  | .wait t =>
    match q.wait t [⟨[], true⟩] with
    | some (o, q') => (.outcome o, q')
    | none => (.asleep, q)
  | .len => (.length q.pending.length, q)
  | .isEmpty => (.empty q.pending.isEmpty, q)

/-- Makes the calls in order on an empty queue, collecting the answers. -/
def replay (calls : List Call) : List Answer × Queue :=
  calls.foldl (fun done call => (done.1 ++ [(done.2.answer call).1], (done.2.answer call).2))
    ([], empty)

/-- The envelope a call pushes, if it pushes one. -/
def Call.pushed? : Call → Option Envelope
  | .push _ e => some e
  | _ => none

/-- The envelope an answer hands out, if it hands one out. -/
def Answer.taken? : Answer → Option Envelope
  | .drained (some (e, _)) => some e
  | _ => none

/-- The envelopes the calls push, in order. -/
def pushes (calls : List Call) : List Envelope := calls.filterMap Call.pushed?

/-- The envelopes the answers hand out, in order. -/
def taken (answers : List Answer) : List Envelope := answers.filterMap Answer.taken?

theorem taken_append (answers : List Answer) (a : Answer) :
    taken (answers ++ [a]) = taken answers ++ a.taken?.toList := by
  cases handed : a.taken? <;> simp [taken, handed]

theorem pushes_append (calls : List Call) (call : Call) :
    pushes (calls ++ [call]) = pushes calls ++ call.pushed?.toList := by
  cases given : call.pushed? <;> simp [pushes, given]

theorem replay_append (calls : List Call) (call : Call) :
    replay (calls ++ [call]) =
      ((replay calls).1 ++ [((replay calls).2.answer call).1], ((replay calls).2.answer call).2) := by
  simp only [replay, List.foldl_append, List.foldl_cons, List.foldl_nil]

theorem answer_drain_cons {q : Queue} {e : Envelope} {rest : List Envelope} (front : q.pending = e :: rest) :
    q.answer .drain = (.drained (some (e, rest.length)), ⟨rest⟩) := by
  simp [answer, drain, front]

theorem answer_drain_nil {q : Queue} (front : q.pending = []) : q.answer .drain = (.drained none, q) := by
  simp [answer, drain, front]

/-- A wait woken only by its deadline answers from the queue as it stands and keeps it; with no
deadline it sleeps on an empty queue. -/
theorem wait_deadline (q : Queue) (t : Timeout) :
    q.wait t [⟨[], true⟩] =
      if q.pending.isEmpty then (if t.hasDeadline then some (.timedOut, q) else none) else some (.ready, q) := by
  cases empty : q.pending.isEmpty <;> cases t <;>
    simp [wait, Timeout.hasDeadline, waitUntil, waitForever, Wakeup.apply, empty]

theorem answer_wait (q : Queue) (t : Timeout) : (q.answer (.wait t)).2 = q := by
  cases empty : q.pending.isEmpty <;> cases deadline : t.hasDeadline <;>
    simp [answer, wait_deadline, empty, deadline]

theorem answer_drain_none_iff (q : Queue) : (q.answer .drain).1 = .drained none ↔ q.pending = [] := by
  cases front : q.pending with
  | nil => simp [answer_drain_nil front]
  | cons e rest => simp [answer_drain_cons front]

/-- A drain that hands out an envelope hands out the front one, with the count of those behind it. -/
theorem answer_drain_some {q : Queue} {e : Envelope} {n : Nat}
    (taken : (q.answer .drain).1 = .drained (some (e, n))) : ∃ rest, q.pending = e :: rest ∧ n = rest.length := by
  cases front : q.pending with
  | nil => simp [answer_drain_nil front] at taken
  | cons first rest =>
    simp only [answer_drain_cons front, Answer.drained.injEq, Option.some.injEq, Prod.mk.injEq] at taken
    obtain ⟨rfl, rfl⟩ := taken
    exact ⟨rest, rfl, rfl⟩

theorem answer_isEmpty (q : Queue) : (q.answer .isEmpty).1 = .empty (decide (q.pending = [])) := by
  cases front : q.pending <;> simp [answer, front]

/-- What was handed out, followed by what is queued, is what was pushed; one call keeps this
balance. -/
theorem answer_balance {q : Queue} {pushed drained : List Envelope} (balance : drained ++ q.pending = pushed)
    (call : Call) :
    (drained ++ ((q.answer call).1.taken?).toList) ++ (q.answer call).2.pending =
      pushed ++ call.pushed?.toList := by
  cases call with
  | push thread e =>
    simp only [answer, push_run, Answer.taken?, Call.pushed?, Option.toList_none, Option.toList_some,
      List.append_nil, ← balance, List.append_assoc]
  | drain =>
    cases front : q.pending with
    | nil =>
      rw [answer_drain_nil front]
      simpa [Answer.taken?, Call.pushed?, front] using balance
    | cons e rest =>
      rw [answer_drain_cons front]
      simpa [Answer.taken?, Call.pushed?, front] using balance
  | wait t =>
    have quiet : (q.answer (.wait t)).1.taken? = none := by
      simp only [answer]
      split <;> rfl
    rw [answer_wait, quiet]
    simpa [Call.pushed?] using balance
  | len | isEmpty => simpa [answer, Answer.taken?, Call.pushed?] using balance

theorem replay_balance (history : List Call) :
    taken (replay history).1 ++ (replay history).2.pending = pushes history := by
  induction history using List.reverseRecOn with
  | nil => rfl
  | append_singleton calls call ih =>
    rw [replay_append, taken_append, pushes_append]
    exact answer_balance ih call

/-- Over any sequence of pushes, drains, waits and size queries, the queue is first in, first
out: the drains hand out the pushed envelopes in push order, none lost or repeated, and the rest
are still queued. The next drain finds nothing exactly when every push was drained, and otherwise
hands out the oldest undrained push with the count of those after it; the length is the pushes
less the drains, and a wait leaves the queue as it is. -/
theorem replay_first_in_first_out (history : List Call) :
    let q := (replay history).2
    let pushed := pushes history
    let drained := taken (replay history).1
    drained ++ q.pending = pushed ∧
      ((q.answer .drain).1 = .drained none ↔ drained.length = pushed.length) ∧
      (∀ e n, (q.answer .drain).1 = .drained (some (e, n)) →
        pushed[drained.length]? = some e ∧ n = pushed.length - (drained.length + 1)) ∧
      (q.answer .len).1 = .length (pushed.length - drained.length) ∧
      (q.answer .isEmpty).1 = .empty (decide (drained.length = pushed.length)) ∧
      (∀ t, (q.answer (.wait t)).2 = q) := by
  intro q pushed drained
  have balance : drained ++ q.pending = pushed := replay_balance history
  have count : q.pending.length + drained.length = pushed.length := by
    rw [← balance, List.length_append]
    omega
  -- the queue is empty exactly when the drains have caught up with the pushes
  have caughtUp : q.pending = [] ↔ drained.length = pushed.length := by
    rw [← List.length_eq_zero_iff]
    omega
  refine ⟨balance, (answer_drain_none_iff q).trans caughtUp, ?_, ?_, ?_, answer_wait q⟩
  · intro e n taken
    obtain ⟨rest, front, rfl⟩ := answer_drain_some taken
    rw [front, List.length_cons] at count
    refine ⟨?_, by omega⟩
    rw [← balance, front]
    simp
  · simp only [answer, Answer.length.injEq]
    omega
  · rw [answer_isEmpty]
    simp only [caughtUp]

end ButtonRelay.Queue
