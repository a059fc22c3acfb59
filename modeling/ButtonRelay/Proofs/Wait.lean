import ButtonRelay.Driver

namespace ButtonRelay.Queue

@[simp] theorem Change.apply_push (thread : Thread) (e : Envelope) (q : Queue) :
    (Change.push thread e).apply q = ⟨q.pending ++ [e]⟩ := rfl

@[simp] theorem Change.apply_drain_pending (q : Queue) : (Change.drain.apply q).pending = q.pending.tail := by
  obtain ⟨_ | ⟨e, rest⟩⟩ := q <;> rfl

/-- The queue as the other threads leave it after a run of wakeups. -/
def Wakeup.applyAll (wakeups : List Wakeup) (q : Queue) : Queue :=
  wakeups.foldl (fun q w => w.apply q) q

@[simp] theorem Wakeup.applyAll_cons (w : Wakeup) (wakeups : List Wakeup) (q : Queue) :
    Wakeup.applyAll (w :: wakeups) q = Wakeup.applyAll wakeups (w.apply q) := rfl

@[simp] theorem Wakeup.applyAll_nil (q : Queue) : Wakeup.applyAll [] q = q := rfl

/-- The same wakeup, reporting no deadline. -/
def Wakeup.untimed (w : Wakeup) : Wakeup := { w with timedOut := false }

@[simp] theorem Wakeup.untimed_apply (w : Wakeup) (q : Queue) : w.untimed.apply q = w.apply q := rfl

@[simp] theorem Wakeup.applyAll_untimed (wakeups : List Wakeup) (q : Queue) :
    Wakeup.applyAll (wakeups.map Wakeup.untimed) q = Wakeup.applyAll wakeups q := by
  induction wakeups generalizing q with
  | nil => rfl
  | cons w more ih => exact ih _

/-- Pushes by other threads only add at the back. -/
theorem Wakeup.apply_prefix {w : Wakeup} (pushes : ∀ c ∈ w.changes, c.isPush) (q : Queue) :
    q.pending <+: (w.apply q).pending := by
  obtain ⟨changes, timedOut⟩ := w
  simp only [Wakeup.apply] at pushes ⊢
  induction changes generalizing q with
  | nil => exact List.prefix_refl _
  | cons c more ih =>
    cases c with
    | push thread e =>
      exact (List.prefix_append _ _).trans (ih _ fun c' member => pushes c' (List.mem_cons_of_mem _ member))
    | drain => simp [Change.isPush] at pushes

/-- Drains by other threads find nothing in an empty queue. -/
theorem Wakeup.apply_empty {w : Wakeup} (drains : ∀ c ∈ w.changes, c.isPush = false) {q : Queue}
    (empty : q.pending = []) : w.apply q = q := by
  obtain ⟨changes, timedOut⟩ := w
  simp only [Wakeup.apply] at drains ⊢
  induction changes with
  | nil => rfl
  | cons c more ih =>
    cases c with
    | push thread e => simp [Change.isPush] at drains
    | drain =>
      have same : Change.drain.apply q = q := by
        obtain ⟨pending⟩ := q
        cases empty
        rfl
      rw [List.foldl_cons, same]
      exact ih fun c' member => drains c' (List.mem_cons_of_mem _ member)

theorem Wakeup.applyAll_prefix {wakeups : List Wakeup} (pushes : ∀ w ∈ wakeups, ∀ c ∈ w.changes, c.isPush)
    (q : Queue) : q.pending <+: (Wakeup.applyAll wakeups q).pending := by
  induction wakeups generalizing q with
  | nil => exact List.prefix_refl _
  | cons w more ih =>
    have first := Wakeup.apply_prefix (pushes w List.mem_cons_self) q
    exact first.trans (ih (fun w' member => pushes w' (List.mem_cons_of_mem w member)) _)

/-- Without a deadline the loop acts as the deadline loop whose wakeups never report one. -/
theorem waitForever_eq_waitUntil (q : Queue) (wakeups : List Wakeup) :
    q.waitForever wakeups = q.waitUntil (wakeups.map Wakeup.untimed) := by
  induction wakeups generalizing q with
  | nil => rfl
  | cons w more ih =>
    simp only [waitForever, List.map_cons, waitUntil, Wakeup.untimed, Bool.false_eq_true, ite_false]
    rw [ih]
    rfl

/-- When the deadline loop returns, the queue is the one the other threads made of it over the
wakeups it used, and the outcome is ready exactly when that queue holds something: the timed-out
branch looks at the queue again before it answers. -/
theorem waitUntil_returned {q q' : Queue} {wakeups : List Wakeup} {o : WaitOutcome}
    (returned : q.waitUntil wakeups = some (o, q')) :
    (∃ k, q' = Wakeup.applyAll (wakeups.take k) q) ∧ (o = .ready ↔ q'.pending ≠ []) := by
  induction wakeups generalizing q with
  | nil =>
    by_cases empty : q.pending = [] <;> simp_all [waitUntil]
  | cons w more ih =>
    by_cases empty : q.pending = []
    · by_cases timed : w.timedOut
      · simp only [waitUntil, empty, List.isEmpty_nil, timed, ite_true, Option.some.injEq,
          Prod.mk.injEq] at returned
        obtain ⟨rfl, rfl⟩ := returned
        refine ⟨⟨1, rfl⟩, ?_⟩
        simp
      · simp only [waitUntil, empty, List.isEmpty_nil, timed, ite_true, Bool.false_eq_true,
          ite_false] at returned
        obtain ⟨⟨k, rfl⟩, ready⟩ := ih returned
        exact ⟨⟨k + 1, rfl⟩, ready⟩
    · have filled : q.pending.isEmpty = false := by simpa using empty
      simp only [waitUntil, filled, Bool.false_eq_true, ite_false, Option.some.injEq, Prod.mk.injEq] at returned
      obtain ⟨rfl, rfl⟩ := returned
      exact ⟨⟨0, rfl⟩, by simpa using empty⟩

/-- Wakeups that never report the deadline end the wait only on a non-empty queue. -/
theorem waitUntil_untimed_ready {q q' : Queue} {wakeups : List Wakeup} {o : WaitOutcome}
    (untimed : ∀ w ∈ wakeups, w.timedOut = false) (returned : q.waitUntil wakeups = some (o, q')) :
    o = .ready := by
  induction wakeups generalizing q with
  | nil =>
    by_cases empty : q.pending.isEmpty <;> simp_all [waitUntil]
  | cons w more ih =>
    have quiet : w.timedOut = false := untimed w List.mem_cons_self
    by_cases empty : q.pending.isEmpty
    · simp only [waitUntil, empty, quiet, Bool.false_eq_true, ite_true, ite_false] at returned
      exact ih (fun w' member => untimed w' (List.mem_cons_of_mem w member)) returned
    · simp only [waitUntil, empty, Bool.false_eq_true, ite_false, Option.some.injEq, Prod.mk.injEq] at returned
      exact returned.1.symm

/-- With a deadline, the wait has returned by the first wakeup that reports it passed. -/
theorem waitUntil_isSome {q : Queue} {wakeups : List Wakeup} (timed : ∃ w ∈ wakeups, w.timedOut) :
    (q.waitUntil wakeups).isSome := by
  induction wakeups generalizing q with
  | nil => simp at timed
  | cons w more ih =>
    by_cases empty : q.pending.isEmpty
    · by_cases now : w.timedOut
      · simp [waitUntil, empty, now]
      · have later : ∃ w' ∈ more, w'.timedOut := by
          obtain ⟨w', member, reported⟩ := timed
          rcases List.mem_cons.mp member with rfl | later
          · exact absurd reported now
          · exact ⟨w', later, reported⟩
        simpa [waitUntil, empty, now] using ih later
    · simp [waitUntil, empty]

/-- When no other thread pushes, the deadline loop answers from the queue it locked: ready at
once if it holds something, else timed out at the first wakeup that reports the deadline. -/
theorem waitUntil_without_pushes (q : Queue) {wakeups : List Wakeup}
    (drains : ∀ w ∈ wakeups, ∀ c ∈ w.changes, c.isPush = false) :
    q.waitUntil wakeups =
      if q.pending = [] then (if wakeups.any (·.timedOut) then some (.timedOut, q) else none)
      else some (.ready, q) := by
  by_cases empty : q.pending = []
  · induction wakeups with
    | nil => simp [waitUntil, empty]
    | cons w more ih =>
      have same : w.apply q = q := Wakeup.apply_empty (drains w List.mem_cons_self) empty
      have rest := ih fun w' member => drains w' (List.mem_cons_of_mem w member)
      cases timed : w.timedOut <;> simp_all [waitUntil]
  · cases wakeups <;> simp [waitUntil, empty]

/-- A wait that finds something queued when it takes the lock answers at once. -/
theorem wait_filled {q : Queue} (filled : q.pending ≠ []) (t : Timeout) (wakeups : List Wakeup) :
    q.wait t wakeups = some (.ready, q) := by
  have full : q.pending.isEmpty = false := by simpa using filled
  cases t <;> cases wakeups <;> simp [wait, Timeout.hasDeadline, waitUntil, waitForever, full]

/-- What wakes a wait while another thread pushes `e` after `delay` ms: the push, if it lands
before the deadline, else the deadline. -/
def Wakeup.pushAfter (t : Timeout) (delay : Nat) (e : Envelope) : List Wakeup :=
  if t.outlasts (min delay pushDelayLimit) then [⟨[.push .pusher e], false⟩] else [⟨[], true⟩]

theorem await_push_run (q : Queue) (t : Timeout) (delay : Nat) (e : Envelope) (log : List Event) :
    ((q.await t (some (delay, e))).run log).1 =
      .ok (if !q.pending.isEmpty || t.outlasts (min delay pushDelayLimit) then .ready else .timedOut,
        ⟨q.pending ++ [e]⟩) := rfl

/-- A wait during which another thread pushes answers as the wait loop does when that push wakes
it, and the push lands either way. -/
theorem await_pushed (q : Queue) (t : Timeout) (delay : Nat) (e : Envelope) (log : List Event) :
    ∃ o q', q.wait t (Wakeup.pushAfter t delay e) = some (o, q') ∧
      ((q.await t (some (delay, e))).run log).1 = .ok (o, ⟨q.pending ++ [e]⟩) := by
  rw [await_push_run]
  by_cases empty : q.pending = []
  · cases t with
    | unbounded =>
      exact ⟨.ready, ⟨q.pending ++ [e]⟩, by simp [wait, Timeout.hasDeadline, Wakeup.pushAfter,
        Timeout.outlasts, waitForever, Wakeup.apply, empty], by simp [Timeout.outlasts]⟩
    | millis n =>
      by_cases first : min delay pushDelayLimit < n
      · exact ⟨.ready, ⟨q.pending ++ [e]⟩, by simp [wait, Timeout.hasDeadline, Wakeup.pushAfter,
          Timeout.outlasts, first, waitUntil, Wakeup.apply, empty], by simp [Timeout.outlasts, first]⟩
      · exact ⟨.timedOut, q, by simp [wait, Timeout.hasDeadline, Wakeup.pushAfter, Timeout.outlasts, first,
          waitUntil, Wakeup.apply, empty], by simp [Timeout.outlasts, first, empty]⟩
  · have filled : q.pending.isEmpty = false := by simpa using empty
    exact ⟨.ready, q, wait_filled empty t _, by simp [filled]⟩

/-- A wait with nobody to push, within the limit the host keeps to on an empty queue, answers
as the wait loop does when the deadline wakes it. -/
theorem await_alone (q : Queue) (t : Timeout) (log : List Event)
    (limited : q.pending = [] → t.outlasts emptyWaitLimit = false) :
    ∃ o, q.wait t [⟨[], true⟩] = some (o, q) ∧ ((q.await t none).run log).1 = .ok (o, q) := by
  by_cases empty : q.pending = []
  · have short := limited empty
    cases t with
    | unbounded => simp [Timeout.outlasts] at short
    | millis n =>
      exact ⟨.timedOut, by simp [wait, Timeout.hasDeadline, waitUntil, Wakeup.apply, empty],
        by simp [await, short, empty]⟩
  · have filled : q.pending.isEmpty = false := by simpa using empty
    exact ⟨.ready, wait_filled empty t _, by simp [await, filled]⟩

/-- A wait takes nothing off the queue and moves nothing in it. Whenever it returns, the queue
is what the other threads' pushes and drains made of it, so with pushes alone the queue it
locked is still at the front; and it answers ready exactly when that queue holds something,
timed out exactly when it is empty. With a deadline it has returned by the time a wakeup
reports the deadline; with no concurrent push it answers ready exactly when the queue it
locked holds something, and timed out otherwise. Without a representable deadline it can only
answer ready. The wait the host makes while another thread pushes is this loop, woken by that
push or by the deadline. -/
theorem wait_answers_from_queue (q : Queue) (t : Timeout) (wakeups : List Wakeup) :
    (∀ o q', q.wait t wakeups = some (o, q') →
      (∃ k, q' = Wakeup.applyAll (wakeups.take k) q) ∧ (o = .ready ↔ q'.pending ≠ []) ∧
      ((∀ w ∈ wakeups, ∀ c ∈ w.changes, c.isPush) → q.pending <+: q'.pending)) ∧
    (t.hasDeadline → (∃ w ∈ wakeups, w.timedOut) → (q.wait t wakeups).isSome) ∧
    (t.hasDeadline → (∀ w ∈ wakeups, ∀ c ∈ w.changes, c.isPush = false) →
      q.wait t wakeups =
        if q.pending = [] then (if wakeups.any (·.timedOut) then some (.timedOut, q) else none)
        else some (.ready, q)) ∧
    (t.hasDeadline = false → ∀ o q', q.wait t wakeups = some (o, q') → o = .ready) ∧
    (∀ delay e log, ∃ o q', q.wait t (Wakeup.pushAfter t delay e) = some (o, q') ∧
      ((q.await t (some (delay, e))).run log).1 = .ok (o, ⟨q.pending ++ [e]⟩)) := by
  -- both loops are the deadline loop, the one without a deadline on wakeups that report none
  have asUntil : ∃ ws : List Wakeup, q.wait t wakeups = q.waitUntil ws ∧
      ∀ k, Wakeup.applyAll (ws.take k) q = Wakeup.applyAll (wakeups.take k) q := by
    cases deadline : t.hasDeadline
    · refine ⟨wakeups.map Wakeup.untimed, by simp [wait, deadline, waitForever_eq_waitUntil], fun k => ?_⟩
      rw [← List.map_take, Wakeup.applyAll_untimed]
    · exact ⟨wakeups, by simp [wait, deadline], fun _ => rfl⟩
  obtain ⟨ws, same, frames⟩ := asUntil
  refine ⟨?_, ?_, ?_, ?_, await_pushed q t⟩
  · intro o q' returned
    rw [same] at returned
    obtain ⟨⟨k, rfl⟩, ready⟩ := waitUntil_returned returned
    refine ⟨⟨k, frames k⟩, ready, fun pushes => ?_⟩
    rw [frames k]
    exact Wakeup.applyAll_prefix (fun w member => pushes w (List.mem_of_mem_take member)) q
  · intro deadline timed
    simpa [wait, deadline] using waitUntil_isSome timed
  · intro deadline drains
    simpa [wait, deadline] using waitUntil_without_pushes q drains
  · intro deadline o q' returned
    simp only [wait, deadline, Bool.false_eq_true, ite_false, waitForever_eq_waitUntil] at returned
    exact waitUntil_untimed_ready (by simp [Wakeup.untimed]) returned

end ButtonRelay.Queue
