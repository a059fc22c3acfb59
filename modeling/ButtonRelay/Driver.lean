import ButtonRelay.Session

/-!
What a host's test driver adds around the module and the queue: the bounds it keeps to so that
every call it makes returns in time, and the second thread it may start to push while it waits.
It waits on a module for at most 100 ms at a time, and on an empty queue with nobody to push for
at most 100 ms; the thread it starts pushes after at most 50 ms. These bounds are the driver's
own. The module's wait and the queue's wait answer every timeout.
-/

namespace ButtonRelay

/-- The longest wait the driver makes on a module, in milliseconds. -/
def Session.waitLimit : Nat := 100

namespace Queue

/-- The longest wait the driver makes on an empty queue with nobody to push. -/
def emptyWaitLimit : Nat := 100

/-- The longest the driver's second thread waits before it pushes. -/
def pushDelayLimit : Nat := 50

/-- Whether a timeout runs out before a push that lands after `delay` ms. -/
def Timeout.outlasts : Timeout → Nat → Bool
  | .unbounded, _ => true
  | .millis n, delay => delay < n

/-- A wait as the driver makes it. With `push = some (delay, e)`, its second thread pushes `e`
after `delay` ms (at most `pushDelayLimit`); the wait is ready when something was queued already
or the push lands before the timeout, and the push lands either way. Without a push, a wait on
an empty queue longer than `emptyWaitLimit` is one the driver does not make. -/
def await (q : Queue) (t : Timeout) (push : Option (Nat × Envelope)) :
    Logged (Except String (WaitOutcome × Queue)) :=
  match push with
  | some (delay, e) => do
    let ready := !q.pending.isEmpty || t.outlasts (min delay pushDelayLimit)
    let q' ← q.push .pusher e
    pure (.ok (if ready then .ready else .timedOut, q'))
  | none =>
    if !q.pending.isEmpty then pure (.ok (.ready, q))
    else if t.outlasts emptyWaitLimit then
      pure (.error "wait on an empty queue is limited to 100 ms")
    else pure (.ok (.timedOut, q))

end Queue

end ButtonRelay
