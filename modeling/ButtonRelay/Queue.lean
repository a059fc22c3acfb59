import ButtonRelay.Device
import ButtonRelay.Log
import ButtonRelay.Text.Escape

/-!
The command queue: envelopes (a payload for a target device) wait first in, first out. A host
takes them one at a time and learns how many are left, or waits until one is there.
-/

namespace ButtonRelay

/-- A payload addressed to a device. -/
structure Envelope where
  payload : List UInt8
  target : Device
  deriving DecidableEq, Repr, Inhabited

/-- The queued envelopes, oldest first. -/
structure Queue where
  pending : List Envelope
  deriving DecidableEq, Repr, Inhabited

/-- How a wait for a command ended. -/
inductive WaitOutcome where
  | ready
  | timedOut
  deriving DecidableEq, Repr

/-- The outcome's name. -/
def WaitOutcome.name : WaitOutcome → String
  | .ready => "Ready"
  | .timedOut => "TimedOut"

namespace Queue

/-- No envelopes. -/
def empty : Queue := ⟨[]⟩

/-- Adds an envelope at the back. -/
def push (thread : Thread) (q : Queue) (e : Envelope) : Logged Queue := do
  let q' : Queue := ⟨q.pending ++ [e]⟩
  emit .trace .queue thread ("Command queued, " ++ toString q'.pending.length ++ " pending")
  pure q'

/-- Takes the oldest envelope, with how many are left. -/
def drain (q : Queue) : Option (Envelope × Nat) × Queue :=
  match q.pending with
  | e :: rest => (some (e, rest.length), ⟨rest⟩)
  | [] => (none, q)

/-- A wait that no push interrupts: ready when something is queued. -/
def waitNow (q : Queue) : WaitOutcome := if q.pending.isEmpty then .timedOut else .ready

/-- How long a wait may last. -/
inductive Timeout where
  | millis (n : Nat)
  | unbounded
  deriving DecidableEq, Repr

/-- What another thread does to the queue while a waiter sleeps. -/
inductive Change where
  | push (thread : Thread) (e : Envelope)
  | drain

/-- Whether a change adds an envelope. -/
def Change.isPush : Change → Bool
  | .push _ _ => true
  | .drain => false

/-- The queue after a change. -/
def Change.apply : Change → Queue → Queue
  | .push thread e, q => ((q.push thread e).run []).1
  | .drain, q => q.drain.2

/-- One return of the condition variable to a waiter: what the other threads did while it
slept, and whether the wait reports that its deadline passed. -/
structure Wakeup where
  changes : List Change
  timedOut : Bool

/-- The queue a waiter finds on waking. -/
def Wakeup.apply (w : Wakeup) (q : Queue) : Queue := w.changes.foldl (fun q c => c.apply q) q

/-- Whether the instant `timeout` from now can be represented: a timeout in milliseconds
always can, the longest duration never can. -/
def Timeout.hasDeadline : Timeout → Bool
  | .millis _ => true
  | .unbounded => false

/-- A wait with a deadline, holding the lock: while the queue is empty it sleeps; a wakeup that
reports the deadline passed ends the wait, ready only if the queue has filled meanwhile. `none`
while it is still asleep when the wakeups run out. -/
def waitUntil (q : Queue) : List Wakeup → Option (WaitOutcome × Queue)
  | [] => if q.pending.isEmpty then none else some (.ready, q)
  | w :: ws =>
    if q.pending.isEmpty then
      if w.timedOut then some (if (w.apply q).pending.isEmpty then .timedOut else .ready, w.apply q)
      else waitUntil (w.apply q) ws
    else some (.ready, q)

/-- A wait with no deadline, holding the lock: it sleeps until it wakes to a non-empty queue. -/
def waitForever (q : Queue) : List Wakeup → Option (WaitOutcome × Queue)
  | [] => if q.pending.isEmpty then none else some (.ready, q)
  | w :: ws => if q.pending.isEmpty then waitForever (w.apply q) ws else some (.ready, q)

/-- A wait that takes the lock on `q` and is then woken by `wakeups`: with the deadline loop
when the deadline can be represented, else with the loop that has none. The waiter itself
never changes the queue. -/
def wait (q : Queue) (t : Timeout) (wakeups : List Wakeup) : Option (WaitOutcome × Queue) :=
  if t.hasDeadline then q.waitUntil wakeups else q.waitForever wakeups

theorem drain_push (q : Queue) (e : Envelope) (t : Thread) (log : List Event) :
    ((q.push t e).run log).1.pending = q.pending ++ [e] := rfl

end Queue

/-- A device as its debug text shows it. -/
def Device.debug (d : Device) : String :=
  "DeviceIdentification \x7b device_type: " ++ toString d.kind.toInt ++ ", role: " ++
    Text.quoteString d.role ++ ", name: " ++ Text.quoteString d.name ++ " \x7d"

/-- An envelope as its debug text shows it. -/
def Envelope.debug (e : Envelope) : String :=
  "CommandEnvelope \x7b payload: " ++ Text.quoteBytes e.payload ++ ", target: " ++ e.target.debug ++
    " \x7d"

/-- Items as a debug list, `[a, b]`. -/
def debugList (items : List String) : String := "[" ++ ", ".intercalate items ++ "]"

end ButtonRelay
