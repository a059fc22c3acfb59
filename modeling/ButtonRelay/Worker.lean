import ButtonRelay.Producer

/-!
The producer's thread and its owner's handle on it. The thread loops: it looks for the stop
signal first and, while there is none, reads the source once and handles what it read. When the
source ends or fails it leaves the loop and only waits for the signal. Once it has seen the signal
it publishes `Stopping`, and it publishes `Terminated` as its thread ends. A host callback that
panics unwinds the thread where it stands: it publishes nothing more. The owner stops it by
sending the signal and joining the thread; the join of a thread that panicked fails. A second stop
finds the thread joined and does nothing.
-/

namespace ButtonRelay

/-- The producer's state as its owner reads it. -/
inductive Lifecycle where
  | running
  | stopping
  | terminated
  deriving DecidableEq, Repr

/-- A state's name. -/
def Lifecycle.name : Lifecycle → String
  | .running => "Running"
  | .stopping => "Stopping"
  | .terminated => "Terminated"

/-- Where the producer thread is. -/
inductive Stage where
  /-- In its loop: it looks for the stop signal, then reads. -/
  | listening
  /-- Its source ended or failed: it waits for the stop signal only. -/
  | idle
  /-- It has seen the stop signal and left its loop. -/
  | stopping
  /-- Its thread has ended. -/
  | finished
  /-- A host callback panicked on it: its thread ended without publishing again. -/
  | panicked
  deriving DecidableEq, Repr

/-- The producer thread over a source read by steps of type `σ`, with what its owner holds: the
state the thread last published, whether the stop signal was sent, and whether the thread was
joined. -/
structure Worker (σ : Type) where
  source : σ
  stage : Stage
  state : Lifecycle
  stopSent : Bool
  joined : Bool
  plant : Plant
  deriving DecidableEq, Repr

namespace Worker

variable {σ : Type} (trigger : Char) (name : String) (next : σ → Logged (Input.Read × σ))

/-- A thread just started: it has published `Running` and listens. -/
def spawn (source : σ) (plant : Plant) : Worker σ := ⟨source, .listening, .running, false, false, plant⟩

/-- The thread moves to a stage and publishes a state. -/
def publish (w : Worker σ) (stage : Stage) (state : Lifecycle) : Logged (Worker σ) := do
  emit .debug .producer .producer ("Input producer " ++ state.name)
  pure { w with stage := stage, state := state }

/-- The thread reads its source once and handles what it read; it answers the read. -/
def read (w : Worker σ) : Logged (Input.Read × Worker σ) := do
  let (r, source) ← next w.source
  match ← w.plant.take trigger name r with
  | some plant =>
    pure (r, { w with source := source, plant := plant, stage := if r.ends then .idle else .listening })
  | none => pure (r, { w with source := source, stage := .panicked })

/-- One step of the thread. In its loop it looks for the stop signal before it reads, so a read
never starts once the signal is sent; after its source ended it only waits for the signal. -/
def turn (w : Worker σ) : Logged (Worker σ) :=
  match w.stage with
  | .listening =>
    if w.stopSent then w.publish .stopping .stopping
    else do
      let (_, w') ← read trigger name next w
      pure w'
  | .idle => if w.stopSent then w.publish .stopping .stopping else pure w
  | .stopping => w.publish .finished .terminated
  | .finished | .panicked => pure w

/-- The owner sends the stop signal. -/
def signal (w : Worker σ) : Worker σ := { w with stopSent := true }

/-- The owner's stop: unless the thread is already joined, it sends the stop signal and waits for
the thread to end, which takes the thread two steps at most, one to see the signal and one to end.
The join of a thread that panicked fails: the stop logs it and fails, and the thread counts as
joined all the same. -/
def stop (w : Worker σ) : Logged (Except Fault Unit × Worker σ) :=
  if w.joined then pure (.ok (), w)
  else if w.stage = .panicked then do
    emit .error .producer .host "Input producer thread panicked"
    pure (.error .producerFailed, { w.signal with joined := true })
  else do
    let w ← turn trigger name next w.signal
    let w ← turn trigger name next w
    emit .info .producer .host "Input producer stopped"
    pure (.ok (), { w with joined := true })

/-- The thread's steps while it listens with no stop signal sent, until a read finds nothing more
for now, at most `fuel` of them. -/
def settleFuel : Nat → Worker σ → Logged (Worker σ)
  | 0, w => pure w
  | fuel + 1, w =>
    if w.stage = .listening ∧ w.stopSent = false then do
      let (r, w') ← read trigger name next w
      if r = .pending then pure w' else settleFuel fuel w'
    else pure w

end Worker

/-- What happens next to the thread: it takes a step, its owner sends the stop signal and has not
yet joined it, its owner stops it, or its owner reads the state it published. -/
inductive Move where
  | turn
  | signal
  | stop
  | observe
  deriving DecidableEq, Repr

namespace Worker

variable {σ : Type} (trigger : Char) (name : String) (next : σ → Logged (Input.Read × σ))

/-- One move. -/
def act (w : Worker σ) : Move → Logged (Worker σ)
  | .turn => turn trigger name next w
  | .signal => pure w.signal
  | .stop => do
    let (_, w') ← stop trigger name next w
    pure w'
  | .observe => pure w

/-- Makes the moves in order, with the states the owner observed. -/
def run (w : Worker σ) : List Move → Logged (Worker σ × List Lifecycle)
  | [] => pure (w, [])
  | m :: more => do
    let w' ← act trigger name next w m
    let (last, seen) ← run w' more
    pure (last, if m = .observe then w.state :: seen else seen)

end Worker

end ButtonRelay
