import ButtonRelay.Session

/-!
The module at the grain of its locks. The registry and the sink slot each sit behind a read/write
lock, the command queue behind a mutex with a condition variable. A host call, and a trigger the
producer handles, is a list of steps that take these locks and let them go around their work. A
callback sink hands each command to the host's function on the producer thread, and that
function may call the module in turn.

The threads' steps interleave in whatever order a schedule gives. What the data holds decides a
trigger's steps only through the devices the producer copies out of the registry and the sink it
takes out of the slot, so the schedule names those when the trigger begins; it names the host
calls a callback makes when the callback is reached.
-/

namespace ButtonRelay.Locking

/-- The module's three locks. -/
inductive Lock where
  | registry
  | slot
  | queue
  deriving DecidableEq, Repr

/-- How a lock is held: by readers together, or by one writer. The queue's mutex is only ever
held as a writer. -/
inductive Access where
  | read
  | write
  deriving DecidableEq, Repr

/-- One step of a thread. -/
inductive Action where
  | acquire (l : Lock) (a : Access)
  | release (l : Lock)
  /-- Work that takes none of the locks: on what the thread holds or copied, on the counters, or
  logging. -/
  | work
  /-- The loop of a wait on `l`'s condition variable: while the queue is empty the thread lets
  `l` go and sleeps, then takes it again to look. -/
  | sleep (l : Lock)
  /-- The host's function is called with a command, on this thread. -/
  | callback
  deriving DecidableEq, Repr

/-- Work done under one lock. -/
def guarded (l : Lock) (a : Access) : List Action := [.acquire l a, .work, .release l]

/-- A wait for a command holds the queue's mutex, and sleeps on its condition variable until a
command is queued or the time is up. -/
def queueWait : List Action := [.acquire .queue .write, .sleep .queue, .release .queue]

/-- The steps of each host call. A connect or a disconnect changes the registry under its write
lock, and a disconnect logs after letting it go; the device list is copied under the read lock.
A new callback sink is swapped into the slot under its write lock, and the mode is read under its
read lock. Taking a command holds the queue's mutex, and a wait that timed out logs after letting
it go. The debug text shows the producer, then the registry, the queue and the slot one after
another. Reports, acknowledgements, the counters, the handle itself and the input take none of
the three. -/
def callSteps : Step → List Action
  | .connect _ => guarded .registry .write
  | .disconnect _ _ => guarded .registry .write ++ [.work]
  | .devices => guarded .registry .read
  | .registerCallback _ => guarded .slot .write ++ [.work]
  | .deliveryMode => guarded .slot .read
  | .wait _ => queueWait ++ [.work]
  | .getCommand => guarded .queue .write
  | .debug => .work :: guarded .registry .read ++ guarded .queue .write ++ guarded .slot .read
  | .press _ | .closeInput | .feed | .inputClosed | .callbackLog | .forwardStatus _ _
    | .forwardError _ _ | .ack _ | .state | .stats | .isValid | .destroy | .moduleNumber => [.work]

/-- What a sink does with one command: the queue sink pushes it under the queue's mutex, a
callback sink calls the host's function, and one with no function drops it with a warning. A
function that panics ends the thread inside the call, so the steps after it never run; the lists
here keep them, which only adds schedules. -/
def deliverSteps : Sink → List Action
  | .queue => guarded .queue .write
  | .callback _ | .panicking _ => [.callback]
  | .unregistered => [.work]

/-- One trigger. The devices are copied under the registry's read lock, which is let go at once;
with none, the trigger is only logged. Otherwise the sink is cloned out of the slot under its read
lock, which is let go before each device's command is made and goes through that sink, and
counted. Last the trigger itself is counted. -/
def triggerSteps (devices : List Device) (sink : Sink) : List Action :=
  guarded .registry .read ++
    (if devices.isEmpty then [.work]
      else guarded .slot .read ++ devices.flatMap fun _ => .work :: deliverSteps sink ++ [.work]) ++
    [.work]

/-- A call under way: the steps it has left, and the locks it took and holds. -/
structure Frame where
  steps : List Action
  held : List (Lock × Access)
  deriving DecidableEq, Repr

/-- A thread: its calls under way, innermost first. On the producer thread the calls a callback
makes run in a frame above the trigger's. -/
structure Thread where
  frames : List Frame
  deriving DecidableEq, Repr

/-- Whether `l` can be taken for `a` while the locks `held` are held: for writing when nobody
holds it, for reading when nobody holds it for writing. -/
def available (held : List (Lock × Access)) (l : Lock) : Access → Bool
  | .write => held.all fun h => h.1 != l
  | .read => !held.contains (l, .write)

namespace Thread

/-- A thread with no call under way. -/
def idle : Thread := ⟨[]⟩

/-- The locks the thread holds. -/
def held (t : Thread) : List (Lock × Access) := t.frames.flatMap Frame.held

/-- The lock the thread's next step takes, if it takes one. -/
def wants (t : Thread) : Option Lock :=
  match t.frames with
  | ⟨.acquire l _ :: _, _⟩ :: _ => some l
  | _ => none

/-- The thread's next step, while the threads hold `held`. A step that takes a lock held against
it waits, a call with no steps left returns, and a callback runs the host calls `body` above the
call that reached it. -/
def move (held : List (Lock × Access)) (body : List Step) (t : Thread) : Thread :=
  match t.frames with
  | [] => t
  | ⟨[], _⟩ :: outer => ⟨outer⟩
  | ⟨.acquire l a :: rest, h⟩ :: outer =>
    if available held l a then ⟨⟨rest, (l, a) :: h⟩ :: outer⟩ else t
  | ⟨.release l :: rest, h⟩ :: outer => ⟨⟨rest, h.filter fun x => x.1 != l⟩ :: outer⟩
  | ⟨.work :: rest, h⟩ :: outer => ⟨⟨rest, h⟩ :: outer⟩
  | ⟨.sleep _ :: rest, h⟩ :: outer => ⟨⟨rest, h⟩ :: outer⟩
  | ⟨.callback :: rest, h⟩ :: outer => ⟨⟨body.flatMap callSteps, []⟩ :: ⟨rest, h⟩ :: outer⟩

/-- A thread at a condition variable that finds the queue empty lets the lock go and sleeps; it
takes the lock again before it looks once more. -/
def doze (t : Thread) : Thread :=
  match t.frames with
  | ⟨.sleep l :: rest, h⟩ :: outer =>
    ⟨⟨.acquire l .write :: .sleep l :: rest, h.filter fun x => x.1 != l⟩ :: outer⟩
  | _ => t

/-- A thread with no call under way starts one. -/
def begin (steps : List Action) (t : Thread) : Thread :=
  match t.frames with
  | [] => ⟨[⟨steps, []⟩]⟩
  | _ => t

end Thread

/-- Which thread: the producer, or one of the host's. -/
inductive Who where
  | producer
  | host (i : Nat)
  deriving DecidableEq, Repr

/-- The producer thread and the host's threads. -/
structure State where
  producer : Thread
  hosts : List Thread
  deriving DecidableEq, Repr

/-- A move of the schedule. -/
inductive Turn where
  /-- The producer, between triggers, reads one and begins it, copying `devices` and taking
  `sink`. -/
  | trigger (devices : List Device) (sink : Sink)
  /-- Host thread `i`, between calls, begins one. -/
  | call (i : Nat) (step : Step)
  /-- A thread takes its next step; a callback it reaches makes the host calls `body`. -/
  | move (who : Who) (body : List Step)
  /-- A thread at a condition variable sleeps. -/
  | doze (who : Who)

namespace State

/-- No call under way, on the producer and on `hosts` host threads. -/
def start (hosts : Nat) : State := ⟨.idle, List.replicate hosts .idle⟩

/-- Every thread, the producer first. -/
def threads (s : State) : List Thread := s.producer :: s.hosts

/-- Every lock held, by any thread. -/
def held (s : State) : List (Lock × Access) := s.threads.flatMap Thread.held

/-- The state with one thread changed; there is no host thread past the last. -/
def update (s : State) (who : Who) (f : Thread → Thread) : State :=
  match who with
  | .producer => { s with producer := f s.producer }
  | .host i => { s with hosts := s.hosts.set i (f (s.hosts.getD i .idle)) }

/-- One move. -/
def step (s : State) : Turn → State
  | .trigger devices sink => s.update .producer (Thread.begin (triggerSteps devices sink))
  | .call i call => s.update (.host i) (Thread.begin (callSteps call))
  | .move who body => s.update who (Thread.move s.held body)
  | .doze who => s.update who Thread.doze

/-- The moves in order. -/
def run (s : State) : List Turn → State
  | [] => s
  | turn :: more => (s.step turn).run more

end State

end ButtonRelay.Locking
