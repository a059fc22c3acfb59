/-!
Log events. Each event has a level, the component that emits it (its target in filters and
in printed lines), the thread it is emitted on, and its text. The host thread is the caller's;
the producer thread reads input and delivers commands on its own.
-/

namespace ButtonRelay

/-- Levels, from the most verbose to the most severe. -/
inductive Level where
  | trace
  | debug
  | info
  | warn
  | error
  deriving DecidableEq, Repr, Inhabited

/-- A level's rank: trace is 0, error is 4. -/
def Level.rank : Level → Nat
  | .trace => 0
  | .debug => 1
  | .info => 2
  | .warn => 3
  | .error => 4

/-- A level's name in capitals. -/
def Level.name : Level → String
  | .trace => "TRACE"
  | .debug => "DEBUG"
  | .info => "INFO"
  | .warn => "WARN"
  | .error => "ERROR"

/-- The parts of the program that emit events. -/
inductive Component where
  | bridge
  | registry
  | queue
  | sink
  | reporter
  | producer
  | context
  | lines
  deriving DecidableEq, Repr, Inhabited

/-- The target a component's events carry. -/
def Component.target : Component → String
  | .bridge => "accessory_bridge"
  | .registry => "accessory_module::registry"
  | .queue => "accessory_module::queue"
  | .sink => "accessory_module::sink"
  | .reporter => "accessory_module::reporter"
  | .producer => "accessory_module::producer"
  | .context => "accessory_module::context"
  | .lines => "accessory_input::line"

/-- The thread an event is emitted on. -/
inductive Thread where
  | host
  | producer
  /-- A thread the host starts to push a command while it waits. -/
  | pusher
  deriving DecidableEq, Repr, Inhabited

/-- One log event. -/
structure Event where
  level : Level
  component : Component
  thread : Thread
  text : String
  deriving DecidableEq, Repr, Inhabited

/-- Computations that emit events, in order. -/
abbrev Logged := StateM (List Event)

/-- Emits one event. -/
def emit (level : Level) (component : Component) (thread : Thread) (text : String) :
    Logged Unit :=
  modify (· ++ [⟨level, component, thread, text⟩])

/-- Runs a computation with no events before it. -/
def Logged.run' {α : Type} (x : Logged α) : α × List Event := x.run []

@[simp] theorem Logged.pure_fst {α β : Type} (p : α × β) : (pure p : Id (α × β)).1 = p.1 := rfl

@[simp] theorem Logged.pure_snd {α β : Type} (p : α × β) : (pure p : Id (α × β)).2 = p.2 := rfl

theorem Logged.map_fst {α β : Type} (f : α → β) (x : Logged α) (log : List Event) :
    ((f <$> x).run log).1 = f (x.run log).1 := rfl

/-- What a sequenced computation answers, read off the first one's run. -/
theorem Logged.bind_fst {α β : Type} (x : Logged α) (f : α → Logged β) (log : List Event) :
    ((x >>= f).run log).1 = ((f (x.run log).1).run (x.run log).2).1 := rfl

/-- The events of the host thread. -/
def hostEvents (events : List Event) : List Event := events.filter (·.thread = .host)

/-- A duration of whole milliseconds as a debug text: `0ns`, `7ms`, `1.5s`. -/
def durationText (ms : Nat) : String :=
  if ms = 0 then "0ns"
  else if ms < 1000 then toString ms ++ "ms"
  else
    let frac := ms % 1000
    let digits := String.ofList ((Nat.toDigits 10 (frac + 1000)).drop 1)
    let trimmed := String.ofList ((digits.toList.reverse.dropWhile (· = '0')).reverse)
    toString (ms / 1000) ++ (if frac = 0 then "" else "." ++ trimmed) ++ "s"

example : durationText 0 = "0ns" ∧ durationText 1 = "1ms" ∧ durationText 1500 = "1.5s" := by
  decide +kernel

end ButtonRelay
