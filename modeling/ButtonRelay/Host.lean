import ButtonRelay.Session
import ButtonRelay.Input.Files

/-!
Starting a module for a host. The host first opens the source the presses come from: a
channel it presses by hand, lines of bytes, or a script file in its working directory. A line
or script source waits behind a gate until the host opens it. Then the configuration is read
and the module started; a refused configuration ends the start with nothing running.
-/

namespace ButtonRelay

/-- Where a module's presses come from. -/
inductive Feed where
  | mock (name : String)
  | lines (name : String) (bytes : List UInt8)
  | script (files : Input.Files) (path : String)

/-- Why a module could not be started. -/
inductive StartFault where
  | input (f : Input.Fault)
  | module (f : Fault)

/-- Opens the source, and says whether it waits behind a gate. -/
def Feed.openSource : Feed → Except Input.Fault (Input.Source × Bool)
  | .mock name => .ok (.mock (Input.Mock.create name), false)
  | .lines name bytes => .ok (.lines (Input.Lines.ofBytes name bytes), true)
  | .script files path => (files.openScript path).map fun s => (s, true)

/-- Opens the source, then starts the module with the settings `get` gives. -/
def Session.begin (get : String → Option String) (feed : Feed) :
    Logged (Except StartFault Session) :=
  match feed.openSource with
  | .error f => pure (.error (.input f))
  | .ok (source, gated) => do
    match ← Module.ofSettings get source gated with
    | .error f => pure (.error (.module f))
    | .ok m => pure (.ok (Session.holding m gated))

/-- Connects devices in order; the first refusal ends it. -/
def Module.connectAll (m : Module) : List (Except Fault Device) → Logged (Except Fault Module)
  | [] => pure (.ok m)
  | d :: more => do
    match d with
    | .error f => pure (.error f)
    | .ok d =>
      match ← m.connect d with
      | .error f => pure (.error f)
      | .ok m' => m'.connectAll more

/-- A module run straight through: started on a hand-pressed channel, the devices connected,
the presses made and handled, then destroyed. The answer is the module as it stood before it
was destroyed. -/
def Module.runThrough (config : Config) (devices : List (Except Fault Device)) (presses : List Char) :
    Logged (Except Fault Module) := do
  let m ← Module.start config (.mock (Input.Mock.create Input.Mock.defaultName)) false
  let result : Except Fault Module ← match ← m.connectAll devices with
    | .error f => pure (.error f)
    | .ok m' =>
      match m'.channel.map fun c => c.pressAll presses with
      | some (Except.ok c) => Except.ok <$> (m'.withChannel c).settle
      | _ => pure (.ok m')
  let _ ← m.destroy
  pure result

end ButtonRelay
