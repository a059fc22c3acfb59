import ButtonRelay.Module

/-!
A host session through a module handle. The handle holds a module until it is destroyed;
after that, and on a handle that never held one, every module call is refused as an invalid
handle. The host also keeps the handle of a hand-pressed source, which outlives the module:
once the module is gone its presses fail as closed. Without such a handle (another source, a
handle that never held a module, or one the host let go of) the host cannot press at all, and
without the gate of a line source it has nothing to open.
-/

namespace ButtonRelay

/-- A call the host makes. -/
inductive Step where
  | connect (d : Device)
  | disconnect (reason : DisconnectReason) (d : Device)
  | devices
  | press (cs : List Char)
  | closeInput
  | feed
  | inputClosed
  | registerCallback (f : Callback)
  | callbackLog
  | deliveryMode
  | wait (timeoutMs : Nat)
  | getCommand
  | forwardStatus (payload : List UInt8) (d : Device)
  | forwardError (payload : List UInt8) (d : Device)
  | ack (payload : List UInt8)
  | state
  | stats
  | isValid
  | destroy
  | moduleNumber
  | debug

/-- What a call answers. -/
inductive Reply where
  | ok
  | fault (f : Fault)
  | inputFault (f : Input.Fault)
  | devices (ds : List Device)
  | closed (b : Bool)
  | received (entries : List (Nat × Envelope))
  | delivery (d : Delivery)
  | outcome (o : WaitOutcome)
  | command (e : Envelope) (remaining : Nat)
  | state (name : String)
  | stats (s : Stats)
  | valid (b : Bool)
  | number (n : Int)
  | debug (text : String)
  /-- The host holds no handle for this call: no press handle, or no gate to open. -/
  | refused (why : String)

/-- The host's side: the module while there is one, the hand-pressed channel once the module
no longer holds it, whether the host still holds its press handle, whether it holds the gate
of a line source, and what the callbacks received that the host has not asked for while no
module holds it. -/
structure Session where
  module : Option Module
  detached : Option (Input.Mock Input.Pipe)
  pressing : Bool
  gate : Bool
  unread : List (Nat × Envelope)

namespace Session

/-- A handle that never held a module; the host has no source of its own. -/
def invalid : Session := ⟨none, none, false, false, []⟩

/-- A handle holding a module; `gate` tells whether the module reads a line source behind the
host's gate. -/
def holding (m : Module) (gate : Bool) : Session := ⟨some m, none, m.channel.isSome, gate, []⟩

/-- The refusal when the host has no press handle. -/
def noMock : Reply := .refused "no mock input"

/-- The hand-pressed channel, wherever it is. -/
def channel (s : Session) : Option (Input.Mock Input.Pipe) :=
  match s.module.bind Module.channel with
  | some c => some c
  | none => s.detached

/-- Changes the channel and lets the producer read. -/
def updateChannel (s : Session) (c : Input.Mock Input.Pipe) : Logged Session := do
  match s.module with
  | some m =>
    if (m.channel).isSome then
      let m' ← (m.withChannel c).settle
      pure { s with module := some m' }
    else pure { s with detached := some c }
  | none => pure { s with detached := some c }

/-- A call that needs the module. -/
def withModule (s : Session) (k : Module → Logged (Reply × Module)) : Logged (Reply × Session) := do
  match s.module with
  | none => pure (.fault .invalidHandle, s)
  | some m => do
    let (r, m') ← k m
    pure (r, { s with module := some m' })

/-- A module call that may be refused with a fault. -/
def faultOr (r : Logged (Except Fault Module)) (m : Module) : Logged (Reply × Module) := do
  match ← r with
  | .ok m' => pure (.ok, m')
  | .error f => pure (.fault f, m)

/-- Makes one call. -/
def step (s : Session) : Step → Logged (Reply × Session)
  | .connect d => s.withModule fun m => faultOr (m.connect d) m
  | .disconnect reason d => s.withModule fun m => faultOr (m.disconnect reason d) m
  | .devices => s.withModule fun m => pure (.devices m.plant.registry.devices, m)
  | .press cs =>
    match s.channel with
    | none => pure (noMock, s)
    | some c =>
      if !s.pressing then pure (noMock, s) else
      match c.pressAll cs with
      | .ok c' => do pure (.ok, ← s.updateChannel c')
      | .error f => do
        -- the presses before the failing one still went in
        pure (.inputFault f, s)
  | .closeInput =>
    match s.channel with
    | none => pure (noMock, s)
    | some c =>
      if !s.pressing then pure (noMock, s) else do
      let s' ← { s with pressing := false }.updateChannel (c.dropHandle 0)
      pure (.ok, s')
  | .feed =>
    if !s.gate then pure (.refused "no line input", s) else
    match s.module with
    | none => pure (.ok, s)
    | some m => do
      let m' ← m.openGate
      pure (.ok, { s with module := some m' })
  | .inputClosed =>
    match s.channel with
    | none => pure (noMock, s)
    | some c =>
      if !s.pressing then pure (noMock, s)
      else pure (.closed c.isClosed, s)
  | .registerCallback f => s.withModule fun m => do pure (.ok, ← m.registerCallback f)
  | .callbackLog =>
    match s.module with
    | none => pure (.received s.unread, { s with unread := [] })
    | some m =>
      let (got, m') := m.takeReceived
      pure (.received got, { s with module := some m' })
  | .deliveryMode => s.withModule fun m => pure (.delivery m.deliveryMode, m)
  | .wait ms => s.withModule fun m => do pure (.outcome (← m.wait ms), m)
  | .getCommand => s.withModule fun m =>
    match m.getCommand with
    | .ok ((e, left), m') => pure (.command e left, m')
    | .error f => pure (.fault f, m)
  | .forwardStatus payload d => s.withModule fun m => do
    match ← Reporter.status .host payload d with
    | .ok _ => pure (.ok, m)
    | .error f => pure (.fault f, m)
  | .forwardError payload d => s.withModule fun m => do
    match ← Reporter.errorReport .host payload d with
    | .ok _ => pure (.ok, m)
    | .error f => pure (.fault f, m)
  | .ack payload => s.withModule fun m => do
    Reporter.acknowledge .host payload
    pure (.ok, m)
  | .state => s.withModule fun m => pure (.state m.producer.state.name, m)
  | .stats => s.withModule fun m => pure (.stats m.plant.stats, m)
  | .isValid => pure (.valid s.module.isSome, s)
  | .destroy =>
    match s.module with
    | none => pure (.fault .invalidHandle, s)
    | some m => do
      -- the handle lets go of the module before the producer is stopped, so it is invalid
      -- whatever the stop answers
      let ended ← m.destroy
      let detached := match m.channel with
        | some c => some c.dropReader
        | none => s.detached
      pure (match ended with
        | .ok () => .ok
        | .error f => .fault f, ⟨none, detached, s.pressing, s.gate, m.plant.outbox.received⟩)
  | .moduleNumber => pure (.number moduleNumber, s)
  | .debug =>
    match s.module with
    | none => pure (.debug "ModuleHandle \x7b context: None \x7d", s)
    | some m => pure (.debug ("ModuleHandle \x7b context: Some(" ++ m.debug ++ ") \x7d"), s)

/-- Makes the calls in order. -/
def run (s : Session) : List Step → Logged (List Reply × Session)
  | [] => pure ([], s)
  | st :: more => do
    let (r, s') ← s.step st
    let (rs, s'') ← s'.run more
    pure (r :: rs, s'')

/-- Lets go of the handle at the end: a module still held stops its producer. -/
def close (s : Session) : Logged Unit :=
  match s.module with
  | some m => m.release
  | none => pure ()

end Session

end ButtonRelay
