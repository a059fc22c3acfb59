import ButtonRelay.Cli.Args
import ButtonRelay.Cli.Filter
import ButtonRelay.Module
import ButtonRelay.Input.Files
import ButtonRelay.Toml.Flat

/-!
The console bridge: a host that starts a module on the console or on a script, connects one
demo device, and answers every command the module queues with an acknowledgement and a status
report, as a real device would. With callback delivery it logs each command it is handed
instead. It runs until it is interrupted; then it disconnects the device, destroys the module
and logs what the producer counted.

A run is computed whole. The presses are read once the device is connected: the console and
a named pipe are written to only after the bridge says it is ready, and the bridge connects
its device well before the producer has read the first line of a script file.
-/

namespace ButtonRelay.Cli

/-- What the bridge sees around it: what each path names, the named pipes with what is
written to them, what is typed on the console, and the log filter setting. -/
structure World where
  entryAt : String → Input.Entry
  pipes : List (String × List UInt8)
  typed : List UInt8
  logSetting : Option String

/-- An error that ends the bridge: its message and the chain of causes, outermost first. -/
structure Failure where
  message : String
  causes : List String
  deriving DecidableEq, Repr

/-- Writes a cause with each later line indented. -/
def indentCause (first rest : String) (cause : String) : String :=
  match cause.splitOn "\n" with
  | [] => first
  | line :: more => first ++ line ++ String.join (more.map fun l => "\n" ++ rest ++ l)

/-- The number of a cause, right-aligned in five columns. -/
def causeNumber (n : Nat) : String :=
  let s := toString n
  String.ofList (List.replicate (5 - s.length) ' ') ++ s ++ ": "

/-- The text printed to standard error for a failure. -/
def Failure.report (f : Failure) : String :=
  "Error: " ++ f.message ++
    (match f.causes with
      | [] => ""
      | [c] => "\n\nCaused by:\n" ++ indentCause "    " "    " c
      | cs => "\n\nCaused by:" ++ String.join ((cs.zipIdx).map fun (c, n) =>
          "\n" ++ indentCause (causeNumber n) "       " c)) ++ "\n"

/-- The chain of an input fault: its text, then the system's when there is one. -/
def inputChain : Input.Fault → List String
  | .io m => [(Input.Fault.io m).message, m]
  | f => [f.message]

/-- The configuration: from the file when one is named, else from the button; then the
delivery override. -/
def Options.settings (o : Options) (w : World) : Except Failure Config := do
  let base ← match o.config, o.button with
    | some path, _ =>
      match (w.entryAt path).readText with
      | .error e => throw ⟨"cannot read config file " ++ path, [e]⟩
      | .ok text =>
        match Config.checkToml text with
        | .error f => throw ⟨"invalid config file " ++ path, [f.message]⟩
        | .ok c => pure c
    | none, some b =>
      match b.toList with
      | c :: _ => pure ⟨c, .queue⟩
      | [] => throw ⟨"--button must not be empty", []⟩
    | none, none => throw ⟨"either --button or --config is required", []⟩
  pure (match o.delivery with
    | some d => { base with delivery := d }
    | none => base)

/-- Opens the presses' source. -/
def Options.source (o : Options) (w : World) : Except Failure Input.Source :=
  match o.script with
  | none => .ok (.lines (Input.Lines.ofBytes "Console" w.typed))
  | some path =>
    match w.pipes.find? fun p => Input.pathParts p.1 = Input.pathParts path && !path.isEmpty with
    | some (_, bytes) => .ok (.lines (Input.Lines.ofBytes path bytes))
    | none =>
      match (w.entryAt path).openScript path with
      | .ok s => .ok s
      | .error f => .error ⟨"cannot open script " ++ path, inputChain f⟩

/-- Logs a bridge line. -/
def say (text : String) : Logged Unit := emit .info .bridge .host text

/-- Logs each command a callback was handed, on the thread that hands them over. -/
def logHanded (m : Module) : Logged Module := do
  let (got, m') := m.takeReceived
  for (_, e) in got do
    emit .info .bridge .producer ("Callback delivery of " ++ toString e.payload.length ++
      " bytes to " ++ e.target.display)
  pure m'

/-- Answers the queued commands, oldest first: each is acknowledged and answered with a
pressed status; `count` is how many were answered before. -/
def answerAll (device : Device) (count : Nat) : Nat → Module → Logged (Nat × Module)
  | 0, m => pure (count, m)
  | fuel + 1, m =>
    match m.getCommand with
    | .error _ => pure (count, m)
    | .ok ((e, left), m') => do
      say ("Delivering " ++ toString e.payload.length ++ " bytes to " ++ e.target.display ++
        " (" ++ toString left ++ " more queued)")
      Reporter.acknowledge .host e.payload
      let _ ← Reporter.status .host (Status.encode ⟨true⟩) device
      answerAll device (count + 1) fuel m'

/-- One round of polling: answers what is queued, and every tenth answer also sends the
press count as an error report. -/
def poll (device : Device) (count : Nat) (m : Module) : Logged (Nat × Module) := do
  let (count', m') ← answerAll device count m.pending m
  if count' > 0 && count' % 10 == 0 && count' != count then
    let _ ← Reporter.errorReport .host (ErrorReport.encode ⟨count'.toUInt32⟩) device
  pure (count', m')

/-- A call the polling loop makes on the module. -/
inductive PollCall where
  /-- A wait for a command, and how it ended. -/
  | wait (outcome : WaitOutcome)
  /-- A command taken, with how many were left. -/
  | take (e : Envelope) (left : Nat)
  /-- A take that found the queue empty. -/
  | empty
  | ack (payload : List UInt8)
  | status (payload : List UInt8) (device : Device)
  | errorReport (payload : List UInt8) (device : Device)
  deriving DecidableEq, Repr

/-- Where the polling loop stands. -/
inductive PollPhase where
  /-- At the top of the loop, about to wait for a command. -/
  | waiting
  /-- Taking the queued commands one by one. -/
  | taking
  /-- A take found the queue empty: the check for a tenth press comes next. -/
  | checking
  deriving DecidableEq, Repr

/-- The polling loop: how many commands it answered, and where it stands. The count is 32-bit; a
run reaches its bound only after 2^32 commands, and the model counts in `Nat`. -/
structure Poller where
  count : Nat
  phase : PollPhase
  deriving DecidableEq, Repr

/-- One step of the polling loop, on the thread that polls while the producer runs on its own: the
calls it makes and the module after them. A wait ends ready when a command is queued. A command
taken is acknowledged, answered with a pressed status for the device, and counted. Once a take
finds the queue empty, the count is sent as an error report when it is a positive multiple of
ten, and the loop waits again. -/
def Poller.step (device : Device) (p : Poller) (m : Module) : (Poller × Module) × List PollCall :=
  match p.phase with
  | .waiting =>
    if m.plant.outbox.queue.waitNow = .ready then ((⟨p.count, .taking⟩, m), [.wait .ready])
    else ((p, m), [.wait .timedOut])
  | .taking =>
    match m.getCommand with
    | .ok ((e, left), m') =>
      ((⟨p.count + 1, .taking⟩, m'), [.take e left, .ack e.payload, .status (Status.encode ⟨true⟩) device])
    | .error _ => ((⟨p.count, .checking⟩, m), [.empty])
  | .checking =>
    ((⟨p.count, .waiting⟩, m),
      if p.count > 0 && p.count % 10 == 0 then
        [.errorReport (ErrorReport.encode ⟨p.count.toUInt32⟩) device]
      else [])

/-- How a run ends. -/
inductive Ending where
  /-- The bridge exits by itself. -/
  | exits (code : Nat) (stderr : String)
  /-- The bridge waits for an interrupt; after it, it logs `after` and exits with `code`. -/
  | waits (after : List Event) (code : Nat) (stderr : String)

/-- A run: the text it prints, the events it logs, and how it ends. -/
structure Run where
  printed : List String
  events : List Event
  ending : Ending

/-- A run that stops with a failure. -/
def Run.failed (events : List Event) (f : Failure) : Run := ⟨[], events, .exits 1 f.report⟩

/-- The part of a run after the interrupt. -/
def shutdown (device : Device) (m : Module) : Logged Unit := do
  say "Shutting down"
  let m ← match ← m.disconnect .announced device with
    | .ok m' => pure m'
    | .error _ => pure m
  let stats := m.plant.stats
  let _ ← m.destroy
  say ("Observed " ++ toString stats.triggers ++ " presses, delivered " ++
    toString stats.delivered ++ " commands, dropped " ++ toString stats.dropped)

/-- The bridge with its options. -/
def bridge (o : Options) (w : World) : Run :=
  match o.settings w with
  | .error f => Run.failed [] f
  | .ok config =>
    match Device.check 0 o.role o.name with
    | .error f => Run.failed [] ⟨f.message, []⟩
    | .ok device =>
      let ((), started) := (say ("Starting " ++ moduleName ++ " #" ++ toString moduleNumber ++
        " with trigger " ++ Text.quoteChar config.trigger)).run []
      match o.source w with
      | .error f => Run.failed started f
      | .ok source =>
        let ready : Logged (Except Fault Module) := do
          let m ← Module.start config source true
          let m ← if config.delivery = .callback then m.registerCallback .record else pure m
          match ← m.connect device with
          | .error f => pure (.error f)
          | .ok m => do
            say "Type the trigger character and press Enter; Ctrl+C to quit"
            let m ← m.openGate
            let m ← logHanded m
            let (_, m) ← poll device 0 m
            pure (.ok m)
        let (result, events) := ready.run started
        match result with
        | .error f => Run.failed events ⟨f.message, []⟩
        | .ok m =>
          let ((), after) := (shutdown device m).run []
          ⟨[], events, .waits after 0 ""⟩

/-- Runs the bridge on a command line. -/
def run (words : List String) (w : World) : Run :=
  match parseArgs words with
  | .error .help => ⟨helpLines, [], .exits 0 ""⟩
  | .error .version => ⟨[programName ++ " " ++ programVersion], [], .exits 0 ""⟩
  | .error (.fault f) => ⟨[], [], .exits 2 f.text⟩
  | .ok o => bridge o w

/-- A printed log line: level, target and text. -/
def Event.line (e : Event) : String := e.level.name ++ " " ++ e.component.target ++ ": " ++ e.text

/-- The lines a filter prints of some events. -/
def printedLines (f : Filter) (events : List Event) : List String :=
  ((events.filter f.allows).map Event.line).flatMap fun l => l.splitOn "\n"

end ButtonRelay.Cli
