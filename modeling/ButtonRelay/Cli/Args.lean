import ButtonRelay.Cli.Similar
import ButtonRelay.Delivery
import ButtonRelay.Fault

/-!
The bridge's command line. Every option is long; help and version also have a short form.
Words are read left to right:

* `--` ends the options, and every later word is refused;
* `--name=value` gives a value in the same word, and `--name` takes the next word unless that
  word looks like an option;
* a value waiting for its option is only checked when the next option comes or the words end,
  so a later unknown word is reported first;
* an option given twice, a value missing, an empty path, a value that does not parse, or a
  value given to a flag stops the reading with an error;
* an unknown option is reported with the pending option taken as far as it goes: named even
  if its value does not parse, and no longer named if it was given before;
* help and version stop the reading as soon as they are seen.

Once all words are read, `--button` and `--config` may not both be given. Errors come with a
usage line that names the options given so far; after a value given to a flag, the line names
the flag and, once any setting has been taken, all the settings as one choice.
-/

namespace ButtonRelay.Cli

/-- The bridge's options, in the order its help lists them. -/
inductive Opt where
  | button
  | config
  | script
  | delivery
  | role
  | name
  | pollMs
  | help
  | version
  deriving DecidableEq, Repr, Inhabited

namespace Opt

/-- Every option, in help order. -/
def all : List Opt := [.button, .config, .script, .delivery, .role, .name, .pollMs, .help, .version]

/-- The options that set up a run, all but help and version. -/
def settings : List Opt := [.button, .config, .script, .delivery, .role, .name, .pollMs]

/-- The long name. -/
def long : Opt → String
  | .button => "button"
  | .config => "config"
  | .script => "script"
  | .delivery => "delivery"
  | .role => "role"
  | .name => "name"
  | .pollMs => "poll-ms"
  | .help => "help"
  | .version => "version"

/-- The short name, if there is one. -/
def short : Opt → Option Char
  | .help => some 'h'
  | .version => some 'V'
  | _ => none

/-- The name of the option's value; flags take none. -/
def valueName : Opt → Option String
  | .help | .version => none
  | o => some (String.map Char.toUpper (o.long.replace "-" "_"))

/-- Whether the option takes a value. -/
def takesValue (o : Opt) : Bool := o.valueName.isSome

/-- The one-line help. -/
def about : Opt → String
  | .button => "Trigger character; only the first character is used"
  | .config => "Flat TOML file with \x60button\x60 and optional \x60delivery\x60 keys"
  | .script => "Replay presses from a text file instead of reading the console"
  | .delivery => "Override the delivery mode (\x60queue\x60 or \x60callback\x60)"
  | .role => "Role of the demo device"
  | .name => "Name of the demo device"
  | .pollMs => "How long each poll for commands blocks, in milliseconds"
  | .help => "Print help"
  | .version => "Print version"

/-- The value used when the option is not given. -/
def fallback : Opt → Option String
  | .role => some "GreenButton"
  | .name => some "A-1"
  | .pollMs => some "1000"
  | _ => none

/-- The option as errors and usage lines show it: `--button <BUTTON>`, `--help`. -/
def display (o : Opt) : String :=
  "--" ++ o.long ++ match o.valueName with
    | some v => " <" ++ v ++ ">"
    | none => ""

/-- The option with its long name, if any. -/
def ofLong (name : String) : Option Opt := all.find? (·.long == name)

/-- The option with its short name, if any. -/
def ofShort (c : Char) : Option Opt := all.find? (·.short == some c)

end Opt

/-- The program's name. -/
def programName : String := "accessory-bridge"

/-- The program's version. -/
def programVersion : String := "0.1.0"

/-- The usage line with these parts, or `[OPTIONS]` when there is none. -/
def usageOf (parts : List String) : String :=
  "Usage: " ++ programName ++ " " ++ (if parts.isEmpty then "[OPTIONS]" else " ".intercalate parts)

/-- The usage line naming the given options, or `[OPTIONS]` when none is named. -/
def usageLine (given : List Opt) : String := usageOf (given.map Opt.display)

/-- The setting options as one choice, `<--button <BUTTON>|…|--poll-ms <POLL_MS>>`. -/
def settingsChoice : String := "<" ++ "|".intercalate (Opt.settings.map Opt.display) ++ ">"

/-- The option column of a help line: `  -h, --help` or `      --button <BUTTON>`. -/
def Opt.column (o : Opt) : String :=
  (match o.short with
    | some c => "  -" ++ String.singleton c ++ ", "
    | none => "      ") ++ o.display

/-- The help text, one line at a time. -/
def helpLines : List String :=
  let width := (Opt.all.map fun o => o.column.length).foldl max 0 + 2
  let line (o : Opt) : String :=
    let col := o.column
    col ++ String.ofList (List.replicate (width - col.length) ' ') ++ o.about ++
      match o.fallback with
      | some d => " [default: " ++ d ++ "]"
      | none => ""
  ["Console host for the button accessory module", "", usageLine [], "", "Options:"] ++
    Opt.all.map line

/-- Why an integer did not parse. -/
inductive NumberFault where
  | empty
  | invalidDigit
  | tooLarge
  deriving DecidableEq, Repr

/-- The text of a number fault. -/
def NumberFault.message : NumberFault → String
  | .empty => "cannot parse integer from empty string"
  | .invalidDigit => "invalid digit found in string"
  | .tooLarge => "number too large to fit in target type"

/-- The largest 64-bit unsigned number. -/
def u64Max : Nat := Nat.pow 2 64 - 1

/-- Reads decimal digits onto `acc`, left to right; the first bad digit or the first step past
the largest 64-bit number decides the fault. -/
def digitsOnto (acc : Nat) : List Char → Except NumberFault Nat
  | [] => .ok acc
  | c :: more =>
    if c.isDigit then
      let next := acc * 10 + (c.toNat - '0'.toNat)
      if next > u64Max then .error .tooLarge else digitsOnto next more
    else .error .invalidDigit

/-- Reads a 64-bit unsigned number, with an optional leading `+`. -/
def parseU64 (text : String) : Except NumberFault Nat :=
  match text.toList with
  | [] => .error .empty
  | ['+'] | ['-'] => .error .invalidDigit
  | '+' :: digits => digitsOnto 0 digits
  | digits => digitsOnto 0 digits

/-- Why the command line was refused. -/
inductive ArgFault where
  /-- A word that names no option; a similar option may be suggested. -/
  | unknown (word : String) (suggestion : Option Opt) (given : List Opt)
  | missingValue (o : Opt)
  /-- A path option given the empty text, which names no path. -/
  | emptyPath (o : Opt)
  | repeated (o : Opt)
  | conflict (o other : Opt) (given : List Opt)
  | invalidValue (o : Opt) (value : String) (reason : String)
  /-- A value given to a flag; `afterSettings` tells whether a setting was taken before. -/
  | extraValue (o : Opt) (value : String) (afterSettings : Bool)
  deriving DecidableEq, Repr

/-- The error text, as printed to standard error. -/
def ArgFault.text (f : ArgFault) : String :=
  let (body, tip, usage) : String × Option String × Option String := match f with
    | .unknown w s given =>
      ("unexpected argument '" ++ w ++ "' found", s.map fun o => "--" ++ o.long, some (usageLine given))
    | .missingValue o | .emptyPath o =>
      ("a value is required for '" ++ o.display ++ "' but none was supplied", none, none)
    | .repeated o => ("the argument '" ++ o.display ++ "' cannot be used multiple times", none, some (usageLine []))
    | .conflict o other given =>
      ("the argument '" ++ o.display ++ "' cannot be used with '" ++ other.display ++ "'", none,
        some (usageLine given))
    | .invalidValue o v reason =>
      ("invalid value '" ++ v ++ "' for '" ++ o.display ++ "': " ++ reason, none, none)
    | .extraValue o v afterSettings =>
      ("unexpected value '" ++ v ++ "' for '" ++ o.display ++ "' found; no more were expected", none,
        some (usageOf (o.display :: if afterSettings then [settingsChoice] else [])))
  "error: " ++ body ++
    (match tip with
      | some t => "\n\n  tip: a similar argument exists: '" ++ t ++ "'"
      | none => "") ++
    (match usage with
      | some line => "\n\n" ++ line
      | none => "") ++
    "\n\nFor more information, try '--help'.\n"

/-- Why reading the command line stopped early. -/
inductive Stop where
  | help
  | version
  | fault (f : ArgFault)
  deriving DecidableEq, Repr

/-- The options as given: each with its value, in the order they were first taken. -/
abbrev Given := List (Opt × String)

/-- Checks a value for its option: a path may not be empty, a delivery mode or a count must
parse. -/
def checkValue (o : Opt) (v : String) : Except ArgFault Unit :=
  match o with
  | .config | .script => if v.isEmpty then .error (.emptyPath o) else .ok ()
  | .pollMs =>
    match parseU64 v with
    | .ok _ => .ok ()
    | .error e => .error (.invalidValue o v e.message)
  | .delivery =>
    match Delivery.parse v with
    | .ok _ => .ok ()
    | .error n => .error (.invalidValue o v (Fault.invalidConfiguration (.unknownDelivery n)).message)
  | _ => .ok ()

/-- Takes a value for an option: a second value, or a value that does not parse, is refused. -/
def take (given : Given) (o : Opt) (v : String) : Except ArgFault Given :=
  if given.any (·.1 == o) then .error (.repeated o)
  else (checkValue o v).map fun () => given ++ [(o, v)]

/-- An option read but not yet taken: waiting for its value, or holding it. -/
abbrev Pending := Option (Opt × Option String)

/-- Takes the pending option, if there is one; an option with no value is refused. -/
def settle (given : Given) : Pending → Except ArgFault Given
  | none => .ok given
  | some (o, none) => .error (.missingValue o)
  | some (o, some v) => take given o v

/-- The options named so far, for a usage line. -/
def named (given : Given) : List Opt := given.map Prod.fst

/-- The options named once the pending option is taken without its checks: one with a value
is named even when the value does not parse, and one given a second time is no longer named,
since its first value is dropped before the repetition is refused. -/
def settleLoosely (given : Given) : Pending → Given
  | some (o, some v) => if given.any (·.1 == o) then given.filter (·.1 != o) else given ++ [(o, v)]
  | _ => given

/-- A word that names no option. The option pending before it is taken loosely, and the
usage line names what is taken then, with the suggested option if there is one. -/
def unknownLong (before : Given) (pending : Pending) (name : String) : ArgFault :=
  let given := settleLoosely before pending
  let suggestion := (closest name (Opt.all.map Opt.long)).bind Opt.ofLong
  let shown := match suggestion with
    | some o => if named given |>.contains o then named given else named given ++ [o]
    | none => named given
  .unknown ("--" ++ name) suggestion shown

/-- Reads the words after a `--`: any word there is refused. -/
def afterEnd : List String → Except Stop Unit
  | [] => .ok ()
  | w :: _ => .error (.fault (.unknown w none []))

/-- Splits `name=value` at the first `=`. -/
def splitValue (word : String) : String × Option String :=
  match word.splitOn "=" with
  | [] => (word, none)
  | [n] => (n, none)
  | n :: rest => (n, some ("=".intercalate rest))

/-- Lifts an option fault into a stop. -/
def faultIn {α : Type} (r : Except ArgFault α) : Except Stop α := r.mapError Stop.fault

/-- Reads the words, with the options taken so far and the one pending. -/
def readWords (given : Given) (pending : Pending) : List String → Except Stop (Given × Bool)
  | [] => do
    let given ← faultIn (settle given pending)
    pure (given, false)
  | w :: more =>
    if w == "--" then do
      let given ← faultIn (settle given pending)
      afterEnd more
      pure (given, true)
    else if w.startsWith "--" then
      let (name, value) := splitValue (w.drop 2).toString
      match Opt.ofLong name with
      | none => .error (.fault (unknownLong given pending name))
      | some o =>
        if o.takesValue then
          match value with
          | some v => do
            let given ← faultIn (settle given pending)
            let given ← faultIn (take given o v)
            readWords given none more
          | none => do
            let given ← faultIn (settle given pending)
            readWords given (some (o, none)) more
        else
          match value with
          | some v => .error (.fault (.extraValue o v !given.isEmpty))
          | none => do
            let _ ← faultIn (settle given pending)
            .error (if o == .help then Stop.help else Stop.version)
    else if w.startsWith "-" && w.length > 1 then
      match w.toList.drop 1 with
      | c :: _ =>
        match Opt.ofShort c with
        | some o => do
          let _ ← faultIn (settle given pending)
          .error (if o == .help then .help else .version)
        | none => .error (.fault (.unknown ("-" ++ String.singleton c) none []))
      | [] => .error (.fault (.unknown w none []))
    else
      match pending with
      | some (o, none) => readWords given (some (o, some w)) more
      | _ => .error (.fault (.unknown w none []))

/-- The options of a run, with the fallbacks filled in. -/
structure Options where
  button : Option String
  config : Option String
  script : Option String
  delivery : Option Delivery
  role : String
  name : String
  pollMs : Nat
  deriving Repr

/-- The value given for an option, or its fallback. -/
def valueOf (given : Given) (o : Opt) : Option String :=
  match given.find? (·.1 == o) with
  | some (_, v) => some v
  | none => o.fallback

/-- The options from the checked values. -/
def Options.ofGiven (given : Given) : Options where
  button := valueOf given .button
  config := valueOf given .config
  script := valueOf given .script
  delivery := (valueOf given .delivery).bind fun v => (Delivery.parse v).toOption
  role := (valueOf given .role).getD ""
  name := (valueOf given .name).getD ""
  pollMs := ((valueOf given .pollMs).bind fun v => (parseU64 v).toOption).getD 0

/-- Refuses `--button` with `--config`: the option given first is the one reported. -/
def checkConflicts (given : Given) : Except ArgFault Unit :=
  let partner : Opt → Option Opt
    | .button => some .config
    | .config => some .button
    | _ => none
  match given.find? fun (o, _) => match partner o with
      | some p => (named given).contains p
      | none => false with
  | some (o, _) =>
    match partner o with
    | some p => .error (.conflict o p ((named given).filter (· != p)))
    | none => .ok ()
  | none => .ok ()

/-- Reads a command line. -/
def parseArgs (words : List String) : Except Stop Options := do
  let (given, _) ← readWords [] none words
  faultIn (checkConflicts given)
  pure (Options.ofGiven given)

theorem digitsOnto_nil (acc : Nat) : digitsOnto acc [] = .ok acc := rfl

end ButtonRelay.Cli
