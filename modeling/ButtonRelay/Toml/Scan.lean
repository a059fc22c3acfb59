/-!
Scanning TOML text. A scan reads characters from a cursor that counts bytes, and fails either
softly (another alternative may still match from where this one started) or for good (the
text is wrong here). A failure carries what the rule was reading (a label), what it expected,
and an underlying cause; it is reported where the cursor stands when it reaches the top, so
rules that give up move the cursor back only where the grammar says so.
-/

namespace ButtonRelay.Toml

/-- The unread text and how many bytes were read. -/
structure Cursor where
  rest : List Char
  pos : Nat
  deriving DecidableEq, Repr, Inhabited

/-- Something a rule expected to see. -/
inductive Expected where
  | char (c : Char)
  | literal (s : String)
  | description (s : String)
  deriving DecidableEq, Repr

/-- What a failure says about the rule it came from. -/
inductive Context where
  | label (s : String)
  | expected (e : Expected)
  deriving DecidableEq, Repr

/-- A failed scan: `final` when no alternative may be tried, the contexts innermost first, and
an underlying cause. -/
structure Slip where
  final : Bool
  context : List Context
  cause : Option String
  deriving DecidableEq, Repr

/-- An expected item as text: a line feed is `newline`, other characters stand in back quotes. -/
def Expected.text : Expected → String
  | .char '\n' => "newline"
  | .char '`' => "'`'"
  | .char c => "`" ++ String.singleton c ++ "`"
  | .literal s => "`" ++ s ++ "`"
  | .description s => s

/-- The text of a failure: `invalid` and the innermost label, then what was expected, then the
cause, each on its own line. -/
def Slip.message (s : Slip) : String :=
  let label := s.context.findSome? fun
    | .label l => some l
    | .expected _ => none
  let expected := s.context.filterMap fun
    | .expected e => some e.text
    | .label _ => none
  let parts := (label.map ("invalid " ++ ·)).toList ++
    (if expected.isEmpty then [] else ["expected " ++ ", ".intercalate expected]) ++ s.cause.toList
  "\n".intercalate parts

/-- Scans that keep their cursor when they fail. -/
abbrev Scan := ExceptT Slip (StateM Cursor)

/-- The next character, left unread. -/
def peekChar : Scan (Option Char) := return (← get).rest.head?

/-- The next two characters, left unread, if there are two. -/
def peekTwo : Scan (Option (Char × Char)) := do
  match (← get).rest with
  | a :: b :: _ => pure (some (a, b))
  | _ => pure none

/-- Reads one character. -/
def advance : Scan Unit := modify fun c => match c.rest with
  | [] => c
  | x :: r => ⟨r, c.pos + x.utf8Size⟩

/-- The byte offset of the cursor. -/
def offset : Scan Nat := return (← get).pos

/-- Fails softly. -/
def reject {α : Type} : Scan α := throw ⟨false, [], none⟩

/-- Fails softly with a cause. -/
def rejectWith {α : Type} (cause : String) : Scan α := throw ⟨false, [], some cause⟩

/-- Makes every failure of `p` final. -/
def commit {α : Type} (p : Scan α) : Scan α :=
  tryCatch p fun e => throw { e with final := true }

/-- Adds a context to every failure of `p`. -/
def within {α : Type} (c : Context) (p : Scan α) : Scan α :=
  tryCatch p fun e => throw { e with context := e.context ++ [c] }

/-- Adds a label. -/
def labelled {α : Type} (l : String) (p : Scan α) : Scan α := within (.label l) p

/-- Adds an expected character. -/
def expecting {α : Type} (c : Char) (p : Scan α) : Scan α := within (.expected (.char c)) p

/-- `p`, or nothing from where it started when it fails softly. -/
def optional {α : Type} (p : Scan α) : Scan (Option α) := do
  let start ← get
  tryCatch (some <$> p) fun e => if e.final then throw e else do set start; pure none

/-- `p`, or else `q` from where `p` started when `p` fails softly. When both fail softly the
failure is `q`'s, with the cursor where `q` left it. -/
def orElse {α : Type} (p q : Scan α) : Scan α := do
  let start ← get
  tryCatch p fun e => if e.final then throw e else do set start; q

/-- Runs `p`; when `check` refuses its result the cursor goes back to where `p` started and the
scan fails softly with the cause. -/
def refine {α β : Type} (p : Scan α) (check : α → Except String β) : Scan β := do
  let start ← get
  let a ← p
  match check a with
  | .ok b => pure b
  | .error cause => do set start; rejectWith cause

/-- Runs `p` and gives the byte range it read. -/
def spanned {α : Type} (p : Scan α) : Scan (α × Nat × Nat) := do
  let start ← offset
  let a ← p
  pure (a, start, ← offset)

/-- Reads one character that satisfies `pred`. -/
def charIf (pred : Char → Bool) : Scan Char := do
  match ← peekChar with
  | some c => if pred c then do advance; pure c else reject
  | none => reject

/-- Reads any character. -/
def anyChar : Scan Char := charIf fun _ => true

/-- Reads the given character. -/
def token (c : Char) : Scan Unit := do let _ ← charIf (· = c); pure ()

/-- Reads the given characters, all or none. -/
def literal (s : List Char) : Scan Unit := do
  let c ← get
  if s.isPrefixOf c.rest then
    set (⟨c.rest.drop s.length, c.pos + (String.ofList s).utf8ByteSize⟩ : Cursor)
  else reject

/-- Reads characters while `pred` holds, at most `most` of them. -/
def takeUpTo (pred : Char → Bool) (most : Nat) : Scan (List Char) := do
  let c ← get
  let taken := (c.rest.takeWhile pred).take most
  set (⟨c.rest.drop taken.length, c.pos + (String.ofList taken).utf8ByteSize⟩ : Cursor)
  pure taken

/-- Reads characters while `pred` holds. -/
def takeAll (pred : Char → Bool) : Scan (List Char) := do
  takeUpTo pred (← get).rest.length

/-- Reads at least `least` and at most `most` characters that satisfy `pred`; with fewer it
fails softly and reads nothing. -/
def takeBetween (pred : Char → Bool) (least most : Nat) : Scan (List Char) := do
  let c ← get
  let taken := (c.rest.takeWhile pred).take most
  if taken.length < least then reject
  else
    set (⟨c.rest.drop taken.length, c.pos + (String.ofList taken).utf8ByteSize⟩ : Cursor)
    pure taken

/-- Reads one or more characters that satisfy `pred`. -/
def takeSome (pred : Char → Bool) : Scan (List Char) := do
  takeBetween pred 1 (← get).rest.length

/-- Succeeds only at the end of the text. -/
def atEnd : Scan Unit := do
  match ← peekChar with
  | none => pure ()
  | some _ => reject

/-- Repeats `p` until it fails softly, at most `fuel` times; a round that reads nothing ends
the repetition. -/
def manyFuel {α : Type} (p : Scan α) : Nat → Scan (List α)
  | 0 => pure []
  | fuel + 1 => do
    let before ← offset
    match ← optional p with
    | none => pure []
    | some a =>
      if (← offset) = before then pure [a]
      else return a :: (← manyFuel p fuel)

/-- Repeats `p` until it fails softly. -/
def many {α : Type} (p : Scan α) : Scan (List α) := do
  manyFuel p ((← get).rest.length + 1)

/-- Items separated by `sep`, ended by the first separator or item that fails softly (the
cursor goes back before that separator). -/
def sepTail {α : Type} (p : Scan α) (sep : Scan Unit) : Nat → Scan (List α)
  | 0 => pure []
  | fuel + 1 => do
    let start ← get
    match ← optional sep with
    | none => pure []
    | some () =>
      match ← optional p with
      | none => do set start; pure []
      | some a => return a :: (← sepTail p sep fuel)

/-- One or more items separated by `sep`. -/
def sepBy1 {α : Type} (p : Scan α) (sep : Scan Unit) : Scan (List α) := do
  let a ← p
  return a :: (← sepTail p sep ((← get).rest.length + 1))

/-- Zero or more items separated by `sep`. -/
def sepBy {α : Type} (p : Scan α) (sep : Scan Unit) : Scan (List α) := do
  match ← optional p with
  | none => pure []
  | some a => return a :: (← sepTail p sep ((← get).rest.length + 1))

/-! ## Character classes -/

/-- Blanks inside a line: space and tab. -/
def isBlank (c : Char) : Bool := c = ' ' || c = '\t'

/-- Characters outside ASCII. -/
def isWide (c : Char) : Bool := 0x80 ≤ c.toNat

/-- Characters a comment may hold: tab, printable ASCII and all that is not ASCII. -/
def isCommentChar (c : Char) : Bool :=
  c = '\t' || (0x20 ≤ c.toNat && c.toNat ≤ 0x7E) || isWide c

/-- Characters of a bare key. -/
def isBareKeyChar (c : Char) : Bool :=
  ('A' ≤ c && c ≤ 'Z') || ('a' ≤ c && c ≤ 'z') || ('0' ≤ c && c ≤ '9') || c = '-' || c = '_'

/-- Decimal digits. -/
def isDigit (c : Char) : Bool := '0' ≤ c && c ≤ '9'

/-- Hexadecimal digits. -/
def isHexDigit (c : Char) : Bool :=
  isDigit c || ('a' ≤ c && c ≤ 'f') || ('A' ≤ c && c ≤ 'F')

/-! ## Blanks, comments and line ends -/

/-- Blanks inside a line. -/
def blanks : Scan Unit := do let _ ← takeAll isBlank; pure ()

/-- A comment from `#` to the end of its line, the line end left unread. -/
def comment : Scan Unit := do
  token '#'
  let _ ← takeAll isCommentChar
  pure ()

/-- A line feed, or a carriage return and a line feed. -/
def newline : Scan Unit := do
  match ← anyChar with
  | '\n' => pure ()
  | '\r' => token '\n'
  | _ => reject

/-- A line feed or the end of the text. -/
def lineEnding : Scan Unit := orElse newline atEnd

/-- What may follow a value or a header on its line: blanks, a comment, the line end. -/
def lineTrailing : Scan Unit := do
  blanks
  let _ ← optional comment
  lineEnding

/-- Blanks, comments and line ends, as between the items of an array. -/
def blankLinesFuel : Nat → Scan Unit
  | 0 => pure ()
  | fuel + 1 => do
    let before ← offset
    blanks
    match ← peekChar with
    | some '#' => do comment; newline
    | some '\n' => newline
    | some '\r' => newline
    | _ => pure ()
    if (← offset) = before then pure () else blankLinesFuel fuel

/-- Blanks, comments and line ends. -/
def blankLines : Scan Unit := do blankLinesFuel ((← get).rest.length + 1)

end ButtonRelay.Toml
