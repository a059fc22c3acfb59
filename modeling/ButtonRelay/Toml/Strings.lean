import ButtonRelay.Toml.Scan

/-!
TOML strings: basic strings with escapes, literal strings taken as written, and the multi-line
form of each, which drops a line end right after the opening quotes. In a multi-line basic
string a backslash at the end of a line removes the line end and the blanks after it.
-/

namespace ButtonRelay.Toml

/-- Characters a basic string holds as they are: blanks, printable ASCII other than `"` and
`\`, and all that is not ASCII. -/
def isPlainBasic (c : Char) : Bool :=
  isBlank c || c = '!' || ('#' ≤ c && c ≤ '[') || (']' ≤ c && c ≤ '~') || isWide c

/-- Characters a literal string holds: tab, printable ASCII other than `'`, and all that is not
ASCII. -/
def isLiteralChar (c : Char) : Bool :=
  c = '\t' || (' ' ≤ c && c ≤ '&') || ('(' ≤ c && c ≤ '~') || isWide c

/-- The value of hexadecimal digits. -/
def hexValue (ds : List Char) : Nat :=
  ds.foldl (fun acc d =>
    acc * 16 + (if isDigit d then d.toNat - '0'.toNat
      else if 'a' ≤ d && d ≤ 'f' then d.toNat - 'a'.toNat + 10
      else d.toNat - 'A'.toNat + 10)) 0

/-- Exactly `n` hexadecimal digits naming a Unicode scalar value. -/
def hexEscape (n : Nat) : Scan Char :=
  refine (do
      let start ← get
      let ds ← takeUpTo isHexDigit n
      if ds.length = n then pure (hexValue ds) else do set start; reject)
    fun v =>
      if v.isValidChar then .ok (Char.ofNat v)
      else .error "value is out of range"

/-- The character after a backslash. A wrong one is read as a single byte: the failure stands
after it when it is ASCII, and at its start when it is not. -/
def escapeSequence : Scan Char := do
  let start ← get
  let c ← anyChar
  match c with
  | 'b' => pure '\x08'
  | 'f' => pure '\x0c'
  | 'n' => pure '\n'
  | 'r' => pure '\r'
  | 't' => pure '\t'
  | 'u' => labelled "unicode 4-digit hex code" (commit (hexEscape 4))
  | 'U' => labelled "unicode 8-digit hex code" (commit (hexEscape 8))
  | '\\' => pure '\\'
  | '"' => pure '"'
  | _ => do
    if c.utf8Size > 1 then set start
    ['b', 'f', 'n', 'r', 't', 'u', 'U', '\\', '"'].foldl (fun p c => expecting c p)
      (labelled "escape sequence" (commit reject))

/-- A backslash and the character it stands for. -/
def escaped : Scan Char := do
  token '\\'
  escapeSequence

/-- A run of plain characters or one escape. -/
def basicChunk : Scan (List Char) :=
  orElse (takeSome isPlainBasic) (do pure [← escaped])

/-- A basic string, `"…"`. -/
def basicString : Scan String := do
  token '"'
  let parts ← many basicChunk
  labelled "basic string" (commit (token '"'))
  pure (String.ofList parts.flatten)

/-- One or two quote characters `q`, taken only if `follow` matches after them. -/
def quotes (q : Char) (follow : Scan Unit) : Scan (List Char) := do
  let start ← get
  let two : Scan (List Char) := do
    literal [q, q]
    let mark ← get
    follow
    set mark
    pure [q, q]
  tryCatch two fun e => if e.final then throw e else do
    set start
    token q
    let mark ← get
    follow
    set mark
    pure [q]

/-- Anything but the given character. -/
def noneOf (q : Char) : Scan Unit := do let _ ← charIf (· ≠ q); pure ()

/-- A backslash at the end of a line, with the line ends and blanks after it. -/
def escapedNewline : Scan Unit := do
  let once : Scan Unit := do
    token '\\'
    blanks
    newline
    let _ ← many (orElse newline (do let _ ← takeSome isBlank; pure ()))
    pure ()
  once
  let _ ← many once
  pure ()

/-- One piece of a multi-line basic string. -/
def multiBasicChunk : Scan (List Char) :=
  orElse (takeSome isPlainBasic) <|
    orElse (do escapedNewline; pure []) <|
      orElse (do pure [← escaped]) (do newline; pure ['\n'])

/-- Repeated chunks of a multi-line basic string, each run of quotes kept only when a chunk
follows it. -/
def multiBasicQuoted : Nat → List Char → Scan (List Char)
  | 0, acc => pure acc
  | fuel + 1, acc => do
    match ← optional (quotes '"' (noneOf '"')) with
    | none => pure acc
    | some q =>
      match ← optional multiBasicChunk with
      | none => pure acc
      | some c =>
        let more ← many multiBasicChunk
        multiBasicQuoted fuel (acc ++ q ++ c ++ more.flatten)

/-- The body of a multi-line basic string. -/
def multiBasicBody : Scan (List Char) := do
  let first ← many multiBasicChunk
  let body ← multiBasicQuoted ((← get).rest.length + 1) first.flatten
  match ← optional (quotes '"' (literal ['"', '"', '"'])) with
  | some q => pure (body ++ q)
  | none => pure body

/-- A multi-line basic string, `"""…"""`. -/
def multiBasicString : Scan String :=
  labelled "multiline basic string" do
    literal ['"', '"', '"']
    let _ ← optional newline
    let body ← commit multiBasicBody
    commit (literal ['"', '"', '"'])
    pure (String.ofList body)

/-- A literal string, `'…'`. -/
def literalString : Scan String :=
  labelled "literal string" do
    token '\''
    let body ← commit (takeAll isLiteralChar)
    commit (token '\'')
    pure (String.ofList body)

/-- One piece of a multi-line literal string, as written. -/
def multiLiteralChunk : Scan (List Char) :=
  orElse (do pure [← charIf isLiteralChar]) (do
    let start ← get
    newline
    let stop ← get
    pure (start.rest.take (start.rest.length - stop.rest.length)))

/-- A line end written as a carriage return and a line feed becomes a line feed. -/
def normalizeLines : List Char → List Char
  | '\r' :: '\n' :: rest => '\n' :: normalizeLines rest
  | c :: rest => c :: normalizeLines rest
  | [] => []

/-- Quotes followed by one or more chunks, in a multi-line literal string. -/
def multiLiteralQuoted : Scan (List Char) := do
  let q ← quotes '\'' (noneOf '\'')
  let c ← multiLiteralChunk
  let more ← many multiLiteralChunk
  pure (q ++ c ++ more.flatten)

/-- The body of a multi-line literal string. -/
def multiLiteralBody : Scan (List Char) := do
  let first ← many multiLiteralChunk
  let quoted ← many multiLiteralQuoted
  let last ← optional (quotes '\'' (literal ['\'', '\'', '\'']))
  pure (normalizeLines (first.flatten ++ quoted.flatten ++ last.getD []))

/-- A multi-line literal string, `'''…'''`. -/
def multiLiteralString : Scan String :=
  labelled "multiline literal string" do
    literal ['\'', '\'', '\'']
    let _ ← optional newline
    let body ← commit multiLiteralBody
    commit (literal ['\'', '\'', '\''])
    pure (String.ofList body)

/-- Any string value. -/
def stringValue : Scan String :=
  orElse multiBasicString (orElse basicString (orElse multiLiteralString literalString))

end ButtonRelay.Toml
