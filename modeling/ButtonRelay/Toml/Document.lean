import ButtonRelay.Toml.Tree

/-!
Reading a TOML document: an optional byte order mark, then lines that are blank, comments,
table headers or key-value pairs, each ended by a line end or the end of the text. A failure is
reported as a message and the byte range it points at.
-/

namespace ButtonRelay.Toml

/-- A failure to read a document, or to take a value from it. -/
structure Failure where
  message : String
  span : Option Span
  deriving DecidableEq, Repr

/-- What may end a value's or a header's line. -/
def lineEnd : Scan Unit := expecting '#' (expecting '\n' lineTrailing)

/-- Runs a change of the document; when it is refused the cursor goes back to `start` and the
scan fails with the conflict. -/
def apply {α : Type} (start : Cursor) (r : Except Conflict α) : Scan α :=
  match r with
  | .ok a => pure a
  | .error c => do set start; rejectWith c.message

/-- A key-value line. -/
def pairLine (b : Builder) : Scan Builder := do
  let start ← get
  let keys ← dottedKey
  let (v, span) ← commit do
    within (.expected (.char '=')) (within (.expected (.char '.')) (token '='))
    blanks
    let vs ← value
    lineEnd
    pure vs
  match keys.reverse with
  | leaf :: path => apply start (b.addPair path.reverse leaf v span)
  | [] => pure b

/-- A header `[path]` or `[[path]]`. -/
def headerLine (b : Builder) : Scan Builder :=
  labelled "table header" do
    let start ← get
    let array ← match ← peekTwo with
      | some ('[', '[') => pure true
      | some _ => pure false
      | none => reject
    let opening := if array then ['[', '['] else ['[']
    let closing := if array then "]]" else "]"
    let first ← offset
    literal opening
    let keys ← commit dottedKey
    commit (within (.expected (.literal closing)) (within (.expected (.char '.'))
      (literal closing.toList)))
    let span : Span := ⟨first, ← offset⟩
    commit lineEnd
    apply start (if array then b.openArrayTable keys span else b.openTable keys span)

/-- One line of the document, and the blanks after it. -/
def statement (b : Builder) : Scan Builder := do
  let b' ← match ← peekChar with
    | none => reject
    | some '#' => commit (do comment; lineEnding; pure b)
    | some '[' => commit (headerLine b)
    | some '\n' | some '\r' => do newline; pure b
    | some _ => commit (pairLine b)
  blanks
  pure b'

/-- Lines until one fails softly. -/
def statements : Nat → Builder → Scan Builder
  | 0, b => pure b
  | fuel + 1, b => do
    let before ← offset
    match ← optional (statement b) with
    | none => pure b
    | some b' => if (← offset) = before then pure b' else statements fuel b'

/-- A whole document. -/
def document : Scan Builder := do
  let _ ← optional (token '\uFEFF')
  blanks
  let b ← statements ((← get).rest.length + 1) Builder.start
  atEnd
  pure b

/-- The number of bytes of the character that starts at a byte offset; nothing at the end. -/
def charWidthAt : List Char → Nat → Nat
  | [], _ => 0
  | c :: rest, n => if n < c.utf8Size then c.utf8Size else charWidthAt rest (n - c.utf8Size)

/-- Reads a document into its root table. A failure while reading points at the character
where reading stopped (nothing at the end of the text); a conflict found when the last table is
put in place points nowhere. -/
def parse (text : String) : Except Failure Table :=
  match (document.run.run ⟨text.toList, 0⟩) with
  | (.error slip, cursor) =>
    let stop := cursor.pos
    .error ⟨slip.message, some ⟨stop, stop + charWidthAt text.toList stop⟩⟩
  | (.ok b, _) =>
    match b.finish with
    | .ok root => .ok root
    | .error c => .error ⟨c.message, none⟩

end ButtonRelay.Toml
