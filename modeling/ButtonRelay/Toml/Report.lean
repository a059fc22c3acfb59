import ButtonRelay.Toml.Document
import ButtonRelay.Text.Utf8

/-!
Reports of TOML failures. A failure that points into the text is shown with its line and
column (both from one), the line itself, and carets under the span, cut at the end of the
line; the message follows. A failure that points nowhere is its message alone.
-/

namespace ButtonRelay.Toml

/-- Splits characters at each line feed. -/
def splitLines : List Char → List (List Char)
  | [] => [[]]
  | '\n' :: rest => [] :: splitLines rest
  | c :: rest =>
    match splitLines rest with
    | line :: more => (c :: line) :: more
    | [] => [[c]]

/-- The line and column, both from zero, of a byte offset. The column counts the characters
before the offset on its line, but bytes when the character at the offset is not ASCII; past
the end it counts on from the last byte. -/
def position (bytes : List UInt8) (index : Nat) : Nat × Nat :=
  if bytes.isEmpty then (0, index) else
  let safe := min index (bytes.length - 1)
  let past := index - safe
  let before := bytes.take safe
  let lineStart := before.length - (before.reverse.takeWhile (· ≠ 0x0A)).length
  let line := (bytes.take lineStart).count 0x0A
  let column := match Utf8.toString? ((bytes.drop lineStart).take (safe - lineStart + 1)) with
    | some s => s.length - 1
    | none => safe - lineStart
  (line, column + past)

/-- `n` spaces. -/
def spaces (n : Nat) : String := String.ofList (List.replicate n ' ')

/-- The report of a failure in `text`. -/
def Failure.report (text : String) (f : Failure) : String :=
  match f.span with
  | none => f.message ++ "\n"
  | some span =>
    let (line, column) := position text.toUTF8.toList span.start
    let number := toString (line + 1)
    let gutter := number.length
    let content := String.ofList ((splitLines text.toList).getD line [])
    let width := min (span.stop - span.start) (content.utf8ByteSize - column)
    "TOML parse error at line " ++ number ++ ", column " ++ toString (column + 1) ++ "\n" ++
      spaces (gutter + 1) ++ "|\n" ++
      number ++ " | " ++ content ++ "\n" ++
      spaces (gutter + 1) ++ "|" ++ spaces (column + 1) ++ "^" ++
        String.ofList (List.replicate (width - 1) '^') ++ "\n" ++
      f.message ++ "\n"

end ButtonRelay.Toml
