import ButtonRelay.Input.Fault
import ButtonRelay.Text.Blank
import ButtonRelay.Text.Utf8
import ButtonRelay.Log

/-!
Presses read from lines of bytes. The bytes are cut at each line feed; a line that ended with
one also loses a carriage return before it, and the last line needs none. Each character of a
line that is not white space is one press, in order. A line that is not UTF-8 is consumed and
reported once; reading goes on after it.
-/

namespace ButtonRelay.Input

/-- A line reader: its name, the bytes not yet read, and the presses of the current line. -/
structure Lines where
  name : String
  rest : List UInt8
  pending : List Char
  deriving DecidableEq, Repr

/-- A reader over the given bytes. -/
def Lines.ofBytes (name : String) (bytes : List UInt8) : Lines := ⟨name, bytes, []⟩

/-- The next line of bytes and what follows it; a line ended by a line feed loses it and a
carriage return before it. -/
def nextLine (bytes : List UInt8) : List UInt8 × List UInt8 :=
  let line := bytes.takeWhile (· ≠ 0x0A)
  let after := bytes.drop (line.length + 1)
  if line.length < bytes.length then
    (if line.getLast? = some 0x0D then line.dropLast else line, after)
  else (line, after)

/-- The presses of a line of text: its characters that are not white space. -/
def presses (text : List Char) : List Char := text.filter fun c => !Text.isBlank c

/-- Reading a line of a non-empty input consumes at least one byte. -/
theorem nextLine_shorter {bytes : List UInt8} (h : bytes ≠ []) :
    (nextLine bytes).2.length < bytes.length := by
  cases bytes with
  | nil => exact absurd rfl h
  | cons b rest =>
    simp only [nextLine]
    split <;> simp only [List.length_drop, List.length_cons] <;> omega

/-- Reads the next press; `none` once the bytes are used up. -/
def Lines.next (thread : Thread) (l : Lines) : Logged (Except Fault (Option Char) × Lines) :=
  match l.pending with
  | c :: more => pure (.ok (some c), { l with pending := more })
  | [] =>
    if _empty : l.rest = [] then pure (.ok none, l) else
    match Utf8.decode? (nextLine l.rest).1 with
    | none =>
      pure (.error (.invalidData (l.name ++ ": line is not valid UTF-8")),
        { l with rest := (nextLine l.rest).2 })
    | some text => do
      emit .trace .lines thread
        (l.name ++ ": read line of " ++ toString (nextLine l.rest).1.length ++ " bytes")
      Lines.next thread { l with rest := (nextLine l.rest).2, pending := presses text }
termination_by l.rest.length
decreasing_by exact nextLine_shorter _empty

end ButtonRelay.Input
