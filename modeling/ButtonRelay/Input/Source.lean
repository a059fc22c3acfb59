import ButtonRelay.Input.Lines
import ButtonRelay.Input.Mock

/-!
Input sources: lines of bytes (the console and script files are such), a file that cannot be
read (every read fails the same way), and the hand-pressed channel. Reading one gives a press,
the end, nothing yet (only the channel), or a fault.
-/

namespace ButtonRelay.Input

/-- A source of presses. -/
inductive Source where
  | lines (l : Lines)
  | failing (name : String) (reason : String)
  | mock (m : Mock Pipe)
  deriving DecidableEq, Repr

/-- The console, over what was typed. -/
def Source.console (typed : List UInt8) : Source := .lines (Lines.ofBytes "Console" typed)

/-- The source's name. -/
def Source.describe : Source → String
  | .lines l => l.name
  | .failing name _ => name
  | .mock m => m.name

/-- What one read gives. -/
inductive Read where
  | value (c : Char)
  | closed
  | pending
  | failed (f : Fault)
  deriving DecidableEq, Repr

/-- Reads once. -/
def Source.next (thread : Thread) : Source → Logged (Read × Source)
  | .lines l => do
    let (r, l') ← l.next thread
    pure (match r with
      | .ok (some c) => .value c
      | .ok none => .closed
      | .error f => .failed f, .lines l')
  | .failing name reason => pure (.failed (.io reason), .failing name reason)
  | .mock m =>
    let (p, m') := m.poll
    pure (match p with
      | .value c => .value c
      | .closed => .closed
      | .pending => .pending, .mock m')

/-- The source once the thread that read it is gone: a hand-pressed input loses its reader. -/
def Source.release : Source → Source
  | .mock m => .mock m.dropReader
  | s => s

/-- Whether the source is gone after this read: it ended, or failed other than on bad text. -/
def Read.ends : Read → Bool
  | .closed => true
  | .failed (.invalidData _) => false
  | .failed _ => true
  | _ => false

/-- Whether reading stops after this: the end, nothing yet, or a fault other than bad text. -/
def Read.final : Read → Bool
  | .value _ => false
  | .failed (.invalidData _) => false
  | _ => true

/-- Reads until a final read, at most `fuel` times, then `extra` more times. -/
def Source.drainFuel (thread : Thread) (extra : Nat) : Nat → Source → Logged (List Read)
  | 0, _ => pure []
  | fuel + 1, s => do
    let (r, s') ← s.next thread
    if r.final then
      let more ← (List.range extra).foldlM (fun (acc : List Read × Source) _ => do
        let (r', s'') ← acc.2.next thread
        pure (acc.1 ++ [r'], s'')) ([], s')
      pure (r :: more.1)
    else return r :: (← Source.drainFuel thread extra fuel s')

/-- An upper bound on the reads before a source gives a final read. -/
def Source.reach : Source → Nat
  | .lines l => 2 * l.rest.length + l.pending.length + 2
  | .failing _ _ => 1
  | .mock m => m.channel.queued.length + 1

/-- Reads until the end or a fault other than bad text, then `extra` more times. -/
def Source.drain (thread : Thread) (extra : Nat) (s : Source) : Logged (List Read) :=
  Source.drainFuel thread extra s.reach s

end ButtonRelay.Input
