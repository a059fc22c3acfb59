/-!
Why reading input failed: the source is gone, a line could not be read as text, or the
operating system refused the read.
-/

namespace ButtonRelay.Input

/-- A failed read of an input source. -/
inductive Fault where
  | closed (source : String)
  | invalidData (message : String)
  | io (message : String)
  deriving DecidableEq, Repr

/-- The name of the fault's kind. -/
def Fault.kind : Fault → String
  | .closed _ => "Closed"
  | .invalidData _ => "InvalidData"
  | .io _ => "Io"

/-- The text of a fault. -/
def Fault.message : Fault → String
  | .closed s => "Input source closed: " ++ s
  | .invalidData m => "Invalid input: " ++ m
  | .io m => "I/O error: " ++ m

/-- The text of an absent file. -/
def notFound : String := "No such file or directory (os error 2)"

/-- The text of reading a directory as a file. -/
def isDirectory : String := "Is a directory (os error 21)"

end ButtonRelay.Input
