import ButtonRelay.Cli.Bridge

/-!
The bridge as a program. It reads the files its options name and, when it reads the console,
everything typed until the input ends; the end of the input stands for the interrupt that ends
a run. Log lines go to standard output as `LEVEL target: message`, filtered by `RUST_LOG`.
-/

section Program

open ButtonRelay

/-- Asks the system what a path the bridge may need names. -/
def readEntry (path : String) : IO (String × Input.Entry) := do
  if path.contains '\x00' then return (path, .nulInName)
  try
    let bytes ← IO.FS.readBinFile path
    pure (path, .file bytes.toList)
  catch e =>
    match e with
    | .inappropriateType _ 21 _ => pure (path, .directory)
    | .inappropriateType _ 20 _ => pure (path, .throughFile)
    | _ => pure (path, .missing)

/-- Reads standard input to its end. -/
partial def readAll (stream : IO.FS.Stream) (acc : ByteArray) : IO ByteArray := do
  let chunk ← stream.read 4096
  if chunk.isEmpty then pure acc else readAll stream (acc ++ chunk)

def main (args : List String) : IO UInt32 := do
  let setting ← IO.getEnv "RUST_LOG"
  let (paths, console) := match Cli.parseArgs args with
    | .ok o => ([o.config, o.script].filterMap id, o.script.isNone)
    | .error _ => ([], false)
  let entries ← paths.mapM readEntry
  let typed ← if console then do pure (← readAll (← IO.getStdin) ByteArray.empty).toList else pure []
  let entryAt (path : String) : Input.Entry := ((entries.find? (·.1 == path)).map (·.2)).getD .missing
  let run := Cli.run args ⟨entryAt, [], typed, setting⟩
  let filter := Cli.Filter.ofSetting setting
  let (after, code, err) := match run.ending with
    | .exits c e => ([], c, e)
    | .waits a c e => (a, c, e)
  let out ← IO.getStdout
  for line in run.printed ++ Cli.printedLines filter (run.events ++ after) do
    out.putStrLn line
  out.flush
  let errStream ← IO.getStderr
  errStream.putStr err
  errStream.flush
  pure code.toUInt32

end Program
