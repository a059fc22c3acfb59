import ButtonRelay.Input.Source

/-!
A working directory as a host sees it: files with their bytes and empty directories, named by
relative paths, inside a host that has the root `/`, the directories `/dev` and `/tmp`, and the
null device `/dev/null`, which reads as empty. A path is walked part by part from the working
directory, or from the root when it starts with `/`: an empty part and `.` stay where they
are, `..` goes up (the root is its own parent, and above the working directory nothing is
known), every leading part of a file's path is a directory, and any part after a file is
refused because a file has no entries.
-/

namespace ButtonRelay.Input

/-- The files, with their bytes, and the directories of a working directory. -/
structure Files where
  files : List (String × List UInt8)
  dirs : List String
  deriving Inhabited

/-- What a path names. -/
inductive Entry where
  | file (bytes : List UInt8)
  | directory
  | missing
  /-- A leading part of the path is a file. -/
  | throughFile
  /-- The path holds a NUL byte, which no file name can. -/
  | nulInName
  deriving DecidableEq, Repr

/-- The parts of a listed path: empty parts and `.` are dropped, and a path from the root
starts with the part `/`. -/
def pathParts (path : String) : List String :=
  (if path.startsWith "/" then ["/"] else []) ++
    (path.splitOn "/").filter fun part => part ≠ "" && part ≠ "."

/-- The directories every host has, besides the root. -/
def hostDirectories : List (List String) := [["/", "dev"], ["/", "tmp"]]

/-- The null device, which every host has. -/
def nullDevice : List String := ["/", "dev", "null"]

/-- Where a walk along a path stands. -/
inductive Place where
  /-- A directory, by its parts from the working directory, or from the root with `/` first. -/
  | dir (parts : List String)
  /-- A directory above the working directory, of which nothing is known. -/
  | above
  | file (bytes : List UInt8)
  | missing
  | throughFile
  deriving DecidableEq, Repr

namespace Files

/-- No files and no directories. -/
def empty : Files := ⟨[], []⟩

/-- The bytes of the file at exactly these parts. -/
def fileAt (fs : Files) (parts : List String) : Option (List UInt8) :=
  if parts = nullDevice then some []
  else (fs.files.find? fun f => pathParts f.1 = parts).map Prod.snd

/-- Whether these parts name a directory: the working directory, the root, a host directory,
a listed directory, or a leading part of a listed path. -/
def hasDirectory (fs : Files) (parts : List String) : Bool :=
  parts.isEmpty || parts == ["/"] || hostDirectories.contains parts ||
    fs.dirs.any (fun d => parts.isPrefixOf (pathParts d)) ||
    fs.files.any (fun f => parts.isPrefixOf (pathParts f.1) && parts ≠ pathParts f.1)

/-- The directory above a directory. -/
def parent : List String → Place
  | [] => .above
  | ["/"] => .dir ["/"]
  | parts => .dir parts.dropLast

/-- One step of a walk: the place a part of a path leads to. -/
def step (fs : Files) : Place → String → Place
  | .dir parts, part =>
    if part = "" || part = "." then .dir parts
    else if part = ".." then parent parts
    else match fs.fileAt (parts ++ [part]) with
      | some bytes => .file bytes
      | none => if fs.hasDirectory (parts ++ [part]) then .dir (parts ++ [part]) else .missing
  | .above, part => if part = "" || part = "." || part = ".." then .above else .missing
  | .file _, _ => .throughFile
  | .missing, _ => .missing
  | .throughFile, _ => .throughFile

/-- What a path names; the empty path names nothing, and a path with a NUL byte is refused
before it is looked up. -/
def lookup (fs : Files) (path : String) : Entry :=
  if path.contains '\x00' then .nulInName
  else if path.isEmpty then .missing
  else
    let (start, parts) := match path.splitOn "/" with
      | "" :: rest => (Place.dir ["/"], rest)
      | parts => (Place.dir [], parts)
    match parts.foldl fs.step start with
    | .dir _ | .above => .directory
    | .file bytes => .file bytes
    | .missing => .missing
    | .throughFile => .throughFile

end Files

/-- The system's text for a path that goes through a file. -/
def notDirectory : String := "Not a directory (os error 20)"

/-- The text for a path with a NUL byte. -/
def nulNameText : String := "file name contained an unexpected NUL byte"

/-- Opens a script at a path from what the path names: a file is read line by line, and a
directory opens but fails every read. -/
def Entry.openScript (e : Entry) (path : String) : Except Fault Source :=
  match e with
  | .file bytes => .ok (.lines (Lines.ofBytes path bytes))
  | .directory => .ok (.failing path isDirectory)
  | .missing => .error (.io notFound)
  | .throughFile => .error (.io notDirectory)
  | .nulInName => .error (.io nulNameText)

/-- Reads what a path names as text; the error is the system's or the decoder's text. -/
def Entry.readText : Entry → Except String String
  | .file bytes =>
    match Utf8.toString? bytes with
    | some s => .ok s
    | none => .error "stream did not contain valid UTF-8"
  | .directory => .error isDirectory
  | .missing => .error notFound
  | .throughFile => .error notDirectory
  | .nulInName => .error nulNameText

/-- Opens a script of a working directory. -/
def Files.openScript (fs : Files) (path : String) : Except Fault Source :=
  (fs.lookup path).openScript path

theorem Files.openScript_file (fs : Files) (path : String) (bytes : List UInt8)
    (h : fs.lookup path = .file bytes) :
    fs.openScript path = .ok (.lines (Lines.ofBytes path bytes)) := by
  simp [Files.openScript, Entry.openScript, h]

end ButtonRelay.Input
