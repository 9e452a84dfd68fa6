import StructFill.CommandLine.Run

/-! # The executable

  The directories that a run can reach from its working directory, its input,
  the search path and the installation are read into a tree, the command runs
  on the tree, and the files that it made are written. Of the files in a
  directory only those are read that a run may ask for: sources,
  configurations, files named by an argument, and scripts, which count as
  programs.
-/

namespace StructFill.Executable

open Files (Key Tree Content)

/-! ## Reading -/

/-- How deep directories are read. -/
def depthLimit : Nat := 8

/-- The key of a place on the disk. -/
def keyOf (place : String) : Key :=
  ((Text.splitOn Path.isSlash place.toList).filter (· != [])).map String.ofList

/-- What a file with these bytes holds. -/
def contentOf (bytes : ByteArray) : Content :=
  match String.fromUTF8? bytes with
  | some s => .text s
  | none => .binary bytes.toList

/-- The two signs with which a script begins. -/
def scriptStart : List UInt8 := [35, 33]

/-- Files that are read for their names; `named` are the names that arguments give. -/
def isWanted (named : List String) (name : String) : Bool :=
  Package.isSourceFile ⟨name⟩ || name == Config.fileName || named.contains name

/-- Reads a file, unless a run cannot ask for it. -/
def readFile (named : List String) (t : Tree) (name place : String) : IO Tree := do
  try
    let handle ← IO.FS.Handle.mk place .read
    let isScript := (← handle.read 2).toList == scriptStart
    if isScript || isWanted named name then
      let bytes ← IO.FS.readBinFile place
      return t.plant (keyOf place) (.file (contentOf bytes) isScript)
    else return t
  catch _ => return t

/-- Reads a directory, and the directories in it down to a depth. -/
def readDirectory (named : List String) : Nat → Tree → String → IO Tree
  | depth, t, place => do
    try
      let directory ← IO.FS.realPath place
      let mut t := t.plant (keyOf place) .directory
      for e in ← directory.readDir do
        let inner := place ++ "/" ++ e.fileName
        if ← e.path.isDir then
          match depth with
          | 0 => t := t.plant (keyOf inner) .directory
          | n + 1 => t ← readDirectory named n t inner
        else t ← readFile named t e.fileName inner
      return t
    catch _ => return t

/-- The variables that matter to a run. -/
def settingNames : List String := ["PATH", "GOROOT", CommandLine.fileVariable]

/-- The variables of the environment that are set. -/
def readSettings : IO (List (String × String)) :=
  settingNames.filterMapM fun name => do
    return (← IO.getEnv name).map (name, ·)

/-- The directories above the paths that are named. -/
def placesOf (cwd : Path) (named : List Path) : List String :=
  (named.flatMap fun p => (cwd.join p).ancestors (Config.searchLimit + 1)).map (·.text)

/-- What a run sees of the system. -/
def observe (args : List String) : IO Program.Host := do
  let cwd := toString (← IO.currentDir)
  let settings ← readSettings
  let setting (name : String) := (settings.lookup name).getD ""
  let paths := (args ++ [setting CommandLine.fileVariable]).map fun a => Path.unquoted ⟨a⟩
  let named := paths.filterMap Path.fileName?
  let mut t ← readDirectory named depthLimit .empty cwd
  for place in placesOf ⟨cwd⟩ paths do
    t ← readDirectory named 0 t place
  for place in (Text.splitOn (· == ':') (setting "PATH").toList).map String.ofList do
    t ← readDirectory [] 0 t place
  if setting "GOROOT" != "" then
    t ← readDirectory [] depthLimit t (setting "GOROOT" ++ "/src")
  return ⟨⟨Program.Tool.install t, keyOf cwd⟩, settings⟩

/-! ## Running -/

/-- Writes the files that a run made. -/
def writeFiles (files : List (Key × Content)) : IO Unit := do
  for (k, c) in files do
    IO.FS.createDirAll ("/" ++ String.intercalate "/" k.dropLast)
    let place := "/" ++ String.intercalate "/" k
    match c with
    | .text s => IO.FS.writeFile place s
    | .binary bytes => IO.FS.writeBinFile place ⟨bytes.toArray⟩

/-- Runs the command on the system. -/
def runCommand (args : List String) : IO UInt32 := do
  let host ← observe args
  let ending := CommandLine.run host args
  (← IO.getStdout).putStr ending.output
  writeFiles (ending.disk.tree.changedFiles [] host.disk.tree)
  if let some reason := ending.failure then
    IO.eprintln ("Error: " ++ reason)
  return ending.status.toUInt32

end StructFill.Executable

def main (args : List String) : IO UInt32 := StructFill.Executable.runCommand args
