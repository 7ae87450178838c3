import Std.Time.DateTime.Timestamp
import WrapperGen.Calendar
import WrapperGen.CommandLine
import WrapperGen.Listing

/-!
# The command

The command is told on its input which files there are, one on each line: a directory with a
slash at the end, a link with an arrow and the path that it names, and anything else is a file.
It looks at those only.  What it changes is written to the disk.

## Main definitions

* `main`: the command.
-/

namespace WrapperGen

/-- The variables that a run depends on. -/
def environmentNames : List String := ["HOME", "XDG_CONFIG_HOME", "GOPATH", "GOROOT"]

/-- The environment of the command. -/
def readEnvironment : List String → IO (List (String × String))
  | [] => pure []
  | name :: rest => do
      let value? ← IO.getEnv name
      let more ← readEnvironment rest
      pure ((value?.map fun value => (name, value)).toList ++ more)

/-- The lines of a stream, without their ends. -/
partial def readInputLines (stream : IO.FS.Stream) : IO (List String) := do
  let line ← stream.getLine
  if line.isEmpty then pure []
  else
    let more ← readInputLines stream
    pure (String.ofList (line.toList.filter (· != '\n')) :: more)

/-- The tree with one more entry of a listing, as seen from the working directory. -/
def addListed (cwd : Path) (tree : FileTree) : Listed → IO FileTree
  | .file path => do
      let place := cwd.join path
      let bytes ← IO.FS.readBinFile place.text
      pure (tree.addFile place (.ofBytes bytes))
  | .directory path => pure (tree.addDirectory (cwd.join path))
  | .link path target => pure (tree.addLink (cwd.join path) target)

/-- The tree of a listing. -/
def readTree (cwd : Path) : List String → FileTree → IO FileTree
  | [], tree => pure tree
  | line :: rest, tree => do
      let more ← addListed cwd tree (.ofLine line)
      readTree cwd rest more

/-- The rights to a generated file. -/
def fileRights : IO.FileRight :=
  ⟨⟨true, true, false⟩, ⟨true, false, false⟩, ⟨true, false, false⟩⟩

/-- Write an entry to the disk. -/
def storeEntry (place : Location) : Entry → IO Unit
  | .directory _ => IO.FS.createDirAll ("/" ++ joinSlash place)
  | .file (.text value) _ => do
      IO.FS.writeFile ("/" ++ joinSlash place) value
      IO.setAccessRights ("/" ++ joinSlash place) fileRights
  | _ => pure ()

/-- Write entries to the disk. -/
def storeEntries : List (Location × Entry) → IO Unit
  | [] => pure ()
  | (place, entry) :: rest => do
      storeEntry place entry
      storeEntries rest

/-- Say how a command ended. -/
def report (ending : Ending) : IO UInt32 := do
  IO.print ending.output
  match ending.failure? with
  | some text => IO.eprintln text
  | none => pure ()
  pure ending.code.toUInt32

end WrapperGen

open WrapperGen

/-- The command. -/
def main (arguments : List String) : IO UInt32 := do
  let cwd : Path := ⟨(← IO.getEnv "PWD").getD "/"⟩
  let environment : Environment := ⟨← readEnvironment environmentNames⟩
  let now ← Std.Time.Timestamp.now
  let clock : Clock := .still (timestampText now.toSecondsSinceUnixEpoch.val.toNat)
  let tree ← readTree cwd (← readInputLines (← IO.getStdin)) .empty
  let (ending, after) := Invocation.run ⟨arguments, cwd, environment, clock⟩ tree
  storeEntries (tree.changesFrom after)
  report ending
