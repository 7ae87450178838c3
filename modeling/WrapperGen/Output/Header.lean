import WrapperGen.Output.Draft

/-!
# The comment at the top of generated files

Each file names the program that wrote it and the time at which it was made.  A run that makes many
files looks at the clock for each of them, so that they may name different times.

## Main definitions

* `Tool`: the program that writes a file.
* `Clock`: the times that a run sees.
* `headerLines`: the lines of the comment.
-/

namespace WrapperGen

/-- The program that writes a file, as the file is to name it. -/
structure Tool where
  /-- The name. -/
  name : String
  /-- The version. -/
  version : String
  /-- The command that it was started with, the name included. -/
  command : List String
  deriving DecidableEq, Repr, Inhabited

/-- The times that a run sees when it looks at the clock, which it does once for each file. -/
structure Clock where
  /-- The time at the first look, which has the number zero, at the second one, and so on. -/
  shows : Nat → String
  deriving Inhabited

/-- The clock that shows one time only. -/
def Clock.still (time : String) : Clock := ⟨fun _ => time⟩

instance : Coe String Clock := ⟨Clock.still⟩

/-- The lines of the comment at the top of a file that is written at the given time. -/
def headerLines (tool : Tool) (timestamp : String) : List String :=
  ["Code generated by " ++ tool.name ++ " " ++ tool.version ++ "; DO NOT EDIT.",
    "This file was generated by robots at",
    timestamp,
    "using the command",
    "$ " ++ " ".intercalate tool.command]

/-- A file of a package with nothing in it but the comment at the top. -/
def Draft.withHeader (packageName : String) (tool : Tool) (timestamp : String) : Draft :=
  (headerLines tool timestamp).foldl (fun d line => d.addHeader line) (.empty packageName)

/-- The header of such a file consists of those lines. -/
@[simp] theorem Draft.header_withHeader (packageName : String) (tool : Tool)
    (timestamp : String) :
    (Draft.withHeader packageName tool timestamp).header = headerLines tool timestamp := rfl

end WrapperGen
