import WrapperGen.Path

/-!
# File trees

The files, directories and symbolic links that a run can see, as one value.  Reading looks a
path up in the tree; writing gives the tree as it is afterwards.

## Main definitions

* `FileTree`: the entries of a tree by their place.
* `FileTree.locate`: what a path leads to, links followed.
* `FileTree.isDirectory`, `FileTree.exists?`, `FileTree.readText`, `FileTree.fileNames`: looking.
* `FileTree.writeText`, `FileTree.ensureDirectory`, `FileTree.setMode`, `FileTree.removeTree`,
  `FileTree.makeLink`: changing.

## Main results

* `entryAt_put_self`, `entryAt_put_of_ne`: what is where after an entry has been put.
-/

namespace WrapperGen

/-! ### Trees -/

/-- The names that lead from the top of a tree to a place in it. -/
abbrev Location := List String

/-- What a file holds. -/
inductive Content
  /-- A text. -/
  | text (value : String)
  /-- Bytes that are no text. -/
  | bytes (value : List UInt8)
  deriving DecidableEq, Inhabited

/-- What may stand at a place. -/
inductive Entry
  /-- A regular file with its permission bits. -/
  | file (content : Content) (mode : Nat)
  /-- A directory with its permission bits. -/
  | directory (mode : Nat)
  /-- A symbolic link and the path that it names. -/
  | link (target : Path)
  deriving DecidableEq, Inhabited

/-- The permission bits of a generated file. -/
def fileMode : Nat := 0o644

/-- The permission bits of a new directory. -/
def directoryMode : Nat := 0o755

/-- A tree of files: what stands at each place below the top, which is a directory itself. -/
structure FileTree where
  /-- The entries with their places. -/
  entries : List (Location × Entry)
  deriving DecidableEq, Inhabited

/-- Why a file could not be used. -/
inductive FileError
  /-- Nothing is there. -/
  | missing
  /-- A step of the path leads through something that is no directory. -/
  | notDirectory
  /-- A file is needed where a directory is. -/
  | isDirectory
  /-- Something is there already. -/
  | exists
  /-- The content is no text. -/
  | notText
  /-- Too many links had to be followed. -/
  | linkLoop
  /-- A name is longer than names may be. -/
  | longName
  /-- The path holds a null character. -/
  | nullInPath
  /-- The path names nothing that could be made. -/
  | noPath
  deriving DecidableEq, Repr, Inhabited

/-- The text for a cause. -/
def FileError.message : FileError → String
  | .missing => "No such file or directory (os error 2)"
  | .notDirectory => "Not a directory (os error 20)"
  | .isDirectory => "Is a directory (os error 21)"
  | .exists => "File exists (os error 17)"
  | .notText => "stream did not contain valid UTF-8"
  | .linkLoop => "Too many levels of symbolic links (os error 40)"
  | .longName => "File name too long (os error 36)"
  | .nullInPath => "file name contained an unexpected NUL byte"
  | .noPath => "failed to create whole tree"

namespace FileTree

/-- The tree in which only the top directory exists. -/
def empty : FileTree := ⟨[]⟩

/-- The entry at a place. -/
def entryAt (tree : FileTree) (place : Location) : Option Entry :=
  if place = [] then some (.directory directoryMode) else tree.entries.lookup place

/-- The tree with an entry put at a place. -/
def put (tree : FileTree) (place : Location) (entry : Entry) : FileTree :=
  ⟨(place, entry) :: tree.entries.filter (fun e => e.1 != place)⟩

/-- The tree without a place and everything below it. -/
def cut (tree : FileTree) (place : Location) : FileTree :=
  ⟨tree.entries.filter (fun e => !place.isPrefixOf e.1)⟩

@[simp] theorem entryAt_nil (tree : FileTree) :
    tree.entryAt [] = some (.directory directoryMode) := rfl

theorem entryAt_put_self (tree : FileTree) {place : Location} (entry : Entry)
    (h : place ≠ []) : (tree.put place entry).entryAt place = some entry := by
  simp [entryAt, put, h]

private theorem lookup_filter_ne (place other : Location) (h : other ≠ place) :
    (entries : List (Location × Entry)) →
      (entries.filter (fun e => e.1 != place)).lookup other = entries.lookup other
  | [] => rfl
  | (key, value) :: rest => by
      have ih := lookup_filter_ne place other h rest
      by_cases hk : key = place
      · have : (other == place) = false := by simp [h]
        simp [List.filter, hk, List.lookup_cons, this, ih]
      · have : (key != place) = true := by simp [hk]
        simp only [List.filter, this, List.lookup_cons]
        split <;> simp_all

theorem entryAt_put_of_ne (tree : FileTree) {place other : Location} (entry : Entry)
    (h : other ≠ place) : (tree.put place entry).entryAt other = tree.entryAt other := by
  have hb : (other == place) = false := by simp [h]
  simp only [entryAt, put, List.lookup_cons, hb]
  split
  · rfl
  · exact lookup_filter_ne place other h tree.entries

/-! ### Following a path -/

/-- Where a path leads. -/
inductive Target
  /-- To an entry that exists. -/
  | found (place : Location) (entry : Entry)
  /-- To a free place in a directory that exists. -/
  | free (place : Location)
  deriving DecidableEq, Inhabited

/-- The longest name that an entry may have, in bytes. -/
def maxNameBytes : Nat := 255

/-- How many links may be followed on the way to one entry. -/
def maxLinks : Nat := 40

/-- Whether a path asks for a directory by a slash at its end. -/
def endsInSlash (p : Path) : Bool := p.text.toList.getLast? == some '/'

/-- The names to follow for a path.  A slash at the end asks for a directory. -/
def walkSteps (p : Path) : List String :=
  slashSegments p.text ++ if endsInSlash p then ["."] else []

/-- Follow names from a directory.  `jump` goes on behind a link, and `followLast` says whether
a link at the very end is followed too. -/
def walkNames (tree : FileTree) (followLast : Bool)
    (jump : List String → Location → Except FileError Target) :
    List String → Location → Except FileError Target
  | [], place => .ok (.found place ((tree.entryAt place).getD (.directory directoryMode)))
  | name :: rest, place =>
      if name == "." then walkNames tree followLast jump rest place
      -- the place above is that of the directory, not that of a link that led there
      else if name == ".." then walkNames tree followLast jump rest place.dropLast
      else if name.utf8ByteSize > maxNameBytes then .error .longName
      else
        let next := place ++ [name]
        match tree.entryAt next with
        -- only the last name may be missing, and then the place is free
        | none => if rest.isEmpty then .ok (.free next) else .error .missing
        | some (.directory _) => walkNames tree followLast jump rest next
        | some (.file content mode) =>
            if rest.isEmpty then .ok (.found next (.file content mode)) else .error .notDirectory
        | some (.link target) =>
            -- the link itself is asked for
            if rest.isEmpty && !followLast then .ok (.found next (.link target))
            else
              jump (walkSteps target ++ rest) (if target.isAbsolute then [] else place)

/-- Follow names from a directory and at most `links` links on the way. -/
def walk (tree : FileTree) (followLast : Bool) :
    Nat → List String → Location → Except FileError Target
  | 0 => walkNames tree followLast fun _ _ => .error .linkLoop
  | links + 1 => walkNames tree followLast (walk tree followLast links)

/-- What the names lead to from the top of the tree. -/
def locateSteps (tree : FileTree) (followLast : Bool) (p : Path) (steps : List String) :
    Except FileError Target :=
  if p.text.isEmpty then .error .missing
  else if p.text.toList.contains '\x00' then .error .nullInPath
  else walk tree followLast maxLinks steps []

/-- What a path leads to. -/
def locate (tree : FileTree) (followLast : Bool) (p : Path) : Except FileError Target :=
  tree.locateSteps followLast p (walkSteps p)

/-- The entry that a path leads to, links followed. -/
def find (tree : FileTree) (p : Path) : Except FileError (Location × Entry) :=
  match tree.locate true p with
  | .error cause => .error cause
  | .ok (.free _) => .error .missing
  | .ok (.found place entry) => .ok (place, entry)

/-! ### Looking -/

/-- Whether a path leads to a directory. -/
def isDirectory (tree : FileTree) (p : Path) : Bool :=
  match tree.find p with
  | .ok (_, .directory _) => true
  | _ => false

/-- Whether a path leads to anything, be it a link that leads nowhere. -/
def exists? (tree : FileTree) (p : Path) : Except FileError Bool :=
  match tree.locate false p with
  | .ok (.found _ _) => .ok true
  | .ok (.free _) => .ok false
  | .error .missing => .ok false
  | .error cause => .error cause

/-- The first of some paths that leads to anything. -/
def firstExisting? (tree : FileTree) : List Path → Except FileError (Option Path)
  | [] => .ok none
  | p :: rest =>
      match tree.exists? p with
      | .error cause => .error cause
      | .ok true => .ok (some p)
      | .ok false => tree.firstExisting? rest

/-- The text of a file. -/
def readText (tree : FileTree) (p : Path) : Except FileError String :=
  match tree.find p with
  | .error cause => .error cause
  | .ok (_, .file (.text value) _) => .ok value
  | .ok (_, .file (.bytes _) _) => .error .notText
  | .ok (_, _) => .error .isDirectory

/-- The permission bits of what a path leads to. -/
def mode (tree : FileTree) (p : Path) : Except FileError Nat :=
  match tree.find p with
  | .error cause => .error cause
  | .ok (_, .file _ bits) => .ok bits
  | .ok (_, .directory bits) => .ok bits
  | .ok (_, .link _) => .error .linkLoop

/-- The name of an entry, if it is a regular file that stands directly in a directory. -/
def fileNameIn? (place : Location) : Location × Entry → Option String
  | (where_, .file _ _) =>
      match where_.getLast? with
      | some name => if where_ = place ++ [name] then some name else none
      | none => none
  | _ => none

/-- The names of the regular files in the directory that a path leads to, in order.  A path to
something else than a directory has none. -/
def fileNames (tree : FileTree) (p : Path) : Except FileError (List String) :=
  match tree.find p with
  | .error cause => .error cause
  | .ok (place, .directory _) =>
      .ok ((tree.entries.filterMap (fileNameIn? place)).mergeSort (fun a b => !decide (b < a)))
  | .ok (_, _) => .ok []

/-- The place of the directory that a path leads to. -/
def directoryPlace? (tree : FileTree) (p : Path) : Option Location :=
  match tree.find p with
  | .ok (place, .directory _) => some place
  | _ => none

/-! ### Changing -/

/-- Where a path to a file that is to be written leads.  With a slash at its end it leads to no
file, be it that nothing is there yet. -/
def locateFile (tree : FileTree) (p : Path) : Except FileError Target :=
  if endsInSlash p then
    -- no file is opened by a name with a slash behind it; only the way up to there counts
    match tree.locateSteps true p ((slashSegments p.text).dropLast ++ ["."]) with
    | .error cause => .error cause
    | .ok _ => .error .isDirectory
  else tree.locate true p

/-- Make a file with the given content, or give an existing one that content. -/
def writeContent (tree : FileTree) (p : Path) (content : Content) :
    Except FileError FileTree :=
  match tree.locateFile p with
  | .error cause => .error cause
  | .ok (.free place) => .ok (tree.put place (.file content fileMode))
  | .ok (.found place (.file _ _)) => .ok (tree.put place (.file content fileMode))
  | .ok (.found _ _) => .error .isDirectory

/-- Make a file with the given text, or give an existing one that text. -/
def writeText (tree : FileTree) (p : Path) (value : String) : Except FileError FileTree :=
  tree.writeContent p (.text value)

/-- Make one directory in a directory that exists. -/
def makeDirectory (tree : FileTree) (p : Path) : Except FileError FileTree :=
  match tree.locateSteps false p (slashSegments p.text) with
  | .error cause => .error cause
  | .ok (.free place) => .ok (tree.put place (.directory directoryMode))
  | .ok (.found _ _) => .error .exists

/-- Make a directory whose parent is missing, once `makeParent` has made that. -/
def makeBelow (tree : FileTree) (p : Path) (makeParent : Except FileError FileTree) :
    Except FileError FileTree :=
  match tree.makeDirectory p with
  | .ok made => .ok made
  | .error .missing =>
      match makeParent with
      | .error cause => .error cause
      | .ok above =>
          match above.makeDirectory p with
          | .ok made => .ok made
          -- it may have come to be there while the directories above it were made
          | .error cause => if above.isDirectory p then .ok above else .error cause
  | .error cause => if tree.isDirectory p then .ok tree else .error cause

/-- Make the first of some directories, each of which stands in the next; those are made in
turn where they are missing. -/
def makeDirectories (tree : FileTree) : List Path → Except FileError FileTree
  | [] => .error .noPath
  | p :: above =>
      if p.text.isEmpty then .ok tree else tree.makeBelow p (tree.makeDirectories above)

/-- Make sure that a path leads to a directory. -/
def ensureDirectory (tree : FileTree) (p : Path) : Except FileError FileTree :=
  if tree.isDirectory p then .ok tree
  else tree.makeDirectories p.ancestors

/-- Set the permission bits of what a path leads to. -/
def setMode (tree : FileTree) (p : Path) (bits : Nat) : Except FileError FileTree :=
  match tree.find p with
  | .error cause => .error cause
  | .ok (place, .file content _) => .ok (tree.put place (.file content bits))
  | .ok (place, .directory _) => .ok (tree.put place (.directory bits))
  | .ok (_, .link _) => .error .linkLoop

/-- Remove what a path leads to, with everything below it. -/
def removeTree (tree : FileTree) (p : Path) : FileTree :=
  match tree.locate false p with
  | .ok (.found place _) => tree.cut place
  | _ => tree

/-- Put a link at a free place. -/
def makeLink (tree : FileTree) (p target : Path) : Except FileError FileTree :=
  match tree.locate false p with
  | .error cause => .error cause
  | .ok (.free place) => .ok (tree.put place (.link target))
  | .ok (.found _ _) => .error .exists

end FileTree

end WrapperGen
