import WrapperGen.FileTree

/-!
# Listings of files

A file tree may be told by a listing, entry after entry.  What a run changes in a tree is a
listing too.

## Main definitions

* `Listed`: an entry of a listing.
* `Listed.ofLine`: the entry that a line stands for.
* `FileTree.addFile`, `FileTree.addDirectory`, `FileTree.addLink`: the tree with one more entry.
* `FileTree.changesFrom`: the entries of a tree that another tree does not have.
-/

namespace WrapperGen

/-! ### Entries -/

/-- An entry of a listing. -/
inductive Listed
  /-- A file. -/
  | file (path : Path)
  /-- A directory. -/
  | directory (path : Path)
  /-- A link and the path that it names. -/
  | link (path target : Path)
  deriving DecidableEq, Repr, Inhabited

/-- What stands between the path of a link and the path that it names. -/
def linkArrow : List Char := [' ', '-', '>', ' ']

/-- The text in front of the first arrow and the text behind it, if there is an arrow. -/
def splitAtArrow : List Char → Option (List Char × List Char)
  | [] => none
  | c :: rest =>
      match linkArrow.isPrefixOf? (c :: rest) with
      | some target => some ([], target)
      | none => (splitAtArrow rest).map fun parts => (c :: parts.1, parts.2)

/-- The entry that a line stands for.  A slash at the end makes a directory of it, and an arrow
a link. -/
def Listed.ofLine (line : String) : Listed :=
  match splitAtArrow line.toList with
  | some (path, target) => .link ⟨String.ofList path⟩ ⟨String.ofList target⟩
  | none => if FileTree.endsInSlash ⟨line⟩ then .directory ⟨line⟩ else .file ⟨line⟩

/-! ### Trees -/

/-- The content of a file with the given bytes. -/
def Content.ofBytes (bytes : ByteArray) : Content :=
  match String.fromUTF8? bytes with
  | some value => .text value
  | none => .bytes bytes.toList

namespace FileTree

/-- The changed tree, or the same one if it cannot be changed so. -/
def orSame (tree : FileTree) : Except FileError FileTree → FileTree
  | .ok changed => changed
  | .error _ => tree

/-- The tree with a directory, and with those above it. -/
def addDirectory (tree : FileTree) (p : Path) : FileTree :=
  tree.orSame (tree.ensureDirectory p)

/-- The tree with the directories above a path. -/
def addParents (tree : FileTree) (p : Path) : FileTree :=
  match p.parent? with
  | none => tree
  | some above => tree.addDirectory above

/-- The tree with a file, and with the directories above it. -/
def addFile (tree : FileTree) (p : Path) (content : Content) : FileTree :=
  let tree := tree.addParents p
  tree.orSame (tree.writeContent p content)

/-- The tree with a link, and with the directories above it. -/
def addLink (tree : FileTree) (p target : Path) : FileTree :=
  let tree := tree.addParents p
  tree.orSame (tree.makeLink p target)

/-- The entries of a tree that another tree does not have, each behind those above it. -/
def changesFrom (before after : FileTree) : List (Location × Entry) :=
  (after.entries.filter fun entry => before.entryAt entry.1 != some entry.2).mergeSort
    fun a b => decide (a.1.length ≤ b.1.length)

end FileTree

end WrapperGen
