import WrapperGen.Toml.Number

/-!
# TOML documents

A document is a tree of tables.  Its lines add entries to tables, and a header says to which one
the lines below it add.  A table is given once only; it may come into being earlier, on the way
to a table inside of it, and how it came into being decides what may still be added.

## Main definitions

* `Node`, `Entries`: the tree.
* `Line`: what stands on a line.
* `changeWithin`: a change of a table that is reached by keys.
* `parse?`: the entries of a document, if it is well formed.
-/

namespace WrapperGen.Toml

open Reading

/-! ### Trees -/

/-- How a table came into being. -/
inductive Origin
  /-- It is the whole document, or a header names it. -/
  | given
  /-- The header of a table inside of it led through it. -/
  | implied
  /-- A key with points led through it. -/
  | dotted
  deriving DecidableEq, Repr, Inhabited

/-- What a key may stand for. -/
inductive Node where
  /-- A text. -/
  | text (value : String)
  /-- A number, a date or a truth value. -/
  | scalar
  /-- A list of values. -/
  | array (items : List Node)
  /-- A table in braces, to which nothing can be added. -/
  | inline (entries : List (String × Node))
  /-- A table. -/
  | table (origin : Origin) (entries : List (String × Node))
  /-- A list of tables, each given by a header of its own. -/
  | tables (items : List (List (String × Node)))
  deriving Inhabited

/-- The entries of a table, in order. -/
abbrev Entries := List (String × Node)

/-- The entries with another value for a key that they have. -/
def putNode (key : String) (node : Node) (entries : Entries) : Entries :=
  entries.map fun entry => if entry.1 == key then (key, node) else entry

/-- A change of the table that is reached by keys from a table of the given origin.  Tables that
are missing on the way come into being.  A key with points cannot lead through a table that a
header gave, and nothing leads through values. -/
def changeWithin (points : Bool) (change : Origin → Entries → Option Entries) :
    List String → Origin → Entries → Option Entries
  | [], origin, entries => change origin entries
  | key :: rest, _, entries =>
      match entries.lookup key with
      | none =>
          let origin : Origin := if points then .dotted else .implied
          (changeWithin points change rest origin []).map fun inner =>
            entries ++ [(key, .table origin inner)]
      | some (.table origin inner) =>
          if points && origin == .given then none
          else
            (changeWithin points change rest origin inner).map fun inner =>
              putNode key (.table origin inner) entries
      | some (.tables items) =>
          match items.getLast? with
          | none => none
          | some last =>
              (changeWithin points change rest .given last).map fun last =>
                putNode key (.tables (items.dropLast ++ [last])) entries
      | some _ => none

/-! ### Keys and values -/

/-- A key and its value; a key may have several parts. -/
abbrev Pair := List String × Node

/-- Add the value of a key whose parts in front of the last one, `above`, have led to a table.
Parts in front have to lead to a table that keys with points made. -/
def addValue (above : List String) (key : String) (value : Node) (origin : Origin)
    (entries : Entries) : Option Entries :=
  if (origin == .dotted) == above.isEmpty then none
  else if (entries.lookup key).isSome then none
  else some (entries ++ [(key, value)])

/-- Add a pair to a table that is given. -/
def addPair (entries : Entries) (pair : Pair) : Option Entries :=
  match pair.1.getLast? with
  | none => none
  | some key =>
      changeWithin true (addValue pair.1.dropLast key pair.2) pair.1.dropLast .given entries

/-- Add pairs to a table that is given, one after the other. -/
def addPairs : List Pair → Entries → Option Entries
  | [], entries => some entries
  | pair :: rest, entries => (addPair entries pair).bind (addPairs rest)

/-- Whether a character may stand in a key without quotes. -/
def isKeyChar (c : Char) : Bool := c.isAlpha || c.isDigit || c == '_' || c == '-'

/-- A key without quotes. -/
def bareKey : Scanner String := do
  let first ← charWhere isKeyChar
  let more ← charsWhile isKeyChar
  pure (String.ofList (first :: more))

/-- One part of a key. -/
def keyPart : Scanner String := do
  skipBlanks
  let part ← basicText <|> literalText <|> bareKey
  skipBlanks
  pure part

/-- How deep things may be nested, be it parts of a key or values. -/
def maxNesting : Nat := 79

/-- A key. -/
def key : Scanner (List String) := do
  let first ← keyPart
  let more ← readAll (do
    let _ ← char '.'
    keyPart)
  require (more.length < maxNesting)
  pure (first :: more)

/-- A key and its value, given how values are read. -/
def pairOf (value : Scanner Node) : Scanner Pair := do
  let found ← key
  let _ ← char '='
  skipBlanks
  let node ← value
  pure (found, node)

/-- A list of values in brackets, given how values are read. -/
def arrayOf (value : Scanner Node) : Scanner Node := do
  let _ ← char '['
  let element : Scanner Node := do
    skipLines
    let node ← value
    skipLines
    pure node
  let items ← maybe (do
    let first ← element
    let more ← readAll (do
      let _ ← char ','
      element)
    let _ ← maybe (char ',')
    pure (first :: more))
  skipLines
  let _ ← char ']'
  pure (.array (items.getD []))

/-- A table in braces, given how values are read. -/
def inlineOf (value : Scanner Node) : Scanner Node := do
  let _ ← char '\x7b'
  let member : Scanner Pair := do
    let pair ← pairOf value
    skipBlanks
    pure pair
  let pairs ← maybe (do
    let first ← member
    let more ← readAll (do
      let _ ← char ','
      member)
    pure (first :: more))
  skipBlanks
  let _ ← char '\x7d'
  match addPairs (pairs.getD []) [] with
  | some entries => pure (.inline entries)
  | none => failure

/-- A value that has no parts. -/
def simpleValue : Scanner Node :=
  (do
    let found ← text
    pure (.text found)) <|> (do
    scalar
    pure .scalar)

/-- A value whose parts are nested at most `depth` deep. -/
def value : Nat → Scanner Node
  | 0 => simpleValue
  | depth + 1 => simpleValue <|> arrayOf (value depth) <|> inlineOf (value depth)

/-! ### Lines -/

/-- What stands on a line. -/
inductive Line where
  /-- Nothing, or a comment. -/
  | blank
  /-- A key and its value. -/
  | pair (pair : Pair)
  /-- The header of a table; with `one`, of one among several tables of the same key. -/
  | header (one : Bool) (path : List String)
  deriving Inhabited

/-- The header of a table. -/
def header : Scanner Line :=
  (do
    chars ['[', '[']
    let path ← key
    chars [']', ']']
    pure (.header true path)) <|> (do
    chars ['[']
    let path ← key
    chars [']']
    pure (.header false path))

/-- A line.  The blanks in front of the next line belong to it. -/
def line : Scanner Line := do
  let found ← (do
    let found ← header
    lineEnd
    pure found) <|> (do
    let pair ← pairOf (value maxNesting)
    lineEnd
    pure (.pair pair)) <|> (do
    newline
    pure .blank) <|> (do
    comment
    lineEnd
    pure .blank)
  skipBlanks
  pure found

/-- All lines of a document. -/
def lines : Scanner (List Line) := do
  let _ ← maybe (char '\ufeff')
  skipBlanks
  let found ← readAll line
  atEnd
  pure found

/-! ### Documents -/

/-- A header with the pairs below it. -/
structure Section where
  /-- Whether the table is one among several of the same key. -/
  one : Bool
  /-- The key of the table. -/
  path : List String
  /-- The pairs. -/
  pairs : List Pair
  deriving Inhabited

/-- The pairs in front of the first header, and the sections. -/
def sections : List Line → List Pair × List Section
  | [] => ([], [])
  | .blank :: rest => sections rest
  | .pair pair :: rest =>
      let found := sections rest
      (pair :: found.1, found.2)
  | .header one path :: rest =>
      let found := sections rest
      ([], ⟨one, path, found.1⟩ :: found.2)

/-- Add a table that a header gives.  It may be implied by an earlier header. -/
def addTable (key : String) (pairs : List Pair) (entries : Entries) : Option Entries :=
  match entries.lookup key with
  | none => (addPairs pairs []).map fun inner => entries ++ [(key, .table .given inner)]
  | some (.table .implied inner) =>
      (addPairs pairs inner).map fun inner => putNode key (.table .given inner) entries
  | some _ => none

/-- Add one among several tables of the same key. -/
def addElement (key : String) (pairs : List Pair) (entries : Entries) : Option Entries :=
  match entries.lookup key with
  | none => (addPairs pairs []).map fun inner => entries ++ [(key, .tables [inner])]
  | some (.tables items) =>
      (addPairs pairs []).map fun inner => putNode key (.tables (items ++ [inner])) entries
  | some _ => none

/-- Add a section to a document. -/
def addSection (entries : Entries) (s : Section) : Option Entries :=
  match s.path.getLast? with
  | none => none
  | some key =>
      let change : Origin → Entries → Option Entries := fun _ inner =>
        if s.one then addElement key s.pairs inner else addTable key s.pairs inner
      changeWithin false change s.path.dropLast .given entries

/-- Add sections to a document, one after the other. -/
def addSections : List Section → Entries → Option Entries
  | [], entries => some entries
  | s :: rest, entries => (addSection entries s).bind (addSections rest)

/-- The entries of a document, if it is well formed. -/
def parse? (document : String) : Option Entries :=
  match lines document.toList with
  | none => none
  | some (found, _) =>
      let parts := sections found
      (addPairs parts.1 []).bind (addSections parts.2)

end WrapperGen.Toml
