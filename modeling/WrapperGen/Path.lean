import WrapperGen.Text.Pieces

/-!
# Paths

A path is kept as it was written; what it means is read from its components.  Nothing here
looks at a file tree: `..` is folded against the name before it, whatever that name may be on
disk.

## Main definitions

* `Path`, `Path.components`: a path and the steps that it takes.
* `Path.join`, `Path.parent?`, `Path.fileName?`: building and taking apart.
* `Path.normalize`, `Path.absolutize`: the path with `.` and `..` folded away.
* `Path.below?`: what follows a given path, step by step.
* `Path.relativeTo?`, `Path.display`: the way from one path to another, as shown in messages.
-/

namespace WrapperGen

/-- One step of a path. -/
inductive Component
  /-- The top of the tree. -/
  | root
  /-- The place itself, `.`; it counts only at the start of a relative path. -/
  | here
  /-- The place above, `..`. -/
  | up
  /-- A named entry. -/
  | name (text : String)
  deriving DecidableEq, Repr, Inhabited

/-- How a step is written. -/
def Component.text : Component → String
  | .root => "/"
  | .here => "."
  | .up => ".."
  | .name text => text

/-- The step that a piece between slashes stands for.  Empty pieces and `.` are no steps. -/
def Component.ofPiece? (piece : List Char) : Option Component :=
  match piece with
  | [] => none
  | ['.'] => none
  | ['.', '.'] => some .up
  | text => some (.name (String.ofList text))

/-- A path, as it was written. -/
structure Path where
  /-- The written form. -/
  text : String
  deriving DecidableEq, Repr, Inhabited

namespace Path

/-! ### Components -/

/-- Whether the path starts at the top of the tree. -/
def isAbsolute (p : Path) : Bool := p.text.toList.head? == some '/'

/-- The steps that the path takes.  Repeated slashes, a slash at the end and an inner `.` make
no step. -/
def components (p : Path) : List Component :=
  match List.splitOn '/' p.text.toList with
  | [] => []
  | first :: rest =>
      let inner := rest.filterMap Component.ofPiece?
      if p.isAbsolute then .root :: inner
      -- a `.` is a step only where nothing is in front of it
      else if first == ['.'] then .here :: inner
      else (Component.ofPiece? first).toList ++ inner

/-- The path that takes the given steps, without any that could be left out. -/
def ofComponents : List Component → Path
  | .root :: rest => ⟨"/" ++ joinSlash (rest.map Component.text)⟩
  | steps => ⟨joinSlash (steps.map Component.text)⟩

/-- Whether two paths take the same steps. -/
def sameSteps (p q : Path) : Bool := p.components == q.components

/-! ### Building and taking apart -/

/-- The path `q` as seen from `p`: `q` itself if it is absolute, else `q` written behind `p`. -/
def join (p q : Path) : Path :=
  if q.isAbsolute then q
  else if p.text.isEmpty || p.text.toList.getLast? == some '/' then ⟨p.text ++ q.text⟩
  else ⟨p.text ++ "/" ++ q.text⟩

/-- The path `p` with the given segments behind it, one after the other. -/
def joinAll (p : Path) (segments : List String) : Path :=
  segments.foldl (fun dir segment => dir.join ⟨segment⟩) p

/-- Whether a piece at the end of a path makes no step. -/
def isIdlePiece (piece : List Char) : Bool := piece == [] || piece == ['.']

/-- The pieces, last one first, without the idle ones in front; a `.` that begins a relative
path is not idle. -/
def dropIdle (relative : Bool) : List (List Char) → List (List Char)
  | [] => []
  | [['.']] => if relative then [['.']] else []
  | piece :: rest => if isIdlePiece piece then dropIdle relative rest else piece :: rest

/-- The path without its last step, as it was written up to there; none for the top of the tree
and for the empty path. -/
def parent? (p : Path) : Option Path :=
  let pieces := List.splitOn '/' p.text.toList
  let body := if p.isAbsolute then pieces.drop 1 else pieces
  match dropIdle (!p.isAbsolute) body.reverse with
  | [] => none
  | _ :: above =>
      let kept := ['/'].intercalate (dropIdle (!p.isAbsolute) above).reverse
      some ⟨String.ofList (if p.isAbsolute then '/' :: kept else kept)⟩

/-- The last step of the path, if it is a name. -/
def fileName? (p : Path) : Option String :=
  match p.components.getLast? with
  | some (.name text) => some text
  | _ => none

/-- The path and the paths above it, nearest first, at most `steps` of them. -/
def upwards : Nat → Path → List Path
  | 0, p => [p]
  | steps + 1, p =>
      match p.parent? with
      | none => [p]
      | some q => p :: upwards steps q

/-- The path and all paths above it, nearest first. -/
def ancestors (p : Path) : List Path := upwards p.text.length p

/-! ### Folding -/

/-- Take one step from the place that `steps` leads to, last step first.  Climbing from the top
of the tree, or from the start of a relative path, stays written. -/
def foldStep (steps : List Component) : Component → List Component
  | .here => steps
  | .up =>
      match steps with
      | [] => [.up]
      | .root :: above => .up :: .root :: above
      -- this takes away whatever was the last step, be it a `..` that was kept
      | _ :: above => above
  | step => step :: steps

@[simp] theorem foldStep_here (steps : List Component) : foldStep steps .here = steps := rfl

@[simp] theorem foldStep_name (steps : List Component) (text : String) :
    foldStep steps (.name text) = .name text :: steps := rfl

@[simp] theorem foldStep_root (steps : List Component) :
    foldStep steps .root = .root :: steps := rfl

@[simp] theorem foldStep_up_nil : foldStep [] .up = [.up] := rfl

@[simp] theorem foldStep_up_name (text : String) (above : List Component) :
    foldStep (.name text :: above) .up = above := rfl

/-- The steps with `.` and `..` folded away. -/
def foldSteps (steps : List Component) : List Component := (steps.foldl foldStep []).reverse

/-- The path with `.` and `..` folded away. -/
def normalize (p : Path) : Path := ofComponents (foldSteps p.components)

/-- The path `q`, seen from `base` and with `.` and `..` folded away. -/
def absolutize (base q : Path) : Path := (base.join q).normalize

/-! ### Comparing -/

/-- What follows the steps of `base` in the steps of `p`, if `p` begins with them. -/
def below? (base p : Path) : Option (List Component) :=
  let front := base.components
  if front.isPrefixOf p.components then some (p.components.drop front.length) else none

/-- Whether `p` is `base` or lies below it. -/
def isAtOrBelow (p base : Path) : Bool := (base.below? p).isSome

/-- The names among the given steps, with slashes between them. -/
def slashNames (steps : List Component) : String :=
  joinSlash (steps.filterMap fun
    | .name text => some text
    | _ => none)

/-- The steps from the place `base` to the place `p`, where both start from the same place;
`same` says that all steps so far agreed.  There are none if `base` climbs out of a place that
`p` enters. -/
def stepsBetween (same : Bool) : List Component → List Component → Option (List Component)
  | [], base => some (base.map fun _ => .up)
  | rest, [] => some rest
  | step :: rest, b :: base =>
      if same && step == b then stepsBetween same rest base
      -- a `.` at the start of `base` is no place, so nothing has to be climbed out of it
      else if b == .here then (stepsBetween false rest base).map (step :: ·)
      else if b == .up then none
      else some (.up :: base.map (fun _ => .up) ++ step :: rest)

/-- The way from `base` to `p`. -/
def relativeTo? (p base : Path) : Option Path :=
  if p.isAbsolute != base.isAbsolute then
    if p.isAbsolute then some p else none
  else (stepsBetween true p.components base.components).map ofComponents

/-- The path to show in messages: the way from `base`, unless that is empty or climbs. -/
def display (base p : Path) : String :=
  match p.relativeTo? base with
  | none => p.text
  | some way =>
      if way.text.isEmpty || way.components.head? == some .up then p.text else way.text

end Path

end WrapperGen
