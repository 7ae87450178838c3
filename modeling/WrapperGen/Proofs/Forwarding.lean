import Mathlib.Data.List.Nodup
import Mathlib.Data.List.Range
import WrapperGen.Output.Wrapper
import WrapperGen.Proofs.GuessedNames
import WrapperGen.Proofs.PathPieces
import WrapperGen.Proofs.Spelling
import WrapperGen.Proofs.WrapperTexts

/-!
# Wrappers hand calls on

A method of a wrapper is put together from parts that are found one by one: the texts of its
parameters, the call, and what is returned.  Each of these looks for itself which parameter may be
repeated.  They agree: the call hands on all parameters in order, and spreads exactly the one that
is declared with dots.

## Main definitions

* `InTurn`: steps one after the other, each from where the one before ends.
* `StartsPlainly`: a text does not begin with a point.
* `Method.IsWellFormed`: names are identifiers, and what may be repeated is a slice at the end.
* `Forwards`: a method declaration hands its call on.

## Main results

* `nodup_variables`: the names in a method are distinct.
* `map_isRepeated_of_inTurn`: which parameters are declared with dots.
* `forwards_overridingMethod`: one method.
* `writeWrapper_forwards`: all methods of a wrapper.
-/

namespace WrapperGen

open Source

/-! ### Steps in turn -/

/-- Steps one after the other, each from where the one before ends, with one answer for each.  What
goes from step to step here is the import table: a type may need an alias, and the types behind it
are written with that one. -/
inductive InTurn {α β σ : Type} (step : α → σ → β → σ → Prop) : List α → σ → List β → σ → Prop
  /-- No step. -/
  | nil (s : σ) : InTurn step [] s [] s
  /-- One step, and then the others. -/
  | cons {a : α} {s next last : σ} {b : β} {rest : List α} {more : List β} :
      step a s b next → InTurn step rest next more last → InTurn step (a :: rest) s (b :: more) last

namespace InTurn

variable {α β σ : Type} {step : α → σ → β → σ → Prop} {as : List α} {bs : List β} {s last : σ}

/-- There is one answer for each step. -/
theorem length_eq (h : InTurn step as s bs last) : bs.length = as.length := by
  induction h with
  | nil => rfl
  | cons _ _ ih => rw [List.length_cons, List.length_cons, ih]

end InTurn

/-! ### The names in a method -/

theorem numbered_injective (front : String) :
    Function.Injective fun n : Nat => front ++ toString n := by
  intro m n e
  have texts := congrArg String.toList e
  simp only [String.toList_append, Nat.toString_eq_ofList_toDigits, String.toList_ofList] at texts
  -- read as a numeral again, the digits give the number back
  have numbers := congrArg (Nat.ofDigitChars 10 · 0) (List.append_cancel_left texts)
  simpa only [Nat.ofDigitChars_ten_toDigits] using numbers

theorem head?_numbered {front : String} {c : Char} {rest : List Char}
    (h : front.toList = c :: rest) (n : Nat) : (front ++ toString n).toList.head? = some c := by
  rw [String.toList_append, h]
  rfl

/-- The receiver, the parameters and the captured results of a method have different names. -/
theorem nodup_variables (n k : Nat) :
    (wrapperReceiver :: ((List.range n).map paramName ++ (List.range k).map resultName)).Nodup := by
  have param : ∀ i, (paramName i).toList.head? = some 'v' :=
    head?_numbered (by decide : "v".toList = ['v'])
  have result : ∀ i, (resultName i).toList.head? = some 'r' :=
    head?_numbered (by decide : "r".toList = ['r'])
  -- the first letters tell parameters from results, and both from the receiver
  rw [List.nodup_cons, List.mem_append, List.mem_map, List.mem_map, List.nodup_append]
  refine ⟨?_, List.nodup_range.map (numbered_injective "v"),
    List.nodup_range.map (numbered_injective "r"), ?_⟩
  · rintro (⟨i, -, e⟩ | ⟨i, -, e⟩)
    · have heads := (param i).symm.trans (congrArg (·.toList.head?) e)
      exact absurd heads (by decide)
    · have heads := (result i).symm.trans (congrArg (·.toList.head?) e)
      exact absurd heads (by decide)
  · intro name hn other ho e
    obtain ⟨i, -, rfl⟩ := List.mem_map.1 hn
    obtain ⟨j, -, rfl⟩ := List.mem_map.1 ho
    have heads := (param i).symm.trans ((congrArg (·.toList.head?) e).trans (result j))
    exact absurd heads (by decide)

/-! ### Texts that do not begin with a point -/

/-- Whether a text begins with something else than a point. -/
def startsPlainly (text : String) : Bool := text.toList.head?.any (· != '.')

/-- Whether a text is that of a parameter that may be repeated. -/
def isRepeated (text : String) : Bool := ['.', '.', '.'].isPrefixOf text.toList

theorem startsPlainly_append {text : String} (h : startsPlainly text = true) (behind : String) :
    startsPlainly (text ++ behind) = true := by
  unfold startsPlainly at h ⊢
  rw [String.toList_append]
  cases letters : text.toList with
  | nil => simp [letters] at h
  | cons c rest => simpa [letters] using h

theorem isRepeated_of_startsPlainly {text : String} (h : startsPlainly text = true) :
    isRepeated text = false := by
  unfold startsPlainly at h
  unfold isRepeated
  cases letters : text.toList with
  | nil => rfl
  | cons c rest =>
    -- the point that the dots begin with is not the first letter
    have other : ('.' == c) = false := by
      rw [letters] at h
      exact beq_false_of_ne (Ne.symm (by simpa using h))
    rw [List.isPrefixOf, other, Bool.false_and]

theorem isRepeated_dots (text : String) : isRepeated ("..." ++ text) = true := by
  rw [isRepeated, String.toList_append]
  rfl

theorem startsPlainly_of_isIdentifier {text : String} (h : isIdentifier text = true) :
    startsPlainly text = true := by
  obtain ⟨c, rest, letters, start, -⟩ := cons_of_isIdentifier h
  have other : c ≠ '.' := by
    rintro rfl
    exact absurd start (by decide)
  simp [startsPlainly, letters, other]

namespace ImportTable

variable {t : ImportTable}

/-- No alias begins with a point. -/
def StartsPlainly (t : ImportTable) : Prop := ∀ name ∈ t.aliases, startsPlainly name = true

theorem startsPlainly_empty : ImportTable.empty.StartsPlainly := nofun

theorem startsPlainly_candidate (path : String) (n : Nat) :
    startsPlainly (aliasCandidate (aliasBase path) n) = true := by
  have some' := toList_ne_nil (aliasCandidate_ne_empty path n)
  obtain ⟨c, rest, letters⟩ := List.exists_cons_of_ne_nil some'
  have name := (isGuessable_candidate path n).1 c (by rw [letters]; exact List.mem_cons_self)
  have other : c ≠ '.' := by
    rintro rfl
    exact absurd name (by decide)
  simp [startsPlainly, letters, other]

theorem StartsPlainly.note (h : t.StartsPlainly) (m : Mention) : (t.note m).StartsPlainly := by
  cases m with
  | foreign =>
    intro name hn
    rcases mem_aliases_bind hn with rfl | old
    · decide
    · exact h name old
  | package path =>
    refine note_package_induction (fun _ _ => h) fun _ name hn => ?_
    -- a new alias is guessable, and so has no point in it
    rcases mem_aliases_bind hn with rfl | old
    · obtain ⟨n, e⟩ := exists_freshAlias_eq t.aliases (aliasBase path)
      rw [e]
      exact startsPlainly_candidate path n
    · exact h name old

/-- No alias that is given on the way begins with a point. -/
theorem StartsPlainly.noteAll (h : t.StartsPlainly) (ms : List Mention) :
    (t.noteAll ms).StartsPlainly := by
  induction ms generalizing t with
  | nil => exact h
  | cons m ms ih => exact ih (h.note m)

end ImportTable

/-- A name that holds nothing but identifiers. -/
def WrittenName.IsIdentifier : WrittenName → Prop
  | .named name _ => isIdentifier name = true
  | .selected qualifier name => isIdentifier qualifier = true ∧ isIdentifier name = true

variable {home : String} {t last : ImportTable}

/-- A name does not begin with a point, be it qualified or not.  The qualifier is an alias of the
table behind it, and no such alias begins with a point either. -/
theorem startsPlainly_qualify (plain : t.StartsPlainly) (path : String) {name : String}
    (h : startsPlainly name = true) : startsPlainly ((qualify path name).run t).1 = true := by
  unfold qualify
  by_cases own : path.isEmpty = true
  · rw [if_pos own]
    exact h
  · rw [if_neg own]
    show startsPlainly ((ImportTable.add path t).1 ++ "." ++ name) = true
    -- the name that stands in front is an alias of the table that is left behind
    have bound : (ImportTable.add path t).2.alias? path = some (ImportTable.add path t).1 := by
      rw [ImportTable.add]
      cases known : t.alias? path with
      | some name => exact known
      | none => exact ImportTable.alias?_bind_self t path _
    have given : (ImportTable.add path t).1 ∈ (t.note (.package path)).aliases :=
      ImportTable.mem_aliases_of_alias? bound
    rw [String.append_assoc]
    exact startsPlainly_append (plain.note _ _ given) _

/-- The same holds of the names in types. -/
theorem startsPlainly_nameText (home : String) (plain : t.StartsPlainly) {name : WrittenName}
    (word : name.IsIdentifier) : startsPlainly ((nameText home name).run t).1 = true := by
  unfold nameText
  match name, word with
  | .named text (some path), word =>
    exact startsPlainly_qualify plain path (startsPlainly_of_isIdentifier word)
  | .named text none, word =>
    dsimp only
    split
    · exact startsPlainly_of_isIdentifier word
    · exact startsPlainly_qualify plain home (startsPlainly_of_isIdentifier word)
  | .selected qualifier text, word =>
    have shown : startsPlainly (qualifier ++ "." ++ text) = true := by
      rw [String.append_assoc]
      exact startsPlainly_append (startsPlainly_of_isIdentifier word.1) _
    dsimp only
    by_cases foreign : qualifier = foreignQualifier
    · rw [if_pos foreign]
      exact shown
    · rw [if_neg foreign]
      exact shown

/-- The text of a type does not begin with a point.  So the dots in front of a parameter are never
part of its type, and a parameter is declared with dots only where it was meant to be. -/
theorem startsPlainly_typeText (home : String) (plain : t.StartsPlainly) {type : WrittenType}
    (names : ∀ name, .named name ∈ type.parts → name.IsIdentifier) :
    startsPlainly ((typeText home type).run t).1 = true := by
  have known : ∀ {front behind : String}, startsPlainly front = true →
      startsPlainly (front ++ behind) = true := fun h => startsPlainly_append h _
  induction type using TypeForm.induction generalizing t with
  | named name =>
    unfold typeText
    exact startsPlainly_nameText home plain (names name (TypeForm.mem_parts_self _))
  | pointer element _ =>
    unfold typeText
    exact known (by decide)
  | slice element _ =>
    unfold typeText
    exact known (by decide)
  | array length element _ =>
    unfold typeText
    exact known (known (known (by decide)))
  | map key value _ _ =>
    unfold typeText
    exact known (known (known (by decide)))
  | channel direction element _ =>
    unfold typeText
    show startsPlainly (channelText direction element ((typeText home element).run t).1) = true
    unfold channelText
    split
    · exact known (known (by decide))
    · exact known (by decide)
    · exact known (by decide)
    · exact known (by decide)
  | function params results variadic _ _ _ =>
    unfold typeText
    exact known (known (known (by decide)))
  -- only here does the text begin with that of another type
  | applied base arguments ih _ =>
    unfold typeText
    refine known (known (known (ih plain fun name hn => names name ?_)))
    exact TypeForm.mem_parts_of_base hn
  | emptyInterface =>
    unfold typeText
    exact (by decide : startsPlainly "interface\x7b\x7d" = true)
  | emptyStruct =>
    unfold typeText
    exact (by decide : startsPlainly "struct\x7b\x7d" = true)

/-! ### Parameters and results -/

/-- The text of a type in a file, and the imports behind it.  The flag tells whether a slice is to
be written as a parameter that may be repeated. -/
def Renders (home : String) (type : WrittenType × Bool) (t : ImportTable) (text : String)
    (next : ImportTable) : Prop :=
  (lastParamText home type.2 type.1).run t = (text, next)

/-- Some types, the last one with the flag.  Only the last parameter of a method may be repeated, so
the flag of a signature belongs to that one alone. -/
def flagLast (flag : Bool) : List WrittenType → List (WrittenType × Bool)
  | [] => []
  | [last] => [(last, flag)]
  | type :: next :: rest => (type, false) :: flagLast flag (next :: rest)

/-- The flag is at the last one. -/
theorem getElem?_flagLast (flag : Bool) (types : List WrittenType) (position : Nat) :
    (flagLast flag types)[position]?
      = types[position]?.map fun type => (type, flag && position + 1 == types.length) := by
  fun_induction flagLast flag types generalizing position with
  | case1 => rfl
  | case2 last =>
    cases position with
    | zero => simp
    | succ n => rfl
  | case3 type next rest ih =>
    cases position with
    | zero => simp
    | succ n =>
      rw [List.getElem?_cons_succ, List.getElem?_cons_succ, ih, List.length_cons]
      simp

/-- The parameters are written in order. -/
theorem inTurn_paramTexts (home : String) (dots : Bool) (params : List WrittenType)
    (t : ImportTable) :
    InTurn (Renders home) (flagLast dots params) t ((paramTexts home dots params).run t).1
      ((paramTexts home dots params).run t).2 := by
  fun_induction flagLast dots params generalizing t with
  | case1 =>
    unfold paramTexts
    exact .nil t
  | case2 last =>
    unfold paramTexts
    exact .cons rfl (.nil _)
  | case3 type next rest ih =>
    unfold paramTexts
    refine .cons ?_ (ih ((typeText home type).run t).2)
    show (lastParamText home false type).run t = _
    rw [lastParamText_false]
    rfl

/-- The results are written in order. -/
theorem inTurn_typeTexts (types : List WrittenType) (t : ImportTable) :
    InTurn (Renders home) (types.map fun type => (type, false)) t
      ((typeTexts home types).run t).1 ((typeTexts home types).run t).2 := by
  induction types generalizing t with
  | nil =>
    unfold typeTexts
    exact .nil t
  | cons type rest ih =>
    unfold typeTexts
    refine .cons ?_ (ih ((typeText home type).run t).2)
    show (lastParamText home false type).run t = _
    rw [lastParamText_false]
    rfl

/-- Exactly those parameters are declared with dots that have the flag.  A slice with the flag is
written as its element behind the dots; all other texts are those of types, which begin plainly. -/
theorem map_isRepeated_of_inTurn {types : List (WrittenType × Bool)} {texts : List String}
    (h : InTurn (Renders home) types t texts last) (plain : t.StartsPlainly)
    (slices : ∀ type ∈ types, type.2 = true → ∃ element, type.1 = .slice element)
    (names : ∀ type ∈ types, ∀ name, .named name ∈ type.1.parts → name.IsIdentifier) :
    texts.map isRepeated = types.map Prod.snd := by
  induction h with
  | nil => rfl
  | @cons type t next last text rest more here _ ih =>
    obtain ⟨type, flag⟩ := type
    have step : (lastParamText home flag type).run t = (text, next) := here
    -- aliases that are given on the way are no exception
    have behind : next.StartsPlainly := by
      obtain ⟨after, -⟩ := tells_lastParamText home flag type t
      rw [step] at after
      rw [show next = _ from after]
      exact plain.noteAll _
    -- without the flag it is the text of a type; with it dots stand in front of the element
    have first : isRepeated text = flag := by
      cases flag with
      | false =>
        rw [lastParamText_false] at step
        have begins := startsPlainly_typeText home plain
          (names (type, false) List.mem_cons_self)
        rw [step] at begins
        exact isRepeated_of_startsPlainly begins
      | true =>
        obtain ⟨element, rfl⟩ := slices _ List.mem_cons_self rfl
        unfold lastParamText at step
        have shown : "..." ++ ((typeText home element).run t).1 = text := congrArg Prod.fst step
        rw [← shown]
        exact isRepeated_dots _
    rw [List.map_cons, List.map_cons, first]
    rw [ih behind (fun other ho => slices other (List.mem_cons_of_mem _ ho))
      fun other ho => names other (List.mem_cons_of_mem _ ho)]

/-! ### Lines -/

/-- A text that stays in one line.  Statements are indented line by line, so only a statement of one
line is written as it is. -/
def StaysInLine (text : String) : Prop := '\n' ∉ text.toList

instance (text : String) : Decidable (StaysInLine text) :=
  inferInstanceAs (Decidable ('\n' ∉ text.toList))

theorem StaysInLine.append {text behind : String} (h : StaysInLine text)
    (hb : StaysInLine behind) : StaysInLine (text ++ behind) := by
  unfold StaysInLine at h hb ⊢
  rw [String.toList_append, List.mem_append, not_or]
  exact ⟨h, hb⟩

theorem staysInLine_intercalate {sep : String} {texts : List String} (hs : StaysInLine sep)
    (h : ∀ text ∈ texts, StaysInLine text) : StaysInLine (sep.intercalate texts) := by
  induction texts with
  | nil => exact (by decide : StaysInLine "")
  | cons text rest ih =>
    have first := h text List.mem_cons_self
    have behind := ih fun other ho => h other (List.mem_cons_of_mem text ho)
    cases rest with
    | nil =>
      rw [String.intercalate_singleton]
      exact first
    | cons next rest =>
      rw [String.intercalate_cons_cons]
      exact (first.append hs).append behind

theorem staysInLine_commaText {texts : List String} (h : ∀ text ∈ texts, StaysInLine text) :
    StaysInLine (commaText texts) :=
  staysInLine_intercalate (by decide) h

theorem staysInLine_numbered {front : String} (h : StaysInLine front) (n : Nat) :
    StaysInLine (front ++ toString n) := by
  refine h.append fun mem => ?_
  rw [Nat.toString_eq_ofList_toDigits, String.toList_ofList] at mem
  exact absurd (isDigit_of_mem_toDigits '\n' mem) (by decide)

theorem staysInLine_of_isIdentifier {text : String} (h : isIdentifier text = true) :
    StaysInLine text := by
  intro mem
  exact absurd (isIdentRest_of_isIdentifier h '\n' mem) (by decide)

theorem statementText_of_staysInLine {statement : String} (h : StaysInLine statement)
    (some' : statement ≠ "") :
    FunctionDecl.statementText statement = "\t" ++ statement ++ "\n" := by
  have line : textLines statement.toList = [statement.toList] := by
    have filled : ¬ statement.toList.isEmpty = true := by
      rw [List.isEmpty_iff]
      exact toList_ne_nil some'
    -- there is one line, and it is not empty, so it gets one tab and one end
    rw [textLines, List.splitOn_eq_singleton h, linesOfPieces, if_neg filled]
  refine String.toList_injective ?_
  rw [FunctionDecl.statementText, line]
  simp

/-! ### One method -/

/-- A method in whose parameters all names are identifiers.  What may be repeated is the slice at
the end. -/
structure Method.IsWellFormed (m : Method WrittenName) : Prop where
  /-- The names in the types of the parameters. -/
  names : ∀ name, .named name ∈ TypeForm.partsOfAll m.signature.params → name.IsIdentifier
  /-- What may be repeated. -/
  variadic : m.signature.variadic = true →
    ∃ front element, m.signature.params = front ++ [.slice element]

/-- The statements that call a method of the value inside with some arguments, and give back what
that gives. -/
def handOver (name : String) (arguments : List String) (results : Nat) : List String :=
  let call := "w.inner." ++ name ++ "(" ++ commaText arguments ++ ")"
  let captured := commaText ((List.range results).map fun position => "r" ++ toString position)
  if results = 0 then [call] else [captured ++ " := " ++ call, "return " ++ captured]

/-- The arguments that hand on some parameters, the last one spread if that is asked for. -/
def spreadArguments (spread : Bool) (params : Nat) : List String :=
  (List.range params).map fun position =>
    if spread && position + 1 == params then "v" ++ toString position ++ "..."
    else "v" ++ toString position

/-- A method declaration hands its call on.  It has the name of the method, and its parameters and
results have the types of the method in order, as they are written in the file.  The body is the
call with the parameters in order, the last one spread if it may be repeated, and what comes of it
is given back.  If the method is well formed, then exactly what is spread is declared with dots. -/
structure Forwards (wrapper home : String) (m : Method WrittenName) (t : ImportTable)
    (f : FunctionDecl) (last : ImportTable) : Prop where
  /-- It belongs to the wrapper. -/
  receiver : f.receiver = some ("w", "*" ++ wrapper)
  /-- It has the name of the method. -/
  name : f.name = m.name
  /-- It has the parameters and results of the method. -/
  types : ∃ types middle,
    InTurn (Renders home) (flagLast m.signature.variadic m.signature.params) t types middle
    ∧ f.params = types.mapIdx (fun position type => "v" ++ toString position ++ " " ++ type)
    ∧ (m.IsWellFormed → ∀ position type, types[position]? = some type →
      (isRepeated type = true
        ↔ m.signature.variadic = true ∧ position + 1 = m.signature.params.length))
    ∧ InTurn (Renders home) (m.signature.results.map fun type => (type, false)) middle f.results
      last
  /-- It hands the parameters on, and gives the results back. -/
  body : f.body = handOver m.name
    (spreadArguments m.signature.variadic m.signature.params.length) m.signature.results.length
  /-- Each statement stands in a line of its own. -/
  text : isIdentifier m.name = true →
    f.text = "func (w *" ++ wrapper ++ ") " ++ m.name ++ "(" ++ commaText f.params ++ ")"
      ++ resultsText f.results ++ " \x7b\n"
      ++ String.join (f.body.map fun statement => "\t" ++ statement ++ "\n") ++ "\x7d"

/-- In a well-formed method the flag is at a slice only, and all names are identifiers. -/
theorem Method.IsWellFormed.flags {m : Method WrittenName} (h : m.IsWellFormed) :
    ∀ type ∈ flagLast m.signature.variadic m.signature.params,
      (type.2 = true → ∃ element, type.1 = .slice element)
      ∧ ∀ name, .named name ∈ type.1.parts → name.IsIdentifier := by
  intro type ht
  obtain ⟨position, found⟩ := List.mem_iff_getElem?.1 ht
  rw [getElem?_flagLast] at found
  obtain ⟨param, there, rfl⟩ := Option.map_eq_some_iff.1 found
  refine ⟨fun flag => ?_, fun name part => ?_⟩
  -- the flag is at the last parameter, and that is the slice
  · dsimp only at flag ⊢
    rw [Bool.and_eq_true, beq_iff_eq] at flag
    obtain ⟨front, element, params⟩ := h.variadic flag.1
    rw [params, List.length_append, List.length_singleton] at flag
    rw [params, Nat.add_right_cancel flag.2, List.getElem?_concat_length] at there
    exact ⟨element, (Option.some.inj there).symm⟩
  · exact h.names name (TypeForm.mem_partsOfAll.2 ⟨_, List.mem_of_getElem? there, part⟩)

/-- Of a well-formed method exactly what may be repeated is declared with dots: the last parameter,
and that one only if the method says so. -/
theorem Method.IsWellFormed.isRepeated_iff {m : Method WrittenName} (h : m.IsWellFormed)
    {types : List String} (plain : t.StartsPlainly)
    (written :
      InTurn (Renders home) (flagLast m.signature.variadic m.signature.params) t types last)
    {position : Nat} {type : String} (found : types[position]? = some type) :
    isRepeated type = true
      ↔ m.signature.variadic = true ∧ position + 1 = m.signature.params.length := by
  have dots := map_isRepeated_of_inTurn written plain (fun type ht => (h.flags type ht).1)
    fun type ht => (h.flags type ht).2
  have flag : (types.map isRepeated)[position]?
      = ((flagLast m.signature.variadic m.signature.params).map Prod.snd)[position]? := by
    rw [dots]
  rw [List.getElem?_map, List.getElem?_map, getElem?_flagLast, found] at flag
  -- the flag tells of the position, so it does not matter which type stands there
  cases there : m.signature.params[position]? with
  | none => simp [there] at flag
  | some param =>
    rw [there] at flag
    rw [Option.some.inj flag]
    simp

/-- What is spread is what may be repeated.  The arguments are made from the positions alone here,
which is how they can be compared with the parameters as they are declared. -/
theorem spreadArguments_eq (s : Signature WrittenName) :
    spreadArguments s.variadic s.params.length = forwardedArguments s := by
  refine List.map_congr_left fun position inside => ?_
  rw [List.mem_range] at inside
  have same : (s.variadic && position + 1 == s.params.length)
      = (s.variadicIndex? == some position) := by
    -- there is a last parameter, since there is one at this position
    have filled : s.params.isEmpty = false := by
      rw [List.isEmpty_eq_false_iff]
      exact List.ne_nil_of_length_pos (by omega)
    rw [Signature.variadicIndex?, filled]
    cases s.variadic with
    | false => rfl
    | true =>
      by_cases last : position + 1 = s.params.length
      · have back : s.params.length - 1 = position := by omega
        simp [last, back]
      · have back : s.params.length - 1 ≠ position := by omega
        simp [last, back]
  rw [same]
  rfl

/-- The body of a wrapper's method hands its parameters over. -/
theorem handOver_eq (m : Method WrittenName) :
    handOver m.name (spreadArguments m.signature.variadic m.signature.params.length)
        m.signature.results.length
      = forwardingBody m := by
  rw [spreadArguments_eq]
  have names : (fun position : Nat => "r" ++ toString position) = resultName := rfl
  unfold handOver forwardingBody forwardingCall forwardingReturn resultNames
  rw [names]
  by_cases none' : m.signature.results = []
  · simp [none', wrapperReceiver, innerField]
  · simp [none', wrapperReceiver, innerField]

theorem staysInLine_spreadArguments (spread : Bool) (params : Nat) :
    ∀ argument ∈ spreadArguments spread params, StaysInLine argument := by
  intro argument ha
  obtain ⟨position, -, rfl⟩ := List.mem_map.1 ha
  have variable' := staysInLine_numbered (by decide : StaysInLine "v") position
  split
  · exact variable'.append (by decide)
  · exact variable'

/-- Each statement stands in a line of its own.  A statement of more lines would be indented line by
line, but names, commas and brackets stay in one. -/
theorem map_statementText_handOver {name : String} (hn : StaysInLine name)
    {arguments : List String} (ha : ∀ argument ∈ arguments, StaysInLine argument) (results : Nat) :
    (handOver name arguments results).map FunctionDecl.statementText
      = (handOver name arguments results).map fun statement => "\t" ++ statement ++ "\n" := by
  have call : StaysInLine ("w.inner." ++ name ++ "(" ++ commaText arguments ++ ")") :=
    ((((by decide : StaysInLine "w.inner.").append hn).append (by decide)).append
      (staysInLine_commaText ha)).append (by decide)
  have captured : StaysInLine
      (commaText ((List.range results).map fun position => "r" ++ toString position)) := by
    refine staysInLine_commaText fun text ht => ?_
    obtain ⟨position, -, rfl⟩ := List.mem_map.1 ht
    exact staysInLine_numbered (by decide : StaysInLine "r") position
  have lines : ∀ statement ∈ handOver name arguments results,
      StaysInLine statement ∧ statement ≠ "" := by
    intro statement hs
    unfold handOver at hs
    dsimp only at hs
    -- without results the call stands alone; else what it gives is kept first
    split at hs
    · rw [List.mem_singleton.1 hs]
      exact ⟨call, fun e => by simpa using congrArg String.toList e⟩
    · rcases List.mem_cons.1 hs with rfl | hs
      · exact ⟨(captured.append (by decide)).append call,
          fun e => by simpa using congrArg String.toList e⟩
      · rw [List.mem_singleton.1 hs]
        exact ⟨(by decide : StaysInLine "return ").append captured,
          fun e => by simpa using congrArg String.toList e⟩
  exact List.map_congr_left fun statement hs =>
    statementText_of_staysInLine (lines statement hs).1 (lines statement hs).2

theorem handOver_ne_nil (name : String) (arguments : List String) (results : Nat) :
    handOver name arguments results ≠ [] := by
  unfold handOver
  dsimp only
  split
  · exact List.cons_ne_nil _ _
  · exact List.cons_ne_nil _ _

/-- What a method of a wrapper is put together from.  The parameters come first and the results are
written with the aliases that these have left. -/
theorem run_overridingMethod (wrapper home : String) (m : Method WrittenName) (t : ImportTable) :
    (overridingMethod wrapperReceiver wrapper home m (forwardingBody m)).run t
      = let params := (paramTexts home m.signature.variadic m.signature.params).run t
        let results := (typeTexts home m.signature.results).run params.2
        (FunctionDecl.onPointer "w" wrapper m.name (nameParams params.1) results.1
          (forwardingBody m), results.2) := by
  have dots : (m.signature.variadic && !false) = m.signature.variadic := Bool.and_true _
  unfold overridingMethod namedParamTexts methodParamTexts methodResultTexts
  rw [dots]
  rfl

/-- A method of a wrapper hands its call on, with whatever aliases the file has given before.  Only
which parameters are declared with dots asks for a table whose aliases begin plainly. -/
theorem forwards_overridingMethod (wrapper home : String) (m : Method WrittenName)
    (plain : t.StartsPlainly) :
    Forwards wrapper home m t
      ((overridingMethod wrapperReceiver wrapper home m (forwardingBody m)).run t).1
      ((overridingMethod wrapperReceiver wrapper home m (forwardingBody m)).run t).2 := by
  rw [run_overridingMethod]
  have params := inTurn_paramTexts home m.signature.variadic m.signature.params t
  refine ⟨rfl, rfl, ⟨_, _, params, rfl, fun well _ _ => well.isRepeated_iff plain params,
    inTurn_typeTexts _ _⟩, (handOver_eq m).symm, fun named => ?_⟩
  have lines := map_statementText_handOver (staysInLine_of_isIdentifier named)
    (staysInLine_spreadArguments m.signature.variadic m.signature.params.length)
    m.signature.results.length
  -- a body without statements would be written in one line
  have filled : (forwardingBody m).isEmpty = false := by
    rw [List.isEmpty_eq_false_iff, ← handOver_eq]
    exact handOver_ne_nil _ _ _
  have front : "func (w *" = "func " ++ "(" ++ "w" ++ " " ++ "*" := by decide
  rw [handOver_eq] at lines
  dsimp only [FunctionDecl.onPointer]
  rw [FunctionDecl.text, FunctionDecl.bodyText, filled, lines, front]
  simp only [FunctionDecl.receiverText, Bool.false_eq_true, if_false, String.append_assoc]

/-! ### All methods -/

/-- The methods of a wrapper are written one after the other, each with the aliases of those before.
Nothing else in the file is changed by them. -/
theorem writeMethods_forwards (wrapper home : String) (methods : List (Method WrittenName))
    (d : Draft) (plain : d.imports.StartsPlainly) :
    ∃ (functions : List FunctionDecl) (last : ImportTable),
      ((writeMethods wrapper home methods).run d).2
        = { d with
            imports := last
            declarations := d.declarations ++ functions.map FunctionDecl.text }
      ∧ InTurn (Forwards wrapper home) methods d.imports functions last := by
  induction methods generalizing d with
  | nil =>
    refine ⟨[], d.imports, ?_, .nil _⟩
    rw [List.map_nil, List.append_nil]
    rfl
  | cons m rest ih =>
    have first := forwards_overridingMethod wrapper home m plain
    have after := (tells_overridingMethod wrapperReceiver wrapper home m (forwardingBody m)
      d.imports).1
    -- the next method begins with the aliases that this one has left
    have kept : ((overridingMethod wrapperReceiver wrapper home m
        (forwardingBody m)).run d.imports).2.StartsPlainly := by
      rw [after]
      exact plain.noteAll _
    obtain ⟨functions, last, ran, others⟩ := ih (Draft.addDeclaration
      ((overridingMethod wrapperReceiver wrapper home m (forwardingBody m)).run d.imports).1.text
      { d with imports := ((overridingMethod wrapperReceiver wrapper home m
        (forwardingBody m)).run d.imports).2 }) kept
    refine ⟨_ :: functions, last, ran.trans ?_, .cons first others⟩
    rw [Draft.addDeclaration, List.map_cons]
    simp only [List.append_assoc, List.singleton_append]

/-- The wrapper of an interface has a structure, a function that makes one, and then one method for
each of the interface, in order, that hands its call on.  The variables in a method are distinct.
No alias of the file begins with a point, which holds of every file that was begun empty. -/
theorem writeWrapper_forwards (namePrefix : String) (i : Interface) (d : Draft)
    (plain : d.imports.StartsPlainly) :
    (∃ (functions : List FunctionDecl) (last : ImportTable),
      let type := (qualify i.importPath i.name).run d.imports
      let wrapper := namePrefix ++ i.name ++ "Wrapper"
      ((writeWrapper namePrefix i).run d).2
        = { d with
            imports := last
            declarations := d.declarations
              ++ [(wrapperStruct wrapper type.1).text, (wrapperConstructor wrapper type.1).text]
              ++ functions.map FunctionDecl.text }
      ∧ functions.length = i.methods.length
      ∧ InTurn (Forwards wrapper i.importPath) i.methods type.2 functions last)
    ∧ ∀ params results : Nat,
      ("w" :: ((List.range params).map (fun position => "v" ++ toString position)
        ++ (List.range results).map fun position => "r" ++ toString position)).Nodup := by
  refine ⟨?_, nodup_variables⟩
  -- the structure and the constructor name the interface, which may have given an alias
  have kept : ((qualify i.importPath i.name).run d.imports).2.StartsPlainly := by
    rw [(tells_interface i d.imports).1]
    exact plain.noteAll _
  obtain ⟨functions, last, ran, each⟩ := writeMethods_forwards (wrapperName namePrefix i)
    i.importPath i.methods
    (Draft.addDeclaration (wrapperConstructor (wrapperName namePrefix i)
        ((qualify i.importPath i.name).run d.imports).1).text
      (Draft.addDeclaration (wrapperStruct (wrapperName namePrefix i)
          ((qualify i.importPath i.name).run d.imports).1).text
        { d with imports := ((qualify i.importPath i.name).run d.imports).2 })) kept
  refine ⟨functions, last, ran.trans ?_, each.length_eq, each⟩
  simp only [Draft.addDeclaration, List.append_assoc, List.cons_append, List.nil_append]
  rfl

/-- An interface with a method that may be given any number of keys, and one without parameters. -/
def sampleWatcher : Interface :=
  ⟨"Watcher", "example.com/store",
    [⟨"Watch",
      ⟨[.named (.named "Context" (some "context")), .slice (.named (.named "Key" none))],
        [.named (.named "int" none), .named (.named "error" none)], true⟩⟩,
      ⟨"Close", ⟨[], [], false⟩⟩]⟩

theorem isWellFormed_sampleWatcher : ∀ m ∈ sampleWatcher.methods, m.IsWellFormed := by
  intro m hm
  rcases List.mem_cons.1 hm with rfl | hm
  · refine ⟨fun name part => ?_, fun _ => ⟨[_], _, rfl⟩⟩
    simp only [TypeForm.partsOfAll, TypeForm.parts, List.mem_append, List.mem_cons,
      List.not_mem_nil, or_false, TypeForm.named.injEq, reduceCtorEq, false_or] at part
    rcases part with rfl | rfl
    · exact (by decide : isIdentifier "Context" = true)
    · exact (by decide : isIdentifier "Key" = true)
  · rw [List.mem_singleton.1 hm]
    exact ⟨fun name part => absurd part (by simp [TypeForm.partsOfAll]),
      fun repeats => absurd repeats Bool.false_ne_true⟩

/-- The wrapper hands both calls on, and what it spreads is what is declared with dots. -/
theorem writeWrapper_forwards_sampleWatcher :
    (Draft.empty "mocks").imports.StartsPlainly
      ∧ (∀ m ∈ sampleWatcher.methods, m.IsWellFormed)
      ∧ ∃ first second context keys,
        ((writeWrapper "" sampleWatcher).run (Draft.empty "mocks")).2.declarations.drop 2
          = [FunctionDecl.text first, FunctionDecl.text second]
        ∧ first.params = ["v0 " ++ context, "v1 " ++ keys]
        ∧ isRepeated context = false ∧ isRepeated keys = true
        ∧ first.body = ["r0, r1 := w.inner.Watch(v0, v1...)", "return r0, r1"]
        ∧ second.body = ["w.inner.Close()"] := by
  have plain : (Draft.empty "mocks").imports.StartsPlainly := ImportTable.startsPlainly_empty
  refine ⟨plain, isWellFormed_sampleWatcher, ?_⟩
  obtain ⟨⟨functions, last, ran, -, each⟩, -⟩ :=
    writeWrapper_forwards "" sampleWatcher (Draft.empty "mocks") plain
  -- there are two methods, so there are two declarations
  rcases each with _ | ⟨watch, _ | ⟨close, ⟨⟩⟩⟩
  obtain ⟨types, middle, written, params, dots, -⟩ := watch.types
  obtain ⟨context, keys, rfl⟩ := List.length_eq_two.1 written.length_eq
  have dots := dots (isWellFormed_sampleWatcher _ (by simp [sampleWatcher]))
  have front : "v" ++ toString 0 ++ " " = "v0 " ∧ "v" ++ toString 1 ++ " " = "v1 " := by decide
  refine ⟨_, _, context, keys, congrArg (fun d => d.declarations.drop 2) ran, ?_, ?_,
    (dots 1 keys rfl).2 ⟨rfl, rfl⟩, watch.body.trans (by decide), close.body.trans (by decide)⟩
  · rw [← front.1, ← front.2]
    exact params
  · simpa using dots 0 context rfl

end WrapperGen
