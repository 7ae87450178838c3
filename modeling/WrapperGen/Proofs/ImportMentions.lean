import WrapperGen.Proofs.TypeRendering

/-!
# The packages that a text mentions

A file imports a package as soon as a text that is written for it mentions the package.  What a call
does to the imports is told by the packages that it mentions, in order; and its answer is told by
the aliases that these have in the end, as long as no alias changes on the way.

## Main definitions

* `Mention`: a package that is mentioned, or foreign code.
* `ImportTable.note`, `ImportTable.noteAll`: the imports after a mention, and after many.
* `ImportTable.Keeps`, `ImportTable.Lasts`: aliases that do not change.
* `typeMentions`: the packages that the text of a type mentions.
* `Mentions`, `Tells`: the packages that a computation mentions, and what it answers.
* `finalText`: the text of a type, from the aliases in the end.
* `ImportCall`: the calls that import packages.

## Main results

* `tells_typeText`: writing a type mentions the packages of its parts, and gives its text.
* `ImportCall.mentions_run`: every call mentions its packages.
-/

namespace WrapperGen

open Source

/-! ### Mentions -/

/-- What is imported when it is mentioned. -/
inductive Mention
  /-- A package, by its import path. -/
  | package (path : String)
  /-- Foreign code, whose names are written behind the qualifier of foreign code. -/
  | foreign
  deriving DecidableEq, Repr, Inhabited

namespace ImportTable

/-- The imports after a mention. -/
def note (t : ImportTable) : Mention → ImportTable
  | .package path => (add path t).2
  | .foreign => t.bind foreignQualifier foreignQualifier

/-- The imports after some mentions, one after the other. -/
def noteAll (t : ImportTable) (mentions : List Mention) : ImportTable := mentions.foldl note t

@[simp] theorem noteAll_nil (t : ImportTable) : t.noteAll [] = t := rfl

@[simp] theorem noteAll_cons (t : ImportTable) (m : Mention) (ms : List Mention) :
    t.noteAll (m :: ms) = (t.note m).noteAll ms := rfl

theorem noteAll_append (t : ImportTable) (ms ns : List Mention) :
    t.noteAll (ms ++ ns) = (t.noteAll ms).noteAll ns := List.foldl_append

/-- Every alias stays that of its path. -/
def Keeps (a b : ImportTable) : Prop :=
  ∀ path name, a.alias? path = some name → b.alias? path = some name

theorem Keeps.refl (a : ImportTable) : a.Keeps a := fun _ _ h => h

theorem Keeps.trans {a b c : ImportTable} (hab : a.Keeps b) (hbc : b.Keeps c) : a.Keeps c :=
  fun path name h => hbc path name (hab path name h)

/-- All aliases that there are on the way through some mentions are kept in the end. -/
def Lasts (t : ImportTable) (mentions : List Mention) (final : ImportTable) : Prop :=
  ∀ front, front <+: mentions → (t.noteAll front).Keeps final

end ImportTable

/-- What a name mentions, as an interface of package `home` writes it. -/
def WrittenName.mention? (home : String) : WrittenName → Option Mention
  | .named _ (some path) => if path.isEmpty then none else some (.package path)
  | .named name none =>
      if isPredeclared name || home.isEmpty then none else some (.package home)
  | .selected qualifier _ => if qualifier = foreignQualifier then some .foreign else none

/-- What a part of a type mentions by itself. -/
def partMention? (home : String) : WrittenType → Option Mention
  | .named name => name.mention? home
  | _ => none

/-- What some types mention, part by part. -/
def partMentions (home : String) (parts : List WrittenType) : List Mention :=
  parts.filterMap (partMention? home)

theorem partMentions_append (home : String) (ps qs : List WrittenType) :
    partMentions home (ps ++ qs) = partMentions home ps ++ partMentions home qs :=
  List.filterMap_append

/-- What the text of a type mentions. -/
def typeMentions (home : String) (type : WrittenType) : List Mention :=
  partMentions home type.parts

/-! ### Computations that mention packages -/

namespace ImportTable

/-- The aliases that packages have when they are mentioned are those that they have in the end. -/
def Settles (t : ImportTable) (mentions : List Mention) (final : ImportTable) : Prop :=
  ∀ front path name, front ++ [.package path] <+: mentions →
    (t.noteAll (front ++ [.package path])).alias? path = some name → final.alias? path = some name

theorem Settles.append {t final : ImportTable} {ms ns : List Mention}
    (h : t.Settles (ms ++ ns) final) : t.Settles ms final ∧ (t.noteAll ms).Settles ns final := by
  constructor
  · intro front path name hf
    exact h front path name (hf.trans (List.prefix_append ms ns))
  · intro front path name hf known
    rw [← noteAll_append, ← List.append_assoc] at known
    refine h (ms ++ front) path name ?_ known
    rw [List.append_assoc]
    exact (List.prefix_append_right_inj ms).2 hf

theorem Lasts.settles {t final : ImportTable} {ms : List Mention} (h : t.Lasts ms final) :
    t.Settles ms final := fun _ path name hf known => h _ hf path name known

end ImportTable

/-- A computation mentions some packages in order, and its answer is told by the aliases in the
end, as long as these are kept on the way. -/
def Mentions {α : Type} (m : StateM ImportTable α) (ms : List Mention) : Prop :=
  ∃ answer : ImportTable → α, ∀ before, (m.run before).2 = before.noteAll ms
    ∧ ∀ final, before.Lasts ms final → (m.run before).1 = answer final

/-- A computation mentions some packages in order, and has the given answer to the aliases in the
end, as long as these are the ones that it was told. -/
def Tells {α : Type} (m : StateM ImportTable α) (ms : List Mention) (answer : ImportTable → α) :
    Prop :=
  ∀ before, (m.run before).2 = before.noteAll ms
    ∧ ∀ final, before.Settles ms final → (m.run before).1 = answer final

namespace Tells

variable {α β : Type} {m : StateM ImportTable α} {ms ns : List Mention}
  {first other : ImportTable → α}

theorem mentions (h : Tells m ms first) : Mentions m ms :=
  ⟨first, fun before => ⟨(h before).1, fun final lasts => (h before).2 final lasts.settles⟩⟩

theorem congr (h : Tells m ms first) (e : ∀ final, first final = other final) :
    Tells m ms other :=
  fun before => ⟨(h before).1, fun final settles => ((h before).2 final settles).trans (e final)⟩

theorem pure (a : α) : Tells (Pure.pure a) [] fun _ => a := fun _ => ⟨rfl, fun _ _ => rfl⟩

theorem bind {f : α → StateM ImportTable β} {answer : α → ImportTable → β} (hm : Tells m ms first)
    (hf : ∀ a, Tells (f a) ns (answer a)) :
    Tells (m >>= f) (ms ++ ns) fun final => answer (first final) final := by
  intro before
  obtain ⟨state, value⟩ := hm before
  obtain ⟨state', value'⟩ := hf (m.run before).1 (m.run before).2
  constructor
  · show ((f (m.run before).1).run (m.run before).2).2 = _
    rw [state', state, ImportTable.noteAll_append]
  · intro final settles
    obtain ⟨here, there⟩ := settles.append
    show ((f (m.run before).1).run (m.run before).2).1 = _
    rw [value' final (state ▸ there), value final here]

/-- What is made of an answer mentions nothing more. -/
theorem map (hm : Tells m ms first) (g : α → β) :
    Tells (do let a ← m; Pure.pure (g a)) ms fun final => g (first final) := by
  have h := hm.bind fun a => Tells.pure (g a)
  rwa [List.append_nil] at h

theorem add (path : String) :
    Tells (ImportTable.add path) [.package path] fun final => (final.alias? path).getD "" := by
  refine fun before => ⟨rfl, fun final settles => ?_⟩
  have known : (ImportTable.add path before).2.alias? path
      = some (ImportTable.add path before).1 := by
    rw [ImportTable.add]
    cases h : before.alias? path with
    | some name => exact h
    | none => exact ImportTable.alias?_bind_self before path _
  show (ImportTable.add path before).1 = (final.alias? path).getD ""
  rw [settles [] path _ (List.prefix_refl _) known]
  rfl

end Tells

/-! ### Texts -/

/-- How a name is written in a file with the given imports, as an interface of package `home`
mentions it. -/
def WrittenName.form (home : String) (final : ImportTable) : WrittenName → NameForm
  | .named name (some path) =>
      if path.isEmpty then .bare name else .behind ((final.alias? path).getD "") name
  | .named name none =>
      if isPredeclared name || home.isEmpty then .bare name
      else .behind ((final.alias? home).getD "") name
  | .selected qualifier name => .behind qualifier name

/-- The text of a type in a file with the given imports. -/
def finalText (home : String) (final : ImportTable) (t : WrittenType) : String :=
  spelledText (t.mapNames (WrittenName.form home final)).pieces

/-- The texts of some parameters in a file with the given imports, where `dots` asks for the last
one to be written as a repeated parameter if it is a slice. -/
def finalParamTexts (home : String) (final : ImportTable) (dots : Bool)
    (params : List WrittenType) : List String :=
  (TypeForm.paramPieces dots
    (params.map (·.mapNames (WrittenName.form home final)))).map spelledText

theorem eq_spelledText {text : String} {ps : List Piece} (h : text.toList = textOf ps) :
    text = spelledText ps := by
  rw [spelledText, ← h, String.ofList_toList]

@[simp] theorem toList_spelledText (ps : List Piece) : (spelledText ps).toList = textOf ps :=
  String.toList_ofList

theorem map_toList_spelledText (pss : List (List Piece)) :
    (pss.map spelledText).map String.toList = pss.map textOf := by
  rw [List.map_map]
  exact List.map_congr_left fun ps _ => toList_spelledText ps

theorem map_toList_finalText (home : String) (final : ImportTable) (types : List WrittenType) :
    (types.map (finalText home final)).map String.toList
      = ((types.map
          (·.mapNames (WrittenName.form home final))).map TypeForm.pieces).map textOf := by
  rw [List.map_map, List.map_map, List.map_map]
  exact List.map_congr_left fun t _ => toList_spelledText _

theorem tells_qualify (path name : String) :
    Tells (qualify path name) (if path.isEmpty then [] else [.package path]) fun final =>
      if path.isEmpty then name else (final.alias? path).getD "" ++ "." ++ name := by
  unfold qualify
  by_cases own : path.isEmpty = true
  · simp only [if_pos own]
    exact Tells.pure name
  · simp only [if_neg own]
    exact (Tells.add path).map fun packageAlias => packageAlias ++ "." ++ name

theorem spelledText_behind (qualifier name : String) :
    qualifier ++ "." ++ name = spelledText (NameForm.behind qualifier name).pieces :=
  eq_spelledText (by simp [NameForm.pieces, Piece.chars])

theorem spelledText_bare (name : String) : name = spelledText (NameForm.bare name).pieces :=
  eq_spelledText (by simp [NameForm.pieces, Piece.chars])

theorem tells_nameText (home : String) (name : WrittenName) :
    Tells (nameText home name) (name.mention? home).toList fun final =>
      spelledText (name.form home final).pieces := by
  cases name with
  | named name package? =>
    cases package? with
    | some path =>
      have h := tells_qualify path name
      rw [nameText, WrittenName.mention?]
      simp only [WrittenName.form]
      -- a name of the package that is written into stands bare, and any other one behind an alias
      by_cases own : path.isEmpty = true
      · simp only [if_pos own] at h ⊢
        exact h.congr fun _ => spelledText_bare name
      · simp only [if_neg own] at h ⊢
        exact h.congr fun _ => spelledText_behind _ name
    | none =>
      have h := tells_qualify home name
      rw [nameText, WrittenName.mention?]
      simp only [WrittenName.form]
      -- a predeclared name belongs to no package, so nothing is mentioned by it
      by_cases predeclared : isPredeclared name = true
      · simp only [predeclared, if_true, Bool.true_or]
        exact (Tells.pure name).congr fun _ => spelledText_bare name
      · have plain : isPredeclared name = false := by simpa using predeclared
        simp only [plain, Bool.false_eq_true, if_false, Bool.false_or]
        by_cases own : home.isEmpty = true
        · simp only [if_pos own] at h ⊢
          exact h.congr fun _ => spelledText_bare name
        · simp only [if_neg own] at h ⊢
          exact h.congr fun _ => spelledText_behind _ name
  | selected qualifier name =>
    rw [nameText, WrittenName.mention?]
    by_cases foreign : qualifier = foreignQualifier
    · rw [if_pos foreign, if_pos foreign]
      exact fun _ => ⟨rfl, fun _ _ => spelledText_behind qualifier name⟩
    · rw [if_neg foreign, if_neg foreign]
      exact (Tells.pure _).congr fun _ => spelledText_behind qualifier name

/-- Writing a type mentions the packages of its parts, in order, and gives its text. -/
def TellsType (home : String) (type : WrittenType) : Prop :=
  Tells (typeText home type) (typeMentions home type) fun final => finalText home final type

theorem tells_typeTexts {home : String} {types : List WrittenType}
    (h : ∀ t ∈ types, TellsType home t) :
    Tells (typeTexts home types) (partMentions home (TypeForm.partsOfAll types)) fun final =>
      types.map (finalText home final) := by
  induction types with
  | nil =>
    rw [typeTexts]
    exact Tells.pure []
  | cons t rest ih =>
    rw [typeTexts, TypeForm.partsOfAll, partMentions_append]
    have here := h t List.mem_cons_self
    have there := ih fun u hu => h u (List.mem_cons_of_mem t hu)
    exact here.bind fun text => there.map fun texts => text :: texts

theorem tells_lastParamText_of {home : String} (dots : Bool) {t : WrittenType}
    (h : TellsType home t) (hs : ∀ element, t = .slice element → TellsType home element) :
    Tells (lastParamText home dots t) (typeMentions home t) fun final =>
      spelledText (TypeForm.lastPieces dots (t.mapNames (WrittenName.form home final))) := by
  -- only a slice is written in another way if it is the last one
  by_cases slice : ∃ element, t = .slice element
  · obtain ⟨element, rfl⟩ := slice
    rw [lastParamText]
    refine ((hs element rfl).map fun text => (if dots then "..." else "[]") ++ text).congr
      fun final => eq_spelledText ?_
    show _ = textOf (TypeForm.lastPieces dots
      (.slice (element.mapNames (WrittenName.form home final))))
    rw [TypeForm.lastPieces]
    cases dots <;> simp [finalText, Piece.chars]
  · have apart : ∀ element, t ≠ .slice element := fun element e => slice ⟨element, e⟩
    rw [lastParamText]
    · refine h.congr fun final => ?_
      rw [TypeForm.lastPieces]
      · rfl
      · exact fun element e => slice (TypeForm.exists_slice_of_mapNames e)
    · exact apart

theorem tells_paramTexts {home : String} (dots : Bool) {params : List WrittenType}
    (hp : ∀ p ∈ params, TellsType home p)
    (hs : ∀ element, .slice element ∈ params → TellsType home element) :
    Tells (paramTexts home dots params) (partMentions home (TypeForm.partsOfAll params))
      fun final => finalParamTexts home final dots params := by
  induction params with
  | nil =>
    rw [paramTexts]
    exact (Tells.pure []).congr fun final => by simp [finalParamTexts, TypeForm.paramPieces]
  | cons t rest ih =>
    rw [TypeForm.partsOfAll, partMentions_append]
    have here := hp t List.mem_cons_self
    have there := ih (fun u hu => hp u (List.mem_cons_of_mem t hu))
      fun element he => hs element (List.mem_cons_of_mem t he)
    -- only the last parameter may have dots, so the cases follow the ones of `paramTexts`
    cases rest with
    | nil =>
      rw [paramTexts]
      have last := tells_lastParamText_of dots here fun element e => hs element (by simp [e])
      refine (last.bind fun text => Tells.pure [text]).congr fun final => ?_
      simp only [finalParamTexts, List.map_cons, List.map_nil, TypeForm.paramPieces]
    | cons next rest =>
      rw [paramTexts]
      refine (here.bind fun text => there.map fun texts => text :: texts).congr fun final => ?_
      simp only [finalParamTexts, List.map_cons, TypeForm.paramPieces, finalText]

/-- Writing a type mentions the packages of its parts, in order, and gives its text. -/
theorem tells_typeText (home : String) (t : WrittenType) : TellsType home t := by
  unfold TellsType
  -- each type is written from the texts of its parts, in the order in which these are mentioned
  induction t using TypeForm.induction with
  | named name =>
    have one : typeMentions home (.named name) = (name.mention? home).toList := by
      have part : partMention? home (.named name) = name.mention? home := rfl
      rw [typeMentions, TypeForm.parts, partMentions, ← part]
      cases found : partMention? home (.named name) with
      | none => rw [List.filterMap_cons_none found, List.filterMap_nil, Option.toList_none]
      | some m => rw [List.filterMap_cons_some found, List.filterMap_nil, Option.toList_some]
    rw [typeText, one]
    refine (tells_nameText home name).congr fun final => ?_
    rw [finalText, TypeForm.mapNames, TypeForm.pieces]
  | pointer element ih =>
    rw [typeText]
    refine (ih.map fun text => "*" ++ text).congr fun final => eq_spelledText ?_
    rw [TypeForm.mapNames, TypeForm.pieces]
    simp [finalText, Piece.chars]
  | slice element ih =>
    rw [typeText]
    refine (ih.map fun text => "[]" ++ text).congr fun final => eq_spelledText ?_
    rw [TypeForm.mapNames, TypeForm.pieces]
    simp [finalText, Piece.chars]
  | array length element ih =>
    rw [typeText]
    refine (ih.map fun text => "[" ++ toString length.toNat ++ "]" ++ text).congr
      fun final => eq_spelledText ?_
    rw [TypeForm.mapNames, TypeForm.pieces]
    simp [finalText, Piece.chars]
  | map key value ihk ihv =>
    have split : typeMentions home (.map key value)
        = typeMentions home key ++ typeMentions home value :=
      partMentions_append home key.parts value.parts
    rw [typeText, split]
    refine (ihk.bind fun keyText => ihv.map fun valueText =>
      "map[" ++ keyText ++ "]" ++ valueText).congr fun final => eq_spelledText ?_
    rw [TypeForm.mapNames, TypeForm.pieces]
    simp [finalText, Piece.chars]
  | channel direction element ih =>
    rw [typeText]
    refine (ih.map fun text => channelText direction element text).congr
      fun final => eq_spelledText ?_
    rw [TypeForm.mapNames, TypeForm.pieces]
    exact toList_channelText (TypeForm.isReceiver_mapNames _ element) direction
      (toList_spelledText _)
  | function params results variadic ihp ihs ihr =>
    have split : typeMentions home (.function params results variadic)
        = partMentions home (TypeForm.partsOfAll params)
          ++ partMentions home (TypeForm.partsOfAll results) :=
      partMentions_append home (TypeForm.partsOfAll params) (TypeForm.partsOfAll results)
    rw [typeText, split]
    refine ((tells_paramTexts variadic ihp ihs).bind fun paramTexts =>
      (tells_typeTexts ihr).map fun resultTexts =>
        "func(" ++ commaText paramTexts ++ ")" ++ resultsText resultTexts).congr
      fun final => eq_spelledText ?_
    rw [TypeForm.mapNames, TypeForm.pieces, TypeForm.mapNamesAll_eq_map,
      TypeForm.mapNamesAll_eq_map, TypeForm.piecesOfAll_eq_map]
    have params := toList_commaText (map_toList_spelledText (TypeForm.paramPieces variadic
      (params.map (·.mapNames (WrittenName.form home final)))))
    have results := toList_resultsText (map_toList_finalText home final results)
    simp [finalParamTexts, params, results, parenPieces, Piece.chars]
  | applied base arguments ihb iha =>
    have split : typeMentions home (.applied base arguments)
        = typeMentions home base ++ partMentions home (TypeForm.partsOfAll arguments) :=
      partMentions_append home base.parts (TypeForm.partsOfAll arguments)
    rw [typeText, split]
    refine (ihb.bind fun baseText => (tells_typeTexts iha).map fun argumentTexts =>
      baseText ++ "[" ++ commaText argumentTexts ++ "]").congr fun final => eq_spelledText ?_
    rw [TypeForm.mapNames, TypeForm.pieces, TypeForm.mapNamesAll_eq_map,
      TypeForm.piecesOfAll_eq_map]
    have arguments := toList_commaText (map_toList_finalText home final arguments)
    simp [arguments, finalText, Piece.chars]
  | emptyInterface =>
    rw [typeText]
    refine (Tells.pure _).congr fun final => eq_spelledText ?_
    rw [TypeForm.mapNames, TypeForm.pieces]
    rfl
  | emptyStruct =>
    rw [typeText]
    refine (Tells.pure _).congr fun final => eq_spelledText ?_
    rw [TypeForm.mapNames, TypeForm.pieces]
    rfl

theorem tells_lastParamText (home : String) (dots : Bool) (t : WrittenType) :
    Tells (lastParamText home dots t) (typeMentions home t) fun final =>
      spelledText (TypeForm.lastPieces dots (t.mapNames (WrittenName.form home final))) :=
  tells_lastParamText_of dots (tells_typeText home t) fun element _ => tells_typeText home element

/-! ### Calls -/

/-- The calls that may import packages. -/
inductive ImportCall
  /-- Ask for the alias of a package. -/
  | importing (path : String)
  /-- Write a name behind the alias of its package. -/
  | qualifying (path name : String)
  /-- Write a type, where `dots` asks for a slice to be written as a repeated parameter. -/
  | writing (home : String) (dots : Bool) (type : WrittenType)
  deriving Inhabited

namespace ImportCall

/-- Make a call. -/
def run : ImportCall → StateM ImportTable String
  | .importing path => ImportTable.add path
  | .qualifying path name => qualify path name
  | .writing home dots type => lastParamText home dots type

/-- What the answer to a call mentions. -/
def mentions : ImportCall → List Mention
  | .importing path => [.package path]
  | .qualifying path _ => if path.isEmpty then [] else [.package path]
  | .writing home _ type => typeMentions home type

theorem mentions_run (call : ImportCall) : Mentions call.run call.mentions := by
  cases call with
  | importing path => exact (Tells.add path).mentions
  | qualifying path name => exact (tells_qualify path name).mentions
  | writing home dots type => exact (tells_lastParamText home dots type).mentions

end ImportCall

end WrapperGen
