import WrapperGen.Proofs.WrapperTexts

/-!
# Names as whole words

A name stands in a text as a whole word if no character of an identifier is right before or behind
it.  The text of a type holds all its names as whole words, and the declarations of a wrapper hold
the text of every type in them.

## Main definitions

* `HasWord`: a text holds another one as a whole word.

## Main results

* `TypeForm.hasWord_pieces`: the text of a type holds all names.
* `hasWord_wrapperStruct`, `hasWord_spelledMethod_param`, `hasWord_spelledMethod_result`: the
  declarations of a wrapper hold its types.
-/

namespace WrapperGen

open Source

/-- A text holds another one, with no character of an identifier right before or behind it. -/
def HasWord (text word : List Char) : Prop :=
  ∃ front back, text = front ++ (word ++ back) ∧ (∀ c ∈ front.getLast?, isIdentRest c = false)
    ∧ StartsApart isIdentRest back

namespace HasWord

variable {s t word : List Char}

theorem refl (s : List Char) : HasWord s s :=
  ⟨[], [], by simp, fun _ h => (by cases h), fun _ h => (by cases h)⟩

theorem trans (h : HasWord s t) (ht : HasWord t word) : HasWord s word := by
  obtain ⟨front, back, rfl, before, behind⟩ := h
  obtain ⟨front', back', rfl, before', behind'⟩ := ht
  refine ⟨front ++ front', back' ++ back, by simp only [List.append_assoc], ?_, ?_⟩
  · intro c hc
    rw [List.getLast?_append] at hc
    -- the character right before is that of the inner text, if there is one
    cases last : front'.getLast? with
    | none =>
      rw [last] at hc
      exact before c hc
    | some d =>
      rw [last] at hc
      exact before' c (last.trans hc)
  · intro c hc
    rw [List.head?_append] at hc
    cases first : back'.head? with
    | none =>
      rw [first] at hc
      exact behind c hc
    | some d =>
      rw [first] at hc
      exact behind' c (first.trans hc)

theorem after {c : Char} (hc : isIdentRest c = false) (front : List Char) :
    HasWord (front ++ c :: s) s := by
  refine ⟨front ++ [c], [], by simp, fun d hd => ?_, fun _ h => (by cases h)⟩
  rw [List.getLast?_concat] at hd
  rwa [← Option.some.inj hd]

theorem before {c : Char} (hc : isIdentRest c = false) (back : List Char) :
    HasWord (s ++ c :: back) s := by
  refine ⟨[], c :: back, rfl, fun _ h => (by cases h), fun d hd => ?_⟩
  rwa [← Option.some.inj hd]

theorem between {c d : Char} (hc : isIdentRest c = false) (hd : isIdentRest d = false)
    (front back : List Char) : HasWord (front ++ c :: (s ++ d :: back)) s :=
  (after hc front).trans (before hd back)

/-- A text behind two others and a character after each. -/
theorem beyond {c d : Char} (hd : isIdentRest d = false) (front middle : List Char) :
    HasWord (front ++ c :: (middle ++ d :: s)) s := by
  rw [← List.cons_append, ← List.append_assoc]
  exact after hd _

end HasWord

theorem isIdentRest_blank : isIdentRest ' ' = false := by decide

theorem isIdentRest_newline : isIdentRest '\n' = false := by decide

/-! ### Lists -/

theorem hasWord_commaText {texts : List String} {text : String} (h : text ∈ texts) :
    HasWord (commaText texts).toList text.toList := by
  have comma : isIdentRest ',' = false := isIdentRest_of_mem ',' (by decide)
  induction texts with
  | nil => cases h
  | cons first rest ih =>
    cases rest with
    | nil =>
      rw [List.mem_singleton.1 h, commaText, String.intercalate_singleton]
      exact HasWord.refl _
    | cons next rest =>
      have split : (commaText (first :: next :: rest)).toList
          = first.toList ++ ',' :: ' ' :: (commaText (next :: rest)).toList := by
        rw [commaText, String.intercalate_cons_cons]
        simp [commaText]
      rw [split]
      rcases List.mem_cons.1 h with rfl | h
      · exact HasWord.before comma _
      · exact (HasWord.beyond isIdentRest_blank first.toList []).trans (ih h)

theorem hasWord_resultsText {texts : List String} {text : String} (h : text ∈ texts) :
    HasWord (resultsText texts).toList text.toList := by
  have opening : isIdentRest '(' = false := isIdentRest_of_mem '(' (by decide)
  have closing : isIdentRest ')' = false := isIdentRest_of_mem ')' (by decide)
  -- a text in parentheses behind a blank
  have inside : ∀ inner : String, HasWord (" (" ++ inner ++ ")").toList inner.toList := by
    intro inner
    have chars : (" (" ++ inner ++ ")").toList = [' '] ++ '(' :: (inner.toList ++ ')' :: []) := by
      simp
    rw [chars]
    exact HasWord.between opening closing [' '] []
  match texts, h with
  | [single], h =>
    rw [List.mem_singleton.1 h, resultsText]
    split
    · exact inside single
    · rw [String.toList_append]
      exact HasWord.after isIdentRest_blank []
  | first :: next :: rest, h => exact (inside _).trans (hasWord_commaText h)

theorem hasWord_commaPieces {pss : List (List Piece)} {ps : List Piece} (h : ps ∈ pss) :
    HasWord (textOf (commaPieces pss)) (textOf ps) := by
  have inside := hasWord_commaText (List.mem_map_of_mem (f := spelledText) h)
  rwa [toList_commaText (map_toList_spelledText pss), toList_spelledText] at inside

theorem hasWord_resultsPieces {pss : List (List Piece)} {ps : List Piece} (h : ps ∈ pss) :
    HasWord (textOf (resultsPieces pss)) (textOf ps) := by
  have inside := hasWord_resultsText (List.mem_map_of_mem (f := spelledText) h)
  rwa [toList_resultsText (map_toList_spelledText pss), toList_spelledText] at inside

/-! ### Types -/

namespace TypeForm

variable {word : List Char}

/-- A word in a parameter is in what is written for the parameter, even if that has dots. -/
theorem exists_paramPieces {dots : Bool} {params : List (TypeForm NameForm)}
    {p : TypeForm NameForm} (hp : p ∈ params) (h : HasWord (textOf p.pieces) word)
    (hs : ∀ element, p = .slice element → HasWord (textOf element.pieces) word) :
    ∃ ps ∈ paramPieces dots params, HasWord (textOf ps) word := by
  induction params with
  | nil => cases hp
  | cons type rest ih =>
    cases rest with
    | nil =>
      obtain rfl := List.mem_singleton.1 hp
      refine ⟨lastPieces dots p, by rw [paramPieces]; exact List.mem_cons_self, ?_⟩
      by_cases slice : ∃ element, p = .slice element
      · obtain ⟨element, rfl⟩ := slice
        rw [lastPieces]
        have inner := hs element rfl
        cases dots with
        | true => exact (HasWord.after (isIdentRest_of_mem '.' (by decide)) ['.', '.']).trans inner
        | false => exact (HasWord.after (isIdentRest_of_mem ']' (by decide)) ['[']).trans inner
      · rw [lastPieces]
        · exact h
        · exact fun element e => slice ⟨element, e⟩
    | cons next rest =>
      rw [paramPieces]
      rcases List.mem_cons.1 hp with rfl | hp
      · exact ⟨p.pieces, List.mem_cons_self, h⟩
      · obtain ⟨ps, mem, there⟩ := ih hp
        exact ⟨ps, List.mem_cons_of_mem _ mem, there⟩

theorem hasWord_channelPieces (direction : Direction) (element : TypeForm NameForm)
    (ps : List Piece) : HasWord (textOf (channelPieces direction element ps)) (textOf ps) := by
  have blank : isIdentRest ' ' = false := isIdentRest_blank
  cases direction with
  | both =>
    by_cases receiver : element.isReceiver = true
    · obtain ⟨inner, rfl⟩ := exists_receive_of_isReceiver receiver
      have chars : textOf (channelPieces .both (.channel .receive inner) ps)
          = "chan ".toList ++ '(' :: (textOf ps ++ ')' :: []) := by
        rw [channelPieces_of_receive]
        simp [parenPieces, Piece.chars]
      rw [chars]
      exact HasWord.between (isIdentRest_of_mem '(' (by decide))
        (isIdentRest_of_mem ')' (by decide)) _ _
    · have apart : ∀ inner, element ≠ .channel .receive inner := by
        rintro inner rfl
        exact receiver rfl
      have chars : textOf (channelPieces .both element ps) = "chan".toList ++ ' ' :: textOf ps := by
        rw [channelPieces_of_ne apart]
        simp [Piece.chars]
      rw [chars]
      exact HasWord.after blank _
  | send =>
    have chars : textOf (channelPieces .send element ps)
        = "chan<-".toList ++ ' ' :: textOf ps := by
      simp [channelPieces, Piece.chars]
    rw [chars]
    exact HasWord.after blank _
  | receive =>
    have chars : textOf (channelPieces .receive element ps)
        = "<-chan".toList ++ ' ' :: textOf ps := by
      simp [channelPieces, Piece.chars]
    rw [chars]
    exact HasWord.after blank _

/-- The text of a type holds all names as whole words. -/
theorem hasWord_pieces {name : NameForm} (t : TypeForm NameForm) (h : .named name ∈ t.parts) :
    HasWord (textOf t.pieces) (textOf name.pieces) := by
  induction t using TypeForm.induction with
  | named other =>
    rw [parts, List.mem_singleton, named.injEq] at h
    rw [pieces, h]
    exact HasWord.refl _
  | pointer element ih =>
    have inner := ih (by simpa [parts] using h)
    rw [pieces]
    exact (HasWord.after (isIdentRest_of_mem '*' (by decide)) []).trans inner
  | slice element ih =>
    have inner := ih (by simpa [parts] using h)
    rw [pieces]
    exact (HasWord.after (isIdentRest_of_mem ']' (by decide)) ['[']).trans inner
  | array length element ih =>
    have inner := ih (by simpa [parts] using h)
    have chars : textOf (pieces (.array length element))
        = ('[' :: Nat.toDigits 10 length.toNat) ++ ']' :: textOf element.pieces := by
      rw [pieces]
      simp [Piece.chars]
    rw [chars]
    exact (HasWord.after (isIdentRest_of_mem ']' (by decide)) _).trans inner
  | map key value ihk ihv =>
    have chars : textOf (pieces (.map key value))
        = "map".toList ++ '[' :: (textOf key.pieces ++ ']' :: textOf value.pieces) := by
      rw [pieces]
      simp [Piece.chars]
    have names : .named name ∈ key.parts ∨ .named name ∈ value.parts := by simpa [parts] using h
    rw [chars]
    rcases names with h | h
    · exact (HasWord.between (isIdentRest_of_mem '[' (by decide))
        (isIdentRest_of_mem ']' (by decide)) _ _).trans (ihk h)
    · exact (HasWord.beyond (isIdentRest_of_mem ']' (by decide)) _ _).trans (ihv h)
  | channel direction element ih =>
    have inner := ih (by simpa [parts] using h)
    rw [pieces]
    exact (hasWord_channelPieces direction element element.pieces).trans inner
  | function params results variadic ihp ihs ihr =>
    have chars : textOf (pieces (.function params results variadic))
        = "func".toList ++ '(' :: (textOf (commaPieces (paramPieces variadic params))
          ++ ')' :: textOf (resultsPieces (piecesOfAll results))) := by
      rw [pieces]
      simp [parenPieces, Piece.chars]
    have names : (∃ p ∈ params, .named name ∈ p.parts) ∨ ∃ r ∈ results, .named name ∈ r.parts := by
      simpa [parts, mem_partsOfAll] using h
    rw [chars]
    rcases names with ⟨p, hp, h⟩ | ⟨r, hr, h⟩
    · obtain ⟨ps, mem, inner⟩ : ∃ ps ∈ paramPieces variadic params,
          HasWord (textOf ps) (textOf name.pieces) := by
        refine exists_paramPieces hp (ihp p hp h) ?_
        rintro element rfl
        exact ihs element hp (by simpa [parts] using h)
      exact ((HasWord.between (isIdentRest_of_mem '(' (by decide))
        (isIdentRest_of_mem ')' (by decide)) _ _).trans (hasWord_commaPieces mem)).trans inner
    · have inside := hasWord_resultsPieces (pieces_mem_piecesOfAll hr)
      exact ((HasWord.beyond (isIdentRest_of_mem ')' (by decide)) _ _).trans inside).trans
        (ihr r hr h)
  | applied base arguments ihb iha =>
    have chars : textOf (pieces (.applied base arguments))
        = textOf base.pieces
          ++ '[' :: (textOf (commaPieces (piecesOfAll arguments)) ++ ']' :: []) := by
      rw [pieces]
      simp [Piece.chars]
    have names : .named name ∈ base.parts ∨ ∃ a ∈ arguments, .named name ∈ a.parts := by
      simpa [parts, mem_partsOfAll] using h
    rw [chars]
    rcases names with h | ⟨a, ha, h⟩
    · exact (HasWord.before (isIdentRest_of_mem '[' (by decide)) _).trans (ihb h)
    · have inside := hasWord_commaPieces (pieces_mem_piecesOfAll ha)
      exact ((HasWord.between (isIdentRest_of_mem '[' (by decide))
        (isIdentRest_of_mem ']' (by decide)) _ _).trans inside).trans (iha a ha h)
  | emptyInterface => simp [parts] at h
  | emptyStruct => simp [parts] at h

end TypeForm

/-! ### Declarations -/

theorem hasWord_wrapperStruct (name type : String) :
    HasWord (wrapperStruct name type).text.toList type.toList := by
  have chars : (wrapperStruct name type).text.toList
      = ("type " ++ name ++ " struct \x7b\n\tinner").toList
        ++ ' ' :: (type.toList ++ '\n' :: ['\x7d']) := by
    have padded : padName (([(innerField, type)].map fun field => field.1.utf8ByteSize).foldl max 0)
        innerField = "inner" := rfl
    rw [wrapperStruct, StructDecl.text, if_neg (by simp)]
    dsimp only
    rw [List.map_singleton (f := fun field : String × String => _)]
    dsimp only
    rw [padded]
    simp
  rw [chars]
  exact HasWord.between isIdentRest_blank isIdentRest_newline _ _

theorem hasWord_nameParams {types : List String} {type : String} (h : type ∈ types) :
    ∃ param ∈ nameParams types, HasWord param.toList type.toList := by
  obtain ⟨position, hp, rfl⟩ := List.mem_iff_getElem.1 h
  refine ⟨paramName position ++ " " ++ types[position], ?_, ?_⟩
  · exact List.mem_mapIdx.2 ⟨position, hp, rfl⟩
  · have chars : (paramName position ++ " " ++ types[position]).toList
        = (paramName position).toList ++ ' ' :: types[position].toList := by simp
    rw [chars]
    exact HasWord.after isIdentRest_blank _

/-- The text of a function is the parameters in parentheses and the results, with something in front
and something behind. -/
theorem exists_text_onPointer (receiver structName name : String)
    (params results body : List String) :
    ∃ front back, (FunctionDecl.onPointer receiver structName name params results body).text.toList
      = front ++ '(' :: ((commaText params).toList ++ ')' :: ((resultsText results).toList
        ++ ' ' :: back)) := by
  obtain ⟨back, e⟩ : ∃ back, (FunctionDecl.bodyText body).toList = ' ' :: back := by
    rw [FunctionDecl.bodyText]
    split
    · exact ⟨_, rfl⟩
    · exact ⟨_, by simp; rfl⟩
  refine ⟨("func " ++ FunctionDecl.receiverText (some (receiver, "*" ++ structName))
    ++ name).toList, back, ?_⟩
  rw [FunctionDecl.onPointer, FunctionDecl.text]
  simp [e]

theorem hasWord_spelledMethod_param (structName : String) (m : Method WrittenName)
    (spelled : Signature NameForm) {name : NameForm} {p : TypeForm NameForm}
    (hp : p ∈ spelled.params) (h : .named name ∈ p.parts) :
    HasWord (spelledMethod structName m spelled).toList (textOf name.pieces) := by
  obtain ⟨ps, mem, inner⟩ : ∃ ps ∈ TypeForm.paramPieces spelled.variadic spelled.params,
      HasWord (textOf ps) (textOf name.pieces) := by
    refine TypeForm.exists_paramPieces hp (TypeForm.hasWord_pieces p h) ?_
    rintro element rfl
    exact TypeForm.hasWord_pieces element (by simpa [TypeForm.parts] using h)
  obtain ⟨param, mem', typed⟩ := hasWord_nameParams (List.mem_map_of_mem (f := spelledText) mem)
  rw [toList_spelledText] at typed
  obtain ⟨front, back, e⟩ := exists_text_onPointer wrapperReceiver structName m.name
    (nameParams ((TypeForm.paramPieces spelled.variadic spelled.params).map spelledText))
    (spelled.results.map fun r => spelledText r.pieces) (forwardingBody m)
  rw [spelledMethod, e]
  exact (((HasWord.between (isIdentRest_of_mem '(' (by decide))
    (isIdentRest_of_mem ')' (by decide)) _ _).trans (hasWord_commaText mem')).trans typed).trans
      inner

theorem hasWord_spelledMethod_result (structName : String) (m : Method WrittenName)
    (spelled : Signature NameForm) {name : NameForm} {r : TypeForm NameForm}
    (hr : r ∈ spelled.results) (h : .named name ∈ r.parts) :
    HasWord (spelledMethod structName m spelled).toList (textOf name.pieces) := by
  have mem := List.mem_map_of_mem (f := fun r : TypeForm NameForm => spelledText r.pieces) hr
  have typed := hasWord_resultsText mem
  rw [toList_spelledText] at typed
  obtain ⟨front, back, e⟩ := exists_text_onPointer wrapperReceiver structName m.name
    (nameParams ((TypeForm.paramPieces spelled.variadic spelled.params).map spelledText))
    (spelled.results.map fun r => spelledText r.pieces) (forwardingBody m)
  have inside := HasWord.between (isIdentRest_of_mem ')' (by decide)) isIdentRest_blank
    (front ++ '(' :: (commaText (nameParams
      ((TypeForm.paramPieces spelled.variadic spelled.params).map spelledText))).toList)
    back (s := (resultsText (spelled.results.map fun r => spelledText r.pieces)).toList)
  rw [List.append_assoc, List.cons_append] at inside
  rw [spelledMethod, e]
  exact (inside.trans typed).trans (TypeForm.hasWord_pieces r h)

end WrapperGen
