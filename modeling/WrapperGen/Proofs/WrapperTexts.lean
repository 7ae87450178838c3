import WrapperGen.Output.Wrapper
import WrapperGen.Proofs.ImportMentions

/-!
# What wrappers consist of

The wrappers of some interfaces are written into a file one after the other.  Each mentions the
package of its interface, and then those of the types in its methods; and the declarations are told
by the aliases that the file has in the end.

## Main definitions

* `interfaceMentions`: the packages that a wrapper mentions.
* `spelledWrapper`: the declarations of a wrapper, from the names as they are written.
* `wrapperTexts`: the declarations of a wrapper, from the aliases in the end.
* `Adds`: what a computation adds to a file.
* `Draft.ofWrappers`: the file with the wrappers of some interfaces.

## Main results

* `adds_writeWrapper`: what the wrapper of an interface adds.
* `Draft.imports_ofWrappers`, `Draft.declarations_ofWrappers`: what the file holds.
-/

namespace WrapperGen

/-! ### Declarations -/

/-- What the types of a method mention. -/
def methodMentions (home : String) (m : Method WrittenName) : List Mention :=
  partMentions home (TypeForm.partsOfAll m.signature.params)
    ++ partMentions home (TypeForm.partsOfAll m.signature.results)

/-- What the wrapper of an interface mentions. -/
def interfaceMentions (i : Interface) : List Mention :=
  (if i.importPath.isEmpty then [] else [.package i.importPath])
    ++ i.methods.flatMap (methodMentions i.importPath)

/-- A method of a wrapper whose types have their names as they are written. -/
def spelledMethod (structName : String) (m : Method WrittenName) (spelled : Signature NameForm) :
    String :=
  (FunctionDecl.onPointer wrapperReceiver structName m.name
    (nameParams ((TypeForm.paramPieces spelled.variadic spelled.params).map spelledText))
    (spelled.results.map fun r => spelledText r.pieces) (forwardingBody m)).text

/-- The declarations of the wrapper of an interface that is written as `type`, and whose methods
are written with the given signatures. -/
def spelledWrapper (structName : String) (type : NameForm)
    (methods : List (Method WrittenName × Signature NameForm)) : List String :=
  (wrapperStruct structName (spelledText type.pieces)).text
    :: (wrapperConstructor structName (spelledText type.pieces)).text
    :: methods.map fun m => spelledMethod structName m.1 m.2

/-- How the type of an interface is written in a file with the given imports. -/
def Interface.form (final : ImportTable) (i : Interface) : NameForm :=
  WrittenName.form i.importPath final (.named i.name (some i.importPath))

/-- A method with its signature as it is written in a file with the given imports. -/
def Method.spelled (home : String) (final : ImportTable) (m : Method WrittenName) :
    Method WrittenName × Signature NameForm :=
  (m, m.signature.mapNames (WrittenName.form home final))

/-- The declarations of a wrapper in a file with the given imports. -/
def wrapperTexts (namePrefix : String) (final : ImportTable) (i : Interface) : List String :=
  spelledWrapper (wrapperName namePrefix i) (i.form final)
    (i.methods.map (Method.spelled i.importPath final))

/-! ### What is added to a file -/

/-- A computation mentions some packages in order, and adds the given declarations for the aliases
in the end, as long as these are the ones that it was told. -/
def Adds (m : StateM Draft Unit) (ms : List Mention) (texts : ImportTable → List String) : Prop :=
  ∀ d : Draft, ∃ more, (m.run d).2 = { d with
      imports := d.imports.noteAll ms
      declarations := d.declarations ++ more }
    ∧ ∀ final, d.imports.Settles ms final → more = texts final

namespace Adds

variable {m k : StateM Draft Unit} {ms ns : List Mention} {first second : ImportTable → List String}

theorem pure : Adds (Pure.pure ()) [] fun _ => [] :=
  fun d => ⟨[], by rw [List.append_nil]; rfl, fun _ _ => rfl⟩

theorem congr (h : Adds m ms first) (e : ∀ final, first final = second final) :
    Adds m ms second := by
  intro d
  obtain ⟨more, after, told⟩ := h d
  exact ⟨more, after, fun final settles => (told final settles).trans (e final)⟩

theorem declaration (text : String) :
    Adds (modify (Draft.addDeclaration text)) [] fun _ => [text] :=
  fun _ => ⟨[text], rfl, fun _ _ => rfl⟩

theorem andThen (hm : Adds m ms first) (hk : Adds k ns second) :
    Adds (do m; k) (ms ++ ns) fun final => first final ++ second final := by
  intro d
  obtain ⟨more, after, told⟩ := hm d
  obtain ⟨rest, last, toldToo⟩ := hk (m.run d).2
  refine ⟨more ++ rest, ?_, fun final settles => ?_⟩
  · show (k.run (m.run d).2).2 = _
    rw [last, after, ImportTable.noteAll_append, List.append_assoc]
  · obtain ⟨here, there⟩ := settles.append
    rw [told final here, toldToo final (by rw [after]; exact there)]

/-- What names packages is done before the rest, which gets its answer. -/
theorem naming {α : Type} {step : StateM ImportTable α} {answer : ImportTable → α}
    {texts : α → ImportTable → List String} {rest : α → StateM Draft Unit}
    (hs : Tells step ms answer) (hr : ∀ a, Adds (rest a) ns (texts a)) :
    Adds (Draft.naming step >>= rest) (ms ++ ns) fun final => texts (answer final) final := by
  intro d
  obtain ⟨state, value⟩ := hs d.imports
  obtain ⟨more, after, told⟩ :=
    hr (step.run d.imports).1 { d with imports := (step.run d.imports).2 }
  refine ⟨more, ?_, fun final settles => ?_⟩
  · show ((rest (step.run d.imports).1).run { d with imports := (step.run d.imports).2 }).2 = _
    rw [after, state, ImportTable.noteAll_append]
  · obtain ⟨here, there⟩ := settles.append
    rw [told final (by rw [state]; exact there), value final here]

end Adds

/-! ### Wrappers -/

theorem tells_overridingMethod (receiver structName home : String) (m : Method WrittenName)
    (body : List String) :
    Tells (overridingMethod receiver structName home m body) (methodMentions home m) fun final =>
      FunctionDecl.onPointer receiver structName m.name
        (nameParams (finalParamTexts home final m.signature.variadic m.signature.params))
        (m.signature.results.map (finalText home final)) body := by
  have params : Tells (namedParamTexts home m)
      (partMentions home (TypeForm.partsOfAll m.signature.params)) fun final =>
        nameParams (finalParamTexts home final m.signature.variadic m.signature.params) := by
    have dots : (m.signature.variadic && !false) = m.signature.variadic := Bool.and_true _
    rw [namedParamTexts, methodParamTexts, dots]
    exact (tells_paramTexts _ (fun p _ => tells_typeText home p)
      fun element _ => tells_typeText home element).map nameParams
  exact params.bind fun params => (tells_typeTexts fun r _ => tells_typeText home r).map
    fun results => FunctionDecl.onPointer receiver structName m.name params results body

theorem adds_writeMethods (name home : String) (methods : List (Method WrittenName)) :
    Adds (writeMethods name home methods) (methods.flatMap (methodMentions home)) fun final =>
      (methods.map (Method.spelled home final)).map fun m => spelledMethod name m.1 m.2 := by
  induction methods with
  | nil => exact Adds.pure
  | cons m rest ih =>
    have method := tells_overridingMethod wrapperReceiver name home m (forwardingBody m)
    have added := Adds.naming method fun method => (Adds.declaration method.text).andThen ih
    refine added.congr fun final => ?_
    rw [List.map_cons, List.map_cons, Method.spelled, spelledMethod, Signature.mapNames]
    simp only [finalParamTexts, List.map_map]
    rfl

theorem tells_interface (i : Interface) :
    Tells (qualify i.importPath i.name)
      (if i.importPath.isEmpty then [] else [.package i.importPath]) fun final =>
        spelledText (i.form final).pieces := by
  have mention : (WrittenName.mention? i.importPath (.named i.name (some i.importPath))).toList
      = if i.importPath.isEmpty then [] else [.package i.importPath] := by
    rw [WrittenName.mention?]
    split <;> rfl
  have named := tells_nameText i.importPath (.named i.name (some i.importPath))
  rwa [mention] at named

/-- The wrapper of an interface mentions the package of that and those of the types in its methods,
and adds its declarations. -/
theorem adds_writeWrapper (namePrefix : String) (i : Interface) :
    Adds (writeWrapper namePrefix i) (interfaceMentions i) fun final =>
      wrapperTexts namePrefix final i := by
  have methods := adds_writeMethods (wrapperName namePrefix i) i.importPath i.methods
  exact Adds.naming (tells_interface i) fun text =>
    (Adds.declaration (wrapperStruct (wrapperName namePrefix i) text).text).andThen
      ((Adds.declaration (wrapperConstructor (wrapperName namePrefix i) text).text).andThen methods)

/-- Write the wrappers of some interfaces, one after the other. -/
def writeWrappers (namePrefix : String) : List Interface → StateM Draft Unit
  | [] => pure ()
  | i :: rest => do
      writeWrapper namePrefix i
      writeWrappers namePrefix rest

theorem adds_writeWrappers (namePrefix : String) (interfaces : List Interface) :
    Adds (writeWrappers namePrefix interfaces) (interfaces.flatMap interfaceMentions) fun final =>
      interfaces.flatMap (wrapperTexts namePrefix final) := by
  induction interfaces with
  | nil => exact Adds.pure
  | cons i rest ih => exact (adds_writeWrapper namePrefix i).andThen ih

/-- A file of a package with the wrappers of some interfaces. -/
def Draft.ofWrappers (packageName namePrefix : String) (interfaces : List Interface) : Draft :=
  ((writeWrappers namePrefix interfaces).run (Draft.empty packageName)).2

namespace Draft

variable (packageName namePrefix : String) (interfaces : List Interface)

/-- The imports of the file. -/
theorem imports_ofWrappers : (ofWrappers packageName namePrefix interfaces).imports
    = ImportTable.empty.noteAll (interfaces.flatMap interfaceMentions) := by
  obtain ⟨more, after, -⟩ := adds_writeWrappers namePrefix interfaces (Draft.empty packageName)
  rw [ofWrappers, after]
  rfl

/-- The declarations of the file. -/
theorem declarations_ofWrappers {final : ImportTable}
    (h : ImportTable.empty.Settles (interfaces.flatMap interfaceMentions) final) :
    (ofWrappers packageName namePrefix interfaces).declarations
      = interfaces.flatMap (wrapperTexts namePrefix final) := by
  obtain ⟨more, after, told⟩ := adds_writeWrappers namePrefix interfaces (Draft.empty packageName)
  rw [ofWrappers, after]
  exact told final h

end Draft

end WrapperGen
