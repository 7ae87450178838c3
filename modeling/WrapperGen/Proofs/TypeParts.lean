import WrapperGen.TypeForm

/-!
# The parts of a type

## Main definitions

* `TypeForm.parts`: a type and all types inside of it.
* `TypeForm.regroup`: a type whose arrows have gone to other channels.
* `TypeForm.sendsTwoWay`: the channels whose arrow is claimed by their element.
* `TypeForm.Settled`: the types in which no channel loses its arrow and no name is changed.

## Main results

* `TypeForm.induction`: induction over types, also below the last parameter of a function.
* `TypeForm.regroup_mapNames_eq_iff`: renaming and regrouping give exactly the settled types back.
-/

namespace WrapperGen.TypeForm

variable {ν μ : Type}

/-! ### Induction -/

/-- Induction over types.  The last parameter of a variadic function is written without its
slice, so a function also knows about what its slices hold. -/
@[elab_as_elim]
theorem induction {motive : TypeForm ν → Prop}
    (named : ∀ name, motive (.named name))
    (pointer : ∀ element, motive element → motive (.pointer element))
    (slice : ∀ element, motive element → motive (.slice element))
    (array : ∀ length element, motive element → motive (.array length element))
    (map : ∀ key value, motive key → motive value → motive (.map key value))
    (channel : ∀ direction element, motive element → motive (.channel direction element))
    (function : ∀ params results variadic, (∀ p ∈ params, motive p) →
      (∀ element, .slice element ∈ params → motive element) → (∀ r ∈ results, motive r) →
      motive (.function params results variadic))
    (applied : ∀ base arguments, motive base → (∀ a ∈ arguments, motive a) →
      motive (.applied base arguments))
    (emptyInterface : motive .emptyInterface) (emptyStruct : motive .emptyStruct)
    (type : TypeForm ν) : motive type := by
  -- a variadic function writes the element of its last parameter, which is two levels down; so the
  -- induction carries the elements of slices along
  let Holds (t : TypeForm ν) : Prop := motive t ∧ ∀ element, t = .slice element → motive element
  have holds : Holds type := by
    refine @TypeForm.rec ν Holds (fun types => ∀ t ∈ types, Holds t)
      ?_ ?_ ?_ ?_ ?_ ?_ ?_ ?_ ?_ ?_ ?_ ?_ type
    · intro name
      exact ⟨named name, fun _ e => by cases e⟩
    · intro element h
      exact ⟨pointer element h.1, fun _ e => by cases e⟩
    · intro element h
      exact ⟨slice element h.1, fun _ e => by cases e; exact h.1⟩
    · intro length element h
      exact ⟨array length element h.1, fun _ e => by cases e⟩
    · intro key value hk hv
      exact ⟨map key value hk.1 hv.1, fun _ e => by cases e⟩
    · intro direction element h
      exact ⟨channel direction element h.1, fun _ e => by cases e⟩
    · intro params results variadic hp hr
      exact ⟨function params results variadic (fun p hm => (hp p hm).1)
        (fun element hm => (hp _ hm).2 element rfl) fun r hm => (hr r hm).1,
        fun _ e => by cases e⟩
    · intro base arguments hb ha
      exact ⟨applied base arguments hb.1 fun a hm => (ha a hm).1, fun _ e => by cases e⟩
    · exact ⟨emptyInterface, fun _ e => by cases e⟩
    · exact ⟨emptyStruct, fun _ e => by cases e⟩
    · intro t hm
      cases hm
    · intro head tail hh ht t hm
      rcases List.mem_cons.1 hm with rfl | hm
      · exact hh
      · exact ht t hm
  exact holds.1

/-! ### Shapes -/

/-- Whether a type is a name. -/
def isNamed : TypeForm ν → Bool
  | .named _ => true
  | _ => false

/-- Whether a type is a slice. -/
def isSlice : TypeForm ν → Bool
  | .slice _ => true
  | _ => false

theorem exists_named_of_isNamed {t : TypeForm ν} (h : t.isNamed = true) :
    ∃ name, t = .named name := by
  cases t <;> first | exact ⟨_, rfl⟩ | cases h

theorem exists_slice_of_isSlice {t : TypeForm ν} (h : t.isSlice = true) :
    ∃ element, t = .slice element := by
  cases t <;> first | exact ⟨_, rfl⟩ | cases h

theorem exists_slice_of_mapNames {f : ν → μ} {t : TypeForm ν} {element : TypeForm μ}
    (h : t.mapNames f = .slice element) : ∃ inner, t = .slice inner := by
  cases t <;> first | exact ⟨_, rfl⟩ | cases h

/-- Whether a type is a channel to receive from. -/
def isReceiver : TypeForm ν → Bool
  | .channel .receive _ => true
  | _ => false

theorem exists_receive_of_isReceiver {t : TypeForm ν} (h : t.isReceiver = true) :
    ∃ inner, t = .channel .receive inner := by
  cases t with
  | channel direction inner =>
      cases direction with
      | receive => exact ⟨inner, rfl⟩
      | _ => cases h
  | _ => cases h

theorem isReceiver_mapNames (f : ν → μ) (t : TypeForm ν) :
    (t.mapNames f).isReceiver = t.isReceiver := by
  cases t with
  | channel direction inner => cases direction <;> rfl
  | _ => rfl

/-! ### Parts -/

mutual

/-- A type and all types inside of it. -/
def parts : TypeForm ν → List (TypeForm ν)
  | .named name => [.named name]
  | .pointer element => .pointer element :: element.parts
  | .slice element => .slice element :: element.parts
  | .array length element => .array length element :: element.parts
  | .map key value => .map key value :: (key.parts ++ value.parts)
  | .channel direction element => .channel direction element :: element.parts
  | .function params results variadic =>
      .function params results variadic :: (partsOfAll params ++ partsOfAll results)
  | .applied base arguments => .applied base arguments :: (base.parts ++ partsOfAll arguments)
  | .emptyInterface => [.emptyInterface]
  | .emptyStruct => [.emptyStruct]

/-- Some types and all types inside of them. -/
def partsOfAll : List (TypeForm ν) → List (TypeForm ν)
  | [] => []
  | type :: rest => type.parts ++ partsOfAll rest

end

theorem mem_partsOfAll {p : TypeForm ν} {types : List (TypeForm ν)} :
    p ∈ partsOfAll types ↔ ∃ t ∈ types, p ∈ t.parts := by
  induction types with
  | nil => simp [partsOfAll]
  | cons type rest ih => simp [partsOfAll, ih]

theorem mem_parts_self (t : TypeForm ν) : t ∈ t.parts := by
  cases t <;> simp [parts]

theorem partsOfAll_eq_flatMap (types : List (TypeForm ν)) :
    partsOfAll types = types.flatMap parts := by
  induction types with
  | nil => rfl
  | cons type rest ih => simp [partsOfAll, ih]

theorem flatMap_parts_map {f : ν → μ} {types : List (TypeForm ν)}
    (h : ∀ t ∈ types, (t.mapNames f).parts = t.parts.map (mapNames f)) :
    (types.map (mapNames f)).flatMap parts = (types.flatMap parts).map (mapNames f) := by
  rw [List.flatMap_map, List.map_flatMap, List.flatMap_def, List.flatMap_def,
    List.map_congr_left h]

/-- Replacing names goes through the parts. -/
theorem parts_mapNames (f : ν → μ) (t : TypeForm ν) :
    (t.mapNames f).parts = t.parts.map (mapNames f) := by
  induction t using TypeForm.induction with
  | named name => rfl
  | pointer element ih => simp [mapNames, parts, ih]
  | slice element ih => simp [mapNames, parts, ih]
  | array length element ih => simp [mapNames, parts, ih]
  | map key value ihk ihv => simp [mapNames, parts, ihk, ihv]
  | channel direction element ih => simp [mapNames, parts, ih]
  | function params results variadic ihp ihs ihr =>
      simp only [mapNames, parts, List.map_cons, List.map_append, mapNamesAll_eq_map,
        partsOfAll_eq_flatMap, flatMap_parts_map ihp, flatMap_parts_map ihr]
  | applied base arguments ihb iha =>
      simp only [mapNames, parts, List.map_cons, List.map_append, mapNamesAll_eq_map,
        partsOfAll_eq_flatMap, flatMap_parts_map iha, ihb]
  | emptyInterface => rfl
  | emptyStruct => rfl

/-- Replacing names twice is replacing them once. -/
theorem mapNames_mapNames {κ : Type} (f : ν → μ) (g : μ → κ) (t : TypeForm ν) :
    (t.mapNames f).mapNames g = t.mapNames (g ∘ f) := by
  induction t using TypeForm.induction with
  | named name => rfl
  | pointer element ih => simp only [mapNames, ih]
  | slice element ih => simp only [mapNames, ih]
  | array length element ih => simp only [mapNames, ih]
  | map key value ihk ihv => simp only [mapNames, ihk, ihv]
  | channel direction element ih => simp only [mapNames, ih]
  | function params results variadic ihp ihs ihr =>
      have hp : params.map (mapNames g ∘ mapNames f) = params.map (mapNames (g ∘ f)) :=
        List.map_congr_left ihp
      have hr : results.map (mapNames g ∘ mapNames f) = results.map (mapNames (g ∘ f)) :=
        List.map_congr_left ihr
      simp only [mapNames, mapNamesAll_eq_map, List.map_map, hp, hr]
  | applied base arguments ihb iha =>
      have ha : arguments.map (mapNames g ∘ mapNames f) = arguments.map (mapNames (g ∘ f)) :=
        List.map_congr_left iha
      simp only [mapNames, mapNamesAll_eq_map, List.map_map, ihb, ha]
  | emptyInterface => rfl
  | emptyStruct => rfl

section Inside

variable {p q : TypeForm ν} {params results : List (TypeForm ν)} {variadic : Bool}
  {base : TypeForm ν} {arguments : List (TypeForm ν)}

theorem mem_parts_function : q ∈ (function params results variadic).parts ↔
    q = function params results variadic
      ∨ (∃ p ∈ params, q ∈ p.parts) ∨ ∃ p ∈ results, q ∈ p.parts := by
  rw [parts, List.mem_cons, List.mem_append, mem_partsOfAll, mem_partsOfAll]

theorem mem_parts_applied : q ∈ (applied base arguments).parts ↔
    q = applied base arguments ∨ q ∈ base.parts ∨ ∃ p ∈ arguments, q ∈ p.parts := by
  rw [parts, List.mem_cons, List.mem_append, mem_partsOfAll]

theorem mem_parts_of_param (hp : p ∈ params) (hq : q ∈ p.parts) :
    q ∈ (function params results variadic).parts :=
  mem_parts_function.2 (.inr (.inl ⟨p, hp, hq⟩))

theorem mem_parts_of_slice_param (hp : .slice p ∈ params) (hq : q ∈ p.parts) :
    q ∈ (function params results variadic).parts :=
  mem_parts_of_param hp (List.mem_cons_of_mem _ hq)

theorem mem_parts_of_result (hp : p ∈ results) (hq : q ∈ p.parts) :
    q ∈ (function params results variadic).parts :=
  mem_parts_function.2 (.inr (.inr ⟨p, hp, hq⟩))

theorem mem_parts_of_base (hq : q ∈ base.parts) : q ∈ (applied base arguments).parts :=
  mem_parts_applied.2 (.inr (.inl hq))

theorem mem_parts_of_argument (hp : p ∈ arguments) (hq : q ∈ p.parts) :
    q ∈ (applied base arguments).parts :=
  mem_parts_applied.2 (.inr (.inr ⟨p, hp, hq⟩))

end Inside

/-! ### Regrouping -/

/-- A channel to send into, read with its arrow in front of `element`: a two-way channel there
takes the arrow for itself. -/
def sendInto : TypeForm ν → TypeForm ν
  | .channel .both inner => .channel .both (.channel .receive inner)
  | element => .channel .send element

theorem sendInto_of_ne {element : TypeForm ν} (h : ∀ inner, element ≠ .channel .both inner) :
    sendInto element = .channel .send element := by
  rw [sendInto]
  exact h

mutual

/-- The type in which every arrow that is written in front of a two-way channel belongs to that
channel. -/
def regroup : TypeForm ν → TypeForm ν
  | .named name => .named name
  | .pointer element => .pointer element.regroup
  | .slice element => .slice element.regroup
  | .array length element => .array length element.regroup
  | .map key value => .map key.regroup value.regroup
  | .channel .send element => sendInto element.regroup
  | .channel direction element => .channel direction element.regroup
  | .function params results variadic =>
      .function (regroupAll params) (regroupAll results) variadic
  | .applied base arguments => .applied base.regroup (regroupAll arguments)
  | .emptyInterface => .emptyInterface
  | .emptyStruct => .emptyStruct

/-- The types with every arrow regrouped. -/
def regroupAll : List (TypeForm ν) → List (TypeForm ν)
  | [] => []
  | type :: rest => type.regroup :: regroupAll rest

end

theorem regroupAll_eq_map (types : List (TypeForm ν)) : regroupAll types = types.map regroup := by
  induction types with
  | nil => rfl
  | cons type rest ih => simp [regroupAll, ih]

/-- Whether a type is a channel to send two-way channels into. -/
def sendsTwoWay : TypeForm ν → Bool
  | .channel .send (.channel .both _) => true
  | _ => false

theorem sendsTwoWay_of_ne {element : TypeForm ν} (h : ∀ inner, element ≠ .channel .both inner)
    (direction : Direction) : (channel direction element).sendsTwoWay = false := by
  rw [sendsTwoWay]
  intro inner e
  exact h inner (channel.inj e).2

/-- No channel of a type loses its arrow, and `f` changes none of its names. -/
def Settled (f : ν → ν) (t : TypeForm ν) : Prop :=
  ∀ p ∈ t.parts, p.sendsTwoWay = false ∧ ∀ name, p = .named name → f name = name

theorem settled_iff_of_map {f : ν → ν} {types : List (TypeForm ν)}
    (h : ∀ t ∈ types, ((t.mapNames f).regroup = t ↔ Settled f t)) :
    (types.map (mapNames f)).map regroup = types ↔
      ∀ p ∈ partsOfAll types, p.sendsTwoWay = false ∧ ∀ name, p = .named name → f name = name := by
  induction types with
  | nil => simp [partsOfAll]
  | cons t rest ih =>
      have here := h t List.mem_cons_self
      have there := ih fun u hu => h u (List.mem_cons_of_mem t hu)
      rw [List.map_cons, List.map_cons, List.cons.injEq, here, there, Settled, partsOfAll,
        List.forall_mem_append]

/-- Renaming and regrouping give exactly the settled types back. -/
theorem regroup_mapNames_eq_iff (f : ν → ν) (t : TypeForm ν) :
    (t.mapNames f).regroup = t ↔ Settled f t := by
  induction t using TypeForm.induction with
  | named name => simp [Settled, mapNames, regroup, parts, sendsTwoWay]
  | pointer element ih => simp [Settled, mapNames, regroup, parts, sendsTwoWay, ih]
  | slice element ih => simp [Settled, mapNames, regroup, parts, sendsTwoWay, ih]
  | array length element ih => simp [Settled, mapNames, regroup, parts, sendsTwoWay, ih]
  | map key value ihk ihv =>
      rw [mapNames, regroup, map.injEq, ihk, ihv, Settled, Settled, Settled, parts,
        List.forall_mem_cons, List.forall_mem_append]
      simp [sendsTwoWay]
  | channel direction element ih =>
      cases direction with
      | both => simp [Settled, mapNames, regroup, parts, sendsTwoWay, ih]
      | receive => simp [Settled, mapNames, regroup, parts, sendsTwoWay, ih]
      | send =>
          rw [mapNames, regroup, Settled, parts, List.forall_mem_cons, ← Settled, ← ih]
          -- here the arrow is lost, and the type that comes out is no channel to send into
          by_cases h : ∃ inner, (element.mapNames f).regroup = .channel .both inner
          · obtain ⟨inner, h⟩ := h
            rw [h, sendInto]
            constructor
            · intro e
              cases e
            · rintro ⟨here, e⟩
              rw [← e] at here
              exact absurd here.1 (by simp [sendsTwoWay])
          · have apart : ∀ inner, (element.mapNames f).regroup ≠ .channel .both inner :=
              fun inner e => h ⟨inner, e⟩
            rw [sendInto_of_ne apart, channel.injEq]
            constructor
            · rintro ⟨-, e⟩
              rw [e] at apart
              exact ⟨⟨sendsTwoWay_of_ne apart .send, fun name e => by cases e⟩, e⟩
            · rintro ⟨-, e⟩
              exact ⟨rfl, e⟩
  | function params results variadic ihp ihs ihr =>
      rw [mapNames, regroup, function.injEq, Settled, parts, List.forall_mem_cons,
        List.forall_mem_append, mapNamesAll_eq_map, mapNamesAll_eq_map, regroupAll_eq_map,
        regroupAll_eq_map, settled_iff_of_map ihp, settled_iff_of_map ihr]
      simp [sendsTwoWay]
  | applied base arguments ihb iha =>
      rw [mapNames, regroup, applied.injEq, Settled, parts, List.forall_mem_cons,
        List.forall_mem_append, mapNamesAll_eq_map, regroupAll_eq_map, settled_iff_of_map iha, ihb]
      simp [sendsTwoWay, Settled]
  | emptyInterface => simp [Settled, mapNames, regroup, parts, sendsTwoWay]
  | emptyStruct => simp [Settled, mapNames, regroup, parts, sendsTwoWay]

end WrapperGen.TypeForm
