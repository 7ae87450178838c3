import Mathlib.Data.List.Induction
import Mathlib.Data.List.Nodup
import Mathlib.Data.List.Perm.Basic
import WrapperGen.Extraction
import WrapperGen.Proofs.SessionLogic

/-!
# Packages in another order

The packages of a run are put one after the other, in the order in which they were found.  If every
check comes to the same at all times, then the order decides neither whether there are packages in
the end nor which they are, but only how they are arranged.

## Main definitions

* `PackageSet.ofPackages`: packages that are put one after the other.
* `Repeatable`: checks that come to the same at all times.

## Main results

* `PackageSet.map_importPath_ofPackages`: how the packages are arranged.
* `PackageSet.perm_ofPackages`: another order gives the same packages.
* `Repeatable.extract_eq_ok_iff`: the packages of a run, from the answers to the checks.
* `Repeatable.extract_perm`: another order of what was found.
-/

namespace WrapperGen

/-! ### First occurrences -/

section

variable {α : Type} [DecidableEq α]

theorem eraseDups_concat (front : List α) (item : α) :
    (front ++ [item]).eraseDups
      = if item ∈ front then front.eraseDups else front.eraseDups ++ [item] := by
  rw [List.eraseDups_append, List.cons_removeAll]
  by_cases there : item ∈ front
  · simp [there]
  · simp [there, List.eraseDups_cons]

theorem nodup_eraseDups (items : List α) : items.eraseDups.Nodup := by
  induction items using List.reverseRecOn with
  | nil => exact List.nodup_nil
  | append_singleton front item ih =>
    rw [eraseDups_concat]
    by_cases there : item ∈ front
    · rw [if_pos there]
      exact ih
    · have new : item ∉ front.eraseDups := fun mem => there (List.mem_eraseDups.1 mem)
      rw [if_neg there, ← List.concat_eq_append]
      exact ih.concat new

end

/-! ### Sets of packages -/

namespace PackageSet

/-- Some packages, put one after the other. -/
def ofPackages (packages : List Package) : PackageSet := packages.foldl insert .empty

theorem ofPackages_concat (packages : List Package) (p : Package) :
    ofPackages (packages ++ [p]) = (ofPackages packages).insert p := by
  rw [ofPackages, List.foldl_append]
  rfl

/-- A package goes to the end, unless there is one of its import path. -/
theorem map_importPath_putPackage (p : Package) (packages : List Package) :
    (putPackage p packages).map Package.importPath
      = if p.importPath ∈ packages.map Package.importPath then packages.map Package.importPath
        else packages.map Package.importPath ++ [p.importPath] := by
  induction packages with
  | nil => rfl
  | cons q rest ih =>
    rw [putPackage]
    by_cases same : q.importPath = p.importPath
    · simp [same]
    · rw [if_neg same, List.map_cons, ih, List.map_cons]
      by_cases there : p.importPath ∈ rest.map Package.importPath
      · rw [if_pos there, if_pos (List.mem_cons_of_mem _ there)]
      · have new : p.importPath ∉ q.importPath :: rest.map Package.importPath := by
          rw [List.mem_cons, not_or]
          exact ⟨Ne.symm same, there⟩
        rw [if_neg there, if_neg new, List.cons_append]

/-- The packages stand in the order in which their import paths came first. -/
theorem map_importPath_ofPackages (packages : List Package) :
    (ofPackages packages).packages.map Package.importPath
      = (packages.map Package.importPath).eraseDups := by
  induction packages using List.reverseRecOn with
  | nil => rfl
  | append_singleton front p ih =>
    rw [ofPackages_concat, insert, map_importPath_putPackage, ih, List.map_append,
      List.map_singleton, eraseDups_concat]
    simp only [List.mem_eraseDups]

/-- No two packages have one import path. -/
theorem nodup_importPath_ofPackages (packages : List Package) :
    ((ofPackages packages).packages.map Package.importPath).Nodup := by
  rw [map_importPath_ofPackages]
  exact nodup_eraseDups _

theorem mem_putPackage {p q : Package} {packages : List Package}
    (same : ∀ other ∈ packages, other.importPath = p.importPath → other = p) :
    q ∈ putPackage p packages ↔ q ∈ packages ∨ q = p := by
  induction packages with
  | nil => simp [putPackage]
  | cons other rest ih =>
    rw [putPackage]
    by_cases here : other.importPath = p.importPath
    · rw [if_pos here, same other List.mem_cons_self here, List.mem_cons]
      tauto
    · rw [if_neg here, List.mem_cons, List.mem_cons,
        ih fun next hn => same next (List.mem_cons_of_mem other hn), or_assoc]

/-- Where packages of one import path are the same, none of them gets lost. -/
theorem mem_ofPackages {packages : List Package} {p : Package}
    (same : ∀ q ∈ packages, ∀ r ∈ packages, q.importPath = r.importPath → q = r) :
    p ∈ (ofPackages packages).packages ↔ p ∈ packages := by
  induction packages using List.reverseRecOn generalizing p with
  | nil => exact Iff.rfl
  | append_singleton front q ih =>
    have before : ∀ r, r ∈ (ofPackages front).packages ↔ r ∈ front := fun r => ih fun t ht u hu =>
      same t (List.mem_append_left _ ht) u (List.mem_append_left _ hu)
    have last : q ∈ front ++ [q] := List.mem_append_right _ List.mem_cons_self
    rw [ofPackages_concat, insert, mem_putPackage fun r hr =>
      same r (List.mem_append_left _ ((before r).1 hr)) q last, before, List.mem_append,
      List.mem_singleton]

/-- Another order gives the same packages. -/
theorem perm_ofPackages {packages others : List Package} (perm : packages.Perm others)
    (same : ∀ p ∈ packages, ∀ q ∈ packages, p.importPath = q.importPath → p = q) :
    (ofPackages packages).packages.Perm (ofPackages others).packages := by
  have sameToo : ∀ p ∈ others, ∀ q ∈ others, p.importPath = q.importPath → p = q :=
    fun p hp q hq => same p (perm.mem_iff.2 hp) q (perm.mem_iff.2 hq)
  refine (List.perm_ext_iff_of_nodup (nodup_importPath_ofPackages packages).of_map
    (nodup_importPath_ofPackages others).of_map).2 fun p => ?_
  rw [mem_ofPackages same, mem_ofPackages sameToo, perm.mem_iff]

end PackageSet

/-! ### Checks -/

section

variable {ε σ : Type} {check : Path → String → ExceptT ε (StateM σ) CheckedPackage}
  {known : σ → Prop} {answer : Path → String → Except ε CheckedPackage} {found again : List Found}
  {s : σ}

/-- The checks of what was found come to the same answers at all times. -/
def Repeatable (check : Path → String → ExceptT ε (StateM σ) CheckedPackage) (known : σ → Prop)
    (answer : Path → String → Except ε CheckedPackage) (found : List Found) : Prop :=
  ∀ f ∈ found, ∀ s, known s → ((check f.dir f.importPath).run.run s).1 = answer f.dir f.importPath
    ∧ known ((check f.dir f.importPath).run.run s).2

theorem run_adapt {ε' α : Type} (g : ε → ε') (m : ExceptT ε (StateM σ) α) (s : σ) :
    (ExceptT.adapt g m).run.run s = ((m.run.run s).1.mapError g, (m.run.run s).2) := rfl

namespace Repeatable

/-- The answers to the checks of some found packages. -/
def Answers (answer : Path → String → Except ε CheckedPackage) (found : List Found)
    (packages : List CheckedPackage) : Prop :=
  List.Forall₂ (fun f p => answer f.dir f.importPath = .ok p) found packages

theorem Answers.exists_of_mem {packages : List CheckedPackage} {p : CheckedPackage}
    (h : Answers answer found packages) (hp : p ∈ packages) :
    ∃ f ∈ found, answer f.dir f.importPath = .ok p := by
  induction h with
  | nil => cases hp
  | @cons f q rest more head _ ih =>
    rcases List.mem_cons.1 hp with rfl | hp
    · exact ⟨f, List.mem_cons_self, head⟩
    · obtain ⟨g, hg, came⟩ := ih hp
      exact ⟨g, List.mem_cons_of_mem f hg, came⟩

theorem extractInto_eq_ok_iff (repeatable : Repeatable check known answer found) (hs : known s)
    {before result : PackageSet} :
    ((extractInto check before found).run.run s).1 = .ok result
      ↔ ∃ packages, Answers answer found packages
        ∧ result = (packages.map CheckedPackage.toPackage).foldl PackageSet.insert before := by
  induction found generalizing before s with
  | nil =>
    constructor
    · intro h
      exact ⟨[], .nil, (Except.ok.inj h).symm⟩
    · rintro ⟨packages, answers, rfl⟩
      cases answers
      rfl
  | cons f rest ih =>
    obtain ⟨came, right⟩ := repeatable f List.mem_cons_self s hs
    have behind : Repeatable check known answer rest :=
      fun g hg => repeatable g (List.mem_cons_of_mem f hg)
    rw [extractInto, run_bind, run_adapt, came]
    cases first : answer f.dir f.importPath with
    | error cause =>
      constructor
      · intro h
        cases h
      · rintro ⟨packages, answers, -⟩
        cases answers with
        | cons head _ =>
          rw [first] at head
          cases head
    | ok checked =>
      refine (ih behind right).trans ⟨?_, ?_⟩
      · rintro ⟨packages, answers, rfl⟩
        exact ⟨checked :: packages, .cons first answers, rfl⟩
      · rintro ⟨packages, answers, rfl⟩
        cases answers with
        | @cons _ p _ more head answers =>
          rw [first] at head
          obtain rfl := Except.ok.inj head
          exact ⟨more, answers, rfl⟩

/-- The packages of a run, from the answers to the checks. -/
theorem extract_eq_ok_iff (repeatable : Repeatable check known answer found) (hs : known s)
    {result : PackageSet} :
    ((extract check found).run.run s).1 = .ok result
      ↔ ∃ packages, Answers answer found packages
        ∧ result = .ofPackages (packages.map CheckedPackage.toPackage) :=
  repeatable.extractInto_eq_ok_iff hs

theorem perm (repeatable : Repeatable check known answer found) (perm : found.Perm again) :
    Repeatable check known answer again := fun f hf => repeatable f (perm.mem_iff.2 hf)

/-- The packages stand in the order in which their import paths were found first. -/
theorem map_importPath_extract (repeatable : Repeatable check known answer found) (hs : known s)
    (named : ∀ dir path p, answer dir path = .ok p → p.importPath = path)
    {result : PackageSet} (h : ((extract check found).run.run s).1 = .ok result) :
    result.packages.map Package.importPath = (found.map Found.importPath).eraseDups := by
  obtain ⟨packages, answers, rfl⟩ := (repeatable.extract_eq_ok_iff hs).1 h
  rw [PackageSet.map_importPath_ofPackages, List.map_map]
  congr 1
  clear repeatable h
  induction answers with
  | nil => rfl
  | @cons f p rest more head _ ih =>
    rw [List.map_cons, List.map_cons, ih, ← named f.dir f.importPath p head]
    rfl

/-- Another order of what was found gives packages as well, and the same ones if no import path was
found in two directories. -/
theorem extract_perm (repeatable : Repeatable check known answer found) (hs : known s)
    (named : ∀ dir path p, answer dir path = .ok p → p.importPath = path)
    (perm : found.Perm again) {result : PackageSet}
    (h : ((extract check found).run.run s).1 = .ok result) :
    ∃ other, ((extract check again).run.run s).1 = .ok other
      ∧ ((∀ f ∈ found, ∀ g ∈ found, f.importPath = g.importPath → f.dir = g.dir) →
        result.packages.Perm other.packages) := by
  obtain ⟨packages, answers, rfl⟩ := (repeatable.extract_eq_ok_iff hs).1 h
  obtain ⟨others, answersToo, permToo⟩ := List.perm_comp_forall₂ perm.symm answers
  refine ⟨.ofPackages (others.map CheckedPackage.toPackage),
    ((repeatable.perm perm).extract_eq_ok_iff hs).2 ⟨others, answersToo, rfl⟩, fun one => ?_⟩
  refine PackageSet.perm_ofPackages (permToo.symm.map _) ?_
  rintro _ first _ second path
  obtain ⟨p, hp, rfl⟩ := List.mem_map.1 first
  obtain ⟨q, hq, rfl⟩ := List.mem_map.1 second
  obtain ⟨f, hf, came⟩ := answers.exists_of_mem hp
  obtain ⟨g, hg, cameToo⟩ := answers.exists_of_mem hq
  -- both packages are the answer for one directory under one import path
  have paths : f.importPath = g.importPath := by
    rw [← named f.dir f.importPath p came, ← named g.dir g.importPath q cameToo]
    exact path
  rw [one f hf g hg paths, paths, cameToo] at came
  rw [Except.ok.inj came]

end Repeatable

end

end WrapperGen
