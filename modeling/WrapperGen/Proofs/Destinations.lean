import WrapperGen.Output.Emission
import WrapperGen.Proofs.CleanPaths
import WrapperGen.Proofs.FileNames

/-!
# Destinations in a directory

The name of a file is a prefix with the name for an interface behind it, all in lower case.  What
stands in front of the last slash is the same for all interfaces, whatever the prefix is: so all
destinations stand in one folder, and differ only in one name each.

## Main results

* `lowercaseAfter_append`: an underscore separates what is made lower case.
* `Path.exists_pieces_join`: the pieces of a path with one more name.
* `Path.getLast?_components_join`, `Path.exists_parent?_join`: the last step, and what is above it.
* `Emitter.exists_folder`: the folder of all destinations.
-/

namespace WrapperGen

/-! ### Lower case -/

theorem startsCased_append (s t : List Char) :
    startsCased (s ++ '_' :: t) = startsCased (s ++ ['_']) := by
  have stop : ∀ more, ('_' :: more).dropWhile isCaseIgnorable = '_' :: more := fun more =>
    List.dropWhile_cons_of_neg (by decide +kernel)
  unfold startsCased
  rw [List.dropWhile_append, List.dropWhile_append, stop, stop]
  cases s.dropWhile isCaseIgnorable with
  | nil => rfl
  | cons c rest => rfl

/-- What stands in front of an underscore is made lower case in the same way whatever follows. -/
theorem lowercaseAfter_append (before s t : List Char) :
    lowercaseAfter before (s ++ '_' :: t)
      = lowercaseAfter before (s ++ ['_']) ++ lowercaseAfter ('_' :: (s.reverse ++ before)) t := by
  induction s generalizing before with
  | nil => rfl
  | cons c rest ih =>
    rw [List.cons_append, List.cons_append, lowercaseAfter, lowercaseAfter, ih,
      startsCased_append rest t, List.reverse_cons, List.append_assoc, List.append_assoc]
    rfl

theorem getLast?_lowercaseAfter (before s : List Char) :
    (lowercaseAfter before (s ++ ['_'])).getLast? = some '_' := by
  induction s generalizing before with
  | nil =>
    have one : lowercaseChar '_' = ['_'] := by decide +kernel
    rw [List.nil_append, lowercaseAfter, if_neg (by decide), one]
    rfl
  | cons c rest ih =>
    have some' : lowercaseAfter (c :: before) (rest ++ ['_']) ≠ [] :=
      lowercaseAfter_ne_nil (by simp)
    rw [List.cons_append, lowercaseAfter, List.getLast?_append_of_ne_nil _ some', ih]

/-- How a character is written in the name of a file. -/
def fileNameChar (c : Char) : Char := if c == '-' then '_' else c

theorem fileNameChar_eq_dot {c : Char} (h : fileNameChar c = '.') : c = '.' := by
  unfold fileNameChar at h
  split at h
  · exact absurd h (by decide)
  · exact h

/-- Only points become points. -/
theorem eq_of_map_lowercaseAfter {before s : List Char}
    (h : ∀ c ∈ (lowercaseAfter before s).map fileNameChar, c = '.') :
    (lowercaseAfter before s).map fileNameChar = s := by
  induction s generalizing before with
  | nil => rfl
  | cons c rest ih =>
    rw [lowercaseAfter, List.map_append] at h ⊢
    obtain ⟨first, behind⟩ := List.forall_mem_append.1 h
    rw [ih behind]
    have dots : ∀ d ∈ lowercaseChar c, c ≠ 'Σ' → d = '.' := by
      intro d hd other
      rw [if_neg (by simpa using other)] at first
      exact fileNameChar_eq_dot (first _ (List.mem_map_of_mem hd))
    have dot : c = '.' := by
      by_contra other
      by_cases sigma : c = 'Σ'
      · rw [if_pos (by simpa using sigma)] at first
        split at first
        · exact absurd (fileNameChar_eq_dot (first _ (List.mem_map_of_mem List.mem_cons_self)))
            (by decide)
        · exact absurd (fileNameChar_eq_dot (first _ (List.mem_map_of_mem List.mem_cons_self)))
            (by decide)
      · obtain ⟨d, hd⟩ := List.exists_mem_of_ne_nil _ (lowercaseChar_ne_nil c)
        exact not_mem_lowercaseChar (by decide) other (dots d hd sigma ▸ hd)
    have same : lowercaseChar '.' = ['.'] := by decide +kernel
    rw [dot, if_neg (by decide), same]
    rfl

/-- A name stays one in the name of a file. -/
theorem isNamePiece_map_lowercaseAfter (before : List Char) {s : List Char} (named : IsNamePiece s)
    (whole : '/' ∉ s) :
    IsNamePiece ((lowercaseAfter before s).map fileNameChar)
      ∧ '/' ∉ (lowercaseAfter before s).map fileNameChar := by
  obtain ⟨some', notHere, notUp⟩ := named
  have dots : (∀ c ∈ (lowercaseAfter before s).map fileNameChar, c = '.') →
      s = (lowercaseAfter before s).map fileNameChar :=
    fun all => (eq_of_map_lowercaseAfter all).symm
  refine ⟨⟨by simpa using lowercaseAfter_ne_nil some', fun e => notHere ?_, fun e => notUp ?_⟩, ?_⟩
  · rw [← e]
    exact dots (by simp [e])
  · rw [← e]
    exact dots (by simp [e])
  · intro mem
    obtain ⟨c, hc, e⟩ := List.mem_map.1 mem
    unfold fileNameChar at e
    split at e
    · exact absurd e (by decide)
    · exact not_mem_lowercaseAfter (by decide) whole (e ▸ hc)

/-- Behind an underscore, every name is one. -/
theorem isNamePiece_append {front s : List Char} (named : IsNamePiece s) (h : '_' ∈ front) :
    IsNamePiece (front ++ s) := by
  have mem : '_' ∈ front ++ s := List.mem_append_left s h
  refine ⟨by simp [named.1], ?_, ?_⟩
  all_goals
    intro e
    rw [e] at mem
    exact absurd mem (by decide)

/-- The name of a file is one text for the prefix, which ends in an underscore unless it is empty,
and another one for the interface. -/
theorem exists_outputFileName (fileName : String → String) (namePrefix : String) :
    ∃ front before : List Char, (front = [] ∨ front.getLast? = some '_')
      ∧ ∀ name, (outputFileName fileName namePrefix name).toList
        = front ++ (lowercaseAfter before (fileName name).toList).map fileNameChar := by
  have text : ∀ s : String,
      (String.ofList ((lowercaseText s).toList.map fun c => if c == '-' then '_' else c)).toList
        = (lowercaseAfter [] s.toList).map fileNameChar := by
    intro s
    rw [String.toList_ofList, lowercaseText, String.toList_ofList]
    rfl
  by_cases bare : namePrefix.isEmpty = true
  · refine ⟨[], [], .inl rfl, fun name => ?_⟩
    rw [outputFileName, if_pos bare]
    exact text _
  · refine ⟨(lowercaseAfter [] (namePrefix.toList ++ ['_'])).map fileNameChar,
      '_' :: (namePrefix.toList.reverse ++ []), .inr ?_, fun name => ?_⟩
    · rw [List.getLast?_map, getLast?_lowercaseAfter]
      rfl
    · have whole : (namePrefix ++ "_" ++ fileName name).toList
          = namePrefix.toList ++ '_' :: (fileName name).toList := by simp
      rw [outputFileName, if_neg bare, text, whole, lowercaseAfter_append, List.map_append]

/-! ### Paths with one more name -/

namespace Path

/-- The pieces of a path with one more name are the same for all names, but for the last one. -/
theorem exists_pieces_join (folder : Path) :
    ∃ (absolute : Bool) (front : List (List Char)), (absolute = true → front ≠ [])
      ∧ ∀ name : String, (Component.name name).IsWritten →
        (folder.join ⟨name⟩).isAbsolute = absolute
          ∧ List.splitOn '/' (folder.join ⟨name⟩).text.toList = front ++ [name.toList] := by
  have relative : ∀ name : String, (Component.name name).IsWritten →
      isAbsolute ⟨name⟩ = false ∧ List.splitOn '/' name.toList = [name.toList] := by
    intro name written
    obtain ⟨some', -, whole⟩ := written.isStep
    refine ⟨?_, List.splitOn_eq_singleton whole⟩
    rw [isAbsolute, beq_eq_false_iff_ne]
    exact fun e => whole (List.mem_of_head? e)
  by_cases empty : folder.text.isEmpty = true
  · refine ⟨false, [], (fun never => by cases never), fun name written => ?_⟩
    have nothing : folder.text = "" := by simpa using empty
    have same : folder.join ⟨name⟩ = ⟨name⟩ := by
      rw [join, (relative name written).1, if_neg Bool.false_ne_true, if_pos (by rw [empty]; rfl),
        nothing, String.empty_append]
    rw [same]
    exact relative name written
  · have full : folder.text.toList ≠ [] := by simpa using empty
    -- the text in front of the last slash, which the folder may bring itself
    obtain ⟨front, joined⟩ : ∃ front : List Char, ∀ name : String,
        (Component.name name).IsWritten →
        (folder.join ⟨name⟩).text.toList = front ++ '/' :: name.toList
          ∧ (folder.join ⟨name⟩).isAbsolute = folder.isAbsolute := by
      have starts : ∀ more : List Char,
          (folder.text.toList ++ more).head? = folder.text.toList.head? :=
        fun more => List.head?_append_of_ne_nil _ full
      by_cases slash : folder.text.toList.getLast? = some '/'
      · obtain ⟨front, text⟩ := List.getLast?_eq_some_iff.1 slash
        refine ⟨front, fun name written => ?_⟩
        rw [join, (relative name written).1, if_neg Bool.false_ne_true, if_pos (by simp [slash])]
        refine ⟨by simp [text], ?_⟩
        rw [isAbsolute, isAbsolute, String.toList_append, starts]
      · refine ⟨folder.text.toList, fun name written => ?_⟩
        rw [join, (relative name written).1, if_neg Bool.false_ne_true,
          if_neg (by simpa [slash] using empty)]
        refine ⟨by simp, ?_⟩
        rw [isAbsolute, isAbsolute, String.append_assoc, String.toList_append, starts]
    refine ⟨folder.isAbsolute, List.splitOn '/' front, fun _ => List.splitOn_ne_nil _ _,
      fun name written => ?_⟩
    obtain ⟨text, absolute⟩ := joined name written
    rw [text, List.splitOn_append_cons_self, (relative name written).2]
    exact ⟨absolute, rfl⟩

variable {name other : String}

/-- The last step of such a path is to the name. -/
theorem getLast?_components_join (folder : Path) (written : (Component.name name).IsWritten) :
    (folder.join ⟨name⟩).components.getLast? = some (.name name) := by
  obtain ⟨absolute, front, filled, joined⟩ := folder.exists_pieces_join
  obtain ⟨starts, pieces⟩ := joined name written
  have read : Component.ofPiece? name.toList = some (.name name) := written.1
  unfold components
  rw [pieces, starts]
  cases front with
  | nil =>
    have relative : absolute = false := by
      cases absolute with
      | false => rfl
      | true => exact absurd rfl (filled rfl)
    have notHere : (name.toList == ['.']) = false :=
      beq_eq_false_iff_ne.2 written.isStep.2.1
    rw [List.nil_append]
    dsimp only
    rw [relative, notHere, read]
    rfl
  | cons first rest =>
    have last : ∀ steps : List Component,
        (steps ++ (rest ++ [name.toList]).filterMap Component.ofPiece?).getLast?
          = some (.name name) := by
      intro steps
      rw [List.filterMap_append, List.filterMap_cons_some read, List.filterMap_nil,
        ← List.append_assoc, List.getLast?_concat]
    rw [List.cons_append]
    dsimp only
    split
    · exact last [.root]
    · split
      · exact last [.here]
      · exact last _

/-- Different names make different steps. -/
theorem sameSteps_join_iff (folder : Path) (written : (Component.name name).IsWritten)
    (written' : (Component.name other).IsWritten) :
    (folder.join ⟨name⟩).sameSteps (folder.join ⟨other⟩) = true
      ↔ folder.join ⟨name⟩ = folder.join ⟨other⟩ := by
  constructor
  · intro same
    have steps : (folder.join ⟨name⟩).components = (folder.join ⟨other⟩).components :=
      beq_iff_eq.1 same
    have last := folder.getLast?_components_join written
    rw [steps, folder.getLast?_components_join written'] at last
    cases last
    rfl
  · intro same
    rw [same, sameSteps]
    exact beq_self_eq_true _

/-- One directory is above all such paths. -/
theorem exists_parent?_join (folder : Path) :
    ∃ above, ∀ name : String, (Component.name name).IsWritten →
      (folder.join ⟨name⟩).parent? = some above := by
  obtain ⟨absolute, front, filled, joined⟩ := folder.exists_pieces_join
  refine ⟨⟨String.ofList (if absolute then
    '/' :: ['/'].intercalate (dropIdle (!absolute) (front.drop 1).reverse).reverse
    else ['/'].intercalate (dropIdle (!absolute) front.reverse).reverse)⟩, fun name written => ?_⟩
  obtain ⟨starts, pieces⟩ := joined name written
  have some' : name.toList ≠ [] := written.isStep.1
  have noDot : name.toList ≠ ['.'] := written.isStep.2.1
  have busy : isIdlePiece name.toList = false := by
    rw [isIdlePiece, beq_eq_false_iff_ne.2 some', beq_eq_false_iff_ne.2 noDot]
    rfl
  have kept : ∀ rest, dropIdle (!absolute) (name.toList :: rest) = name.toList :: rest := by
    intro rest
    rw [dropIdle, busy, if_neg Bool.false_ne_true]
    rintro e rfl
    exact noDot e
  unfold parent?
  rw [pieces, starts]
  cases absolute with
  | true =>
    have behind : (front ++ [name.toList]).drop 1 = front.drop 1 ++ [name.toList] :=
      List.drop_append_of_le_length (List.length_pos_iff.2 (filled rfl))
    dsimp only
    rw [if_pos rfl, behind, List.reverse_append, List.reverse_singleton, List.singleton_append,
      kept]
    rfl
  | false =>
    dsimp only
    rw [if_neg Bool.false_ne_true, List.reverse_append, List.reverse_singleton,
      List.singleton_append, kept]
    rfl

/-- A path with a slash at its end takes a name as it is. -/
theorem join_join {q : Path} (p : Path) (slash : q.text.toList.getLast? = some '/')
    (relative : isAbsolute ⟨name⟩ = false) :
    (p.join q).join ⟨name⟩ = p.join ⟨q.text ++ name⟩ := by
  have full : q.text.toList ≠ [] := by
    intro e
    rw [e] at slash
    cases slash
  have same : isAbsolute ⟨q.text ++ name⟩ = q.isAbsolute := by
    rw [isAbsolute, isAbsolute, String.toList_append, List.head?_append_of_ne_nil _ full]
  have behind : ∀ text : String, join ⟨text ++ q.text⟩ ⟨name⟩ = ⟨text ++ q.text ++ name⟩ := by
    intro text
    have ends : (text ++ q.text).toList.getLast? = some '/' := by
      rw [String.toList_append, List.getLast?_append_of_ne_nil _ full, slash]
    rw [join, relative, if_neg Bool.false_ne_true,
      if_pos (Bool.or_eq_true_iff.2 (.inr (beq_iff_eq.2 ends)))]
  have inner : p.join q = if q.isAbsolute then q
      else if p.text.isEmpty || p.text.toList.getLast? == some '/' then ⟨p.text ++ q.text⟩
      else ⟨p.text ++ "/" ++ q.text⟩ := rfl
  have outer : p.join ⟨q.text ++ name⟩ = if q.isAbsolute then ⟨q.text ++ name⟩
      else if p.text.isEmpty || p.text.toList.getLast? == some '/' then ⟨p.text ++ (q.text ++ name)⟩
      else ⟨p.text ++ "/" ++ (q.text ++ name)⟩ := by
    rw [join, same]
  rw [inner, outer, ← String.append_assoc, ← String.append_assoc]
  by_cases absolute : q.isAbsolute = true
  · rw [if_pos absolute, if_pos absolute]
    simpa using behind ""
  · rw [if_neg absolute, if_neg absolute]
    split
    · exact behind _
    · exact behind _

end Path

/-! ### The folder of the destinations -/

/-- What stands in front of the last slash, and behind it. -/
theorem exists_lastSlash (text : List Char) :
    ∃ head tail, text = head ++ tail ∧ '/' ∉ tail ∧ (head = [] ∨ head.getLast? = some '/') := by
  induction text using List.reverseRecOn with
  | nil => exact ⟨[], [], rfl, List.not_mem_nil, .inl rfl⟩
  | append_singleton text c ih =>
    obtain ⟨head, tail, rfl, whole, ends⟩ := ih
    by_cases slash : c = '/'
    · refine ⟨head ++ tail ++ [c], [], by rw [List.append_nil], List.not_mem_nil, .inr ?_⟩
      rw [List.getLast?_concat, slash]
    · refine ⟨head, tail ++ [c], by rw [List.append_assoc], ?_, ends⟩
      rw [List.mem_append, not_or]
      exact ⟨whole, by simpa using Ne.symm slash⟩

/-- A name behind what stands in front of it in the name of a file: that is nothing, or it ends in
an underscore. -/
theorem isWritten_append_lowercaseAfter {tail : List Char} {name : String} (before : List Char)
    (written : (Component.name name).IsWritten) (noSlash : '/' ∉ tail)
    (ends : tail = [] ∨ tail.getLast? = some '_') :
    (Component.name (String.ofList
      (tail ++ (lowercaseAfter before name.toList).map fileNameChar))).IsWritten := by
  obtain ⟨named, whole⟩ := Component.isWritten_name_iff.1 written
  obtain ⟨piece, noSlashBehind⟩ := isNamePiece_map_lowercaseAfter before named whole
  rw [Component.isWritten_name_iff, String.toList_ofList, List.mem_append, not_or]
  refine ⟨?_, noSlash, noSlashBehind⟩
  rcases ends with rfl | underscore
  · exact piece
  · exact isNamePiece_append piece (List.mem_of_getLast? underscore)

/-- All destinations stand in one folder, if the names of files are names. -/
theorem Emitter.exists_folder (e : Emitter) (dir : Path) :
    ∃ (folder : Path) (last : String → String), ∀ i : Interface,
      (Component.name (e.fileName i.name)).IsWritten →
      e.destination dir i = folder.join ⟨last i.name⟩
        ∧ (Component.name (last i.name)).IsWritten := by
  obtain ⟨front, before, ends, named⟩ := exists_outputFileName e.fileName e.settings.namePrefix
  obtain ⟨head, tail, split, noSlash, slash⟩ := exists_lastSlash front
  have ends : tail = [] ∨ tail.getLast? = some '_' := by
    by_cases filled : tail = []
    · exact .inl filled
    · rcases ends with none' | underscore
      · exact absurd (split.symm.trans none') (by simp [filled])
      · rw [split, List.getLast?_append_of_ne_nil _ filled] at underscore
        exact .inr underscore
  let last : String → String := fun name =>
    String.ofList (tail ++ (lowercaseAfter before (e.fileName name).toList).map fileNameChar)
  have text : ∀ name, outputFileName e.fileName e.settings.namePrefix name
      = String.ofList head ++ last name := by
    intro name
    apply String.toList_injective
    rw [named, split, String.toList_append, String.toList_ofList, String.toList_ofList,
      List.append_assoc]
  have written : ∀ name, (Component.name (e.fileName name)).IsWritten →
      (Component.name (last name)).IsWritten :=
    fun name plain => isWritten_append_lowercaseAfter before plain noSlash ends
  rcases slash with none' | slash
  · refine ⟨dir, last, fun i plain => ⟨?_, written i.name plain⟩⟩
    have alone : outputFileName e.fileName e.settings.namePrefix i.name = last i.name := by
      rw [text, none', String.ofList_nil, String.empty_append]
    rw [destination, alone]
  · refine ⟨dir.join ⟨String.ofList head⟩, last, fun i plain => ⟨?_, written i.name plain⟩⟩
    have relative : Path.isAbsolute ⟨last i.name⟩ = false := by
      rw [Path.isAbsolute, beq_eq_false_iff_ne]
      exact fun e => (written i.name plain).2 (List.mem_of_head? e)
    rw [destination, text, Path.join_join dir (by rw [String.toList_ofList, slash]) relative]

end WrapperGen
