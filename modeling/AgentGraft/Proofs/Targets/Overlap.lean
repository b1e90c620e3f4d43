import Mathlib.Data.List.Pairwise
import AgentGraft.Proofs.Targets.Assignment

/-!
# What is refused

Which target lists overlap, and what is said of them. The check for repeated names reports by
counting, and the check of an assignment counts the lists without names first; here both are read as
statements about the lists. Names are repeated where one is counted twice in all lists together, and
the report is then the one strictly ascending list of these names (`Repeats.unique`). Lists are
ambiguous where one without names stands beside another (`isAmbiguous_iff`).

`accepted_iff_unambiguous` puts this together: every verdict of either check is equivalent to what
it says of the lists.
-/

namespace AgentGraft.Targets

variable {lists dups dups' : List String}

/-! ### Names of one list -/

/-- The text is these parts with commas between them. -/
structure IsJoined (text : String) (parts : List String) : Prop where
  eq_intercalate : text = ",".intercalate parts
  noComma : ∀ part ∈ parts, ',' ∉ part.toList

/-- No part holds the character that parts it from the next. -/
theorem not_mem_of_mem_split {sep : Char} {cs part : List Char} (h : part ∈ Text.split sep cs) :
    sep ∉ part := by
  induction cs generalizing part with
  | nil => simp_all [Text.split]
  | cons c cs ih =>
    obtain ⟨first, parts, hparts⟩ := List.exists_cons_of_ne_nil (split_ne_nil sep cs)
    rw [hparts] at ih
    rw [Text.split, hparts] at h
    split at h
    · rcases List.mem_cons.1 h with rfl | h
      · exact List.not_mem_nil
      · exact ih h
    · next hc =>
      rcases List.mem_cons.1 h with rfl | h
      · rw [List.mem_cons, not_or]
        exact ⟨Ne.symm hc, ih (List.mem_cons_self ..)⟩
      · exact ih (List.mem_cons_of_mem _ h)

/-- Joining undoes splitting. -/
theorem intercalate_split (sep : Char) (cs : List Char) :
    [sep].intercalate (Text.split sep cs) = cs := by
  induction cs with
  | nil => rfl
  | cons c cs ih =>
    obtain ⟨first, parts, hparts⟩ := List.exists_cons_of_ne_nil (split_ne_nil sep cs)
    rw [hparts] at ih
    rw [Text.split, hparts]
    split
    · next hc => rw [hc, List.intercalate_cons_cons, ih]; rfl
    · cases parts with
      | nil => simpa using ih
      | cons part parts =>
        rw [List.intercalate_cons_cons] at ih ⊢
        rw [← ih]
        rfl

theorem filterMap_strip (parts : List (List Char)) :
    (parts.filterMap fun part ↦
      let name := Text.stripChars part
      if name.isEmpty then none else some (String.ofList name)) =
      ((parts.map String.ofList).map Text.strip).filter (· ≠ "") := by
  induction parts with
  | nil => rfl
  | cons part parts ih =>
    have hstrip : Text.strip (String.ofList part) = String.ofList (Text.stripChars part) := by
      rw [Text.strip, String.toList_ofList]
    rw [List.map_cons, List.map_cons, hstrip, List.filterMap_cons, ih]
    cases h : Text.stripChars part with
    | nil => rfl
    | cons c name =>
      simp

/-- **Every text has parts**, and its names are those parts, stripped, that are not blank then. -/
theorem exists_isJoined (list : String) : ∃ parts, IsJoined list parts ∧
    names list = (parts.map Text.strip).filter (· ≠ "") := by
  refine ⟨(Text.split ',' list.toList).map String.ofList, ⟨?_, ?_⟩, filterMap_strip _⟩
  · rw [← String.toList_inj, String.toList_intercalate, List.map_map]
    simpa [Function.comp_def] using (intercalate_split ',' list.toList).symm
  · intro part hpart
    obtain ⟨cs, hcs, rfl⟩ := List.mem_map.1 hpart
    rw [String.toList_ofList]
    exact not_mem_of_mem_split hcs

/-! ### Repeated names -/

/-- The names that stand in the lists more than once: each once, in strictly ascending order. -/
structure Repeats (lists dups : List String) : Prop where
  mem_iff : ∀ name, name ∈ dups ↔ 2 ≤ (allNames lists).count name
  ascending : dups.Pairwise (· < ·)

/-- There is one such list at most. -/
theorem Repeats.unique (h : Repeats lists dups) (h' : Repeats lists dups') : dups = dups' := by
  have hmem (name : String) : name ∈ dups ↔ name ∈ dups' := by rw [h.mem_iff, h'.mem_iff]
  refine List.Perm.eq_of_pairwise (fun a b _ _ hab hba ↦ ?_) h.ascending h'.ascending
    ((List.perm_ext_iff_of_nodup (h.ascending.imp String.ne_of_lt)
      (h'.ascending.imp String.ne_of_lt)).2 hmem)
  exact absurd hba (String.lt_asymm hab)

/-- Of every name one occurrence is left, the first: what follows it is without it. -/
theorem nodup_eraseDups : (names : List String) → names.eraseDups.Nodup
  | [] => List.nodup_nil
  | name :: names => by
    rw [List.eraseDups_cons, List.nodup_cons, List.mem_eraseDups, List.mem_filter]
    exact ⟨by simp, nodup_eraseDups _⟩
termination_by names => names.length
decreasing_by exact Nat.lt_succ_of_le (List.length_filter_le ..)

/-- Names are put into ascending order. -/
theorem pairwise_sortNames (names : List String) : (sortNames names).Pairwise (· ≤ ·) := by
  have htrans (a b c : String) (hab : decide (a ≤ b) = true) (hbc : decide (b ≤ c) = true) :
      decide (a ≤ c) = true :=
    decide_eq_true (String.le_trans (of_decide_eq_true hab) (of_decide_eq_true hbc))
  have htotal (a b : String) : (decide (a ≤ b) || decide (b ≤ a)) = true := by
    simpa using String.le_total a b
  exact (List.pairwise_mergeSort htrans htotal names).imp of_decide_eq_true

/-- **Repeated names are reported in strictly ascending order**, as none of them is reported
twice. -/
theorem pairwise_lt_repeatedNames (names : List String) :
    (repeatedNames names).Pairwise (· < ·) := by
  have hnodup : (repeatedNames names).Nodup :=
    (List.mergeSort_perm _ _).nodup_iff.2 ((nodup_eraseDups names).filter _)
  exact (pairwise_sortNames _).imp₂
    (fun a b hle hne ↦ String.not_le.1 fun hge ↦ hne (String.le_antisymm hle hge)) hnodup

theorem repeats_repeatedNames (lists : List String) :
    Repeats lists (repeatedNames (allNames lists)) :=
  ⟨fun _ ↦ mem_repeatedNames, pairwise_lt_repeatedNames _⟩

theorem repeatedNames_eq_iff : repeatedNames (allNames lists) = dups ↔ Repeats lists dups :=
  ⟨fun h ↦ h ▸ repeats_repeatedNames lists, (repeats_repeatedNames lists).unique⟩

/-- **What the check for repeated names reports** is the repeated names, if there are any. -/
theorem checkRepeated_eq_error_iff {f : Fault} : checkRepeated lists = .error f ↔
    ∃ dups, f = .repeated dups ∧ dups ≠ [] ∧ Repeats lists dups := by
  simp only [← repeatedNames_eq_iff, checkRepeated]
  cases h : repeatedNames (allNames lists) with
  | nil =>
    constructor
    · intro hf
      cases hf
    · rintro ⟨dups, -, hne, rfl⟩
      exact absurd rfl hne
  | cons name names =>
    constructor
    · intro hf
      exact ⟨_, (Except.error.inj hf).symm, List.cons_ne_nil _ _, rfl⟩
    · rintro ⟨dups, rfl, -, rfl⟩
      rfl

/-- Something is reported where some name is repeated. -/
theorem exists_checkRepeated_iff : (∃ f, checkRepeated lists = .error f) ↔
    ∃ name, 2 ≤ (allNames lists).count name := by
  constructor
  · rintro ⟨f, hf⟩
    obtain ⟨dups, -, hne, hdups⟩ := checkRepeated_eq_error_iff.1 hf
    obtain ⟨name, hname⟩ := List.exists_mem_of_ne_nil dups hne
    exact ⟨name, (hdups.mem_iff name).1 hname⟩
  · rintro ⟨name, hname⟩
    have hmem := ((repeats_repeatedNames lists).mem_iff name).2 hname
    exact ⟨_, checkRepeated_eq_error_iff.2
      ⟨_, rfl, List.ne_nil_of_mem hmem, repeats_repeatedNames lists⟩⟩

/-- **Lists may be joined**: the check is the same for their text with commas between them. -/
theorem checkRepeated_intercalate (lists : List String) :
    checkRepeated [",".intercalate lists] = checkRepeated lists := by
  rw [checkRepeated, checkRepeated, allNames, List.flatMap_singleton, names_intercalate]

/-! ### Lists without names -/

/-- **An ambiguous assignment** has a list without names, and another list. -/
theorem isAmbiguous_iff :
    isAmbiguous lists = true ↔ 1 < lists.length ∧ ∃ list ∈ lists, names list = [] := by
  constructor
  · intro h
    set named := lists.countP fun list ↦ !(names list).isEmpty with hnamed
    have hcounts : 1 < lists.length - named ∨ (lists.length - named ≠ 0 ∧ named ≠ 0) := by
      simpa [isAmbiguous, counts, ← hnamed] using h
    have hle : named ≤ lists.length := List.countP_le_length
    refine ⟨by omega, ?_⟩
    obtain ⟨list, hmem, hblank⟩ := List.countP_lt_length_iff.1
      (show lists.countP (fun list ↦ !(names list).isEmpty) < lists.length by omega)
    exact ⟨list, hmem, by simpa using hblank⟩
  · rintro ⟨hlen, list, hmem, hblank⟩
    by_contra h
    have halone := eq_singleton_of_not_isAmbiguous (Bool.eq_false_iff.2 h) hmem hblank
    simp [halone] at hlen

theorem check_eq_error_ambiguous_iff : check lists = .error .ambiguous ↔
    1 < lists.length ∧ ∃ list ∈ lists, names list = [] := by
  rw [← isAmbiguous_iff, check]
  split
  · next h => simp [h]
  · next h =>
    refine ⟨fun hcheck ↦ ?_, fun h' ↦ absurd h' h⟩
    obtain ⟨dups, hdups, -⟩ := checkRepeated_eq_error_iff.1 hcheck
    cases hdups

theorem check_eq_error_repeated_iff : check lists = .error (.repeated dups) ↔
    ¬(1 < lists.length ∧ ∃ list ∈ lists, names list = []) ∧ dups ≠ [] ∧ Repeats lists dups := by
  rw [← isAmbiguous_iff, check]
  split
  · next h => simp [h]
  · next h => simp [h, checkRepeated_eq_error_iff]

/-- Where nothing is ambiguous no list names anything, or all do. -/
theorem check_eq_ok_iff_forall : check lists = .ok () ↔
    (lists.length ≤ 1 ∧ ∀ list ∈ lists, names list = []) ∨
      (∀ list ∈ lists, names list ≠ []) ∧ (allNames lists).Nodup := by
  rw [check_eq_ok_iff, ← Bool.not_eq_true, isAmbiguous_iff]
  constructor
  · rintro ⟨hamb, hnd⟩
    by_cases hblank : ∃ list ∈ lists, names list = []
    · have hlen : lists.length ≤ 1 := Nat.not_lt.1 fun hlt ↦ hamb ⟨hlt, hblank⟩
      obtain ⟨list, hmem, hnames⟩ := hblank
      have halone : lists = [list] := by
        obtain ⟨list', rfl⟩ := List.length_eq_one_iff.1
          (Nat.le_antisymm hlen (List.length_pos_of_mem hmem))
        rw [List.mem_singleton.1 hmem]
      exact .inl ⟨hlen, by simpa [halone] using hnames⟩
    · exact .inr ⟨fun list hmem hnames ↦ hblank ⟨list, hmem, hnames⟩, hnd⟩
  · rintro (⟨hlen, hall⟩ | ⟨hall, hnd⟩)
    · have hnil : allNames lists = [] := List.flatMap_eq_nil_iff.2 hall
      exact ⟨fun h ↦ absurd h.1 (Nat.not_lt.2 hlen), hnil ▸ List.nodup_nil⟩
    · exact ⟨fun ⟨_, list, hmem, hnames⟩ ↦ hall list hmem hnames, hnd⟩

/-! ### Verdicts -/

/-- **Exactly the unambiguous assignments are accepted.** A name of a list is a part of it between
commas, stripped and not blank. The check for repeated names refuses lists in which some name stands
twice, in one of them or across them, and reports these names, each once and in strictly ascending
order; it may as well be made on the joined lists. An assignment is accepted where at most one
instrumentation is there and none names anything, or where all name something and no name is
repeated. It is refused as ambiguous, before names are counted, where a list without names stands
beside another, and else for the repeated names. -/
theorem accepted_iff_unambiguous (lists : List String) (is : List Instrumentation) :
    (∀ list, ∃ parts, IsJoined list parts ∧
      names list = (parts.map Text.strip).filter (· ≠ "")) ∧
    ((∃ f, checkRepeated lists = .error f) ↔ ∃ name, 2 ≤ (lists.flatMap names).count name) ∧
    (∀ f, checkRepeated lists = .error f → ∃ dups, f = .repeated dups ∧ Repeats lists dups) ∧
    checkRepeated [",".intercalate lists] = checkRepeated lists ∧
    (check (listsOf is) = .ok () ↔
      (is.length ≤ 1 ∧ ∀ i ∈ is, names i.spec.containers = []) ∨
        (∀ i ∈ is, names i.spec.containers ≠ []) ∧ (allNames (listsOf is)).Nodup) ∧
    (check (listsOf is) = .error .ambiguous ↔
      1 < is.length ∧ ∃ i ∈ is, names i.spec.containers = []) ∧
    (∀ dups, check (listsOf is) = .error (.repeated dups) ↔
      ¬(1 < is.length ∧ ∃ i ∈ is, names i.spec.containers = []) ∧ dups ≠ [] ∧
        Repeats (listsOf is) dups) := by
  have hlen : (listsOf is).length = is.length := List.length_map _
  have hexists : (∃ list ∈ listsOf is, names list = []) ↔
      ∃ i ∈ is, names i.spec.containers = [] := by
    simp [listsOf]
  refine ⟨exists_isJoined, exists_checkRepeated_iff, fun f hf ↦ ?_,
    checkRepeated_intercalate lists, ?_, ?_, fun dups ↦ ?_⟩
  · obtain ⟨dups, rfl, -, hdups⟩ := checkRepeated_eq_error_iff.1 hf
    exact ⟨dups, rfl, hdups⟩
  · rw [check_eq_ok_iff_forall, hlen]
    simp [listsOf]
  · rw [check_eq_error_ambiguous_iff, hlen, hexists]
  · rw [check_eq_error_repeated_iff, hlen, hexists]

/-- The list without names is found first, though a name is repeated as well. -/
example : check ["a,b", " , ", "b"] = .error .ambiguous := by decide +kernel

end AgentGraft.Targets
