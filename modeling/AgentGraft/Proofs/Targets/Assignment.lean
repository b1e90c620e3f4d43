import Mathlib.Data.List.Count
import Mathlib.Data.List.Nodup
import AgentGraft.Targets

/-!
# Accepted assignments

What it means that target lists are accepted. The check reports repeated names by counting and
sorting; here it is read as a statement about the lists: no name occurs twice in all of them
together, and a list without names stands alone (`check_eq_ok_iff`).
-/

namespace AgentGraft.Targets

/-! ### Repeated names -/

/-- The names that are reported are those that occur more than once. -/
theorem mem_repeatedNames {names : List String} {name : String} :
    name ∈ repeatedNames names ↔ 1 < names.count name := by
  rw [repeatedNames, sortNames, (List.mergeSort_perm _ _).mem_iff, List.mem_filter,
    decide_eq_true_eq, List.mem_eraseDups]
  exact ⟨And.right, fun h ↦ ⟨List.count_pos_iff.1 (Nat.zero_lt_of_lt h), h⟩⟩

/-- Nothing is reported exactly where no name is repeated. -/
theorem repeatedNames_eq_nil_iff {names : List String} :
    repeatedNames names = [] ↔ names.Nodup := by
  rw [List.eq_nil_iff_forall_not_mem, List.nodup_iff_count_le_one]
  simp only [mem_repeatedNames, Nat.not_lt]

theorem checkRepeated_eq_ok_iff {lists : List String} :
    checkRepeated lists = .ok () ↔ (allNames lists).Nodup := by
  rw [← repeatedNames_eq_nil_iff, checkRepeated]
  split <;> simp_all

/-! ### Lists without names -/

/-- A list without names that is accepted stands alone. -/
theorem eq_singleton_of_not_isAmbiguous {lists : List String} (h : isAmbiguous lists = false)
    {list : String} (hmem : list ∈ lists) (hblank : names list = []) : lists = [list] := by
  set named := lists.countP fun list ↦ !(names list).isEmpty with hnamed
  have hlt : named < lists.length := by
    rw [hnamed, List.countP_lt_length_iff]
    exact ⟨list, hmem, by simp [hblank]⟩
  have hcounts : lists.length ≤ 1 + named ∧ (lists.length - named ≠ 0 → named = 0) := by
    simpa [isAmbiguous, counts, ← hnamed] using h
  have hlen : lists.length = 1 := by omega
  obtain ⟨list', rfl⟩ := List.length_eq_one_iff.1 hlen
  rw [List.mem_singleton.1 hmem]

/-- **Accepted assignments**: no name occurs twice, and a list without names stands alone. -/
theorem check_eq_ok_iff {lists : List String} :
    check lists = .ok () ↔ isAmbiguous lists = false ∧ (allNames lists).Nodup := by
  rw [← checkRepeated_eq_ok_iff, check]
  cases isAmbiguous lists <;> simp

/-- Where nothing is assigned, nothing is wrong. -/
theorem check_nil : check [] = .ok () := check_eq_ok_iff.2 ⟨rfl, List.nodup_nil⟩

/-! ### Joined lists -/

/-- A text has at least one part. -/
theorem split_ne_nil (sep : Char) (cs : List Char) : Text.split sep cs ≠ [] := by
  cases cs with
  | nil => simp [Text.split]
  | cons c cs =>
    rw [Text.split]
    split
    · simp
    · split <;> simp

/-- Splitting undoes joining. -/
theorem split_append (sep : Char) (xs ys : List Char) :
    Text.split sep (xs ++ sep :: ys) = Text.split sep xs ++ Text.split sep ys := by
  induction xs with
  | nil => simp [Text.split]
  | cons x xs ih =>
    rw [List.cons_append, Text.split, Text.split, ih]
    by_cases h : x = sep
    · rw [if_pos h, if_pos h, List.cons_append]
    · rw [if_neg h, if_neg h]
      -- the first part of `xs` is the one that `x` goes to, on either side
      obtain ⟨part, parts, hparts⟩ := List.exists_cons_of_ne_nil (split_ne_nil sep xs)
      rw [hparts]
      rfl

theorem names_append (list list' : String) :
    names (list ++ "," ++ list') = names list ++ names list' := by
  have hchars : (list ++ "," ++ list').toList = list.toList ++ ',' :: list'.toList := by
    simp [String.toList_append]
  rw [names, hchars, split_append, List.filterMap_append]
  rfl

/-- The names of lists that are joined by commas are the names of all of them. -/
theorem names_intercalate (lists : List String) :
    names (",".intercalate lists) = allNames lists := by
  induction lists with
  | nil => decide
  | cons list lists ih =>
    cases lists with
    | nil => rw [String.intercalate_singleton, allNames, List.flatMap_singleton]
    | cons list' lists =>
      rw [String.intercalate_cons_cons, names_append, ih]
      simp [allNames]

/-! ### Faults -/

end AgentGraft.Targets
