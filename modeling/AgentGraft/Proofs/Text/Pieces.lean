import Mathlib.Data.List.Basic
import Mathlib.Data.List.TakeWhile
import AgentGraft.Text.Blank
import AgentGraft.Text.LowerCase
import AgentGraft.Text.Split

/-!
# Pieces of a text

How a text that is put together from pieces is taken apart again. At a separator it splits into what
stands before and after, whatever the rest holds; at its ends it loses characters only up to the
first that stays; and the characters of ASCII that are no capitals are in lower case as they are.
-/

namespace AgentGraft.Text

variable {p : Char → Bool} {sep c : Char} {cs rest info : List Char}

theorem le_iff_toNat_le {a b : Char} : a ≤ b ↔ a.toNat ≤ b.toNat := Iff.rfl

/-- A character between the ranges is in none of them. -/
theorem has_eq_false_of_gap {ranges : CharRanges} {low high : Nat}
    (hgap : ∀ r ∈ ranges, r.2 < low ∨ high ≤ r.1) (hlow : low ≤ c.toNat) (hhigh : c.toNat < high) :
    ranges.has c = false := by
  refine List.any_eq_false.2 fun r hr hmem ↦ ?_
  rw [Bool.and_eq_true, decide_eq_true_eq, decide_eq_true_eq] at hmem
  have := hgap r hr
  omega

/-! ### Splitting at a character -/

/-- **Reading stops at a character** that the predicate refuses, whatever comes after it. -/
theorem takeWhile_append_cons_of_neg (hc : p c = false) (cs rest : List Char) :
    (cs ++ c :: rest).takeWhile p = cs.takeWhile p := by
  induction cs with
  | nil =>
    rw [List.nil_append, List.takeWhile_cons_of_neg (Bool.eq_false_iff.1 hc), List.takeWhile_nil]
  | cons a cs ih => rw [List.cons_append, List.takeWhile_cons, List.takeWhile_cons, ih]

theorem dropWhile_append_cons_of_neg (hc : p c = false) (cs rest : List Char) :
    (cs ++ c :: rest).dropWhile p = cs.dropWhile p ++ c :: rest := by
  induction cs with
  | nil => rw [List.nil_append, List.dropWhile_cons_of_neg (Bool.eq_false_iff.1 hc)]; rfl
  | cons a cs ih =>
    rw [List.cons_append, List.dropWhile_cons, List.dropWhile_cons, ih]
    split <;> rfl

theorem before_of_not_mem (h : sep ∉ cs) : before sep cs = cs :=
  List.takeWhile_eq_self_iff.2 fun _ hc ↦ decide_eq_true fun heq ↦ h (heq ▸ hc)

theorem dropWhile_of_not_mem (h : sep ∉ cs) : cs.dropWhile (· ≠ sep) = [] :=
  List.dropWhile_eq_nil_iff.2 fun _ hc ↦ decide_eq_true fun heq ↦ h (heq ▸ hc)

theorem after_of_not_mem (h : sep ∉ cs) : after sep cs = [] := by
  rw [after, dropWhile_of_not_mem h, List.drop_nil]

theorem before_append_cons (h : sep ∉ cs) : before sep (cs ++ sep :: rest) = cs := by
  rw [before, takeWhile_append_cons_of_neg (by simp)]
  exact before_of_not_mem h

theorem after_append_cons (h : sep ∉ cs) : after sep (cs ++ sep :: rest) = rest := by
  rw [after, dropWhile_append_cons_of_neg (by simp), dropWhile_of_not_mem h]
  rfl

/-- **Before the last separator** nothing counts. -/
theorem afterLast_append_cons (cs rest : List Char) :
    afterLast sep (cs ++ sep :: rest) = afterLast sep rest := by
  rw [afterLast, List.reverse_append, List.reverse_cons, List.append_assoc, List.singleton_append,
    takeWhile_append_cons_of_neg (by simp)]
  rfl

theorem afterLast_of_not_mem (h : sep ∉ cs) : afterLast sep cs = cs := by
  have hrev : before sep cs.reverse = cs.reverse := before_of_not_mem (by rwa [List.mem_reverse])
  rw [afterLast, ← before, hrev, List.reverse_reverse]

/-- **A text is what comes before the first separator**, and the separator and what comes after it
if there is one. -/
theorem eq_before_append (sep : Char) (cs : List Char) :
    cs = before sep cs ∧ after sep cs = [] ∨ cs = before sep cs ++ sep :: after sep cs := by
  by_cases h : sep ∈ cs
  · obtain ⟨front, back, rfl, hfront⟩ := List.eq_append_cons_of_mem h
    exact .inr (by rw [before_append_cons hfront, after_append_cons hfront])
  · exact .inl ⟨(before_of_not_mem h).symm, after_of_not_mem h⟩

theorem not_mem_before (sep : Char) (cs : List Char) : sep ∉ before sep cs := by
  intro h
  rw [before] at h
  simpa using List.mem_takeWhile_imp h

theorem split_of_not_mem (h : sep ∉ cs) : split sep cs = [cs] := by
  induction cs with
  | nil => rfl
  | cons c cs ih =>
    rw [List.mem_cons, not_or] at h
    rw [split, if_neg (Ne.symm h.1), ih h.2]

/-- **A text is what comes after the last separator**, and something and the separator before it if
there is one. -/
theorem afterLast_eq_iff : afterLast sep cs = info ↔
    sep ∉ info ∧ (cs = info ∨ ∃ front, cs = front ++ sep :: info) := by
  constructor
  · rintro rfl
    by_cases h : sep ∈ cs
    · obtain ⟨back, front, hrev, hback⟩ := List.eq_append_cons_of_mem (List.mem_reverse.2 h)
      have hcs : cs = front.reverse ++ sep :: back.reverse := by
        rw [← List.reverse_reverse cs, hrev]
        simp
      have hlast : afterLast sep cs = back.reverse := by
        rw [hcs, afterLast_append_cons, afterLast_of_not_mem (by rwa [List.mem_reverse])]
      rw [hlast]
      exact ⟨by rwa [List.mem_reverse], .inr ⟨front.reverse, hcs⟩⟩
    · rw [afterLast_of_not_mem h]
      exact ⟨h, .inl rfl⟩
  · rintro ⟨hinfo, rfl | ⟨front, rfl⟩⟩
    · exact afterLast_of_not_mem hinfo
    · rw [afterLast_append_cons, afterLast_of_not_mem hinfo]

/-! ### Removing characters at the ends -/

/-- **Nothing is removed before a character that stays.** -/
theorem dropTrailing_append_cons (hc : p c = false) (cs rest : List Char) :
    dropTrailing p (cs ++ c :: rest) = cs ++ c :: dropTrailing p rest := by
  rw [dropTrailing, List.reverse_append, List.reverse_cons, List.append_assoc,
    List.singleton_append, dropWhile_append_cons_of_neg hc]
  simp [dropTrailing]

theorem getLast?_append_cons (hc : p c = false) (h : ∀ d ∈ rest.getLast?, p d = false)
    (cs : List Char) :
    ∀ d ∈ (cs ++ c :: rest).getLast?, p d = false := by
  intro d hd
  rw [List.getLast?_append, List.getLast?_cons, Option.some_or, Option.mem_some_iff] at hd
  subst hd
  cases hlast : rest.getLast? with
  | none => exact hc
  | some last => exact h last hlast

/-- What is removed is the end of the text. -/
theorem eq_dropTrailing_append (p : Char → Bool) (cs : List Char) :
    ∃ trailing, cs = dropTrailing p cs ++ trailing ∧ ∀ c ∈ trailing, p c = true := by
  refine ⟨(cs.reverse.takeWhile p).reverse, ?_, fun c hc ↦ ?_⟩
  · rw [dropTrailing, ← List.reverse_append, List.takeWhile_append_dropWhile, List.reverse_reverse]
  · exact List.mem_takeWhile_imp (List.mem_reverse.1 hc)

/-- A text that does not end in white space keeps all of itself, whatever is written after it. -/
theorem stripChars_append {front : List Char} (hne : front ≠ [])
    (hfirst : ∀ c ∈ (front ++ rest).head?, isBlank c = false)
    (hlast : ∀ c ∈ front.getLast?, isBlank c = false) :
    stripChars (front ++ rest) = front ++ dropTrailing isBlank rest := by
  have hstart : (front ++ rest).dropWhile isBlank = front ++ rest := by
    obtain ⟨c, more, rfl⟩ := List.exists_cons_of_ne_nil hne
    exact List.dropWhile_cons_of_neg (Bool.eq_false_iff.1 (hfirst c rfl))
  obtain ⟨more, c, rfl⟩ := (List.eq_nil_or_concat front).resolve_left hne
  rw [List.concat_eq_append] at hlast hstart ⊢
  rw [stripChars, trimBoth, hstart, List.append_assoc, List.singleton_append,
    dropTrailing_append_cons (hlast c List.getLast?_concat), List.append_assoc,
    List.singleton_append]

/-! ### Lower-casing of ASCII -/

/-- The character is one of ASCII and no capital. -/
def isLow (c : Char) : Bool := isAscii c && !('A' ≤ c && c ≤ 'Z')

theorem lowerAfter_cons_of_isLow (h : isLow c = true) (before cs : List Char) :
    lowerAfter before (c :: cs) = c :: lowerAfter (c :: before) cs := by
  rw [isLow, Bool.and_eq_true, Bool.not_eq_true', ← Bool.not_eq_true, Bool.and_eq_true,
    decide_eq_true_eq, decide_eq_true_eq] at h
  have hsigma : c ≠ '\u03A3' := by
    rintro rfl
    exact absurd h.1 (by decide)
  rw [lowerAfter, if_neg hsigma, lowerChar, if_pos h.1, lowerAscii, if_neg h.2]
  rfl

/-- **A character that is no capital is not lost.** -/
theorem mem_lowerAfter (h : isLow c = true) (hc : c ∈ cs) (before : List Char) :
    c ∈ lowerAfter before cs := by
  induction cs generalizing before with
  | nil => cases hc
  | cons a cs ih =>
    rcases List.mem_cons.1 hc with rfl | hc
    · rw [lowerAfter_cons_of_isLow h]
      exact List.mem_cons_self
    · rw [lowerAfter]
      exact List.mem_append_right _ (ih hc _)

theorem lowerAfter_eq_self (h : ∀ c ∈ cs, isLow c = true) (before : List Char) :
    lowerAfter before cs = cs := by
  induction cs generalizing before with
  | nil => rfl
  | cons c cs ih =>
    rw [List.forall_mem_cons] at h
    rw [lowerAfter_cons_of_isLow h.1, ih h.2]

end AgentGraft.Text
