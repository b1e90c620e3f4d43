import Mathlib.Data.List.Basic
import AgentGraft.Value

/-!
# Members by key

The laws of looking a member up and of putting one in. A key may occur more than once: both look at
its first member only, so a member that is put in is the one that is found, and all others stay in
their places.
-/

namespace AgentGraft

/-- **Items that count by those before them**: whether one counts at the end has no bearing on the
others. -/
theorem map_fst_filter_zipIdx_concat {α : Type} (counts : List α → α → Bool) (l : List α) (a : α) :
    ((l ++ [a]).zipIdx.filter fun m ↦ counts ((l ++ [a]).take m.2) m.1).map Prod.fst =
      (l.zipIdx.filter fun m ↦ counts (l.take m.2) m.1).map Prod.fst ++
        if counts l a then [a] else [] := by
  have hfront : (l.zipIdx.filter fun m ↦ counts ((l ++ [a]).take m.2) m.1) =
      l.zipIdx.filter fun m ↦ counts (l.take m.2) m.1 := by
    refine List.filter_congr fun m hm ↦ ?_
    have hlt : m.2 < l.length := (List.getElem?_eq_some_iff.1 (List.mem_zipIdx_iff_getElem?.1 hm)).1
    rw [List.take_append_of_le_length (Nat.le_of_lt hlt)]
  have hlast : (l ++ [a]).take l.length = l := List.take_left
  rw [List.zipIdx_append, List.filter_append, hfront, List.map_append, List.zipIdx_singleton,
    Nat.zero_add, List.filter_cons, List.filter_nil, hlast]
  split <;> rfl

namespace Members

variable {key : String} {v : Value} {o : Members}

/-! ### Looking up -/

@[simp] theorem find?_nil (key : String) : find? key [] = none := rfl

theorem find?_cons (key : String) (m : String × Value) (o : Members) :
    find? key (m :: o) = if key = m.1 then some m.2 else find? key o := by
  obtain ⟨k, w⟩ := m
  rw [find?, List.lookup_cons]
  by_cases h : key = k
  · subst h
    simp
  · simp [beq_eq_false_iff_ne.2 h, h, find?]

theorem find?_append (key : String) (a b : Members) :
    find? key (a ++ b) = (find? key a).or (find? key b) :=
  List.lookup_append

theorem find?_eq_none_iff : find? key o = none ↔ ∀ m ∈ o, m.1 ≠ key := by
  rw [find?, List.lookup_eq_none_iff]
  exact forall₂_congr fun m _ ↦ by rw [bne_iff_ne, ne_comm]

theorem has_eq_false_iff : has key o = false ↔ find? key o = none := by
  rw [has, List.any_eq_false, find?_eq_none_iff]
  exact forall₂_congr fun m _ ↦ by rw [beq_iff_eq]

/-! ### Putting in -/

/-- The member that was put in is found. -/
theorem find?_put_self (key : String) (v : Value) (o : Members) :
    find? key (put key v o) = some v := by
  induction o with
  | nil => simp [put, find?_cons]
  | cons m o ih =>
    obtain ⟨k, w⟩ := m
    rw [put]
    split
    · next h => simp [find?_cons, h]
    · next h => rw [find?_cons, if_neg fun heq ↦ h heq.symm, ih]

/-- Nothing else is found differently. -/
theorem find?_put_of_ne {other : String} (h : other ≠ key) :
    find? other (put key v o) = find? other o := by
  induction o with
  | nil => simp [put, find?_cons, h]
  | cons m o ih =>
    obtain ⟨k, w⟩ := m
    rw [put]
    split
    · next hk => rw [find?_cons, find?_cons, if_neg (hk ▸ h), if_neg (hk ▸ h)]
    · rw [find?_cons, find?_cons, ih]

theorem mem_put {m : String × Value} (h : m ∈ put key v o) : m = (key, v) ∨ m ∈ o := by
  induction o with
  | nil => exact .inl (List.mem_singleton.1 h)
  | cons n o ih =>
    obtain ⟨k, w⟩ := n
    rw [put] at h
    split at h
    · next hk =>
      rcases List.mem_cons.1 h with rfl | h
      · exact .inl (hk ▸ rfl)
      · exact .inr (List.mem_cons_of_mem _ h)
    · rcases List.mem_cons.1 h with rfl | h
      · exact .inr (List.mem_cons_self ..)
      · exact (ih h).imp_right (List.mem_cons_of_mem _)

/-- **The members of other keys stay**, in their order. -/
theorem filter_put {p : String × Value → Bool} (h : ∀ w, p (key, w) = false) :
    (put key v o).filter p = o.filter p := by
  induction o with
  | nil => simp [put, h]
  | cons m o ih =>
    obtain ⟨k, w⟩ := m
    rw [put]
    split
    · next hk =>
      subst hk
      rw [List.filter_cons_of_neg (by simp [h]), List.filter_cons_of_neg (by simp [h])]
    · rw [List.filter_cons, List.filter_cons, ih]

/-- A member of a new key comes last. -/
theorem put_of_find?_eq_none (h : find? key o = none) : put key v o = o ++ [(key, v)] := by
  induction o with
  | nil => rfl
  | cons m o ih =>
    obtain ⟨k, w⟩ := m
    rw [find?_cons] at h
    split at h
    · cases h
    · next hne => rw [put, if_neg fun heq ↦ hne heq.symm, ih h, List.cons_append]

/-- Members of new keys are appended. -/
theorem update_of_nodup {more : Members} (h : ((o ++ more).map Prod.fst).Nodup) :
    o.update more = o ++ more := by
  induction more generalizing o with
  | nil => rw [List.append_nil]; rfl
  | cons m more ih =>
    obtain ⟨key, v⟩ := m
    have hnone : find? key o = none := by
      refine find?_eq_none_iff.2 fun n hn hkey ↦ ?_
      rw [List.map_append, List.nodup_append] at h
      exact h.2.2 n.1 (List.mem_map_of_mem hn) key (List.mem_cons_self ..) hkey
    have hcons : o.update ((key, v) :: more) = (o.put key v).update more := rfl
    rw [List.append_cons] at h
    rw [hcons, put_of_find?_eq_none hnone, ih h, ← List.append_cons]

/-- **Members of distinct keys** are kept as they are listed. -/
theorem ofList_of_nodup {ms : Members} (h : (ms.map Prod.fst).Nodup) : ofList ms = ms :=
  update_of_nodup h

/-- **Members put over others** are found before them, when no key is there twice among them. -/
theorem find?_update {more : Members} (h : (more.map Prod.fst).Nodup) (key : String) :
    find? key (o.update more) = (find? key more).or (find? key o) := by
  induction more generalizing o with
  | nil => rfl
  | cons m more ih =>
    rw [List.map_cons, List.nodup_cons] at h
    have hcons : o.update (m :: more) = (o.put m.1 m.2).update more := rfl
    rw [hcons, ih h.2, find?_cons]
    split
    · next heq =>
      have hnone : find? key more = none := find?_eq_none_iff.2 fun n hn hkey ↦
        h.1 (List.mem_map.2 ⟨n, hn, hkey.trans heq⟩)
      rw [hnone, heq, find?_put_self, Option.none_or, Option.some_or]
    · next hne => rw [find?_put_of_ne hne]

end Members

end AgentGraft
