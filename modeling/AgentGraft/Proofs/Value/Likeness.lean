import Mathlib.Data.String.Basic
import AgentGraft.Proofs.Value.Members

/-!
# What alike values have in common

Alike values differ at most in the order of members, so whatever can be reached by keys and indexes
is alike again. The one thing to see is that sorting members by their keys does not change which
member is the first of its key: a member is put before all of its own key, and passes by none.
-/

namespace AgentGraft

namespace Value

variable {a b : Value}

theorem alike_iff : a.alike b = true ↔ a.normal = b.normal := beq_iff_eq

@[simp] theorem alike_refl (a : Value) : a.alike a = true := alike_iff.2 rfl

/-! ### Lists -/

theorem normalItems_eq_map (items : List Value) : normalItems items = items.map normal := by
  induction items with
  | nil => rfl
  | cons v vs ih => rw [normalItems, List.map_cons, ih]

variable {xs ys : List Value}

theorem map_normal_of_alike (h : (arr xs).alike (arr ys) = true) :
    xs.map normal = ys.map normal := by
  rw [alike_iff, normal, normal, normalItems_eq_map, normalItems_eq_map] at h
  exact Value.arr.inj h

/-- Alike lists have the same length. -/
theorem length_eq_of_alike (h : (arr xs).alike (arr ys) = true) : xs.length = ys.length := by
  have hlen := congrArg List.length (map_normal_of_alike h)
  rwa [List.length_map, List.length_map] at hlen

/-- Items at the same place of alike lists are alike. -/
theorem alike_of_getElem? (h : (arr xs).alike (arr ys) = true) {i : Nat} (ha : xs[i]? = some a)
    (hb : ys[i]? = some b) : a.alike b = true := by
  have heq := congrArg (·[i]?) (map_normal_of_alike h)
  simp only [List.getElem?_map, ha, hb, Option.map_some, Option.some_inj] at heq
  exact alike_iff.2 heq

/-! ### Objects -/

/-- A member that is inserted comes first among those of its key. -/
theorem find?_insertSorted (key : String) (m : String × Value) (o : Members) :
    Members.find? key (insertSorted m o) = if key = m.1 then some m.2 else o.find? key := by
  induction o with
  | nil => rw [insertSorted, Members.find?_cons]
  | cons n o ih =>
    rw [insertSorted]
    split
    · rw [Members.find?_cons]
    · next hlt =>
      have hne : m.1 ≠ n.1 := fun heq ↦ hlt (heq ▸ le_refl m.1)
      rw [Members.find?_cons, Members.find?_cons, ih]
      by_cases hkey : key = m.1
      · rw [if_pos hkey, if_pos hkey, if_neg (hkey ▸ hne)]
      · rw [if_neg hkey, if_neg hkey]

/-- Normal forms have the normal form of the same member under every key. -/
theorem find?_normalMembers (key : String) (o : Members) :
    Members.find? key (normalMembers o) = (o.find? key).map normal := by
  induction o with
  | nil => rfl
  | cons m o ih =>
    rw [normalMembers, find?_insertSorted, ih, normalMember, Members.find?_cons]
    by_cases hkey : key = m.1
    · rw [if_pos hkey, if_pos hkey, Option.map_some]
    · rw [if_neg hkey, if_neg hkey]

variable {o o' : Members}

/-- **What alike objects have under a key** is alike. -/
theorem alike_of_find? (h : (obj o).alike (obj o') = true) {key : String}
    (ha : o.find? key = some a) (hb : o'.find? key = some b) : a.alike b = true := by
  rw [alike_iff, normal, normal, Value.obj.injEq] at h
  have heq := congrArg (Members.find? key) h
  rw [find?_normalMembers, find?_normalMembers, ha, hb] at heq
  exact alike_iff.2 (Option.some.inj heq)

end Value

end AgentGraft
