import Mathlib.Data.List.Basic
import AgentGraft.Manifest.Env

/-!
# The first variable of a name

Variables are looked up by name, and of several variables with one name the first is the one that
counts. So variables that stand behind others are seen under those names only that the others do not
declare: `find?_append` is the law of shadowing, and everything here is a reading of it.
-/

namespace AgentGraft.Env

variable {name : String} {env front back : List EnvVar}

/-! ### Single variables -/

@[simp] theorem find?_nil (name : String) : find? name [] = none := rfl

theorem find?_cons (name : String) (e : EnvVar) (env : List EnvVar) :
    find? name (e :: env) = if e.name = name then some e else find? name env := by
  by_cases h : e.name = name
  · rw [if_pos h]
    exact List.find?_cons_of_pos (by simpa using h)
  · rw [if_neg h]
    exact List.find?_cons_of_neg (by simpa using h)

/-- What is found is one of the variables, and carries the name. -/
theorem mem_of_find?_eq_some {e : EnvVar} (h : find? name env = some e) : e ∈ env ∧ e.name = name :=
  ⟨List.mem_of_find?_eq_some h, by simpa using List.find?_some h⟩

/-! ### Declared names -/

theorem find?_eq_none_iff : find? name env = none ↔ declares name env = false := by
  rw [declares, Option.isSome_eq_false_iff, Option.isNone_iff_eq_none]

/-- A name is declared when some variable carries it. -/
theorem declares_iff : declares name env = true ↔ ∃ e ∈ env, e.name = name := by
  rw [declares, find?, List.find?_isSome]
  simp only [beq_iff_eq]

/-- What is declared is a matter of names alone. -/
theorem declares_eq_contains (name : String) (env : List EnvVar) :
    declares name env = (env.map (·.name)).contains name := by
  rw [Bool.eq_iff_iff, declares_iff, List.contains_iff_mem, List.mem_map]

/-- Names that are found alike are declared alike. -/
theorem declares_congr (h : find? name front = find? name back) :
    declares name front = declares name back := by
  rw [declares, declares, h]

/-! ### Shadowing -/

/-- **The law of shadowing**: what stands in front is found first. -/
theorem find?_append (name : String) (front back : List EnvVar) :
    find? name (front ++ back) = (find? name front).or (find? name back) := List.find?_append

theorem declares_append (name : String) (front back : List EnvVar) :
    declares name (front ++ back) = (declares name front || declares name back) := by
  rw [declares, find?_append, Option.isSome_or]
  rfl

theorem find?_append_of_declares (h : declares name front = true) :
    find? name (front ++ back) = find? name front := by
  rw [find?_append, Option.or_of_isSome h]

/-- Variables of other names are not in the way. -/
theorem find?_append_of_not_declares (h : declares name back = false) :
    find? name (front ++ back) = find? name front := by
  rw [find?_append, find?_eq_none_iff.2 h, Option.or_none]

end AgentGraft.Env
