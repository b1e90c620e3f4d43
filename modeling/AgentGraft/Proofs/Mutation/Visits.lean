import AgentGraft.Mutation.Plan
import AgentGraft.Proofs.Targets.Assignment

/-!
# The visits of a plan

Which containers a plan visits. Names are turned into the numbers of the first containers that carry
them, so distinct names lead to distinct containers, and names that are distinct over all target
lists keep the visits of all instrumentations apart: a plan for accepted targets visits no container
twice (`Plan.nodup_filterMap_index?`).
-/

namespace AgentGraft

/-! ### Steps of a plan -/

namespace Visit

/-- The number of the container that the step is about. -/
def index? : Visit → Option Nat
  | .container _ _ index => some index
  | _ => none

/-- The step injects the Java agent, or nothing. -/
def IsJava : Visit → Prop
  | .container injector _ _ => injector = Java.injector
  | _ => True

end Visit

/-- The one standard injector is that of the Java agent. -/
theorem Injectors.eq_java_of_lookup {runtime : String} {injector : Injector}
    (h : standard.lookup runtime = some injector) : injector = Java.injector := by
  rw [standard, List.lookup_cons] at h
  split at h
  · exact (Option.some.inj h).symm
  · cases h

namespace Plan

variable {c : Config} {injectors : Injectors} {containers : List Container}

/-- **The injections of a plan**: one for every container that the targets of an instrumentation
stand for, if its runtime has an injector. -/
theorem container_mem_iff {is : List Instrumentation} {injector : Injector} {i : Instrumentation}
    {index : Nat} : .container injector i index ∈ Plan.of c injectors containers is ↔
      i ∈ is ∧ injectors.lookup i.runtime = some injector ∧
        index ∈ indexes c containers i.spec.containers := by
  have hvisits (j : Instrumentation) :
      .container injector i index ∈ visits c injectors containers j ↔
        j = i ∧ injectors.lookup i.runtime = some injector ∧
          index ∈ indexes c containers i.spec.containers := by
    rw [visits]
    rcases hlookup : injectors.lookup j.runtime with - | injector'
    · constructor
      · intro h
        cases List.mem_singleton.1 h
      · rintro ⟨rfl, h, -⟩
        rw [hlookup] at h
        cases h
    · simp only [List.mem_append, List.mem_map, reduceCtorEq, and_false, exists_false, false_or,
        Visit.container.injEq]
      constructor
      · rintro ⟨_, hindex, rfl, rfl, rfl⟩
        exact ⟨rfl, hlookup, hindex⟩
      · rintro ⟨rfl, h, hindex⟩
        exact ⟨index, hindex, Option.some.inj (hlookup.symm.trans h), rfl, rfl⟩
  rw [Plan.of, List.mem_flatMap]
  constructor
  · rintro ⟨j, hj, hmem⟩
    obtain ⟨rfl, hlookup, hindex⟩ := (hvisits j).1 hmem
    exact ⟨hj, hlookup, hindex⟩
  · rintro ⟨hi, hlookup, hindex⟩
    exact ⟨i, hi, (hvisits i).2 ⟨rfl, hlookup, hindex⟩⟩

/-- Every injection of a plan is for one of the instrumentations. -/
theorem mem_of_container_mem {is : List Instrumentation} {injector : Injector}
    {i : Instrumentation} {index : Nat}
    (h : .container injector i index ∈ Plan.of c injectors containers is) : i ∈ is :=
  (container_mem_iff.1 h).1

/-- With the standard injectors every step of a plan injects the Java agent, or nothing. -/
theorem isJava_of_mem {is : List Instrumentation} {v : Visit}
    (h : v ∈ Plan.of c .standard containers is) : v.IsJava := by
  cases v with
  | container injector i index =>
    obtain ⟨-, hlookup, -⟩ := container_mem_iff.1 h
    exact Injectors.eq_java_of_lookup hlookup
  | _ => trivial

/-! ### Containers by name -/

/-- The container of a number that a name leads to carries that name. -/
theorem name_of_indexOf? {name : String} {i : Nat} (h : indexOf? containers name = some i) :
    ∃ container, containers[i]? = some container ∧ container.name = name := by
  obtain ⟨hlt, hname, -⟩ := List.findIdx?_eq_some_iff_getElem.1 h
  exact ⟨containers[i], List.getElem?_eq_getElem hlt, by simpa using hname⟩

/-- Distinct names lead to distinct containers. -/
theorem indexOf?_injective {name name' : String} {i : Nat}
    (h : indexOf? containers name = some i) (h' : indexOf? containers name' = some i) :
    name = name' := by
  obtain ⟨container, hc, rfl⟩ := name_of_indexOf? h
  obtain ⟨container', hc', rfl⟩ := name_of_indexOf? h'
  rw [Option.some.inj (hc.symm.trans hc')]

theorem nodup_filterMap_indexOf? {names : List String} (h : names.Nodup) :
    (names.filterMap (indexOf? containers)).Nodup :=
  h.filterMap fun _ _ _ ↦ indexOf?_injective

/-! ### All containers but the sidecar -/

theorem le_of_mem_indexesFrom {i j : Nat} (h : j ∈ indexesFrom c i containers) : i ≤ j := by
  induction containers generalizing i with
  | nil => simp [indexesFrom] at h
  | cons container containers ih =>
    rw [indexesFrom] at h
    split at h
    · exact Nat.le_of_succ_le (ih h)
    · rcases List.mem_cons.1 h with rfl | h
      · exact Nat.le_refl _
      · exact Nat.le_of_succ_le (ih h)

theorem nodup_indexesFrom (i : Nat) : (indexesFrom c i containers).Nodup := by
  induction containers generalizing i with
  | nil => exact List.nodup_nil
  | cons container containers ih =>
    rw [indexesFrom]
    split
    · exact ih (i + 1)
    · exact List.nodup_cons.2 ⟨fun h ↦ absurd (le_of_mem_indexesFrom h) (by omega), ih (i + 1)⟩

/-! ### The visits of a whole plan -/

/-- The containers that one instrumentation visits: none where its runtime is not known. -/
theorem filterMap_index?_visits (i : Instrumentation) :
    (visits c injectors containers i).filterMap Visit.index? =
      if (injectors.lookup i.runtime).isSome then indexes c containers i.spec.containers
      else [] := by
  rw [visits]
  split
  · rename_i h
    simp [h, Visit.index?]
  · rename_i injector h
    have hcontainer : (fun index ↦ Visit.index? (.container injector i index)) = some := rfl
    have habsent : (fun name ↦ Visit.index? (.noSuchContainer name)) = fun _ ↦ none := rfl
    simp [h, List.filterMap_append, List.filterMap_map, hcontainer, habsent]

/-- One instrumentation visits no container twice if its names are distinct. -/
theorem nodup_indexes {list : String} (h : (Targets.names list).Nodup) :
    (indexes c containers list).Nodup := by
  rw [indexes]
  split
  · exact nodup_indexesFrom 0
  · exact nodup_filterMap_indexOf? h

/-- Where every list has names, what is visited comes from the names of all lists, in order. -/
theorem filterMap_index?_sublist {is : List Instrumentation}
    (h : ∀ i ∈ is, Targets.names i.spec.containers ≠ []) :
    ((Plan.of c injectors containers is).filterMap Visit.index?).Sublist
      ((Targets.allNames (Targets.listsOf is)).filterMap (indexOf? containers)) := by
  induction is with
  | nil => exact List.Sublist.refl _
  | cons i is ih =>
    simp only [Plan.of, Targets.allNames, Targets.listsOf, List.flatMap_cons, List.map_cons,
      List.filterMap_append] at ih ⊢
    refine List.Sublist.append ?_ (ih fun j hj ↦ h j (List.mem_cons_of_mem _ hj))
    rw [filterMap_index?_visits]
    split
    · have hnames := h i (List.mem_cons_self ..)
      rw [indexes]
      split
      · contradiction
      · exact List.Sublist.refl _
    · exact List.nil_sublist _

/-- **A plan for accepted targets visits no container twice.** -/
theorem nodup_filterMap_index? {is : List Instrumentation}
    (h : Targets.check (Targets.listsOf is) = .ok ()) :
    ((Plan.of c injectors containers is).filterMap Visit.index?).Nodup := by
  obtain ⟨hamb, hnd⟩ := Targets.check_eq_ok_iff.1 h
  by_cases hall : ∀ i ∈ is, Targets.names i.spec.containers ≠ []
  · exact (nodup_filterMap_indexOf? hnd).sublist (filterMap_index?_sublist hall)
  -- otherwise the one list without names stands alone
  · obtain ⟨i, hi, hblank⟩ : ∃ i ∈ is, Targets.names i.spec.containers = [] := by
      simpa using hall
    have hone := Targets.eq_singleton_of_not_isAmbiguous hamb
      (List.mem_map_of_mem (f := fun i : Instrumentation ↦ i.spec.containers) hi) hblank
    have hlen : is.length = 1 := by simpa [Targets.listsOf] using congrArg List.length hone
    obtain ⟨j, rfl⟩ := List.length_eq_one_iff.1 hlen
    obtain rfl := List.mem_singleton.1 hi
    rw [Plan.of, List.flatMap_singleton, filterMap_index?_visits]
    split
    · exact nodup_indexes (hblank ▸ List.nodup_nil)
    · exact List.nodup_nil

end Plan

end AgentGraft
