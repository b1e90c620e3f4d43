import AgentGraft.Java.Injection
import AgentGraft.Proofs.Environment.Lookup

/-!
# The variables of a container with the agent

An injection adds variables in three places: proposals that the policy admits, the options of the
virtual machine, and the marker. What comes out has one shape, `injectEnv_eq_append`: the variables
of the container in their places, with the agent at the end of its options if it declares them, and
behind them the `additions`.

Proposals are looked up in the view of the owner, the marker only in what the container declares. So
a variable that the owner sees keeps its first occurrence (`find?_injectEnv`), the options apart,
and the marker where it is imported.
-/

namespace AgentGraft.Java

variable {c : Config} {spec : JavaSpec} {view env front back : List EnvVar} {name other : String}
  {e : EnvVar} {f : EnvVar → EnvVar}

/-! ### Changing the first variable of a name -/

theorem updateFirst_of_not_declares (h : Env.declares name env = false) :
    updateFirst name f env = env := by
  induction env with
  | nil => rfl
  | cons e env ih =>
    rw [← Env.find?_eq_none_iff, Env.find?_cons] at h
    rw [updateFirst]
    split at h
    · cases h
    · next hne => rw [if_neg hne, ih (Env.find?_eq_none_iff.1 h)]

/-- What stands behind a declaration of the name is not reached. -/
theorem updateFirst_append_of_declares (h : Env.declares name front = true) :
    updateFirst name f (front ++ back) = updateFirst name f front ++ back := by
  induction front with
  | nil => cases h
  | cons e front ih =>
    rw [List.cons_append, updateFirst, updateFirst]
    by_cases hname : e.name = name
    · rw [if_pos hname, if_pos hname, List.cons_append]
    · have hfront : Env.declares name front = true := by
        rwa [Env.declares, Env.find?_cons, if_neg hname] at h
      rw [if_neg hname, if_neg hname, ih hfront, List.cons_append]

theorem updateFirst_append_of_not_declares (h : Env.declares name front = false) :
    updateFirst name f (front ++ back) = front ++ updateFirst name f back := by
  induction front with
  | nil => rfl
  | cons e front ih =>
    rw [← Env.find?_eq_none_iff, Env.find?_cons] at h
    rw [List.cons_append, updateFirst]
    split at h
    · cases h
    · next hne => rw [if_neg hne, ih (Env.find?_eq_none_iff.1 h), List.cons_append]

/-- A variable of the changed list is one of the list, or the first of the name changed. -/
theorem exists_of_mem_updateFirst (h : e ∈ updateFirst name f env) :
    e ∈ env ∨ ∃ e', Env.find? name env = some e' ∧ e = f e' := by
  induction env with
  | nil => exact .inl h
  | cons e' env ih =>
    rw [updateFirst] at h
    rw [Env.find?_cons]
    split at h
    · next hname =>
      rw [if_pos hname]
      rcases List.mem_cons.1 h with rfl | h
      · exact .inr ⟨e', rfl, rfl⟩
      · exact .inl (List.mem_cons_of_mem _ h)
    · next hne =>
      rw [if_neg hne]
      rcases List.mem_cons.1 h with rfl | h
      · exact .inl (List.mem_cons_self ..)
      · exact (ih h).imp_left (List.mem_cons_of_mem _)

/-- Names stay in their places if the change keeps them. -/
theorem map_name_updateFirst (hf : ∀ e, (f e).name = e.name) (env : List EnvVar) :
    (updateFirst name f env).map (·.name) = env.map (·.name) := by
  induction env with
  | nil => rfl
  | cons e env ih =>
    rw [updateFirst]
    split
    · rw [List.map_cons, List.map_cons, hf]
    · rw [List.map_cons, List.map_cons, ih]

theorem length_updateFirst (hf : ∀ e, (f e).name = e.name) (env : List EnvVar) :
    (updateFirst name f env).length = env.length := by
  have hnames : (updateFirst name f env).map (·.name) = env.map (·.name) :=
    map_name_updateFirst hf env
  simpa using congrArg List.length hnames

/-- Under the name itself the changed variable is found. -/
theorem find?_updateFirst (hf : ∀ e, (f e).name = e.name) (env : List EnvVar) :
    Env.find? name (updateFirst name f env) = (Env.find? name env).map f := by
  induction env with
  | nil => rfl
  | cons e env ih =>
    rw [updateFirst, Env.find?_cons]
    split
    · next hname => rw [Env.find?_cons, hf, if_pos hname, Option.map_some]
    · next hne => rw [Env.find?_cons, if_neg hne, ih]

/-- Under other names nothing is found differently. -/
theorem find?_updateFirst_of_ne (hf : ∀ e, (f e).name = e.name) (h : other ≠ name)
    (env : List EnvVar) : Env.find? other (updateFirst name f env) = Env.find? other env := by
  induction env with
  | nil => rfl
  | cons e env ih =>
    rw [updateFirst, Env.find?_cons]
    split
    · next hname =>
      have hne : e.name ≠ other := hname ▸ h.symm
      rw [Env.find?_cons, hf, if_neg hne, if_neg hne]
    · rw [Env.find?_cons, ih]

/-! ### Admitted proposals -/

theorem mem_of_mem_admitted {taken : List String} {es : List EnvVar}
    (h : e ∈ admitted c view taken es) : e ∈ es := by
  induction es generalizing taken with
  | nil => exact h
  | cons e' es ih =>
    rw [admitted] at h
    split at h
    · exact List.mem_cons_of_mem _ (ih h)
    · split at h
      · rcases List.mem_cons.1 h with rfl | h
        · exact List.mem_cons_self ..
        · exact List.mem_cons_of_mem _ (ih h)
      · exact List.mem_cons_of_mem _ (ih h)

/-- Only what the policy admits is added. -/
theorem admits_of_mem_admitted {taken : List String} {es : List EnvVar}
    (h : e ∈ admitted c view taken es) : Policy.admits c view e.name e.value = true := by
  induction es generalizing taken with
  | nil => cases h
  | cons e' es ih =>
    rw [admitted] at h
    split at h
    · exact ih h
    · split at h
      · next hadmits =>
        rcases List.mem_cons.1 h with rfl | h
        · exact hadmits
        · exact ih h
      · exact ih h

/-- **What is added under a name** is the first proposal of it that the policy admits. -/
theorem find?_admitted {taken : List String} (hname : name ∉ taken) (es : List EnvVar) :
    Env.find? name (admitted c view taken es) =
      es.find? fun e ↦ e.name == name && Policy.admits c view e.name e.value := by
  induction es generalizing taken with
  | nil => rfl
  | cons e es ih =>
    rw [admitted, List.find?_cons]
    by_cases he : e.name = name
    · subst he
      rw [if_neg (by simpa using hname), beq_self_eq_true, Bool.true_and]
      by_cases hadmits : Policy.admits c view e.name e.value = true
      · rw [if_pos hadmits, hadmits, Env.find?_cons, if_pos rfl]
      · rw [if_neg hadmits, ih hname]
        simp only [hadmits]
    · rw [beq_eq_false_iff_ne.2 he, Bool.false_and]
      have htaken : name ∉ e.name :: taken := by simp [Ne.symm he, hname]
      split
      · exact ih hname
      · split
        · rw [Env.find?_cons, if_neg he, ih htaken]
        · exact ih hname

/-- The policy admits no name that the owner sees. -/
theorem not_declares_of_admits {value : Option String}
    (h : Policy.admits c view name value = true) : Env.declares name view = false := by
  rw [Policy.admits, Bool.and_eq_true, Bool.not_eq_true'] at h
  exact h.1

theorem not_declares_admitted (h : Env.declares name view = true) (taken : List String)
    (es : List EnvVar) : Env.declares name (admitted c view taken es) = false := by
  by_contra hdecl
  rw [Bool.not_eq_false] at hdecl
  obtain ⟨e, he, rfl⟩ := Env.declares_iff.1 hdecl
  rw [not_declares_of_admits (admits_of_mem_admitted he)] at h
  cases h

/-! ### Options and marker -/

@[simp] theorem withAgent_name (e : EnvVar) : (withAgent e).name = e.name := rfl

@[simp] theorem marker_name (c : Config) : (marker c).name = c.markerVariable := rfl

theorem withOptions_append_of_declares (h : Env.declares toolOptions front = true) :
    withOptions view (front ++ back) = updateFirst toolOptions withAgent front ++ back := by
  rw [withOptions, Env.declares_append, h, Bool.true_or, if_pos rfl,
    updateFirst_append_of_declares h]

theorem withOptions_append_of_not_declares (h : Env.declares toolOptions front = false) :
    withOptions view (front ++ back) = front ++ withOptions view back := by
  rw [withOptions, withOptions, Env.declares_append, h, Bool.false_or]
  split
  · rw [updateFirst_append_of_not_declares h]
  · rw [List.append_assoc]

/-- Only the options are changed or added. -/
theorem find?_withOptions (h : name ≠ toolOptions) (env : List EnvVar) :
    Env.find? name (withOptions view env) = Env.find? name env := by
  rw [withOptions]
  split
  · exact find?_updateFirst_of_ne withAgent_name h env
  · refine Env.find?_append_of_not_declares (Env.find?_eq_none_iff.1 ?_)
    rw [Env.find?_cons, if_neg (show (EnvVar.literal toolOptions _).name ≠ name from h.symm),
      Env.find?_nil]

/-- Only the marker is added, and not where it is declared. -/
theorem find?_withMarker (h : name ≠ c.markerVariable ∨ Env.declares name env = true) :
    Env.find? name (withMarker c env) = Env.find? name env := by
  rw [withMarker]
  split
  · rfl
  · rcases h with h | h
    · refine Env.find?_append_of_not_declares (Env.find?_eq_none_iff.1 ?_)
      rw [Env.find?_cons, if_neg (marker_name c ▸ h.symm), Env.find?_nil]
    · exact Env.find?_append_of_declares h

/-! ### The whole -/

/-- **A variable that the owner sees keeps its first occurrence**, the options apart, and the marker
unless the container declares it. -/
theorem find?_injectEnv (hname : name ≠ toolOptions) (hview : Env.declares name view = true)
    (hmarker : name ≠ c.markerVariable ∨ Env.declares name env = true) :
    Env.find? name (injectEnv c spec view env) = Env.find? name env := by
  have hproposed : Env.find? name (env ++ admitted c view [] spec.env) = Env.find? name env :=
    Env.find?_append_of_not_declares (not_declares_admitted hview [] spec.env)
  have hoptions : Env.find? name (withOptions view (env ++ admitted c view [] spec.env)) =
      Env.find? name env := (find?_withOptions hname _).trans hproposed
  rw [injectEnv, find?_withMarker, hoptions]
  exact hmarker.imp_right fun h ↦ (Env.declares_congr hoptions).trans h

/-- The admitted proposals, and the options where the container declares none. -/
def proposed (c : Config) (spec : JavaSpec) (view env : List EnvVar) : List EnvVar :=
  if Env.declares toolOptions env then admitted c view [] spec.env
  else withOptions view (admitted c view [] spec.env)

/-- The variables that an injection puts behind those of the container. -/
def additions (c : Config) (spec : JavaSpec) (view env : List EnvVar) : List EnvVar :=
  if Env.declares c.markerVariable (env ++ proposed c spec view env) then
    proposed c spec view env
  else proposed c spec view env ++ [marker c]

theorem withOptions_eq_append : withOptions view (env ++ admitted c view [] spec.env) =
    updateFirst toolOptions withAgent env ++ proposed c spec view env := by
  rw [proposed]
  by_cases h : Env.declares toolOptions env = true
  · rw [withOptions_append_of_declares h, if_pos h]
  · rw [Bool.not_eq_true] at h
    rw [withOptions_append_of_not_declares h, updateFirst_of_not_declares h, h]
    rfl

/-- **The shape of the variables**: those of the container, with the agent in their options, and the
additions. -/
theorem injectEnv_eq_append : injectEnv c spec view env =
    updateFirst toolOptions withAgent env ++ additions c spec view env := by
  -- the change of the options keeps all names, so the marker is looked up with the same result
  have hmarker : Env.declares c.markerVariable
      (updateFirst toolOptions withAgent env ++ proposed c spec view env) =
        Env.declares c.markerVariable (env ++ proposed c spec view env) := by
    rw [Env.declares_append, Env.declares_append, Env.declares_eq_contains,
      Env.declares_eq_contains _ env, map_name_updateFirst withAgent_name]
  rw [injectEnv, withOptions_eq_append, withMarker, additions, hmarker]
  split
  · rfl
  · rw [List.append_assoc]

/-- What a container declares it declares with the agent. -/
theorem declares_injectEnv_of_declares (h : Env.declares name env = true) :
    Env.declares name (injectEnv c spec view env) = true := by
  rw [injectEnv_eq_append, Env.declares_append, Env.declares_eq_contains,
    map_name_updateFirst withAgent_name, ← Env.declares_eq_contains, h, Bool.true_or]

/-- The variables of the container keep their names and places. -/
theorem map_name_take_injectEnv : ((injectEnv c spec view env).take env.length).map (·.name) =
    env.map (·.name) := by
  rw [injectEnv_eq_append, List.take_left' (length_updateFirst withAgent_name env),
    map_name_updateFirst withAgent_name]

/-- What stands behind them are the additions. -/
theorem drop_injectEnv :
    (injectEnv c spec view env).drop env.length = additions c spec view env := by
  rw [injectEnv_eq_append, List.drop_left' (length_updateFirst withAgent_name env)]

theorem mem_withOptions (h : e ∈ withOptions view env) : e ∈ env ∨ e.name = toolOptions := by
  rw [withOptions] at h
  split at h
  · rcases exists_of_mem_updateFirst h with h | ⟨e', hfind, rfl⟩
    · exact .inl h
    · exact .inr (Env.mem_of_find?_eq_some hfind).2
  · rcases List.mem_append.1 h with h | h
    · exact .inl h
    · rw [List.mem_singleton.1 h]
      exact .inr rfl

theorem mem_proposed (h : e ∈ proposed c spec view env) :
    e ∈ admitted c view [] spec.env ∨ e.name = toolOptions := by
  rw [proposed] at h
  split at h
  · exact .inl h
  · exact mem_withOptions h

/-- **What is added** is a proposal that the policy admits, the options, or the marker. -/
theorem mem_additions (h : e ∈ additions c spec view env) :
    e ∈ admitted c view [] spec.env ∨ e.name = toolOptions ∨ e = marker c := by
  rw [additions] at h
  split at h
  · exact (mem_proposed h).imp_right .inl
  · rcases List.mem_append.1 h with h | h
    · exact (mem_proposed h).imp_right .inl
    · exact .inr (.inr (List.mem_singleton.1 h))

end AgentGraft.Java
