import AgentGraft.Proofs.Environment.Totality
import AgentGraft.Proofs.Policy.Dependence

/-!
# Bundles that agree

Bundles agree for the names that some sources import under (`Bundles.Agree`): they can be had alike,
hold the same keys, and the same value under each key that a source puts one of the names on. Values
under all other keys may differ. What a source expands to then differs in such values only, and
shadowing does not look at values, so the views of a container over both are alike
(`Bundles.Agree.alike_view`).
-/

namespace AgentGraft

/-! ### Keys behind a prefix -/

namespace Members

variable {key name start : String} {data : Members}

/-- A key is found behind its prefix. -/
theorem find?_map_append (start key : String) (data : Members) :
    find? (start ++ key) (data.map fun m ↦ (start ++ m.1, m.2)) = find? key data := by
  induction data with
  | nil => rfl
  | cons m data ih =>
    rw [List.map_cons, find?_cons, find?_cons, ih]
    by_cases h : key = m.1
    · rw [if_pos h, if_pos (congrArg (start ++ ·) h)]
    · rw [if_neg h, if_neg (mt (String.append_right_inj start).1 h)]

/-- Nothing else is found behind a prefix. -/
theorem find?_map_eq_none (h : ∀ key, name ≠ start ++ key) :
    find? name (data.map fun m ↦ (start ++ m.1, m.2)) = none := by
  rw [find?_eq_none_iff]
  rintro _ hm heq
  obtain ⟨m, -, rfl⟩ := List.mem_map.1 hm
  exact h m.1 heq.symm

end Members

namespace Environment

/-- **Sorting keeps what is found**: it leaves members of one key in their order. -/
theorem find?_sortKeys (key : String) (data : Contents) :
    Members.find? key (sortKeys data) = Members.find? key data := by
  induction data with
  | nil => rw [sortKeys, List.mergeSort_nil]
  | cons m data ih =>
    obtain ⟨front, back, hcons, hsorted, hfront⟩ :=
      List.mergeSort_cons le_key_trans le_key_total m data
    rw [sortKeys] at ih ⊢
    rw [hsorted, Members.find?_append] at ih
    rw [hcons, Members.find?_append, Members.find?_cons, Members.find?_cons, ← ih]
    by_cases hkey : key = m.1
    · -- the keys in front are smaller, so none of them is this one
      have hnone : Members.find? key front = none := by
        rw [Members.find?_eq_none_iff]
        intro b hb heq
        have hlt := hfront b hb
        simp [heq, hkey] at hlt
      rw [hnone, if_pos hkey, if_pos hkey, Option.none_or]
    · rw [if_neg hkey, if_neg hkey]

/-- **A name in an expansion** is a key behind the prefix, or is not there whatever the data are. -/
theorem find?_expansion (start name : String) :
    (∃ key, name = start ++ key ∧ ∀ data : Contents,
      Members.find? name ((sortKeys data).map fun m ↦ (start ++ m.1, m.2)) =
        Members.find? key data) ∨
    ∀ data : Contents,
      Members.find? name ((sortKeys data).map fun m ↦ (start ++ m.1, m.2)) = none := by
  by_cases hname : ∃ key, name = start ++ key
  · obtain ⟨key, rfl⟩ := hname
    exact .inl ⟨key, rfl, fun data ↦ by rw [Members.find?_map_append, find?_sortKeys]⟩
  · exact .inr fun data ↦ Members.find?_map_eq_none (not_exists.1 hname)

end Environment

/-! ### Contents that are alike -/

/-- The members have the same keys, and the same values under some of them. -/
structure Members.Alike (names : List String) (o o' : Members) : Prop where
  keys : ∀ name, (find? name o).isSome = (find? name o').isSome
  values : ∀ name ∈ names, find? name o = find? name o'

namespace Members.Alike

variable {names : List String} {o o' more more' : Members}

theorem refl (names : List String) (o : Members) : Alike names o o := ⟨fun _ ↦ rfl, fun _ _ ↦ rfl⟩

theorem append (h : Alike names o o') (hmore : Alike names more more') :
    Alike names (o ++ more) (o' ++ more') where
  keys name := by
    rw [find?_append, find?_append, Option.isSome_or, Option.isSome_or, h.keys, hmore.keys]
  values name hname := by
    rw [find?_append, find?_append, h.values name hname, hmore.values name hname]

/-- What is alike for every element is alike for all of them together. -/
theorem flatMap {α : Type} {l : List α} {f g : α → Members} (h : ∀ a ∈ l, Alike names (f a) (g a)) :
    Alike names (l.flatMap f) (l.flatMap g) := by
  induction l with
  | nil => exact refl names []
  | cons a l ih =>
    obtain ⟨ha, hl⟩ := List.forall_mem_cons.1 h
    exact ha.append (ih hl)

end Members.Alike

/-! ### Bundles that agree -/

/-- **The bundles agree** on which of them can be had, on their keys, and on the values of the keys
that some source puts one of the names on. -/
structure Bundles.Agree (b b' : Bundles) (ns : String) (names : List String)
    (sources : List EnvFromSource) : Prop where
  had : ∀ kind name, (∃ data, b kind ns name = .ok data) ↔ ∃ data, b' kind ns name = .ok data
  keys : ∀ kind name data data', b kind ns name = .ok data → b' kind ns name = .ok data' →
    ∀ key, (Members.find? key data).isSome = (Members.find? key data').isSome
  values : ∀ source ∈ sources, ∀ kind ref, source.bundle = some (kind, ref) →
    ∀ data data', b kind ns ref.name = .ok data → b' kind ns ref.name = .ok data' →
      ∀ key, source.keyPrefix.getD "" ++ key ∈ names →
        Members.find? key data = Members.find? key data'

namespace Bundles.Agree

variable {b b' : Bundles} {ns : String} {names : List String} {sources : List EnvFromSource}

/-- **A source expands alike.** -/
theorem alike_entries (h : b.Agree b' ns names sources) {source : EnvFromSource}
    (hsource : source ∈ sources) :
    Members.Alike names (b.entries ns source) (b'.entries ns source) := by
  rw [Bundles.entries, Bundles.entries]
  rcases hbundle : source.bundle with - | ⟨kind, ref⟩
  · exact .refl names []
  · dsimp only
    have hhad := h.had kind ref.name
    rcases hb : b kind ns ref.name with f | data <;>
      rcases hb' : b' kind ns ref.name with f' | data'
    · exact .refl names []
    · rw [hb, hb'] at hhad
      simp at hhad
    · rw [hb, hb'] at hhad
      simp at hhad
    · have hkeys := h.keys kind ref.name data data' hb hb'
      have hvalues := h.values source hsource kind ref hbundle data data' hb hb'
      refine ⟨fun name ↦ ?_, fun name hname ↦ ?_⟩
      · rcases Environment.find?_expansion (source.keyPrefix.getD "") name with
          ⟨key, -, hfind⟩ | hnone
        · rw [hfind, hfind, hkeys]
        · rw [hnone, hnone]
      · rcases Environment.find?_expansion (source.keyPrefix.getD "") name with
          ⟨key, rfl, hfind⟩ | hnone
        · rw [hfind, hfind, hvalues key hname]
        · rw [hnone, hnone]

/-- **The views of a container are alike.** -/
theorem alike_view (h : b.Agree b' ns names sources) {k : Container} (hk : k.envFrom ⊆ sources)
    {view view' : List EnvVar} (hview : b.view ns k = .ok view)
    (hview' : b'.view ns k = .ok view') :
    Env.Alike names view view' := by
  have halike : Members.Alike names (k.envFrom.flatMap (b.entries ns))
      (k.envFrom.flatMap (b'.entries ns)) :=
    .flatMap fun source hsource ↦ h.alike_entries (hk hsource)
  constructor
  · intro name
    rw [declares_of_view_eq_ok hview, declares_of_view_eq_ok hview', halike.keys]
  · intro name hname
    rw [find?_of_view_eq_ok hview, find?_of_view_eq_ok hview', halike.values name hname]

end Bundles.Agree

end AgentGraft
