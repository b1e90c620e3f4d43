import AgentGraft.Proofs.Environment.Bundles

/-!
# Resolutions that cannot fail

Two things end a resolution: a store that breaks down, and a value that no variable can have. A
store that *yields texts* does neither. It may fail to have a bundle, change its mind between two
reads and take as long as it likes; over it every container has a view (`exists_resolve_eq_ok`),
whatever the deadline is.
-/

namespace AgentGraft

/-- All values of a bundle are texts. -/
def Contents.IsText (data : Contents) : Prop := ∀ m ∈ data, ∃ text, m.2 = .str text

/-- A read ends with texts, or with a fault that stores are made for. -/
def Outcome.IsText : Outcome → Prop
  | .contents data => Contents.IsText data
  | .fault _ => True
  | .breakdown _ => False

/-- Every read ends so. -/
def Store.YieldsText (store : Store) : Prop := ∀ past read, (store.answer past read).outcome.IsText

/-- All bundles that can be had are texts. -/
def Bundles.IsText (b : Bundles) : Prop :=
  ∀ ⦃kind ns name data⦄, b kind ns name = .ok data → Contents.IsText data

/-- A store that serves texts yields texts. -/
theorem Store.Serves.yieldsText {store : Store} {b : Bundles} (h : store.Serves b)
    (htext : b.IsText) : store.YieldsText := by
  intro past read
  rw [h past read]
  rcases hb : b read.kind read.ns read.name with f | data
  · trivial
  · exact htext hb

/-- All bundles of a cache are texts. -/
def Cache.IsText (cache : Cache) : Prop :=
  ∀ ⦃kind name data⦄, cache.find? kind name = some data → Contents.IsText data

theorem Cache.isText_empty : Cache.empty.IsText := by
  intro kind name data h
  simp [Cache.find?, Cache.empty] at h

theorem Cache.IsText.put {cache : Cache} (h : cache.IsText) (kind : BundleKind) (name : String)
    {data : Contents} (hdata : Contents.IsText data) : (cache.put kind name data).IsText := by
  intro kind' name' data' hfind
  rw [Cache.find?_put] at hfind
  split at hfind
  · cases hfind
    exact hdata
  · exact h hfind

namespace Environment

variable {s : Scope} {p : Pass}

/-- A text is the value of a variable. -/
theorem imported_str (name text : String) :
    imported name (.str text) = .ok ⟨name, some text, none, []⟩ := rfl

theorem exists_addKeys_eq_ok_of_isText {data : Contents} (h : Contents.IsText data)
    (start : String) (env : List EnvVar) : ∃ view, addKeys start data env = .ok view := by
  induction data generalizing env with
  | nil => exact ⟨env, rfl⟩
  | cons m data ih =>
    obtain ⟨key, v⟩ := m
    have hdata : Contents.IsText data := fun m hm ↦ h m (List.mem_cons_of_mem _ hm)
    obtain ⟨text, rfl⟩ : ∃ text, v = .str text := h (key, v) (List.mem_cons_self ..)
    rw [addKeys, imported_str]
    split
    · exact ih hdata env
    · exact ih hdata _

/-- A fetch ends with texts or without a bundle. -/
theorem exists_fetch_eq_ok (hs : s.store.YieldsText) (hp : p.cache.IsText) (kind : BundleKind)
    (ref : BundleRef) : ∃ data p', fetch s kind ref p = (.ok data, p') ∧ p'.cache.IsText ∧
      ∀ d ∈ data, Contents.IsText d := by
  have hnone : ∀ d ∈ (none : Option Contents), Contents.IsText d := by simp
  have hread (timeout : Option Int) : ∃ data p', read s kind ref timeout p = (.ok data, p') ∧
      p'.cache.IsText ∧ ∀ d ∈ data, Contents.IsText d := by
    have houtcome := hs p.world.reads ⟨kind, s.ns, ref.name, timeout, p.world.clock⟩
    simp only [read, Store.ask]
    generalize (s.store.answer _ _).outcome = outcome at houtcome ⊢
    rcases outcome with data | f | b
    · exact ⟨some data, _, rfl, hp.put kind ref.name houtcome,
        fun d hd ↦ Option.mem_some.1 hd ▸ houtcome⟩
    · exact ⟨none, _, rfl, hp, hnone⟩
    · exact houtcome.elim
  rw [fetch]
  split
  · next data hfind =>
    exact ⟨some data, _, rfl, hp, fun d hd ↦ Option.mem_some.1 hd ▸ hp hfind⟩
  · split
    · exact hread none
    · next deadline _ =>
      split
      · exact ⟨none, _, rfl, hp, hnone⟩
      · exact hread (some (deadline - p.world.clock))

theorem exists_addSource_eq_ok (hs : s.store.YieldsText) (hp : p.cache.IsText)
    (source : EnvFromSource) (view : List EnvVar) :
    ∃ view' p', addSource s source view p = (.ok view', p') ∧ p'.cache.IsText := by
  rw [addSource]
  rcases source.bundle with - | ⟨kind, ref⟩
  · exact ⟨view, p, rfl, hp⟩
  · obtain ⟨data, p', hfetch, hcache, hdata⟩ := exists_fetch_eq_ok hs hp kind ref
    simp only [hfetch]
    rcases data with - | data
    · exact ⟨view, p', rfl, hcache⟩
    · -- sorting the keys keeps the values
      have hsorted : Contents.IsText (sortKeys data) := fun m hm ↦
        hdata data rfl m ((List.mergeSort_perm _ _).mem_iff.1 hm)
      obtain ⟨view', hview'⟩ :=
        exists_addKeys_eq_ok_of_isText hsorted (source.keyPrefix.getD "") view
      exact ⟨view', p', by simp only [hview'], hcache⟩

theorem exists_addSources_eq_ok (hs : s.store.YieldsText) (hp : p.cache.IsText)
    (sources : List EnvFromSource) (view : List EnvVar) :
    ∃ view' p', addSources s sources view p = (.ok view', p') ∧ p'.cache.IsText := by
  induction sources generalizing view p with
  | nil => exact ⟨view, p, rfl, hp⟩
  | cons source sources ih =>
    obtain ⟨view₁, p₁, hfirst, hcache₁⟩ := exists_addSource_eq_ok hs hp source view
    obtain ⟨view', p', hrest, hcache⟩ := ih hcache₁ view₁
    exact ⟨view', p', by simp only [addSources, hfirst, hrest], hcache⟩

/-- **Over a store that yields texts every container has a view.** -/
theorem exists_resolve_eq_ok (hs : s.store.YieldsText) (hp : p.cache.IsText) (c : Container) :
    ∃ view p', resolve s c p = (.ok view, p') ∧ p'.cache.IsText := by
  rw [resolve]
  split
  · exact ⟨c.env, p, rfl, hp⟩
  · obtain ⟨view, p', hview, hcache⟩ := exists_addSources_eq_ok hs hp c.envFrom c.env
    exact ⟨view, p'.note [resolvedLine c view], by simp only [hview], hcache⟩

end Environment

/-- Over bundles of texts every container has a view. -/
theorem Bundles.IsText.exists_view_eq_ok {b : Bundles} (h : b.IsText) (ns : String)
    (c : Container) : ∃ view, b.view ns c = .ok view := by
  let s : Scope := ⟨b.store, ns, none⟩
  obtain ⟨view, p, hresolve, -⟩ :=
    Environment.exists_resolve_eq_ok (s := s) (p := .start (.start 0))
    (b.serves_store.yieldsText h) Cache.isText_empty c
  have hview := (Environment.resolve_of_reads (s := s) (p := .start (.start 0))
    ⟨b.serves_store, rfl⟩ (Cache.agrees_empty b ns) c).1
  rw [hresolve] at hview
  exact ⟨view, hview.symm⟩

end AgentGraft
