import AgentGraft.Environment
import AgentGraft.Proofs.Environment.Lookup
import AgentGraft.Proofs.Value.Members

/-!
# Bundles that stay the same

A store may answer a read however it likes; one whose answers depend on nothing but what is read
*serves* fixed bundles. Over such a store the order and number of reads does not matter: the view of
a container is a function of the container (`Bundles.view`), and a resolution computes it whatever
the pass has read before, because the cache of a pass then never holds anything else than what a
read would yield (`Cache.Agrees`). All that this takes is that what the pass obtains, from its cache
or from a read, are these bundles (`Pass.Obtains`).

The view is one expansion of all sources put behind the declared variables, so what it shows under a
name is the first variable that is declared with it, else the first one expanded to it
(`find?_of_addKeys_eq_ok`).
-/

namespace AgentGraft

/-! ### Expansion -/

namespace Environment

variable {start name : String} {data more : Contents} {env env' view : List EnvVar}

/-- An outcome of reading values as an outcome of a pass. -/
def ofChecked : Checked (List EnvVar) → Except Failure (List EnvVar)
  | .ok view => .ok view
  | .bad issues => .error (.invalid issues)

theorem ofChecked_eq_ok_iff {r : Checked (List EnvVar)} :
    ofChecked r = .ok view ↔ r = .ok view := by
  cases r <;> simp [ofChecked]

/-- The order of keys is total and transitive, so that sorting by it has its laws. -/
theorem le_key_total (a b : String × Value) :
    (decide (a.1 ≤ b.1) || decide (b.1 ≤ a.1)) = true := by
  simpa using String.le_total a.1 b.1

theorem le_key_trans (a b c : String × Value) (hab : decide (a.1 ≤ b.1) = true)
    (hbc : decide (b.1 ≤ c.1) = true) : decide (a.1 ≤ c.1) = true :=
  decide_eq_true (String.le_trans (of_decide_eq_true hab) (of_decide_eq_true hbc))

/-- A prefix can be put in front of the keys beforehand. -/
theorem addKeys_prefixed (start : String) (data : Contents) (env : List EnvVar) :
    addKeys "" (data.map fun m ↦ (start ++ m.1, m.2)) env = addKeys start data env := by
  induction data generalizing env with
  | nil => rfl
  | cons m data ih =>
    obtain ⟨key, v⟩ := m
    simp only [List.map_cons, addKeys, String.empty_append, ih]

/-- Keys can be added in portions. -/
theorem addKeys_append (start : String) (data more : Contents) (env : List EnvVar) :
    addKeys start (data ++ more) env =
      match addKeys start data env with
      | .bad issues => .bad issues
      | .ok view => addKeys start more view := by
  induction data generalizing env with
  | nil => rfl
  | cons m data ih =>
    obtain ⟨key, v⟩ := m
    simp only [List.cons_append, addKeys]
    split
    · exact ih env
    · split
      · rfl
      · exact ih _

/-- What expands to nothing may as well not be there. -/
theorem flatMap_filter_of_eq_nil {α : Type} {f : α → Contents} {keeps : α → Bool} {l : List α}
    (h : ∀ a ∈ l, keeps a = false → f a = []) : (l.filter keeps).flatMap f = l.flatMap f := by
  induction l with
  | nil => rfl
  | cons a l ih =>
    have hrest := ih fun x hx ↦ h x (List.mem_cons_of_mem _ hx)
    rw [List.filter_cons]
    split
    · rw [List.flatMap_cons, hrest, List.flatMap_cons]
    · next hdrop =>
      rw [hrest, List.flatMap_cons, h a (List.mem_cons_self ..) (by simpa using hdrop),
        List.nil_append]

/-- Keys are added behind what is there. -/
theorem prefix_of_addKeys_eq_ok (h : addKeys start data env = .ok view) : env <+: view := by
  induction data generalizing env with
  | nil =>
    cases h
    exact List.prefix_rfl
  | cons m data ih =>
    obtain ⟨key, v⟩ := m
    rw [addKeys] at h
    split at h
    · exact ih h
    · split at h
      · cases h
      · exact (List.prefix_append _ _).trans (ih h)

/-- An imported variable carries its name. -/
theorem name_of_imported {v : Value} {e : EnvVar} (h : imported name v = .ok e) :
    e.name = name := by
  rw [imported] at h
  rcases hr : (Reader.text.nullable v).under (.key EnvVar.valueField.name) with value | issues
  · rw [hr] at h
    cases h
    rfl
  · rw [hr] at h
    cases h

/-- **What a view shows under a name**: what is declared, else the first key that yields it. -/
theorem find?_of_addKeys_eq_ok (h : addKeys "" data env = .ok view) (name : String) :
    Env.find? name view =
      (Env.find? name env).or
        ((Members.find? name data).bind fun v ↦ (imported name v).toOption) := by
  induction data generalizing env with
  | nil =>
    cases h
    simp
  | cons m data ih =>
    obtain ⟨key, v⟩ := m
    rw [addKeys, String.empty_append] at h
    rw [Members.find?_cons]
    split at h
    · next hdecl =>
      rw [ih h]
      by_cases hname : name = key
      · rw [hname, Option.or_of_isSome hdecl, Option.or_of_isSome hdecl]
      · rw [if_neg hname]
    · next hdecl =>
      split at h
      · cases h
      · next e he =>
        have hkey : e.name = key := name_of_imported he
        rw [ih h, Env.find?_append, Env.find?_cons, hkey, Env.find?_nil, Option.or_assoc]
        by_cases hname : name = key
        · subst hname
          rw [if_pos rfl, if_pos rfl, Option.some_or, Option.bind_some, he]
          rfl
        · rw [if_neg hname, if_neg (Ne.symm hname), Option.none_or]

/-- **What a view declares**: what was declared, and every key. -/
theorem declares_of_addKeys_eq_ok (h : addKeys "" data env = .ok view) (name : String) :
    Env.declares name view = (Env.declares name env || (Members.find? name data).isSome) := by
  induction data generalizing env with
  | nil =>
    cases h
    simp
  | cons m data ih =>
    obtain ⟨key, v⟩ := m
    rw [addKeys, String.empty_append] at h
    rw [Members.find?_cons]
    split at h
    · next hdecl =>
      rw [ih h]
      by_cases hname : name = key
      · rw [hname, hdecl, Bool.true_or, Bool.true_or]
      · rw [if_neg hname]
    · split at h
      · cases h
      · next e he =>
        have hlast : Env.declares name [e] = decide (name = key) := by
          rw [Env.declares, Env.find?_cons, name_of_imported he]
          by_cases hname : name = key <;> simp [hname, eq_comm]
        rw [ih h, Env.declares_append, hlast, Bool.or_assoc]
        by_cases hname : name = key <;> simp [hname]

/-- **More declarations never make a view fail**: they only keep keys from being read. -/
theorem exists_addKeys_eq_ok (h : addKeys "" data env = .ok view)
    (hmore : ∀ name, Env.declares name env = true → Env.declares name env' = true) :
    ∃ view', addKeys "" data env' = .ok view' := by
  induction data generalizing env env' with
  | nil => exact ⟨env', rfl⟩
  | cons m data ih =>
    obtain ⟨key, v⟩ := m
    rw [addKeys, String.empty_append] at h ⊢
    by_cases hdecl : Env.declares key env = true
    · rw [if_pos hdecl] at h
      rw [if_pos (hmore key hdecl)]
      exact ih h hmore
    · rw [if_neg hdecl] at h
      rcases he : imported key v with e | issues
      · rw [he] at h
        have hkey : e.name = key := name_of_imported he
        by_cases hdecl' : Env.declares key env' = true
        · rw [if_pos hdecl']
          -- the key is imported for `env` only, where it adds a name that `env'` has
          refine ih h fun name hname ↦ ?_
          rw [Env.declares_append, Bool.or_eq_true] at hname
          refine hname.elim (hmore name) fun hlast ↦ ?_
          obtain ⟨e', he', rfl⟩ := Env.declares_iff.1 hlast
          rw [List.mem_singleton.1 he', hkey]
          exact hdecl'
        · rw [if_neg hdecl']
          refine ih h fun name hname ↦ ?_
          rw [Env.declares_append, Bool.or_eq_true] at hname ⊢
          exact hname.imp_left (hmore name)
      · rw [he] at h
        cases h

end Environment

/-! ### Fixed bundles -/

/-- What every read of a bundle yields, by its kind, its namespace and its name: the contents, or
why it cannot be had. -/
abbrev Bundles := BundleKind → String → String → Except BundleFault Contents

/-- The store serves these bundles: what a read yields depends on what is read and on nothing else.
How long a read takes is left open. -/
def Store.Serves (store : Store) (b : Bundles) : Prop :=
  ∀ past read, (store.answer past read).outcome =
    match b read.kind read.ns read.name with
    | .ok data => .contents data
    | .error f => .fault f

/-- The store that serves bundles, each read in one second. -/
def Bundles.store (b : Bundles) : Store where
  available := true
  answer _ read := ⟨match b read.kind read.ns read.name with
    | .ok data => .contents data
    | .error f => .fault f, 1⟩

theorem Bundles.serves_store (b : Bundles) : b.store.Serves b := fun _ _ ↦ rfl

/-- Reads of a scope are reads of these bundles, and no deadline keeps them from being made. -/
structure Scope.Reads (s : Scope) (b : Bundles) : Prop where
  serves : s.store.Serves b
  deadline : s.deadline = none

/-- Reads that are made for some sources are reads of these bundles, and no deadline keeps them from
being made. What reads of other bundles yield is left open. -/
structure Scope.ReadsFor (s : Scope) (b : Bundles) (sources : List EnvFromSource) : Prop where
  serves : ∀ source ∈ sources, ∀ kind ref, source.bundle = some (kind, ref) →
    ∀ past timeout start, (s.store.answer past ⟨kind, s.ns, ref.name, timeout, start⟩).outcome =
      match b kind s.ns ref.name with
      | .ok data => .contents data
      | .error f => .fault f
  deadline : s.deadline = none

namespace Scope.ReadsFor

variable {s : Scope} {b : Bundles} {sources more : List EnvFromSource}

theorem of_reads (h : s.Reads b) (sources : List EnvFromSource) : s.ReadsFor b sources where
  serves _ _ kind ref _ past timeout start :=
    h.serves past ⟨kind, s.ns, ref.name, timeout, start⟩
  deadline := h.deadline

theorem mono (h : s.ReadsFor b sources) (hsub : more ⊆ sources) : s.ReadsFor b more where
  serves source hsource := h.serves source (hsub hsource)
  deadline := h.deadline

end Scope.ReadsFor

namespace Bundles

variable {b : Bundles} {ns : String}

/-- The entries of a source: the keys of its bundle in ascending order, behind the prefix of the
source. A source without a bundle that can be had has none. -/
def entries (b : Bundles) (ns : String) (source : EnvFromSource) : Contents :=
  match source.bundle with
  | none => []
  | some (kind, ref) =>
    match b kind ns ref.name with
    | .error _ => []
    | .ok data =>
      (Environment.sortKeys data).map fun m ↦ (source.keyPrefix.getD "" ++ m.1, m.2)

/-- The effective environment of a container: its variables, and behind them the entries of its
sources. -/
def view (b : Bundles) (ns : String) (c : Container) : Except Failure (List EnvVar) :=
  Environment.ofChecked (Environment.addKeys "" (c.envFrom.flatMap (b.entries ns)) c.env)

/-- A container shows what it declares. -/
theorem find?_of_view_eq_ok {c : Container} {view : List EnvVar} (h : b.view ns c = .ok view)
    (name : String) : Env.find? name view = (Env.find? name c.env).or
      ((Members.find? name (c.envFrom.flatMap (b.entries ns))).bind fun v ↦
        (Environment.imported name v).toOption) :=
  Environment.find?_of_addKeys_eq_ok (Environment.ofChecked_eq_ok_iff.1 h) name

/-- A view declares what the container declares, and what its sources expand to. -/
theorem declares_of_view_eq_ok {c : Container} {view : List EnvVar} (h : b.view ns c = .ok view)
    (name : String) : Env.declares name view = (Env.declares name c.env ||
      (Members.find? name (c.envFrom.flatMap (b.entries ns))).isSome) :=
  Environment.declares_of_addKeys_eq_ok (Environment.ofChecked_eq_ok_iff.1 h) name

/-- A view starts with what the container declares. -/
theorem prefix_of_view_eq_ok {c : Container} {view : List EnvVar} (h : b.view ns c = .ok view) :
    c.env <+: view :=
  Environment.prefix_of_addKeys_eq_ok (Environment.ofChecked_eq_ok_iff.1 h)

end Bundles

/-! ### Caches -/

/-- A cache holds only what a read of the bundles would yield. -/
def Cache.Agrees (cache : Cache) (b : Bundles) (ns : String) : Prop :=
  ∀ ⦃kind name data⦄, cache.find? kind name = some data → b kind ns name = .ok data

namespace Cache

variable {cache : Cache} {b : Bundles} {ns : String} {kind : BundleKind} {name : String}
  {data : Contents}

theorem agrees_empty (b : Bundles) (ns : String) : empty.Agrees b ns := by
  intro kind name data h
  simp [find?, empty] at h

theorem lookup_putEntry (key key' : BundleKind × String) (data : Contents)
    (es : List ((BundleKind × String) × Contents)) :
    (putEntry key data es).lookup key' = if key' = key then some data else es.lookup key' := by
  induction es with
  | nil =>
    by_cases h : key' = key
    · simp [putEntry, h]
    · simp [putEntry, List.lookup_cons, beq_eq_false_iff_ne.2 h, h]
  | cons e es ih =>
    obtain ⟨k, d⟩ := e
    rw [putEntry]
    by_cases h : key' = k
    · subst h
      by_cases hk : key' = key <;> simp [hk]
    · by_cases hk : k = key
      · subst hk
        simp [List.lookup_cons, beq_eq_false_iff_ne.2 h, h]
      · rw [if_neg hk, List.lookup_cons, List.lookup_cons, beq_eq_false_iff_ne.2 h]
        exact ih

/-- What is put into a cache is found there, and all else as before. -/
theorem find?_put (cache : Cache) (kind kind' : BundleKind) (name name' : String)
    (data : Contents) : (cache.put kind name data).find? kind' name' =
      if (kind', name') = (kind, name) then some data else cache.find? kind' name' :=
  lookup_putEntry _ _ data cache.entries

theorem Agrees.put (h : cache.Agrees b ns) (hdata : b kind ns name = .ok data) :
    (cache.put kind name data).Agrees b ns := by
  intro kind' name' data' hfind
  rw [find?_put] at hfind
  split at hfind
  · next heq =>
    cases heq
    cases hfind
    exact hdata
  · exact h hfind

end Cache

/-! ### Resolution -/

/-- **What a pass obtains for some sources is what the bundles say**: its cache holds nothing else,
and what the cache lacks is read of them, without a deadline to keep it from being read. -/
structure Pass.Obtains (p : Pass) (s : Scope) (b : Bundles) (sources : List EnvFromSource) :
    Prop where
  agrees : p.cache.Agrees b s.ns
  serves : ∀ source ∈ sources, ∀ kind ref, source.bundle = some (kind, ref) →
    p.cache.find? kind ref.name = none →
      ∀ past timeout start, (s.store.answer past ⟨kind, s.ns, ref.name, timeout, start⟩).outcome =
        match b kind s.ns ref.name with
        | .ok data => .contents data
        | .error f => .fault f
  deadline : s.deadline = none

theorem Scope.ReadsFor.obtains {s : Scope} {b : Bundles} {sources : List EnvFromSource} {p : Pass}
    (hs : s.ReadsFor b sources) (hp : p.cache.Agrees b s.ns) : p.Obtains s b sources where
  agrees := hp
  serves source hsource kind ref hbundle _ := hs.serves source hsource kind ref hbundle
  deadline := hs.deadline

namespace Environment

variable {s : Scope} {b : Bundles} {p : Pass} {view : List EnvVar} {sources : List EnvFromSource}

/-- **A fetch yields what the bundles say**, whether a read is made or not. -/
theorem fetch_of_obtains (hp : p.Obtains s b sources) {source : EnvFromSource}
    (hsource : source ∈ sources) {kind : BundleKind} {ref : BundleRef}
    (hbundle : source.bundle = some (kind, ref)) :
    (fetch s kind ref p).1 = .ok (b kind s.ns ref.name).toOption ∧
      (fetch s kind ref p).2.Obtains s b sources := by
  rw [fetch]
  split
  · next data hfind =>
    rw [hp.agrees hfind]
    exact ⟨rfl, hp.agrees, hp.serves, hp.deadline⟩
  · next hfind =>
    rw [hp.deadline]
    have houtcome :=
      hp.serves source hsource kind ref hbundle hfind p.world.reads none p.world.clock
    simp only [read, Store.ask, houtcome]
    rcases hb : b kind s.ns ref.name with f | data
    · exact ⟨rfl, hp.agrees, hp.serves, hp.deadline⟩
    · refine ⟨rfl, hp.agrees.put hb, fun source hsource kind' ref' hbundle hlacks ↦ ?_, hp.deadline⟩
      -- what is lacking now was lacking before
      refine hp.serves source hsource kind' ref' hbundle ?_
      have hput : (p.cache.put kind ref.name data).find? kind' ref'.name = none := hlacks
      rw [Cache.find?_put] at hput
      split at hput
      · cases hput
      · exact hput

theorem addSource_of_obtains (hp : p.Obtains s b sources) {source : EnvFromSource}
    (hsource : source ∈ sources) (view : List EnvVar) :
    (addSource s source view p).1 = ofChecked (addKeys "" (b.entries s.ns source) view) ∧
      (addSource s source view p).2.Obtains s b sources := by
  rw [addSource, Bundles.entries]
  rcases hbundle : source.bundle with - | ⟨kind, ref⟩
  · exact ⟨rfl, hp⟩
  · dsimp only
    obtain ⟨hfst, hobtains⟩ := fetch_of_obtains hp hsource hbundle
    rcases hf : fetch s kind ref p with ⟨r, p'⟩
    rw [hf] at hfst hobtains
    obtain rfl : r = _ := hfst
    rcases b kind s.ns ref.name with f | data
    · exact ⟨rfl, hobtains⟩
    · dsimp only [Except.toOption]
      rw [addKeys_prefixed]
      rcases addKeys (source.keyPrefix.getD "") (sortKeys data) view with view' | issues
      · exact ⟨rfl, hobtains⟩
      · exact ⟨rfl, hobtains⟩

theorem addSources_of_obtains (hp : p.Obtains s b sources) {more : List EnvFromSource}
    (hsub : more ⊆ sources) (view : List EnvVar) :
    (addSources s more view p).1 = ofChecked (addKeys "" (more.flatMap (b.entries s.ns)) view) ∧
      (addSources s more view p).2.Obtains s b sources := by
  induction more generalizing view p with
  | nil => exact ⟨rfl, hp⟩
  | cons source more ih =>
    obtain ⟨hsource, hmore⟩ := List.cons_subset.1 hsub
    obtain ⟨hfst, hobtains⟩ := addSource_of_obtains hp hsource view
    rw [addSources, List.flatMap_cons, addKeys_append]
    rcases ha : addSource s source view p with ⟨r, p'⟩
    rw [ha] at hfst hobtains
    obtain rfl : r = _ := hfst
    rcases addKeys "" (b.entries s.ns source) view with view' | issues
    · exact ih hobtains hmore view'
    · exact ⟨rfl, hobtains⟩

/-- **A resolution computes the view of its container** over the bundles that its pass obtains. -/
theorem resolve_of_obtains {c : Container} (hp : p.Obtains s b c.envFrom) :
    (resolve s c p).1 = b.view s.ns c ∧ (resolve s c p).2.Obtains s b c.envFrom := by
  obtain ⟨hfst, hobtains⟩ := addSources_of_obtains hp (List.Subset.refl _) c.env
  rw [resolve, Bundles.view]
  split
  · next hempty =>
    refine ⟨?_, hp⟩
    rw [List.isEmpty_iff.1 hempty]
    rfl
  · rw [← hfst]
    rcases ha : addSources s c.envFrom c.env p with ⟨f | view, p'⟩
    · rw [ha] at hobtains
      exact ⟨rfl, hobtains⟩
    · rw [ha] at hobtains
      exact ⟨rfl, hobtains.agrees, hobtains.serves, hobtains.deadline⟩

theorem addSources_of_readsFor (hs : s.ReadsFor b sources) (hp : p.cache.Agrees b s.ns)
    (view : List EnvVar) :
    (addSources s sources view p).1 =
        ofChecked (addKeys "" (sources.flatMap (b.entries s.ns)) view) ∧
      (addSources s sources view p).2.cache.Agrees b s.ns := by
  obtain ⟨hfst, hobtains⟩ := addSources_of_obtains (hs.obtains hp) (List.Subset.refl _) view
  exact ⟨hfst, hobtains.agrees⟩

/-- **Over fixed bundles a resolution computes the view of its container**, and the cache goes on
holding nothing but what a read would yield. -/
theorem resolve_of_readsFor {c : Container} (hs : s.ReadsFor b c.envFrom)
    (hp : p.cache.Agrees b s.ns) :
    (resolve s c p).1 = b.view s.ns c ∧ (resolve s c p).2.cache.Agrees b s.ns := by
  obtain ⟨hview, hobtains⟩ := resolve_of_obtains (hs.obtains hp)
  exact ⟨hview, hobtains.agrees⟩

/-- So it does where all bundles of the store are fixed. -/
theorem resolve_of_reads (hs : s.Reads b) (hp : p.cache.Agrees b s.ns) (c : Container) :
    (resolve s c p).1 = b.view s.ns c ∧ (resolve s c p).2.cache.Agrees b s.ns :=
  resolve_of_readsFor (.of_reads hs c.envFrom) hp

end Environment

end AgentGraft
