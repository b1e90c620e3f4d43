import AgentGraft.Proofs.Environment.Replies
import AgentGraft.Proofs.Environment.Snapshots

/-!
# Resolutions over a cluster

A cluster may have no such bundle, refuse it, or have a secret that cannot be decoded. That costs a
container the sources of the bundle and nothing else, so its view is the view without these sources,
except for the one reply at which decoding breaks down (`Secret.BreaksDown`): at that one the
resolution ends. `resolve_of_cluster` says so of clusters that change their mind from read to read
and of clusters that do not.
-/

namespace AgentGraft

/-! ### Sources that get nothing -/

/-- The bundles that a cache holds. -/
def Cache.bundles (cache : Cache) : Bundles := fun kind ns name ↦
  match cache.find? kind name with
  | some data => .ok data
  | none => .error ⟨true, kind.name, ns, name, ""⟩

/-- The container with other sources. -/
def Container.importing (k : Container) (sources : List EnvFromSource) : Container :=
  { k with envFrom := sources }

/-- The sources of the supplies that hold contents. -/
def Supply.obtained (us : List Supply) : List EnvFromSource :=
  (us.filter (·.data.isSome)).map (·.source)

theorem Supply.obtained_cons (u : Supply) (us : List Supply) :
    obtained (u :: us) = if u.data.isSome then u.source :: obtained us else obtained us := by
  rw [obtained, List.filter_cons]
  split <;> rfl

theorem Bundles.view_importing (b : Bundles) (ns : String) (k : Container)
    (sources : List EnvFromSource) : b.view ns (k.importing sources) =
      Environment.ofChecked (Environment.addKeys "" (sources.flatMap (b.entries ns)) k.env) := rfl

namespace Environment

variable {s : Scope} {b : Bundles} {p : Pass} {k : Container} {view : List EnvVar} {ns : String}
  {us : List Supply}

/-- **Supplies are expanded from what they hold**: those that hold nothing may as well not be
there. -/
theorem flatMap_entries_eq_obtained (hb : ∀ u ∈ us, ∀ data, u.data = some data →
      ∃ kind ref, u.source.bundle = some (kind, ref) ∧ b kind ns ref.name = .ok data) :
    us.flatMap Supply.entries = (Supply.obtained us).flatMap (b.entries ns) := by
  induction us with
  | nil => rfl
  | cons u us ih =>
    have hrest := ih fun v hv ↦ hb v (List.mem_cons_of_mem _ hv)
    rw [List.flatMap_cons, hrest, Supply.obtained_cons]
    rcases hu : u.data with - | data
    · simp [Supply.entries, hu]
    · obtain ⟨kind, ref, hsource, hdata⟩ := hb u (List.mem_cons_self ..) data hu
      simp [Supply.entries, Bundles.entries, hu, hsource, hdata]

/-- **The view of a resolution is that of the sources that got something**, over the bundles that
its cache holds in the end. -/
theorem view_obtained_of_resolve_eq_ok (w : World)
    (h : (resolve s k (.start w)).1 = .ok view) :
    (resolve s k (.start w)).2.cache.bundles.view s.ns
      (k.importing (Supply.obtained (supplies s k.envFrom k.env (.start w)))) = .ok view := by
  obtain ⟨made, hrecalls, hsees⟩ := exists_recalls_resolve (.start s.store s.ns w) k
  rw [Bundles.view_importing, ← flatMap_entries_eq_obtained fun u hu data hdata ↦ ?_]
  · exact ofChecked_eq_ok_iff.2 (hsees.expanded view h).2
  · obtain ⟨seen, hprefix, -, hsnap⟩ := hsees.supplied u hu
    obtain ⟨kind, ref, hbundle, hyields⟩ := (hsnap data).1 hdata
    -- what had been read when the source came up is still in the cache in the end
    have hcache := (hrecalls.cache kind ref.name data).2 (hyields.mono hprefix)
    exact ⟨kind, ref, hbundle, by simp only [Cache.bundles, hcache]⟩

/-- Sources can be added in portions. -/
theorem addSources_append (s : Scope) (sources more : List EnvFromSource) (view : List EnvVar)
    (p : Pass) : addSources s (sources ++ more) view p =
      match addSources s sources view p with
      | (.error f, p) => (.error f, p)
      | (.ok view, p) => addSources s more view p := by
  induction sources generalizing view p with
  | nil => rfl
  | cons source sources ih =>
    rw [List.cons_append, addSources, addSources]
    rcases addSource s source view p with ⟨f | view', p'⟩
    · rfl
    · exact ih view' p'

/-- A read that breaks down ends the resolution. -/
theorem addSource_of_breakdown {source : EnvFromSource} {kind : BundleKind} {ref : BundleRef}
    {breakdown : Breakdown} (hs : s.deadline = none) (hsource : source.bundle = some (kind, ref))
    (hcache : p.cache.find? kind ref.name = none)
    (hanswer : ∀ past timeout start,
      (s.store.answer past ⟨kind, s.ns, ref.name, timeout, start⟩).outcome = .breakdown breakdown)
    (view : List EnvVar) : (addSource s source view p).1 = .error (.breakdown breakdown) := by
  have hfetch : (fetch s kind ref p).1 = .error (.breakdown breakdown) := by
    rw [fetch, hcache, hs]
    simp only [read, Store.ask, hanswer]
  rw [addSource, hsource]
  dsimp only
  rcases hf : fetch s kind ref p with ⟨r, p'⟩
  rw [hf] at hfetch
  obtain rfl : r = _ := hfetch
  rfl

end Environment

/-! ### Clusters -/

/-- What every read of a bundle is answered with, by its kind, its namespace and its name. -/
abbrev Replies := BundleKind → String → String → ClusterReply

namespace Replies

/-- The source refers to a secret at which decoding breaks down. -/
def BreaksDown (replies : Replies) (ns : String) (source : EnvFromSource) : Prop :=
  ∃ kind ref, source.bundle = some (kind, ref) ∧ (replies kind ns ref.name).BreaksDown kind

/-- The bundle of the source can be fetched and decoded. -/
def isObtainable (replies : Replies) (ns : String) (source : EnvFromSource) : Bool :=
  source.bundle.any fun (kind, ref) ↦ (replies kind ns ref.name).isObtainable kind

/-- The bundles that can be fetched and decoded. -/
def bundles (replies : Replies) : Bundles := fun kind ns name ↦
  match Cluster.outcome ⟨kind, ns, name, none, 0⟩ (replies kind ns name) with
  | .contents data => .ok data
  | .fault f => .error f
  | .breakdown _ => .error ⟨false, kind.name, ns, name, ""⟩

end Replies

namespace Cluster

variable {c : Cluster} {replies : Replies} {ns : String} {k : Container}

/-- All data of objects are texts. -/
def HoldsText (c : Cluster) : Prop := ∀ past read, (c past read).1.IsText

/-- The cluster does not change: a read is answered by what is read and by nothing else. -/
def Gives (c : Cluster) (replies : Replies) : Prop :=
  ∀ past read, (c past read).1 = replies read.kind read.ns read.name

/-- Resolutions over the cluster, without a deadline. -/
def scope (c : Cluster) (ns : String) : Scope := ⟨c.store, ns, none⟩

/-- What a reply means depends on what is read alone. -/
theorem outcome_congr (reply : ClusterReply) {r r' : Read} (hkind : r.kind = r'.kind)
    (hns : r.ns = r'.ns) (hname : r.name = r'.name) : outcome r reply = outcome r' reply := by
  obtain ⟨kind, ns, name, timeout, start⟩ := r
  obtain ⟨kind', ns', name', timeout', start'⟩ := r'
  obtain rfl : kind = kind' := hkind
  obtain rfl : ns = ns' := hns
  obtain rfl : name = name' := hname
  rfl

/-- Where no reply breaks down, the store over a cluster of texts yields texts. -/
theorem yieldsText_store (hc : c.HoldsText)
    (hsafe : ∀ past read, ¬(c past read).1.BreaksDown read.kind) : c.store.YieldsText := by
  intro past read
  show (outcome read (c past read).1).IsText
  rcases (c past read).1.outcome_cases (hc past read) read with
    ⟨hdown, -⟩ | ⟨-, ⟨data, -, houtcome, hdata⟩ | ⟨f, -, houtcome⟩⟩
  · exact absurd hdown (hsafe past read)
  · rw [houtcome]
    exact hdata
  · rw [houtcome]
    trivial

end Cluster

/-! ### Clusters that do not change -/

namespace Cluster.Gives

variable {c : Cluster} {replies : Replies} {ns : String} {k : Container}

/-- **What is read of a cluster that does not change**: a breakdown, or texts if the bundle can be
obtained, or a fault, whenever it is read. -/
theorem answer_cases (hgives : c.Gives replies) (hc : c.HoldsText) (kind : BundleKind)
    (ns name : String) : ∃ outcome,
    (∀ past timeout start,
      (c.store.answer past ⟨kind, ns, name, timeout, start⟩).outcome = outcome) ∧
    ((replies kind ns name).BreaksDown kind ∧ outcome = .breakdown .nonAsciiText ∧
        (∃ f, replies.bundles kind ns name = .error f) ∨
      ¬(replies kind ns name).BreaksDown kind ∧
        ((∃ data, (replies kind ns name).isObtainable kind = true ∧ outcome = .contents data ∧
            replies.bundles kind ns name = .ok data ∧ Contents.IsText data) ∨
          ∃ f, (replies kind ns name).isObtainable kind = false ∧ outcome = .fault f ∧
            replies.bundles kind ns name = .error f)) := by
  have htext : (replies kind ns name).IsText := by
    have h := hc [] ⟨kind, ns, name, none, 0⟩
    rwa [hgives] at h
  refine ⟨outcome ⟨kind, ns, name, none, 0⟩ (replies kind ns name), fun past timeout start ↦ ?_, ?_⟩
  · rw [← hgives past ⟨kind, ns, name, timeout, start⟩]
    exact outcome_congr _ rfl rfl rfl
  · simp only [Replies.bundles]
    rcases ClusterReply.outcome_cases htext ⟨kind, ns, name, none, 0⟩ with
      ⟨hdown, houtcome⟩ | ⟨hsafe, ⟨data, hobtainable, houtcome, hdata⟩ | ⟨f, hobtainable, houtcome⟩⟩
    · exact .inl ⟨hdown, houtcome, _, by rw [houtcome]⟩
    · exact .inr ⟨hsafe, .inl ⟨data, hobtainable, houtcome, by rw [houtcome], hdata⟩⟩
    · exact .inr ⟨hsafe, .inr ⟨f, hobtainable, houtcome, by rw [houtcome]⟩⟩

variable (hgives : c.Gives replies) (hc : c.HoldsText)

include hgives hc

/-- The bundles that can be obtained hold texts. -/
theorem isText_bundles : replies.bundles.IsText := by
  intro kind ns name data hdata
  obtain ⟨-, -, ⟨-, -, f, hb⟩ | ⟨-, ⟨data', -, -, hb, htext⟩ | ⟨f, -, -, hb⟩⟩⟩ :=
    hgives.answer_cases hc kind ns name
  · rw [hb] at hdata
    cases hdata
  · rw [hb] at hdata
    cases hdata
    exact htext
  · rw [hb] at hdata
    cases hdata

/-- A source whose bundle cannot be obtained has no entries. -/
theorem entries_of_not_isObtainable {source : EnvFromSource}
    (h : replies.isObtainable ns source = false) : replies.bundles.entries ns source = [] := by
  rw [Replies.isObtainable] at h
  rw [Bundles.entries]
  rcases hbundle : source.bundle with - | ⟨kind, ref⟩
  · rfl
  · rw [hbundle] at h
    dsimp only [Option.any_some] at h ⊢
    obtain ⟨-, -, ⟨-, -, f, hb⟩ | ⟨-, ⟨data, hobtainable, -⟩ | ⟨f, -, -, hb⟩⟩⟩ :=
      hgives.answer_cases hc kind ns ref.name
    · rw [hb]
    · rw [h] at hobtainable
      cases hobtainable
    · rw [hb]

/-- Sources at which nothing breaks down are read from the bundles that can be obtained. -/
theorem readsFor_scope {sources : List EnvFromSource}
    (hsafe : ∀ source ∈ sources, ¬replies.BreaksDown ns source) :
    (c.scope ns).ReadsFor replies.bundles sources where
  serves source hsource kind ref hbundle past timeout start := by
    obtain ⟨outcome, hanswer,
      ⟨hdown, -⟩ | ⟨-, ⟨data, -, houtcome, hb, -⟩ | ⟨f, -, houtcome, hb⟩⟩⟩ :=
      hgives.answer_cases hc kind (c.scope ns).ns ref.name
    · exact absurd ⟨kind, ref, hbundle, hdown⟩ (hsafe source hsource)
    · rw [hb]
      exact (hanswer past timeout start).trans houtcome
    · rw [hb]
      exact (hanswer past timeout start).trans houtcome
  deadline := rfl

/-- Without the sources whose bundles cannot be obtained a container has the same view. -/
theorem view_filter_isObtainable :
    replies.bundles.view ns (k.importing (k.envFrom.filter (replies.isObtainable ns))) =
      replies.bundles.view ns k := by
  rw [Bundles.view_importing, Environment.flatMap_filter_of_eq_nil fun source _ h ↦
    entries_of_not_isObtainable hgives hc h, Bundles.view]

/-- **Where nothing breaks down**, a container has a view, and the same one without the sources
whose bundles cannot be obtained. -/
theorem exists_resolve_eq_ok (hsafe : ∀ source ∈ k.envFrom, ¬replies.BreaksDown ns source) :
    ∃ view, ∀ w, (Environment.resolve (c.scope ns) k (.start w)).1 = .ok view ∧
      (Environment.resolve (c.scope ns)
        (k.importing (k.envFrom.filter (replies.isObtainable ns))) (.start w)).1 = .ok view := by
  obtain ⟨view, hview⟩ := (hgives.isText_bundles hc).exists_view_eq_ok ns k
  have hreads := hgives.readsFor_scope hc hsafe
  refine ⟨view, fun w ↦ ⟨?_, ?_⟩⟩
  · rw [(Environment.resolve_of_readsFor hreads (Cache.agrees_empty _ _)).1]
    exact hview
  · rw [(Environment.resolve_of_readsFor (hreads.mono (List.filter_subset_self _))
      (Cache.agrees_empty _ _)).1]
    exact (hgives.view_filter_isObtainable hc).trans hview

/-- **Where something breaks down**, so does the resolution. -/
theorem resolve_eq_breakdown (hdown : ∃ source ∈ k.envFrom, replies.BreaksDown ns source)
    (w : World) :
    (Environment.resolve (c.scope ns) k (.start w)).1 = .error (.breakdown .nonAsciiText) := by
  classical
  -- the sources up to the first one at which something breaks down
  obtain ⟨front, culprit, back, hsources, ⟨kind, ref, hbundle, hculprit⟩, hfront⟩ :
      ∃ front culprit back, k.envFrom = front ++ culprit :: back ∧ replies.BreaksDown ns culprit ∧
        ∀ source ∈ front, ¬replies.BreaksDown ns source := by
    have hfind : (k.envFrom.find? fun source ↦ replies.BreaksDown ns source).isSome := by
      simpa using hdown
    obtain ⟨culprit, hculprit⟩ := Option.isSome_iff_exists.1 hfind
    obtain ⟨hdown, front, back, hsplit, hfront⟩ := List.find?_eq_some_iff_append.1 hculprit
    exact ⟨front, culprit, back, hsplit, by simpa using hdown, by simpa using hfront⟩
  obtain ⟨outcome, hanswer, ⟨-, rfl, f, hb⟩ | ⟨hsafe, -⟩⟩ := hgives.answer_cases hc kind ns ref.name
  swap
  · exact absurd hculprit hsafe
  obtain ⟨hfst, hcache⟩ := Environment.addSources_of_readsFor (p := .start w)
    (hgives.readsFor_scope hc hfront) (Cache.agrees_empty _ _) k.env
  obtain ⟨view, hview⟩ :=
    (hgives.isText_bundles hc).exists_view_eq_ok ns (k.importing front)
  rw [(Environment.resolve_eq_addSources _ k _).1, hsources, Environment.addSources_append]
  rcases ha : Environment.addSources (c.scope ns) front k.env (.start w) with ⟨r, p⟩
  rw [ha] at hfst hcache
  obtain rfl : r = .ok view := hfst.trans hview
  dsimp only
  -- the cache holds what can be obtained, so it does not hold the bundle of the culprit
  have hnone : p.cache.find? kind ref.name = none := by
    rcases hfind : p.cache.find? kind ref.name with - | data
    · rfl
    · have hdata : replies.bundles kind ns ref.name = .ok data := hcache hfind
      rw [hb] at hdata
      cases hdata
  have hend := Environment.addSource_of_breakdown (s := c.scope ns) rfl hbundle hnone hanswer view
  rw [Environment.addSources]
  rcases hculprit' : Environment.addSource (c.scope ns) culprit view p with ⟨r, p'⟩
  rw [hculprit'] at hend
  obtain rfl : r = _ := hend
  rfl

end Cluster.Gives

/-- **What a cluster costs a container.** A bundle that cannot be fetched or decoded costs it the
sources of that bundle, unless it is a secret whose first value that cannot be decoded has a
character outside ASCII: at that one the resolution ends.

If no reply of a cluster is such a secret, however often the cluster changes its mind, there is a
view, and it is the one of the sources that got something (`Supply.IsSnapshot` says which ones do).
Of a cluster that does not change it can be told beforehand which ones these are, and it takes such
a secret behind a source for a container to have no view. -/
theorem resolve_of_cluster (c : Cluster) (hc : c.HoldsText) (ns : String) (k : Container)
    (w : World) :
    ((∀ past read, ¬(c past read).1.BreaksDown read.kind) →
      ∃ view made,
        (Environment.resolve (c.scope ns) k (.start w)).1 = .ok view ∧
        Resolved.SeesSnapshots c.store w.reads made ⟨k, .ok view,
          Environment.supplies (c.scope ns) k.envFrom k.env (.start w)⟩ ∧
        (Environment.resolve (c.scope ns) k (.start w)).2.cache.bundles.view ns
          (k.importing (Supply.obtained
            (Environment.supplies (c.scope ns) k.envFrom k.env (.start w)))) = .ok view) ∧
    ∀ replies, c.Gives replies →
      ((∀ source ∈ k.envFrom, ¬replies.BreaksDown ns source) →
        ∃ view, ∀ w, (Environment.resolve (c.scope ns) k (.start w)).1 = .ok view ∧
          (Environment.resolve (c.scope ns)
            (k.importing (k.envFrom.filter (replies.isObtainable ns))) (.start w)).1 =
              .ok view) ∧
      ((∃ source ∈ k.envFrom, replies.BreaksDown ns source) →
        (Environment.resolve (c.scope ns) k (.start w)).1 = .error (.breakdown .nonAsciiText)) := by
  refine ⟨fun hsafe ↦ ?_, fun replies hgives ↦
    ⟨hgives.exists_resolve_eq_ok hc, fun hdown ↦ hgives.resolve_eq_breakdown hc hdown w⟩⟩
  obtain ⟨made, -, hsees⟩ :=
    Environment.exists_recalls_resolve (.start (c.scope ns).store ns w) k (s := c.scope ns)
  obtain ⟨view, hview⟩ := hsees.exists_view (Cluster.yieldsText_store hc hsafe)
  refine ⟨view, made, hview, ?_, Environment.view_obtained_of_resolve_eq_ok w hview⟩
  dsimp only at hview hsees
  rwa [hview] at hsees

/-! ### A cluster with every kind of trouble -/

theorem Cluster.gives_holding (objects : List StoredObject) : (Cluster.holding objects).Gives
    fun kind ns name ↦ (Cluster.holding objects [] ⟨kind, ns, name, none, 0⟩).1 := fun _ _ ↦ rfl

/-- What is said of every object of a cluster, and of what is not there, is said of every reply. -/
theorem Cluster.forall_holding {objects : List StoredObject} {P : BundleKind → ClusterReply → Prop}
    (h : ∀ o ∈ objects, P o.kind o.reply)
    (hmissing : ∀ kind, P kind (.apiError 404 (some "Not Found")))
    (past : List Read) (read : Read) : P read.kind (Cluster.holding objects past read).1 := by
  rw [Cluster.holding]
  split
  · next o ho =>
    have hkind : o.kind = read.kind := by
      have hanswers := List.find?_some ho
      simp only [StoredObject.answers, Bool.and_eq_true, decide_eq_true_eq] at hanswers
      exact hanswers.1.1
    exact hkind ▸ h o (List.mem_of_find?_eq_some ho)
  · exact hmissing read.kind

namespace Sample

/-- A config map, a secret, and secrets that are not base64, not UTF-8, not to be read and not
ASCII. -/
def troubled : List StoredObject :=
  [⟨.configMap, "env", none, .object (some [("MODE", .str "on")]), 1⟩,
   ⟨.secret, "token", none, .object (some [("TOKEN", .str "czNjcjN0")]), 1⟩,
   ⟨.secret, "raw", none, .object (some [("TOKEN", .str "s3cr3t!")]), 1⟩,
   ⟨.secret, "octets", none, .object (some [("TOKEN", .str "/w==")]), 1⟩,
   ⟨.secret, "sealed", none, .apiError 403 (some "Forbidden"), 1⟩,
   ⟨.secret, "accent", none, .object (some [("TOKEN", .str "café")]), 1⟩]

/-- A source of the secret of this name. -/
def secretNamed (name : String) : EnvFromSource := ⟨none, none, some ⟨name, none, []⟩, []⟩

/-- A container with sources of all but the last one, and of a secret that is not there. -/
def needy : Container :=
  supplied "app" [secretNamed "raw", secretNamed "octets", secretNamed "sealed",
    secretNamed "missing", secretNamed "token", configMapBehind ""]

end Sample

/-- Two of the six sources have bundles that can be obtained, and these two make the view. -/
theorem resolve_troubled_sample : (Cluster.holding Sample.troubled).HoldsText ∧
    ∀ w, (Environment.resolve ((Cluster.holding Sample.troubled).scope "shop") Sample.needy
      (.start w)).1 = .ok [.literal "TOKEN" "s3cr3t", .literal "MODE" "on"] := by
  have hc : (Cluster.holding Sample.troubled).HoldsText := by
    refine Cluster.forall_holding (P := fun _ reply ↦ reply.IsText) (fun o ho ↦ ?_) nofun
    simp only [Sample.troubled, List.mem_cons, List.not_mem_nil, or_false] at ho
    rcases ho with rfl | rfl | rfl | rfl | rfl | rfl <;> simp [ClusterReply.IsText, Contents.IsText]
  have houtcome : ∀ source ∈ Sample.needy.envFrom, ∀ b ∈ source.bundle,
      Cluster.outcome ⟨b.1, "shop", b.2.name, none, 0⟩
        (Cluster.holding Sample.troubled [] ⟨b.1, "shop", b.2.name, none, 0⟩).1 ≠
          .breakdown .nonAsciiText := by
    decide +kernel
  have hsafe : ∀ source ∈ Sample.needy.envFrom, ¬Replies.BreaksDown
      (fun kind ns name ↦ (Cluster.holding Sample.troubled [] ⟨kind, ns, name, none, 0⟩).1) "shop"
      source := by
    rintro source hsource ⟨kind, ref, hbundle, hdown⟩
    exact houtcome source hsource (kind, ref) hbundle (hdown.outcome_eq (hc [] _) rfl)
  refine ⟨hc, fun w ↦ ?_⟩
  obtain ⟨view, hview⟩ := ((resolve_of_cluster _ hc "shop" Sample.needy w).2 _
    (Cluster.gives_holding Sample.troubled)).1 hsafe
  rw [(hview w).1, ← (hview (.start 0)).1]
  decide +kernel

/-- A source of the secret outside ASCII leaves no view, though without it there would be one. -/
theorem resolve_accent_sample :
    (Environment.resolve ((Cluster.holding Sample.troubled).scope "shop")
      (Sample.supplied "app" [Sample.secretNamed "accent", Sample.configMapBehind ""])
      (.start (.start 0))).1 = .error (.breakdown .nonAsciiText) ∧
    (Environment.resolve ((Cluster.holding Sample.troubled).scope "shop")
      (Sample.supplied "app" [Sample.configMapBehind ""])
      (.start (.start 0))).1 = .ok [.literal "MODE" "on"] := by
  decide +kernel

end AgentGraft
