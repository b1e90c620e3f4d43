import AgentGraft.Proofs.Environment.Histories

/-!
# One snapshot of each bundle

A pass sees one snapshot of each bundle, however the store behaves. `snapshots_resolveAll` says so
of any number of resolutions that share a cache, and says of every source what it is expanded from:
the contents that had been read when its turn came, whether its own read or an earlier one ended
with them, and nothing where no read had. The view of a container is what it declares with these
contents behind it, so a view always starts with what is declared (`prefix_of_resolve_eq_ok`).
-/

namespace AgentGraft

variable {store : Store} {ns : String} {past made : List Read} {p : Pass}

/-! ### Supplies -/

/-- What a source gets when its turn comes. -/
structure Supply where
  source : EnvFromSource
  /-- The contents of its bundle, if they can be had. -/
  data : Option Contents
  /-- All reads until then. -/
  reads : List Read

/-- The keys that a supply adds, in ascending order and behind the prefix of its source. -/
def Supply.entries (u : Supply) : Contents :=
  match u.data with
  | none => []
  | some data => (Environment.sortKeys data).map fun m ↦ (u.source.keyPrefix.getD "" ++ m.1, m.2)

/-- **The supply is a snapshot**: of the reads until then it holds what the one of its bundle ended
with, if there was one, and nothing else. -/
def Supply.IsSnapshot (store : Store) (past made : List Read) (u : Supply) : Prop :=
  ∃ seen, seen <+: made ∧ u.reads = past ++ seen ∧
    ∀ data, u.data = some data ↔ ∃ kind ref, u.source.bundle = some (kind, ref) ∧
      (store.answered past seen).Yields (kind, ref.name) data

theorem Supply.IsSnapshot.mono {u : Supply} {more : List Read} (h : u.IsSnapshot store past made)
    (hmade : made <+: more) : u.IsSnapshot store past more := by
  obtain ⟨seen, hprefix, hu⟩ := h
  exact ⟨seen, hprefix.trans hmade, hu⟩

namespace Environment

variable {s : Scope} {source : EnvFromSource} {sources : List EnvFromSource}
  {view view' : List EnvVar}

/-- What a source gets in a pass. -/
def supply (s : Scope) (source : EnvFromSource) (p : Pass) : Supply :=
  match source.bundle with
  | none => ⟨source, none, p.world.reads⟩
  | some (kind, ref) =>
    ⟨source, (fetch s kind ref p).1.toOption.join, (fetch s kind ref p).2.world.reads⟩

/-- What sources get, one after the other, up to one that ends the resolution. -/
def supplies (s : Scope) : List EnvFromSource → List EnvVar → Pass → List Supply
  | [], _, _ => []
  | source :: sources, view, p =>
    supply s source p ::
      match addSource s source view p with
      | (.error _, _) => []
      | (.ok view, p) => supplies s sources view p

@[simp] theorem supply_source (s : Scope) (source : EnvFromSource) (p : Pass) :
    (supply s source p).source = source := by
  rw [supply]
  split <;> rfl

/-- A source leaves the pass as its fetch does. -/
theorem addSource_snd (s : Scope) (source : EnvFromSource) (view : List EnvVar) (p : Pass) :
    (addSource s source view p).2 =
      match source.bundle with
      | none => p
      | some (kind, ref) => (fetch s kind ref p).2 := by
  rw [addSource]
  rcases source.bundle with - | ⟨kind, ref⟩
  · rfl
  · dsimp only
    rcases fetch s kind ref p with ⟨f | - | data, p'⟩
    · rfl
    · rfl
    · dsimp only
      split <;> rfl

/-- **A source gets a snapshot.** -/
theorem exists_recalls_addSource (h : p.Recalls s.store s.ns past made) (source : EnvFromSource)
    (view : List EnvVar) : ∃ more,
      (addSource s source view p).2.Recalls s.store s.ns past (made ++ more) ∧
        (supply s source p).IsSnapshot s.store past (made ++ more) := by
  rw [addSource_snd, supply]
  rcases hb : source.bundle with - | ⟨kind, ref⟩
  · refine ⟨[], (List.append_nil made).symm ▸ h, made, List.prefix_append _ _, h.reads,
      fun data ↦ ?_⟩
    simp [hb]
  · dsimp only
    obtain ⟨more, hmore⟩ := exists_recalls_fetch h kind ref
    refine ⟨more, hmore, made ++ more, List.prefix_rfl, hmore.reads, fun data ↦ ?_⟩
    rw [toOption_fetch, hmore.cache]
    constructor
    · exact fun hyields ↦ ⟨kind, ref, hb, hyields⟩
    · rintro ⟨kind', ref', hb', hyields⟩
      obtain ⟨rfl, rfl⟩ : kind = kind' ∧ ref = ref' := by simpa [hb] using hb'
      exact hyields

/-- **All sources get snapshots.** -/
theorem exists_recalls_addSources (h : p.Recalls s.store s.ns past made)
    (sources : List EnvFromSource) (view : List EnvVar) : ∃ more,
      (addSources s sources view p).2.Recalls s.store s.ns past (made ++ more) ∧
        ∀ u ∈ supplies s sources view p, u.IsSnapshot s.store past (made ++ more) := by
  induction sources generalizing view p made with
  | nil => exact ⟨[], (List.append_nil made).symm ▸ h, nofun⟩
  | cons source sources ih =>
    obtain ⟨more, hstep, hsupply⟩ := exists_recalls_addSource h source view
    rw [addSources, supplies]
    rcases ha : addSource s source view p with ⟨f | view', p'⟩
    · rw [ha] at hstep
      exact ⟨more, hstep, fun u hu ↦ List.mem_singleton.1 hu ▸ hsupply⟩
    · rw [ha] at hstep
      -- what the first source got stays a snapshot while more is read for the others
      obtain ⟨later, hrun, hlater⟩ := ih hstep view'
      rw [List.append_assoc] at hrun hlater
      refine ⟨more ++ later, hrun, List.forall_mem_cons.2 ⟨hsupply.mono ?_, hlater⟩⟩
      rw [← List.append_assoc]
      exact List.prefix_append _ _

/-- A source adds the keys of its supply. -/
theorem addKeys_entries_supply (h : (addSource s source view p).1 = .ok view') :
    addKeys "" (supply s source p).entries view = .ok view' := by
  rw [addSource] at h
  rw [supply, Supply.entries]
  rcases hb : source.bundle with - | ⟨kind, ref⟩
  · rw [hb] at h
    cases h
    rfl
  · rw [hb] at h
    dsimp only at h ⊢
    rcases hf : fetch s kind ref p with ⟨f | - | data, p'⟩
    · rw [hf] at h
      cases h
    · rw [hf] at h
      cases h
      rfl
    · rw [hf] at h
      dsimp only [Except.toOption, Option.join_some] at h ⊢
      rw [addKeys_prefixed]
      rcases hk : addKeys (source.keyPrefix.getD "") (sortKeys data) view with view₁ | issues
      · rw [hk] at h
        cases h
        rfl
      · rw [hk] at h
        cases h

/-- **A view is the expansion of the supplies**, one for each source. -/
theorem addKeys_entries_supplies (h : (addSources s sources view p).1 = .ok view') :
    (supplies s sources view p).map (·.source) = sources ∧
      addKeys "" ((supplies s sources view p).flatMap Supply.entries) view = .ok view' := by
  induction sources generalizing view p with
  | nil => exact ⟨rfl, by cases h; rfl⟩
  | cons source sources ih =>
    rw [addSources] at h
    rw [supplies]
    rcases ha : addSource s source view p with ⟨f | view₁, p₁⟩
    · rw [ha] at h
      cases h
    · rw [ha] at h
      have hfirst : addKeys "" (supply s source p).entries view = .ok view₁ :=
        addKeys_entries_supply (by rw [ha])
      obtain ⟨hsources, hview⟩ := ih h
      dsimp only
      rw [List.map_cons, supply_source, hsources, List.flatMap_cons, addKeys_append, hfirst]
      exact ⟨rfl, hview⟩

end Environment

/-! ### Resolutions that share a cache -/

/-- A resolution that is asked for. -/
structure Resolution where
  container : Container
  deadline : Option Int
  /-- The clock when it starts. -/
  clock : Int

/-- A resolution that was made. -/
structure Resolved where
  container : Container
  view : Except Failure (List EnvVar)
  /-- What the sources of the container got. -/
  supplies : List Supply

/-- The pass at some clock. -/
def Pass.setClock (clock : Int) (p : Pass) : Pass := { p with world := { p.world with clock } }

namespace Environment

/-- Makes resolutions one after the other, with one cache. One that fails does not keep later ones
from being made. -/
def resolveAll (store : Store) (ns : String) : List Resolution → Pass → List Resolved × Pass
  | [], p => ([], p)
  | r :: rs, p =>
    let s : Scope := ⟨store, ns, r.deadline⟩
    let p := p.setClock r.clock
    let (view, later) := resolve s r.container p
    let (resolved, last) := resolveAll store ns rs later
    (⟨r.container, view, supplies s r.container.envFrom r.container.env p⟩ :: resolved, last)

end Environment

/-- **A resolution that sees snapshots**: every source gets one, and the view is what the container
declares with the keys of the supplies behind it. -/
structure Resolved.SeesSnapshots (store : Store) (past made : List Read) (r : Resolved) : Prop where
  supplied : ∀ u ∈ r.supplies, u.IsSnapshot store past made
  /-- Over a store that yields texts there is a view. -/
  exists_view : store.YieldsText → ∃ view, r.view = .ok view
  expanded : ∀ view, r.view = .ok view →
    r.supplies.map (·.source) = r.container.envFrom ∧
      Environment.addKeys "" (r.supplies.flatMap Supply.entries) r.container.env = .ok view

theorem Resolved.SeesSnapshots.mono {more : List Read} {r : Resolved}
    (h : r.SeesSnapshots store past made) (hmade : made <+: more) :
    r.SeesSnapshots store past more where
  supplied u hu := (h.supplied u hu).mono hmade
  exists_view := h.exists_view
  expanded := h.expanded

namespace Environment

variable {s : Scope}

/-- A resolution is the expansion of its sources and a line about it. -/
theorem resolve_eq_addSources (s : Scope) (k : Container) (p : Pass) :
    (resolve s k p).1 = (addSources s k.envFrom k.env p).1 ∧
      (resolve s k p).2.world.reads = (addSources s k.envFrom k.env p).2.world.reads ∧
      (resolve s k p).2.cache = (addSources s k.envFrom k.env p).2.cache := by
  rw [resolve]
  split
  · next hempty =>
    rw [List.isEmpty_iff.1 hempty]
    exact ⟨rfl, rfl, rfl⟩
  · rcases addSources s k.envFrom k.env p with ⟨f | view, p'⟩
    · exact ⟨rfl, rfl, rfl⟩
    · exact ⟨rfl, rfl, rfl⟩

/-- A view starts with what the container declares. -/
theorem prefix_of_resolve_eq_ok {k : Container} {view : List EnvVar}
    (h : (resolve s k p).1 = .ok view) : k.env <+: view := by
  rw [(resolve_eq_addSources s k p).1] at h
  exact prefix_of_addKeys_eq_ok (addKeys_entries_supplies h).2

/-- **One resolution** keeps the cache true to what was read, and sees snapshots. -/
theorem exists_recalls_resolve (h : p.Recalls s.store s.ns past made) (k : Container) : ∃ more,
    (resolve s k p).2.Recalls s.store s.ns past (made ++ more) ∧
      Resolved.SeesSnapshots s.store past (made ++ more)
        ⟨k, (resolve s k p).1, supplies s k.envFrom k.env p⟩ := by
  obtain ⟨hview, hreads, hcache⟩ := resolve_eq_addSources s k p
  obtain ⟨more, hmore, hsupplied⟩ := exists_recalls_addSources h k.envFrom k.env
  refine ⟨more, hmore.congr hreads hcache, hsupplied, fun hs ↦ ?_, fun view hv ↦ ?_⟩
  · obtain ⟨view, p', hresolve, -⟩ := exists_resolve_eq_ok hs (h.isText hs) k
    exact ⟨view, congrArg Prod.fst hresolve⟩
  · exact addKeys_entries_supplies (hview.symm.trans hv)

theorem map_container_resolveAll (store : Store) (ns : String) (calls : List Resolution)
    (p : Pass) :
    (resolveAll store ns calls p).1.map (·.container) = calls.map (·.container) := by
  induction calls generalizing p with
  | nil => rfl
  | cons call calls ih => rw [resolveAll, List.map_cons, List.map_cons, ih]

/-- All resolutions do. -/
theorem exists_recalls_resolveAll (h : p.Recalls store ns past made) (calls : List Resolution) :
    ∃ more, (resolveAll store ns calls p).2.Recalls store ns past (made ++ more) ∧
      ∀ r ∈ (resolveAll store ns calls p).1, r.SeesSnapshots store past (made ++ more) := by
  induction calls generalizing p made with
  | nil => exact ⟨[], (List.append_nil made).symm ▸ h, nofun⟩
  | cons call calls ih =>
    have hset : (p.setClock call.clock).Recalls store ns past made := h.congr rfl rfl
    obtain ⟨more, hstep, hfirst⟩ :=
      exists_recalls_resolve (s := ⟨store, ns, call.deadline⟩) hset call.container
    obtain ⟨later, hrun, hlater⟩ := ih hstep
    rw [List.append_assoc] at hrun hlater
    refine ⟨more ++ later, hrun, List.forall_mem_cons.2 ⟨hfirst.mono ?_, hlater⟩⟩
    rw [← List.append_assoc]
    exact List.prefix_append _ _

end Environment

/-- **One snapshot of each bundle.** Of the reads that any number of resolutions with one cache
make, none comes after one of the same bundle that ended with contents; every source is expanded
from the contents that had been read of its bundle when its turn came, and from nothing where there
were none. -/
theorem snapshots_resolveAll (store : Store) (ns : String) (calls : List Resolution) (w : World) :
    (Environment.resolveAll store ns calls (.start w)).1.map (·.container) =
        calls.map (·.container) ∧
    ∃ made, (Environment.resolveAll store ns calls (.start w)).2.world.reads = w.reads ++ made ∧
      (∀ read ∈ made, read.ns = ns) ∧
      (store.answered w.reads made).Once ∧
      ∀ r ∈ (Environment.resolveAll store ns calls (.start w)).1,
        r.SeesSnapshots store w.reads made := by
  refine ⟨Environment.map_container_resolveAll store ns calls _, ?_⟩
  obtain ⟨made, hrecalls, hsees⟩ :=
    Environment.exists_recalls_resolveAll (Pass.Recalls.start store ns w) calls
  exact ⟨made, hrecalls.reads, hrecalls.ns, hrecalls.once, hsees⟩

/-! ### A store that changes its mind -/

namespace Sample

/-- A store that fails at first, then yields an empty secret and config maps that tell the number of
reads before. -/
def moody : Store := ⟨true, fun past read ↦
  if past = [] then ⟨.fault ⟨false, read.kind.name, read.ns, read.name, "timed out"⟩, 5⟩
  else if read.kind = .secret then ⟨.contents [], 5⟩
  else ⟨.contents [("N", .str (if past.length = 1 then "one" else "more"))], 5⟩⟩

/-- A source that imports the config map behind a prefix. -/
def configMapBehind (start : String) : EnvFromSource :=
  ⟨some start, some ⟨"env", none, []⟩, none, []⟩

/-- A source that imports the secret of the same name. -/
def secretBehind (start : String) : EnvFromSource := ⟨some start, none, some ⟨"env", none, []⟩, []⟩

/-- A container with these sources and no variables of its own. -/
def supplied (name : String) (sources : List EnvFromSource) : Container :=
  ⟨name, none, none, [], sources, [], none, none, []⟩

/-- Two resolutions, the second of them after its deadline. -/
def calls : List Resolution :=
  [⟨supplied "app" [configMapBehind "A_", configMapBehind "B_", secretBehind "C_",
      secretBehind "D_", configMapBehind "E_"], some 60, 0⟩,
   ⟨supplied "worker" [configMapBehind "F_"], some 60, 90⟩]

end Sample

/-- The first read fails, the second one supplies all later sources, and the empty secret is read
once. -/
theorem snapshots_sample : ∃ made, made.length = 3 ∧ (Sample.moody.answered [] made).Once ∧
    (∀ r ∈ (Environment.resolveAll Sample.moody "shop" Sample.calls (.start (.start 0))).1,
      r.SeesSnapshots Sample.moody [] made) ∧
    (Environment.resolveAll Sample.moody "shop" Sample.calls (.start (.start 0))).1.map (·.view) =
      [.ok [.literal "B_N" "one", .literal "E_N" "one"], .ok [.literal "F_N" "one"]] := by
  obtain ⟨-, made, hreads, -, honce, hsees⟩ :=
    snapshots_resolveAll Sample.moody "shop" Sample.calls (.start 0)
  have hlen : (Environment.resolveAll Sample.moody "shop" Sample.calls
      (.start (.start 0))).2.world.reads.length = 3 := by decide +kernel
  refine ⟨made, ?_, honce, hsees, by decide +kernel⟩
  rw [hreads] at hlen
  simpa [World.start] using hlen

end AgentGraft
