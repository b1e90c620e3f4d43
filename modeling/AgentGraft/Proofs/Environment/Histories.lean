import AgentGraft.Proofs.Environment.Totality

/-!
# Histories of reads

A store may fail, change its mind and take its time, so what a pass has seen of it is a `History`:
the reads that were made, each with its outcome. A cache that starts empty remembers of a history
exactly the contents that some read of it ended with, under the kind and the name of the bundle
(`Pass.Recalls`). A bundle that it holds is not read again, so a history has at most one read of
each bundle that ended with contents, and no read of the bundle behind it (`History.Once`).
-/

namespace AgentGraft

/-! ### Histories -/

/-- What a bundle is remembered under: its kind and its name. -/
def Read.key (r : Read) : BundleKind × String := (r.kind, r.name)

/-- The contents that a read ended with. -/
def Outcome.contents? : Outcome → Option Contents
  | .contents data => some data
  | _ => none

/-- Reads with their outcomes, the oldest first. -/
abbrev History := List (Read × Outcome)

/-- Reads with the outcomes that a store gives them, one after the other. -/
def Store.answered (store : Store) (past : List Read) : List Read → History
  | [] => []
  | r :: rs => (r, (store.answer past r).outcome) :: answered store (past ++ [r]) rs

theorem Store.answered_append (store : Store) (past made more : List Read) :
    store.answered past (made ++ more) =
      store.answered past made ++ store.answered (past ++ made) more := by
  induction made generalizing past with
  | nil => rw [List.nil_append, answered, List.nil_append, List.append_nil]
  | cons r made ih =>
    rw [List.cons_append, answered, ih, answered, List.cons_append, List.append_assoc,
      List.singleton_append]

theorem Store.answered_concat (store : Store) (past made : List Read) (r : Read) :
    store.answered past (made ++ [r]) =
      store.answered past made ++ [(r, (store.answer (past ++ made) r).outcome)] :=
  store.answered_append past made [r]

/-- What is answered is what the store answers to some reads. -/
theorem Store.exists_answer_of_mem {store : Store} {past made : List Read} {r : Read}
    {outcome : Outcome} (h : (r, outcome) ∈ store.answered past made) :
    ∃ before, (store.answer before r).outcome = outcome := by
  induction made generalizing past with
  | nil => cases h
  | cons r' made ih =>
    rcases List.mem_cons.1 h with h | h
    · cases h
      exact ⟨past, rfl⟩
    · exact ih h

namespace History

variable {h : History} {key : BundleKind × String} {data : Contents} {read : Read}
  {outcome : Outcome}

/-- Some read of the bundle ended with these contents. -/
def Yields (h : History) (key : BundleKind × String) (data : Contents) : Prop :=
  ∃ read, (read, .contents data) ∈ h ∧ read.key = key

/-- What some reads yield, more reads yield as well. -/
theorem Yields.mono {store : Store} {past made more : List Read}
    (h : (store.answered past made).Yields key data) (hmore : made <+: more) :
    (store.answered past more).Yields key data := by
  obtain ⟨later, rfl⟩ := hmore
  obtain ⟨read, hread, hkey⟩ := h
  rw [store.answered_append]
  exact ⟨read, List.mem_append_left _ hread, hkey⟩

/-- **After a read that ended with contents there is none of the same bundle.** So at most one read
of a bundle ends with contents. -/
def Once (h : History) : Prop :=
  h.Pairwise fun a b ↦ a.2.contents?.isSome = true → b.1.key ≠ a.1.key

theorem yields_concat_iff : (h ++ [(read, outcome)]).Yields key data ↔
    h.Yields key data ∨ read.key = key ∧ outcome.contents? = some data := by
  have hlast : outcome.contents? = some data ↔ outcome = .contents data := by
    cases outcome <;> simp [Outcome.contents?]
  constructor
  · rintro ⟨r, hr, hkey⟩
    rcases List.mem_append.1 hr with hr | hr
    · exact .inl ⟨r, hr, hkey⟩
    · obtain ⟨rfl, houtcome⟩ := Prod.mk.inj (List.mem_singleton.1 hr)
      exact .inr ⟨hkey, hlast.2 houtcome.symm⟩
  · rintro (⟨r, hr, hkey⟩ | ⟨hkey, hdata⟩)
    · exact ⟨r, List.mem_append_left _ hr, hkey⟩
    · rw [hlast.1 hdata]
      exact ⟨read, List.mem_append_right _ (List.mem_singleton_self _), hkey⟩

/-- One more read is fine if no read of its bundle has ended with contents. -/
theorem Once.concat (hh : h.Once) (hnone : ∀ data, ¬h.Yields read.key data) :
    (h ++ [(read, outcome)]).Once := by
  refine List.pairwise_append.2 ⟨hh, List.pairwise_singleton _ _, fun a ha b hb hsome hkey ↦ ?_⟩
  obtain ⟨r, o⟩ := a
  rw [List.mem_singleton.1 hb] at hkey
  cases o with
  | contents data => exact hnone data ⟨r, ha, hkey.symm⟩
  | fault f => cases hsome
  | breakdown b => cases hsome

end History

/-! ### What a pass remembers -/

variable {store : Store} {ns : String} {past made : List Read} {p q : Pass}

/-- The pass has made these reads, and its cache holds what they ended with. -/
structure Pass.Recalls (store : Store) (ns : String) (past made : List Read) (p : Pass) : Prop where
  reads : p.world.reads = past ++ made
  ns : ∀ read ∈ made, read.ns = ns
  cache : ∀ kind name data, p.cache.find? kind name = some data ↔
    (store.answered past made).Yields (kind, name) data
  once : (store.answered past made).Once

namespace Pass.Recalls

theorem start (store : Store) (ns : String) (w : World) :
    (Pass.start w).Recalls store ns w.reads [] where
  reads := (List.append_nil _).symm
  ns := nofun
  cache _ _ _ := ⟨nofun, fun ⟨_, hread, _⟩ ↦ nomatch hread⟩
  once := List.Pairwise.nil

/-- Only reads and cache matter. -/
theorem congr (h : p.Recalls store ns past made) (hreads : q.world.reads = p.world.reads)
    (hcache : q.cache = p.cache) : q.Recalls store ns past made where
  reads := hreads.trans h.reads
  ns := h.ns
  cache := hcache ▸ h.cache
  once := h.once

/-- **One more read**, of a bundle that the cache does not hold: what it ends with is all that the
cache has to take up. -/
theorem concat (h : p.Recalls store ns past made) {r : Read} (hns : r.ns = ns)
    (hnone : p.cache.find? r.kind r.name = none) (hreads : q.world.reads = p.world.reads ++ [r])
    (hcache : ∀ kind name data, q.cache.find? kind name = some data ↔
      p.cache.find? kind name = some data ∨
        r.key = (kind, name) ∧ (store.answer p.world.reads r).outcome.contents? = some data) :
    q.Recalls store ns past (made ++ [r]) where
  reads := by rw [hreads, h.reads, List.append_assoc]
  ns read hread := (List.mem_append.1 hread).elim (h.ns read) fun hread ↦ by
    rw [List.mem_singleton.1 hread, hns]
  cache kind name data := by
    rw [hcache, h.cache, h.reads, Store.answered_concat, History.yields_concat_iff]
  once := by
    rw [Store.answered_concat]
    refine h.once.concat fun data hyields ↦ ?_
    -- contents that an earlier read ended with would be in the cache
    have hfind : p.cache.find? r.kind r.name = some data := (h.cache _ _ _).2 hyields
    rw [hnone] at hfind
    cases hfind

/-- Over a store that yields texts the cache holds texts. -/
theorem isText (h : p.Recalls store ns past made) (hs : store.YieldsText) : p.cache.IsText := by
  intro kind name data hfind
  obtain ⟨read, hread, -⟩ := (h.cache kind name data).1 hfind
  obtain ⟨before, houtcome⟩ := Store.exists_answer_of_mem hread
  have htext := hs before read
  rwa [houtcome] at htext

end Pass.Recalls

/-! ### Reading bundles -/

namespace Environment

variable {s : Scope} {kind : BundleKind} {ref : BundleRef}

/-- A read of a bundle that the cache does not hold is remembered with what it ended with. -/
theorem recalls_read (h : p.Recalls s.store s.ns past made)
    (hnone : p.cache.find? kind ref.name = none) (timeout : Option Int) :
    (read s kind ref timeout p).2.Recalls s.store s.ns past
      (made ++ [⟨kind, s.ns, ref.name, timeout, p.world.clock⟩]) := by
  have hput (data : Contents) (kind' : BundleKind) (name' : String) (data' : Contents) :
      (p.cache.put kind ref.name data).find? kind' name' = some data' ↔
        p.cache.find? kind' name' = some data' ∨ (kind, ref.name) = (kind', name') ∧
          some data = some data' := by
    rw [Cache.find?_put]
    split
    · next heq =>
      cases heq
      simp [hnone]
    · next hne => simp [Ne.symm hne]
  simp only [read, Store.ask]
  rcases ho : (s.store.answer p.world.reads ⟨kind, s.ns, ref.name, timeout, p.world.clock⟩).outcome
    with data | f | b
  · refine h.concat rfl hnone rfl fun kind' name' data' ↦ ?_
    rw [ho]
    exact hput data kind' name' data'
  · exact h.concat rfl hnone rfl fun _ _ _ ↦ by simp [ho, Outcome.contents?, Pass.note]
  · exact h.concat rfl hnone rfl fun _ _ _ ↦ by simp [ho, Outcome.contents?]

/-- A fetch makes at most one read. -/
theorem exists_recalls_fetch (h : p.Recalls s.store s.ns past made) (kind : BundleKind)
    (ref : BundleRef) :
    ∃ more, (fetch s kind ref p).2.Recalls s.store s.ns past (made ++ more) := by
  rw [fetch]
  split
  -- neither a hit nor a deadline that has passed leads to a read
  · exact ⟨[], (List.append_nil made).symm ▸ h.congr rfl rfl⟩
  · next hnone =>
    split
    · exact ⟨_, recalls_read h hnone none⟩
    · next deadline _ =>
      split
      · exact ⟨[], (List.append_nil made).symm ▸ h.congr rfl rfl⟩
      · exact ⟨_, recalls_read h hnone (some (deadline - p.world.clock))⟩

/-- **What a fetch yields is in the cache afterwards**, and what is there afterwards it yields. -/
theorem toOption_fetch (s : Scope) (kind : BundleKind) (ref : BundleRef) (p : Pass) :
    (fetch s kind ref p).1.toOption.join = (fetch s kind ref p).2.cache.find? kind ref.name := by
  have hread (hnone : p.cache.find? kind ref.name = none) (timeout : Option Int) :
      (read s kind ref timeout p).1.toOption.join =
        (read s kind ref timeout p).2.cache.find? kind ref.name := by
    simp only [read]
    rcases (s.store.ask kind s.ns ref.name timeout p.world).1 with data | f | b
    · simp [Pass.note, Cache.find?_put, Except.toOption]
    · simp [Pass.note, hnone, Except.toOption]
    · simp [hnone, Except.toOption]
  rw [fetch]
  split
  · next data hdata => exact hdata.symm
  · next hnone =>
    split
    · exact hread hnone none
    · split
      · exact hnone.symm
      · exact hread hnone _

end Environment

end AgentGraft
