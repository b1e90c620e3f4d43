import AgentGraft.Environment

/-!
# Reads on the clock

What a resolution may do to the world: write lines, and ask the store of its scope for bundles that
the container imports, before the deadline and with the time that is left. `World.Reaches` says so
once; it is all that a resolution does (`reaches_resolve`), and everything about the reads of a pass
is read off it.

The reads of a world that is reached follow one another on the clock (`Scope.Paced`). The last of
them starts before the deadline, so if it takes no more than its time no read ends after the
deadline (`Scope.Paced.clockAfter_le`).
-/

namespace AgentGraft

/-! ### What is asked for -/

/-- The container imports the bundle. -/
def Container.Imports (k : Container) (kind : BundleKind) (name : String) : Prop :=
  ∃ source ∈ k.envFrom, ∃ ref, source.bundle = some (kind, ref) ∧ ref.name = name

/-- **What a pass may do to the world**: write lines, and ask for bundles. The second world is
reached from the first with reads of the scope that are made for `asked`. -/
inductive World.Reaches (s : Scope) (asked : BundleKind → String → Prop) (w : World) :
    World → Prop
  | refl : Reaches s asked w w
  | note {v : World} (lines : List Line) : Reaches s asked w v → Reaches s asked w (v.note lines)
  | ask {v : World} {kind : BundleKind} {name : String} : Reaches s asked w v → asked kind name →
      (∀ deadline ∈ s.deadline, v.clock < deadline) →
      Reaches s asked w (s.store.ask kind s.ns name (s.deadline.map (· - v.clock)) v).2

theorem World.Reaches.mono {s : Scope} {asked asked' : BundleKind → String → Prop} {w v : World}
    (h : w.Reaches s asked v) (hasked : ∀ kind name, asked kind name → asked' kind name) :
    w.Reaches s asked' v := by
  induction h with
  | refl => exact .refl
  | note lines _ ih => exact ih.note lines
  | ask _ hask hbefore ih => exact ih.ask (hasked _ _ hask) hbefore

namespace Environment

variable {s : Scope} {asked : BundleKind → String → Prop} {w : World} {p : Pass}

theorem reaches_read {kind : BundleKind} {ref : BundleRef} (h : w.Reaches s asked p.world)
    (hasked : asked kind ref.name) (hbefore : ∀ deadline ∈ s.deadline, p.world.clock < deadline) :
    w.Reaches s asked (read s kind ref (s.deadline.map (· - p.world.clock)) p).2.world := by
  have hask := h.ask hasked hbefore
  rw [read]
  dsimp only
  split
  · exact hask
  · exact hask.note _
  · exact hask.note _

/-- A fetch makes at most one read, and none after the deadline. -/
theorem reaches_fetch {kind : BundleKind} {ref : BundleRef} (h : w.Reaches s asked p.world)
    (hasked : asked kind ref.name) : w.Reaches s asked (fetch s kind ref p).2.world := by
  rw [fetch]
  split
  · exact h.note _
  · split
    · next hnone =>
      have hread := reaches_read h hasked (by simp [hnone])
      rwa [hnone, Option.map_none] at hread
    · next deadline hdeadline =>
      split
      · exact h.note _
      · next hlt =>
        have hread := reaches_read h hasked (by simpa [hdeadline] using hlt)
        rwa [hdeadline, Option.map_some] at hread

theorem reaches_addSource {source : EnvFromSource} (h : w.Reaches s asked p.world)
    (hasked : ∀ kind ref, source.bundle = some (kind, ref) → asked kind ref.name)
    (view : List EnvVar) : w.Reaches s asked (addSource s source view p).2.world := by
  rw [addSource]
  split
  · exact h
  · next kind ref hbundle =>
    have hfetch := reaches_fetch h (hasked kind ref hbundle)
    split
    · next heq => rwa [heq] at hfetch
    · next heq => rwa [heq] at hfetch
    · next heq =>
      rw [heq] at hfetch
      split <;> exact hfetch

theorem reaches_addSources {sources : List EnvFromSource} (h : w.Reaches s asked p.world)
    (hasked : ∀ source ∈ sources, ∀ kind ref, source.bundle = some (kind, ref) →
      asked kind ref.name)
    (view : List EnvVar) : w.Reaches s asked (addSources s sources view p).2.world := by
  induction sources generalizing view p with
  | nil => exact h
  | cons source sources ih =>
    have hfirst := reaches_addSource h (hasked source (List.mem_cons_self ..)) view
    rw [addSources]
    split
    · next heq => rwa [heq] at hfirst
    · next heq =>
      rw [heq] at hfirst
      exact ih hfirst (fun source hsource ↦ hasked source (List.mem_cons_of_mem _ hsource)) _

/-- **A resolution asks for nothing but what its container imports.** -/
theorem reaches_resolve {k : Container} (h : w.Reaches s asked p.world)
    (hasked : ∀ kind name, k.Imports kind name → asked kind name) :
    w.Reaches s asked (resolve s k p).2.world := by
  have hsources : w.Reaches s asked (addSources s k.envFrom k.env p).2.world :=
    reaches_addSources h (fun source hsource kind ref hbundle ↦
      hasked kind ref.name ⟨source, hsource, ref, hbundle, rfl⟩) k.env
  rw [resolve]
  split
  · exact h
  · split
    · next heq => rwa [heq] at hsources
    · next heq =>
      rw [heq] at hsources
      exact hsources.note _

end Environment

/-! ### Reads that follow one another -/

/-- The clock after reads that are made one after the other, the first of them at `clock` and after
those of `past`. -/
def Store.clockAfter (store : Store) (clock : Int) (past : List Read) : List Read → Int
  | [] => clock
  | r :: rs => clockAfter store (clock + (store.answer past r).cost) (past ++ [r]) rs

theorem Store.clockAfter_concat (store : Store) (clock : Int) (past made : List Read) (r : Read) :
    store.clockAfter clock past (made ++ [r]) =
      store.clockAfter clock past made + (store.answer (past ++ made) r).cost := by
  induction made generalizing clock past with
  | nil => simp [clockAfter]
  | cons r' made ih =>
    rw [List.cons_append, clockAfter, ih, clockAfter, List.append_assoc, List.singleton_append]

/-- No read takes longer than it may. -/
def Store.InTime (store : Store) (past made : List Read) : Prop :=
  ∀ seen r, seen ++ [r] <+: made → ∀ timeout ∈ r.timeout,
    (store.answer (past ++ seen) r).cost ≤ timeout

/-- **Reads within their time.** Every read starts when those before it are done, which is before
the deadline, and may take the time that is left. -/
structure Scope.Paced (s : Scope) (w : World) (made : List Read) : Prop where
  start : ∀ seen r, seen ++ [r] <+: made → r.start = s.store.clockAfter w.clock w.reads seen
  before : ∀ r ∈ made, ∀ deadline ∈ s.deadline, r.start < deadline
  timeout : ∀ r ∈ made, r.timeout = s.deadline.map (· - r.start)

namespace Scope.Paced

variable {s : Scope} {w : World} {made : List Read} {r : Read}

theorem nil (s : Scope) (w : World) : s.Paced w [] where
  start seen r h := by simp at h
  before := nofun
  timeout := nofun

theorem concat (h : s.Paced w made)
    (hstart : r.start = s.store.clockAfter w.clock w.reads made)
    (hbefore : ∀ deadline ∈ s.deadline, r.start < deadline)
    (htimeout : r.timeout = s.deadline.map (· - r.start)) : s.Paced w (made ++ [r]) where
  start seen r' hprefix := by
    rcases List.prefix_concat_iff.1 hprefix with heq | hprefix
    · obtain ⟨rfl, hr⟩ := List.append_inj' heq rfl
      rw [List.singleton_inj.1 hr, hstart]
    · exact h.start seen r' hprefix
  before r' hr' := (List.mem_append.1 hr').elim (h.before r') fun hr' ↦ by
    rwa [List.mem_singleton.1 hr']
  timeout r' hr' := (List.mem_append.1 hr').elim (h.timeout r') fun hr' ↦ by
    rwa [List.mem_singleton.1 hr']

/-- **The deadline is kept** by reads that keep their time: none of them ends after it. -/
theorem clockAfter_le (h : s.Paced w made) (hcost : s.store.InTime w.reads made) {deadline : Int}
    (hdeadline : s.deadline = some deadline) :
    s.store.clockAfter w.clock w.reads made ≤ max w.clock deadline := by
  rcases List.eq_nil_or_concat made with rfl | ⟨seen, r, rfl⟩
  · exact Int.le_max_left ..
  · -- the last read alone decides: it starts at some time and may take the rest
    rw [List.concat_eq_append] at *
    have hstart := h.start seen r List.prefix_rfl
    have htimeout : r.timeout = some (deadline - r.start) := by
      rw [h.timeout r (by simp), hdeadline, Option.map_some]
    have hlast := hcost seen r List.prefix_rfl _ htimeout
    have hend : s.store.clockAfter w.clock w.reads (seen ++ [r]) ≤ deadline := by
      rw [Store.clockAfter_concat, ← hstart]
      omega
    exact Int.le_trans hend (Int.le_max_right ..)

end Scope.Paced

/-- **The reads of a world that is reached** are for the namespace of the scope and for what is
asked, and follow one another on the clock. -/
theorem World.Reaches.exists_paced {s : Scope} {asked : BundleKind → String → Prop} {w v : World}
    (h : w.Reaches s asked v) :
    ∃ made, v.reads = w.reads ++ made ∧ v.clock = s.store.clockAfter w.clock w.reads made ∧
      (∀ r ∈ made, r.ns = s.ns ∧ asked r.kind r.name) ∧ s.Paced w made := by
  induction h with
  | refl => exact ⟨[], (List.append_nil _).symm, rfl, nofun, .nil s w⟩
  | note lines _ ih => exact ih
  | @ask v kind name _ hasked hbefore ih =>
    obtain ⟨made, hreads, hclock, hmade, hpaced⟩ := ih
    refine ⟨made ++ [⟨kind, s.ns, name, s.deadline.map (· - v.clock), v.clock⟩], ?_, ?_,
      fun r hr ↦ ?_, hpaced.concat hclock hbefore rfl⟩
    · rw [← List.append_assoc, ← hreads]
      rfl
    · rw [Store.clockAfter_concat, ← hreads, ← hclock]
      rfl
    · rcases List.mem_append.1 hr with hr | hr
      · exact hmade r hr
      · rw [List.mem_singleton.1 hr]
        exact ⟨rfl, hasked⟩

end AgentGraft
