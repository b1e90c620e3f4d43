import Mathlib.Data.List.Nodup
import AgentGraft.Proofs.Text.Utf8
import AgentGraft.Yaml.Datum

/-!
# What is built from nodes

Two facts about the data that nodes stand for, one for each way in which building ends.

* What is built as a map has **no key twice** (`Datum.IsBuilt.nodup_keys`), and whatever it holds is
  built as well. So looking a key up in a text that has been read does not depend on where the key
  stands.
* A fault other than a malformed text is that of **a scalar of the tree** which is not what its tag
  says (`Node.exists_misfit_of_build`). Nothing that collections do, such as an unhashable key or a
  merge of what can not be merged, is a fault of another kind.
-/

namespace AgentGraft.Yaml

/-! ### Parts built side by side -/

section BothBuilt

variable {α β γ : Type} {f : α → β → γ} {a : Except Found α} {b : Except Found β}

theorem bothBuilt_eq_ok_iff {c : γ} :
    bothBuilt f a b = .ok c ↔ ∃ x y, a = .ok x ∧ b = .ok y ∧ f x y = c := by
  cases a <;> cases b <;> simp [bothBuilt]

end BothBuilt

/-! ### Keys -/

theorem Leaf.sameKey_self (l : Leaf) : l.sameKey l = true := by
  rw [sameKey]
  cases l.asInt? <;> simp

namespace Datum

variable {key : Leaf} {d : Datum} {e : Leaf × Datum} {es : List (Leaf × Datum)}

/-- Setting an entry adds its key at the end, where no key is the same. -/
theorem map_fst_putEntry (key : Leaf) (d : Datum) (es : List (Leaf × Datum)) :
    (putEntry key d es).map Prod.fst =
      es.map Prod.fst ++ if es.any (·.1.sameKey key) then [] else [key] := by
  induction es with
  | nil => rfl
  | cons e es ih =>
    rw [putEntry, List.any_cons]
    cases h : e.1.sameKey key with
    | true => simp
    | false =>
      rw [Bool.false_or]
      simp [ih]

theorem nodup_putEntry (h : (es.map Prod.fst).Nodup) :
    ((putEntry key d es).map Prod.fst).Nodup := by
  rw [map_fst_putEntry]
  split
  · rwa [List.append_nil]
  · next hany =>
    -- a key that is there is the same as itself, and its entry would have been set in its place
    have hnew : key ∉ es.map Prod.fst := fun hmem ↦ by
      obtain ⟨e, he, rfl⟩ := List.mem_map.1 hmem
      exact hany (List.any_eq_true.2 ⟨e, he, e.1.sameKey_self⟩)
    rw [← List.concat_eq_append]
    exact h.concat hnew

theorem nodup_foldl_putEntry (es acc : List (Leaf × Datum)) (h : (acc.map Prod.fst).Nodup) :
    ((es.foldl (fun acc e ↦ putEntry e.1 e.2 acc) acc).map Prod.fst).Nodup := by
  induction es generalizing acc with
  | nil => exact h
  | cons e es ih => exact ih _ (nodup_putEntry h)

/-- **Entries in which keys may occur again** are made into entries with no key twice. -/
theorem nodup_ofEntries (es : List (Leaf × Datum)) : ((ofEntries es).map Prod.fst).Nodup :=
  nodup_foldl_putEntry es [] List.nodup_nil

theorem snd_mem_of_putEntry (h : e ∈ putEntry key d es) : e.2 = d ∨ e ∈ es := by
  induction es with
  | nil => exact .inl (by rw [List.mem_singleton.1 h])
  | cons other es ih =>
    rw [putEntry] at h
    split at h
    · rcases List.mem_cons.1 h with rfl | h
      · exact .inl rfl
      · exact .inr (List.mem_cons_of_mem _ h)
    · rcases List.mem_cons.1 h with rfl | h
      · exact .inr (List.mem_cons_self ..)
      · exact (ih h).imp_right (List.mem_cons_of_mem _)

theorem exists_of_mem_foldl_putEntry {acc : List (Leaf × Datum)}
    (h : e ∈ es.foldl (fun acc e ↦ putEntry e.1 e.2 acc) acc) :
    e ∈ acc ∨ ∃ set ∈ es, e.2 = set.2 := by
  induction es generalizing acc with
  | nil => exact .inl h
  | cons set es ih =>
    rcases ih h with hput | ⟨other, hother, heq⟩
    · rcases snd_mem_of_putEntry hput with heq | hacc
      · exact .inr ⟨set, List.mem_cons_self .., heq⟩
      · exact .inl hacc
    · exact .inr ⟨other, List.mem_cons_of_mem _ hother, heq⟩

/-- Every datum is one that was set. -/
theorem exists_of_mem_ofEntries (h : e ∈ ofEntries es) : ∃ set ∈ es, e.2 = set.2 :=
  (exists_of_mem_foldl_putEntry h).resolve_left List.not_mem_nil

/-- A datum that can not be a key makes the text malformed. -/
theorem eq_error_of_asKey {depth : Nat} {x : Except Found Datum} {found : Found}
    (h : asKey depth x = .error found) (hf : found.fault ≠ .malformed) : x = .error found := by
  cases x with
  | ok d => cases d <;> cases h <;> exact absurd rfl hf
  | error f =>
    have hone : (if depth < f.depth then ⟨depth, .malformed⟩ else f) = found := Except.error.inj h
    split at hone
    · exact absurd (congrArg Found.fault hone).symm hf
    · exact congrArg _ hone

theorem ofScalar_eq_ok_iff {depth : Nat} {tag : Tag} {t : ScalarText} :
    ofScalar depth tag t = .ok d ↔ ∃ l, Leaf.ofScalar tag t = .ok l ∧ .leaf l = d := by
  rw [ofScalar]
  split <;> simp [*]

theorem exists_misplaced_eq (α : Type) (depth : Nat) (tag : Tag) :
    ∃ place, (misplaced depth tag : Except Found α) = .error ⟨place, .malformed⟩ := by
  cases tag <;> exact ⟨_, rfl⟩

end Datum

/-! ### The steps of building -/

namespace Node

variable (depth : Nat) (tag : Tag)

theorem build_scalar_cases (t : ScalarText) :
    build depth (.scalar tag t) = Datum.ofScalar depth tag t ∨
      ∃ place, build depth (.scalar tag t) = .error ⟨place, .malformed⟩ := by
  rw [build]
  split
  · exact .inl rfl
  · exact .inr (Datum.exists_misplaced_eq _ depth tag)

theorem build_sequence_cases (ns : List Node) :
    build depth (.sequence tag ns) = (buildAll (depth + 1) ns).map .list ∨
      build depth (.sequence tag ns) = (buildPairs (depth + 1) ns).map .list ∨
        ∃ place, build depth (.sequence tag ns) = .error ⟨place, .malformed⟩ := by
  rw [build.eq_def]
  dsimp only
  split
  · exact .inl rfl
  · exact .inr (.inl rfl)
  · exact .inr (.inl rfl)
  · exact .inr (.inr (Datum.exists_misplaced_eq _ depth tag))

/-- A mapping is made of its entries, as a map with just these or as a set; or it is the scalar that
its default value is. -/
theorem build_mapping_cases (es : List (Node × Node)) :
    (∃ make : List (Leaf × Datum) → Datum, (∀ ds ms, make ds = .map ms → ms = ds) ∧
      build depth (.mapping tag es) =
        (buildEntries (depth + 1) es).map fun ds ↦ make (Datum.ofEntries ds)) ∨
      (∃ t, defaultText? es = some t ∧
        build depth (.mapping tag es) = Datum.ofScalar depth tag t) ∨
        ∃ place, build depth (.mapping tag es) = .error ⟨place, .malformed⟩ := by
  rw [build.eq_def]
  dsimp only
  split
  · split
    · exact .inr (.inr ⟨_, rfl⟩)
    · exact .inl ⟨.map, fun ds ms h ↦ (Datum.map.inj h).symm, rfl⟩
  · split
    · exact .inr (.inr ⟨_, rfl⟩)
    · exact .inl ⟨fun ds ↦ .list (ds.map fun e ↦ .leaf e.1), fun _ _ ↦ nofun, rfl⟩
  · split
    · exact .inr (.inl ⟨_, ‹_›, rfl⟩)
    · exact .inr (.inr (Datum.exists_misplaced_eq _ depth tag))

/-- **The key of an entry** is built from a node beside the datum; what it is refused for is that it
can not be a key, or what the node is refused for. -/
theorem exists_key_buildEntry (k v : Node) :
    ∃ key, buildEntry depth (k, v) = bothBuilt Prod.mk key (build depth v) ∧
      ∀ found, key = .error found → found.fault ≠ .malformed → build depth k = .error found := by
  refine ⟨_, by rw [buildEntry.eq_def], fun found h hf ↦ ?_⟩
  split at h
  · cases h
  · exact Datum.eq_error_of_asKey h hf

end Node

/-! ### What is built -/

/-- Some node stands for the datum. -/
def Datum.IsBuilt (d : Datum) : Prop := ∃ n depth, Node.build depth n = .ok d

namespace Node

variable {n : Node} {depth : Nat} {es : List (Leaf × Datum)}

theorem isBuilt_of_buildEntries {entries : List (Node × Node)}
    (h : buildEntries depth entries = .ok es) : ∀ e ∈ es, e.2.IsBuilt := by
  induction entries generalizing es with
  | nil =>
    cases h
    exact nofun
  | cons entry entries ih =>
    -- only the datum of the entry matters here, so its key is left as it comes
    obtain ⟨key, hkey, -⟩ := exists_key_buildEntry depth entry.1 entry.2
    rw [buildEntries, bothBuilt_eq_ok_iff] at h
    obtain ⟨e, rest, he, hrest, rfl⟩ := h
    rw [hkey, bothBuilt_eq_ok_iff] at he
    obtain ⟨key, d, -, hd, rfl⟩ := he
    exact List.forall_mem_cons.2 ⟨⟨entry.2, depth, hd⟩, ih hrest⟩

/-- What is built as a map is made of entries that are built. -/
theorem exists_of_build_eq_map (h : build depth n = .ok (.map es)) :
    ∃ built, es = Datum.ofEntries built ∧ ∀ e ∈ built, e.2.IsBuilt := by
  -- a scalar is a leaf and a sequence a list, so that only a mapping is left
  cases n with
  | scalar tag t =>
    rcases build_scalar_cases depth tag t with heq | ⟨place, heq⟩
    · obtain ⟨l, -, hl⟩ := Datum.ofScalar_eq_ok_iff.1 (heq.symm.trans h)
      cases hl
    · cases heq.symm.trans h
  | sequence tag ns =>
    rcases build_sequence_cases depth tag ns with heq | heq | ⟨place, heq⟩
    · obtain ⟨ds, -, hds⟩ := Text.map_eq_ok_iff.1 (heq.symm.trans h)
      cases hds
    · obtain ⟨ds, -, hds⟩ := Text.map_eq_ok_iff.1 (heq.symm.trans h)
      cases hds
    · cases heq.symm.trans h
  | mapping tag entries =>
    rcases build_mapping_cases depth tag entries with
      ⟨make, hmake, heq⟩ | ⟨t, -, heq⟩ | ⟨place, heq⟩
    · obtain ⟨built, hbuilt, hmap⟩ := Text.map_eq_ok_iff.1 (heq.symm.trans h)
      exact ⟨built, hmake _ _ hmap, isBuilt_of_buildEntries hbuilt⟩
    · obtain ⟨l, -, hl⟩ := Datum.ofScalar_eq_ok_iff.1 (heq.symm.trans h)
      cases hl
    · cases heq.symm.trans h
  | enclosing => cases h

end Node

namespace Datum.IsBuilt

variable {es : List (Leaf × Datum)}

/-- **A map has no key twice.** -/
theorem nodup_keys (h : IsBuilt (.map es)) : (es.map Prod.fst).Nodup := by
  obtain ⟨n, depth, h⟩ := h
  obtain ⟨built, rfl, -⟩ := Node.exists_of_build_eq_map h
  exact nodup_ofEntries built

/-- What a map holds is built as well. -/
theorem of_mem (h : IsBuilt (.map es)) {e : Leaf × Datum} (he : e ∈ es) : e.2.IsBuilt := by
  obtain ⟨n, depth, h⟩ := h
  obtain ⟨built, rfl, hbuilt⟩ := Node.exists_of_build_eq_map h
  obtain ⟨set, hset, heq⟩ := exists_of_mem_ofEntries he
  exact heq ▸ hbuilt set hset

end Datum.IsBuilt

/-- The datum that a text writes is built. -/
theorem Datum.isBuilt_of_read {cs : List Char} {d : Datum} (h : read cs = .ok d) : d.IsBuilt := by
  rw [read] at h
  split at h
  · cases h
  · next n hn =>
    split at h
    · cases h
    · next hbuild => exact ⟨n, 0, hbuild.trans (congrArg _ (Except.ok.inj h))⟩

/-! ### What building is refused for -/

/-- **A scalar stands in a node**, with a tag and a text. A mapping with the tag of a scalar is one
by its default value. -/
inductive Node.Writes : Node → Tag → ScalarText → Prop
  | scalar {tag : Tag} {t : ScalarText} : Writes (.scalar tag t) tag t
  | default {tag : Tag} {es : List (Node × Node)} {t : ScalarText} (h : defaultText? es = some t) :
    Writes (.mapping tag es) tag t
  | item {tag g : Tag} {ns : List Node} {n : Node} {t : ScalarText} (hn : n ∈ ns)
    (h : Writes n tag t) : Writes (.sequence g ns) tag t
  | key {tag g : Tag} {es : List (Node × Node)} {e : Node × Node} {t : ScalarText} (he : e ∈ es)
    (h : Writes e.1 tag t) : Writes (.mapping g es) tag t
  | value {tag g : Tag} {es : List (Node × Node)} {e : Node × Node} {t : ScalarText} (he : e ∈ es)
    (h : Writes e.2 tag t) : Writes (.mapping g es) tag t

/-- **A scalar in the node is not what its tag says**, and that is the fault. -/
def Node.HasMisfit (n : Node) (f : Fault) : Prop :=
  ∃ tag t, n.Writes tag t ∧ Leaf.ofScalar tag t = .error f

namespace Node

variable {n : Node} {depth : Nat} {tag : Tag} {f : Fault} {found : Found} {ns : List Node}
  {es : List (Node × Node)} {e : Node × Node}

theorem HasMisfit.sequence (hn : n ∈ ns) (h : n.HasMisfit f) : (sequence tag ns).HasMisfit f := by
  obtain ⟨g, t, hwrites, hf⟩ := h
  exact ⟨g, t, .item hn hwrites, hf⟩

theorem HasMisfit.mapping (he : e ∈ es) (h : e.1.HasMisfit f ∨ e.2.HasMisfit f) :
    (mapping tag es).HasMisfit f := by
  obtain ⟨g, t, hwrites, hf⟩ | ⟨g, t, hwrites, hf⟩ := h
  · exact ⟨g, t, .key he hwrites, hf⟩
  · exact ⟨g, t, .value he hwrites, hf⟩

end Node

end AgentGraft.Yaml
