import AgentGraft.Proofs.Manifest.Rows

/-!
# Readers and what is written for them

`ReadsBack` is the law between a reader and the way values are written: what was written is read as
what it was. It passes from the items of a list to the list, and in a row from the values of the
fields to the fields.

The other way round, what a field was read from is a part of the object, so a property of all parts
passes on to what is read: this is how `Value.isCanonical` gets from a document to its leaves.
-/

namespace AgentGraft

variable {α : Type} {read : Reader α} {dump : α → Value}

/-! ### Reading back -/

/-- Written and read again, `a` is the same; and it is not written as null. -/
structure ReadsBack (read : Reader α) (dump : α → Value) (a : α) : Prop where
  notNull : (dump a).isNull = false
  eq_ok : read (dump a) = .ok a

namespace ReadsBack

theorem text (s : String) : ReadsBack .text .str s := ⟨rfl, rfl⟩

theorem flag (b : Bool) : ReadsBack .flag .bool b := ⟨rfl, rfl⟩

theorem integer (i : Int) : ReadsBack .integer .int i := ⟨rfl, rfl⟩

theorem freeMap (ms : Members) : ReadsBack .freeMap .obj ms := ⟨rfl, rfl⟩

theorem itemsFrom {as : List α} (h : ∀ a ∈ as, ReadsBack read dump a) (i : Nat) :
    Reader.itemsFrom read i (as.map dump) = .ok as := by
  induction as generalizing i with
  | nil => rfl
  | cons a as ih =>
    rw [List.map_cons, Reader.itemsFrom, (h a (List.mem_cons_self ..)).eq_ok,
      ih fun b hb ↦ h b (List.mem_cons_of_mem _ hb)]
    rfl

/-- **A list reads back** when its items do. -/
theorem list {as : List α} (h : ∀ a ∈ as, ReadsBack read dump a) :
    ReadsBack (.list read) (fun as ↦ .arr (as.map dump)) as :=
  ⟨rfl, itemsFrom h 0⟩

theorem texts (ss : List String) : ReadsBack (.list .text) Value.ofTexts ss :=
  list fun s _ ↦ text s

theorem textMap (ms : List (String × String)) : ReadsBack (.mapOf .text) Value.ofTextMap ms := by
  refine ⟨rfl, ?_⟩
  rw [Value.ofTextMap, Reader.mapOf]
  induction ms with
  | nil => rfl
  | cons m ms ih =>
    rw [List.map_cons, Reader.entries, ih]
    rfl

theorem nullable {a : α} (h : ReadsBack read dump a) :
    read.nullable (dump a) = .ok (some a) := by
  have hnull := h.notNull
  have heq := h.eq_ok
  revert hnull heq
  cases dump a with
  | null => exact nofun
  | _ =>
    intro _ heq
    simp [Reader.nullable, heq]

end ReadsBack

namespace Row.Wf

variable {r : Row} {extra : Members} {f : Field}

theorem required (h : r.Wf extra) {a : α} (hf : (f, some (dump a)) ∈ r)
    (ha : ReadsBack read dump a) : f.required read (r.members ++ extra) = .ok a := by
  simp [Field.required, h.find? hf, ha.eq_ok]

theorem optional (h : r.Wf extra) {x : Option α} (hf : (f, x.map dump) ∈ r)
    (hx : ∀ a ∈ x, ReadsBack read dump a) : f.optional read (r.members ++ extra) = .ok x := by
  cases x with
  | none => simp [Field.optional, h.find? hf]
  | some a => simp [Field.optional, h.find? hf, (hx a rfl).nullable]

theorem orElse (h : r.Wf extra) {a d : α} (hf : (f, some (dump a)) ∈ r)
    (ha : ReadsBack read dump a) : f.orElse d read (r.members ++ extra) = .ok a := by
  simp [Field.orElse, h.find? hf, ha.eq_ok]

end Row.Wf

/-! ### Parts of what is read -/

namespace Reader

theorem object_eq_ok_iff {ofMembers : Members → Checked α} {refusal : IssueKind} {v : Value}
    {a : α} : object ofMembers refusal v = .ok a ↔ ∃ o, v = .obj o ∧ ofMembers o = .ok a := by
  cases v <;> simp [object, Checked.fail]

theorem exists_of_itemsFrom {as : List α} {i : Nat} {vs : List Value}
    (h : itemsFrom read i vs = .ok as) {a : α} (ha : a ∈ as) : ∃ v ∈ vs, read v = .ok a := by
  induction vs generalizing i as with
  | nil =>
    cases h
    simp at ha
  | cons v vs ih =>
    rw [itemsFrom, Checked.seq_eq_ok_iff] at h
    obtain ⟨g, bs, hg, hbs, rfl⟩ := h
    obtain ⟨b, hb, rfl⟩ := Checked.map_eq_ok_iff.1 hg
    rcases List.mem_cons.1 ha with rfl | ha
    · exact ⟨v, List.mem_cons_self .., Checked.under_eq_ok_iff.1 hb⟩
    · obtain ⟨w, hw, hread⟩ := ih hbs ha
      exact ⟨w, List.mem_cons_of_mem _ hw, hread⟩

/-- Every item of a list is read. -/
theorem exists_mem_of_itemsFrom {as : List α} {i : Nat} {vs : List Value}
    (h : itemsFrom read i vs = .ok as) {v : Value} (hv : v ∈ vs) : ∃ a ∈ as, read v = .ok a := by
  induction vs generalizing i as with
  | nil => cases hv
  | cons w vs ih =>
    rw [itemsFrom, Checked.seq_eq_ok_iff] at h
    obtain ⟨g, bs, hg, hbs, rfl⟩ := h
    obtain ⟨b, hb, rfl⟩ := Checked.map_eq_ok_iff.1 hg
    rcases List.mem_cons.1 hv with rfl | hv
    · exact ⟨b, List.mem_cons_self .., Checked.under_eq_ok_iff.1 hb⟩
    · obtain ⟨a, ha, hread⟩ := ih hbs hv
      exact ⟨a, List.mem_cons_of_mem _ ha, hread⟩

/-- What is not null is read as a value. -/
theorem exists_of_nullable {v : Value} {x : Option α} (hv : v.isNull = false)
    (h : read.nullable v = .ok x) : ∃ a, read v = .ok a ∧ x = some a := by
  have hsome : some <$> read v = .ok x := by
    cases v with
    | null => cases hv
    | _ => exact h
  obtain ⟨a, ha, rfl⟩ := Checked.map_eq_ok_iff.1 hsome
  exact ⟨a, ha, rfl⟩

theorem eq_of_nullable {v : Value} {a : α} (h : read.nullable v = .ok (some a)) :
    read v = .ok a := by
  have hv : v.isNull = false := by
    cases v with
    | null => cases h
    | _ => rfl
  obtain ⟨b, hb, heq⟩ := exists_of_nullable hv h
  rw [hb, Option.some.inj heq]

end Reader

namespace Field

variable {f : Field} {o : Members}

theorem eq_of_optional {a : α} (h : f.optional read o = .ok (some a)) :
    ∃ v, f.find? o = some v ∧ read v = .ok a := by
  rw [optional] at h
  split at h
  · cases h
  · exact ⟨_, ‹_›, Reader.eq_of_nullable (Checked.under_eq_ok_iff.1 h)⟩

theorem eq_of_orElse {d a : α} (h : f.orElse d read o = .ok a) :
    (f.find? o = none ∧ d = a) ∨ ∃ v, f.find? o = some v ∧ read v = .ok a := by
  rw [orElse] at h
  split at h
  · exact .inl ⟨‹_›, Checked.ok.inj h⟩
  · exact .inr ⟨_, ‹_›, Checked.under_eq_ok_iff.1 h⟩

end Field

/-! ### Canonical documents -/

namespace Value

/-- The test holds of every item, if the value is a list. -/
def each (test : Value → Bool) : Value → Bool
  | .arr items => items.all test
  | _ => true

/-- No field is spelled the other way, in the object and in those of its parts that are objects with
fields of their own. What is no object at all is no concern of this. -/
def isCanonical (fields : List Field) (parts : List (Field × (Value → Bool))) : Value → Bool
  | .obj o => Members.isCanonical fields o && parts.all fun p ↦ (p.1.find? o).all p.2
  | _ => true

variable {fields : List Field} {parts : List (Field × (Value → Bool))} {o : Members}

theorem members_of_isCanonical (h : isCanonical fields parts (.obj o) = true) :
    Members.isCanonical fields o = true :=
  (Bool.and_eq_true_iff.1 h).1

theorem part_of_isCanonical (h : isCanonical fields parts (.obj o) = true) {f : Field}
    {test : Value → Bool} (hf : (f, test) ∈ parts) {v : Value} (hv : f.find? o = some v) :
    test v = true := by
  have hpart := List.all_eq_true.1 (Bool.and_eq_true_iff.1 h).2 (f, test) hf
  simpa [hv] using hpart

variable {f : Field} {test : Value → Bool} {P : α → Prop}

/-- What passes on from canonical values to what is read passes on to an optional part. -/
theorem forall_of_optional (h : isCanonical fields parts (.obj o) = true)
    (hf : (f, test) ∈ parts) (hP : ∀ {v a}, test v = true → read v = .ok a → P a) {x : Option α}
    (hx : f.optional read o = .ok x) : ∀ a ∈ x, P a := by
  rintro a rfl
  obtain ⟨v, hv, hread⟩ := Field.eq_of_optional hx
  exact hP (part_of_isCanonical h hf hv) hread

/-- It passes on to the items of a list as well. -/
theorem forall_of_list (h : isCanonical fields parts (.obj o) = true)
    (hf : (f, each test) ∈ parts) (hP : ∀ {v a}, test v = true → read v = .ok a → P a)
    {as : List α} (has : f.orElse [] (.list read) o = .ok as) : ∀ a ∈ as, P a := by
  intro a ha
  rcases Field.eq_of_orElse has with ⟨-, rfl⟩ | ⟨v, hv, hread⟩
  · simp at ha
  · have heach := part_of_isCanonical h hf hv
    cases v with
    | arr items =>
      obtain ⟨item, hitem, hread⟩ := Reader.exists_of_itemsFrom hread ha
      exact hP (List.all_eq_true.1 heach item hitem) hread
    | _ => cases hread

end Value

end AgentGraft
