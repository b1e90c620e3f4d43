import Mathlib.Data.List.Pairwise
import AgentGraft.Proofs.Value.Members
import AgentGraft.Schema

/-!
# Members that are written and read back

What a typed object is made of when it is written: for each of its fields the value of that field,
where there is one, and after them the members that it does not interpret. Written this way every
field finds its own value again, and what remains is the uninterpreted members.

* `Row.Wf` is what this rests on: no two fields share a spelling, and the uninterpreted members are
  `Foreign`: neither null nor spelled like a field.
* `foreign_rest` is where foreign members come from. What a reading leaves over can still be spelled
  like a field, as the other spelling of one that is there; an object that `IsCanonical`, in which
  no field is spelled the other way, leaves no such member over.
-/

namespace AgentGraft

variable {α β : Type}

/-! ### Outcomes that are values -/

namespace Checked

@[simp] theorem pure_eq (a : α) : (pure a : Checked α) = .ok a := rfl

@[simp] theorem map_ok (f : α → β) (a : α) : f <$> Checked.ok a = .ok (f a) := rfl

@[simp] theorem ok_seq_ok (f : α → β) (a : α) : Checked.ok f <*> Checked.ok a = .ok (f a) := rfl

theorem map_eq_ok_iff {f : α → β} {x : Checked α} {b : β} :
    f <$> x = .ok b ↔ ∃ a, x = .ok a ∧ f a = b := by
  cases x with
  | ok a => simp
  | bad issues => exact ⟨nofun, fun ⟨_, h, _⟩ ↦ nomatch h⟩

theorem seq_eq_ok_iff {f : Checked (α → β)} {x : Checked α} {b : β} :
    f <*> x = .ok b ↔ ∃ g a, f = .ok g ∧ x = .ok a ∧ g a = b := by
  cases f with
  | ok g =>
    cases x with
    | ok a => simp
    | bad issues => exact ⟨nofun, fun ⟨_, _, _, h, _⟩ ↦ nomatch h⟩
  | bad issues => cases x <;> exact ⟨nofun, fun ⟨_, _, h, _⟩ ↦ nomatch h⟩

@[simp] theorem under_eq_ok_iff {step : Step} {x : Checked α} {a : α} :
    x.under step = .ok a ↔ x = .ok a := by
  cases x <;> simp [under]

end Checked

/-! ### Spellings -/

/-- The key is one of the spellings of the field. -/
def Field.spells (f : Field) (key : String) : Bool := key == f.name || key == f.other

/-- Neither spelling of the one field is one of the other field. -/
def Field.Apart (f g : Field) : Prop :=
  f.name ≠ g.name ∧ f.name ≠ g.other ∧ f.other ≠ g.name ∧ f.other ≠ g.other

instance (f g : Field) : Decidable (f.Apart g) := inferInstanceAs (Decidable (_ ∧ _))

instance : Std.Symm Field.Apart :=
  ⟨fun _ _ h ↦ ⟨h.1.symm, h.2.2.1.symm, h.2.1.symm, h.2.2.2.symm⟩⟩

/-- Members that belong to no field, and that are not null. -/
def Members.Foreign (fields : List Field) (extra : Members) : Prop :=
  ∀ m ∈ extra, m.2.isNull = false ∧ ∀ f ∈ fields, f.spells m.1 = false

theorem Members.foreign_nil (fields : List Field) : Foreign fields [] := nofun

/-- **No field is spelled the other way.** Fields with one spelling do not matter. -/
def Members.isCanonical (fields : List Field) (o : Members) : Bool :=
  o.all fun m ↦ fields.all fun f ↦ f.other == f.name || m.1 != f.other

/-- In a canonical object the fields are read from their names only. -/
theorem Members.reads_eq_spells {fields : List Field} {o : Members}
    (h : isCanonical fields o = true) {m : String × Value} (hm : m ∈ o) {f : Field}
    (hf : f ∈ fields) : f.reads o m.1 = f.spells m.1 := by
  have hkey := List.all_eq_true.1 (List.all_eq_true.1 h m hm) f hf
  rw [Bool.or_eq_true, beq_iff_eq, bne_iff_ne] at hkey
  rw [Field.reads, Field.spells]
  rcases hkey with hone | hother
  · by_cases hname : m.1 = f.name
    · simp [hone, hname]
    · simp [hone, hname]
  · rw [beq_eq_false_iff_ne.2 hother, Bool.false_and]

/-- **What a canonical object leaves over** is foreign to its fields. -/
theorem Members.foreign_rest {fields : List Field} {o : Members}
    (h : isCanonical fields o = true) : Foreign fields (o.rest fields) := by
  intro m hm
  obtain ⟨hmem, hrest⟩ := List.mem_filter.1 hm
  rw [Bool.and_eq_true, Bool.not_eq_true', Bool.not_eq_true', List.any_eq_false] at hrest
  refine ⟨hrest.1, fun f hf ↦ ?_⟩
  rw [← reads_eq_spells h hmem hf]
  exact Bool.eq_false_iff.2 (hrest.2 f hf)

/-! ### Rows -/

/-- The fields of an object with what is written for them. -/
abbrev Row := List (Field × Option Value)

namespace Row

variable {r : Row} {extra : Members} {f : Field}

/-- The members that are written. -/
def members (r : Row) : Members := r.flatMap fun cell ↦ cell.1.write? cell.2

/-- The fields of a row. -/
abbrev fields (r : Row) : List Field := r.map Prod.fst

theorem members_cons (cell : Field × Option Value) (r : Row) :
    members (cell :: r) = cell.1.write? cell.2 ++ members r := List.flatMap_cons

theorem mem_write?_iff {m : String × Value} {v : Option Value} :
    m ∈ f.write? v ↔ m.1 = f.name ∧ v = some m.2 := by
  cases v with
  | none => simp [Field.write?]
  | some v =>
    rw [Field.write?, Field.write, List.mem_singleton, Prod.ext_iff, Option.some_inj,
      eq_comm (a := v)]

/-- Every member of a row is named after a field of it. -/
theorem exists_field_of_mem {m : String × Value} (hm : m ∈ r.members) :
    ∃ f ∈ r.fields, m.1 = f.name := by
  obtain ⟨cell, hcell, hmem⟩ := List.mem_flatMap.1 hm
  exact ⟨cell.1, List.mem_map_of_mem hcell, (mem_write?_iff.1 hmem).1⟩

/-- A row can be read back: its fields are apart and the members after it are foreign. -/
structure Wf (r : Row) (extra : Members) : Prop where
  apart : r.fields.Pairwise Field.Apart
  foreign : Members.Foreign r.fields extra

/-- A field finds its own value under its name. -/
theorem find?_members (hr : r.fields.Pairwise Field.Apart) {v : Option Value} (hf : (f, v) ∈ r) :
    r.members.find? f.name = v := by
  induction r with
  | nil => simp at hf
  | cons cell r ih =>
    obtain ⟨hcell, hr⟩ := List.pairwise_cons.1 hr
    rw [members_cons, Members.find?_append]
    rcases List.mem_cons.1 hf with rfl | hmem
    · cases v with
      | some v => simp [Field.write?, Field.write, Members.find?_cons]
      | none =>
        rw [Field.write?, Members.find?_nil, Option.none_or, Members.find?_eq_none_iff]
        intro m hm heq
        obtain ⟨g, hg, hname⟩ := exists_field_of_mem hm
        exact (hcell g hg).1 (heq.symm.trans hname)
    · have hne := (hcell f (List.mem_map_of_mem hmem)).1
      have hnone : Members.find? f.name (cell.1.write? cell.2) = none :=
        Members.find?_eq_none_iff.2 fun m hm heq ↦ hne ((mem_write?_iff.1 hm).1.symm.trans heq)
      rw [hnone, Option.none_or, ih hr hmem]

theorem find?_eq_none_of_foreign (h : Members.Foreign r.fields extra) {key : String}
    (hf : f ∈ r.fields) (hkey : f.spells key = true) : extra.find? key = none := by
  rw [Members.find?_eq_none_iff]
  rintro m hm rfl
  rw [(h m hm).2 f hf] at hkey
  cases hkey

/-- A field has its own value under its name, whatever is written around it. -/
theorem Wf.find?_name (h : r.Wf extra) {v : Option Value} (hf : (f, v) ∈ r) :
    (r.members ++ extra).find? f.name = v := by
  rw [Members.find?_append, find?_members h.apart hf,
    find?_eq_none_of_foreign h.foreign (List.mem_map_of_mem hf) (by simp [Field.spells]),
    Option.or_none]

/-- **A field finds its own value**, whatever is written around it. -/
theorem Wf.find? (h : r.Wf extra) {v : Option Value} (hf : (f, v) ∈ r) :
    f.find? (r.members ++ extra) = v := by
  have hmem : f ∈ r.fields := List.mem_map_of_mem hf
  have hname : (r.members ++ extra).find? f.name = v := h.find?_name hf
  by_cases hother : f.other = f.name
  · rw [Field.find?, hother, hname, Option.or_self]
  · have hnone : (r.members ++ extra).find? f.other = none := by
      rw [Members.find?_append, find?_eq_none_of_foreign h.foreign hmem (by simp [Field.spells]),
        Option.or_none, Members.find?_eq_none_iff]
      intro m hm heq
      obtain ⟨g, hg, hgname⟩ := exists_field_of_mem hm
      -- the one field that is named like this would be the field itself
      by_cases hfg : g = f
      · exact hother (heq.symm.trans (hgname.trans (congrArg Field.name hfg)))
      · have hapart := h.apart.forall hg hmem hfg
        exact hapart.2.1 (hgname.symm.trans heq)
    rw [Field.find?, hname, hnone, Option.or_none]

/-- **Nothing else is left over** than the members after the row. -/
theorem Wf.rest (h : r.Wf extra) : (r.members ++ extra).rest r.fields = extra := by
  rw [Members.rest, List.filter_append]
  have hwritten : r.members.filter (fun m ↦ !m.2.isNull &&
      !r.fields.any (·.reads (r.members ++ extra) m.1)) = [] := by
    refine List.filter_eq_nil_iff.2 fun m hm ↦ ?_
    obtain ⟨f, hf, hname⟩ := exists_field_of_mem hm
    have hany : r.fields.any (·.reads (r.members ++ extra) m.1) = true :=
      List.any_eq_true.2 ⟨f, hf, by simp [Field.reads, hname]⟩
    simp [hany]
  have hextra : extra.filter (fun m ↦ !m.2.isNull &&
      !r.fields.any (·.reads (r.members ++ extra) m.1)) = extra := by
    refine List.filter_eq_self.2 fun m hm ↦ ?_
    obtain ⟨hnull, hforeign⟩ := h.foreign m hm
    rw [hnull, Bool.not_false, Bool.true_and, Bool.not_eq_true', List.any_eq_false]
    intro f hf hreads
    have hspells := hforeign f hf
    rw [Field.spells, Bool.or_eq_false_iff] at hspells
    simp [Field.reads, hspells.1, hspells.2] at hreads
  rw [hwritten, hextra, List.nil_append]

end Row

end AgentGraft
