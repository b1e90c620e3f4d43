import Mathlib.Data.List.Forall2
import AgentGraft.Proofs.Manifest.Readers

/-!
# What survives reading and writing

A value that is read as a typed object and written again is not the same value: nulls are left out,
what stands for an absent list is written, flags and numbers are written as they were read.
`Value.Survives` says what stays, and that nothing else is added. It is given by the slots of the
object: for each field what is written where it is absent, and how what is written for a value may
differ from it.

`Row.Wf.survives` gets it for a written row out of the slots one by one, and the three ways to read
a field (`required_holds`, `optional_holds`, `orElse_holds`) say what holds of its slot.
-/

namespace AgentGraft

variable {α : Type} {read : Reader α} {dump : α → Value}

/-! ### Slots -/

/-- A field, and what becomes of it. -/
structure Slot where
  field : Field
  /-- What is written where the field is absent. -/
  standIn : Option Value
  /-- What may be written for a value. -/
  Keeps : Value → Value → Prop

/-- A field for which nothing is written where it is absent. -/
def Field.slot (f : Field) (Keeps : Value → Value → Prop) : Slot := ⟨f, none, Keeps⟩

/-- A field for which something is always written. -/
def Field.slotOr (f : Field) (standIn : Value) (Keeps : Value → Value → Prop) : Slot :=
  ⟨f, some standIn, Keeps⟩

/-- What is written for a field, given what was there. -/
structure Slot.Holds (s : Slot) (old new : Option Value) : Prop where
  absent : old = none → new = s.standIn
  null : old = some .null → new = none
  kept : ∀ v, old = some v → v.isNull = false → ∃ w, new = some w ∧ s.Keeps v w

namespace Slot

variable {s : Slot} {v w : Value}

theorem holds_none (s : Slot) : s.Holds none s.standIn where
  absent _ := rfl
  null h := by cases h
  kept v h := by cases h

theorem holds_null (s : Slot) : s.Holds (some .null) none where
  absent h := by cases h
  null _ := rfl
  kept v h hnull := by
    cases h
    cases hnull

theorem holds_some (hnull : v.isNull = false) (h : s.Keeps v w) : s.Holds (some v) (some w) where
  absent h := by cases h
  null hv := by
    cases hv
    cases hnull
  kept u hu _ := by
    cases hu
    exact ⟨w, rfl, h⟩

end Slot

/-! ### Survival -/

/-- The member belongs to one of the slots. -/
def Slot.claims (slots : List Slot) (m : String × Value) : Bool :=
  slots.any fun s ↦ m.1 == s.field.name

/-- **What survives of members**: every slot holds, no field is written twice, and the members that
belong to no slot are the same, in order and without the null ones. -/
structure Members.Survive (slots : List Slot) (o d : Members) : Prop where
  holds : ∀ s ∈ slots, s.Holds (o.find? s.field.name) (d.find? s.field.name)
  once : ((d.filter (Slot.claims slots)).map (·.1)).Nodup
  rest : (d.filter fun m ↦ !Slot.claims slots m) =
    o.filter fun m ↦ !m.2.isNull && !Slot.claims slots m

namespace Value

/-- **What survives of an object.** -/
def Survives (slots : List Slot) (v w : Value) : Prop :=
  ∃ o d, v = .obj o ∧ w = .obj d ∧ Members.Survive slots o d

/-- Of a list, all items survive, in their places. -/
def ItemsSurvive (Survives : Value → Value → Prop) (v w : Value) : Prop :=
  ∃ vs ws, v = .arr vs ∧ w = .arr ws ∧ List.Forall₂ Survives vs ws

/-- What is written is what the value was read as. -/
def AsRead (read : Reader α) (dump : α → Value) (v w : Value) : Prop :=
  ∃ a, read v = .ok a ∧ w = dump a

end Value

/-! ### Single fields -/

namespace Field

variable {f : Field} {o : Members} {Keeps : Value → Value → Prop} {a : α}

/-- What is read where null cannot be is not null. -/
theorem isNull_of_read {v : Value} (hnull : ∀ a, read .null ≠ .ok a) (h : read v = .ok a) :
    v.isNull = false := by
  cases v with
  | null => exact absurd h (hnull a)
  | _ => rfl

/-- **A field that has to be there** is read from a value that is not null. -/
theorem required_holds (h : f.required read o = .ok a) (hnull : ∀ a, read .null ≠ .ok a)
    (hkeeps : ∀ v, f.find? o = some v → read v = .ok a → Keeps v (dump a)) :
    (f.slot Keeps).Holds (f.find? o) (some (dump a)) := by
  rw [required] at h
  split at h
  · cases h
  · next v hv =>
    have hread : read v = .ok a := Checked.under_eq_ok_iff.1 h
    rw [hv]
    exact Slot.holds_some (isNull_of_read hnull hread) (hkeeps v hv hread)

/-- **A field that may be absent or null** is written where it is neither. -/
theorem optional_holds {x : Option α} (h : f.optional read o = .ok x)
    (hkeeps : ∀ v a, f.find? o = some v → read v = .ok a → Keeps v (dump a)) :
    (f.slot Keeps).Holds (f.find? o) (x.map dump) := by
  rw [optional] at h
  split at h
  · next hv =>
    cases h
    rw [hv]
    exact Slot.holds_none _
  · next v hv =>
    have hread : read.nullable v = .ok x := Checked.under_eq_ok_iff.1 h
    rw [hv]
    by_cases hnull : v = .null
    · subst hnull
      cases hread
      exact Slot.holds_null _
    · have hvalue : v.isNull = false := by
        cases v with
        | null => exact absurd rfl hnull
        | _ => rfl
      obtain ⟨a, ha, rfl⟩ := Reader.exists_of_nullable hvalue hread
      exact Slot.holds_some hvalue (hkeeps v a hv ha)

/-- **A field with a default** is written in any case. -/
theorem orElse_holds (dump : α → Value) {d : α} (h : f.orElse d read o = .ok a)
    (hnull : ∀ a, read .null ≠ .ok a)
    (hkeeps : ∀ v, f.find? o = some v → read v = .ok a → Keeps v (dump a)) :
    (f.slotOr (dump d) Keeps).Holds (f.find? o) (some (dump a)) := by
  rcases eq_of_orElse h with ⟨hv, rfl⟩ | ⟨v, hv, hread⟩
  · rw [hv]
    exact Slot.holds_none _
  · rw [hv]
    exact Slot.holds_some (isNull_of_read hnull hread) (hkeeps v hv hread)

end Field

/-! ### Values that stay the same -/

namespace Reader

variable {v : Value}

theorem str_of_text {s : String} (h : text v = .ok s) : v = .str s := by
  cases v with
  | str s' =>
    cases h
    rfl
  | _ => cases h

theorem obj_of_freeMap {ms : Members} (h : freeMap v = .ok ms) : v = .obj ms := by
  cases v with
  | obj ms' =>
    cases h
    rfl
  | _ => cases h

/-- **The items of a list** are read one by one. -/
theorem forall₂_of_itemsFrom {i : Nat} {vs : List Value} {as : List α}
    (h : itemsFrom read i vs = .ok as) : List.Forall₂ (fun v a ↦ read v = .ok a) vs as := by
  induction vs generalizing i as with
  | nil =>
    cases h
    exact .nil
  | cons v vs ih =>
    rw [itemsFrom, Checked.seq_eq_ok_iff] at h
    obtain ⟨g, bs, hg, hbs, rfl⟩ := h
    obtain ⟨b, hb, rfl⟩ := Checked.map_eq_ok_iff.1 hg
    exact .cons (Checked.under_eq_ok_iff.1 hb) (ih hbs)

theorem forall₂_of_list {as : List α} (h : list read v = .ok as) :
    ∃ vs, v = .arr vs ∧ List.Forall₂ (fun v a ↦ read v = .ok a) vs as := by
  cases v with
  | arr vs => exact ⟨vs, rfl, forall₂_of_itemsFrom h⟩
  | _ => cases h

theorem ofTexts_of_list {ss : List String} (h : list text v = .ok ss) : v = .ofTexts ss := by
  obtain ⟨vs, rfl, hvs⟩ := forall₂_of_list h
  have hsame : List.Forall₂ Eq vs (ss.map .str) :=
    List.forall₂_map_right_iff.2 (hvs.imp fun _ _ ↦ str_of_text)
  rw [List.forall₂_eq_eq_eq] at hsame
  rw [Value.ofTexts, hsame]

theorem ofTextMap_of_mapOf {ms : List (String × String)} (h : mapOf text v = .ok ms) :
    v = .ofTextMap ms := by
  cases v with
  | obj o =>
    rw [Value.ofTextMap, Value.obj.injEq]
    induction o generalizing ms with
    | nil =>
      cases h
      rfl
    | cons m o ih =>
      obtain ⟨key, v⟩ := m
      rw [mapOf, entries, Checked.seq_eq_ok_iff] at h
      obtain ⟨g, rest, hg, hrest, rfl⟩ := h
      obtain ⟨s, hs, rfl⟩ := Checked.map_eq_ok_iff.1 hg
      rw [List.map_cons, ← ih hrest, str_of_text (Checked.under_eq_ok_iff.1 hs)]
  | _ => cases h

end Reader

/-- **All items of a list survive** where all that are read do. -/
theorem Value.itemsSurvive_of_list {Survives : Value → Value → Prop} {test : Value → Bool}
    {v : Value} {as : List α} (h : Reader.list read v = .ok as) (htest : each test v = true)
    (hkeeps : ∀ {v a}, test v = true → read v = .ok a → Survives v (dump a)) :
    ItemsSurvive Survives v (.arr (as.map dump)) := by
  obtain ⟨vs, rfl, hvs⟩ := Reader.forall₂_of_list h
  have hboth := (List.forall₂_and_left vs as).2 ⟨List.all_eq_true.1 htest, hvs⟩
  exact ⟨vs, as.map dump, rfl, rfl,
    List.forall₂_map_right_iff.2 (hboth.imp fun _ _ hread ↦ hkeeps hread.1 hread.2)⟩

/-- **A list with a default** is written with all its items. -/
theorem Field.list_holds {f : Field} {o : Members} {Survives : Value → Value → Prop}
    {test : Value → Bool} {as : List α} (h : f.orElse [] (.list read) o = .ok as)
    (htest : ∀ v, f.find? o = some v → Value.each test v = true)
    (hkeeps : ∀ {v a}, test v = true → read v = .ok a → Survives v (dump a)) :
    (f.slotOr (.arr []) (Value.ItemsSurvive Survives)).Holds (f.find? o)
      (some (.arr (as.map dump))) :=
  orElse_holds (fun as ↦ .arr (as.map dump)) h (fun _ ↦ nofun) fun v hv hread ↦
    Value.itemsSurvive_of_list hread (htest v hv) hkeeps

/-! ### Written rows -/

namespace Members

variable {fields : List Field} {o : Members}

/-- In a canonical object a field is read from its name only. -/
theorem reads_eq_name (h : isCanonical fields o = true) {m : String × Value} (hm : m ∈ o)
    {f : Field} (hf : f ∈ fields) : f.reads o m.1 = (m.1 == f.name) := by
  have hkey := List.all_eq_true.1 (List.all_eq_true.1 h m hm) f hf
  rw [Bool.or_eq_true, beq_iff_eq, bne_iff_ne] at hkey
  rw [reads_eq_spells h hm hf, Field.spells]
  rcases hkey with hone | hother
  · rw [hone, Bool.or_self]
  · rw [beq_eq_false_iff_ne.2 hother, Bool.or_false]

/-- In a canonical object a field is found under its name only. -/
theorem find?_of_isCanonical (h : isCanonical fields o = true) {f : Field} (hf : f ∈ fields) :
    f.find? o = o.find? f.name := by
  rw [Field.find?]
  by_cases hother : f.other = f.name
  · rw [hother, Option.or_self]
  · have hnone : o.find? f.other = none := by
      rw [find?_eq_none_iff]
      intro m hm heq
      have hkey := List.all_eq_true.1 (List.all_eq_true.1 h m hm) f hf
      simp [hother, heq] at hkey
    rw [hnone, Option.or_none]

end Members

namespace Row

variable {r : Row} {o extra : Members} {slots : List Slot}

/-- No name is written twice. -/
theorem nodup_map_fst_members (h : r.fields.Pairwise Field.Apart) :
    (r.members.map (·.1)).Nodup := by
  have hnames : (r.fields.map (·.name)).Nodup := List.pairwise_map.2 (h.imp fun hfg ↦ hfg.1)
  refine hnames.sublist ?_
  clear h hnames
  induction r with
  | nil => exact List.Sublist.refl _
  | cons cell r ih =>
    rw [members_cons, List.map_append]
    rcases hcell : cell.2 with - | v
    · exact ih.cons _
    · exact ih.cons_cons _

/-- The slot is that of the cell, and holds of what is written there. -/
def Fits (o : Members) (s : Slot) (cell : Field × Option Value) : Prop :=
  s.field = cell.1 ∧ s.Holds (cell.1.find? o) cell.2

theorem map_field_of_fits (h : List.Forall₂ (Fits o) slots r) : slots.map (·.field) = r.fields := by
  induction h with
  | nil => rfl
  | cons hfits _ ih =>
    rw [List.map_cons, hfits.1, ih]
    rfl

theorem exists_fits (h : List.Forall₂ (Fits o) slots r) {s : Slot} (hs : s ∈ slots) :
    ∃ cell ∈ r, Fits o s cell := by
  induction h with
  | nil => cases hs
  | cons hfits _ ih =>
    rcases List.mem_cons.1 hs with rfl | hs
    · exact ⟨_, List.mem_cons_self .., hfits⟩
    · obtain ⟨cell, hcell, hfits⟩ := ih hs
      exact ⟨cell, List.mem_cons_of_mem _ hcell, hfits⟩

/-- **A written row**: where all slots fit what is written for their fields, the object survives. -/
theorem Wf.survive (hw : r.Wf extra) (hc : Members.isCanonical r.fields o = true)
    (hextra : o.rest r.fields = extra) (h : List.Forall₂ (Fits o) slots r) :
    Members.Survive slots o (r.members ++ extra) := by
  have hclaims (m : String × Value) : Slot.claims slots m = r.fields.any fun f ↦ m.1 == f.name := by
    rw [← map_field_of_fits h, List.any_map]
    rfl
  have hwritten : ∀ m ∈ r.members, Slot.claims slots m = true := by
    intro m hm
    obtain ⟨f, hf, hname⟩ := exists_field_of_mem hm
    rw [hclaims]
    exact List.any_eq_true.2 ⟨f, hf, by rw [hname, beq_self_eq_true]⟩
  have hforeign : ∀ m ∈ extra, Slot.claims slots m = false := by
    intro m hm
    rw [hclaims, List.any_eq_false]
    intro f hf heq
    have hspells := (hw.foreign m hm).2 f hf
    rw [Field.spells, heq] at hspells
    cases hspells
  refine ⟨fun s hs ↦ ?_, ?_, ?_⟩
  · obtain ⟨⟨f, v⟩, hcell, hfield, hholds⟩ := exists_fits h hs
    have hf : f ∈ r.fields := List.mem_map_of_mem hcell
    obtain rfl : s.field = f := hfield
    rw [← Members.find?_of_isCanonical hc hf, hw.find?_name hcell]
    exact hholds
  · rw [List.filter_append, List.filter_eq_self.2 hwritten,
      List.filter_eq_nil_iff.2 fun m hm ↦ by rw [hforeign m hm]; exact Bool.false_ne_true,
      List.append_nil]
    exact nodup_map_fst_members hw.apart
  · have hnone : (r.members.filter fun m ↦ !Slot.claims slots m) = [] :=
      List.filter_eq_nil_iff.2 fun m hm ↦ by simp [hwritten m hm]
    have hall : (extra.filter fun m ↦ !Slot.claims slots m) = extra :=
      List.filter_eq_self.2 fun m hm ↦ by simp [hforeign m hm]
    rw [List.filter_append, hnone, hall, List.nil_append, ← hextra, Members.rest]
    refine List.filter_congr fun m hm ↦ ?_
    rw [hclaims]
    congr 2
    rw [Bool.eq_iff_iff, List.any_eq_true, List.any_eq_true]
    exact exists_congr fun f ↦ and_congr_right fun hf ↦ by rw [Members.reads_eq_name hc hm hf]

/-- So an object survives that is written as such a row. -/
theorem survives (hapart : r.fields.Pairwise Field.Apart)
    (hc : Members.isCanonical r.fields o = true) (hextra : o.rest r.fields = extra)
    (h : List.Forall₂ (Fits o) slots r) :
    Value.Survives slots (.obj o) (.obj (r.members ++ extra)) :=
  have hw : r.Wf extra := ⟨hapart, hextra ▸ Members.foreign_rest hc⟩
  ⟨o, _, rfl, rfl, hw.survive hc hextra h⟩

end Row

end AgentGraft
