import AgentGraft.Proofs.Value.Members
import AgentGraft.Proofs.Yaml.Building
import AgentGraft.Settings

/-!
# What a section gives

The entries of a section that has been read have no key twice. So what stands under a text does not
depend on where it stands, and the members that are made of the entries are found under the same
texts: each with the value of its datum, as far as it is one that is read (`find?_of_mapM_member?`).
There are members exactly when all these data are values.
-/

namespace AgentGraft

open Yaml

/-! ### Entries under texts -/

namespace Yaml.Datum

variable {key : String} {d : Datum} {es : List (Leaf × Datum)}

theorem under?_cons (key : String) (e : Leaf × Datum) (es : List (Leaf × Datum)) :
    under? key (e :: es) = if e.1 = .text key then some e.2 else under? key es := by
  rw [under?, List.lookup_cons]
  by_cases h : e.1 = .text key
  · simp [h]
  · rw [if_neg h, beq_eq_false_iff_ne.2 (Ne.symm h)]
    rfl

theorem mem_of_under? (h : under? key es = some d) : (.text key, d) ∈ es := by
  induction es with
  | nil => cases h
  | cons e es ih =>
    rw [under?_cons] at h
    split at h
    · next hkey =>
      rw [← hkey, ← Option.some.inj h]
      exact List.mem_cons_self ..
    · exact List.mem_cons_of_mem _ (ih h)

/-- Where no key is there twice, every datum is found. -/
theorem under?_eq_some_iff (hes : (es.map Prod.fst).Nodup) :
    under? key es = some d ↔ (.text key, d) ∈ es := by
  refine ⟨mem_of_under?, fun h ↦ ?_⟩
  induction es with
  | nil => cases h
  | cons e es ih =>
    rw [List.map_cons, List.nodup_cons] at hes
    rw [under?_cons]
    rcases List.mem_cons.1 h with rfl | h
    · exact if_pos rfl
    · rw [if_neg fun hkey ↦ hes.1 (List.mem_map.2 ⟨_, h, hkey.symm⟩), ih hes.2 h]

end Yaml.Datum

namespace Settings

variable {isRead : String → Bool} {es : List (Leaf × Datum)}
  {ms : List (Option (String × Value))}

/-! ### Members of entries -/

/-- An entry is read, as a member if its datum is a value; or it is passed over. -/
theorem member?_cases (isRead : String → Bool) (e : Leaf × Datum) :
    (∃ key, e.1 = .text key ∧ isRead key = true ∧
      member? isRead e = e.2.toValue?.map fun v ↦ some (key, v)) ∨
      (∀ key, e.1 = .text key → isRead key = false) ∧ member? isRead e = some none := by
  rw [member?]
  split
  · next key hkey =>
    split
    · exact .inl ⟨key, hkey, ‹_›, rfl⟩
    · next hread =>
      refine .inr ⟨fun other hother ↦ ?_, rfl⟩
      cases hkey.symm.trans hother
      exact Bool.eq_false_iff.2 hread
  · next hkey => exact .inr ⟨fun key h ↦ (hkey key h).elim, rfl⟩

theorem mapM_member?_cons_eq_some_iff {e : Leaf × Datum} :
    (e :: es).mapM (member? isRead) = some ms ↔
      ∃ m rest, member? isRead e = some m ∧ es.mapM (member? isRead) = some rest ∧
        m :: rest = ms := by
  simp [List.mapM_cons, Option.bind_eq_some_iff]

/-- **A member is found** under each key that is read, with the value of what is under it. -/
theorem find?_of_mapM_member? (h : es.mapM (member? isRead) = some ms) (key : String) :
    Members.find? key (ms.filterMap id) =
      if isRead key then (Datum.under? key es).bind Datum.toValue? else none := by
  induction es generalizing ms with
  | nil =>
    cases h
    simp [Datum.under?]
  | cons e es ih =>
    obtain ⟨m, rest, hm, hrest, rfl⟩ := mapM_member?_cons_eq_some_iff.1 h
    rw [Datum.under?_cons]
    rcases member?_cases isRead e with ⟨own, hown, hread, heq⟩ | ⟨hpassed, heq⟩
    · obtain ⟨v, hv, rfl⟩ := Option.map_eq_some_iff.1 (heq.symm.trans hm)
      rw [List.filterMap_cons_some (f := id) rfl, Members.find?_cons, ih hrest, hown]
      by_cases hkey : key = own
      · simp [hkey, hread, hv]
      · simp [hkey, Ne.symm hkey]
    · cases heq.symm.trans hm
      rw [List.filterMap_cons_none (f := id) rfl, ih hrest]
      by_cases hkey : e.1 = .text key
      · simp [hpassed key hkey]
      · rw [if_neg hkey]

/-- The keys of the members are those of entries, in the same order. -/
theorem sublist_of_mapM_member? (h : es.mapM (member? isRead) = some ms) :
    ((ms.filterMap id).map fun m ↦ Leaf.text m.1).Sublist (es.map Prod.fst) := by
  induction es generalizing ms with
  | nil =>
    cases h
    exact .slnil
  | cons e es ih =>
    obtain ⟨m, rest, hm, hrest, rfl⟩ := mapM_member?_cons_eq_some_iff.1 h
    rcases member?_cases isRead e with ⟨own, hown, -, heq⟩ | ⟨-, heq⟩
    · obtain ⟨v, -, rfl⟩ := Option.map_eq_some_iff.1 (heq.symm.trans hm)
      rw [List.filterMap_cons_some (f := id) rfl, List.map_cons, List.map_cons, hown]
      exact (ih hrest).cons_cons _
    · cases heq.symm.trans hm
      rw [List.filterMap_cons_none (f := id) rfl]
      exact (ih hrest).cons _

/-- No member is there twice. -/
theorem nodup_of_mapM_member? (hes : (es.map Prod.fst).Nodup)
    (h : es.mapM (member? isRead) = some ms) : ((ms.filterMap id).map Prod.fst).Nodup := by
  have htexts : (((ms.filterMap id).map Prod.fst).map Leaf.text).Nodup := by
    rw [List.map_map]
    exact hes.sublist (sublist_of_mapM_member? h)
  exact htexts.of_map _

/-- **There are members** exactly when all data that are read are values. -/
theorem exists_mapM_member?_iff :
    (∃ ms, es.mapM (member? isRead) = some ms) ↔
      ∀ key d, (.text key, d) ∈ es → isRead key = true → ∃ v, d.toValue? = some v := by
  induction es with
  | nil => simp
  | cons e es ih =>
    constructor
    · rintro ⟨ms, h⟩ key d hmem hread
      obtain ⟨m, rest, hm, hrest, rfl⟩ := mapM_member?_cons_eq_some_iff.1 h
      rcases List.mem_cons.1 hmem with rfl | hmem
      · rcases member?_cases isRead (.text key, d) with ⟨own, -, -, heq⟩ | ⟨hpassed, -⟩
        · obtain ⟨v, hv, -⟩ := Option.map_eq_some_iff.1 (heq.symm.trans hm)
          exact ⟨v, hv⟩
        · cases (hpassed key rfl).symm.trans hread
      · exact ih.1 ⟨rest, hrest⟩ key d hmem hread
    · intro h
      obtain ⟨rest, hrest⟩ := ih.2 fun key d hmem ↦ h key d (List.mem_cons_of_mem _ hmem)
      rcases member?_cases isRead e with ⟨own, hown, hread, heq⟩ | ⟨-, heq⟩
      · obtain ⟨v, hv⟩ := h own e.2 (hown ▸ List.mem_cons_self ..) hread
        rw [hv] at heq
        exact ⟨_, mapM_member?_cons_eq_some_iff.2 ⟨_, rest, heq, hrest, rfl⟩⟩
      · exact ⟨_, mapM_member?_cons_eq_some_iff.2 ⟨_, rest, heq, hrest, rfl⟩⟩

/-! ### The section of a file -/

/-- The section of a file, if it can be read and has one. -/
def sectionOf? (octets : List UInt8) : Option (List (Leaf × Datum)) :=
  match readFile octets with
  | .ok (some d) => section? d
  | _ => none

theorem sectionOf?_eq_some_iff {octets : List UInt8} :
    sectionOf? octets = some es ↔
      ∃ d, readFile octets = .ok (some d) ∧ section? d = some es := by
  rw [sectionOf?]
  split
  · next d hd => simp [hd]
  · next hnot => exact ⟨nofun, fun ⟨d, hd, _⟩ ↦ (hnot d hd).elim⟩

/-- The section of a datum stands in it. -/
theorem exists_of_section?_eq_some {d : Datum} (h : section? d = some es) :
    ∃ top, d = .map top ∧ (.text sectionKey, .map es) ∈ top := by
  cases d with
  | map top =>
    rw [section?] at h
    split at h
    · next hunder =>
      cases h
      exact ⟨top, rfl, Datum.mem_of_under? hunder⟩
    · cases h
  | _ => cases h

theorem isBuilt_of_readFile {octets : List UInt8} {d : Datum}
    (h : readFile octets = .ok (some d)) : d.IsBuilt := by
  rw [readFile] at h
  split at h
  · cases h
  · split at h
    · cases h
    · cases h
    · next hread =>
      cases h
      exact Datum.isBuilt_of_read hread

/-- **The section of a file has no key twice.** -/
theorem nodup_of_sectionOf? {octets : List UInt8} (h : sectionOf? octets = some es) :
    (es.map Prod.fst).Nodup := by
  obtain ⟨d, hread, hsection⟩ := sectionOf?_eq_some_iff.1 h
  obtain ⟨top, rfl, hmem⟩ := exists_of_section?_eq_some hsection
  exact ((isBuilt_of_readFile hread).of_mem hmem).nodup_keys

end Settings

end AgentGraft
