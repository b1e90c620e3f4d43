import AgentGraft.Proofs.Java.Soundness
import AgentGraft.Proofs.Manifest.RoundTrip
import AgentGraft.Proofs.Settings.Sections

/-!
# Settings put over others

A section of a settings file replaces settings **field by field**: each field has the value that the
section gives it under one of its spellings, the name first, and the value it had where the section
has neither. This is `Overrides`, and a section makes settings exactly where it holds of them
(`amended_eq_some_iff`).

The one exception is the size of the volume. The section is put over the members of the settings as
they are written, and a size that is there already is written under its name, so that the name is
always found first: a section that has the other spelling only is `Shadowed` by it.
-/

namespace AgentGraft

open Yaml

theorem Checked.toOption_eq_some_iff {α : Type} {x : Checked α} {a : α} :
    x.toOption = some a ↔ x = .ok a := by
  cases x <;> simp [toOption]

theorem Settings.toOption_eq_some_iff {ε α : Type} {x : Except ε α} {a : α} :
    x.toOption = some a ↔ x = .ok a := by
  cases x <;> simp [Except.toOption]

/-! ### Settings as a row -/

namespace JavaSpec

open Checked (seq_eq_ok_iff map_eq_ok_iff)

variable {o : Members} {s : JavaSpec}

/-- Settings as a row. -/
def row (s : JavaSpec) : Row :=
  [(imageField, some (.str s.image)), (envField, some (.arr (s.env.map EnvVar.dump))),
   (containersField, some (.str s.containers)),
   (volumeSizeLimitField, s.volumeSizeLimit.map .str), (resourcesField, s.resources.map .obj)]

theorem members_eq (s : JavaSpec) : s.members = s.row.members := by
  simp [members, row, Row.members, Field.write?]

theorem fields_row (s : JavaSpec) : s.row.fields = Settings.fields := rfl

theorem apart_fields : Settings.fields.Pairwise Field.Apart := by decide

/-- A field is found under its name, and nowhere else. -/
theorem find?_members {f : Field} {v : Option Value} (hf : (f, v) ∈ s.row) :
    s.members.find? f.name = v ∧ f.find? s.members = v := by
  have hwf : s.row.Wf [] := ⟨apart_fields, Members.foreign_nil _⟩
  rw [members_eq, ← List.append_nil (Row.members _)]
  exact ⟨hwf.find?_name hf, hwf.find? hf⟩

theorem ofMembers_eq_ok_iff : ofMembers o = .ok s ↔
    imageField.required .text o = .ok s.image ∧
      envField.orElse [] (.list EnvVar.read) o = .ok s.env ∧
      containersField.orElse "" .text o = .ok s.containers ∧
      volumeSizeLimitField.optional .text o = .ok s.volumeSizeLimit ∧
      resourcesField.optional .freeMap o = .ok s.resources := by
  constructor
  · intro h
    simp only [ofMembers, seq_eq_ok_iff, map_eq_ok_iff] at h
    obtain ⟨_, _, ⟨_, _, ⟨_, _, ⟨_, _, ⟨_, himage, rfl⟩, henv, rfl⟩, hcontainers, rfl⟩, hsize, rfl⟩,
      hresources, rfl⟩ := h
    exact ⟨himage, henv, hcontainers, hsize, hresources⟩
  · rintro ⟨himage, henv, hcontainers, hsize, hresources⟩
    rw [ofMembers, himage, henv, hcontainers, hsize, hresources]
    rfl

end JavaSpec

namespace Settings

variable {α : Type} {base spec : JavaSpec} {f : Field} {es : List (Leaf × Datum)} {ms : Members}
  {x : Datum} {key : String}

/-! ### Where a field is read from -/

/-- The datum that a field is read from once a section is put over settings. -/
def source? (base : JavaSpec) (f : Field) (es : List (Leaf × Datum)) : Option Datum :=
  (Datum.under? f.name es).or
    (if base.members.has f.name then none else Datum.under? f.other es)

theorem source?_eq_some_iff : source? base f es = some x ↔
    Datum.under? f.name es = some x ∨
      Datum.under? f.name es = none ∧ base.members.has f.name = false ∧
        Datum.under? f.other es = some x := by
  rw [source?]
  cases Datum.under? f.name es <;> simp

theorem source?_eq_none_iff : source? base f es = none ↔
    Datum.under? f.name es = none ∧
      (base.members.has f.name = false → Datum.under? f.other es = none) := by
  rw [source?]
  cases Datum.under? f.name es <;> simp

theorem isRead_iff : isRead base es key = true ↔
    ∃ f ∈ fields, key = f.name ∨
      key = f.other ∧ base.members.has f.name = false ∧ Datum.under? f.name es = none := by
  simp [isRead, List.any_eq_true, and_assoc]

/-- What a key that is read has under it is the source of a field. -/
theorem exists_source?_of_isRead (h : isRead base es key = true)
    (hx : Datum.under? key es = some x) : ∃ f ∈ fields, source? base f es = some x := by
  obtain ⟨f, hf, rfl | ⟨rfl, hhas, hname⟩⟩ := isRead_iff.1 h
  · exact ⟨f, hf, source?_eq_some_iff.2 (.inl hx)⟩
  · exact ⟨f, hf, source?_eq_some_iff.2 (.inr ⟨hname, hhas, hx⟩)⟩

/-- **There are members** when the sources of all fields are values. -/
theorem exists_members? (hes : (es.map Prod.fst).Nodup)
    (h : ∀ f ∈ fields, ∀ x, source? base f es = some x → ∃ v, x.toValue? = some v) :
    ∃ ms, members? base es = some ms := by
  obtain ⟨ms, hms⟩ := exists_mapM_member?_iff.2 fun key d hmem hread ↦ by
    obtain ⟨f, hf, hx⟩ := exists_source?_of_isRead hread ((Datum.under?_eq_some_iff hes).2 hmem)
    exact h f hf d hx
  exact ⟨ms.filterMap id, by rw [members?, hms]; rfl⟩

/-- **The members of a section**, which has no key twice, to be put over settings. -/
structure Merges (base : JavaSpec) (es : List (Leaf × Datum)) (ms : Members) : Prop where
  keys : (es.map Prod.fst).Nodup
  members : members? base es = some ms

namespace Merges

/-- A key that is read is found in the section first. -/
theorem find?_override (h : Merges base es ms) (key : String) :
    Members.find? key (override base ms) =
      (if isRead base es key then (Datum.under? key es).bind Datum.toValue? else none).or
        (base.members.find? key) := by
  obtain ⟨oms, homs, rfl⟩ := Option.map_eq_some_iff.1 h.members
  rw [override, Members.find?_update (nodup_of_mapM_member? h.keys homs),
    find?_of_mapM_member? homs]

theorem exists_value (h : Merges base es ms) (hread : isRead base es key = true)
    (hx : Datum.under? key es = some x) : ∃ v, x.toValue? = some v := by
  obtain ⟨oms, homs, -⟩ := Option.map_eq_some_iff.1 h.members
  exact exists_mapM_member?_iff.1 ⟨oms, homs⟩ key x (Datum.mem_of_under? hx) hread

theorem find?_override_of_under? (h : Merges base es ms) (hread : isRead base es key = true)
    (hx : Datum.under? key es = some x) :
    ∃ v, x.toValue? = some v ∧ Members.find? key (override base ms) = some v := by
  obtain ⟨v, hv⟩ := h.exists_value hread hx
  exact ⟨v, hv, by rw [h.find?_override, if_pos hread, hx, Option.bind_some, hv, Option.some_or]⟩

theorem find?_override_of_none (h : Merges base es ms) (hx : Datum.under? key es = none) :
    Members.find? key (override base ms) = base.members.find? key := by
  rw [h.find?_override, hx, Option.bind_none, ite_self, Option.none_or]

/-- **A field with a source** has the value of it. -/
theorem find?_of_source? (h : Merges base es ms) {old : Option Value} (hf : (f, old) ∈ base.row)
    (hx : source? base f es = some x) :
    ∃ v, x.toValue? = some v ∧ f.find? (override base ms) = some v := by
  have hf : f ∈ fields := base.fields_row ▸ List.mem_map_of_mem hf
  rcases source?_eq_some_iff.1 hx with hx | ⟨hname, hhas, hx⟩
  · obtain ⟨v, hv, hfind⟩ :=
      h.find?_override_of_under? (isRead_iff.2 ⟨f, hf, .inl rfl⟩) hx
    exact ⟨v, hv, by rw [Field.find?, hfind, Option.some_or]⟩
  · -- under the name nothing is found, neither in the section nor in what it is put over
    obtain ⟨v, hv, hfind⟩ :=
      h.find?_override_of_under? (isRead_iff.2 ⟨f, hf, .inr ⟨rfl, hhas, hname⟩⟩) hx
    refine ⟨v, hv, ?_⟩
    rw [Field.find?, h.find?_override_of_none hname, Members.has_eq_false_iff.1 hhas,
      Option.none_or, hfind]

/-- **A field without a source** has the value that it had. -/
theorem find?_of_not_source? (h : Merges base es ms) {v : Option Value} (hf : (f, v) ∈ base.row)
    (hx : source? base f es = none) : f.find? (override base ms) = v := by
  obtain ⟨hname, hother⟩ := source?_eq_none_iff.1 hx
  -- the other spelling has a say only where the settings under the section have no value either
  rw [← (JavaSpec.find?_members hf).2, Field.find?, Field.find?, h.find?_override_of_none hname]
  cases hfind : base.members.find? f.name with
  | some w => rw [Option.some_or, Option.some_or]
  | none => rw [h.find?_override_of_none (hother (Members.has_eq_false_iff.2 hfind))]

end Merges

/-! ### What fields are read as -/

/-- **What becomes of a field**: what its source is read as, or what it was without a source. -/
def Settles (read : Reader α) (source : Option Datum) (old new : α) : Prop :=
  match source with
  | none => new = old
  | some x => ∃ v, x.toValue? = some v ∧ read v = .ok new

namespace Merges

variable {read : Reader α} {dump : α → Value} {a b : α} {v : Option Value}

/-- **A field is settled** whichever way it is read, when its source is read by `read` and what was
written for it is read as what it was. -/
theorem eq_ok_iff_settles (h : Merges base es ms) (hf : (f, v) ∈ base.row) {result : Checked α}
    (hread : ∀ w, f.find? (override base ms) = some w → result = (read w).under (.key f.name))
    (hold : f.find? (override base ms) = v → result = .ok a) :
    result = .ok b ↔ Settles read (source? base f es) a b := by
  cases hx : source? base f es with
  | none =>
    rw [hold (h.find?_of_not_source? hf hx), Checked.ok.injEq, eq_comm]
    rfl
  | some x =>
    obtain ⟨w, hw, hfind⟩ := h.find?_of_source? hf hx
    rw [hread w hfind, Checked.under_eq_ok_iff]
    simp [Settles, hw]

theorem required_iff (h : Merges base es ms) (hf : (f, some (dump a)) ∈ base.row)
    (ha : ReadsBack read dump a) :
    f.required read (override base ms) = .ok b ↔ Settles read (source? base f es) a b :=
  h.eq_ok_iff_settles hf (fun w hw ↦ by rw [Field.required, hw])
    fun hv ↦ by simp only [Field.required, hv, ha.eq_ok, Checked.under]

theorem orElse_iff (h : Merges base es ms) (hf : (f, some (dump a)) ∈ base.row)
    (ha : ReadsBack read dump a) {default : α} :
    f.orElse default read (override base ms) = .ok b ↔ Settles read (source? base f es) a b :=
  h.eq_ok_iff_settles hf (fun w hw ↦ by rw [Field.orElse, hw])
    fun hv ↦ by simp only [Field.orElse, hv, ha.eq_ok, Checked.under]

theorem optional_iff (h : Merges base es ms) {a b : Option α} (hf : (f, a.map dump) ∈ base.row)
    (ha : ∀ x ∈ a, ReadsBack read dump x) :
    f.optional read (override base ms) = .ok b ↔
      Settles read.nullable (source? base f es) a b := by
  refine h.eq_ok_iff_settles hf (fun w hw ↦ by rw [Field.optional, hw]) fun hv ↦ ?_
  cases a with
  | none => simp only [Field.optional, hv, Option.map_none]
  | some a => simp only [Field.optional, hv, Option.map_some, (ha a rfl).nullable, Checked.under]

end Merges

/-! ### Field by field -/

/-- **The size in the section is shadowed**: it has the other spelling only, and the settings under
it have a size. -/
def Shadowed (base : JavaSpec) (es : List (Leaf × Datum)) : Prop :=
  base.volumeSizeLimit ≠ none ∧ Datum.under? JavaSpec.volumeSizeLimitField.name es = none ∧
    Datum.under? JavaSpec.volumeSizeLimitField.other es ≠ none

/-- **Settings with those of a section in place of them**, field by field: the name is looked for
first, then the other spelling; a field that may be absent is taken away by a null. -/
structure Overrides (base : JavaSpec) (es : List (Leaf × Datum)) (spec : JavaSpec) : Prop where
  image : Settles .text (fieldOf? JavaSpec.imageField es) base.image spec.image
  env : Settles (.list EnvVar.read) (fieldOf? JavaSpec.envField es) base.env spec.env
  containers : Settles .text (fieldOf? JavaSpec.containersField es) base.containers spec.containers
  volumeSizeLimit (h : ¬Shadowed base es) :
    Settles (.nullable .text) (fieldOf? JavaSpec.volumeSizeLimitField es) base.volumeSizeLimit
      spec.volumeSizeLimit
  shadowed (h : Shadowed base es) : spec.volumeSizeLimit = base.volumeSizeLimit
  resources :
    Settles (.nullable .freeMap) (fieldOf? JavaSpec.resourcesField es) base.resources spec.resources

/-- A field with one spelling is read from there. -/
theorem source?_eq_fieldOf? (hf : f.other = f.name) : source? base f es = fieldOf? f es := by
  rw [source?, fieldOf?, hf]
  cases Datum.under? f.name es <;> simp

theorem has_volumeSizeLimit_eq_false_iff :
    base.members.has JavaSpec.volumeSizeLimitField.name = false ↔ base.volumeSizeLimit = none := by
  have hrow : (JavaSpec.volumeSizeLimitField, base.volumeSizeLimit.map Value.str) ∈ base.row := by
    simp [JavaSpec.row]
  rw [Members.has_eq_false_iff, (JavaSpec.find?_members hrow).1, Option.map_eq_none_iff]

theorem source?_volumeSizeLimit_of_shadowed (h : Shadowed base es) :
    source? base JavaSpec.volumeSizeLimitField es = none :=
  source?_eq_none_iff.2 ⟨h.2.1, fun hhas ↦ absurd (has_volumeSizeLimit_eq_false_iff.1 hhas) h.1⟩

theorem source?_volumeSizeLimit_of_not_shadowed (h : ¬Shadowed base es) :
    source? base JavaSpec.volumeSizeLimitField es = fieldOf? JavaSpec.volumeSizeLimitField es := by
  rw [source?, fieldOf?]
  cases hname : Datum.under? JavaSpec.volumeSizeLimitField.name es with
  | some x => rw [Option.some_or, Option.some_or]
  | none =>
    cases hhas : base.members.has JavaSpec.volumeSizeLimitField.name with
    | false => rfl
    | true =>
      have hsome : base.volumeSizeLimit ≠ none := fun hnone ↦
        Bool.false_ne_true ((has_volumeSizeLimit_eq_false_iff.2 hnone).symm.trans hhas)
      have hother : Datum.under? JavaSpec.volumeSizeLimitField.other es = none :=
        not_not.1 fun hother ↦ h ⟨hsome, hname, hother⟩
      rw [if_pos rfl, hother]

/-- **The size is read from the section** unless it is shadowed. -/
theorem settles_source?_volumeSizeLimit_iff {read : Reader α} {old new : α} :
    Settles read (source? base JavaSpec.volumeSizeLimitField es) old new ↔
      (¬Shadowed base es →
        Settles read (fieldOf? JavaSpec.volumeSizeLimitField es) old new) ∧
        (Shadowed base es → new = old) := by
  by_cases h : Shadowed base es
  · rw [source?_volumeSizeLimit_of_shadowed h]
    exact ⟨fun heq ↦ ⟨fun hnot ↦ absurd h hnot, fun _ ↦ heq⟩, fun ⟨_, heq⟩ ↦ heq h⟩
  · rw [source?_volumeSizeLimit_of_not_shadowed h]
    exact ⟨fun hs ↦ ⟨fun _ ↦ hs, fun hsh ↦ absurd hsh h⟩, fun ⟨hs, _⟩ ↦ hs h⟩

/-- The fields are overridden exactly where each is settled from where it is read. -/
theorem overrides_iff : Overrides base es spec ↔
    Settles .text (source? base JavaSpec.imageField es) base.image spec.image ∧
      Settles (.list EnvVar.read) (source? base JavaSpec.envField es) base.env spec.env ∧
      Settles .text (source? base JavaSpec.containersField es) base.containers spec.containers ∧
      Settles (.nullable .text) (source? base JavaSpec.volumeSizeLimitField es)
        base.volumeSizeLimit spec.volumeSizeLimit ∧
      Settles (.nullable .freeMap) (source? base JavaSpec.resourcesField es) base.resources
        spec.resources := by
  rw [settles_source?_volumeSizeLimit_iff, source?_eq_fieldOf? rfl, source?_eq_fieldOf? rfl,
    source?_eq_fieldOf? rfl, source?_eq_fieldOf? rfl]
  exact ⟨fun ⟨himage, henv, hcontainers, hsize, hshadowed, hresources⟩ ↦
      ⟨himage, henv, hcontainers, ⟨hsize, hshadowed⟩, hresources⟩,
    fun ⟨himage, henv, hcontainers, ⟨hsize, hshadowed⟩, hresources⟩ ↦
      ⟨himage, henv, hcontainers, hsize, hshadowed, hresources⟩⟩

/-- **What the merged members are read as** is what overrides the settings. -/
theorem Merges.ofMembers_eq_ok_iff (h : Merges base es ms) (hbase : base.Sound) :
    JavaSpec.ofMembers (override base ms) = .ok spec ↔ Overrides base es spec := by
  have henv : ReadsBack (.list EnvVar.read) (fun env ↦ .arr (env.map EnvVar.dump)) base.env :=
    .list fun e he ↦ (hbase e he).readsBack
  rw [JavaSpec.ofMembers_eq_ok_iff, overrides_iff,
    h.required_iff (by simp [JavaSpec.row]) (.text base.image),
    h.orElse_iff (by simp [JavaSpec.row]) henv,
    h.orElse_iff (by simp [JavaSpec.row]) (.text base.containers),
    h.optional_iff (a := base.volumeSizeLimit) (by simp [JavaSpec.row]) (fun s _ ↦ .text s),
    h.optional_iff (a := base.resources) (by simp [JavaSpec.row]) (fun o _ ↦ .freeMap o)]

theorem Settles.exists_value {read : Reader α} {source : Option Datum} {old new : α}
    (h : Settles read source old new) (hx : source = some x) : ∃ v, x.toValue? = some v := by
  subst hx
  obtain ⟨v, hv, -⟩ := h
  exact ⟨v, hv⟩

/-- Where fields are overridden, what they are read from are values. -/
theorem Overrides.exists_merges (h : Overrides base es spec) (hes : (es.map Prod.fst).Nodup) :
    ∃ ms, Merges base es ms := by
  obtain ⟨himage, henv, hcontainers, hsize, hresources⟩ := overrides_iff.1 h
  have hvalues : ∀ f ∈ fields, ∀ x, source? base f es = some x → ∃ v, x.toValue? = some v := by
    intro f hf x hx
    simp only [fields, List.mem_cons, List.not_mem_nil, or_false] at hf
    obtain rfl | rfl | rfl | rfl | rfl := hf
    · exact himage.exists_value hx
    · exact henv.exists_value hx
    · exact hcontainers.exists_value hx
    · exact hsize.exists_value hx
    · exact hresources.exists_value hx
  obtain ⟨ms, hms⟩ := exists_members? hes hvalues
  exact ⟨ms, hes, hms⟩

/-- **A section makes settings of others** exactly where they are overridden field by field, and the
keys of what is left as it is are texts. -/
theorem amended_eq_some_iff (hbase : base.Sound) (hes : (es.map Prod.fst).Nodup) :
    amended base es = some spec ↔ hasSoundKeys es = true ∧ Overrides base es spec := by
  constructor
  · intro h
    rw [amended] at h
    split at h
    · next ms hms =>
      split at h
      · next hkeys =>
        have hmerges : Merges base es ms := ⟨hes, hms⟩
        exact ⟨hkeys, (hmerges.ofMembers_eq_ok_iff hbase).1 (Checked.toOption_eq_some_iff.1 h)⟩
      · cases h
    · cases h
  · rintro ⟨hkeys, hoverrides⟩
    obtain ⟨ms, hmerges⟩ := hoverrides.exists_merges hes
    rw [amended, hmerges.members]
    exact (if_pos hkeys).trans
      (Checked.toOption_eq_some_iff.2 ((hmerges.ofMembers_eq_ok_iff hbase).2 hoverrides))

/-! ### Sections that agree -/

/-- The sections have the same under each spelling of a field. -/
def AgreeOnFields (es es' : List (Leaf × Datum)) : Prop :=
  ∀ f ∈ fields, Datum.under? f.name es = Datum.under? f.name es' ∧
    Datum.under? f.other es = Datum.under? f.other es'

variable {es' : List (Leaf × Datum)}

theorem AgreeOnFields.fieldOf?_eq (h : AgreeOnFields es es') (hf : f ∈ fields) :
    fieldOf? f es = fieldOf? f es' := by
  rw [fieldOf?, fieldOf?, (h f hf).1, (h f hf).2]

theorem AgreeOnFields.source?_eq (h : AgreeOnFields es es') (hf : f ∈ fields) :
    source? base f es = source? base f es' := by
  rw [source?, source?, (h f hf).1, (h f hf).2]

/-- **What is under other keys has no effect.** -/
theorem AgreeOnFields.amended_eq (h : AgreeOnFields es es') (hbase : base.Sound)
    (hes : (es.map Prod.fst).Nodup) (hes' : (es'.map Prod.fst).Nodup) :
    amended base es = amended base es' := by
  have hkeys : hasSoundKeys es = hasSoundKeys es' := by
    rw [hasSoundKeys, hasSoundKeys, h.fieldOf?_eq (f := JavaSpec.envField) (by decide),
      h.fieldOf?_eq (f := JavaSpec.resourcesField) (by decide)]
  -- both make the same settings, as these are settled from the sources, which are the same
  refine Option.ext fun spec ↦ ?_
  rw [amended_eq_some_iff hbase hes, amended_eq_some_iff hbase hes', hkeys, overrides_iff,
    overrides_iff, h.source?_eq (f := JavaSpec.imageField) (by decide),
    h.source?_eq (f := JavaSpec.envField) (by decide),
    h.source?_eq (f := JavaSpec.containersField) (by decide),
    h.source?_eq (f := JavaSpec.volumeSizeLimitField) (by decide),
    h.source?_eq (f := JavaSpec.resourcesField) (by decide)]

/-! ### Loading a section -/

variable {d : Deployment} {path : String} {octets : List UInt8}

/-- What is loaded from a file that can be read. -/
theorem load_of_readFile {datum : Datum} (hpath : path ≠ "")
    (h : readFile octets = .ok (some datum)) :
    load d path (.holding octets) = .ok (ofDatum (JavaSpec.builtin d) path datum) := by
  simp only [load, if_neg hpath, h]

theorem load_of_amended (hpath : path ≠ "") (hes : sectionOf? octets = some es)
    (h : amended (JavaSpec.builtin d) es = some spec) :
    load d path (.holding octets) = .ok (spec, [loadedLine path spec]) := by
  obtain ⟨datum, hread, hsection⟩ := sectionOf?_eq_some_iff.1 hes
  rw [load_of_readFile hpath hread, ofDatum, hsection]
  simp only [h]

theorem load_of_not_amended (hpath : path ≠ "") (hes : sectionOf? octets = some es)
    (h : amended (JavaSpec.builtin d) es = none) :
    load d path (.holding octets) = .ok (JavaSpec.builtin d, [invalidLine path]) := by
  obtain ⟨datum, hread, hsection⟩ := sectionOf?_eq_some_iff.1 hes
  rw [load_of_readFile hpath hread, ofDatum, hsection]
  simp only [h]

/-- The line of loaded settings is written where the section makes settings, and only there. -/
theorem load_eq_loaded_iff (hpath : path ≠ "") (hes : sectionOf? octets = some es) :
    load d path (.holding octets) = .ok (spec, [loadedLine path spec]) ↔
      amended (JavaSpec.builtin d) es = some spec := by
  refine ⟨fun h ↦ ?_, load_of_amended hpath hes⟩
  cases hspec : amended (JavaSpec.builtin d) es with
  | none =>
    rw [load_of_not_amended hpath hes hspec] at h
    simp [invalidLine, loadedLine, line] at h
  | some loaded =>
    rw [load_of_amended hpath hes hspec] at h
    exact congrArg some (Prod.mk.inj (Except.ok.inj h)).1

/-- **Sections that agree** load the same. -/
theorem load_eq_of_agreeOnFields {octets' : List UInt8} (hpath : path ≠ "")
    (hes : sectionOf? octets = some es) (hes' : sectionOf? octets' = some es')
    (h : AgreeOnFields es es') :
    load d path (.holding octets) = load d path (.holding octets') := by
  have hamended := h.amended_eq (JavaSpec.isCanonical_builtin d).sound (nodup_of_sectionOf? hes)
    (nodup_of_sectionOf? hes')
  cases hspec : amended (JavaSpec.builtin d) es with
  | none =>
    rw [load_of_not_amended hpath hes hspec,
      load_of_not_amended hpath hes' (hamended.symm.trans hspec)]
  | some spec =>
    rw [load_of_amended hpath hes hspec, load_of_amended hpath hes' (hamended.symm.trans hspec)]

/-- A null takes away what may be absent. -/
theorem Settles.eq_none {read : Reader α} {old new : Option α}
    (h : Settles read.nullable (some (.leaf .null)) old new) : new = none := by
  obtain ⟨v, hv, hread⟩ := h
  cases hv
  exact (Checked.ok.inj hread).symm

/-- **A file overrides the built-in settings field by field.** When its section makes settings, each
field has the value that the section gives it, and the built-in one where the section has none; a
null takes away the size and the resources; and what the section has under other keys does not
matter. Only a size that is shadowed by that of the deployment is not taken from the section. -/
theorem load_overrides (hpath : path ≠ "") (hsection : sectionOf? octets = some es) :
    (∀ spec, load d path (.holding octets) = .ok (spec, [loadedLine path spec]) ↔
      hasSoundKeys es = true ∧ Overrides (JavaSpec.builtin d) es spec) ∧
    (∀ spec, Overrides (JavaSpec.builtin d) es spec →
      (fieldOf? JavaSpec.resourcesField es = some (.leaf .null) → spec.resources = none) ∧
      (fieldOf? JavaSpec.volumeSizeLimitField es = some (.leaf .null) →
        ¬Shadowed (JavaSpec.builtin d) es → spec.volumeSizeLimit = none)) ∧
    ∀ octets' es', sectionOf? octets' = some es' → AgreeOnFields es es' →
      load d path (.holding octets) = load d path (.holding octets') := by
  refine ⟨fun spec ↦ ?_, fun spec h ↦ ⟨fun hnull ↦ ?_, fun hnull hshadowed ↦ ?_⟩,
    fun octets' es' ↦ load_eq_of_agreeOnFields hpath hsection⟩
  · rw [load_eq_loaded_iff hpath hsection, amended_eq_some_iff
      (JavaSpec.isCanonical_builtin d).sound (nodup_of_sectionOf? hsection)]
  · exact (hnull ▸ h.resources).eq_none
  · exact (hnull ▸ h.volumeSizeLimit hshadowed).eq_none

end Settings

/-! ### A size in the other spelling -/

namespace Sample

open Settings

/-- A file whose section has a size in the other spelling. -/
def sizedFile : List UInt8 := Text.Utf8.encode "java:\n  volume_size_limit: 1Gi\n".toList

/-- A deployment with a size of its own. -/
def sizedDeployment : Deployment := { Deployment.standard with javaVolumeSize := "10Mi" }

/-- The built-in settings with a size. -/
def sizedSpec (size : String) : JavaSpec :=
  { JavaSpec.builtin .standard with volumeSizeLimit := some size }

theorem exists_sized_section : ∃ es x, sectionOf? sizedFile = some es ∧
    fieldOf? JavaSpec.volumeSizeLimitField es = some x ∧ x.toValue? = some (.str "1Gi") := by
  have h : ((sectionOf? sizedFile).bind (fieldOf? JavaSpec.volumeSizeLimitField)).bind
      Datum.toValue? = some (.str "1Gi") := by decide +kernel
  obtain ⟨x, hx, hvalue⟩ := Option.bind_eq_some_iff.1 h
  obtain ⟨es, hes, hfield⟩ := Option.bind_eq_some_iff.1 hx
  exact ⟨es, x, hes, hfield, hvalue⟩

end Sample

/-- Where the deployment has no size, that of the section is taken. -/
theorem load_overrides_sample : ∃ es, Settings.sectionOf? Sample.sizedFile = some es ∧
    Settings.Overrides (JavaSpec.builtin .standard) es (Sample.sizedSpec "1Gi") := by
  obtain ⟨es, x, hes, -, -⟩ := Sample.exists_sized_section
  have hload : (Settings.load .standard "settings.yaml" (.holding Sample.sizedFile)).toOption =
      some (Sample.sizedSpec "1Gi",
        [Settings.loadedLine "settings.yaml" (Sample.sizedSpec "1Gi")]) := by decide +kernel
  have hpath : "settings.yaml" ≠ "" := by decide
  exact ⟨es, hes, (((Settings.load_overrides hpath hes).1 _).1
    (Settings.toOption_eq_some_iff.1 hload)).2⟩

/-- **A size of the deployment is not overridden** by one in the other spelling. -/
theorem not_overrides_shadowed : ¬∀ (d : Deployment) (path : String) (octets : List UInt8)
    (es : List (Yaml.Leaf × Yaml.Datum)) (spec : JavaSpec), path ≠ "" →
      Settings.sectionOf? octets = some es →
      Settings.load d path (.holding octets) = .ok (spec, [Settings.loadedLine path spec]) →
      Settings.Settles (.nullable .text) (Settings.fieldOf? JavaSpec.volumeSizeLimitField es)
        (JavaSpec.builtin d).volumeSizeLimit spec.volumeSizeLimit := by
  intro h
  obtain ⟨es, x, hes, hx, hvalue⟩ := Sample.exists_sized_section
  have hload : (Settings.load Sample.sizedDeployment "settings.yaml"
      (.holding Sample.sizedFile)).toOption =
        some (Sample.sizedSpec "10Mi",
          [Settings.loadedLine "settings.yaml" (Sample.sizedSpec "10Mi")]) := by decide +kernel
  have hsettles := h _ "settings.yaml" _ es _ (by decide) hes
    (Settings.toOption_eq_some_iff.1 hload)
  rw [hx] at hsettles
  obtain ⟨v, hv, hread⟩ := hsettles
  cases hvalue.symm.trans hv
  exact absurd hread (by decide)

end AgentGraft
