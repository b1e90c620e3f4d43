import Mathlib.Data.List.Forall2
import AgentGraft.Bundle.Cluster
import AgentGraft.Proofs.Environment.Snapshots
import AgentGraft.Proofs.Text.Base64

/-!
# Secrets are decoded as a whole or not at all

A secret stores each text as base64 of its octets. `Secret.Stores` says so by the grammar of base64
and the octets of a text, without a word on how either is read, and `Secret.decodeText_eq_ok_iff`
that a stored text is decoded exactly where it stores one.

A read then ends with all texts, in the order of their keys, or with a fault that names the first
key whose stored text stores none (`Cluster.outcome_secret_cases`). Of a secret that ends so nothing
gets anywhere, the texts that could be decoded included: not into the cache, and not into a view.
-/

namespace AgentGraft

open Text (map_eq_ok_iff isAscii)

namespace Secret

variable {stored text key why : String} {data contents : Members} {f : Fault} {m e : String × Value}

/-! ### Stored texts -/

/-- The text is stored as this one: in strict base64 of its octets. -/
def Stores (stored text : String) : Prop :=
  Text.Base64.Writes stored.toList text.toUTF8.data.toList

/-- Nothing is stored as this text, which is not strict base64, or base64 of octets that are not
UTF-8; the decoder of the one or of the other says why. -/
inductive Refuses (stored : String) : String → Prop where
  | base64 (f : Text.Base64.Fault) (hf : Text.Base64.decode stored.toList = .error f)
    (hnone : ∀ octets, ¬Text.Base64.Writes stored.toList octets) : Refuses stored f.message
  | utf8 (octets : List UInt8) (hwrites : Text.Base64.Writes stored.toList octets)
    (f : Text.Utf8.Fault) (hf : Text.Utf8.decode octets = .error f)
    (hnone : ∀ text : String, text.toUTF8.data.toList ≠ octets) : Refuses stored f.message

theorem utf8_decode_eq_ok_iff {octets : List UInt8} {cs : List Char} :
    Text.Utf8.decode octets = .ok cs ↔ (String.ofList cs).toUTF8.data.toList = octets := by
  rw [Text.Utf8.decode_eq_ok_iff, ← Text.Utf8.encode_toList, String.toList_ofList]

/-- **A stored text is decoded as the text that it stores**, and not at all if it stores none. -/
theorem decodeText_eq_ok_iff : decodeText stored = .ok text ↔ Stores stored text := by
  rw [decodeText]
  constructor
  · intro h
    split at h
    · cases h
    · rcases hbase64 : Text.Base64.decode stored.toList with f | octets
      · rw [hbase64] at h
        cases h
      rcases hutf8 : Text.Utf8.decode octets with f | cs
      · rw [hbase64] at h
        simp [hutf8] at h
      rw [hbase64] at h
      obtain rfl : String.ofList cs = text := by simpa [hutf8] using h
      rw [Stores, utf8_decode_eq_ok_iff.1 hutf8]
      exact Text.Base64.decode_eq_ok_iff.1 hbase64
  · intro h
    have hutf8 : Text.Utf8.decode text.toUTF8.data.toList = .ok text.toList := by
      rw [utf8_decode_eq_ok_iff, String.ofList_toList]
    rw [Text.Base64.isAscii_of_groups h.2, Text.Base64.decode_eq_ok_iff.2 h]
    simp only [Bool.not_true, Bool.false_eq_true, if_false, hutf8, String.ofList_toList]

/-- **A stored text that is ASCII** is decoded, or one of the decoders refuses it. -/
theorem decodeText_of_isAscii (hascii : stored.toList.all isAscii = true) :
    (∃ text, decodeText stored = .ok text) ∨
    (∃ f, decodeText stored = .error (.base64 f) ∧ Refuses stored f.message) ∨
      ∃ f, decodeText stored = .error (.utf8 f) ∧ Refuses stored f.message := by
  rcases hbase64 : Text.Base64.decode stored.toList with f | octets
  · refine .inr (.inl ⟨f, by simp [decodeText, hascii, hbase64],
      .base64 f hbase64 fun octets h ↦ ?_⟩)
    rw [Text.Base64.decode_eq_ok_iff.2 h] at hbase64
    cases hbase64
  rcases hutf8 : Text.Utf8.decode octets with f | cs
  · refine .inr (.inr ⟨f, by simp [decodeText, hascii, hbase64, hutf8],
      .utf8 octets (Text.Base64.decode_eq_ok_iff.1 hbase64) f hutf8 fun text h ↦ ?_⟩)
    rw [← String.ofList_toList (s := text), ← utf8_decode_eq_ok_iff] at h
    rw [h] at hutf8
    cases hutf8
  · exact .inl ⟨String.ofList cs, by simp [decodeText, hascii, hbase64, hutf8]⟩

/-- **The written form of a text stores it.** -/
theorem stores_encodeText (text : String) : Stores (encodeText text) text := by
  rw [Stores, encodeText, String.toList_ofList, Text.Utf8.encode_toList]
  exact Text.Base64.writes_encode _

/-! ### Members -/

/-- The member of a secret stores the member of its contents, under the same key. -/
def Holds (m e : String × Value) : Prop :=
  ∃ key stored text, m = (key, .str stored) ∧ e = (key, .str text) ∧ Stores stored text

theorem holds_iff {key : String} {v : Value} : Holds (key, v) e ↔
    ∃ text, decodeValue v = .ok text ∧ e = (key, .str text) := by
  constructor
  · rintro ⟨key', stored, text, heq, rfl, h⟩
    obtain ⟨rfl, rfl⟩ := Prod.mk.inj heq
    exact ⟨text, decodeText_eq_ok_iff.2 h, rfl⟩
  · rintro ⟨text, h, rfl⟩
    cases v with
    | str stored => exact ⟨key, stored, text, rfl, rfl, decodeText_eq_ok_iff.1 h⟩
    | _ => cases h

/-- **A secret is decoded as what it holds**, member by member. -/
theorem decode_eq_ok_iff : decode data = .ok contents ↔ List.Forall₂ Holds data contents := by
  induction data generalizing contents with
  | nil => rw [decode, Except.ok.injEq, List.forall₂_nil_left_iff, eq_comm]
  | cons m data ih =>
    obtain ⟨key, v⟩ := m
    rw [List.forall₂_cons_left_iff, decode]
    simp only [holds_iff, ← ih]
    rcases decodeValue v with f | text
    · simp
    · rw [map_eq_ok_iff]
      constructor
      · rintro ⟨rest, hrest, rfl⟩
        exact ⟨_, rest, ⟨text, rfl, rfl⟩, hrest, rfl⟩
      · rintro ⟨_, rest, ⟨_, ⟨⟩, rfl⟩, hrest, rfl⟩
        exact ⟨rest, hrest, rfl⟩

theorem exists_holds (h : List.Forall₂ Holds data contents) : ∀ m ∈ data, ∃ e, Holds m e := by
  induction h with
  | nil => exact nofun
  | cons hm _ ih => exact List.forall_mem_cons.2 ⟨⟨_, hm⟩, ih⟩

/-- A member that holds something leaves the refusal to those behind it. -/
theorem decode_cons_eq_error_iff (hm : Holds m e) :
    decode (m :: data) = .error (key, f) ↔ decode data = .error (key, f) := by
  obtain ⟨key', v⟩ := m
  obtain ⟨text, hv, -⟩ := holds_iff.1 hm
  rw [decode, hv]
  rcases decode data with e | rest <;> simp [Except.map]

/-- **A secret is refused at the first member that holds nothing.** -/
theorem decode_eq_error_iff : decode data = .error (key, f) ↔
    ∃ front v back, data = front ++ (key, v) :: back ∧ (∀ m ∈ front, ∃ e, Holds m e) ∧
      decodeValue v = .error f := by
  constructor
  · intro h
    induction data with
    | nil => cases h
    | cons m data ih =>
      obtain ⟨key', v⟩ := m
      rcases hv : decodeValue v with f' | text
      · rw [decode, hv] at h
        obtain ⟨rfl, rfl⟩ := Prod.mk.inj (Except.error.inj h)
        exact ⟨[], v, data, rfl, nofun, hv⟩
      · have hm : Holds (key', v) (key', .str text) := holds_iff.2 ⟨text, hv, rfl⟩
        obtain ⟨front, v', back, rfl, hfront, hv'⟩ := ih ((decode_cons_eq_error_iff hm).1 h)
        exact ⟨(key', v) :: front, v', back, rfl, List.forall_mem_cons.2 ⟨⟨_, hm⟩, hfront⟩, hv'⟩
  · rintro ⟨front, v, back, rfl, hfront, hv⟩
    induction front with
    | nil => rw [List.nil_append, decode, hv]
    | cons m front ih =>
      obtain ⟨⟨e, hm⟩, hrest⟩ := List.forall_mem_cons.1 hfront
      exact (decode_cons_eq_error_iff hm).2 (ih hrest)

/-- The values are texts, in ASCII. -/
def IsAscii (data : Members) : Prop :=
  ∀ m ∈ data, ∃ stored : String, m.2 = .str stored ∧ stored.toList.all isAscii = true

/-- The secret is of ASCII texts, and one of its members holds nothing. -/
def IsUndecodable (data : Members) : Prop := IsAscii data ∧ ∃ m ∈ data, ∀ e, ¬Holds m e

end Secret

/-! ### Reads of secrets -/

namespace Cluster

variable {c : Cluster} {r : Read} {data : Members}

/-- **A read of a secret** ends with the contents that the secret holds, or with the fault of the
first member that holds nothing. -/
theorem outcome_secret_cases (hkind : r.kind = .secret) (hascii : Secret.IsAscii data) :
    (∃ contents, List.Forall₂ Secret.Holds data contents ∧
      outcome r (.object (some data)) = .contents contents) ∨
    ∃ front key stored back why, data = front ++ (key, .str stored) :: back ∧
      (∀ m ∈ front, ∃ e, Secret.Holds m e) ∧ Secret.Refuses stored why ∧
      outcome r (.object (some data)) =
        .fault (faultOf r false ("undecodable key " ++ key ++ ": " ++ why)) := by
  rcases hd : Secret.decode data with ⟨key, f⟩ | contents
  · obtain ⟨front, v, back, rfl, hfront, hv⟩ := Secret.decode_eq_error_iff.1 hd
    obtain ⟨stored, rfl, hstored⟩ : ∃ stored : String, v = .str stored ∧ _ :=
      hascii (key, v) (List.mem_append_right _ List.mem_cons_self)
    have hv : Secret.decodeText stored = .error f := hv
    refine .inr ⟨front, key, stored, back, ?_⟩
    rcases Secret.decodeText_of_isAscii hstored with ⟨text, hok⟩ | ⟨g, hg, hwhy⟩ | ⟨g, hg, hwhy⟩
    · rw [hv] at hok
      cases hok
    · obtain rfl : f = .base64 g := by simpa [hv] using hg
      exact ⟨g.message, rfl, hfront, hwhy, by simp [outcome, hkind, hd]⟩
    · obtain rfl : f = .utf8 g := by simpa [hv] using hg
      exact ⟨g.message, rfl, hfront, hwhy, by simp [outcome, hkind, hd]⟩
  · exact .inl ⟨contents, Secret.decode_eq_ok_iff.1 hd, by simp [outcome, hkind, hd]⟩

/-- A secret that cannot be decoded makes a read of it fail. -/
theorem exists_fault_of_isUndecodable (hkind : r.kind = .secret) (h : Secret.IsUndecodable data) :
    ∃ f, outcome r (.object (some data)) = .fault f := by
  obtain ⟨hascii, m, hm, hnone⟩ := h
  rcases outcome_secret_cases hkind hascii with
    ⟨contents, hall, -⟩ | ⟨_, _, _, _, _, _, _, _, houtcome⟩
  · obtain ⟨e, he⟩ := Secret.exists_holds hall m hm
    exact absurd he (hnone e)
  · exact ⟨_, houtcome⟩

/-- What is stored in the written form is read as it was. -/
theorem outcome_encodeText (hkind : r.kind = .secret) (texts : List (String × String)) :
    outcome r (.object (some (texts.map fun e ↦ (e.1, .str (Secret.encodeText e.2))))) =
      .contents (texts.map fun e ↦ (e.1, .str e.2)) := by
  have hholds : List.Forall₂ Secret.Holds
      (texts.map fun e ↦ (e.1, Value.str (Secret.encodeText e.2)))
      (texts.map fun e ↦ (e.1, Value.str e.2)) := by
    rw [List.forall₂_map_left_iff, List.forall₂_map_right_iff, List.forall₂_same]
    exact fun e _ ↦ ⟨e.1, _, e.2, rfl, rfl, Secret.stores_encodeText e.2⟩
  simp [outcome, hkind, Secret.decode_eq_ok_iff.2 hholds]

end Cluster

/-! ### What an undecodable secret leaves behind -/

theorem Store.map_fst_answered (store : Store) (past made : List Read) :
    (store.answered past made).map Prod.fst = made := by
  induction made generalizing past with
  | nil => rfl
  | cons r made ih => rw [answered, List.map_cons, ih]

/-- The source imports the secret of this name. -/
def EnvFromSource.importsSecret (name : String) (source : EnvFromSource) : Bool :=
  source.bundle.any fun (kind, ref) ↦ kind = .secret ∧ ref.name = name

namespace Environment

variable {c : Cluster} {s : Scope} {source : EnvFromSource} {ref : BundleRef} {p : Pass}
  {name ns : String}

section Undecodable

variable (hstore : s.store = c.store)
  (hreply : ∀ r : Read, r.kind = .secret → r.ns = s.ns → r.name = ref.name →
    ∃ data, (c p.world.reads r).1 = .object (some data) ∧ Secret.IsUndecodable data)

include hstore hreply

theorem read_of_isUndecodable (timeout : Option Int) :
    (read s .secret ref timeout p).1 = .ok none ∧
      (read s .secret ref timeout p).2.cache = p.cache := by
  let r : Read := ⟨.secret, s.ns, ref.name, timeout, p.world.clock⟩
  obtain ⟨data, hdata, hundecodable⟩ := hreply r rfl rfl rfl
  obtain ⟨f, hf⟩ :=
    Cluster.exists_fault_of_isUndecodable (show r.kind = .secret from rfl) hundecodable
  have hask : (s.store.ask .secret s.ns ref.name timeout p.world).1 = .fault f := by
    rw [← hf, ← hdata, hstore]
    rfl
  simp only [read, hask]
  exact ⟨trivial, rfl⟩

theorem fetch_of_isUndecodable (hnone : p.cache.find? .secret ref.name = none) :
    (fetch s .secret ref p).1 = .ok none ∧ (fetch s .secret ref p).2.cache = p.cache := by
  rw [fetch, hnone]
  dsimp only
  split
  · exact read_of_isUndecodable hstore hreply none
  · split
    · exact ⟨rfl, rfl⟩
    · exact read_of_isUndecodable hstore hreply _

/-- **A source of a secret that is read and cannot be decoded** adds nothing, neither to the view
nor to the cache. -/
theorem addSource_of_isUndecodable (hbundle : source.bundle = some (.secret, ref))
    (hnone : p.cache.find? .secret ref.name = none) (view : List EnvVar) :
    (addSource s source view p).1 = .ok view ∧ (addSource s source view p).2.cache = p.cache := by
  have hfetch := fetch_of_isUndecodable hstore hreply hnone
  rw [addSource, hbundle]
  dsimp only
  rcases hf : fetch s .secret ref p with ⟨result, p'⟩
  rw [hf] at hfetch
  obtain ⟨rfl, hcache⟩ : result = .ok none ∧ p'.cache = p.cache := hfetch
  exact ⟨rfl, hcache⟩

end Undecodable

/-- No read of the secret ends with contents. -/
theorem not_yields_of_isUndecodable {past made : List Read} (hns : ∀ r ∈ made, r.ns = ns)
    (hreply : ∀ past (r : Read), r.kind = .secret → r.ns = ns → r.name = name →
      ∃ data, (c past r).1 = .object (some data) ∧ Secret.IsUndecodable data) (data : Contents) :
    ¬(c.store.answered past made).Yields (.secret, name) data := by
  rintro ⟨r, hr, hkey⟩
  obtain ⟨hkind, hname⟩ := Prod.mk.inj hkey
  have hmade : r ∈ made := by
    rw [← c.store.map_fst_answered past made]
    exact List.mem_map_of_mem hr
  obtain ⟨before, hanswer⟩ := Store.exists_answer_of_mem hr
  obtain ⟨data', hdata, hundecodable⟩ := hreply before r hkind (hns r hmade) hname
  obtain ⟨f, hf⟩ := Cluster.exists_fault_of_isUndecodable hkind hundecodable
  have houtcome : (c.store.answer before r).outcome = .fault f := by
    rw [← hf, ← hdata]
    rfl
  rw [hanswer] at houtcome
  cases houtcome

/-- **Where no read of a secret can be decoded**, resolutions that share a cache keep nothing of it,
and their views are made up of what the other sources supply. -/
theorem resolveAll_of_isUndecodable
    (hreply : ∀ past (r : Read), r.kind = .secret → r.ns = ns → r.name = name →
      ∃ data, (c past r).1 = .object (some data) ∧ Secret.IsUndecodable data)
    (calls : List Resolution) (w : World) :
    (resolveAll c.store ns calls (.start w)).2.cache.find? .secret name = none ∧
    ∀ resolved ∈ (resolveAll c.store ns calls (.start w)).1,
      (∀ u ∈ resolved.supplies, u.source.importsSecret name = true → u.data = none) ∧
      ∀ view, resolved.view = .ok view →
        addKeys "" ((resolved.supplies.filter fun u ↦ !u.source.importsSecret name).flatMap
          Supply.entries) resolved.container.env = .ok view := by
  obtain ⟨made, hrecalls, hsees⟩ := exists_recalls_resolveAll (.start c.store ns w) calls
  rw [List.nil_append] at hrecalls hsees
  have hnone (data : Contents) : ¬(c.store.answered w.reads made).Yields (.secret, name) data :=
    not_yields_of_isUndecodable hrecalls.ns hreply data
  refine ⟨Option.eq_none_iff_forall_ne_some.2 fun data hfind ↦
    hnone data ((hrecalls.cache _ _ _).1 hfind), fun resolved hresolved ↦ ?_⟩
  have hsupplied (u : Supply) (hu : u ∈ resolved.supplies)
      (himports : u.source.importsSecret name = true) : u.data = none := by
    obtain ⟨seen, hprefix, -, hsnap⟩ := (hsees resolved hresolved).supplied u hu
    refine Option.eq_none_iff_forall_ne_some.2 fun data hdata ↦ ?_
    obtain ⟨kind, ref, hbundle, hyields⟩ := (hsnap data).1 hdata
    obtain ⟨rfl, rfl⟩ : kind = .secret ∧ ref.name = name := by
      simpa [EnvFromSource.importsSecret, hbundle] using himports
    exact hnone data (hyields.mono hprefix)
  refine ⟨hsupplied, fun view hview ↦ ?_⟩
  rw [flatMap_filter_of_eq_nil fun u hu himports ↦ ?_]
  · exact ((hsees resolved hresolved).expanded view hview).2
  · rw [Supply.entries, hsupplied u hu (by simpa using himports)]

end Environment

/-- **Secrets are decoded as a whole or not at all.** Texts that are stored in their written form
are read as they were, in order. Of any secret of ASCII texts a read yields every text that is
stored, under the same keys in the same order, or it fails, not as a read of something missing, with
the name of the first key under which nothing is stored; and then nothing of the secret gets into
the cache or into a view. -/
theorem Cluster.secret_decoded_or_refused (c : Cluster) (ns name : String) :
    (∀ (r : Read) (texts : List (String × String)), r.kind = .secret →
      outcome r (.object (some (texts.map fun e ↦ (e.1, .str (Secret.encodeText e.2))))) =
        .contents (texts.map fun e ↦ (e.1, .str e.2))) ∧
    (∀ (r : Read) (data : Members), r.kind = .secret → Secret.IsAscii data →
      (∃ contents, List.Forall₂ Secret.Holds data contents ∧
        outcome r (.object (some data)) = .contents contents) ∨
      ∃ front key stored back why, data = front ++ (key, .str stored) :: back ∧
        (∀ m ∈ front, ∃ e, Secret.Holds m e) ∧ Secret.Refuses stored why ∧
        outcome r (.object (some data)) =
          .fault (faultOf r false ("undecodable key " ++ key ++ ": " ++ why))) ∧
    (∀ (s : Scope) (source : EnvFromSource) (ref : BundleRef) (view : List EnvVar) (p : Pass),
      s.store = c.store → source.bundle = some (.secret, ref) →
      p.cache.find? .secret ref.name = none →
      (∀ r : Read, r.kind = .secret → r.ns = s.ns → r.name = ref.name →
        ∃ data, (c p.world.reads r).1 = .object (some data) ∧ Secret.IsUndecodable data) →
      (Environment.addSource s source view p).1 = .ok view ∧
        (Environment.addSource s source view p).2.cache = p.cache) ∧
    ((∀ past (r : Read), r.kind = .secret → r.ns = ns → r.name = name →
        ∃ data, (c past r).1 = .object (some data) ∧ Secret.IsUndecodable data) →
      ∀ (calls : List Resolution) (w : World),
        (Environment.resolveAll c.store ns calls (.start w)).2.cache.find? .secret name = none ∧
        ∀ resolved ∈ (Environment.resolveAll c.store ns calls (.start w)).1,
          (∀ u ∈ resolved.supplies, u.source.importsSecret name = true → u.data = none) ∧
          ∀ view, resolved.view = .ok view →
            Environment.addKeys "" ((resolved.supplies.filter fun u ↦
              !u.source.importsSecret name).flatMap Supply.entries)
                resolved.container.env = .ok view) :=
  ⟨fun _ texts hkind ↦ outcome_encodeText hkind texts,
    fun _ _ hkind hascii ↦ outcome_secret_cases hkind hascii,
    fun _ _ _ view _ hstore hbundle hnone hreply ↦
      Environment.addSource_of_isUndecodable hstore hreply hbundle hnone view,
    fun hreply calls w ↦ Environment.resolveAll_of_isUndecodable hreply calls w⟩

/-! ### A secret of which one text is not encoded -/

namespace Sample

/-- The second text is stored as it is. -/
def halfEncoded : Members :=
  [("USER", .str "YWRtaW4="), ("PASSWORD", .str "s3cr3t!"), ("HOST", .str "ZGI=")]

/-- The secret, and a config map beside it. -/
def vault : Cluster := .holding
  [⟨.secret, "db", none, .object (some halfEncoded), 1⟩,
   ⟨.configMap, "env", none, .object (some [("MODE", .str "on")]), 1⟩]

/-- Two containers that import both. -/
def tenants : List Resolution :=
  [⟨supplied "app" [⟨none, none, some ⟨"db", none, []⟩, []⟩, configMapBehind ""], none, 0⟩,
   ⟨supplied "worker" [configMapBehind "", ⟨some "DB_", none, some ⟨"db", none, []⟩, []⟩], none, 5⟩]

theorem isUndecodable_halfEncoded : Secret.IsUndecodable halfEncoded := by
  refine ⟨fun m hm ↦ ?_, ("PASSWORD", .str "s3cr3t!"), by simp [halfEncoded], fun e he ↦ ?_⟩
  · simp only [halfEncoded, List.mem_cons, List.not_mem_nil, or_false] at hm
    rcases hm with rfl | rfl | rfl <;> exact ⟨_, rfl, by decide⟩
  · obtain ⟨text, htext, -⟩ := Secret.holds_iff.1 he
    have hrefused : Secret.decodeValue (.str "s3cr3t!") = .error (.base64 .foreign) := by
      decide +kernel
    rw [hrefused] at htext
    cases htext

end Sample

/-- The read fails with the name of the second key, and neither container gets the first and the
third text, which could be decoded. -/
theorem secret_refused_sample :
    Cluster.outcome ⟨.secret, "shop", "db", none, 0⟩ (.object (some Sample.halfEncoded)) =
      .fault ⟨false, "secret", "shop", "db",
        "undecodable key PASSWORD: Only base64 data is allowed"⟩ ∧
    (Environment.resolveAll Sample.vault.store "shop" Sample.tenants
      (.start (.start 0))).2.cache.find? .secret "db" = none ∧
    (Environment.resolveAll Sample.vault.store "shop" Sample.tenants
      (.start (.start 0))).1.map (·.view) = List.replicate 2 (.ok [.literal "MODE" "on"]) := by
  obtain ⟨-, -, -, hnothing⟩ := Cluster.secret_decoded_or_refused Sample.vault "shop" "db"
  have hcache := (hnothing (fun past r hkind hns hname ↦ by
    refine ⟨Sample.halfEncoded, ?_, Sample.isUndecodable_halfEncoded⟩
    simp [Sample.vault, Cluster.holding, StoredObject.answers, hkind, hname]) Sample.tenants
      (.start 0)).1
  exact ⟨by decide +kernel, hcache, by decide +kernel⟩

end AgentGraft
