import AgentGraft.Bundle.Cluster
import AgentGraft.Proofs.Environment.Totality

/-!
# What replies of a cluster come to

A reply is an object or an error. It comes to contents or to a fault, with one exception: the values
of a secret are decoded in order, and a value outside ASCII that comes up before the decoding has
ended for another reason breaks the store down (`Secret.BreaksDown`, `ClusterReply.outcome_cases`).
-/

namespace AgentGraft

/-! ### Decoding -/

namespace Secret

variable {data contents : Members} {key text : String} {b : Breakdown}

/-- The first value that cannot be decoded is a text with a character outside ASCII. -/
def BreaksDown (data : Members) : Prop :=
  ∃ front key text back, data = front ++ (key, .str text) :: back ∧
    (∀ m ∈ front, ∃ s, decodeValue m.2 = .ok s) ∧ text.toList.all Text.isAscii = false

/-- A text breaks a store down exactly where it is not ASCII. -/
theorem decodeText_eq_breakdown_iff :
    decodeText text = .error (.breakdown b) ↔
      text.toList.all Text.isAscii = false ∧ b = .nonAsciiText := by
  rw [decodeText]
  by_cases hascii : text.toList.all Text.isAscii = true
  · rw [hascii]
    simp only [Bool.not_true, Bool.false_eq_true, if_false, Bool.true_eq_false, false_and,
      iff_false]
    split
    · simp
    · split <;> simp
  · rw [Bool.not_eq_true] at hascii
    simp [hascii, eq_comm]

theorem breaksDown_cons_iff : BreaksDown ((key, .str text) :: data) ↔
    text.toList.all Text.isAscii = false ∨ (∃ s, decodeText text = .ok s) ∧ BreaksDown data := by
  constructor
  · rintro ⟨_ | ⟨m, front⟩, key', text', back, heq, hfront, htext⟩
    · cases heq
      exact .inl htext
    · cases heq
      exact .inr ⟨hfront _ (List.mem_cons_self ..), front, key', text', back, rfl,
        fun m hm ↦ hfront m (List.mem_cons_of_mem _ hm), htext⟩
  · rintro (htext | ⟨hdecode, front, key', text', back, rfl, hfront, htext⟩)
    · exact ⟨[], key, text, data, rfl, nofun, htext⟩
    · exact ⟨(key, .str text) :: front, key', text', back, rfl,
        List.forall_mem_cons.2 ⟨hdecode, hfront⟩, htext⟩

/-- **Where decoding breaks down**: at a text outside ASCII, if nothing before it ended the
decoding. -/
theorem decode_eq_breakdown_iff (htext : Contents.IsText data) :
    (∃ key, decode data = .error (key, .breakdown b)) ↔ BreaksDown data ∧ b = .nonAsciiText := by
  induction data with
  | nil =>
    refine ⟨fun ⟨_, h⟩ ↦ (nomatch h), ?_⟩
    rintro ⟨⟨front, key, text, back, heq, -⟩, -⟩
    simp at heq
  | cons m data ih =>
    obtain ⟨key, v⟩ := m
    obtain ⟨text, rfl⟩ : ∃ text, v = .str text := htext (key, v) (List.mem_cons_self ..)
    have hrest := ih fun m hm ↦ htext m (List.mem_cons_of_mem _ hm)
    rw [breaksDown_cons_iff, decode, decodeValue]
    rcases hd : decodeText text with f | s
    · -- the first value ends the decoding, one way or the other
      have hfirst : decodeText text = .error (.breakdown b) ↔ _ := decodeText_eq_breakdown_iff
      rw [hd] at hfirst
      simpa [and_comm] using hfirst
    · have hascii : ¬text.toList.all Text.isAscii = false := by
        intro hascii
        have hbreaks := decodeText_eq_breakdown_iff.2 ⟨hascii, rfl⟩
        rw [hd] at hbreaks
        cases hbreaks
      have hmap : (∃ key', (decode data).map ((key, Value.str s) :: ·) =
          .error (key', .breakdown b)) ↔ ∃ key', decode data = .error (key', .breakdown b) := by
        rcases decode data with e | ms <;> simp [Except.map]
      simp [hmap, hrest, hascii]

/-- A secret that is decoded holds texts. -/
theorem isText_of_decode_eq_ok (h : decode data = .ok contents) : Contents.IsText contents := by
  induction data generalizing contents with
  | nil =>
    cases h
    exact nofun
  | cons m data ih =>
    obtain ⟨key, v⟩ := m
    rw [decode] at h
    split at h
    · cases h
    · next s _ =>
      rcases hrest : decode data with e | ms
      · rw [hrest] at h
        cases h
      · rw [hrest] at h
        cases h
        exact List.forall_mem_cons.2 ⟨⟨s, rfl⟩, ih hrest⟩

end Secret

/-! ### Replies -/

namespace ClusterReply

variable {kind : BundleKind} {reply : ClusterReply}

/-- The data of an object are texts. -/
def IsText (reply : ClusterReply) : Prop :=
  ∀ data, reply = .object (some data) → Contents.IsText data

/-- The reply is a secret at which decoding breaks down. -/
def BreaksDown (kind : BundleKind) (reply : ClusterReply) : Prop :=
  kind = .secret ∧ ∃ data, reply = .object (some data) ∧ Secret.BreaksDown data

/-- The bundle can be fetched, and decoded if it is a secret. -/
def isObtainable (kind : BundleKind) : ClusterReply → Bool
  | .object data =>
    match kind with
    | .configMap => true
    | .secret => (Secret.decode (data.getD [])).isOk
  | _ => false

/-- **What a reply comes to**: a breakdown, or texts if it can be obtained, or a fault. -/
theorem outcome_cases (htext : reply.IsText) (r : Read) :
    reply.BreaksDown r.kind ∧ Cluster.outcome r reply = .breakdown .nonAsciiText ∨
    ¬reply.BreaksDown r.kind ∧
      ((∃ data, reply.isObtainable r.kind = true ∧ Cluster.outcome r reply = .contents data ∧
          Contents.IsText data) ∨
        ∃ f, reply.isObtainable r.kind = false ∧ Cluster.outcome r reply = .fault f) := by
  cases reply with
  | apiError status reason =>
    refine .inr ⟨fun ⟨_, _, h, _⟩ ↦ (nomatch h), .inr ?_⟩
    rw [Cluster.outcome]
    split
    · exact ⟨_, rfl, rfl⟩
    · exact ⟨_, rfl, rfl⟩
  | failure message => exact .inr ⟨fun ⟨_, _, h, _⟩ ↦ (nomatch h), .inr ⟨_, rfl, rfl⟩⟩
  | object data =>
    have hdata : Contents.IsText (data.getD []) := by
      cases data with
      | none => exact nofun
      | some data => exact htext data rfl
    have hiff : (object data).BreaksDown r.kind ↔
        r.kind = .secret ∧ Secret.BreaksDown (data.getD []) := by
      cases data with
      | none =>
        refine ⟨fun ⟨_, _, h, _⟩ ↦ (nomatch h), ?_⟩
        rintro ⟨-, front, key, text, back, heq, -⟩
        simp at heq
      | some data => simp [BreaksDown]
    rw [hiff]
    rcases hk : r.kind with - | -
    · exact .inr ⟨nofun, .inl ⟨data.getD [], rfl, by rw [Cluster.outcome, hk], hdata⟩⟩
    · have hbreaks (b : Breakdown) := Secret.decode_eq_breakdown_iff (b := b) hdata
      have hsafe
          (hne : ∀ key, Secret.decode (data.getD []) ≠ .error (key, .breakdown .nonAsciiText)) :
          ¬(BundleKind.secret = .secret ∧ Secret.BreaksDown (data.getD [])) := by
        rintro ⟨-, hdown⟩
        obtain ⟨key, hd⟩ := (hbreaks .nonAsciiText).2 ⟨hdown, rfl⟩
        exact hne key hd
      rcases hd : Secret.decode (data.getD []) with ⟨key, f⟩ | contents
      · cases f with
        | breakdown b =>
          obtain ⟨hdown, rfl⟩ := (hbreaks b).1 ⟨key, hd⟩
          exact .inl ⟨⟨rfl, hdown⟩, by simp only [Cluster.outcome, hk, hd]⟩
        | base64 f =>
          exact .inr ⟨hsafe (by simp [hd]), .inr ⟨_, by rw [isObtainable, hd]; rfl,
            by simp only [Cluster.outcome, hk, hd]; rfl⟩⟩
        | utf8 f =>
          exact .inr ⟨hsafe (by simp [hd]), .inr ⟨_, by rw [isObtainable, hd]; rfl,
            by simp only [Cluster.outcome, hk, hd]; rfl⟩⟩
      · exact .inr ⟨hsafe (by simp [hd]), .inl ⟨contents, by rw [isObtainable, hd]; rfl,
          by simp only [Cluster.outcome, hk, hd], Secret.isText_of_decode_eq_ok hd⟩⟩

theorem BreaksDown.outcome_eq (h : reply.BreaksDown kind) (htext : reply.IsText) {r : Read}
    (hkind : r.kind = kind) : Cluster.outcome r reply = .breakdown .nonAsciiText := by
  subst hkind
  rcases outcome_cases htext r with ⟨-, houtcome⟩ | ⟨hsafe, -⟩
  · exact houtcome
  · exact absurd h hsafe

end ClusterReply

end AgentGraft
