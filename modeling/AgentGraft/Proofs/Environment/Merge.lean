import Mathlib.Data.List.Induction
import Mathlib.Data.List.Nodup
import AgentGraft.Proofs.Environment.Totality

/-!
# The effective environment as a merge

What the view of a container is, without an accumulator. Its sources expand to one list of entries,
each bundle in ascending order of keys behind the prefix of its source (`Bundles.expansion`). Of
these entries those count that no declaration and no earlier entry shadows (`Members.firsts`), and
the view is the declared variables followed by the entries that count: `addKeys_eq_ok_iff`.

A pass may come with a cache that holds something already. What it holds goes before what a read
would yield, so a resolution sees the bundles *behind* its cache (`Bundles.behind`), and
`resolve_eq_merge` is stated over these.
-/

namespace AgentGraft

/-! ### Members that count -/

namespace Members

variable {taken : String → Bool} {o : Members} {m : String × Value} {key : String}

/-- The members that count: their keys are not taken, and no earlier member has the same one. -/
def firsts (taken : String → Bool) (o : Members) : Members :=
  (o.zipIdx.filter fun m ↦ !taken m.1.1 && (find? m.1.1 (o.take m.2)).isNone).map Prod.fst

@[simp] theorem firsts_nil : firsts taken [] = [] := rfl

/-- **The last member counts** unless its key is taken or an earlier member has it. -/
theorem firsts_concat (taken : String → Bool) (o : Members) (m : String × Value) :
    firsts taken (o ++ [m]) =
      firsts taken o ++ if taken m.1 || (find? m.1 o).isSome then [] else [m] := by
  rw [firsts, map_fst_filter_zipIdx_concat (fun front m ↦ !taken m.1 && (find? m.1 front).isNone),
    ← firsts]
  congr 1
  cases taken m.1 <;> cases find? m.1 o <;> rfl

theorem mem_of_mem_firsts (h : m ∈ firsts taken o) : m ∈ o ∧ taken m.1 = false := by
  obtain ⟨⟨m, i⟩, hmem, rfl⟩ := List.mem_map.1 h
  obtain ⟨hmem, hcounts⟩ := List.mem_filter.1 hmem
  rw [Bool.and_eq_true, Bool.not_eq_true'] at hcounts
  exact ⟨List.mem_of_getElem? (List.mem_zipIdx_iff_getElem?.1 hmem), hcounts.1⟩

/-- **Members that count have different keys.** -/
theorem nodup_map_fst_firsts (taken : String → Bool) (o : Members) :
    ((firsts taken o).map Prod.fst).Nodup := by
  induction o using List.reverseRecOn with
  | nil => exact List.nodup_nil
  | append_singleton o m ih =>
    rw [firsts_concat]
    split
    · rwa [List.append_nil]
    · next hfree =>
      rw [Bool.or_eq_true, not_or, Option.not_isSome_iff_eq_none, find?_eq_none_iff] at hfree
      rw [List.map_append, List.map_singleton, ← List.concat_eq_append, List.nodup_concat]
      refine ⟨fun hmem ↦ ?_, ih⟩
      obtain ⟨n, hn, hkey⟩ := List.mem_map.1 hmem
      exact hfree.2 n (mem_of_mem_firsts hn).1 hkey

/-- What is found in several lists of members is found in the first that has it. -/
theorem find?_flatMap {α : Type} (key : String) (l : List α) (f : α → Members) :
    find? key (l.flatMap f) = l.findSome? fun a ↦ find? key (f a) := by
  induction l with
  | nil => rfl
  | cons a l ih =>
    rw [List.flatMap_cons, find?_append, ih, List.findSome?_cons]
    cases find? key (f a) <;> rfl

end Members

/-! ### Imported variables -/

namespace EnvVar

/-- The variable as an entry: its name and its literal value, null where it has none. -/
def entry (e : EnvVar) : String × Value := (e.name, (e.value.map Value.str).getD .null)

/-- The variable says nothing beside that. -/
def IsPlain (e : EnvVar) : Prop := e.valueFrom = none ∧ e.extra = []

end EnvVar

namespace Environment

variable {name : String} {v : Value} {e : EnvVar} {data : Contents} {env view : List EnvVar}

/-- **An entry is imported as the plain variable that it is an entry of**; there is none where the
value is neither a text nor null. -/
theorem imported_eq_ok_iff : imported name v = .ok e ↔ e.IsPlain ∧ e.entry = (name, v) := by
  constructor
  · intro h
    cases v <;> cases h <;> exact ⟨⟨rfl, rfl⟩, rfl⟩
  · rintro ⟨⟨hsource, hextra⟩, hentry⟩
    obtain ⟨_, value, _, _⟩ := e
    obtain rfl := hsource
    obtain rfl := hextra
    obtain ⟨rfl, rfl⟩ := Prod.mk.inj hentry
    cases value <;> rfl

theorem addKeys_append_eq_ok_iff {more : Contents} : addKeys "" (data ++ more) env = .ok view ↔
    ∃ front, addKeys "" data env = .ok front ∧ addKeys "" more front = .ok view := by
  rw [addKeys_append]
  rcases addKeys "" data env with front | issues <;> simp

/-- A single entry is passed over if its name is taken, and else makes a variable. -/
theorem addKeys_singleton_eq_ok_iff {m : String × Value} : addKeys "" [m] env = .ok view ↔
    Env.declares m.1 env = true ∧ view = env ∨
      Env.declares m.1 env = false ∧ ∃ e : EnvVar, e.IsPlain ∧ e.entry = m ∧ view = env ++ [e] := by
  obtain ⟨key, v⟩ := m
  rw [addKeys, addKeys, String.empty_append]
  cases hdecl : Env.declares key env
  · simp only [← and_assoc, ← imported_eq_ok_iff]
    rcases imported key v with e | issues <;> simp [addKeys, eq_comm]
  · simp [eq_comm]

/-- **A view is what is declared, followed by the entries that count.** There is none where one of
these entries makes no variable. -/
theorem addKeys_eq_ok_iff : addKeys "" data env = .ok view ↔ ∃ new, view = env ++ new ∧
    (∀ e ∈ new, e.IsPlain) ∧
      new.map EnvVar.entry = Members.firsts (fun name ↦ Env.declares name env) data := by
  induction data using List.reverseRecOn generalizing view with
  | nil =>
    rw [addKeys, Members.firsts_nil, Checked.ok.injEq]
    constructor
    · rintro rfl
      exact ⟨[], (List.append_nil _).symm, List.forall_mem_nil _, rfl⟩
    · rintro ⟨new, rfl, -, hnew⟩
      rw [List.map_eq_nil_iff.1 hnew, List.append_nil]
  | append_singleton data m ih =>
    rw [addKeys_append_eq_ok_iff, Members.firsts_concat]
    -- what the view so far declares is what shadows the last entry
    have hshadow {front : List EnvVar} (hfront : addKeys "" data env = .ok front) :
        Env.declares m.1 front = (Env.declares m.1 env || (Members.find? m.1 data).isSome) :=
      declares_of_addKeys_eq_ok hfront m.1
    constructor
    · rintro ⟨front, hfront, hlast⟩
      obtain ⟨old, rfl, hplain, hold⟩ := ih.1 hfront
      rw [addKeys_singleton_eq_ok_iff, hshadow hfront] at hlast
      rcases hlast with ⟨hdecl, rfl⟩ | ⟨hdecl, e, he, hentry, rfl⟩
      · exact ⟨old, rfl, hplain, by rw [if_pos hdecl, List.append_nil, hold]⟩
      · refine ⟨old ++ [e], List.append_assoc .., ?_, ?_⟩
        · exact List.forall_mem_append.2 ⟨hplain, List.forall_mem_singleton.2 he⟩
        · rw [hdecl, if_neg Bool.false_ne_true, List.map_append, hold, List.map_singleton, hentry]
    · rintro ⟨new, rfl, hplain, hentries⟩
      obtain ⟨front, back, rfl, hfront, hback⟩ := List.map_eq_append_iff.1 hentries
      obtain ⟨hplainfront, hplainback⟩ := List.forall_mem_append.1 hplain
      have hok := ih.2 ⟨front, rfl, hplainfront, hfront⟩
      refine ⟨env ++ front, hok, addKeys_singleton_eq_ok_iff.2 ?_⟩
      rw [hshadow hok, ← List.append_assoc]
      split at hback
      · next hdecl => exact .inl ⟨hdecl, by rw [List.map_eq_nil_iff.1 hback, List.append_nil]⟩
      · next hdecl =>
        obtain ⟨e, rfl, hentry⟩ := List.map_eq_singleton_iff.1 hback
        exact .inr
          ⟨Bool.eq_false_iff.2 hdecl, e, List.forall_mem_singleton.1 hplainback, hentry, rfl⟩

/-! ### Keys in order -/

/-- **Keys are expanded in ascending order.** -/
theorem pairwise_sortKeys (data : Contents) : (sortKeys data).Pairwise fun a b ↦ a.1 ≤ b.1 :=
  (List.pairwise_mergeSort le_key_trans le_key_total data).imp of_decide_eq_true

theorem sortKeys_eq_self (h : data.Pairwise fun a b ↦ a.1 ≤ b.1) : sortKeys data = data :=
  List.mergeSort_of_pairwise (h.imp decide_eq_true)

/-- **The order of data does not matter**, as no key occurs twice. -/
theorem sortKeys_eq_of_perm {data' : Contents} (h : data.Perm data')
    (hnd : (data.map Prod.fst).Nodup) : sortKeys data = sortKeys data' := by
  have hperm (data : Contents) : (sortKeys data).Perm data := List.mergeSort_perm _ _
  refine List.Perm.eq_of_pairwise (fun m m' hm hm' hle hle' ↦ ?_) (pairwise_sortKeys data)
    (pairwise_sortKeys data') ((hperm data).trans (h.trans (hperm data').symm))
  exact List.inj_on_of_nodup_map hnd ((hperm data).mem_iff.1 hm)
    (h.mem_iff.2 ((hperm data').mem_iff.1 hm')) (String.le_antisymm hle hle')

end Environment

/-! ### Bundles behind a cache -/

namespace Bundles

variable {b b' : Bundles} {cache : Cache} {ns : String} {s : Scope}

/-- What is obtained with a cache: what the cache holds, and for all else what a read yields. -/
def behind (b : Bundles) (cache : Cache) : Bundles := fun kind ns name ↦
  match cache.find? kind name with
  | some data => .ok data
  | none => b kind ns name

theorem isText_behind (hb : b.IsText) (hcache : cache.IsText) : (b.behind cache).IsText := by
  intro kind ns name data h
  rw [behind] at h
  split at h
  · next hfind =>
    cases h
    exact hcache hfind
  · exact hb h

/-- **A pass obtains the bundles behind its cache.** -/
theorem obtains_behind (hs : s.Reads b) (p : Pass) (sources : List EnvFromSource) :
    p.Obtains s (b.behind p.cache) sources where
  agrees kind name data hfind := by rw [behind, hfind]
  serves source hsource kind ref hbundle hlacks past timeout start := by
    rw [behind, hlacks]
    exact hs.serves past ⟨kind, s.ns, ref.name, timeout, start⟩
  deadline := hs.deadline

/-- What the sources of a container expand to, one after the other. -/
def expansion (b : Bundles) (ns : String) (c : Container) : Members :=
  c.envFrom.flatMap (b.entries ns)

/-- **A view is what the container declares, followed by the entries that count.** -/
theorem view_eq_ok_iff {c : Container} {view : List EnvVar} : b.view ns c = .ok view ↔
    ∃ new, view = c.env ++ new ∧ (∀ e ∈ new, e.IsPlain) ∧
      new.map EnvVar.entry =
        Members.firsts (fun name ↦ Env.declares name c.env) (b.expansion ns c) :=
  Environment.ofChecked_eq_ok_iff.trans Environment.addKeys_eq_ok_iff

/-- **The law of lookup**: what is declared is found, and else the entry of the earliest source that
has one of the name. -/
theorem find?_eq_some_iff_of_view_eq_ok {c : Container} {view : List EnvVar}
    (h : b.view ns c = .ok view) (name : String) (e : EnvVar) : Env.find? name view = some e ↔
      Env.find? name c.env = some e ∨ Env.declares name c.env = false ∧ e.IsPlain ∧ e.name = name ∧
        ∃ front source back, c.envFrom = front ++ source :: back ∧
          Members.find? name (b.entries ns source) = some e.entry.2 ∧
          ∀ earlier ∈ front, Members.find? name (b.entries ns earlier) = none := by
  have himported (v : Value) :
      (Environment.imported name v).toOption = some e ↔ e.IsPlain ∧ e.entry = (name, v) := by
    rw [← Environment.imported_eq_ok_iff]
    cases Environment.imported name v <;> simp [Checked.toOption]
  rw [find?_of_view_eq_ok h, Option.or_eq_some_iff, Env.find?_eq_none_iff, Members.find?_flatMap]
  refine or_congr_right (and_congr_right fun _ ↦ ?_)
  rw [Option.bind_eq_some_iff]
  constructor
  · rintro ⟨v, hv, he⟩
    obtain ⟨hplain, hentry⟩ := (himported v).1 he
    obtain ⟨front, source, back, hsources, hfind, hfront⟩ := List.findSome?_eq_some_iff.1 hv
    refine ⟨hplain, congrArg Prod.fst hentry, front, source, back, hsources, ?_, hfront⟩
    rw [hfind, hentry]
  · rintro ⟨hplain, hname, front, source, back, hsources, hfind, hfront⟩
    refine ⟨e.entry.2,
      List.findSome?_eq_some_iff.2 ⟨front, source, back, hsources, hfind, hfront⟩, ?_⟩
    exact (himported _).2 ⟨hplain, Prod.ext hname rfl⟩

/-- The bundles can be had alike, and hold the same members in some order; no key occurs twice. -/
def Reorders (b b' : Bundles) (ns : String) : Prop := ∀ kind name,
  (∃ data data', b kind ns name = .ok data ∧ b' kind ns name = .ok data' ∧ data.Perm data' ∧
    (data.map Prod.fst).Nodup) ∨
  ∃ f f', b kind ns name = .error f ∧ b' kind ns name = .error f'

/-- **The order of keys in bundles does not matter.** -/
theorem Reorders.view_eq (h : b.Reorders b' ns) (c : Container) : b.view ns c = b'.view ns c := by
  have hentries (source : EnvFromSource) : b.entries ns source = b'.entries ns source := by
    rw [entries, entries]
    rcases source.bundle with - | ⟨kind, ref⟩
    · rfl
    · rcases h kind ref.name with ⟨data, data', hb, hb', hperm, hnd⟩ | ⟨f, f', hb, hb'⟩
      · simp only [hb, hb', Environment.sortKeys_eq_of_perm hperm hnd]
      · simp only [hb, hb']
  rw [view, view, funext hentries]

end Bundles

/-! ### The merge -/

/-- **The effective environment is a merge.** Over fixed bundles, and with whatever the cache holds
at the start:
* a view is the declared variables, unchanged and in order, followed by plain variables for the
  entries of the sources that count, and where all bundles are texts there is one;
* the variables that follow have different names, and none that is declared;
* under a name the first declared variable is found, and else the entry of the earliest source that
  has one of the name;
* the order of keys in the bundles, and in the cache, does not matter. -/
theorem resolve_eq_merge {s : Scope} {b : Bundles} (hs : s.Reads b) (c : Container) (p : Pass) :
    (∀ view, (Environment.resolve s c p).1 = .ok view ↔
      ∃ new, view = c.env ++ new ∧ (∀ e ∈ new, e.IsPlain) ∧
        new.map EnvVar.entry = Members.firsts (fun name ↦ Env.declares name c.env)
          ((b.behind p.cache).expansion s.ns c)) ∧
    (b.IsText → p.cache.IsText → ∃ view, (Environment.resolve s c p).1 = .ok view) ∧
    (∀ new, (Environment.resolve s c p).1 = .ok (c.env ++ new) →
      (new.map (·.name)).Nodup ∧ (∀ e ∈ new, Env.declares e.name c.env = false) ∧
      ∀ name e, Env.find? name (c.env ++ new) = some e ↔
        Env.find? name c.env = some e ∨
          Env.declares name c.env = false ∧ e.IsPlain ∧ e.name = name ∧
          ∃ front source back, c.envFrom = front ++ source :: back ∧
            Members.find? name ((b.behind p.cache).entries s.ns source) = some e.entry.2 ∧
            ∀ earlier ∈ front,
              Members.find? name ((b.behind p.cache).entries s.ns earlier) = none) ∧
    ∀ (s' : Scope) (b' : Bundles) (p' : Pass), s'.Reads b' → s'.ns = s.ns →
      (b.behind p.cache).Reorders (b'.behind p'.cache) s.ns →
        (Environment.resolve s' c p').1 = (Environment.resolve s c p).1 := by
  have hresolve : (Environment.resolve s c p).1 = (b.behind p.cache).view s.ns c :=
    (Environment.resolve_of_obtains (Bundles.obtains_behind hs p c.envFrom)).1
  rw [hresolve]
  refine ⟨fun view ↦ Bundles.view_eq_ok_iff, fun hb hcache ↦ ?_, fun new hview ↦ ?_, ?_⟩
  · exact (Bundles.isText_behind hb hcache).exists_view_eq_ok s.ns c
  · obtain ⟨new', hnew, -, hentries⟩ := Bundles.view_eq_ok_iff.1 hview
    obtain rfl := List.append_cancel_left hnew
    have hnames : new.map (·.name) = (new.map EnvVar.entry).map Prod.fst := by
      rw [List.map_map]
      rfl
    refine ⟨?_, fun e he ↦ ?_, Bundles.find?_eq_some_iff_of_view_eq_ok hview⟩
    · rw [hnames, hentries]
      exact Members.nodup_map_fst_firsts _ _
    · have hmem : e.entry ∈ new.map EnvVar.entry := List.mem_map_of_mem he
      rw [hentries] at hmem
      exact (Members.mem_of_mem_firsts hmem).2
  · intro s' b' p' hs' hns hreorders
    rw [(Environment.resolve_of_obtains (Bundles.obtains_behind hs' p' c.envFrom)).1, hns]
    exact (hreorders.view_eq c).symm

/-! ### Sources that collide -/

namespace Sample

/-- A cluster with one config map and nothing else. -/
def settings : Bundles := fun kind ns name ↦
  if kind = .configMap ∧ name = "env" then .ok [("B", .str "2"), ("A", .str "1")]
  else .error ⟨true, kind.name, ns, name, "not found"⟩

/-- A pass that has a secret of the same name in its cache, which the cluster does not have. -/
def warm : Pass := ⟨.start 0, ⟨[((.secret, "env"), [("_B", .str "3"), ("C", .str "4")])]⟩⟩

/-- A container that declares a variable twice. Of its sources the first and the second expand to
the same name, the third refers to nothing, the fourth cannot be had, and the last one is the first
with another prefix. -/
def colliding : Container where
  name := "app"
  image := none
  command := none
  env := [.literal "A" "5", .literal "A" "6"]
  envFrom := [⟨some "X_", some ⟨"env", none, []⟩, none, []⟩,
    ⟨some "X", none, some ⟨"env", none, []⟩, []⟩,
    ⟨some "Y", none, none, []⟩, ⟨none, none, some ⟨"gone", none, []⟩, []⟩,
    ⟨none, some ⟨"env", none, []⟩, none, []⟩]
  volumeMounts := []
  resources := none
  securityContext := none
  extra := []

end Sample

/-- What the earlier source has put on a name stays, and what is declared is not imported. -/
theorem resolve_colliding_sample :
    (Environment.resolve ⟨Sample.settings.store, "shop", none⟩ Sample.colliding Sample.warm).1 =
      .ok (Sample.colliding.env ++ [.literal "X_A" "1", .literal "X_B" "2", .literal "XC" "4",
        .literal "B" "2"]) := by
  obtain ⟨hview, -⟩ := resolve_eq_merge (b := Sample.settings)
    (s := ⟨Sample.settings.store, "shop", none⟩) ⟨Sample.settings.serves_store, rfl⟩
    Sample.colliding
    Sample.warm
  have hsorted {m n : String × Value} (hne : n.1 ≠ m.1) (hle : m.1 ≤ n.1) :
      Environment.sortKeys [n, m] = [m, n] :=
    (Environment.sortKeys_eq_of_perm (.swap m n []) (by simpa using hne)).trans
      (Environment.sortKeys_eq_self (by simpa using hle))
  refine (hview _).2 ⟨_, rfl, ?_, ?_⟩
  · simp [EnvVar.IsPlain, EnvVar.literal]
  · show _ = Members.firsts _ ((Environment.sortKeys _).map _ ++ ((Environment.sortKeys _).map _ ++
      ([] ++ ([] ++ ((Environment.sortKeys _).map _ ++ [])))))
    rw [hsorted (by decide) (by decide +kernel), hsorted (by decide) (by decide +kernel)]
    decide +kernel

end AgentGraft
