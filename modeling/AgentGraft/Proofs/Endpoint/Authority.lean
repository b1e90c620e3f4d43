import Mathlib.Tactic.MkIffOfInductiveProp
import AgentGraft.Endpoint.FirstParty
import AgentGraft.Proofs.Text.Pieces

/-!
# What an endpoint is judged by

A text that is a URL has one authority (`IsUrl`), and an endpoint is first-party exactly when this
authority is trusted (`isFirstParty_iff`): scheme and tail have no part in it. Of the authority only
what comes after the last at sign counts, apart from the two checks that look at all of it. The
pairing of brackets is one of them, hidden delimiters are the other, so a user in front of the host
makes no difference as long as it has no brackets and is written in ASCII (`trusts_user_iff`).
-/

namespace AgentGraft.Endpoint

open Text

variable {hosts : List String} {port : Int} {scheme authority user tail cs rest : List Char}
  {c : Char}

/-! ### Texts that are URLs -/

/-- The text is a scheme, two slashes behind a colon, an authority and what follows it. -/
structure IsUrl (scheme authority tail cs : List Char) : Prop where
  text : cs = scheme ++ ':' :: '/' :: '/' :: (authority ++ tail)
  scheme : isScheme scheme = true
  authority : ∀ c ∈ authority, endsAuthority c = false
  tail : ∀ c ∈ tail.head?, endsAuthority c = true

/-- A character of a scheme is one of ASCII from the plus sign on, and no colon. -/
theorem bounds_of_isSchemeChar (h : isSchemeChar c = true) :
    0x2B ≤ c.toNat ∧ c.toNat ≤ 0x7A ∧ c ≠ ':' := by
  have hcolon : c ≠ ':' := fun hcolon ↦ absurd (hcolon ▸ h) (by decide)
  simp only [isSchemeChar, isLetter, isDigit, Bool.or_eq_true, Bool.and_eq_true, decide_eq_true_eq,
    le_iff_toNat_le, Char.reduceToNat] at h
  rcases h with ((((h | h) | h) | rfl) | rfl) | rfl
  · exact ⟨by omega, by omega, hcolon⟩
  · exact ⟨by omega, by omega, hcolon⟩
  · exact ⟨by omega, by omega, hcolon⟩
  all_goals decide

theorem bounds_of_mem_scheme (h : isScheme scheme = true) :
    ∀ c ∈ scheme, 0x2B ≤ c.toNat ∧ c.toNat ≤ 0x7A ∧ c ≠ ':' := by
  intro c hc
  refine bounds_of_isSchemeChar ?_
  cases scheme with
  | nil => cases h
  | cons first more =>
    rw [isScheme, Bool.and_eq_true, List.all_eq_true] at h
    rcases List.mem_cons.1 hc with rfl | hc
    · simp only [isSchemeChar, h.1, Bool.true_or]
    · exact h.2 c hc

/-- **A scheme ends at the first colon.** -/
theorem splitScheme_eq_iff (hne : scheme ≠ []) :
    splitScheme cs = (scheme, rest) ↔ cs = scheme ++ ':' :: rest ∧ isScheme scheme = true := by
  rw [splitScheme]
  constructor
  · intro h
    split at h
    · next hsplit =>
      rw [Bool.and_eq_true, List.contains_iff_mem] at hsplit
      obtain ⟨front, back, rfl, hfront⟩ := List.eq_append_cons_of_mem hsplit.1
      rw [before_append_cons hfront, after_append_cons hfront] at h
      rw [before_append_cons hfront] at hsplit
      obtain ⟨rfl, rfl⟩ := Prod.mk.inj h
      exact ⟨rfl, hsplit.2⟩
    · exact absurd (Prod.mk.inj h).1.symm hne
  · rintro ⟨rfl, hscheme⟩
    have hcolon : ':' ∉ scheme := fun hmem ↦ (bounds_of_mem_scheme hscheme _ hmem).2.2 rfl
    rw [before_append_cons hcolon, after_append_cons hcolon, hscheme]
    simp

/-- **An authority ends at the first character that ends one.** -/
theorem authorityOf_append (hauthority : ∀ c ∈ authority, endsAuthority c = false)
    (htail : ∀ c ∈ tail.head?, endsAuthority c = true) :
    authorityOf ('/' :: '/' :: (authority ++ tail)) = authority := by
  rw [authorityOf, List.takeWhile_append_of_pos fun c hc ↦ by rw [hauthority c hc]; rfl]
  cases tail with
  | nil => exact List.append_nil authority
  | cons c tail => rw [List.takeWhile_cons_of_neg (by rw [htail c rfl]; decide), List.append_nil]

theorem exists_of_authorityOf_ne_nil (h : authorityOf cs ≠ []) :
    ∃ tail, cs = '/' :: '/' :: (authorityOf cs ++ tail) ∧
      (∀ c ∈ authorityOf cs, endsAuthority c = false) ∧
        ∀ c ∈ tail.head?, endsAuthority c = true := by
  revert h
  fun_cases authorityOf cs with
  | case1 cs =>
    refine fun _ ↦ ⟨cs.dropWhile (!endsAuthority ·), ?_, fun c hc ↦ ?_, fun c hc ↦ ?_⟩
    · rw [List.takeWhile_append_dropWhile]
    · exact by simpa using List.mem_takeWhile_imp hc
    · rw [← List.find?_not_eq_head?_dropWhile] at hc
      simpa using List.find?_some hc
  | case2 => exact absurd rfl

namespace IsUrl

theorem scheme_ne_nil (h : IsUrl scheme authority tail cs) : scheme ≠ [] := by
  rintro rfl
  cases h.scheme

theorem splitScheme_eq (h : IsUrl scheme authority tail cs) :
    splitScheme cs = (scheme, '/' :: '/' :: (authority ++ tail)) :=
  (splitScheme_eq_iff h.scheme_ne_nil).2 ⟨h.text, h.scheme⟩

theorem authorityOf_eq (h : IsUrl scheme authority tail cs) :
    authorityOf ('/' :: '/' :: (authority ++ tail)) = authority :=
  authorityOf_append h.authority h.tail

/-- **A text has one authority.** -/
theorem unique {scheme' authority' tail' : List Char} (h : IsUrl scheme authority tail cs)
    (h' : IsUrl scheme' authority' tail' cs) : authority = authority' := by
  obtain ⟨-, hrest⟩ := Prod.mk.inj (h.splitScheme_eq.symm.trans h'.splitScheme_eq)
  rw [← h.authorityOf_eq, hrest, h'.authorityOf_eq]

end IsUrl

/-! ### Authorities that are trusted -/

/-- The authority is one, its host is allowed, and it names no port but the expected one. -/
@[mk_iff trusts_iff]
structure Trusts (hosts : List String) (port : Int) (authority : List Char) : Prop where
  brackets : checkBrackets authority = .ok ()
  hidden : checkHidden authority = .ok ()
  named : lowerHost (hostAndPort authority).1 ≠ []
  allowed : allows hosts (lowerHost (hostAndPort authority).1) = true
  port : ∃ p, readPort (hostAndPort authority).2 = .ok p ∧ ∀ n ∈ p, (n : Int) = port

/-- **A text is read as a URL** if the authority in it passes every check. -/
theorem Url.read_eq_ok_iff {u : Url} (hsplit : splitScheme (clean cs) = (scheme, rest))
    (hauthority : authorityOf rest = authority) :
    Url.read cs = .ok u ↔ checkBrackets authority = .ok () ∧ checkHidden authority = .ok () ∧
      ∃ p, readPort (hostAndPort authority).2 = .ok p ∧
        u = ⟨scheme, authority, lowerHost (hostAndPort authority).1, p⟩ := by
  simp only [Url.read, hsplit, hauthority]
  rcases checkBrackets authority with f | ⟨⟩ <;> rcases checkHidden authority with f | ⟨⟩ <;>
    rcases readPort (hostAndPort authority).2 with f | p <;> simp [eq_comm]

/-- There is no host in an empty authority. -/
theorem Trusts.ne_nil (h : Trusts hosts port authority) : authority ≠ [] := by
  rintro rfl
  exact h.named rfl

/-- **An endpoint is judged by its authority.** -/
theorem isFirstParty_iff {value : String} : isFirstParty hosts port value = true ↔
    ∃ scheme authority tail, IsUrl scheme authority tail (clean (stripChars value.toList)) ∧
      Trusts hosts port authority := by
  rw [isFirstParty]
  generalize stripChars value.toList = cs
  rcases hsplit : splitScheme (clean cs) with ⟨scheme, rest⟩
  have hread {u : Url} := Url.read_eq_ok_iff (u := u) hsplit rfl
  constructor
  · intro h
    split at h
    · cases h
    · next u hu =>
      obtain ⟨hbrackets, hhidden, p, hport, rfl⟩ := hread.1 hu
      simp only [Url.leadsTo, Bool.and_eq_true, Bool.not_eq_true', List.isEmpty_eq_false_iff] at h
      obtain ⟨⟨⟨⟨hscheme, hauthority⟩, hhost⟩, hallowed⟩, hp⟩ := h
      obtain ⟨htext, hisscheme⟩ := (splitScheme_eq_iff hscheme).1 hsplit
      obtain ⟨tail, hrest, hends, htail⟩ := exists_of_authorityOf_ne_nil hauthority
      refine ⟨scheme, authorityOf rest, tail, ⟨?_, hisscheme, hends, htail⟩,
        hbrackets, hhidden, hhost, hallowed, p, hport, ?_⟩
      · rw [htext, ← hrest]
      · rintro n rfl
        simpa using hp
  · rintro ⟨scheme', authority, tail, hurl, htrusts⟩
    obtain ⟨rfl, rfl⟩ := Prod.mk.inj (hsplit.symm.trans hurl.splitScheme_eq)
    obtain ⟨p, hport, hp⟩ := htrusts.port
    rw [hread.2 ⟨hurl.authorityOf_eq.symm ▸ htrusts.brackets,
      hurl.authorityOf_eq.symm ▸ htrusts.hidden, p, hurl.authorityOf_eq.symm ▸ hport, rfl⟩,
      hurl.authorityOf_eq]
    simp only [Url.leadsTo, Bool.and_eq_true, Bool.not_eq_true', List.isEmpty_eq_false_iff]
    refine ⟨⟨⟨⟨hurl.scheme_ne_nil, htrusts.ne_nil⟩, htrusts.named⟩, htrusts.allowed⟩, ?_⟩
    cases p with
    | none => rfl
    | some n => simpa using hp n rfl

/-! ### Text that does not count -/

/-- The text without line ends and tabs. -/
def unbroken (cs : List Char) : List Char := cs.filter fun c ↦ c ≠ '\t' ∧ c ≠ '\r' ∧ c ≠ '\n'

theorem clean_eq_unbroken (h : ∀ c ∈ cs.head?, 0x20 < c.toNat) : clean cs = unbroken cs := by
  have hstart : cs.dropWhile (fun c ↦ c.toNat ≤ 0x20) = cs := by
    cases cs with
    | nil => rfl
    | cons c cs => exact List.dropWhile_cons_of_neg (by simpa using h c rfl)
  rw [clean, hstart, unbroken]

theorem unbroken_append (cs rest : List Char) :
    unbroken (cs ++ rest) = unbroken cs ++ unbroken rest :=
  List.filter_append ..

/-- A character that is not white space stays. -/
theorem unbroken_cons (h : isBlank c = false) (cs : List Char) :
    unbroken (c :: cs) = c :: unbroken cs := by
  refine List.filter_cons_of_pos (decide_eq_true ⟨?_, ?_, ?_⟩) <;>
    · rintro rfl
      cases h

theorem unbroken_eq_self (h : ∀ c ∈ cs, isBlank c = false) : unbroken cs = cs := by
  induction cs with
  | nil => rfl
  | cons c cs ih =>
    rw [List.forall_mem_cons] at h
    rw [unbroken_cons h.1, ih h.2]

theorem isBlank_of_mem_scheme (h : isScheme scheme = true) :
    ∀ c ∈ scheme, isBlank c = false := fun c hc ↦
  have ⟨hlow, hhigh, _⟩ := bounds_of_mem_scheme h c hc
  has_eq_false_of_gap (by decide) hlow (Nat.lt_succ_of_le hhigh)

theorem isBlank_of_endsAuthority (h : endsAuthority c = true) : isBlank c = false := by
  simp only [endsAuthority, Bool.or_eq_true, decide_eq_true_eq] at h
  rcases h with (rfl | rfl) | rfl <;> rfl

namespace IsUrl

theorem mem_of_mem_head? (h : IsUrl scheme authority tail cs) (hc : c ∈ cs.head?) : c ∈ scheme := by
  rw [h.text, List.head?_append_of_ne_nil _ h.scheme_ne_nil] at hc
  exact List.mem_of_mem_head? hc

/-- **Stripping leaves a URL one** with the same scheme and authority, unless this authority ends in
white space. -/
theorem stripChars (h : IsUrl scheme authority tail cs)
    (hlast : ∀ c ∈ authority.getLast?, isBlank c = false) :
    IsUrl scheme authority (dropTrailing isBlank tail) (stripChars cs) := by
  have hstart : ∀ c ∈ cs.head?, isBlank c = false := fun c hc ↦
    isBlank_of_mem_scheme h.scheme c (h.mem_of_mem_head? hc)
  have htext : cs = (scheme ++ [':', '/'] ++ '/' :: authority) ++ tail := by simp [h.text]
  refine ⟨?_, h.scheme, h.authority, fun c hc ↦ ?_⟩
  · rw [htext] at hstart ⊢
    rw [stripChars_append (by simp) hstart (getLast?_append_cons rfl hlast _)]
    simp
  · obtain ⟨trailing, heq, -⟩ := eq_dropTrailing_append isBlank tail
    refine h.tail c ?_
    rw [heq, List.head?_append, hc]
    rfl

/-- **Cleaning leaves a URL one** with the same scheme. -/
theorem clean (h : IsUrl scheme authority tail cs) :
    IsUrl scheme (unbroken authority) (unbroken tail) (clean cs) := by
  have hstart : ∀ c ∈ cs.head?, 0x20 < c.toNat := fun c hc ↦ by
    have hlow := (bounds_of_mem_scheme h.scheme c (h.mem_of_mem_head? hc)).1
    omega
  refine ⟨?_, h.scheme, fun c hc ↦ h.authority c (List.mem_filter.1 hc).1, fun c hc ↦ ?_⟩
  · rw [clean_eq_unbroken hstart, h.text, unbroken_append,
      unbroken_eq_self (isBlank_of_mem_scheme h.scheme), unbroken_cons rfl, unbroken_cons rfl,
      unbroken_cons rfl, unbroken_append]
  · cases tail with
    | nil => cases hc
    | cons d tail =>
      rw [unbroken_cons (isBlank_of_endsAuthority (h.tail d rfl))] at hc
      exact h.tail c hc

end IsUrl

theorem isFirstParty_iff_of_isUrl (hosts : List String) (port : Int) {value : String}
    (h : IsUrl scheme authority tail value.toList)
    (hlast : ∀ c ∈ authority.getLast?, isBlank c = false) :
    isFirstParty hosts port value = true ↔ Trusts hosts port (unbroken authority) := by
  have hurl := (h.stripChars hlast).clean
  rw [isFirstParty_iff]
  constructor
  · rintro ⟨scheme', authority', tail', hurl', htrusts⟩
    rwa [hurl.unique hurl']
  · exact fun htrusts ↦ ⟨scheme, _, _, hurl, htrusts⟩

theorem hidesDelimiter_of_isAscii (h : isAscii c = true) : hidesDelimiter c = false :=
  has_eq_false_of_gap (by decide) (Nat.zero_le _) (of_decide_eq_true h)

/-- **Nothing is hidden in ASCII.** -/
theorem checkHidden_of_isAscii (h : ∀ c ∈ authority, isAscii c = true) :
    checkHidden authority = .ok () := by
  rw [checkHidden, if_neg]
  rw [List.any_eq_true]
  rintro ⟨c, hc, hhides⟩
  rw [hidesDelimiter_of_isAscii (h c hc)] at hhides
  cases hhides

/-- **A user in front of the host makes no difference**, if it is written in ASCII and has no
brackets. -/
theorem trusts_user_iff (hauthority : ∀ c ∈ authority, isAscii c = true)
    (huser : ∀ c ∈ user, isAscii c = true ∧ c ≠ '[' ∧ c ≠ ']') :
    Trusts hosts port (user ++ '@' :: authority) ↔ Trusts hosts port authority := by
  have hinfo : afterLast '@' (user ++ '@' :: authority) = afterLast '@' authority :=
    afterLast_append_cons user authority
  have hhost : hostAndPort (user ++ '@' :: authority) = hostAndPort authority := by
    rw [hostAndPort, hinfo, hostAndPort]
  have hcontains {c : Char} (hc : c ∉ user) (hat : c ≠ '@') :
      (user ++ '@' :: authority).contains c = authority.contains c := by
    simp [hc, hat]
  have hbrackets : checkBrackets (user ++ '@' :: authority) = checkBrackets authority := by
    rw [checkBrackets, hinfo, hcontains (fun hmem ↦ (huser _ hmem).2.1 rfl) (by decide),
      hcontains (fun hmem ↦ (huser _ hmem).2.2 rfl) (by decide), checkBrackets]
  have hhidden : checkHidden (user ++ '@' :: authority) = .ok () := by
    refine checkHidden_of_isAscii (List.forall_mem_append.2 ⟨fun c hc ↦ (huser c hc).1, ?_⟩)
    exact List.forall_mem_cons.2 ⟨rfl, hauthority⟩
  rw [trusts_iff, trusts_iff, hbrackets, hhost, hhidden, checkHidden_of_isAscii hauthority]

theorem isUrl_of_text {scheme authority tail : String} (hscheme : isScheme scheme.toList = true)
    (hauthority : ∀ c ∈ authority.toList, endsAuthority c = false)
    (htail : ∀ c ∈ tail.toList.head?, endsAuthority c = true) :
    IsUrl scheme.toList authority.toList tail.toList
      (scheme ++ "://" ++ authority ++ tail).toList where
  text := by simp
  scheme := hscheme
  authority := hauthority
  tail := htail

/-- **Text outside the host and the port of an endpoint never counts.** Let an authority be given
that does not end in white space:
* whatever scheme stands before it and whatever tail comes after it, the endpoint is judged alike;
* where it is written in ASCII, so is the endpoint with a user in front of it, if this one is
  written in ASCII and has no brackets. -/
theorem isFirstParty_eq_of_authority (hosts : List String) (port : Int) (authority : String)
    (hauthority : ∀ c ∈ authority.toList, endsAuthority c = false)
    (hlast : ∀ c ∈ authority.toList.getLast?, isBlank c = false) :
    (∀ scheme scheme' tail tail' : String,
      isScheme scheme.toList = true → isScheme scheme'.toList = true →
      (∀ c ∈ tail.toList.head?, endsAuthority c = true) →
      (∀ c ∈ tail'.toList.head?, endsAuthority c = true) →
        isFirstParty hosts port (scheme ++ "://" ++ authority ++ tail) =
          isFirstParty hosts port (scheme' ++ "://" ++ authority ++ tail')) ∧
    ((∀ c ∈ authority.toList, isAscii c = true) → ∀ user scheme tail : String,
      (∀ c ∈ user.toList, isAscii c = true ∧ endsAuthority c = false ∧ c ≠ '[' ∧ c ≠ ']') →
      isScheme scheme.toList = true → (∀ c ∈ tail.toList.head?, endsAuthority c = true) →
        isFirstParty hosts port (scheme ++ "://" ++ (user ++ "@" ++ authority) ++ tail) =
          isFirstParty hosts port (scheme ++ "://" ++ authority ++ tail)) := by
  have hjudged {scheme tail : String} (hscheme : isScheme scheme.toList = true)
      (htail : ∀ c ∈ tail.toList.head?, endsAuthority c = true) :=
    isFirstParty_iff_of_isUrl hosts port (isUrl_of_text hscheme hauthority htail) hlast
  refine ⟨fun scheme scheme' tail tail' hscheme hscheme' htail htail' ↦ ?_,
    fun hascii user scheme tail huser hscheme htail ↦ ?_⟩
  · rw [Bool.eq_iff_iff, hjudged hscheme htail, hjudged hscheme' htail']
  · have htext : (user ++ "@" ++ authority).toList = user.toList ++ '@' :: authority.toList := by
      simp
    have hends : ∀ c ∈ (user ++ "@" ++ authority).toList, endsAuthority c = false := by
      rw [htext]
      refine List.forall_mem_append.2 ⟨fun c hc ↦ (huser c hc).2.1, ?_⟩
      exact List.forall_mem_cons.2 ⟨rfl, hauthority⟩
    have hend : ∀ c ∈ (user ++ "@" ++ authority).toList.getLast?, isBlank c = false := by
      rw [htext]
      exact getLast?_append_cons rfl hlast user.toList
    have hunbroken : unbroken (user ++ "@" ++ authority).toList =
        unbroken user.toList ++ '@' :: unbroken authority.toList := by
      rw [htext, unbroken_append, unbroken_cons rfl]
    have hkept {p : Char → Prop} {cs : List Char} (h : ∀ c ∈ cs, p c) :
        ∀ c ∈ unbroken cs, p c := fun c hc ↦
      h c (List.mem_filter.1 hc).1
    rw [Bool.eq_iff_iff,
      isFirstParty_iff_of_isUrl hosts port (isUrl_of_text hscheme hends htail) hend,
      hjudged hscheme htail, hunbroken, trusts_user_iff (hkept hascii)]
    exact hkept fun c hc ↦ ⟨(huser c hc).1, (huser c hc).2.2⟩

/-- An address between brackets, in texts that name other hosts before and after it. -/
theorem isFirstParty_address_sample :
    isFirstParty ["FD00::1"] 4316 ("http" ++ "://" ++ "[fd00::1]:04316" ++ "") = true ∧
    isFirstParty ["FD00::1"] 4316
      ("grpc+tls" ++ "://" ++ "[fd00::1]:04316" ++ "?at=http://[evil.example]:80@ ") = true ∧
    isFirstParty ["FD00::1"] 4316
      ("http" ++ "://" ++ ("evil.example:80@x" ++ "@" ++ "[fd00::1]:04316") ++
        "#evil.example") = true := by
  have hself :
      isFirstParty ["FD00::1"] 4316 ("http" ++ "://" ++ "[fd00::1]:04316" ++ "") = true := by
    decide +kernel
  obtain ⟨houtside, huser⟩ := isFirstParty_eq_of_authority ["FD00::1"] 4316 "[fd00::1]:04316"
    (by simp [endsAuthority]) (by simp; decide)
  refine ⟨hself, ?_, ?_⟩
  · rw [houtside "grpc+tls" "http" _ "" (by decide +kernel) (by decide +kernel)
      (by simp [endsAuthority]) (by simp), hself]
  · rw [huser (by simp [isAscii]) "evil.example:80@x" "http" "#evil.example"
      (by simp [isAscii, endsAuthority]) (by decide +kernel) (by simp [endsAuthority]),
      houtside "http" "http" "#evil.example" "" (by decide +kernel) (by decide +kernel)
        (by simp [endsAuthority]) (by simp), hself]

end AgentGraft.Endpoint
