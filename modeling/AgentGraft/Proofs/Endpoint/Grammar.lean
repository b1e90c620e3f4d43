import AgentGraft.Proofs.Endpoint.Authority

/-!
# The grammar of first-party endpoints

Where the allowed hosts are plain names (`IsPlainHost`), the endpoints that are first-party have a
grammar (`isFirstParty_iff_grammar`). It has no brackets: what is accepted between them is an
address with a colon in it or one of a version to come, and a host of either kind is no plain name.
It has no zone either, as a percent sign stays in the lower-case form of a host. What is left of an
authority is a user, a host and a port, each told by the sign that comes before or after it.

Nothing is asked of the end of an allowed host. One that ends in a dot matches no endpoint, as the
dots at the end of a host are removed before it is looked up.
-/

namespace AgentGraft.Endpoint

open Text

variable {hosts : List String} {port : Int} {authority host info cs : List Char} {c : Char}

/-! ### Plain hosts -/

/-- The character is a small letter, a digit, a hyphen or a dot. -/
def isPlainChar (c : Char) : Bool := ('a' ≤ c && c ≤ 'z') || isDigit c || c = '-' || c = '.'

/-- A host in plain characters that does not start like an address of a version to come. -/
structure IsPlainHost (host : List Char) : Prop where
  ne_nil : host ≠ []
  plain : ∀ c ∈ host, isPlainChar c = true
  first : host.head? ≠ some 'v'

theorem isLow_of_isPlainChar (h : isPlainChar c = true) : isLow c = true := by
  simp only [isPlainChar, isDigit, Bool.or_eq_true, Bool.and_eq_true, decide_eq_true_eq,
    le_iff_toNat_le, Char.reduceToNat] at h
  have hcode : c.toNat < 0x80 ∧ (c.toNat < 0x41 ∨ 0x5A < c.toNat) := by
    rcases h with ((h | h) | rfl) | rfl
    · omega
    · omega
    all_goals decide
  simpa [isLow, isAscii, le_iff_toNat_le] using hcode

theorem allows_iff_of_plain (hhosts : ∀ h ∈ hosts, IsPlainHost h.toList) :
    allows hosts host = true ↔ String.ofList (dropTrailing (· = '.') host) ∈ hosts := by
  have hlower {h : String} (hmem : h ∈ hosts) : lowerChars h.toList = h.toList :=
    lowerAfter_eq_self (fun c hc ↦ isLow_of_isPlainChar ((hhosts h hmem).plain c hc)) []
  rw [allows, List.any_eq_true]
  constructor
  · rintro ⟨h, hmem, heq⟩
    rw [hlower hmem, beq_iff_eq] at heq
    rwa [← heq, String.ofList_toList]
  · intro hmem
    refine ⟨_, hmem, ?_⟩
    rw [hlower hmem, String.toList_ofList, beq_iff_eq]

/-- **A host that is allowed is plain** but for dots at its end. -/
theorem plain_of_allows (hhosts : ∀ h ∈ hosts, IsPlainHost h.toList)
    (h : allows hosts host = true) :
    host ≠ [] ∧ (∀ c ∈ host, isPlainChar c = true) ∧ host.head? ≠ some 'v' := by
  have hentry := hhosts _ ((allows_iff_of_plain hhosts).1 h)
  rw [String.toList_ofList] at hentry
  obtain ⟨dots, heq, hdots⟩ := eq_dropTrailing_append (· = '.') host
  rw [heq]
  refine ⟨List.append_ne_nil_of_left_ne_nil hentry.ne_nil _,
    List.forall_mem_append.2 ⟨hentry.plain, ?_⟩, ?_⟩
  · intro c hc
    obtain rfl := of_decide_eq_true (hdots c hc)
    rfl
  · rw [List.head?_append_of_ne_nil _ hentry.ne_nil]
    exact hentry.first

/-- A host without a zone is in lower case altogether. -/
theorem lowerHost_of_not_mem (h : '%' ∉ host) : lowerHost host = lowerChars host := by
  rw [lowerHost, before_of_not_mem h, dropWhile_of_not_mem h, List.append_nil]

theorem mem_lowerHost (h : isLow c = true) (hc : c ∈ host) : c ∈ lowerHost host := by
  rw [← List.takeWhile_append_dropWhile (p := (· ≠ '%')) (l := host)] at hc
  rcases List.mem_append.1 hc with hc | hc
  · exact List.mem_append_left _ (mem_lowerAfter h hc [])
  · exact List.mem_append_right _ hc

theorem not_mem_of_allows_lowerHost (hhosts : ∀ h ∈ hosts, IsPlainHost h.toList)
    (h : allows hosts (lowerHost host) = true) :
    ':' ∉ host ∧ '%' ∉ host ∧ host.head? ≠ some 'v' := by
  obtain ⟨-, hplain, hfirst⟩ := plain_of_allows hhosts h
  have hpercent : '%' ∉ host := fun hmem ↦
    absurd (hplain _ (mem_lowerHost (by decide) hmem)) (by decide)
  refine ⟨fun hmem ↦ absurd (hplain _ (mem_lowerHost (by decide) hmem)) (by decide), hpercent,
    fun hv ↦ ?_⟩
  obtain ⟨more, rfl⟩ := List.head?_eq_some_iff.1 hv
  rw [lowerHost_of_not_mem hpercent, lowerChars, lowerAfter_cons_of_isLow (by decide)] at hfirst
  exact hfirst rfl

/-! ### Brackets -/

/-- **Groups have a colon between them.** -/
theorem mem_of_isGroupedAddress (h : isGroupedAddress host = true) : ':' ∈ host := by
  by_contra hcolon
  have hbefore : ':' ∉ before '%' host := fun hmem ↦ hcolon ((List.takeWhile_prefix _).subset hmem)
  rw [isGroupedAddress, split_of_not_mem hbefore, Bool.and_eq_true, spellOut?,
    List.getLast?_singleton] at h
  split at h
  · cases h.2
  · next parts hparts =>
    dsimp only at hparts
    split at hparts
    · split at hparts <;> cases hparts
      exact absurd h.2 (show ¬areGroups ([] ++ [['0'], ['0']]) = true by decide)
    · cases hparts
      cases h.2

theorem mem_or_of_checkBracketedHost (h : checkBracketedHost host = .ok ()) :
    host.head? = some 'v' ∨ ':' ∈ host := by
  rw [checkBracketedHost] at h
  split at h
  · next hv => exact .inl hv
  · split at h
    · cases h
    · split at h
      · next hgrouped => exact .inr (mem_of_isGroupedAddress hgrouped)
      · cases h

/-- **Brackets are accepted only where the host is an address.** -/
theorem checkBracketedHost_of_checkBrackets (h : checkBrackets authority = .ok ()) :
    '[' ∉ authority ∧ ']' ∉ authority ∨ checkBracketedHost (hostAndPort authority).1 = .ok () := by
  rw [checkBrackets] at h
  split at h
  · cases h
  · next hpaired =>
    split at h
    · right
      rw [hostAndPort]
      dsimp only at h ⊢
      split at h
      · next hinfo =>
        rw [if_pos hinfo]
        split at h
        · cases h
        · split at h
          · cases h
          · exact h
      · next hinfo => rwa [if_neg hinfo]
    · next hopen =>
      left
      rw [List.contains_iff_mem] at hopen
      simpa [hopen] using hpaired

theorem checkBrackets_of_not_mem (hopen : '[' ∉ authority) (hclose : ']' ∉ authority) :
    checkBrackets authority = .ok () := by
  rw [checkBrackets]
  simp [hopen, hclose]

/-! ### Ports -/

/-- What may come after a host: nothing, or a colon and the digits of the expected port, which may
be missing. -/
def IsPortPart (port : Int) (cs : List Char) : Prop :=
  cs = [] ∨ ∃ digits, cs = ':' :: digits ∧ (∀ c ∈ digits, isDigit c = true) ∧
    digits.length ≤ maxPortDigits ∧ (digits = [] ∨ (ofDigits 10 digits : Int) = port)

/-- **A port is read** if it is in digits that are not too many and make a number of sixteen
bits. -/
theorem readPort_eq_ok_iff {p : Option Nat} : readPort cs = .ok p ↔ (∀ c ∈ cs, isDigit c = true) ∧
    cs.length ≤ maxPortDigits ∧ ofDigits 10 cs ≤ 65535 ∧
      p = if cs = [] then none else some (ofDigits 10 cs) := by
  rw [readPort]
  split
  · next hempty =>
    obtain rfl := List.isEmpty_iff.1 hempty
    exact ⟨fun h ↦ ⟨nofun, Nat.zero_le _, Nat.zero_le _, (Except.ok.inj h).symm⟩,
      fun h ↦ by rw [h.2.2.2]; rfl⟩
  · next hempty =>
    rw [if_neg (mt List.isEmpty_iff.2 hempty), ← List.all_eq_true, ← Nat.not_lt, ← Nat.not_lt]
    cases hdigits : cs.all isDigit
    · simp
    · by_cases hlong : maxPortDigits < cs.length
      · simp [hlong]
      · by_cases hgreat : 65535 < ofDigits 10 cs <;> simp [hlong, hgreat, eq_comm]

theorem exists_readPort_iff (hport : port ≤ 65535) :
    (∃ p, readPort cs = .ok p ∧ ∀ n ∈ p, (n : Int) = port) ↔ (∀ c ∈ cs, isDigit c = true) ∧
      cs.length ≤ maxPortDigits ∧ (cs = [] ∨ (ofDigits 10 cs : Int) = port) := by
  constructor
  · rintro ⟨p, hread, hp⟩
    obtain ⟨hdigits, hlength, -, rfl⟩ := readPort_eq_ok_iff.1 hread
    refine ⟨hdigits, hlength, or_iff_not_imp_left.2 fun hne ↦ ?_⟩
    rw [if_neg hne] at hp
    exact hp _ rfl
  · rintro ⟨hdigits, hlength, rfl | heq⟩
    · exact ⟨none, rfl, nofun⟩
    · refine ⟨_, readPort_eq_ok_iff.2 ⟨hdigits, hlength, by omega, rfl⟩, fun n hn ↦ ?_⟩
      split at hn
      · cases hn
      · rwa [← Option.some.inj hn]

/-- **A host and what may come after it** are what stands before the first colon, and a port that is
read. -/
theorem exists_portPart_iff (hport : port ≤ 65535) :
    (∃ portPart, info = host ++ portPart ∧ ':' ∉ host ∧ IsPortPart port portPart) ↔
      before ':' info = host ∧
        ∃ p, readPort (after ':' info) = .ok p ∧ ∀ n ∈ p, (n : Int) = port := by
  constructor
  · rintro ⟨portPart, rfl, hcolon, rfl | ⟨digits, rfl, hdigits⟩⟩
    · rw [List.append_nil, before_of_not_mem hcolon, after_of_not_mem hcolon]
      exact ⟨rfl, none, rfl, nofun⟩
    · rw [before_append_cons hcolon, after_append_cons hcolon]
      exact ⟨rfl, (exists_readPort_iff hport).2 hdigits⟩
  · rintro ⟨rfl, hread⟩
    have hcolon := not_mem_before ':' info
    rcases eq_before_append ':' info with ⟨heq, -⟩ | heq
    · exact ⟨[], heq.trans (List.append_nil _).symm, hcolon, .inl rfl⟩
    · exact ⟨_, heq, hcolon, .inr ⟨_, rfl, (exists_readPort_iff hport).1 hread⟩⟩

/-! ### The grammar -/

/-- An authority as the grammar has it. It is without brackets, and where it is not in ASCII nothing
is hidden in it. What comes after its last at sign is a host, which is allowed once it is in lower
case and without the dots at its end, and a port, which is missing or the expected one. -/
structure IsPlainAuthority (hosts : List String) (port : Int) (authority : List Char) : Prop where
  no_open : '[' ∉ authority
  no_close : ']' ∉ authority
  hidden : (∃ c ∈ authority, isAscii c = false) → checkHidden authority = .ok ()
  leads : ∃ info, '@' ∉ info ∧ (authority = info ∨ ∃ user, authority = user ++ '@' :: info) ∧
    ∃ host portPart, info = host ++ portPart ∧ ':' ∉ host ∧
      String.ofList (dropTrailing (· = '.') (lowerChars host)) ∈ hosts ∧ IsPortPart port portPart

theorem hostAndPort_of_not_mem (h : '[' ∉ authority) : hostAndPort authority =
    (before ':' (afterLast '@' authority), after ':' (afterLast '@' authority)) := by
  have hinfo : '[' ∉ afterLast '@' authority := fun hmem ↦ by
    obtain ⟨-, heq | ⟨front, heq⟩⟩ := afterLast_eq_iff.1 (rfl : afterLast '@' authority = _)
    · exact h (heq ▸ hmem)
    · exact h (heq ▸ List.mem_append_right _ (List.mem_cons_of_mem _ hmem))
  rw [hostAndPort]
  simp [hinfo]

/-- **The authorities that are trusted are those of the grammar**, if the allowed hosts are
plain. -/
theorem trusts_iff_isPlainAuthority (hhosts : ∀ h ∈ hosts, IsPlainHost h.toList)
    (hport : port ≤ 65535) :
    Trusts hosts port authority ↔ IsPlainAuthority hosts port authority := by
  constructor
  · rintro ⟨hbrackets, hhidden, -, hallowed, hread⟩
    obtain ⟨hcolon, hpercent, hv⟩ := not_mem_of_allows_lowerHost hhosts hallowed
    have hnone : '[' ∉ authority ∧ ']' ∉ authority :=
      (checkBracketedHost_of_checkBrackets hbrackets).resolve_right fun hbracketed ↦
        (mem_or_of_checkBracketedHost hbracketed).elim hv hcolon
    rw [hostAndPort_of_not_mem hnone.1] at hallowed hread hpercent
    rw [lowerHost_of_not_mem hpercent, allows_iff_of_plain hhosts] at hallowed
    obtain ⟨hat, huser⟩ := afterLast_eq_iff.1 (rfl : afterLast '@' authority = _)
    obtain ⟨portPart, heq, hhost, hpart⟩ := (exists_portPart_iff hport).2 ⟨rfl, hread⟩
    exact ⟨hnone.1, hnone.2, fun _ ↦ hhidden,
      ⟨_, hat, huser, _, portPart, heq, hhost, hallowed, hpart⟩⟩
  · rintro ⟨hopen, hclose, hhidden, info, hat, huser, host, portPart, heq, hcolon, hallowed, hpart⟩
    have hplain := plain_of_allows hhosts ((allows_iff_of_plain hhosts).2 hallowed)
    have hpercent : '%' ∉ host := fun hmem ↦
      absurd (hplain.2.1 _ (mem_lowerAfter (by decide) hmem [])) (by decide)
    obtain ⟨hhost, hread⟩ := (exists_portPart_iff hport).1 ⟨portPart, heq, hcolon, hpart⟩
    rw [trusts_iff, hostAndPort_of_not_mem hopen, afterLast_eq_iff.2 ⟨hat, huser⟩, hhost,
      lowerHost_of_not_mem hpercent, allows_iff_of_plain hhosts]
    refine ⟨checkBrackets_of_not_mem hopen hclose, ?_, hplain.1, hallowed, hread⟩
    by_cases hascii : ∀ c ∈ authority, isAscii c = true
    · exact checkHidden_of_isAscii hascii
    · obtain ⟨c, hc, hbeyond⟩ := not_forall₂.1 hascii
      exact hhidden ⟨c, hc, Bool.eq_false_iff.2 hbeyond⟩

/-- **The endpoints that are first-party have a grammar**, if the allowed hosts are plain: the text,
stripped and cleaned, is a scheme, an authority as the grammar has it, and a tail. -/
theorem isFirstParty_iff_grammar (hhosts : ∀ h ∈ hosts, IsPlainHost h.toList) (hport : port ≤ 65535)
    (value : String) : isFirstParty hosts port value = true ↔
      ∃ scheme authority tail, IsUrl scheme authority tail (clean (stripChars value.toList)) ∧
        IsPlainAuthority hosts port authority := by
  rw [isFirstParty_iff]
  simp only [trusts_iff_isPlainAuthority hhosts hport]

/-- A text with a line end in its scheme, two at signs, and a host that ends in a dot. -/
theorem isFirstParty_grammar_sample :
    isFirstParty ["collector.shop"] 4316 " \x01HT\nTP://x@y:80@Collector.SHOP.:04316?/[ " =
      true := by
  refine (isFirstParty_iff_grammar (fun h hh ↦ ?_) (by decide) _).2 ?_
  · rw [List.mem_singleton.1 hh]
    exact ⟨by decide +kernel, by simp [isPlainChar, isDigit], by decide +kernel⟩
  · have hurl : IsUrl "HTTP".toList "x@y:80@Collector.SHOP.:04316".toList "?/[".toList
        (clean (stripChars " \x01HT\nTP://x@y:80@Collector.SHOP.:04316?/[ ".toList)) :=
      ⟨by decide +kernel, by decide +kernel, by simp [endsAuthority], by simp [endsAuthority]⟩
    have hport : IsPortPart 4316 ":04316".toList :=
      .inr ⟨"04316".toList, by decide +kernel, by simp [isDigit], by decide +kernel,
        by decide +kernel⟩
    exact ⟨_, _, _, hurl, by decide +kernel, by decide +kernel, fun _ ↦ by decide +kernel,
      "Collector.SHOP.:04316".toList, by decide +kernel, .inr ⟨"x@y:80".toList, by decide +kernel⟩,
      "Collector.SHOP.".toList, ":04316".toList, by decide +kernel, by decide +kernel,
      by decide +kernel, hport⟩

end AgentGraft.Endpoint
