import AgentGraft.Proofs.Text.Pieces
import AgentGraft.Proofs.Text.Utf8
import AgentGraft.Text.Base64
import AgentGraft.Text.CharRange

/-!
# Base64, read and written

A text writes octets in groups of four characters. The last group may be cut short to three
characters or to two and is then filled with padding; the bits that are left over say nothing.
Behind a full last group stands padding of any length, which only a text of nothing but padding may
not have. `Groups` says this without a word on how a text is read, and `decode_eq_ok_iff` that the
strict reading takes exactly these texts.
-/

namespace AgentGraft.Text.Base64

/-! ### The grammar -/

/-- The first octet of a group, of its first two values. -/
def octet₁ (v₁ v₂ : Nat) : UInt8 := (v₁ * 4 + v₂ / 16).toUInt8

/-- The second octet of a group. -/
def octet₂ (v₂ v₃ : Nat) : UInt8 := (v₂ % 16 * 16 + v₃ / 4).toUInt8

/-- The third octet of a group, of its last two values. -/
def octet₃ (v₃ v₄ : Nat) : UInt8 := (v₃ % 4 * 64 + v₄).toUInt8

/-- A text is made of groups of four characters, and writes octets. -/
inductive Groups : List Char → List UInt8 → Prop where
  /-- Nothing but padding is left. -/
  | pads (n : Nat) : Groups (List.replicate n '=') []
  /-- Two characters write one octet. -/
  | one {c₁ c₂ : Char} {v₁ v₂ : Nat} (h₁ : value? c₁ = some v₁) (h₂ : value? c₂ = some v₂) :
    Groups [c₁, c₂, '=', '='] [octet₁ v₁ v₂]
  /-- Three characters write two octets. -/
  | two {c₁ c₂ c₃ : Char} {v₁ v₂ v₃ : Nat} (h₁ : value? c₁ = some v₁) (h₂ : value? c₂ = some v₂)
    (h₃ : value? c₃ = some v₃) : Groups [c₁, c₂, c₃, '='] [octet₁ v₁ v₂, octet₂ v₂ v₃]
  /-- Four characters write three octets. -/
  | group {c₁ c₂ c₃ c₄ : Char} {v₁ v₂ v₃ v₄ : Nat} {cs : List Char} {os : List UInt8}
    (h₁ : value? c₁ = some v₁) (h₂ : value? c₂ = some v₂) (h₃ : value? c₃ = some v₃)
    (h₄ : value? c₄ = some v₄) (h : Groups cs os) :
    Groups (c₁ :: c₂ :: c₃ :: c₄ :: cs) (octet₁ v₁ v₂ :: octet₂ v₂ v₃ :: octet₃ v₃ v₄ :: os)

/-- A text is strict base64 of octets. -/
def Writes (cs : List Char) (os : List UInt8) : Prop := cs.head? ≠ some '=' ∧ Groups cs os

variable {p : Progress} {c : Char} {v : Nat} {cs : List Char} {os : List UInt8}

/-! ### Reading -/

/-- After a number of characters, a number of padding characters may end a text. -/
def Ends (count n : Nat) : Prop := count % 4 = 0 ∨ 2 ≤ count % 4 ∧ count % 4 + n = 4

theorem finish_eq_ok_iff : p.finish = .ok os ↔ p.count % 4 = 0 ∧ os = [] := by
  rw [Progress.finish]
  split_ifs with h h' <;> simp [h, eq_comm]

theorem complete_iff : p.complete = true ↔ 2 ≤ p.count % 4 ∧ 4 ≤ p.count % 4 + p.pads := by
  simp [Progress.complete]

theorem ends_pad_iff {n : Nat} :
    Ends p.pad.count (p.pad.pads + n) ↔ Ends p.count (p.pads + (n + 1)) := by
  simp only [Ends, Progress.pad]
  split <;> omega

theorem ne_replicate_of_ne (hc : c ≠ '=') (n : Nat) : c :: cs ≠ List.replicate n '=' := fun h ↦
  hc (List.eq_of_mem_replicate (h ▸ List.mem_cons_self : c ∈ List.replicate n '='))

theorem exists_cons_eq_replicate_iff {P : Nat → Prop} :
    (∃ n, '=' :: cs = List.replicate n '=' ∧ P n) ↔ ∃ n, cs = List.replicate n '=' ∧ P (n + 1) := by
  constructor
  · rintro ⟨_ | n, h, hP⟩
    · cases h
    · exact ⟨n, (List.cons.inj h).2, hP⟩
  · rintro ⟨n, rfl, hP⟩
    exact ⟨n + 1, rfl, hP⟩

/-- **After padding** nothing but the rest of the padding is read. -/
theorem read_eq_ok_iff_of_padded (hp : p.padded = true) (hopen : ¬p.complete = true) :
    read true p cs = .ok os ↔
      os = [] ∧ ∃ n, cs = List.replicate n '=' ∧ Ends p.count (p.pads + n) := by
  induction cs generalizing p with
  | nil =>
    rw [complete_iff] at hopen
    rw [read, finish_eq_ok_iff, and_comm]
    simp [Ends]
    omega
  | cons c cs ih =>
    rw [read]
    by_cases hc : c = '='
    · subst hc
      simp only [if_true, exists_cons_eq_replicate_iff, ← ends_pad_iff]
      split
      · next hcomplete =>
        -- the group is complete, so this was the last of the padding
        have hends (n : Nat) : Ends p.pad.count (p.pad.pads + n) ↔ n = 0 := by
          have hopen' : ¬(2 ≤ p.count % 4 ∧ 4 ≤ p.count % 4 + p.pads) := complete_iff.not.1 hopen
          rw [complete_iff] at hcomplete
          simp only [Ends, Progress.pad] at hcomplete ⊢
          split at hcomplete <;> split <;> omega
        simp only [hends, exists_eq_right, List.replicate_zero]
        cases cs <;> simp [eq_comm]
      · next hopen => exact ih rfl hopen
    · rw [if_neg hc]
      simp only [hp, Bool.and_self, if_true, ne_replicate_of_ne hc]
      split <;> simp

/-- No padding has been read. -/
def Progress.Fresh (p : Progress) : Prop := p.pads = 0 ∧ p.padded = false

theorem Progress.Fresh.push (hp : p.Fresh) (v : Nat) : (p.push v).Fresh := ⟨rfl, hp.2⟩

/-- **Before padding** a text ends in padding, or a character of the alphabet is read. -/
theorem read_eq_ok_iff_of_fresh (hp : p.Fresh) : read true p cs = .ok os ↔
    os = [] ∧ (∃ n, cs = List.replicate n '=' ∧ Ends p.count n) ∨
    ∃ c cs' v os', cs = c :: cs' ∧ value? c = some v ∧ read true (p.push v) cs' = .ok os' ∧
      os = (p.octet? v).toList ++ os' := by
  obtain ⟨hpads, hpadded⟩ := hp
  rcases cs with - | ⟨c, cs⟩
  · rw [read, finish_eq_ok_iff]
    simp [Ends, and_comm]
    omega
  by_cases hc : c = '='
  · subst hc
    have hread : read true p ('=' :: cs) = read true { p with padded := true } ('=' :: cs) := rfl
    have hopen : ¬({ p with padded := true } : Progress).complete = true := by
      rw [complete_iff]
      simp only
      omega
    rw [hread, read_eq_ok_iff_of_padded rfl hopen, hpads]
    have hvalue : value? '=' = none := by decide
    simp [hvalue]
  · rw [read, if_neg hc]
    simp only [ne_replicate_of_ne hc, false_and, exists_false, and_false, false_or, hpadded]
    rcases hv : value? c with - | v
    · simp [hv]
    · simp only [Bool.and_false, Bool.false_eq_true, if_false, map_eq_ok_iff]
      constructor
      · rintro ⟨os', h, rfl⟩
        exact ⟨c, cs, v, os', rfl, hv, h, rfl⟩
      · rintro ⟨_, _, v', os', ⟨⟩, hv', h, rfl⟩
        obtain rfl : v = v' := Option.some.inj (hv.symm.trans hv')
        exact ⟨os', h, rfl⟩

/-! ### Groups -/

section Group

variable (hcount : p.count % 4 = 0) (v₁ v₂ v₃ v₄ : Nat)

include hcount

theorem octet?_first : p.octet? v₁ = none := by simp [Progress.octet?, hcount]

theorem octet?_second : (p.push v₁).octet? v₂ = some (octet₁ v₁ v₂) := by
  have h₁ : (p.count + 1) % 4 = 1 := by omega
  simp [Progress.octet?, Progress.push, hcount, h₁, octet₁]

theorem octet?_third : ((p.push v₁).push v₂).octet? v₃ = some (octet₂ v₂ v₃) := by
  have h₁ : (p.count + 1) % 4 = 1 := by omega
  have h₂ : (p.count + 1 + 1) % 4 = 2 := by omega
  simp [Progress.octet?, Progress.push, h₁, h₂, octet₂]

theorem octet?_fourth : (((p.push v₁).push v₂).push v₃).octet? v₄ = some (octet₃ v₃ v₄) := by
  have h₂ : (p.count + 1 + 1) % 4 = 2 := by omega
  have h₃ : (p.count + 1 + 1 + 1) % 4 = 3 := by omega
  simp [Progress.octet?, Progress.push, h₂, h₃, octet₃]

end Group

theorem groups_of_read_eq_ok (hp : p.Fresh) (hcount : p.count % 4 = 0)
    (h : read true p cs = .ok os) : Groups cs os := by
  induction hlen : cs.length using Nat.strongRecOn generalizing p cs os with
  | _ n ih =>
    subst hlen
    obtain ⟨rfl, n, rfl, -⟩ | ⟨c₁, cs₁, v₁, os₁, rfl, hv₁, h₁, rfl⟩ :=
      (read_eq_ok_iff_of_fresh hp).1 h
    · exact .pads n
    rw [octet?_first hcount]
    obtain ⟨-, n, -, hends⟩ | ⟨c₂, cs₂, v₂, os₂, rfl, hv₂, h₂, rfl⟩ :=
      (read_eq_ok_iff_of_fresh (hp.push v₁)).1 h₁
    · -- a lone character makes no octet, and no padding helps
      change Ends (p.count + 1) n at hends
      rw [Ends] at hends
      omega
    rw [octet?_second hcount]
    obtain ⟨rfl, n, rfl, hends⟩ | ⟨c₃, cs₃, v₃, os₃, rfl, hv₃, h₃, rfl⟩ :=
      (read_eq_ok_iff_of_fresh ((hp.push v₁).push v₂)).1 h₂
    · change Ends (p.count + 2) n at hends
      obtain rfl : n = 2 := by rw [Ends] at hends; omega
      exact .one hv₁ hv₂
    rw [octet?_third hcount]
    obtain ⟨rfl, n, rfl, hends⟩ | ⟨c₄, cs₄, v₄, os₄, rfl, hv₄, h₄, rfl⟩ :=
      (read_eq_ok_iff_of_fresh (((hp.push v₁).push v₂).push v₃)).1 h₃
    · change Ends (p.count + 3) n at hends
      obtain rfl : n = 1 := by rw [Ends] at hends; omega
      exact .two hv₁ hv₂ hv₃
    rw [octet?_fourth hcount]
    have hcount' : ((((p.push v₁).push v₂).push v₃).push v₄).count % 4 = 0 := by
      show (p.count + 4) % 4 = 0
      omega
    have hlen : cs₄.length < (c₁ :: c₂ :: c₃ :: c₄ :: cs₄).length := by
      simp only [List.length_cons]
      omega
    exact .group hv₁ hv₂ hv₃ hv₄
      (ih _ hlen ((((hp.push v₁).push v₂).push v₃).push v₄) hcount' h₄ rfl)

theorem read_push (hp : p.Fresh) (hv : value? c = some v) (h : read true (p.push v) cs = .ok os) :
    read true p (c :: cs) = .ok ((p.octet? v).toList ++ os) :=
  (read_eq_ok_iff_of_fresh hp).2 (.inr ⟨c, cs, v, os, rfl, hv, h, rfl⟩)

theorem read_of_ends (hp : p.Fresh) {n : Nat} (h : Ends p.count n) :
    read true p (List.replicate n '=') = .ok [] :=
  (read_eq_ok_iff_of_fresh hp).2 (.inl ⟨rfl, n, rfl, h⟩)

theorem read_of_groups (h : Groups cs os) (hp : p.Fresh) (hcount : p.count % 4 = 0) :
    read true p cs = .ok os := by
  induction h generalizing p with
  | pads n => exact read_of_ends hp (.inl hcount)
  | @one c₁ c₂ v₁ v₂ h₁ h₂ =>
    have hends : Ends ((p.push v₁).push v₂).count 2 := by
      change Ends (p.count + 2) 2
      exact .inr (by omega)
    have hread := read_push hp h₁
      (read_push (hp.push v₁) h₂ (read_of_ends ((hp.push v₁).push v₂) hends))
    rwa [octet?_first hcount, octet?_second hcount] at hread
  | @two c₁ c₂ c₃ v₁ v₂ v₃ h₁ h₂ h₃ =>
    have hp₃ := ((hp.push v₁).push v₂).push v₃
    have hends : Ends (((p.push v₁).push v₂).push v₃).count 1 := by
      change Ends (p.count + 3) 1
      exact .inr (by omega)
    have hread := read_push hp h₁ (read_push (hp.push v₁) h₂
      (read_push ((hp.push v₁).push v₂) h₃ (read_of_ends hp₃ hends)))
    rwa [octet?_first hcount, octet?_second hcount, octet?_third hcount] at hread
  | @group c₁ c₂ c₃ c₄ v₁ v₂ v₃ v₄ cs os h₁ h₂ h₃ h₄ _ ih =>
    have hp₃ := ((hp.push v₁).push v₂).push v₃
    have hcount' : ((((p.push v₁).push v₂).push v₃).push v₄).count % 4 = 0 := by
      show (p.count + 4) % 4 = 0
      omega
    have hread := read_push hp h₁ (read_push (hp.push v₁) h₂
      (read_push ((hp.push v₁).push v₂) h₃ (read_push hp₃ h₄ (ih (hp₃.push v₄) hcount'))))
    rwa [octet?_first hcount, octet?_second hcount, octet?_third hcount,
      octet?_fourth hcount] at hread

/-- **The strict reading** takes the texts of the grammar, and reads from each what it writes. -/
theorem decode_eq_ok_iff : decode cs = .ok os ↔ Writes cs os := by
  rw [decode, Writes]
  split
  · next hlead => exact iff_of_false nofun fun h ↦ h.1 hlead
  · next hlead =>
    refine Iff.trans ?_ (and_iff_right hlead).symm
    exact ⟨groups_of_read_eq_ok ⟨rfl, rfl⟩ rfl, fun h ↦ read_of_groups h ⟨rfl, rfl⟩ rfl⟩

/-! ### Writing -/

theorem value?_digit {n : Nat} (h : n < 64) : value? (digit n) = some n := by
  have hall : ∀ n < 64, value? (digit n) = some n := by decide +kernel
  exact hall n h

theorem octet₁_eq (a : UInt8) {v w : Nat} (h : v * 4 + w / 16 = a.toNat) : octet₁ v w = a := by
  rw [octet₁, h]
  exact UInt8.ofNat_toNat

theorem octet₂_eq (a : UInt8) {v w : Nat} (h : v % 16 * 16 + w / 4 = a.toNat) : octet₂ v w = a := by
  rw [octet₂, h]
  exact UInt8.ofNat_toNat

theorem octet₃_eq (a : UInt8) {v w : Nat} (h : v % 4 * 64 + w = a.toNat) : octet₃ v w = a := by
  rw [octet₃, h]
  exact UInt8.ofNat_toNat

theorem groups_encode (os : List UInt8) : Groups (encode os) os := by
  fun_induction encode os with
  | case1 => exact .pads 0
  | case2 a =>
    have ha := a.toNat_lt
    have h := Groups.one (value?_digit (show a.toNat / 4 < 64 by omega))
      (value?_digit (show a.toNat % 4 * 16 < 64 by omega))
    rwa [octet₁_eq a (by omega)] at h
  | case3 a b =>
    have ha := a.toNat_lt
    have hb := b.toNat_lt
    have h := Groups.two (value?_digit (show a.toNat / 4 < 64 by omega))
      (value?_digit (show a.toNat % 4 * 16 + b.toNat / 16 < 64 by omega))
      (value?_digit (show b.toNat % 16 * 4 < 64 by omega))
    rwa [octet₁_eq a (by omega), octet₂_eq b (by omega)] at h
  | case4 a b c rest ih =>
    have ha := a.toNat_lt
    have hb := b.toNat_lt
    have hc := c.toNat_lt
    have h := Groups.group (value?_digit (show a.toNat / 4 < 64 by omega))
      (value?_digit (show a.toNat % 4 * 16 + b.toNat / 16 < 64 by omega))
      (value?_digit (show b.toNat % 16 * 4 + c.toNat / 64 < 64 by omega))
      (value?_digit (show c.toNat % 64 < 64 by omega)) ih
    rwa [octet₁_eq a (by omega), octet₂_eq b (by omega), octet₃_eq c (by omega)] at h

/-- **What is written is read**: the written form of octets is strict base64 of them. -/
theorem writes_encode (os : List UInt8) : Writes (encode os) os := by
  refine ⟨?_, groups_encode os⟩
  have hne (n : Nat) (h : n < 64) : digit n ≠ '=' := by
    intro heq
    have hvalue := value?_digit h
    rw [heq] at hvalue
    cases hvalue
  have hfirst (a : UInt8) : digit (a.toNat / 4) ≠ '=' := hne _ (by have := a.toNat_lt; omega)
  rcases os with - | ⟨a, - | ⟨b, - | ⟨c, rest⟩⟩⟩ <;> simp [encode, hfirst]

/-! ### Characters -/

theorem isAscii_of_value?_eq_some (h : value? c = some v) : isAscii c = true := by
  rw [isAscii, decide_eq_true_eq]
  simp only [value?, isDigit, Bool.and_eq_true, decide_eq_true_eq, Text.le_iff_toNat_le] at h
  have hplus : '+'.toNat < 0x80 := by decide
  have hslash : '/'.toNat < 0x80 := by decide
  split_ifs at h with h₁ h₂ h₃ h₄ h₅
  · exact h₁.2.trans_lt (by decide)
  · exact h₂.2.trans_lt (by decide)
  · exact h₃.2.trans_lt (by decide)
  · exact h₄ ▸ hplus
  · exact h₅ ▸ hslash

/-- A text of groups is ASCII. -/
theorem isAscii_of_groups (h : Groups cs os) : cs.all isAscii = true := by
  have hpad : isAscii '=' = true := rfl
  induction h with
  | pads n => simp [hpad]
  | one h₁ h₂ => simp [isAscii_of_value?_eq_some h₁, isAscii_of_value?_eq_some h₂, hpad]
  | two h₁ h₂ h₃ =>
    simp [isAscii_of_value?_eq_some h₁, isAscii_of_value?_eq_some h₂,
      isAscii_of_value?_eq_some h₃, hpad]
  | group h₁ h₂ h₃ h₄ _ ih =>
    simp [isAscii_of_value?_eq_some h₁, isAscii_of_value?_eq_some h₂, isAscii_of_value?_eq_some h₃,
      isAscii_of_value?_eq_some h₄, ih]

end AgentGraft.Text.Base64
