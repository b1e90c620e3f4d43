import Mathlib.Data.List.Forall2
import AgentGraft.Text.Utf8

/-!
# UTF-8, read and written

Octets are read as characters exactly where they are the octets of those characters, and the octets
of a text are those that it is stored as.

A first octet announces ranges for the octets after it. The announced octets are those of one
character, and the octets of each character are announced by the first of them: that is the
arithmetic, done once on numbers in `exists_following` and `octetsOf_foldl_shift`. What the reader
does is then a recursion on the octets, which says nothing of the table.
-/

namespace AgentGraft.Text

/-- A result is mapped to a value exactly where it is one that maps there. -/
theorem map_eq_ok_iff {ε α β : Type} {f : α → β} {x : Except ε α} {y : β} :
    x.map f = .ok y ↔ ∃ a, x = .ok a ∧ f a = y := by
  cases x <;> simp [Except.map]

namespace Utf8

variable {c : Char} {b : UInt8} {p : Partial} {bits n : Nat} {range : Nat × Nat}
  {ranges : List (Nat × Nat)} {tail bs : List UInt8} {cs : List Char} {position : Nat}

/-! ### The octets of a code point -/

/-- The octets of a code point, as numbers. -/
def octetsOf (n : Nat) : List Nat :=
  if n < 0x80 then [n]
  else if n < 0x800 then [0xC0 + n / 64, 0x80 + n % 64]
  else if n < 0x10000 then [0xE0 + n / 4096, 0x80 + n / 64 % 64, 0x80 + n % 64]
  else [0xF0 + n / 262144, 0x80 + n / 4096 % 64, 0x80 + n / 64 % 64, 0x80 + n % 64]

/-- The number is a code point of a character: no surrogate, and not past the last plane. -/
abbrev IsScalar (n : Nat) : Prop := n.isValidChar

theorem toNat_ofNat_of_isScalar (h : IsScalar n) : (Char.ofNat n).toNat = n := by
  rw [Char.ofNat, dif_pos h]
  rfl

/-- **The octets of a character** are those of its code point. -/
theorem map_toNat_encodeChar (c : Char) : (encodeChar c).map UInt8.toNat = octetsOf c.toNat := by
  have hc : c.toNat < 0xD800 ∨ 0xDFFF < c.toNat ∧ c.toNat < 0x110000 := c.valid
  have h0 (n : Nat) : n / Nat.pow 64 0 = n := Nat.div_one n
  have h1 : Nat.pow 64 1 = 64 := rfl
  have h2 : Nat.pow 64 2 = 4096 := rfl
  have h3 : Nat.pow 64 3 = 262144 := rfl
  simp only [encodeChar, octetsOf, h0, h1, h2, h3]
  split_ifs <;> simp <;> omega

/-- The octet is in a range. -/
def Within (range : Nat × Nat) (b : UInt8) : Prop := range.1 ≤ b.toNat ∧ b.toNat ≤ range.2

/-- Bits with the six of one more octet. -/
def shift (bits : Nat) (b : UInt8) : Nat := bits * 64 + (b.toNat - 0x80)

/-- **The table of first octets**, by the number of octets. -/
theorem following_eq_some_iff : following b = some (bits, ranges) ↔
    b.toNat = bits ∧ bits < 0x80 ∧ ranges = [] ∨
    b.toNat = 0xC0 + bits ∧ 2 ≤ bits ∧ bits < 32 ∧ ranges = [(0x80, 0xBF)] ∨
    b.toNat = 0xE0 + bits ∧ bits < 16 ∧
      ranges = [(if bits = 0 then 0xA0 else 0x80, if bits = 13 then 0x9F else 0xBF), (0x80, 0xBF)] ∨
    b.toNat = 0xF0 + bits ∧ bits < 5 ∧
      ranges = [(if bits = 0 then 0x90 else 0x80, if bits = 4 then 0x8F else 0xBF), (0x80, 0xBF),
        (0x80, 0xBF)] := by
  simp only [following]
  generalize b.toNat = n
  constructor
  · intro h
    split_ifs at h <;> grind
  · rintro (⟨rfl, h, rfl⟩ | ⟨rfl, h, h', rfl⟩ | ⟨rfl, h, rfl⟩ | ⟨rfl, h, rfl⟩)
    · rw [if_pos h]
    · rw [if_neg (by omega), if_neg (by omega), if_pos (by omega), Nat.add_sub_cancel_left]
    · grind
    · grind

/-- Six bits behind the mark of a later octet are in the widest range. -/
theorem within_of_toNat {k : Nat} (h : b.toNat = 0x80 + k % 64) : Within (0x80, 0xBF) b := by
  rw [Within]
  omega

/-- **The table is complete**: the octets of a code point are announced by the first of them. -/
theorem exists_following (hn : IsScalar n) (h : (b :: tail).map UInt8.toNat = octetsOf n) :
    ∃ bits ranges, following b = some (bits, ranges) ∧ List.Forall₂ Within ranges tail ∧
      tail.foldl shift bits = n := by
  have hn : n < 0xD800 ∨ 0xDFFF < n ∧ n < 0x110000 := hn
  rw [octetsOf] at h
  simp only [following_eq_some_iff]
  split_ifs at h with h1 h2 h3
  · obtain ⟨hb, ⟨⟩⟩ : b.toNat = n ∧ tail = [] := by simpa using h
    exact ⟨n, [], .inl ⟨hb, h1, rfl⟩, .nil, rfl⟩
  · obtain ⟨hb, x, ⟨⟩, hx⟩ : b.toNat = 0xC0 + n / 64 ∧
        ∃ x : UInt8, tail = [x] ∧ x.toNat = 0x80 + n % 64 := by
      simpa [List.map_eq_cons_iff] using h
    refine ⟨n / 64, _, .inr (.inl ⟨hb, by omega, by omega, rfl⟩), ?_, ?_⟩
    · exact .cons (within_of_toNat hx) .nil
    · show n / 64 * 64 + (x.toNat - 0x80) = n
      omega
  · obtain ⟨hb, x, y, ⟨⟩, hx, hy⟩ : b.toNat = 0xE0 + n / 4096 ∧ ∃ x y : UInt8, tail = [x, y] ∧
        x.toNat = 0x80 + n / 64 % 64 ∧ y.toNat = 0x80 + n % 64 := by
      simpa [List.map_eq_cons_iff] using h
    refine ⟨n / 4096, _, .inr (.inr (.inl ⟨hb, by omega, rfl⟩)), ?_, ?_⟩
    · refine .cons ?_ (.cons (within_of_toNat hy) .nil)
      rw [Within]
      split_ifs <;> omega
    · show (n / 4096 * 64 + (x.toNat - 0x80)) * 64 + (y.toNat - 0x80) = n
      omega
  · obtain ⟨hb, x, y, z, ⟨⟩, hx, hy, hz⟩ : b.toNat = 0xF0 + n / 262144 ∧
        ∃ x y z : UInt8, tail = [x, y, z] ∧ x.toNat = 0x80 + n / 4096 % 64 ∧
          y.toNat = 0x80 + n / 64 % 64 ∧ z.toNat = 0x80 + n % 64 := by
      simpa [List.map_eq_cons_iff] using h
    refine ⟨n / 262144, _, .inr (.inr (.inr ⟨hb, by omega, rfl⟩)), ?_, ?_⟩
    · refine .cons ?_ (.cons (within_of_toNat hy) (.cons (within_of_toNat hz) .nil))
      rw [Within]
      split_ifs <;> omega
    · show ((n / 262144 * 64 + (x.toNat - 0x80)) * 64 + (y.toNat - 0x80)) * 64 +
        (z.toNat - 0x80) = n
      omega

/-- **The table is right**: octets that are announced by the first of them are those of a code
point, which is no surrogate and not past the last plane. -/
theorem octetsOf_foldl_shift (h : following b = some (bits, ranges))
    (htail : List.Forall₂ Within ranges tail) :
    IsScalar (tail.foldl shift bits) ∧
      octetsOf (tail.foldl shift bits) = (b :: tail).map UInt8.toNat := by
  show (_ < 0xD800 ∨ 0xDFFF < _ ∧ _ < 0x110000) ∧ _
  rcases following_eq_some_iff.1 h with
    ⟨hb, hbits, rfl⟩ | ⟨hb, hlo, hbits, rfl⟩ | ⟨hb, hbits, rfl⟩ | ⟨hb, hbits, rfl⟩
  · obtain rfl := List.forall₂_nil_left_iff.1 htail
    rw [List.foldl_nil, octetsOf, if_pos hbits, ← hb]
    exact ⟨by omega, rfl⟩
  · obtain ⟨x, _, ⟨hx, hx'⟩, hnil, rfl⟩ := List.forall₂_cons_left_iff.1 htail
    obtain rfl := List.forall₂_nil_left_iff.1 hnil
    have hn : [x].foldl shift bits = bits * 64 + (x.toNat - 0x80) := rfl
    dsimp only at hx hx'
    rw [octetsOf, if_neg (by omega), if_pos (by omega)]
    simp only [List.map_cons, List.map_nil, List.cons.injEq, and_true]
    omega
  · obtain ⟨x, _, hx, hrest, rfl⟩ := List.forall₂_cons_left_iff.1 htail
    obtain ⟨y, _, hy, hnil, rfl⟩ := List.forall₂_cons_left_iff.1 hrest
    obtain rfl := List.forall₂_nil_left_iff.1 hnil
    have hn : [x, y].foldl shift bits =
      (bits * 64 + (x.toNat - 0x80)) * 64 + (y.toNat - 0x80) := rfl
    rw [Within] at hx hy
    dsimp only at hx hy
    have hlo : 0x800 ≤ [x, y].foldl shift bits := by split_ifs at hx <;> omega
    rw [octetsOf, if_neg (by omega), if_neg (by omega), if_pos (by split_ifs at hx <;> omega)]
    simp only [List.map_cons, List.map_nil, List.cons.injEq, and_true]
    split_ifs at hx <;> omega
  · obtain ⟨x, _, hx, hrest, rfl⟩ := List.forall₂_cons_left_iff.1 htail
    obtain ⟨y, _, hy, hrest', rfl⟩ := List.forall₂_cons_left_iff.1 hrest
    obtain ⟨z, _, hz, hnil, rfl⟩ := List.forall₂_cons_left_iff.1 hrest'
    obtain rfl := List.forall₂_nil_left_iff.1 hnil
    have hn : [x, y, z].foldl shift bits =
      ((bits * 64 + (x.toNat - 0x80)) * 64 + (y.toNat - 0x80)) * 64 + (z.toNat - 0x80) := rfl
    rw [Within] at hx hy hz
    dsimp only at hx hy hz
    have hlo : 0x10000 ≤ [x, y, z].foldl shift bits := by split_ifs at hx <;> omega
    rw [octetsOf, if_neg (by omega), if_neg (by omega), if_neg (by omega)]
    simp only [List.map_cons, List.map_nil, List.cons.injEq, and_true]
    split_ifs at hx <;> omega

/-- **The octets of a character** are those that its first octet announces. -/
theorem encodeChar_eq_cons_iff : encodeChar c = b :: tail ↔
    ∃ bits ranges, following b = some (bits, ranges) ∧ List.Forall₂ Within ranges tail ∧
      c = .ofNat (tail.foldl shift bits) := by
  have hmap : encodeChar c = b :: tail ↔ (b :: tail).map UInt8.toNat = octetsOf c.toNat := by
    rw [← map_toNat_encodeChar, List.map_inj_right fun _ _ ↦ UInt8.toNat_inj.1, eq_comm]
  rw [hmap]
  constructor
  · intro h
    obtain ⟨bits, ranges, hfirst, htail, hn⟩ := exists_following c.valid h
    exact ⟨bits, ranges, hfirst, htail, by rw [hn]; exact (Char.ofNat_toNat c).symm⟩
  · rintro ⟨bits, ranges, hfirst, htail, rfl⟩
    obtain ⟨hscalar, hoctets⟩ := octetsOf_foldl_shift hfirst htail
    rw [toNat_ofNat_of_isScalar hscalar, hoctets]

/-! ### Reading -/

/-- Octets complete a character of which some bits are known, and read on as characters. -/
def Completes (position bits : Nat) (ranges : List (Nat × Nat)) (bs : List UInt8)
    (cs : List Char) : Prop :=
  ∃ tail rest cs', bs = tail ++ rest ∧ List.Forall₂ Within ranges tail ∧
    cs = .ofNat (tail.foldl shift bits) :: cs' ∧
    decodeFrom (position + tail.length) none rest = .ok cs'

theorem completes_nil_iff : Completes position bits [] bs cs ↔
    (decodeFrom position none bs).map (Char.ofNat bits :: ·) = .ok cs := by
  rw [map_eq_ok_iff]
  constructor
  · rintro ⟨tail, rest, cs', rfl, htail, rfl, h⟩
    obtain rfl := List.forall₂_nil_left_iff.1 htail
    exact ⟨cs', h, rfl⟩
  · rintro ⟨cs', h, rfl⟩
    exact ⟨[], bs, cs', rfl, .nil, rfl, h⟩

theorem completes_cons_iff : Completes position bits (range :: ranges) (b :: bs) cs ↔
    Within range b ∧ Completes (position + 1) (shift bits b) ranges bs cs := by
  have hlen (tail : List UInt8) :
      position + (b :: tail).length = position + 1 + tail.length := by
    rw [List.length_cons]
    omega
  constructor
  · rintro ⟨_, rest, cs', heq, htail, hcs, h⟩
    obtain ⟨x, tail, hx, hrest, rfl⟩ := List.forall₂_cons_left_iff.1 htail
    obtain ⟨rfl, rfl⟩ := List.cons.inj heq
    rw [List.foldl_cons] at hcs
    exact ⟨hx, tail, rest, cs', rfl, hrest, hcs, hlen tail ▸ h⟩
  · rintro ⟨hb, tail, rest, cs', rfl, hrest, hcs, h⟩
    rw [← List.foldl_cons] at hcs
    exact ⟨b :: tail, rest, cs', rfl, .cons hb hrest, hcs, (hlen tail).symm ▸ h⟩

theorem not_completes_nil : ¬Completes position bits (range :: ranges) [] cs := by
  rintro ⟨tail, rest, cs', hnil, htail, -⟩
  obtain ⟨rfl, -⟩ := List.append_eq_nil_iff.1 hnil.symm
  cases htail

/-- **Inside a character** the announced octets are read, and then characters. -/
theorem decodeFrom_some_eq_ok_iff : decodeFrom position (some p) bs = .ok cs ↔
    Completes position p.bits (p.next :: p.later) bs cs := by
  induction bs generalizing p position with
  | nil => exact iff_of_false nofun not_completes_nil
  | cons b bs ih =>
    rw [completes_cons_iff, decodeFrom]
    split
    · next hb =>
      refine Iff.trans ?_ (and_iff_right hb).symm
      rcases hlater : p.later with - | ⟨next, later⟩
      · exact completes_nil_iff.symm
      · exact ih
    · next hb => exact iff_of_false nofun fun h ↦ hb h.1

/-- **At the start of a character** the octets of one are read, and then characters. -/
theorem decodeFrom_cons_eq_ok_iff : decodeFrom position none (b :: bs) = .ok cs ↔
    ∃ c tail rest cs', encodeChar c = b :: tail ∧ bs = tail ++ rest ∧ cs = c :: cs' ∧
      decodeFrom (position + 1 + tail.length) none rest = .ok cs' := by
  have hannounced : decodeFrom position none (b :: bs) = .ok cs ↔
      ∃ bits ranges, following b = some (bits, ranges) ∧
        Completes (position + 1) bits ranges bs cs := by
    rw [decodeFrom]
    rcases following b with - | ⟨bits, - | ⟨next, later⟩⟩
    · simp
    · simp [completes_nil_iff]
    · simp [decodeFrom_some_eq_ok_iff]
  rw [hannounced]
  constructor
  · rintro ⟨bits, ranges, hfirst, tail, rest, cs', rfl, htail, rfl, h⟩
    have hc := encodeChar_eq_cons_iff.2 ⟨bits, ranges, hfirst, htail, rfl⟩
    exact ⟨_, tail, rest, cs', hc, rfl, rfl, h⟩
  · rintro ⟨c, tail, rest, cs', hc, rfl, rfl, h⟩
    obtain ⟨bits, ranges, hfirst, htail, rfl⟩ := encodeChar_eq_cons_iff.1 hc
    exact ⟨bits, ranges, hfirst, tail, rest, cs', rfl, htail, rfl, h⟩

theorem encodeChar_ne_nil (c : Char) : encodeChar c ≠ [] := by
  simp only [encodeChar]
  split_ifs <;> exact List.cons_ne_nil _ _

/-- Octets are read as characters exactly where they are those of the characters, wherever the
reading starts. The induction is on the number of octets, since a character takes several at
once. -/
theorem decodeFrom_eq_ok_iff (position : Nat) (bs : List UInt8) (cs : List Char) :
    decodeFrom position none bs = .ok cs ↔ encode cs = bs := by
  induction hlen : bs.length using Nat.strongRecOn generalizing position bs cs with
  | _ n ih =>
    rcases bs with - | ⟨b, bs⟩
    · rw [decodeFrom, Except.ok.injEq, encode, List.flatMap_eq_nil_iff, eq_comm,
        List.eq_nil_iff_forall_not_mem]
      exact forall₂_congr fun c _ ↦ (iff_of_false id (encodeChar_ne_nil c))
    · rw [decodeFrom_cons_eq_ok_iff]
      constructor
      · rintro ⟨c, tail, rest, cs', hc, rfl, rfl, h⟩
        have hrest : encode cs' = rest := (ih rest.length (by simp at hlen; omega) _ _ _ rfl).1 h
        rw [encode, List.flatMap_cons, hc, ← encode, hrest]
        rfl
      · intro h
        rcases cs with - | ⟨c, cs⟩
        · cases h
        · have h : encodeChar c ++ encode cs = b :: bs := h
          obtain ⟨hnil, -⟩ | ⟨tail, hc, rfl⟩ := List.append_eq_cons_iff.1 h
          · exact absurd hnil (encodeChar_ne_nil c)
          · rw [List.length_cons, List.length_append] at hlen
            have hrest :=
              (ih (encode cs).length (by omega) (position + 1 + tail.length) _ cs rfl).2 rfl
            exact ⟨c, tail, encode cs, cs, hc, rfl, rfl, hrest⟩

/-- **What is read is what was written**: octets read as characters are the octets of those
characters, and such octets are read. -/
theorem decode_eq_ok_iff : decode bs = .ok cs ↔ encode cs = bs :=
  decodeFrom_eq_ok_iff 0 bs cs

/-- **The octets of a text** are those that it is stored as. -/
theorem encode_toList (s : String) : encode s.toList = s.toUTF8.data.toList := by
  have hchar (c : Char) : encodeChar c = String.utf8EncodeChar c := by
    have hc : c.toNat < 0xD800 ∨ 0xDFFF < c.toNat ∧ c.toNat < 0x110000 := c.valid
    have hnumbers : (String.utf8EncodeChar c).map UInt8.toNat = octetsOf c.toNat := by
      simp only [String.utf8EncodeChar, octetsOf, Char.toNat_val]
      split_ifs <;> simp <;> omega
    rw [← List.map_inj_right fun _ _ ↦ UInt8.toNat_inj.1, map_toNat_encodeChar, hnumbers]
  rw [String.toUTF8_eq_toByteArray, ← String.utf8Encode_toList, List.utf8Encode,
    List.toList_data_toByteArray, encode, funext hchar]

end Utf8

end AgentGraft.Text
