import Mathlib.Data.List.TakeWhile
import Mathlib.Data.Nat.Digits.Defs
import AgentGraft.Proofs.Text.Utf8
import AgentGraft.Proofs.Value.Members
import AgentGraft.Value.Render

/-!
# JSON text that is read back

What `Json.render` writes for a value, `Json.read` reads as this value (`read_render`), as long as
the text holds all of it: no number with a fraction is in it, no integer that is too long, and no
object with a key twice. So two such values have the same text only if they are the same.

A part of a text is read with any rest behind it. The one condition on the rest is that it does not
go on with a number (`EndsNumber`), which holds at every comma and every bracket. The fuel of the
reader is no matter where it is at least the length of the text.
-/

namespace AgentGraft

namespace Json

open Text

variable {n fuel start : Nat} {c : Char} {cs ds rest : List Char} {key : String} {v : Value}
  {vs : List Value} {ms : Members}

/-! ### Escapes -/

theorem hexValue?_hexDigit : ∀ d < 16, hexValue? (hexDigit d) = some d := by decide

/-- **Four digits in base sixteen** are read as the unit that they write. -/
theorem unit?_hex (hn : n < 0x10000) (rest : List Char) :
    unit? (hex 4 n ++ rest) = some (n, rest) := by
  have hdigit (k : Nat) : hexValue? (hexDigit (k % 16)) = some (k % 16) :=
    hexValue?_hexDigit _ (Nat.mod_lt _ (by decide))
  have hall : [hexDigit (n / 16 / 16 / 16 % 16), hexDigit (n / 16 / 16 % 16),
      hexDigit (n / 16 % 16), hexDigit (n % 16)].all isHexDigit = true := by
    simp only [List.all_cons, List.all_nil, isHexDigit, hdigit, Option.isSome_some, Bool.and_true]
  have hvalue : ofDigits 16 [hexDigit (n / 16 / 16 / 16 % 16), hexDigit (n / 16 / 16 % 16),
      hexDigit (n / 16 % 16), hexDigit (n % 16)] = n := by
    simp only [ofDigits, List.foldl_cons, List.foldl_nil, hdigit, Option.getD_some]
    omega
  show (if _ then some (_, rest) else none) = some (n, rest)
  rw [if_pos hall, hvalue]

/-- A unit that is no half of a pair is a character. -/
theorem unitEscape?_single (hn : n < 0x10000) (hhigh : isHighUnit n = false)
    (hlow : isLowUnit n = false) :
    unitEscape? (hex 4 n ++ rest) = some (Char.ofNat n, rest) := by
  rw [unitEscape?, unit?_hex hn]
  dsimp only
  rw [hhigh, if_neg Bool.false_ne_true, unitChar, hhigh, hlow]
  rfl

/-- Two halves are one. -/
theorem unitEscape?_pair {m : Nat} (hn : n < 0x400) (hm : m < 0x400) :
    unitEscape? (hex 4 (0xD800 + n) ++ (escapeUnit (0xDC00 + m) ++ rest)) =
      some (Char.ofNat (0x10000 + n * 0x400 + m), rest) := by
  have hhigh : isHighUnit (0xD800 + n) = true := by
    rw [isHighUnit, Bool.and_eq_true, decide_eq_true_eq, decide_eq_true_eq]
    omega
  have hlow : isLowUnit (0xDC00 + m) = true := by
    rw [isLowUnit, Bool.and_eq_true, decide_eq_true_eq, decide_eq_true_eq]
    omega
  rw [unitEscape?, unit?_hex (by omega)]
  dsimp only
  rw [if_pos hhigh, escapeUnit, List.cons_append, List.cons_append]
  simp only [unit?_hex (show 0xDC00 + m < 0x10000 by omega)]
  rw [if_pos hlow, Nat.add_sub_cancel_left, Nat.add_sub_cancel_left]

/-- **The written form of a character** is read as the character. -/
theorem string_escape (start fuel : Nat) (c : Char) (rest : List Char) :
    string start (fuel + 1) (escape c ++ rest) =
      (string start fuel rest).map fun r ↦ (c :: r.1, r.2) := by
  have hc : c.toNat < 0xD800 ∨ 0xDFFF < c.toNat ∧ c.toNat < 0x110000 := c.valid
  rw [escape.eq_def]
  split
  -- the characters with a letter of their own
  iterate 7 rfl
  next hquote hback _ _ _ _ _ =>
    dsimp only
    split
    · next hprintable =>
      rw [List.singleton_append, string]
      · rw [if_neg (by omega)]
      · exact hquote
      · rintro rfl -
        exact hback rfl
      · rintro cs rfl -
        exact hback rfl
      · rintro e cs rfl -
        exact hback rfl
    · split
      · next hsmall =>
        -- a character is no half of a pair
        have hhigh : isHighUnit c.toNat = false := by
          rw [isHighUnit, Bool.and_eq_false_iff, decide_eq_false_iff_not,
            decide_eq_false_iff_not]
          omega
        have hlow : isLowUnit c.toNat = false := by
          rw [isLowUnit, Bool.and_eq_false_iff, decide_eq_false_iff_not, decide_eq_false_iff_not]
          omega
        rw [escapeUnit, List.cons_append, List.cons_append, string,
          unitEscape?_single hsmall hhigh hlow, Char.ofNat_toNat]
      · next hlarge =>
        have hpair : unitEscape? (hex 4 (0xD800 + (c.toNat - 0x10000) / 0x400) ++
            (escapeUnit (0xDC00 + (c.toNat - 0x10000) % 0x400) ++ rest)) = _ :=
          unitEscape?_pair (by omega) (by omega)
        have hsum : 0x10000 + (c.toNat - 0x10000) / 0x400 * 0x400 + (c.toNat - 0x10000) % 0x400 =
            c.toNat := by omega
        rw [hsum, Char.ofNat_toNat] at hpair
        rw [escapeUnit, List.append_assoc, List.cons_append, List.cons_append, string, hpair]

theorem escape_ne_nil (c : Char) : escape c ≠ [] := by
  rw [escape.eq_def]
  split
  iterate 7 exact nofun
  dsimp only
  split
  · exact nofun
  · split <;> exact nofun

/-! ### Strings -/

/-- The characters of a string are read up to the closing quote. -/
theorem string_flatMap_escape (start : Nat) (hfuel : cs.length < fuel) (rest : List Char) :
    string start fuel (cs.flatMap escape ++ '"' :: rest) = .ok (cs, rest) := by
  induction cs generalizing fuel with
  | nil =>
    obtain ⟨fuel, rfl⟩ := Nat.exists_eq_add_one.2 hfuel
    rfl
  | cons c cs ih =>
    obtain ⟨fuel, rfl⟩ := Nat.exists_eq_add_one.2 (Nat.zero_lt_of_lt hfuel)
    rw [List.flatMap_cons, List.append_assoc, string_escape, ih (Nat.lt_of_succ_lt_succ hfuel)]
    rfl

theorem length_le_length_flatMap_escape (cs : List Char) :
    cs.length ≤ (cs.flatMap escape).length := by
  induction cs with
  | nil => exact Nat.zero_le _
  | cons c cs ih =>
    have hpos := List.length_pos_iff.2 (escape_ne_nil c)
    rw [List.flatMap_cons, List.length_append, List.length_cons]
    omega

/-- **A string is read back** from behind its opening quote. -/
theorem text_flatMap_escape (s : String) (rest : List Char) :
    text (s.toList.flatMap escape ++ '"' :: rest) = .ok (s, rest) := by
  have hlength : s.toList.length < (s.toList.flatMap escape ++ '"' :: rest).length + 1 := by
    have := length_le_length_flatMap_escape s.toList
    rw [List.length_append]
    omega
  rw [text, string_flatMap_escape _ hlength, Except.map, String.ofList_toList]

theorem toList_renderText (s : String) :
    (renderText s).toList = '"' :: (s.toList.flatMap escape ++ ['"']) := by
  rw [renderText, String.toList_ofList, List.cons_append]

/-! ### Numbers -/

/-- The text does not go on with a number. -/
def EndsNumber (rest : List Char) : Prop :=
  ∀ c ∈ rest.head?, isDigit c = false ∧ c ≠ '.' ∧ c ≠ 'e' ∧ c ≠ 'E'

theorem endsNumber_cons (hc : isDigit c = false ∧ c ≠ '.' ∧ c ≠ 'e' ∧ c ≠ 'E')
    (cs : List Char) : EndsNumber (c :: cs) := fun _ hd ↦ Option.some.inj hd ▸ hc

theorem isDigit_of_mem_decimal (h : c ∈ decimal n) : isDigit c = true :=
  Nat.isDigit_of_mem_toDigits (by decide) (by decide) h

theorem decimal_ne_nil (n : Nat) : decimal n ≠ [] := Nat.toDigits_ne_nil

theorem exists_decimal_eq_cons (n : Nat) :
    ∃ c cs, decimal n = c :: cs ∧ isDigit c = true := by
  obtain ⟨c, cs, hcs⟩ := List.exists_cons_of_ne_nil (decimal_ne_nil n)
  exact ⟨c, cs, hcs, isDigit_of_mem_decimal (hcs ▸ List.mem_cons_self ..)⟩

theorem hexValue?_digitChar : ∀ d < 10, hexValue? (Nat.digitChar d) = some d := by decide

theorem ofDigits_append (base : Nat) (cs : List Char) (c : Char) :
    ofDigits base (cs ++ [c]) = ofDigits base cs * base + (hexValue? c).getD 0 := by
  rw [ofDigits, List.foldl_append]
  rfl

/-- The digits of a number write it. -/
theorem ofDigits_decimal (n : Nat) : ofDigits 10 (decimal n) = n := by
  induction n using Nat.strongRecOn with
  | ind n ih =>
    rw [decimal, Nat.toDigits_eq_if (by decide)]
    split
    · next hsmall =>
      show 0 * 10 + (hexValue? n.digitChar).getD 0 = n
      rw [hexValue?_digitChar n hsmall, Option.getD_some, Nat.zero_mul, Nat.zero_add]
    · next hlarge =>
      have hfront : ofDigits 10 (Nat.toDigits 10 (n / 10)) = n / 10 := ih (n / 10) (by omega)
      rw [ofDigits_append, hfront, hexValue?_digitChar _ (Nat.mod_lt _ (by decide)),
        Option.getD_some]
      omega

/-- No number but zero starts with a zero. -/
theorem head?_decimal_ne (hn : 0 < n) : (decimal n).head? ≠ some '0' := by
  induction n using Nat.strongRecOn with
  | ind n ih =>
    rw [decimal, Nat.toDigits_eq_if (by decide)]
    split
    · next hsmall =>
      have hne : ∀ d < 10, 0 < d → Nat.digitChar d ≠ '0' := by decide
      exact fun h ↦ hne n hsmall hn (Option.some.inj h)
    · next hlarge =>
      rw [← decimal, List.head?_append_of_ne_nil _ (decimal_ne_nil (n / 10))]
      exact ih (n / 10) (by omega) (by omega)

theorem spanDigits_append (hcs : ∀ c ∈ cs, isDigit c = true) (hrest : EndsNumber rest) :
    spanDigits (cs ++ rest) = (cs, rest) := by
  have hnone : rest.takeWhile isDigit = [] := by
    cases rest with
    | nil => rfl
    | cons c rest => rw [List.takeWhile_cons_of_neg (Bool.eq_false_iff.1 (hrest c rfl).1)]
  have hall : rest.dropWhile isDigit = rest := by
    cases rest with
    | nil => rfl
    | cons c rest => rw [List.dropWhile_cons_of_neg (Bool.eq_false_iff.1 (hrest c rfl).1)]
  rw [spanDigits, List.takeWhile_append_of_pos hcs, List.dropWhile_append_of_pos hcs, hnone, hall,
    List.append_nil]

theorem spanWhole_decimal (n : Nat) (hrest : EndsNumber rest) :
    spanWhole (decimal n ++ rest) = (decimal n, rest) := by
  rcases Nat.eq_zero_or_pos n with rfl | hn
  · rfl
  · have hspan : spanDigits (decimal n ++ rest) = (decimal n, rest) :=
      spanDigits_append (fun _ ↦ isDigit_of_mem_decimal) hrest
    rw [spanWhole, hspan]
    intro cs hcs
    have hhead := congrArg List.head? hcs
    rw [List.head?_append_of_ne_nil _ (decimal_ne_nil n)] at hhead
    exact head?_decimal_ne hn hhead

theorem spanFraction_of_endsNumber (hrest : EndsNumber rest) :
    spanFraction rest = (none, rest) := by
  rw [spanFraction]
  rintro cs rfl
  exact (hrest '.' rfl).2.1 rfl

theorem spanExponent_of_endsNumber (hrest : EndsNumber rest) :
    spanExponent rest = (none, rest) := by
  cases rest with
  | nil => rfl
  | cons c rest =>
    obtain ⟨-, -, he, hE⟩ := hrest c rfl
    rw [spanExponent.eq_def]
    exact if_neg (not_or.2 ⟨he, hE⟩)

/-- **The digits of a number** that is not too long are read as the number. -/
theorem number_decimal (start : Nat) (negative : Bool) (hn : (decimal n).length ≤ maxDigits)
    (hrest : EndsNumber rest) : number start negative (decimal n ++ rest) =
      .ok (.int (if negative then -n else n), rest) := by
  rw [number, spanWhole_decimal n hrest]
  split
  · next hnil => exact absurd (congrArg Prod.fst hnil) (decimal_ne_nil n)
  · next heq =>
    cases heq
    simp only [spanFraction_of_endsNumber hrest, spanExponent_of_endsNumber hrest,
      if_neg (Nat.not_lt.2 hn), ofDigits_decimal]

/-! ### Integers -/

theorem toList_render_int (i : Int) : (render (.int i)).toList =
    if i < 0 then '-' :: decimal i.natAbs else decimal i.natAbs := by
  rw [render, show toString i = i.repr from rfl, Int.repr_eq_if]
  split_ifs with hneg hpos hpos
  · omega
  · rw [Nat.repr_eq_ofList_toDigits, String.toList_ofList, decimal,
      show i.toNat = i.natAbs by omega]
  · rw [String.toList_append, show (-i).toNat = i.natAbs by omega, Nat.repr_eq_ofList_toDigits,
      String.toList_ofList, String.toList_ofList]
    rfl
  · omega

theorem ne_of_isDigit {d : Char} (hc : isDigit c = true) (hd : isDigit d = false) : c ≠ d := by
  rintro rfl
  exact Bool.false_ne_true (hd.symm.trans hc)

/-- No word starts with a digit. -/
theorem word?_of_isDigit (hc : isDigit c = true) (cs : List Char) : word? (c :: cs) = none := by
  have hne (d : Char) (hd : isDigit d = false) : d ≠ c := (ne_of_isDigit hc hd).symm
  simp [word?, words, hne 'n' rfl, hne 't' rfl, hne 'f' rfl, hne 'N' rfl, hne 'I' rfl, hne '-' rfl]

/-- The word that starts with a minus goes on with a letter. -/
theorem word?_minus (hc : isDigit c = true) (cs : List Char) : word? ('-' :: c :: cs) = none := by
  have hne : 'I' ≠ c := (ne_of_isDigit hc rfl).symm
  simp [word?, words, hne]

theorem value_of_isDigit (hc : isDigit c = true) (fuel : Nat) (cs : List Char) :
    value (fuel + 1) (c :: cs) = number (cs.length + 1) false (c :: cs) := by
  have hne {d : Char} (hd : isDigit d = false) (ds : List Char) : c :: cs ≠ d :: ds :=
    fun h ↦ ne_of_isDigit hc hd (List.cons.inj h).1
  rw [value, word?_of_isDigit hc]
  · rfl
  · exact List.cons_ne_nil c cs
  · exact hne rfl
  · exact hne rfl
  · exact hne rfl
  · exact hne rfl

theorem value_minus (hc : isDigit c = true) (fuel : Nat) (cs : List Char) :
    value (fuel + 1) ('-' :: c :: cs) = number (cs.length + 2) true (c :: cs) := by
  rw [value, word?_minus hc]
  rfl

/-- **An integer is read back** if it is not too long. -/
theorem value_int {i : Int} (hi : (decimal i.natAbs).length ≤ maxDigits) (fuel : Nat)
    (hrest : EndsNumber rest) :
    value (fuel + 1) ((render (.int i)).toList ++ rest) = .ok (.int i, rest) := by
  obtain ⟨c, cs, hcs, hc⟩ := exists_decimal_eq_cons i.natAbs
  rw [toList_render_int]
  split
  · next hneg =>
    rw [List.cons_append, hcs, List.cons_append, value_minus hc, ← List.cons_append, ← hcs,
      number_decimal _ true hi hrest, if_pos rfl, show -(i.natAbs : Int) = i by omega]
  · next hpos =>
    rw [hcs, List.cons_append, value_of_isDigit hc, ← List.cons_append, ← hcs,
      number_decimal _ false hi hrest, if_neg Bool.false_ne_true,
      show (i.natAbs : Int) = i by omega]

/-! ### Values that a text holds -/

/-- **A text holds all of the value**: it is no number with a fraction, no integer in it is too
long, and no key is in an object twice. -/
inductive Exact : Value → Prop where
  | null : Exact .null
  | bool (b : Bool) : Exact (.bool b)
  | int (i : Int) (h : (decimal i.natAbs).length ≤ maxDigits) : Exact (.int i)
  | str (s : String) : Exact (.str s)
  | arr (items : List Value) (h : ∀ v ∈ items, Exact v) : Exact (.arr items)
  | obj (ms : Members) (hkeys : (ms.map Prod.fst).Nodup) (h : ∀ m ∈ ms, Exact m.2) :
    Exact (.obj ms)

/-! ### Parts with commas between them -/

/-- The characters of texts with a comma and a space between them. -/
def joined (l : List String) : List Char := (", ".intercalate l).toList

theorem joined_singleton (s : String) : joined [s] = s.toList := by
  rw [joined, String.toList_intercalate]
  exact List.intercalate_singleton

theorem joined_cons_cons (s t : String) (l : List String) :
    joined (s :: t :: l) = s.toList ++ ',' :: ' ' :: joined (t :: l) := by
  rw [joined, joined, String.toList_intercalate, String.toList_intercalate, List.map_cons,
    List.map_cons, List.intercalate_cons_cons, List.append_assoc]
  rfl

theorem exists_joined_eq_append (s : String) (l : List String) :
    ∃ cs, joined (s :: l) = s.toList ++ cs := by
  cases l with
  | nil => exact ⟨[], by rw [joined_singleton, List.append_nil]⟩
  | cons t l => exact ⟨_, joined_cons_cons s t l⟩

theorem renderItems_eq_map (vs : List Value) : renderItems vs = vs.map render := by
  induction vs with
  | nil => rfl
  | cons v vs ih => rw [renderItems, ih, List.map_cons]

theorem renderMembers_eq_map (ms : Members) : renderMembers ms = ms.map renderMember := by
  induction ms with
  | nil => rfl
  | cons m ms ih => rw [renderMembers, ih, List.map_cons]

theorem toList_render_arr (vs : List Value) :
    (render (.arr vs)).toList = '[' :: (joined (vs.map render) ++ [']']) := by
  rw [render, renderItems_eq_map, String.toList_append, String.toList_append]
  rfl

theorem toList_render_obj (ms : Members) :
    (render (.obj ms)).toList = '\x7b' :: (joined (ms.map renderMember) ++ ['\x7d']) := by
  rw [render, renderMembers_eq_map, String.toList_append, String.toList_append]
  rfl

theorem toList_renderMember_append (key : String) (v : Value) (cs : List Char) :
    (renderMember (key, v)).toList ++ cs =
      '"' :: (key.toList.flatMap escape ++ '"' :: ':' :: ' ' :: ((render v).toList ++ cs)) := by
  rw [renderMember, String.toList_append, String.toList_append, toList_renderText]
  simp

theorem length_render_lt (m : String × Value) :
    (render m.2).toList.length < (renderMember m).toList.length := by
  obtain ⟨key, v⟩ := m
  have h := congrArg List.length (toList_renderMember_append key v [])
  simp only [List.append_nil, List.length_cons, List.length_append] at h
  dsimp only
  omega

/-! ### Where a text begins -/

/-- A text that begins like this is not taken for white space, the end of an array or a mark of the
order of octets. -/
abbrev Opens (c : Char) : Prop := isSpace c = false ∧ c ≠ ']' ∧ c ≠ '\uFEFF'

theorem opens_of_isDigit (hc : isDigit c = true) : Opens c := by
  have hne (d : Char) (hd : isDigit d = false) : c ≠ d := ne_of_isDigit hc hd
  refine ⟨?_, hne _ rfl, hne _ rfl⟩
  simp [isSpace, hne ' ' rfl, hne '\t' rfl, hne '\n' rfl, hne '\r' rfl]

theorem exists_render_eq_cons (h : Exact v) : ∃ c cs, (render v).toList = c :: cs ∧ Opens c := by
  cases h with
  | null => exact ⟨'n', _, rfl, by decide⟩
  | bool b =>
    cases b
    · exact ⟨'f', _, rfl, by decide⟩
    · exact ⟨'t', _, rfl, by decide⟩
  | int i hi =>
    obtain ⟨c, cs, hcs, hc⟩ := exists_decimal_eq_cons i.natAbs
    rw [toList_render_int]
    split
    · exact ⟨'-', _, rfl, by decide⟩
    · exact ⟨c, cs, hcs, opens_of_isDigit hc⟩
  | str s => exact ⟨'"', _, toList_renderText s, by decide⟩
  | arr items h => exact ⟨'[', _, toList_render_arr items, by decide⟩
  | obj ms hkeys h => exact ⟨'\x7b', _, toList_render_obj ms, by decide⟩

theorem skipSpace_space (cs : List Char) : skipSpace (' ' :: cs) = skipSpace cs := rfl

theorem skipSpace_colon (cs : List Char) : skipSpace (':' :: cs) = ':' :: cs := rfl

theorem skipSpace_render (h : Exact v) (cs : List Char) :
    skipSpace ((render v).toList ++ cs) = (render v).toList ++ cs := by
  obtain ⟨c, ds, hds, hc⟩ := exists_render_eq_cons h
  rw [hds, List.cons_append]
  exact List.dropWhile_cons_of_neg (Bool.eq_false_iff.1 hc.1)

theorem skipSpace_renderMember (m : String × Value) (cs : List Char) :
    skipSpace ((renderMember m).toList ++ cs) = (renderMember m).toList ++ cs := by
  rw [toList_renderMember_append]
  rfl

/-! ### Arrays -/

/-- The reader reads the value back from its text, and hands on what follows. -/
def ReadsBack (v : Value) : Prop :=
  ∀ fuel rest, (render v).toList.length ≤ fuel → EndsNumber rest →
    value fuel ((render v).toList ++ rest) = .ok (v, rest)

theorem items_last (h : value fuel cs = .ok (v, ']' :: rest)) :
    items (fuel + 1) cs = .ok ([v], rest) := by
  rw [items, h]
  rfl

theorem items_more (h : value fuel cs = .ok (v, ',' :: ' ' :: rest)) :
    items (fuel + 1) cs = (items fuel (skipSpace rest)).map fun r ↦ (v :: r.1, r.2) := by
  rw [items, h]
  rfl

/-- The items of an array are read up to the closing bracket. -/
theorem items_joined (hexact : ∀ u ∈ v :: vs, Exact u) (h : ∀ u ∈ v :: vs, ReadsBack u)
    (hfuel : (joined ((v :: vs).map render)).length < fuel) (rest : List Char) :
    items fuel (skipSpace (joined ((v :: vs).map render) ++ ']' :: rest)) =
      .ok (v :: vs, rest) := by
  induction vs generalizing v fuel with
  | nil =>
    obtain ⟨fuel, rfl⟩ := Nat.exists_eq_add_one.2 (Nat.zero_lt_of_lt hfuel)
    have hv : v ∈ [v] := List.mem_singleton_self v
    rw [List.map_singleton, joined_singleton] at hfuel ⊢
    rw [skipSpace_render (hexact v hv)]
    exact items_last (h v hv fuel _ (Nat.le_of_lt_succ hfuel) (endsNumber_cons (by decide) rest))
  | cons w vs ih =>
    obtain ⟨fuel, rfl⟩ := Nat.exists_eq_add_one.2 (Nat.zero_lt_of_lt hfuel)
    have hv : v ∈ v :: w :: vs := List.mem_cons_self ..
    rw [List.map_cons, List.map_cons, joined_cons_cons, ← List.map_cons] at hfuel ⊢
    rw [List.length_append, List.length_cons, List.length_cons] at hfuel
    rw [List.append_assoc, skipSpace_render (hexact v hv), List.cons_append, List.cons_append]
    have hfirst := h v hv fuel (',' :: ' ' :: (joined ((w :: vs).map render) ++ ']' :: rest))
      (by omega) (endsNumber_cons (by decide) _)
    rw [items_more hfirst, ih (fun u hu ↦ hexact u (List.mem_cons_of_mem v hu))
      (fun u hu ↦ h u (List.mem_cons_of_mem v hu)) (by omega)]
    rfl

theorem value_bracket (h : skipSpace cs = c :: rest) (hc : c ≠ ']') (fuel : Nat) :
    value (fuel + 1) ('[' :: cs) = (items fuel (skipSpace cs)).map fun r ↦ (.arr r.1, r.2) := by
  rw [value, h]
  split
  · next heq => exact absurd (List.cons.inj heq).1 hc
  · rfl

/-- **An array is read back** if its items are. -/
theorem readsBack_arr (hexact : ∀ u ∈ vs, Exact u) (h : ∀ u ∈ vs, ReadsBack u) :
    ReadsBack (.arr vs) := by
  intro fuel rest hfuel _
  rw [toList_render_arr] at hfuel ⊢
  rw [List.length_cons, List.length_append, List.length_singleton] at hfuel
  obtain ⟨fuel, rfl⟩ := Nat.exists_eq_add_one.2 (Nat.zero_lt_of_lt hfuel)
  rw [List.cons_append, List.append_assoc, List.singleton_append]
  cases vs with
  | nil => rfl
  | cons v vs =>
    have hv := hexact v (List.mem_cons_self ..)
    obtain ⟨ds, hds⟩ := exists_joined_eq_append (render v) (vs.map render)
    obtain ⟨c, cs, hcs, hc⟩ := exists_render_eq_cons hv
    have hskip : skipSpace (joined ((v :: vs).map render) ++ ']' :: rest) =
        c :: (cs ++ (ds ++ ']' :: rest)) := by
      rw [List.map_cons, hds, List.append_assoc, skipSpace_render hv, hcs, List.cons_append]
    rw [value_bracket hskip hc.2.1, items_joined hexact h (by omega)]
    rfl

/-! ### Objects -/

theorem members_last (hv : Exact v)
    (h : value fuel ((render v).toList ++ '\x7d' :: rest) = .ok (v, '\x7d' :: rest)) :
    members (fuel + 1) ((renderMember (key, v)).toList ++ '\x7d' :: rest) =
      .ok ([(key, v)], rest) := by
  rw [toList_renderMember_append, members, text_flatMap_escape]
  simp only [skipSpace_colon, skipSpace_space, skipSpace_render hv, h]
  rfl

theorem members_more (hv : Exact v)
    (h : value fuel ((render v).toList ++ ',' :: ' ' :: rest) = .ok (v, ',' :: ' ' :: rest)) :
    members (fuel + 1) ((renderMember (key, v)).toList ++ ',' :: ' ' :: rest) =
      (members fuel (skipSpace rest)).map fun r ↦ ((key, v) :: r.1, r.2) := by
  rw [toList_renderMember_append, members, text_flatMap_escape]
  simp only [skipSpace_colon, skipSpace_space, skipSpace_render hv, h]
  rfl

/-- The members of an object are read up to the closing brace. -/
theorem members_joined {m : String × Value} (hexact : ∀ n ∈ m :: ms, Exact n.2)
    (h : ∀ n ∈ m :: ms, ReadsBack n.2)
    (hfuel : (joined ((m :: ms).map renderMember)).length < fuel) (rest : List Char) :
    members fuel (skipSpace (joined ((m :: ms).map renderMember) ++ '\x7d' :: rest)) =
      .ok (m :: ms, rest) := by
  induction ms generalizing m fuel with
  | nil =>
    obtain ⟨fuel, rfl⟩ := Nat.exists_eq_add_one.2 (Nat.zero_lt_of_lt hfuel)
    have hm : m ∈ [m] := List.mem_singleton_self m
    have hlength := length_render_lt m
    rw [List.map_singleton, joined_singleton] at hfuel ⊢
    rw [skipSpace_renderMember]
    exact members_last (hexact m hm)
      (h m hm fuel _ (by omega) (endsNumber_cons (by decide) rest))
  | cons n ms ih =>
    obtain ⟨fuel, rfl⟩ := Nat.exists_eq_add_one.2 (Nat.zero_lt_of_lt hfuel)
    have hm : m ∈ m :: n :: ms := List.mem_cons_self ..
    have hlength := length_render_lt m
    rw [List.map_cons, List.map_cons, joined_cons_cons, ← List.map_cons] at hfuel ⊢
    rw [List.length_append, List.length_cons, List.length_cons] at hfuel
    rw [List.append_assoc, skipSpace_renderMember, List.cons_append, List.cons_append]
    have hfirst := h m hm fuel
      (',' :: ' ' :: (joined ((n :: ms).map renderMember) ++ '\x7d' :: rest))
      (by omega) (endsNumber_cons (by decide) _)
    rw [members_more (hexact m hm) hfirst, ih (fun u hu ↦ hexact u (List.mem_cons_of_mem m hu))
      (fun u hu ↦ h u (List.mem_cons_of_mem m hu)) (by omega)]
    rfl

theorem value_brace (h : skipSpace cs = '"' :: rest) (fuel : Nat) :
    value (fuel + 1) ('\x7b' :: cs) =
      (members fuel (skipSpace cs)).map fun r ↦ (.obj (Members.ofList r.1), r.2) := by
  rw [value, h]
  rfl

/-- **An object is read back** if the values of its members are, and no key is in it twice. -/
theorem readsBack_obj (hkeys : (ms.map Prod.fst).Nodup) (hexact : ∀ m ∈ ms, Exact m.2)
    (h : ∀ m ∈ ms, ReadsBack m.2) : ReadsBack (.obj ms) := by
  intro fuel rest hfuel _
  rw [toList_render_obj] at hfuel ⊢
  rw [List.length_cons, List.length_append, List.length_singleton] at hfuel
  obtain ⟨fuel, rfl⟩ := Nat.exists_eq_add_one.2 (Nat.zero_lt_of_lt hfuel)
  rw [List.cons_append, List.append_assoc, List.singleton_append]
  cases ms with
  | nil => rfl
  | cons m ms =>
    obtain ⟨ds, hds⟩ := exists_joined_eq_append (renderMember m) (ms.map renderMember)
    have hskip : ∃ cs, skipSpace (joined ((m :: ms).map renderMember) ++ '\x7d' :: rest) =
        '"' :: cs := by
      rw [List.map_cons, hds, List.append_assoc, skipSpace_renderMember,
        toList_renderMember_append]
      exact ⟨_, rfl⟩
    obtain ⟨cs, hcs⟩ := hskip
    rw [value_brace hcs, members_joined hexact h (by omega), Except.map,
      Members.ofList_of_nodup hkeys]

/-! ### Whole texts -/

/-- **Every value that a text holds** is read back from it. -/
theorem readsBack_of_exact (h : Exact v) : ReadsBack v := by
  induction h with
  | null =>
    intro fuel rest hfuel _
    obtain ⟨fuel, rfl⟩ := Nat.exists_eq_add_one.2 (Nat.lt_of_lt_of_le (by decide) hfuel)
    rfl
  | bool b =>
    intro fuel rest hfuel _
    cases b
    all_goals
      obtain ⟨fuel, rfl⟩ := Nat.exists_eq_add_one.2 (Nat.lt_of_lt_of_le (by decide) hfuel)
      rfl
  | int i hi =>
    intro fuel rest hfuel hrest
    obtain ⟨c, cs, hcs, -⟩ := exists_render_eq_cons (.int i hi)
    rw [hcs, List.length_cons] at hfuel
    obtain ⟨fuel, rfl⟩ := Nat.exists_eq_add_one.2 (Nat.zero_lt_of_lt hfuel)
    exact value_int hi fuel hrest
  | str s =>
    intro fuel rest hfuel _
    rw [render, toList_renderText] at hfuel ⊢
    obtain ⟨fuel, rfl⟩ := Nat.exists_eq_add_one.2 (Nat.zero_lt_of_lt hfuel)
    rw [List.cons_append, List.append_assoc, List.singleton_append, value, text_flatMap_escape]
    rfl
  | arr items hitems ih => exact readsBack_arr hitems ih
  | obj ms hkeys hms ih => exact readsBack_obj hkeys hms ih

/-- **What is written for a value is read as the value.** -/
theorem read_render (h : Exact v) : read (render v) = .ok v := by
  obtain ⟨c, cs, hcs, hc⟩ := exists_render_eq_cons h
  have hvalue := readsBack_of_exact h (2 * (render v).toList.length + 2) [] (by omega) nofun
  have hskip := skipSpace_render h []
  rw [List.append_nil, hcs] at hvalue hskip
  have hmark (ds : List Char) : c :: cs ≠ '\uFEFF' :: ds := fun heq ↦
    hc.2.2 (List.cons.inj heq).1
  rw [read, hcs]
  simp only [hskip, hvalue]
  rfl

/-- What a text holds may be written. -/
theorem isWritable_of_exact (h : Exact v) : isWritable v = true := by
  induction h with
  | null => rfl
  | bool b => rfl
  | int i hi =>
    rw [isWritable, decide_eq_true_eq]
    exact hi
  | str s => rfl
  | arr items hitems ih =>
    rw [isWritable]
    clear hitems
    induction items with
    | nil => rfl
    | cons v vs ihs =>
      rw [List.forall_mem_cons] at ih
      rw [areWritable, ih.1, ihs ih.2, Bool.and_self]
  | obj ms hkeys hms ih =>
    rw [isWritable]
    clear hkeys hms
    induction ms with
    | nil => rfl
    | cons m ms ihs =>
      obtain ⟨key, v⟩ := m
      rw [List.forall_mem_cons] at ih
      rw [membersAreWritable, memberIsWritable, ih.1, ihs ih.2, Bool.and_self]

end Json

end AgentGraft
