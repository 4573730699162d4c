import Deferred.Text.Integer
import Deferred.Text.Quoted

/-!
# Integers and quoted texts as they are written

Both written forms can be told from what stands behind them: an integer ends where its digits end
(`Text.ofInteger_append_inj`), and a quoted text ends at the first double quote that is not part of
an escape (`Quoted.encode_append_inj`). Neither contains a control character.

Reading is not as strict as writing: every integer of 64 bits in decimal notation is read
(`Text.Decimal.integer?_eq`), and nothing else is (`Text.decimal_of_integer?`).
-/

namespace Deferred

/-! ## Integers -/

namespace Text

/-- A character that the written form of an integer may have. -/
def isNumeral (c : Char) : Bool := c = '-' || c.isDigit

theorem foldlM_digits {cs : List Char} (h : ∀ c ∈ cs, c.isDigit = true) (n : Nat) :
    cs.foldlM (fun n c => if c.isDigit then some (10 * n + (c.toNat - '0'.toNat)) else none) n =
      some (Nat.ofDigitChars 10 cs n) := by
  induction cs generalizing n with
  | nil => rfl
  | cons c cs ih =>
    obtain ⟨hc, hcs⟩ := List.forall_mem_cons.1 h
    rw [List.foldlM_cons, if_pos hc, Nat.ofDigitChars_cons]
    exact ih hcs _

theorem isDigit_of_mem_toDigits {n : Nat} {c : Char} (h : c ∈ Nat.toDigits 10 n) :
    c.isDigit = true :=
  Nat.isDigit_of_mem_toDigits (by decide) (by decide) h

theorem digits?_toDigits (n : Nat) : digits? (Nat.toDigits 10 n) = some n := by
  have hdigits : ∀ c ∈ Nat.toDigits 10 n, c.isDigit = true := by
    intro c hc
    exact isDigit_of_mem_toDigits hc
  have hne : ¬ (Nat.toDigits 10 n).isEmpty = true := by
    rw [List.isEmpty_iff]
    exact Nat.toDigits_ne_nil
  rw [digits?, if_neg hne, foldlM_digits hdigits, Nat.ofDigitChars_ten_toDigits]

/-- A text that begins with a digit is read as one without a sign. -/
theorem integer?_of_isDigit {c : Char} {cs : List Char} (h : c.isDigit = true) :
    integer? (c :: cs) = (digits? (c :: cs)).bind fun n => Integer.ofInt? n := by
  unfold integer?
  split
  · next heq =>
    cases heq
    cases h
  · next heq =>
    cases heq
    cases h
  · rfl

/-- The characters of a written integer: digits, after a sign if it is negative. -/
theorem toList_ofInteger (n : Int64) :
    (ofInteger n).toList =
      if 0 ≤ n.toInt then Nat.toDigits 10 n.toInt.toNat
      else '-' :: Nat.toDigits 10 (-n.toInt).toNat := by
  show n.toInt.repr.toList = _
  rw [Int.repr_eq_if]
  split
  · exact Nat.toList_repr
  · rw [String.toList_append, Nat.toList_repr]
    rfl

/-- A written integer is read as the integer that it is. -/
theorem integer?_ofInteger (n : Int64) : integer? (ofInteger n).toList = some n := by
  rw [toList_ofInteger]
  split
  · next h =>
    obtain ⟨c, cs, hcs⟩ :=
      List.exists_cons_of_ne_nil (Nat.toDigits_ne_nil (n := n.toInt.toNat) (b := 10))
    have hc : c.isDigit = true := isDigit_of_mem_toDigits (hcs ▸ List.mem_cons_self)
    rw [hcs, integer?_of_isDigit hc, ← hcs, digits?_toDigits]
    exact Integer.ofInt?_eq_some_iff.2 (Int.toNat_of_nonneg h).symm
  · next h =>
    show (digits? (Nat.toDigits 10 (-n.toInt).toNat)).bind _ = _
    rw [digits?_toDigits]
    exact Integer.ofInt?_eq_some_iff.2 (by omega)

theorem toList_ofInteger_ne_nil (n : Int64) : (ofInteger n).toList ≠ [] := by
  intro h
  have hread := integer?_ofInteger n
  rw [h] at hread
  cases hread

theorem isNumeral_of_mem_ofInteger {n : Int64} {c : Char} (h : c ∈ (ofInteger n).toList) :
    isNumeral c = true := by
  have hdigit {m : Nat} (h : c ∈ Nat.toDigits 10 m) : isNumeral c = true := by
    rw [isNumeral, isDigit_of_mem_toDigits h, Bool.or_true]
  rw [toList_ofInteger] at h
  split at h
  · exact hdigit h
  · rcases List.mem_cons.1 h with rfl | h
    · rfl
    · exact hdigit h

theorem isControl_of_isNumeral {c : Char} (h : isNumeral c = true) :
    CharProperty.isControl c = false := by
  simp only [isNumeral, Bool.or_eq_true, decide_eq_true_eq] at h
  rcases h with rfl | h
  · rfl
  · obtain ⟨hlow, hhigh⟩ : 48 ≤ c.toNat ∧ c.toNat ≤ 57 := Char.isDigit_iff_toNat.1 h
    simp only [CharProperty.isControl, Bool.or_eq_false_iff, Bool.and_eq_false_iff,
      decide_eq_false_iff_not]
    omega

/-- The numeral at the front of a text, when what follows it does not go on with it. -/
theorem takeWhile_ofInteger_append (n : Int64) {rest : List Char}
    (h : ∀ c ∈ rest.head?, isNumeral c = false) :
    ((ofInteger n).toList ++ rest).takeWhile isNumeral = (ofInteger n).toList := by
  have hrest : rest.takeWhile isNumeral = [] := by
    cases rest with
    | nil => rfl
    | cons c rest => rw [List.takeWhile_cons_of_neg (by rw [h c rfl]; decide)]
  rw [List.takeWhile_append_of_pos fun c hc => isNumeral_of_mem_ofInteger hc, hrest,
    List.append_nil]

/-- A written integer and the text after it are told apart if the text does not go on with it. -/
theorem ofInteger_append_inj {m n : Int64} {q r : List Char}
    (hq : ∀ c ∈ q.head?, isNumeral c = false) (hr : ∀ c ∈ r.head?, isNumeral c = false)
    (h : (ofInteger m).toList ++ q = (ofInteger n).toList ++ r) : m = n ∧ q = r := by
  have htext : (ofInteger m).toList = (ofInteger n).toList := by
    rw [← takeWhile_ofInteger_append m hq, h, takeWhile_ofInteger_append n hr]
  have hnumber : some m = some n := by
    rw [← integer?_ofInteger, htext, integer?_ofInteger]
  rw [htext] at h
  exact ⟨Option.some.inj hnumber, List.append_cancel_left h⟩

/-! ## Decimal notation

An integer can be written in more ways than one, with a plus sign or with zeros in front. -/

/-- One decimal digit or more, and nothing else. -/
def IsDigits (cs : List Char) : Prop := cs ≠ [] ∧ ∀ c ∈ cs, c.isDigit = true

-- The characters of the text are tried, and not all characters.
instance (cs : List Char) : Decidable (IsDigits cs) :=
  @instDecidableAnd _ _ inferInstance (List.decidableBAll (fun c => c.isDigit = true) cs)

/-- A text in decimal notation, of whatever length, and the number that it stands for. -/
inductive Decimal : List Char → Int → Prop where
  | unsigned {ds : List Char} (h : IsDigits ds) : Decimal ds (Nat.ofDigitChars 10 ds 0)
  | plus {ds : List Char} (h : IsDigits ds) : Decimal ('+' :: ds) (Nat.ofDigitChars 10 ds 0)
  | minus {ds : List Char} (h : IsDigits ds) :
    Decimal ('-' :: ds) (-(Nat.ofDigitChars 10 ds 0 : Int))

theorem isDigit_of_foldlM {cs : List Char} {m n : Nat}
    (h : cs.foldlM (fun n c => if c.isDigit then some (10 * n + (c.toNat - '0'.toNat)) else none)
      m = some n) : ∀ c ∈ cs, c.isDigit = true := by
  induction cs generalizing m with
  | nil => exact nofun
  | cons c cs ih =>
    rw [List.foldlM_cons] at h
    by_cases hc : c.isDigit = true
    · rw [if_pos hc] at h
      exact List.forall_mem_cons.2 ⟨hc, ih h⟩
    · rw [if_neg hc] at h
      cases h

theorem digits?_eq_some_iff {cs : List Char} {n : Nat} :
    digits? cs = some n ↔ IsDigits cs ∧ Nat.ofDigitChars 10 cs 0 = n := by
  unfold digits?
  split
  · next hempty =>
    constructor
    · exact nofun
    · rintro ⟨⟨hne, -⟩, -⟩
      exact absurd (List.isEmpty_iff.1 hempty) hne
  · next hne =>
    constructor
    · intro h
      have hdigits := isDigit_of_foldlM h
      rw [foldlM_digits hdigits] at h
      exact ⟨⟨mt List.isEmpty_iff.2 hne, hdigits⟩, Option.some.inj h⟩
    · rintro ⟨⟨-, hdigits⟩, rfl⟩
      exact foldlM_digits hdigits 0

/-- A text in decimal notation is read as its number, if that has 64 bits. -/
theorem Decimal.integer?_eq {cs : List Char} {n : Int} (h : Decimal cs n) :
    integer? cs = Integer.ofInt? n := by
  have hread {ds : List Char} (h : IsDigits ds) : digits? ds = some (Nat.ofDigitChars 10 ds 0) :=
    digits?_eq_some_iff.2 ⟨h, rfl⟩
  cases h with
  | unsigned h =>
    obtain ⟨c, ds, rfl⟩ := List.exists_cons_of_ne_nil h.1
    rw [integer?_of_isDigit (h.2 c List.mem_cons_self), hread h, Option.bind_some]
  | plus h => rw [integer?, hread h, Option.bind_some]
  | minus h => rw [integer?, hread h, Option.bind_some]

/-- Nothing else is read as a number. -/
theorem decimal_of_integer? {cs : List Char} {k : Int64} (h : integer? cs = some k) :
    Decimal cs k.toInt := by
  unfold integer? at h
  split at h
  all_goals
    obtain ⟨n, hn, hk⟩ := Option.bind_eq_some_iff.1 h
    obtain ⟨hdigits, rfl⟩ := digits?_eq_some_iff.1 hn
    rw [Integer.ofInt?_eq_some_iff.1 hk]
  · exact .minus hdigits
  · exact .plus hdigits
  · exact .unsigned hdigits

theorem decimal_ofInteger (n : Int64) : Decimal (ofInteger n).toList n.toInt :=
  decimal_of_integer? (integer?_ofInteger n)

end Text

/-! ## Quoted texts -/

namespace Quoted

/-- The number that a hexadecimal digit in lower case stands for. -/
def hexDigitValue (c : Char) : Nat := c.toNat - if c.isDigit then 48 else 87

theorem hexDigitValue_hexDigit : ∀ n < 16, hexDigitValue (hexDigit n) = n := by decide

theorem isControl_hexDigit : ∀ n < 16, CharProperty.isControl (hexDigit n) = false := by decide

/-- The number that four hexadecimal digits stand for. -/
def hexValue (a b c d : Char) : Nat :=
  4096 * hexDigitValue a + 256 * hexDigitValue b + 16 * hexDigitValue c + hexDigitValue d

/-- Reads an escape after its backslash. -/
def decodeEscape : List Char → Option (Char × List Char)
  | 'n' :: rest => some ('\n', rest)
  | 'r' :: rest => some ('\r', rest)
  | 't' :: rest => some ('\t', rest)
  | 'u' :: a :: b :: c :: d :: rest => some (Char.ofNat (hexValue a b c d), rest)
  | c :: rest => some (c, rest)
  | [] => none

/-- Reads the next character inside a quoted text; at the closing quote there is none. -/
def decodeChar : List Char → Option (Char × List Char)
  | [] => none
  | c :: rest =>
    if c = '"' then none else if c = '\\' then decodeEscape rest else some (c, rest)

theorem decodeEscape_hex4 {n : Nat} (h : n < 65536) (rest : List Char) :
    decodeEscape ('u' :: (hex4 n ++ rest)) = some (Char.ofNat n, rest) := by
  have hvalue : hexValue (hexDigit (n / 4096 % 16)) (hexDigit (n / 256 % 16))
      (hexDigit (n / 16 % 16)) (hexDigit (n % 16)) = n := by
    have hdigit (m : Nat) : hexDigitValue (hexDigit (m % 16)) = m % 16 :=
      hexDigitValue_hexDigit _ (Nat.mod_lt m (by decide))
    rw [hexValue, hdigit, hdigit, hdigit, hdigit]
    omega
  show some (Char.ofNat (hexValue _ _ _ _), rest) = _
  rw [hvalue]

theorem lt_of_isControl {c : Char} (h : CharProperty.isControl c = true) : c.toNat < 65536 := by
  simp only [CharProperty.isControl, Bool.or_eq_true, Bool.and_eq_true, decide_eq_true_eq] at h
  omega

/-- The three ways to write a character: a backslash and a letter that stands for it, its number, or
the character itself. -/
theorem encodeChar_cases (c : Char) :
    (∃ e, encodeChar c = ['\\', e] ∧ CharProperty.isControl e = false ∧
      ∀ rest, decodeEscape (e :: rest) = some (c, rest)) ∨
    (encodeChar c = '\\' :: 'u' :: hex4 c.toNat ∧ CharProperty.isControl c = true) ∨
    (encodeChar c = [c] ∧ c ≠ '"' ∧ c ≠ '\\' ∧ CharProperty.isControl c = false) := by
  unfold encodeChar
  split
  · next h => exact .inl ⟨'"', rfl, rfl, fun rest => by rw [h]; rfl⟩
  split
  · next h => exact .inl ⟨'\\', rfl, rfl, fun rest => by rw [h]; rfl⟩
  split
  · next h => exact .inl ⟨'n', rfl, rfl, fun rest => by rw [h]; rfl⟩
  split
  · next h => exact .inl ⟨'r', rfl, rfl, fun rest => by rw [h]; rfl⟩
  split
  · next h => exact .inl ⟨'t', rfl, rfl, fun rest => by rw [h]; rfl⟩
  split
  · next h => exact .inr (.inl ⟨rfl, h⟩)
  · next hquote hbackslash _ _ _ h =>
    exact .inr (.inr ⟨rfl, hquote, hbackslash, Bool.eq_false_iff.2 h⟩)

/-- Every character is read as it was before it was written. -/
theorem decodeChar_encodeChar (c : Char) (rest : List Char) :
    decodeChar (encodeChar c ++ rest) = some (c, rest) := by
  obtain ⟨e, he, -, hread⟩ | ⟨he, hcontrol⟩ | ⟨he, hquote, hbackslash, -⟩ := encodeChar_cases c
  · rw [he]
    exact hread rest
  · rw [he]
    show decodeEscape ('u' :: (hex4 c.toNat ++ rest)) = _
    rw [decodeEscape_hex4 (lt_of_isControl hcontrol), Char.ofNat_toNat]
  · rw [he]
    show (if c = '"' then none else if c = '\\' then decodeEscape rest else some (c, rest)) = _
    rw [if_neg hquote, if_neg hbackslash]

/-- The inside of a quoted text ends at the closing quote. -/
theorem flatMap_encodeChar_append_inj {s t q r : List Char}
    (h : s.flatMap encodeChar ++ '"' :: q = t.flatMap encodeChar ++ '"' :: r) :
    s = t ∧ q = r := by
  induction s generalizing t with
  | nil =>
    cases t with
    | nil => exact ⟨rfl, (List.cons.inj h).2⟩
    | cons c t =>
      rw [List.flatMap_cons, List.append_assoc] at h
      have hread := decodeChar_encodeChar c (t.flatMap encodeChar ++ '"' :: r)
      rw [← h] at hread
      cases hread
  | cons c s ih =>
    have hleft := decodeChar_encodeChar c (s.flatMap encodeChar ++ '"' :: q)
    rw [List.flatMap_cons, List.append_assoc] at h
    cases t with
    | nil =>
      rw [h] at hleft
      cases hleft
    | cons d t =>
      rw [List.flatMap_cons, List.append_assoc] at h
      rw [h, decodeChar_encodeChar] at hleft
      obtain ⟨rfl, hrest⟩ := Prod.mk.inj (Option.some.inj hleft)
      obtain ⟨rfl, hqr⟩ := ih hrest.symm
      exact ⟨rfl, hqr⟩

/-- A quoted text and the text after it are told apart. -/
theorem encode_append_inj {s t q r : List Char} (h : encode s ++ q = encode t ++ r) :
    s = t ∧ q = r := by
  have hinside := (List.cons.inj h).2
  rw [List.append_eq, List.append_assoc, List.append_eq, List.append_assoc] at hinside
  exact flatMap_encodeChar_append_inj hinside

/-- Nothing that is written for a character is a control character. -/
theorem isControl_of_mem_encodeChar {c d : Char} (h : d ∈ encodeChar c) :
    CharProperty.isControl d = false := by
  obtain ⟨e, he, hplain, -⟩ | ⟨he, -⟩ | ⟨he, -, -, hplain⟩ := encodeChar_cases c
  · rw [he, List.mem_cons, List.mem_singleton] at h
    rcases h with rfl | rfl
    · rfl
    · exact hplain
  · have hdigit (n : Nat) : CharProperty.isControl (hexDigit (n % 16)) = false :=
      isControl_hexDigit _ (Nat.mod_lt n (by decide))
    simp only [he, hex4, List.mem_cons, List.not_mem_nil, or_false] at h
    rcases h with rfl | rfl | rfl | rfl | rfl | rfl
    · rfl
    · rfl
    all_goals exact hdigit _
  · rw [he] at h
    rw [List.mem_singleton.1 h]
    exact hplain

theorem isControl_of_mem_encode {s : List Char} {c : Char} (h : c ∈ encode s) :
    CharProperty.isControl c = false := by
  rcases List.mem_cons.1 h with rfl | h
  · rfl
  rcases List.mem_append.1 h with h | h
  · obtain ⟨d, -, hd⟩ := List.mem_flatMap.1 h
    exact isControl_of_mem_encodeChar hd
  · cases List.mem_singleton.1 h
    rfl

end Quoted

end Deferred
