import GlBridge.Json.Token

/-!
# Spellings of numbers

`Number.Spelling.text` puts the parts of a number together again, and reading the text gives the
parts (`Number.Spelling.read_text`), provided that they are what the grammar asks for
(`Number.Spelling.WellFormed`). So whoever wants to know as what a number is read has to look at
its parts only.
-/

namespace GlBridge.Number

/-! ### Runs of digits -/

/-- The first run of digits ends where no digit follows. -/
theorem takeWhile_digits {ds rest : List Char} (hds : ∀ c ∈ ds, c.isDigit = true)
    (hrest : ∀ c ∈ rest.head?, c.isDigit = false) :
    (ds ++ rest).takeWhile Char.isDigit = ds ∧ (ds ++ rest).dropWhile Char.isDigit = rest := by
  -- behind the digits the run is over at once
  have hstop : rest.takeWhile Char.isDigit = [] ∧ rest.dropWhile Char.isDigit = rest := by
    cases rest with
    | nil => exact ⟨rfl, rfl⟩
    | cons c cs =>
      have hc : ¬c.isDigit = true := by simp [hrest c rfl]
      exact ⟨List.takeWhile_cons_of_neg hc, List.dropWhile_cons_of_neg hc⟩
  rw [List.takeWhile_append_of_pos hds, List.dropWhile_append_of_pos hds, hstop.1, hstop.2,
    List.append_nil]
  exact ⟨rfl, rfl⟩

/-- The digits of a number are digits. -/
theorem isDigit_toDigits (n : Nat) : ∀ c ∈ Nat.toDigits 10 n, c.isDigit = true :=
  fun _ => Nat.isDigit_of_mem_toDigits (by decide) (by decide)

/-- A run of digits denotes what the library says. -/
theorem digitsValue_eq (n : Nat) (ds : List Char) : digitsValue n ds = Nat.ofDigitChars 10 ds n :=
  Nat.ofDigitChars_eq_foldl.symm

/-- The digits of a number denote it. -/
@[simp] theorem digitsValue_toDigits (n : Nat) : digitsValue 0 (Nat.toDigits 10 n) = n := by
  rw [digitsValue_eq, Nat.ofDigitChars_ten_toDigits]

/-- Only the digits of zero begin with a zero. -/
theorem length_toDigits_of_head {n : Nat} (h : (Nat.toDigits 10 n).head? = some '0') :
    (Nat.toDigits 10 n).length = 1 := by
  induction n using Nat.strongRecOn with
  | ind n ih =>
    by_cases hn : n < 10
    · rw [Nat.toDigits_of_lt_base hn]
      rfl
    · rw [Nat.toDigits_of_base_le (by decide) (by omega)] at h ⊢
      -- the first digit is that of `n / 10`, which would have to be the one digit of zero
      obtain ⟨d, ds, hds⟩ :=
        List.exists_cons_of_ne_nil (Nat.toDigits_ne_nil (n := n / 10) (b := 10))
      have hhead : (Nat.toDigits 10 (n / 10)).head? = some '0' := by
        rw [hds, List.cons_append] at h
        rw [hds]
        exact h
      have hone := ih (n / 10) (by omega) hhead
      have hzero : n / 10 = 0 := by
        obtain ⟨c, hc⟩ := List.length_eq_one_iff.1 hone
        rw [hc] at hhead
        obtain rfl : c = '0' := Option.some.inj hhead
        have hvalue := digitsValue_toDigits (n / 10)
        rw [hc] at hvalue
        exact hvalue.symm
      omega

namespace Spelling

/-! ### The text of a spelling -/

/-- The point and the digits behind it. -/
def fractionText : Option (List Char) → List Char
  | none => []
  | some ds => '.' :: ds

/-- The exponent, with its sign. -/
def exponentText : Option Int → List Char
  | none => []
  | some e => 'e' :: (if e < 0 then '-' else '+') :: Nat.toDigits 10 e.natAbs

/-- The text without its sign. -/
def unsignedText (s : Spelling) : List Char :=
  s.whole ++ (fractionText s.fraction ++ exponentText s.exponent)

/-- The whole text. -/
def text (s : Spelling) : List Char := (if s.negative then ['-'] else []) ++ s.unsignedText

/-- The parts are what the grammar asks for. -/
structure WellFormed (s : Spelling) : Prop where
  /-- only digits stand before the point, -/
  isDigit_whole : ∀ c ∈ s.whole, c.isDigit = true
  /-- at least one, -/
  whole_ne_nil : s.whole ≠ []
  /-- and a zero in front only on its own -/
  whole_zero : s.whole.head? = some '0' → s.whole.length = 1
  /-- behind the point there are digits as well, -/
  isDigit_fraction : ∀ ds ∈ s.fraction, ∀ c ∈ ds, c.isDigit = true
  /-- if there is a point at all -/
  fraction_ne_nil : ∀ ds ∈ s.fraction, ds ≠ []

/-! ### Reading the parts -/

/-- The digits of an exponent are read with the sign in front of them. -/
theorem readExponentDigits_toDigits (negative : Bool) (n : Nat) :
    readExponentDigits? negative (Nat.toDigits 10 n) =
      some (if negative then -(n : Int) else n) := by
  have hall : (Nat.toDigits 10 n).all Char.isDigit = true :=
    List.all_eq_true.2 (isDigit_toDigits n)
  have hnil : (Nat.toDigits 10 n).isEmpty = false :=
    List.isEmpty_eq_false_iff.2 Nat.toDigits_ne_nil
  unfold readExponentDigits?
  rw [hall, hnil, digitsValue_toDigits]
  rfl

/-- An exponent is read as what it is. -/
theorem readExponent_text (e : Option Int) : readExponent? (exponentText e) = some e := by
  cases e with
  | none => rfl
  | some e =>
    change readExponent? ('e' :: (if e < 0 then '-' else '+') :: Nat.toDigits 10 e.natAbs) = _
    -- the sign is written for either kind, and read back before the digits
    by_cases he : e < 0
    · rw [if_pos he]
      change (readExponentDigits? true (Nat.toDigits 10 e.natAbs)).map some = _
      rw [readExponentDigits_toDigits, if_pos rfl, Option.map_some,
        Int.ofNat_natAbs_of_nonpos (Int.le_of_lt he), Int.neg_neg]
    · rw [if_neg he]
      change (readExponentDigits? false (Nat.toDigits 10 e.natAbs)).map some = _
      rw [readExponentDigits_toDigits, if_neg Bool.false_ne_true, Option.map_some,
        Int.natAbs_of_nonneg (Int.not_lt.1 he)]

/-- No digit begins what follows the digits behind the point, ... -/
theorem head_exponentText (e : Option Int) : ∀ c ∈ (exponentText e).head?, c.isDigit = false := by
  cases e with
  | none => exact fun c hc => nomatch hc
  | some e => exact fun c hc => Option.some.inj hc ▸ rfl

/-- ... and none what follows those before it. -/
theorem head_fractionText (f : Option (List Char)) (e : Option Int) :
    ∀ c ∈ (fractionText f ++ exponentText e).head?, c.isDigit = false := by
  cases f with
  | none => exact head_exponentText e
  | some ds => exact fun c hc => Option.some.inj hc ▸ rfl

/-- What stands behind the point is read up to the exponent. -/
theorem readFraction_text {f : Option (List Char)}
    (hdigits : ∀ ds ∈ f, ∀ c ∈ ds, c.isDigit = true)
    (hne : ∀ ds ∈ f, ds ≠ []) (e : Option Int) :
    readFraction? (fractionText f ++ exponentText e) = some (f, exponentText e) := by
  cases f with
  | none =>
    cases e with
    | none => rfl
    | some e => rfl
  | some ds =>
    obtain ⟨htake, hdrop⟩ := takeWhile_digits (hdigits ds rfl) (head_exponentText e)
    have hsome : ds.isEmpty = false := List.isEmpty_eq_false_iff.2 (hne ds rfl)
    change (if ((ds ++ exponentText e).takeWhile Char.isDigit).isEmpty then none
      else some (some ((ds ++ exponentText e).takeWhile Char.isDigit),
        (ds ++ exponentText e).dropWhile Char.isDigit)) = _
    rw [htake, hdrop, hsome]
    rfl

variable {s : Spelling}

/-- So the text without its sign is read as its parts. -/
theorem readUnsigned_text (h : s.WellFormed) :
    readUnsigned? s.negative s.unsignedText = some s := by
  obtain ⟨htake, hdrop⟩ :=
    takeWhile_digits h.isDigit_whole (head_fractionText s.fraction s.exponent)
  have hsome : s.whole.isEmpty = false := List.isEmpty_eq_false_iff.2 h.whole_ne_nil
  -- no digit stands behind a leading zero
  have hzero : (s.whole.head? == some '0' && s.whole.length != 1) = false := by
    cases hhead : s.whole.head? == some '0' with
    | false => rfl
    | true => simp [h.whole_zero (by simpa using hhead)]
  -- the three runs of characters end where the next one begins
  unfold readUnsigned? unsignedText
  simp only [htake, hdrop, hsome, hzero, readFraction_text h.isDigit_fraction h.fraction_ne_nil,
    Bool.or_false, Bool.false_eq_true, if_false, Option.bind_eq_bind, Option.bind_some,
    readExponent_text]
  rfl

/-- **A spelling is read as its parts.** -/
theorem read_text (h : s.WellFormed) : Spelling.read? s.text = some s := by
  unfold text
  cases hneg : s.negative with
  | true =>
    rw [if_pos rfl]
    change readUnsigned? true s.unsignedText = _
    rw [← hneg]
    exact readUnsigned_text h
  | false =>
    rw [if_neg Bool.false_ne_true, List.nil_append]
    have hread := readUnsigned_text h
    rw [hneg] at hread
    unfold Spelling.read?
    split
    · -- a digit stands in front, not the sign
      rename_i cs hcs
      obtain ⟨c, w, hw⟩ := List.exists_cons_of_ne_nil h.whole_ne_nil
      rw [unsignedText, hw, List.cons_append] at hcs
      have hdigit := h.isDigit_whole c (hw ▸ List.mem_cons_self)
      rw [(List.cons.inj hcs).1] at hdigit
      cases hdigit
    · exact hread

/-! ### The characters of a spelling -/

/-- A digit may stand in a number. -/
theorem isNumberChar_of_isDigit {c : Char} (h : c.isDigit = true) :
    Scanner.isNumberChar c = true := by
  simp [Scanner.isNumberChar, h]

/-- So may every other character of a spelling. -/
theorem isNumberChar_text (h : s.WellFormed) : ∀ c ∈ s.text, Scanner.isNumberChar c = true := by
  have hexp : ∀ c ∈ exponentText s.exponent, Scanner.isNumberChar c = true := by
    cases s.exponent with
    | none => exact fun c hc => nomatch hc
    | some e =>
      intro c hc
      unfold exponentText at hc
      rcases List.mem_cons.1 hc with rfl | hc
      · rfl
      rcases List.mem_cons.1 hc with rfl | hc
      · split <;> rfl
      exact isNumberChar_of_isDigit (isDigit_toDigits _ c hc)
  have hfrac : ∀ c ∈ fractionText s.fraction, Scanner.isNumberChar c = true := by
    cases hf : s.fraction with
    | none => exact fun c hc => nomatch hc
    | some ds =>
      intro c hc
      rcases List.mem_cons.1 hc with rfl | hc
      · rfl
      exact isNumberChar_of_isDigit (h.isDigit_fraction ds hf c hc)
  intro c hc
  unfold text unsignedText at hc
  simp only [List.mem_append] at hc
  -- part by part: the sign, the digits before the point, those behind it, the exponent
  rcases hc with hc | hc | hc | hc
  · cases hneg : s.negative with
    | true =>
      rw [hneg, if_pos rfl] at hc
      obtain rfl := List.mem_singleton.1 hc
      rfl
    | false =>
      rw [hneg, if_neg Bool.false_ne_true] at hc
      exact nomatch hc
  · exact isNumberChar_of_isDigit (h.isDigit_whole c hc)
  · exact hfrac c hc
  · exact hexp c hc

/-- A spelling begins with a digit or the sign. -/
theorem exists_text_eq_cons (h : s.WellFormed) :
    ∃ c cs, s.text = c :: cs ∧ (c.isDigit || c == '-') = true := by
  unfold text unsignedText
  cases s.negative with
  | true => exact ⟨'-', _, rfl, rfl⟩
  | false =>
    obtain ⟨c, w, hw⟩ := List.exists_cons_of_ne_nil h.whole_ne_nil
    refine ⟨c, w ++ (fractionText s.fraction ++ exponentText s.exponent), ?_, ?_⟩
    · rw [hw]
      rfl
    · simp [h.isDigit_whole c (hw ▸ List.mem_cons_self)]

end Spelling

end GlBridge.Number
