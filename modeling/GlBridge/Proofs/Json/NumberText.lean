import GlBridge.Proofs.Decimal.Reading
import GlBridge.Proofs.Json.Spelling

/-!
# Numbers read back

The text of a number is read as the number: `Number.read_write`. An integer is spelled by its
digits. For a float the spelling is that of a decimal which reads back
(`Double.toDouble_shortest`), and neither the way it is laid out nor the zeros dropped at its end
change what it denotes (`Decimal.exists_spelling`).
-/

namespace GlBridge

open Number

/-! ### What a spelling denotes -/

namespace Number.Spelling

/-- The coefficient is denoted by all digits, with or without a point among them. -/
theorem coefficient_decimal (s : Spelling) :
    s.decimal.coefficient = Nat.ofDigitChars 10 (s.whole ++ s.fraction.getD []) 0 := by
  rw [Nat.ofDigitChars_append, ← digitsValue_eq, ← digitsValue_eq]
  rfl

/-- The digits count from the last one behind the point on. -/
theorem magnitude_decimal (s : Spelling) :
    s.decimal.magnitude = Nat.ofDigitChars 10 (s.whole ++ s.fraction.getD []) 0 *
      10 ^ (s.exponent.getD 0 - (s.fraction.getD []).length) := by
  rw [Decimal.magnitude, coefficient_decimal]
  rfl

/-- A spelling that cannot be taken for an integer has its decimal for its value. -/
theorem value_of_float {s : Spelling} (h : (s.fraction.isSome || s.exponent.isSome) = true) :
    s.value? = ofDecimal? s.decimal := by
  unfold value? integer?
  rw [if_pos h]

end Number.Spelling

/-! ### Laying out a decimal -/

namespace Decimal

/-- The digits of a number other than zero, or the one digit of zero. -/
structure Digits (ds : List Char) : Prop where
  /-- there are only digits in it, -/
  isDigit : ∀ c ∈ ds, c.isDigit = true
  /-- and at least one -/
  ne_nil : ds ≠ []

/-- The digits of a number are such a run. -/
theorem digits_toDigits (n : Nat) : Digits (Nat.toDigits 10 n) :=
  ⟨isDigit_toDigits n, Nat.toDigits_ne_nil⟩

/-- No zero stands in front of the digits of a number other than zero. -/
theorem head_toDigits {n : Nat} (h : n ≠ 0) : (Nat.toDigits 10 n).head? ≠ some '0' := by
  intro hhead
  obtain ⟨c, hc⟩ := List.length_eq_one_iff.1 (length_toDigits_of_head hhead)
  have hvalue := digitsValue_toDigits n
  rw [hc] at hhead hvalue
  obtain rfl : c = '0' := Option.some.inj hhead
  exact h hvalue.symm

/-- Zeros at the end of a run of digits multiply by ten. -/
theorem ofDigitChars_append_zeros (ds : List Char) (n : Nat) :
    Nat.ofDigitChars 10 (ds ++ List.replicate n '0') 0 = 10 ^ n * Nat.ofDigitChars 10 ds 0 := by
  rw [Nat.ofDigitChars_append, Nat.ofDigitChars_replicate_zero]

/-- Zeros in front of a run of digits do not count. -/
theorem ofDigitChars_zeros_append (n : Nat) (ds : List Char) :
    Nat.ofDigitChars 10 (List.replicate n '0' ++ ds) 0 = Nat.ofDigitChars 10 ds 0 := by
  rw [Nat.ofDigitChars_append, Nat.ofDigitChars_replicate_zero, Nat.mul_zero]

/-- A spelling of the number with the given digits, the leading one at `10 ^ leading`, whose text
without the sign is `unsigned`. It cannot be taken for an integer. -/
structure Spells (s : Spelling) (digits : List Char) (leading : Int) (unsigned : List Char) :
    Prop where
  /-- it is well-formed -/
  wellFormed : s.WellFormed
  /-- its text is as given -/
  text : s.text = (if s.negative then ['-'] else []) ++ unsigned
  /-- it denotes the number -/
  magnitude : s.decimal.magnitude =
    Nat.ofDigitChars 10 digits 0 * 10 ^ (leading + 1 - digits.length)
  /-- and it has a point or an exponent -/
  isFloat : (s.fraction.isSome || s.exponent.isSome) = true

variable (negative : Bool) {digits : List Char} {leading : Int}

/-- A number below one is spelled with zeros in front of its digits. -/
theorem spells_belowOne (h : Digits digits) (hlead : leading < 0) :
    Spells ⟨negative, ['0'], some (List.replicate (-leading - 1).toNat '0' ++ digits), none⟩
      digits leading (positional digits leading) where
  wellFormed := by
    refine ⟨?_, List.cons_ne_nil _ _, fun _ => rfl, ?_, ?_⟩
    · exact fun c hc => List.mem_singleton.1 hc ▸ rfl
    · intro ds hds c hc
      obtain rfl := Option.some.inj hds
      rcases List.mem_append.1 hc with hc | hc
      · exact List.eq_of_mem_replicate hc ▸ rfl
      · exact h.isDigit c hc
    · intro ds hds
      obtain rfl := Option.some.inj hds
      exact List.append_ne_nil_of_right_ne_nil _ h.ne_nil
  text := by
    simp only [Spelling.text, Spelling.unsignedText, Spelling.fractionText, Spelling.exponentText,
      List.append_nil, positional, if_pos hlead]
    rfl
  magnitude := by
    -- the zero before the point and the zeros behind it are one run
    have hzeros : ['0'] ++ (List.replicate (-leading - 1).toNat '0' ++ digits) =
        List.replicate ((-leading - 1).toNat + 1) '0' ++ digits := rfl
    rw [Spelling.magnitude_decimal]
    simp only [Option.getD_some, Option.getD_none, hzeros, ofDigitChars_zeros_append,
      List.length_append, List.length_replicate]
    congr 2
    push_cast
    omega
  isFloat := rfl

/-- A number from one on whose digits end before the point is filled up with zeros. -/
theorem spells_whole (h : Digits digits)
    (hzero : digits.head? = some '0' → digits.length = 1 ∧ leading = 0) (hlead : 0 ≤ leading)
    (hlen : digits.length ≤ leading.toNat + 1) :
    Spells ⟨negative, digits ++ List.replicate (leading.toNat + 1 - digits.length) '0',
      some ['0'], none⟩ digits leading (positional digits leading) where
  wellFormed := by
    refine ⟨?_, List.append_ne_nil_of_left_ne_nil h.ne_nil _, ?_, ?_, ?_⟩
    · intro c hc
      rcases List.mem_append.1 hc with hc | hc
      · exact h.isDigit c hc
      · exact List.eq_of_mem_replicate hc ▸ rfl
    · -- a leading zero is the one digit of zero, and no zeros are filled in behind it
      obtain ⟨d, more, rfl⟩ := List.exists_cons_of_ne_nil h.ne_nil
      intro hhead
      obtain ⟨hone, rfl⟩ := hzero hhead
      simp [hone]
    · intro ds hds c hc
      obtain rfl := Option.some.inj hds
      exact List.mem_singleton.1 hc ▸ rfl
    · intro ds hds
      obtain rfl := Option.some.inj hds
      exact List.cons_ne_nil _ _
  text := by
    simp only [Spelling.text, Spelling.unsignedText, Spelling.fractionText, Spelling.exponentText,
      List.append_nil, positional, if_neg (not_lt.2 hlead), if_pos hlen,
      List.take_of_length_le hlen]
  magnitude := by
    obtain ⟨n, rfl⟩ := Int.eq_ofNat_of_zero_le hlead
    rw [Int.toNat_natCast] at hlen ⊢
    -- the zero behind the point is one more factor of ten, and the exponent one less
    have hzeros : digits ++ List.replicate (n + 1 - digits.length) '0' ++ ['0'] =
        digits ++ List.replicate (n + 1 - digits.length + 1) '0' := by
      rw [List.append_assoc, List.replicate_succ']
    have hexp : (n : Int) + 1 - digits.length =
        ((n + 1 - digits.length + 1 : Nat) : Int) + (0 - 1) := by omega
    rw [Spelling.magnitude_decimal, hexp, zpow_add₀ (by norm_num), zpow_natCast]
    simp only [Option.getD_some, Option.getD_none, hzeros, ofDigitChars_append_zeros,
      List.length_singleton]
    push_cast
    ring
  isFloat := rfl

/-- A number from one on whose digits reach behind the point. -/
theorem spells_split (h : Digits digits) (hlead : 0 ≤ leading)
    (hhead : digits.head? ≠ some '0') (hlen : leading.toNat + 1 < digits.length) :
    Spells ⟨negative, digits.take (leading.toNat + 1),
      some (digits.drop (leading.toNat + 1)), none⟩ digits leading
      (positional digits leading) where
  wellFormed := by
    obtain ⟨d, more, rfl⟩ := List.exists_cons_of_ne_nil h.ne_nil
    refine ⟨?_, List.cons_ne_nil _ _, fun hhead' => absurd hhead' hhead, ?_, ?_⟩
    · exact fun c hc => h.isDigit c (List.mem_of_mem_take hc)
    · intro ds hds c hc
      obtain rfl := Option.some.inj hds
      exact h.isDigit c (List.mem_of_mem_drop hc)
    · intro ds hds
      obtain rfl := Option.some.inj hds
      exact fun hnil => absurd (List.drop_eq_nil_iff.1 hnil) (Nat.not_le.2 hlen)
  text := by
    have hnone : leading.toNat + 1 - digits.length = 0 := by omega
    simp only [Spelling.text, Spelling.unsignedText, Spelling.fractionText, Spelling.exponentText,
      List.append_nil, positional, if_neg (not_lt.2 hlead), if_neg (Nat.not_le.2 hlen), hnone,
      List.replicate_zero]
  magnitude := by
    rw [Spelling.magnitude_decimal]
    simp only [Option.getD_some, Option.getD_none, List.take_append_drop, List.length_drop]
    congr 2
    omega
  isFloat := rfl

/-- A number with an exponent and one digit. -/
theorem spells_scientific_one (d : Char) (h : Digits [d]) :
    Spells ⟨negative, [d], none, some leading⟩ [d] leading (scientific [d] leading) where
  wellFormed :=
    ⟨h.isDigit, List.cons_ne_nil _ _, fun _ => rfl, fun _ hds => (nomatch hds),
      fun _ hds => (nomatch hds)⟩
  text := rfl
  magnitude := by
    rw [Spelling.magnitude_decimal]
    simp only [Option.getD_some, Option.getD_none, List.append_nil, List.length_nil,
      List.length_singleton]
    congr 2
    omega
  isFloat := rfl

/-- A number with an exponent and several digits: the point stands behind the first. -/
theorem spells_scientific (d e : Char) (more : List Char) (h : Digits (d :: e :: more)) :
    Spells ⟨negative, [d], some (e :: more), some leading⟩ (d :: e :: more) leading
      (scientific (d :: e :: more) leading) where
  wellFormed := by
    refine ⟨?_, List.cons_ne_nil _ _, fun _ => rfl, ?_, ?_⟩
    · exact fun c hc => h.isDigit c (List.mem_singleton.1 hc ▸ List.mem_cons_self)
    · intro ds hds c hc
      obtain rfl := Option.some.inj hds
      exact h.isDigit c (List.mem_cons_of_mem d hc)
    · intro ds hds
      obtain rfl := Option.some.inj hds
      exact List.cons_ne_nil _ _
  text := rfl
  magnitude := by
    rw [Spelling.magnitude_decimal]
    simp only [Option.getD_some, List.singleton_append, List.length_cons]
    congr 2
    push_cast
    omega
  isFloat := rfl

/-- Positional notation spells the number. -/
theorem exists_spells_positional (leading : Int) (h : Digits digits)
    (hzero : digits.head? = some '0' → digits.length = 1 ∧ leading = 0) :
    ∃ s : Spelling, s.negative = negative ∧
      Spells s digits leading (positional digits leading) := by
  -- the point stands before the digits, behind them, or among them
  by_cases hlead : leading < 0
  · exact ⟨_, rfl, spells_belowOne negative h hlead⟩
  have hlead' : 0 ≤ leading := not_lt.1 hlead
  by_cases hlen : digits.length ≤ leading.toNat + 1
  · exact ⟨_, rfl, spells_whole negative h hzero hlead' hlen⟩
  · refine ⟨_, rfl, spells_split negative h hlead' (fun hhead => hlen ?_) (Nat.not_le.1 hlen)⟩
    rw [(hzero hhead).1]
    omega

/-- Notation with an exponent spells the number. -/
theorem exists_spells_scientific (leading : Int) (h : Digits digits) :
    ∃ s : Spelling, s.negative = negative ∧
      Spells s digits leading (scientific digits leading) := by
  match digits, h with
  | [d], h => exact ⟨_, rfl, spells_scientific_one negative d h⟩
  | d :: e :: more, h => exact ⟨_, rfl, spells_scientific negative d e more h⟩
  | [], h => exact absurd rfl h.ne_nil

/-! ### Dropping zeros -/

/-- What is dropped are factors of ten. -/
theorem dropZeros_spec (steps c : Nat) :
    c = (dropZeros steps c).1 * 10 ^ (dropZeros steps c).2 := by
  -- on the number of zeros that may still be dropped
  induction steps generalizing c with
  | zero => rw [dropZeros, pow_zero, mul_one]
  | succ steps ih =>
    unfold dropZeros
    split
    · rename_i h
      have hdiv : c = c / 10 * 10 := by omega
      conv => lhs; rw [hdiv, ih (c / 10)]
      rw [pow_succ, mul_assoc]
    · rw [pow_zero, mul_one]

/-- **The text of a decimal spells it**, and never as an integer. -/
theorem exists_spelling (layout : Layout) (d : Decimal) :
    ∃ s : Spelling, s.WellFormed ∧ s.text = d.write layout ∧ s.negative = d.negative ∧
      s.decimal.magnitude = d.magnitude ∧ (s.fraction.isSome || s.exponent.isSome) = true := by
  unfold write
  by_cases hc : d.coefficient = 0
  · rw [if_pos hc]
    have hdigits : Digits ['0'] := digits_toDigits 0
    obtain ⟨s, hsign, hs⟩ := exists_spells_positional d.negative 0 hdigits fun _ => ⟨rfl, rfl⟩
    refine ⟨s, hs.wellFormed, hsign ▸ hs.text, hsign, ?_, hs.isFloat⟩
    rw [hs.magnitude, magnitude_of_zero hc]
    simp [Nat.ofDigitChars]
  · rw [if_neg hc]
    obtain ⟨c, zeros, hdrop⟩ : ∃ c zeros, dropZeros d.coefficient d.coefficient = (c, zeros) :=
      ⟨_, _, rfl⟩
    have hsplit := dropZeros_spec d.coefficient d.coefficient
    rw [hdrop] at hsplit ⊢
    dsimp only at hsplit ⊢
    have hpos : c ≠ 0 := by
      rintro rfl
      exact hc (hsplit.trans (Nat.zero_mul _))
    have hlen : 0 < (Nat.toDigits 10 c).length := Nat.length_toDigits_pos
    -- the place of the leading digit is all that the layouts look at
    obtain ⟨leading, hleading⟩ :
        ∃ l, l = d.exponent + zeros + ((Nat.toDigits 10 c).length - 1 : Nat) := ⟨_, rfl⟩
    rw [← hleading]
    -- whatever the layout, digits and place give the magnitude
    have hvalue : (Nat.ofDigitChars 10 (Nat.toDigits 10 c) 0 : Rat) *
        10 ^ (leading + 1 - (Nat.toDigits 10 c).length) = d.magnitude := by
      have hexp : leading + 1 - (Nat.toDigits 10 c).length = zeros + d.exponent := by omega
      rw [Nat.ofDigitChars_ten_toDigits, hexp, zpow_add₀ (by norm_num), zpow_natCast, magnitude,
        hsplit]
      push_cast
      ring
    -- both notations spell the same digits at the same place
    by_cases hlayout : layout.least ≤ leading ∧ leading ≤ layout.greatest
    · obtain ⟨s, hsign, hs⟩ := exists_spells_positional d.negative leading
        (digits_toDigits c) fun h => absurd h (head_toDigits hpos)
      rw [if_pos hlayout]
      exact ⟨s, hs.wellFormed, hsign ▸ hs.text, hsign, hs.magnitude.trans hvalue, hs.isFloat⟩
    · obtain ⟨s, hsign, hs⟩ := exists_spells_scientific d.negative leading
        (digits_toDigits c)
      rw [if_neg hlayout]
      exact ⟨s, hs.wellFormed, hsign ▸ hs.text, hsign, hs.magnitude.trans hvalue, hs.isFloat⟩

end Decimal

/-! ### Numbers -/

namespace Number

/-- A decimal that reads back as a finite number is that number. -/
theorem ofDecimal_eq {d : Decimal} {x : Double} (hx : x.isFinite = true) (h : d.toDouble = x) :
    ofDecimal? d = some (.float x hx) := by
  subst h
  exact dif_pos hx

/-- The text of an integer spells it, digit by digit. -/
theorem exists_spelling_integer (i : Int)
    (hrange : -0x8000000000000000 ≤ i ∧ i < 0x10000000000000000) :
    ∃ s : Spelling, s.WellFormed ∧ s.text = writeInteger i ∧
      s.value? = some (.integer i hrange) := by
  refine ⟨⟨decide (i < 0), Nat.toDigits 10 i.natAbs, none, none⟩, ?_, ?_, ?_⟩
  · exact ⟨isDigit_toDigits _, Nat.toDigits_ne_nil, length_toDigits_of_head,
      fun _ hds => (nomatch hds), fun _ hds => (nomatch hds)⟩
  · simp only [Spelling.text, Spelling.unsignedText, Spelling.fractionText, Spelling.exponentText,
      List.append_nil, writeInteger, decide_eq_true_iff]
  · have hvalue : (if decide (i < 0) = true then -(i.natAbs : Int) else i.natAbs) = i := by
      by_cases h : i < 0
      · rw [if_pos (decide_eq_true h)]
        omega
      · rw [if_neg (by simpa using h)]
        omega
    -- only a negative zero would be taken for a float
    have hzero : (decide (i < 0) && ((i.natAbs : Int) == 0)) = false := by
      by_cases h : i < 0
      · simp [h.ne]
      · simp [h]
    -- there is neither a point nor an exponent, so the digits are taken for an integer
    have hint : (⟨decide (i < 0), Nat.toDigits 10 i.natAbs, none, none⟩ : Spelling).integer? =
        some (.integer i hrange) := by
      unfold Spelling.integer?
      simp only [Option.isSome_none, Bool.or_false, Bool.false_eq_true, if_false,
        digitsValue_toDigits, hvalue, hzero, dif_pos hrange]
    rw [Spelling.value?, hint]

/-- **The text of a number spells it.** -/
theorem exists_spelling (n : Number) :
    ∃ s : Spelling, s.WellFormed ∧ s.text = n.write ∧ s.value? = some n := by
  cases n with
  | integer i hrange => exact exists_spelling_integer i hrange
  | float x hx =>
    obtain ⟨s, hwf, htext, hsign, hmag, hfloat⟩ := Decimal.exists_spelling layout x.shortest
    refine ⟨s, hwf, htext, ?_⟩
    rw [Spelling.value_of_float hfloat]
    refine ofDecimal_eq hx ?_
    -- the spelling and the shortest decimal differ in digits and exponent at most
    have hsign' : s.decimal.negative = x.shortest.negative := hsign
    rw [Decimal.toDouble_eq, hmag, hsign', ← Decimal.toDouble_eq, Double.toDouble_shortest hx]

/-- **A number is read back from its text.** -/
theorem read_write (n : Number) : Number.read? n.write = some (some n) := by
  obtain ⟨s, hwf, htext, hvalue⟩ := n.exists_spelling
  rw [← htext, Number.read?, Spelling.read_text hwf, Option.map_some, hvalue]

/-- The text of a number has only characters of numbers in it. -/
theorem isNumberChar_write (n : Number) : ∀ c ∈ n.write, Scanner.isNumberChar c = true := by
  obtain ⟨s, hwf, htext, -⟩ := n.exists_spelling
  exact htext ▸ Spelling.isNumberChar_text hwf

/-- It begins with a digit or the sign, and so is no other token. -/
theorem exists_write_eq_cons (n : Number) :
    ∃ c cs, n.write = c :: cs ∧ (c.isDigit || c == '-') = true := by
  obtain ⟨s, hwf, htext, -⟩ := n.exists_spelling
  exact htext ▸ Spelling.exists_text_eq_cons hwf

end Number

end GlBridge
