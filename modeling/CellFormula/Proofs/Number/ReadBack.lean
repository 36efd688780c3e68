import CellFormula.Proofs.Lexer.Numerals
import CellFormula.Proofs.Number.Rank
import CellFormula.Value.Display

/-! # Written numbers read back

The decimal that is written rounds to the number, and its text is a numeral for the same number.
-/

namespace CellFormula

/-! ## The decimal rounds to the number -/

namespace Binary64

theorem divNearestEven_mul (q : Nat) {d : Nat} (hd : 0 < d) : divNearestEven (q * d) d = q := by
  simp [divNearestEven, Nat.mul_div_cancel q hd, hd]

theorem divNearestEven_mul_right (n d : Nat) {c : Nat} (hc : 0 < c) :
    divNearestEven (n * c) (d * c) = divNearestEven n d := by
  have htwice : 2 * (n % d * c) = 2 * (n % d) * c := (Nat.mul_assoc ..).symm
  simp only [divNearestEven, Nat.mul_div_mul_right _ _ hc, Nat.mul_mod_mul_right, htwice,
    Nat.mul_lt_mul_right hc]

/-- A fraction may be expanded before it is rounded. -/
theorem nearest_mul_right (n d : Nat) {c : Nat} (hc : 0 < c) :
    nearest (n * c) (d * c) = nearest n d := by
  simp only [nearest, Nat.mul_right_comm _ c, Nat.mul_div_mul_right _ _ hc,
    divNearestEven_mul_right _ _ hc]

/-- The quotient keeps as many binary digits as the significand has. -/
theorem log2_units (rank : Nat) : (units rank).log2 - 52 = scale rank := by
  have hlt : significand rank < 2 ^ 53 := significand_lt rank
  rcases Nat.eq_zero_or_pos (scale rank) with hzero | hpos
  · rcases Nat.eq_zero_or_pos (units rank) with hunits | hunits
    · rw [hunits, hzero, Nat.log2_zero]
    · have heq : units rank = significand rank := by
        rw [units, hzero]
        exact Nat.mul_one _
      have hlog : (units rank).log2 < 53 := by
        rw [Nat.log2_lt (Nat.ne_of_gt hunits), heq]
        omega
      omega
  · have hle : 2 ^ 52 ≤ significand rank := binade_le_significand hpos
    have hpow : 0 < 2 ^ scale rank := Nat.two_pow_pos _
    have hne : units rank ≠ 0 := by
      have := Nat.mul_pos (Nat.lt_of_lt_of_le (by decide) hle) hpow
      exact Nat.ne_of_gt this
    have hlog : (units rank).log2 = 52 + scale rank := by
      rw [Nat.log2_eq_iff hne, units, Nat.pow_eq]
      constructor
      · rw [Nat.pow_add]
        exact Nat.mul_le_mul_right _ hle
      · rw [Nat.add_right_comm, Nat.pow_add]
        exact Nat.mul_lt_mul_of_pos_right hlt hpow
    omega

/-- A fraction that is a binary number is rounded to it. -/
theorem nearest_eq {n d rank : Nat} (hd : 0 < d) (h : n * unitsPerOne = units rank * d) :
    nearest n d = rank := by
  have hcut : units rank * d = significand rank * (d * Nat.pow 2 (scale rank)) := by
    rw [units]
    ac_rfl
  have hpos : 0 < d * Nat.pow 2 (scale rank) := Nat.mul_pos hd (Nat.two_pow_pos _)
  simp only [nearest]
  rw [h, Nat.mul_div_cancel _ hd, log2_units, hcut, divNearestEven_mul _ hpos]
  exact scale_mul_binade_add_significand rank

end Binary64

namespace Decimal

theorem five_pow_mul_two_pow (k : Nat) : Nat.pow 5 k * Nat.pow 2 k = Nat.pow 10 k :=
  (Nat.mul_pow 5 2 k).symm

theorem le_log2_mul_five_pow {m : Nat} (k : Nat) (h : 0 < m) : k ≤ (m * Nat.pow 5 k).log2 := by
  have hpos : 0 < m * Nat.pow 5 k := Nat.mul_pos h (Nat.pow_pos (by decide))
  rw [Nat.le_log2 (Nat.ne_of_gt hpos)]
  exact Nat.le_trans (Nat.pow_le_pow_left (by decide) k) (Nat.le_mul_of_pos_left _ h)

/-- A decimal that is a binary number is rounded to it. -/
theorem rank_eq {d : Decimal} {rank : Nat} (hne : d.coefficient ≠ 0)
    (hlow : -400 ≤ d.exponent + d.coefficient.log2) (hhigh : d.exponent < 400)
    (h : d.numerator * Binary64.unitsPerOne = Binary64.units rank * d.denominator) :
    d.rank = rank := by
  have hdenominator : 0 < d.denominator := Nat.pow_pos (by decide)
  rw [Decimal.rank, if_neg (by omega), if_neg (by omega), Binary64.nearest_eq hdenominator h]

/-- Units that are powers of one half are decimals themselves. The power is kept as a variable, so
that it is not computed. -/
theorem rank_mul_five_pow {rank k : Nat} (h : 0 < rank)
    (hk : Binary64.unitsPerOne = Nat.pow 2 k) :
    Decimal.rank ⟨Binary64.units rank * Nat.pow 5 k, -(k : Int)⟩ = rank := by
  have hunits : 0 < Binary64.units rank :=
    Nat.mul_pos (Binary64.significand_pos h) (Nat.two_pow_pos _)
  have hlog := le_log2_mul_five_pow k hunits
  have hne : Binary64.units rank * Nat.pow 5 k ≠ 0 :=
    Nat.ne_of_gt (Nat.mul_pos hunits (Nat.pow_pos (by decide)))
  refine rank_eq hne (by dsimp only; omega) (by dsimp only; omega) ?_
  simp only [numerator, denominator, hk, Int.neg_neg, Int.toNat_neg_natCast, Int.toNat_natCast]
  rw [← five_pow_mul_two_pow k, ← Nat.mul_assoc, show Nat.pow 10 0 = 1 from rfl, Nat.mul_one]

theorem rank_exact {rank : Nat} (h : 0 < rank) : (exact rank).rank = rank :=
  rank_mul_five_pow h rfl

/-- What is found on a grid stands on it and reads back. -/
theorem onGrid?_sound {tie : Tie} {rank : Nat} {k : Int} {d : Decimal}
    (h : onGrid? tie rank k = some d) : d.exponent = k ∧ d.rank = rank := by
  simp only [onGrid?] at h
  split at h
  · rename_i hbelow
    split at h
    · rename_i habove
      rw [← Option.some.inj h]
      split
      · exact ⟨rfl, hbelow⟩
      · exact ⟨rfl, habove⟩
    · rw [← Option.some.inj h]
      exact ⟨rfl, hbelow⟩
  · split at h
    · rename_i habove
      rw [← Option.some.inj h]
      exact ⟨rfl, habove⟩
    · cases h

theorem rank_fromGrid (tie : Tie) {rank : Nat} (h : 0 < rank) (steps : Nat) (k : Int) :
    (fromGrid tie rank steps k).rank = rank := by
  induction steps generalizing k with
  | zero => exact rank_exact h
  | succ steps ih =>
      rw [fromGrid]
      split
      · rename_i d hd
        exact (onGrid?_sound hd).2
      · exact ih (k - 1)

/-- The decimal that is written reads back as the number. -/
theorem rank_shortest (tie : Tie) (rank : Nat) : (shortest tie rank).rank = rank := by
  unfold shortest
  split
  · rename_i hzero
    rw [hzero]
    rfl
  · rename_i hne
    exact rank_fromGrid tie (Nat.pos_of_ne_zero hne) 24 _

/-! ## The text is a numeral -/

variable (d : Decimal)

theorem isDigit_digits : d.digits.all Char.isDigit = true := by
  rw [List.all_eq_true]
  intro c hc
  exact Nat.isDigit_of_mem_toDigits (by decide) (by decide) hc

theorem digits_ne_nil : d.digits ≠ [] :=
  Nat.toDigits_ne_nil

theorem ofDigitChars_digits : Nat.ofDigitChars 10 d.digits 0 = d.coefficient :=
  Nat.ofDigitChars_ten_toDigits

/-- A numeral given by its parts. -/
theorem spells_of_parts {d : Decimal} {cs whole fraction ds power : List Char} {e : Int}
    (hwhole : whole.all Char.isDigit = true) (hfraction : Numeral.SpellsFraction fraction ds)
    (hpower : Numeral.SpellsPower power e) (hchars : cs = whole ++ fraction ++ power)
    (hne : whole ++ ds ≠ []) (hcoefficient : Nat.ofDigitChars 10 (whole ++ ds) 0 = d.coefficient)
    (hexponent : e - ds.length = d.exponent) : Numeral.Spells cs d := by
  obtain ⟨coefficient, exponent⟩ := d
  subst hchars hcoefficient hexponent
  exact .numeral hwhole hfraction hpower hne

theorem spells_positional_of_nonneg {d : Decimal} (h : 0 ≤ d.exponent) :
    Numeral.Spells d.positional ⟨d.numerator, 0⟩ := by
  have hpositional : d.positional = d.digits ++ List.replicate d.exponent.toNat '0' := if_pos h
  have hdigits : d.positional.all Char.isDigit = true := by
    simp [hpositional, d.isDigit_digits]
  refine spells_of_parts hdigits .none .none (by simp) ?_ ?_ rfl
  · simp [hpositional, d.digits_ne_nil]
  · simp [hpositional, Nat.ofDigitChars_append, ofDigitChars_digits, numerator, Nat.mul_comm]

theorem spells_positional_of_neg {d : Decimal} (h : d.exponent < 0) :
    Numeral.Spells d.positional d := by
  have hdigits := List.all_eq_true.mp d.isDigit_digits
  unfold positional
  simp only [if_neg (Int.not_le.mpr h)]
  split
  · rename_i hplaces
    have hwhole : (d.digits.take (d.digits.length - (-d.exponent).toNat)).all Char.isDigit = true :=
      List.all_eq_true.mpr fun c hc => hdigits c (List.mem_of_mem_take hc)
    have hfraction :
        (d.digits.drop (d.digits.length - (-d.exponent).toNat)).all Char.isDigit = true :=
      List.all_eq_true.mpr fun c hc => hdigits c (List.mem_of_mem_drop hc)
    refine spells_of_parts hwhole (.point hfraction) .none (by simp) ?_ ?_ ?_
    · rw [List.take_append_drop]
      exact d.digits_ne_nil
    · rw [List.take_append_drop, ofDigitChars_digits]
    · rw [List.length_drop]
      omega
  · rename_i hplaces
    have hfraction : (List.replicate ((-d.exponent).toNat - d.digits.length) '0' ++
        d.digits).all Char.isDigit = true := by
      simp [d.isDigit_digits]
    have hzero : ['0'].all Char.isDigit = true := rfl
    refine spells_of_parts hzero (.point hfraction) .none (by simp) (by simp) ?_ ?_
    · simp [Nat.ofDigitChars_append, Nat.ofDigitChars_cons, ofDigitChars_digits]
    · simp only [List.length_append, List.length_replicate]
      omega

/-- The exponent with its sign. -/
theorem spellsPower_exponent (e : Int) :
    Numeral.SpellsPower ('e' :: (if e < 0 then '-' else '+') :: Nat.toDigits 10 e.natAbs) e := by
  have hdigits : (Nat.toDigits 10 e.natAbs).all Char.isDigit = true :=
    List.all_eq_true.mpr fun c hc => Nat.isDigit_of_mem_toDigits (by decide) (by decide) hc
  by_cases h : e < 0
  · have hpower := Numeral.SpellsPower.power (.inl rfl) .minus Nat.toDigits_ne_nil hdigits
    rw [if_pos rfl, Nat.ofDigitChars_ten_toDigits, Int.ofNat_natAbs_of_nonpos (by omega),
      Int.neg_neg] at hpower
    rw [if_pos h]
    exact hpower
  · have hpower := Numeral.SpellsPower.power (.inl rfl) .plus Nat.toDigits_ne_nil hdigits
    rw [if_neg (by decide), Nat.ofDigitChars_ten_toDigits, Int.natAbs_of_nonneg (by omega)] at hpower
    rw [if_neg h]
    exact hpower

theorem length_eq_one_of_short {ds : List Char} (hne : ds ≠ [])
    (h : ∀ first second rest, ds = first :: second :: rest → False) : ds.length = 1 := by
  match ds with
  | [] => exact absurd rfl hne
  | [_] => rfl
  | first :: second :: rest => exact (h first second rest rfl).elim

theorem spells_scientific : Numeral.Spells d.scientific d := by
  have hdigits := d.isDigit_digits
  have hvalue := d.ofDigitChars_digits
  have hlead : d.leadingExponent = d.exponent + d.digits.length - 1 := rfl
  have hpower := spellsPower_exponent d.leadingExponent
  unfold scientific
  split
  · rename_i first second rest heq
    rw [heq] at hdigits hvalue hlead
    simp only [List.all_cons, Bool.and_eq_true] at hdigits
    have hwhole : [first].all Char.isDigit = true := by simp [hdigits.1]
    have hfraction : (second :: rest).all Char.isDigit = true := by simp [hdigits.2]
    refine spells_of_parts hwhole (.point hfraction) hpower rfl (by simp) hvalue ?_
    simp only [List.length_cons] at hlead ⊢
    omega
  · rename_i hshort
    have hlength : d.digits.length = 1 := length_eq_one_of_short d.digits_ne_nil hshort
    refine spells_of_parts hdigits .none hpower (by simp) ?_ ?_ ?_
    · simp [d.digits_ne_nil]
    · rw [List.append_nil, hvalue]
    · simp only [List.length_nil]
      omega

/-- A decimal in range may be written out as a whole number. -/
theorem rank_numerator {d : Decimal} (h : 0 ≤ d.exponent) (hrank : d.rank < Binary64.infinity) :
    Decimal.rank ⟨d.numerator, 0⟩ = d.rank := by
  have hdenominator : d.denominator = 1 := by
    rw [denominator, Int.toNat_of_nonpos (by omega)]
  have hzero : d.numerator = 0 ↔ d.coefficient = 0 := by
    have hpow : Nat.pow 10 d.exponent.toNat ≠ 0 := Nat.ne_of_gt (Nat.pow_pos (by decide))
    rw [numerator, Nat.mul_eq_zero, or_iff_left hpow]
  by_cases hcoefficient : d.coefficient = 0
  · rw [Decimal.rank, if_pos (.inl (hzero.mpr hcoefficient)), Decimal.rank,
      if_pos (.inl hcoefficient)]
  · have hlt : d.exponent < 400 := by
      rw [Decimal.rank, if_neg (by omega)] at hrank
      split at hrank
      · exact absurd hrank (Nat.lt_irrefl _)
      · omega
    rw [Decimal.rank, if_neg (by dsimp only; omega), if_neg (by dsimp only; omega),
      Decimal.rank, if_neg (by omega), if_neg (by omega), hdenominator]
    congr 1
    exact Nat.mul_one _

/-- Digits behind the point that are all zero do not change a whole number. -/
theorem rank_mul_ten (n : Nat) : Decimal.rank ⟨n * 10, -1⟩ = Decimal.rank ⟨n, 0⟩ := by
  by_cases hzero : n = 0
  · subst hzero
    rfl
  · rw [Decimal.rank, if_neg (by dsimp only; omega), if_neg (by dsimp only; omega),
      Decimal.rank, if_neg (by dsimp only; omega), if_neg (by dsimp only; omega)]
    simpa [numerator, denominator] using Binary64.nearest_mul_right n 1 (c := 10) (by decide)

theorem spells_positional_point {d : Decimal} (h : 0 ≤ d.exponent) :
    Numeral.Spells (d.positional ++ ['.', '0']) ⟨d.numerator * 10, -1⟩ := by
  have hpositional : d.positional = d.digits ++ List.replicate d.exponent.toNat '0' := if_pos h
  have hdigits : d.positional.all Char.isDigit = true := by
    simp [hpositional, d.isDigit_digits]
  have hzero : ['0'].all Char.isDigit = true := rfl
  refine spells_of_parts hdigits (.point hzero) .none (by simp) (by simp) ?_ rfl
  simp [hpositional, Nat.ofDigitChars_append, Nat.ofDigitChars_cons, ofDigitChars_digits, numerator,
    Nat.mul_comm]

end Decimal

namespace NumberStyle

variable (style : NumberStyle)

/-- The text of a decimal is a numeral, and it rounds to the same number. -/
theorem exists_spells_writeDecimal (d : Decimal) :
    ∃ d', Numeral.Spells (style.writeDecimal d) d' ∧
      (d.rank < Binary64.infinity → d'.rank = d.rank) := by
  unfold writeDecimal
  split
  · by_cases h : 0 ≤ d.exponent
    · cases hpoint : style.wholePoint with
      | false =>
          rw [Bool.false_and, if_neg Bool.false_ne_true, List.append_nil]
          exact ⟨_, Decimal.spells_positional_of_nonneg h, Decimal.rank_numerator h⟩
      | true =>
          rw [Bool.true_and, if_pos (decide_eq_true h)]
          refine ⟨_, Decimal.spells_positional_point h, fun hrank => ?_⟩
          rw [Decimal.rank_mul_ten, Decimal.rank_numerator h hrank]
    · rw [decide_eq_false h, Bool.and_false, if_neg Bool.false_ne_true, List.append_nil]
      exact ⟨d, Decimal.spells_positional_of_neg (by omega), fun _ => rfl⟩
  · exact ⟨d, d.spells_scientific, fun _ => rfl⟩

/-- Numerals and signs are all that numbers are written with. -/
theorem all_isPart_write (x : Float) : (style.write x).toList.all Numeral.isPart = true := by
  obtain ⟨d, hspells, -⟩ := style.exists_spells_writeDecimal
    (Decimal.shortest style.tie (Binary64.rankOf x))
  have hbody := hspells.all_isPart
  simp only [write]
  split
  · rw [String.toList_ofList, List.all_cons, hbody]
    rfl
  · rw [String.toList_ofList, hbody]

variable {style}

/-- The text of a finite number: a sign if it is negative, and then its absolute value. Only a
negative zero may lose its sign. -/
theorem toList_write {negative : Bool} {rank : Nat} (h : rank < Binary64.infinity)
    (hsign : negative = true → style.signedZero = true ∨ 0 < rank) :
    (style.write (Binary64.toFloat negative rank)).toList =
      (if negative then ['-'] else []) ++
        style.writeDecimal (Decimal.shortest style.tie rank) := by
  have hle := Nat.le_of_lt h
  simp only [write, Binary64.isNegative_toFloat _ hle, Binary64.rankOf_toFloat _ hle]
  cases negative with
  | false => simp
  | true =>
      have hkept : (style.signedZero || rank != 0) = true := by
        simpa [Nat.pos_iff_ne_zero] using hsign rfl
      simp [hkept]

/-- The numeral that is written reads back as the number of its rank. -/
theorem exists_spells_shortest (style : NumberStyle) {rank : Nat} (h : rank < Binary64.infinity) :
    ∃ d, Numeral.Spells (style.writeDecimal (Decimal.shortest style.tie rank)) d ∧
      d.toFloat? false = some (Binary64.toFloat false rank) := by
  obtain ⟨d, hspells, hrank⟩ := style.exists_spells_writeDecimal (Decimal.shortest style.tie rank)
  rw [Decimal.rank_shortest] at hrank
  exact ⟨d, hspells, by rw [Decimal.toFloat?, hrank h, if_pos h]⟩

end NumberStyle

theorem toList_write {negative : Bool} {rank : Nat} (h : rank < Binary64.infinity)
    (hpos : negative = true → 0 < rank) :
    (cellNumber.write (Binary64.toFloat negative rank)).toList =
      (if negative then ['-'] else []) ++ cellNumber.writeDecimal (Decimal.shortest .up rank) :=
  NumberStyle.toList_write h fun hnegative => .inr (hpos hnegative)

end CellFormula
