import CellFormula.Proofs.Number.ReadBack

/-! # Whole numbers

Whole numbers up to `2 ^ 53` are binary numbers themselves, and no other decimal without a fraction
and with zeros at its end rounds to one of them. So they are written with their own digits.
-/

namespace CellFormula

/-! ## The binary numbers among the whole numbers -/

namespace Binary64

/-- A significand of full length, or any at the lowest scale, gives the rank by itself. Twice a
binade carries into the scale. -/
theorem units_scale_add {s e : Nat} (hle : s ≤ 2 * binade) (hfull : e = 0 ∨ binade ≤ s) :
    units (e * binade + s) = s * 2 ^ e := by
  have hpos : 0 < binade := by decide
  rcases Nat.lt_or_ge s binade with hlt | hge
  · obtain rfl : e = 0 := by omega
    rw [Nat.zero_mul, Nat.zero_add, units, significand_of_lt hlt, scale, Nat.div_eq_of_lt hlt]
    rfl
  · have hrank : binade ≤ e * binade + s := Nat.le_add_left_of_le hge
    rw [units, significand_of_le hrank, scale, Nat.mul_comm e, Nat.mul_add_div hpos,
      Nat.mul_add_mod]
    rcases Nat.lt_or_eq_of_le hle with hlt | rfl
    · have hdiv : s / binade = 1 := by
        rw [Nat.div_eq_iff hpos]
        omega
      have hmod : binade + s % binade = s := by
        have := Nat.div_add_mod s binade
        rw [hdiv] at this
        omega
      rw [hdiv, hmod, Nat.add_sub_cancel, Nat.pow_eq]
    · rw [Nat.mul_div_cancel _ hpos, Nat.mul_mod_left, Nat.add_zero, Nat.pow_eq,
        show e + 2 - 1 = e + 1 from rfl, Nat.pow_succ']
      ac_rfl

/-- What fits into a significand is a binary number at every scale. -/
theorem exists_units_eq {s : Nat} (hs : s ≤ 2 * binade) (e : Nat) :
    ∃ rank, rank ≤ (e + 2) * binade ∧ units rank = s * 2 ^ e := by
  induction e generalizing s with
  | zero => exact ⟨0 * binade + s, by omega, units_scale_add hs (.inl rfl)⟩
  | succ e ih =>
      rcases Nat.lt_or_ge s binade with hlt | hge
      · obtain ⟨rank, hrank, hunits⟩ := ih (s := 2 * s) (by omega)
        refine ⟨rank, Nat.le_trans hrank (Nat.mul_le_mul_right _ (by omega)), ?_⟩
        rw [hunits, Nat.pow_succ']
        ac_rfl
      · refine ⟨(e + 1) * binade + s, ?_, units_scale_add hs (.inr hge)⟩
        rw [Nat.add_mul (e + 1) 2]
        exact Nat.add_le_add_left hs _

/-- The number of units in one is kept as a power, so that it is not computed. -/
theorem exists_unitsPerOne_eq : ∃ k, k = 1074 ∧ unitsPerOne = 2 ^ k :=
  ⟨1074, rfl, rfl⟩

theorem unitsPerOne_pos : 0 < unitsPerOne := by
  obtain ⟨k, -, hk⟩ := exists_unitsPerOne_eq
  rw [hk]
  exact Nat.two_pow_pos k

theorem exists_units_eq_whole {s : Nat} (hs : s ≤ 2 * binade) (j : Nat) :
    ∃ rank, rank ≤ (j + 1076) * binade ∧ units rank = s * 2 ^ j * unitsPerOne := by
  obtain ⟨k, hpower, hk⟩ := exists_unitsPerOne_eq
  obtain ⟨rank, hrank, hunits⟩ := exists_units_eq hs (j + k)
  refine ⟨rank, Nat.le_trans hrank (Nat.mul_le_mul_right _ (by omega)), ?_⟩
  rw [hunits, hk, Nat.pow_add, Nat.mul_assoc]

theorem units_mono {rank rank' : Nat} (h : rank ≤ rank') : units rank ≤ units rank' := by
  have hscale : scale rank ≤ scale rank' :=
    Nat.sub_le_sub_right (Nat.div_le_div_right h) 1
  have hrank := scale_mul_binade_add_significand rank
  have hrank' := scale_mul_binade_add_significand rank'
  rcases Nat.lt_or_eq_of_le hscale with hlt | heq
  · calc
      units rank ≤ 2 * binade * 2 ^ scale rank :=
        Nat.mul_le_mul_right _ (Nat.le_of_lt (significand_lt rank))
      _ = binade * 2 ^ (scale rank + 1) := by
        rw [Nat.pow_succ']
        ac_rfl
      _ ≤ significand rank' * 2 ^ scale rank' :=
        Nat.mul_le_mul (binade_le_significand (by omega)) (Nat.pow_le_pow_right (by decide) hlt)
  · rw [units, units, heq]
    rw [heq] at hrank
    exact Nat.mul_le_mul_right _ (by omega)

theorem le_divNearestEven (n d : Nat) : n / d ≤ divNearestEven n d := by
  unfold divNearestEven
  dsimp only
  split
  · exact Nat.le_refl _
  · split
    · exact Nat.le_succ _
    · exact Nat.le_add_right _ _

/-- A fraction is not rounded to a number below one that it reaches. -/
theorem le_nearest {n d rank : Nat} (hd : 0 < d) (h : units rank * d ≤ n * unitsPerOne) :
    rank ≤ nearest n d := by
  have hunits : units rank ≤ n * unitsPerOne / d := (Nat.le_div_iff_mul_le hd).mpr h
  have hrank := scale_mul_binade_add_significand rank
  simp only [nearest]
  generalize hshift : (n * unitsPerOne / d).log2 - 52 = shift
  rw [Nat.pow_eq]
  have hquotient := le_divNearestEven (n * unitsPerOne) (d * 2 ^ shift)
  rw [← Nat.div_div_eq_div_mul] at hquotient
  have hpow : 0 < 2 ^ shift := Nat.two_pow_pos shift
  have hscale : scale rank ≤ shift := by
    rw [← log2_units, ← hshift, Nat.log2_eq_log_two, Nat.log2_eq_log_two]
    exact Nat.sub_le_sub_right (Nat.log_mono_right hunits) 52
  rcases Nat.lt_or_eq_of_le hscale with hlt | rfl
  · -- The quotient has all binary digits of a significand, and this at a higher scale.
    have hfull : binade ≤ n * unitsPerOne / d / 2 ^ shift := by
      have hne : n * unitsPerOne / d ≠ 0 := by
        intro hzero
        rw [hzero, Nat.log2_zero] at hshift
        omega
      rw [Nat.le_div_iff_mul_le hpow]
      change 2 ^ 52 * 2 ^ shift ≤ _
      rw [← Nat.pow_add, ← Nat.le_log2 hne]
      omega
    have hlift : (scale rank + 1) * binade ≤ shift * binade := Nat.mul_le_mul_right _ hlt
    have hsignificand := significand_lt rank
    rw [Nat.succ_mul] at hlift
    omega
  · have hsignificand : significand rank ≤ n * unitsPerOne / d / 2 ^ scale rank :=
      (Nat.le_div_iff_mul_le hpow).mpr hunits
    omega

end Binary64

/-! ## Decimals that are whole numbers -/

namespace Decimal

open Binary64 (binade unitsPerOne)

variable {n : Nat} (h : n ≤ 2 * binade)
include h

/-- A whole number within the range of a significand is the binary number of its rank. -/
theorem rank_whole :
    Decimal.rank ⟨n, 0⟩ < Binary64.infinity ∧
      Binary64.units (Decimal.rank ⟨n, 0⟩) = n * unitsPerOne := by
  rcases Nat.eq_zero_or_pos n with rfl | hpos
  · have hrank : Decimal.rank ⟨0, 0⟩ = 0 := rfl
    have hzero : Binary64.units 0 = 0 := rfl
    rw [hrank, hzero, Nat.zero_mul]
    exact ⟨by decide, rfl⟩
  · obtain ⟨rank, hle, hunits⟩ := Binary64.exists_units_eq_whole h 0
    rw [Nat.pow_zero, Nat.mul_one] at hunits
    have hrank : Decimal.rank ⟨n, 0⟩ = rank := by
      refine rank_eq (Nat.ne_of_gt hpos) (by dsimp only; omega) (by dsimp only; omega) ?_
      rw [hunits, numerator, denominator]
      simp
    rw [hrank]
    exact ⟨Nat.lt_of_le_of_lt hle (by decide), hunits⟩

theorem rank_whole_pos (hpos : 0 < n) : 0 < Decimal.rank ⟨n, 0⟩ := by
  refine Nat.pos_of_ne_zero fun hzero => ?_
  have hunits := (rank_whole h).2
  rw [hzero] at hunits
  exact absurd hunits.symm (Nat.ne_of_gt (Nat.mul_pos hpos Binary64.unitsPerOne_pos))

/-- Of the whole numbers beyond the range, only the first one rounds into it, and that is odd. -/
theorem eq_of_rank_eq_whole {m : Nat} (hm : m ≤ 2 * binade ∨ m % 2 = 0)
    (hrank : Decimal.rank ⟨m, 0⟩ = Decimal.rank ⟨n, 0⟩) : m = n := by
  have hone := Binary64.unitsPerOne_pos
  have hunits := (rank_whole h).2
  rcases Nat.lt_or_ge (2 * binade) m with hlt | hle
  · -- The first even number beyond the range is a binary number as well, and `m` reaches it.
    obtain ⟨rank, -, hrank'⟩ := Binary64.exists_units_eq_whole (s := binade + 1) (by decide) 1
    have hnearest : Decimal.rank ⟨m, 0⟩ = Binary64.nearest m 1 := by
      rw [Decimal.rank, if_neg (by dsimp only; omega), if_neg (by dsimp only; omega), numerator,
        denominator]
      simp
    have hreached : Binary64.units rank * 1 ≤ m * unitsPerOne := by
      rw [Nat.mul_one, hrank']
      exact Nat.mul_le_mul_right _ (by omega)
    have hle := Binary64.units_mono (Binary64.le_nearest Nat.one_pos hreached)
    rw [← hnearest, hrank, hunits, hrank'] at hle
    have := Nat.le_of_mul_le_mul_right hle hone
    omega
  · have hunits' := (rank_whole hle).2
    rw [hrank, hunits] at hunits'
    exact (Nat.eq_of_mul_eq_mul_right hone hunits').symm

/-- Among the decimals without a power of ten, the number itself is found. -/
theorem onGrid?_whole (tie : Tie) : onGrid? tie (Decimal.rank ⟨n, 0⟩) 0 = some ⟨n, 0⟩ := by
  have hone := Binary64.unitsPerOne_pos
  have hn : Binary64.units (Decimal.rank ⟨n, 0⟩) * Nat.pow 10 (-0 : Int).toNat =
      n * (unitsPerOne * Nat.pow 10 (0 : Int).toNat) := by
    rw [(rank_whole h).2]
    simp
  have hd : 0 < unitsPerOne * Nat.pow 10 (0 : Int).toNat := Nat.mul_pos hone (by decide)
  have hdown : tie.goesDown n (2 * 0) (unitsPerOne * Nat.pow 10 (0 : Int).toNat) = true := by
    unfold Tie.goesDown
    rw [Nat.mul_zero, Nat.compare_eq_lt.mpr hd]
  simp only [onGrid?]
  rw [hn, Nat.mul_div_cancel _ hd, Nat.mul_mod_left, if_pos rfl, hdown, if_pos rfl, ite_self]

/-- Decimals that end in zeros are even, so that the number itself is the only one that is found. -/
theorem numerator_of_onGrid? {tie : Tie} {k : Nat} {d : Decimal}
    (hd : onGrid? tie (Decimal.rank ⟨n, 0⟩) k = some d) : d.exponent = k ∧ d.numerator = n := by
  obtain ⟨hexponent, hrank⟩ := onGrid?_sound hd
  refine ⟨hexponent, ?_⟩
  rcases Nat.eq_zero_or_pos k with rfl | hpos
  · rw [Nat.cast_zero, onGrid?_whole h] at hd
    rw [← Option.some.inj hd]
    exact Nat.mul_one n
  · have heven : d.numerator % 2 = 0 := by
      obtain ⟨j, rfl⟩ : ∃ j, k = j + 1 := ⟨k - 1, by omega⟩
      rw [numerator, hexponent, Int.toNat_natCast, Nat.pow_eq, Nat.pow_succ,
        ← Nat.mul_assoc]
      omega
    apply eq_of_rank_eq_whole h (.inr heven)
    have hlt : d.rank < Binary64.infinity := hrank ▸ (rank_whole h).1
    rw [rank_numerator (by omega) hlt, hrank]

theorem fromGrid_whole (tie : Tie) {steps k : Nat} (hsteps : k < steps) :
    0 ≤ (fromGrid tie (Decimal.rank ⟨n, 0⟩) steps k).exponent ∧
      (fromGrid tie (Decimal.rank ⟨n, 0⟩) steps k).numerator = n := by
  induction steps generalizing k with
  | zero => omega
  | succ steps ih =>
      rw [fromGrid]
      split
      · rename_i d hd
        obtain ⟨hexponent, hnumerator⟩ := numerator_of_onGrid? h hd
        exact ⟨by omega, hnumerator⟩
      · rename_i hnone
        cases k with
        | zero =>
            rw [Nat.cast_zero, onGrid?_whole h] at hnone
            cases hnone
        | succ k =>
            rw [Nat.cast_succ, Int.add_sub_cancel]
            exact ih (by omega)

/-- The search for the shortest decimal starts above the first digit and can reach the last. -/
theorem topExponent_whole (hpos : 0 < n) :
    ∃ k : Nat, topExponent (Decimal.rank ⟨n, 0⟩) = k ∧ k < 24 := by
  obtain ⟨j, hj, hone⟩ := Binary64.exists_unitsPerOne_eq
  have hlog : n.log2 < 54 := by
    rw [Nat.log2_lt (Nat.ne_of_gt hpos)]
    exact Nat.lt_of_le_of_lt h (by decide)
  have htop : topExponent (Decimal.rank ⟨n, 0⟩) = ((n.log2 : Int) + 1) * 30103 / 100000 + 2 := by
    have hdigits : ((n.log2 + j : Nat) : Int) - 1073 = n.log2 + 1 := by omega
    rw [topExponent, (rank_whole h).2, hone, Binary64.log2_mul_two_pow hpos, hdigits]
  exact ⟨(topExponent (Decimal.rank ⟨n, 0⟩)).toNat, by omega, by omega⟩

theorem shortest_whole (tie : Tie) (hpos : 0 < n) :
    0 ≤ (shortest tie (Decimal.rank ⟨n, 0⟩)).exponent ∧
      (shortest tie (Decimal.rank ⟨n, 0⟩)).numerator = n := by
  have hne := Nat.ne_of_gt (rank_whole_pos h hpos)
  obtain ⟨k, hk, hlt⟩ := topExponent_whole h hpos
  rw [shortest, if_neg hne, hk]
  exact fromGrid_whole h tie hlt

end Decimal

/-! ## Their texts -/

theorem toDigits_mul_ten_pow {n : Nat} (h : 0 < n) (k : Nat) :
    Nat.toDigits 10 (n * 10 ^ k) = Nat.toDigits 10 n ++ List.replicate k '0' := by
  induction k with
  | zero => simp
  | succ k ih =>
      have hpos : 0 < n * 10 ^ k := Nat.mul_pos h (Nat.pow_pos (by decide))
      have hten := Nat.toDigits_append_toDigits (b := 10) (d := 0) (by decide) hpos (by decide)
      rw [ih, Nat.toDigits_zero, List.append_assoc, ← List.replicate_succ', Nat.add_zero] at hten
      rw [hten, Nat.pow_succ']
      congr 1
      ac_rfl

theorem Decimal.positional_of_nonneg {d : Decimal} (h : 0 ≤ d.exponent) (hpos : 0 < d.numerator) :
    d.positional = Nat.toDigits 10 d.numerator := by
  have hcoefficient : 0 < d.coefficient := Nat.pos_of_mul_pos_right hpos
  rw [positional, if_pos h, numerator, Nat.pow_eq, toDigits_mul_ten_pow hcoefficient]
  rfl

/-- A whole number within the range of a significand is written with its own digits. -/
theorem writeDecimal_whole {n : Nat} (h : n ≤ 2 * Binary64.binade) :
    cellNumber.writeDecimal (Decimal.shortest .up (Decimal.rank ⟨n, 0⟩)) = Nat.toDigits 10 n := by
  rcases Nat.eq_zero_or_pos n with rfl | hpos
  · decide
  · obtain ⟨hexponent, hnumerator⟩ := Decimal.shortest_whole h .up hpos
    generalize Decimal.shortest .up (Decimal.rank ⟨n, 0⟩) = d at hexponent hnumerator
    have hpositional := Decimal.positional_of_nonneg hexponent (by omega)
    rw [hnumerator] at hpositional
    have hlength : d.positional.length = d.digits.length + d.exponent.toNat := by
      simp [Decimal.positional, if_pos hexponent]
    have hlead : cellNumber.isPositional d.leadingExponent = true := by
      have hdigits : d.positional.length ≤ 16 := by
        rw [hpositional, Nat.length_toDigits_le_iff (by decide) (by decide)]
        exact Nat.lt_of_le_of_lt h (by decide)
      have hne := List.length_pos_iff.mpr d.digits_ne_nil
      simp only [cellNumber, Decimal.leadingExponent, Bool.and_eq_true, decide_eq_true_eq]
      omega
    rw [NumberStyle.writeDecimal, if_pos hlead, hpositional]
    exact List.append_nil _

end CellFormula
