import CellFormula.Decimal.Numeral

/-! # The grammar of numerals

Which texts spell a numeral, and which decimal they spell. Scanning takes a numeral from the head
of a text, and it takes every numeral whole unless what follows continues it.
-/

namespace CellFormula

/-- The text is empty or starts with a character outside the class. -/
def Ends (p : Char → Bool) (cs : List Char) : Prop :=
  ∀ c ∈ cs.head?, p c = false

theorem ends_nil (p : Char → Bool) : Ends p [] :=
  nofun

@[simp] theorem ends_cons {p : Char → Bool} {c : Char} {cs : List Char} :
    Ends p (c :: cs) ↔ p c = false := by
  simp [Ends]

theorem Ends.mono {p q : Char → Bool} {cs : List Char} (h : Ends p cs)
    (himp : ∀ c, q c = true → p c = true) : Ends q cs := by
  intro c hc
  rw [← Bool.not_eq_true]
  exact fun hq => absurd (himp c hq) (by simp [h c hc])

theorem takeWhile_append_of_ends {p : Char → Bool} {ds cs : List Char} (hds : ds.all p = true)
    (h : Ends p cs) : (ds ++ cs).takeWhile p = ds := by
  rw [List.takeWhile_append_of_pos (List.all_eq_true.mp hds)]
  cases cs with
  | nil => simp
  | cons c cs => rw [List.takeWhile_cons_of_neg (by simp [ends_cons.mp h]), List.append_nil]

theorem dropWhile_append_of_ends {p : Char → Bool} {ds cs : List Char} (hds : ds.all p = true)
    (h : Ends p cs) : (ds ++ cs).dropWhile p = cs := by
  rw [List.dropWhile_append_of_pos (List.all_eq_true.mp hds)]
  cases cs with
  | nil => rfl
  | cons c cs => rw [List.dropWhile_cons_of_neg (by simp [ends_cons.mp h])]

theorem append_drop_takeWhile (p : Char → Bool) (cs : List Char) :
    cs.takeWhile p ++ cs.drop (cs.takeWhile p).length = cs := by
  have h := List.prefix_iff_eq_take.mp (List.takeWhile_prefix p (l := cs))
  calc
    cs.takeWhile p ++ cs.drop (cs.takeWhile p).length
      = cs.take (cs.takeWhile p).length ++ cs.drop (cs.takeWhile p).length := by rw [← h]
    _ = cs := List.take_append_drop _ _

namespace Numeral

/-- The digits of a fraction and their text, if a point is written. -/
inductive SpellsFraction : List Char → List Char → Prop where
  | none : SpellsFraction [] []
  | point {ds : List Char} (digits : ds.all Char.isDigit = true) : SpellsFraction ('.' :: ds) ds

/-- A sign that may be left out, and whether it is negative. -/
inductive SpellsSign : List Char → Bool → Prop where
  | none : SpellsSign [] false
  | plus : SpellsSign ['+'] false
  | minus : SpellsSign ['-'] true

/-- A power of ten that may be left out, and its exponent. -/
inductive SpellsPower : List Char → Int → Prop where
  | none : SpellsPower [] 0
  | power {mark : Char} {sign ds : List Char} {negative : Bool} (mark_eq : mark = 'e' ∨ mark = 'E')
      (sign_spells : SpellsSign sign negative) (nonempty : ds ≠ [])
      (digits : ds.all Char.isDigit = true) :
      SpellsPower (mark :: (sign ++ ds))
        (if negative then -(Nat.ofDigitChars 10 ds 0 : Int) else (Nat.ofDigitChars 10 ds 0 : Int))

/-- A numeral from end to end, and the decimal it stands for. -/
inductive Spells : List Char → Decimal → Prop where
  | numeral {whole fraction ds power : List Char} {e : Int} (digits : whole.all Char.isDigit = true)
      (fraction_spells : SpellsFraction fraction ds) (power_spells : SpellsPower power e)
      (nonempty : whole ++ ds ≠ []) :
      Spells (whole ++ fraction ++ power)
        ⟨Nat.ofDigitChars 10 (whole ++ ds) 0, e - ds.length⟩

/-- The characters that may make a numeral longer. -/
def continues (c : Char) : Bool :=
  c.isDigit || c == '.' || c == 'e' || c == 'E'

def isSign (c : Char) : Bool :=
  c == '+' || c == '-'

theorem isSign_eq_false_of_isDigit {c : Char} (h : c.isDigit = true) : isSign c = false := by
  rw [isSign, Bool.or_eq_false_iff, beq_eq_false_iff_ne, beq_eq_false_iff_ne]
  constructor
  · rintro rfl
    exact absurd h (by decide)
  · rintro rfl
    exact absurd h (by decide)

/-! ## Every scan takes a numeral -/

theorem scanFraction_sound (cs : List Char) :
    ∃ fraction rest, cs = fraction ++ rest ∧ (scanFraction cs).1 = fraction.length ∧
      SpellsFraction fraction (scanFraction cs).2 := by
  unfold scanFraction
  split
  · rename_i cs
    exact ⟨'.' :: cs.takeWhile Char.isDigit, _, by rw [List.cons_append, append_drop_takeWhile],
      by simp, .point List.all_takeWhile⟩
  · exact ⟨[], cs, rfl, rfl, .none⟩

theorem scanSign_sound (cs : List Char) :
    ∃ sign rest, cs = sign ++ rest ∧ (scanSign cs).1 = sign.length ∧
      SpellsSign sign (scanSign cs).2 := by
  unfold scanSign
  split
  · exact ⟨['+'], _, rfl, rfl, .plus⟩
  · exact ⟨['-'], _, rfl, rfl, .minus⟩
  · exact ⟨[], cs, rfl, rfl, .none⟩

theorem scanExponent_sound {cs : List Char} {e : Int} (h : (scanExponent cs).2 = some e) :
    ∃ power rest, cs = power ++ rest ∧ (scanExponent cs).1 = power.length ∧
      SpellsPower power e := by
  cases cs with
  | nil =>
      cases h
      exact ⟨[], [], rfl, rfl, .none⟩
  | cons mark cs =>
      by_cases hmark : mark = 'e' ∨ mark = 'E'
      · obtain ⟨sign, rest, rfl, hlength, hsign⟩ := scanSign_sound cs
        simp only [scanExponent, if_pos hmark, hlength, List.drop_left] at h ⊢
        split at h
        · cases h
        · rename_i hne
          cases h
          refine ⟨mark :: (sign ++ rest.takeWhile Char.isDigit),
            rest.drop (rest.takeWhile Char.isDigit).length, ?_, ?_,
            .power hmark hsign ?_ List.all_takeWhile⟩
          · rw [List.cons_append, List.append_assoc, append_drop_takeWhile]
          · simp only [List.length_cons, List.length_append]
            omega
          · simpa using hne
      · simp only [scanExponent, if_neg hmark] at h ⊢
        cases h
        exact ⟨[], mark :: cs, rfl, rfl, .none⟩

theorem digits_ne_nil_of_starts {cs : List Char} (h : starts cs = true) :
    cs.takeWhile Char.isDigit ++
      (scanFraction (cs.drop (cs.takeWhile Char.isDigit).length)).2 ≠ [] := by
  cases cs with
  | nil => exact absurd h Bool.false_ne_true
  | cons c cs =>
      cases hc : c.isDigit with
      | true => simp [hc]
      | false =>
          simp only [starts, hc, Bool.false_or, Bool.and_eq_true, beq_iff_eq] at h
          obtain ⟨rfl, hdigit⟩ := h
          cases cs with
          | nil => exact absurd hdigit Bool.false_ne_true
          | cons d ds =>
              have hd : d.isDigit = true := hdigit
              simp [scanFraction, hc, hd]

theorem scan_sound {cs : List Char} {d : Decimal} (hstarts : starts cs = true)
    (h : (scan cs).decimal? = some d) :
    ∃ taken rest, cs = taken ++ rest ∧ (scan cs).length = taken.length ∧ Spells taken d := by
  have hwhole := append_drop_takeWhile Char.isDigit cs
  have hne := digits_ne_nil_of_starts hstarts
  generalize hw : cs.takeWhile Char.isDigit = whole at hwhole hne
  have hdigits : whole.all Char.isDigit = true := by rw [← hw, List.all_takeWhile]
  obtain ⟨fraction, after, hafter, hfraction, hspells⟩ := scanFraction_sound (cs.drop whole.length)
  obtain ⟨e, he, rfl⟩ := Option.map_eq_some_iff.mp h
  have hdrop : cs.drop ((cs.takeWhile Char.isDigit).length +
      (scanFraction (cs.drop (cs.takeWhile Char.isDigit).length)).1) = after := by
    rw [hw, hfraction, ← List.drop_drop, hafter, List.drop_left]
  rw [hdrop] at he
  obtain ⟨power, rest, hrest, hlength, hpower⟩ := scanExponent_sound he
  refine ⟨whole ++ fraction ++ power, rest, ?_, ?_, ?_⟩
  · rw [List.append_assoc, List.append_assoc, ← hrest, ← hafter, hwhole]
  · rw [length_scan, hdrop, hlength, hw, hfraction]
    simp only [List.length_append]
  · rw [hw]
    exact .numeral hdigits hspells hpower hne

/-! ## Every numeral is taken whole -/

theorem SpellsPower.ends {power cs : List Char} {e : Int} (h : SpellsPower power e)
    {p : Char → Bool} (hmarks : p 'e' = false ∧ p 'E' = false) (hcs : Ends p cs) :
    Ends p (power ++ cs) := by
  cases h with
  | none => exact hcs
  | power mark_eq =>
      rw [List.cons_append, ends_cons]
      rcases mark_eq with rfl | rfl
      · exact hmarks.1
      · exact hmarks.2

theorem SpellsFraction.ends {fraction ds cs : List Char} (h : SpellsFraction fraction ds)
    (hcs : Ends Char.isDigit cs) : Ends Char.isDigit (fraction ++ cs) := by
  cases h with
  | none => exact hcs
  | point => exact ends_cons.mpr (by decide)

theorem scanFraction_complete {fraction ds cs : List Char} (h : SpellsFraction fraction ds)
    (hdigit : Ends Char.isDigit cs) (hpoint : Ends (· == '.') cs) :
    scanFraction (fraction ++ cs) = (fraction.length, ds) := by
  cases h with
  | none =>
      rw [List.nil_append]
      unfold scanFraction
      split
      · exact absurd (ends_cons.mp hpoint) (by simp)
      · rfl
  | point digits =>
      rw [List.cons_append, scanFraction, takeWhile_append_of_ends digits hdigit]
      simp

theorem scanSign_append {sign cs : List Char} {negative : Bool} (h : SpellsSign sign negative)
    (hcs : Ends isSign cs) : scanSign (sign ++ cs) = (sign.length, negative) := by
  cases h with
  | none =>
      rw [List.nil_append]
      unfold scanSign
      split
      · exact absurd (ends_cons.mp hcs) (by decide)
      · exact absurd (ends_cons.mp hcs) (by decide)
      · rfl
  | plus => rfl
  | minus => rfl

theorem ends_isSign_of_digits {ds : List Char} (hne : ds ≠ []) (hds : ds.all Char.isDigit = true)
    (cs : List Char) : Ends isSign (ds ++ cs) := by
  cases ds with
  | nil => exact absurd rfl hne
  | cons d ds =>
      simp only [List.all_cons, Bool.and_eq_true] at hds
      rw [List.cons_append, ends_cons]
      exact isSign_eq_false_of_isDigit hds.1

theorem scanExponent_complete {power cs : List Char} {e : Int} (h : SpellsPower power e)
    (hcs : Ends continues cs) : scanExponent (power ++ cs) = (power.length, some e) := by
  cases h with
  | none =>
      cases cs with
      | nil => rfl
      | cons c cs =>
          rw [ends_cons, continues, Bool.or_eq_false_iff, Bool.or_eq_false_iff] at hcs
          have hmark : ¬ (c = 'e' ∨ c = 'E') := by
            simpa using And.intro hcs.1.2 hcs.2
          rw [List.nil_append, scanExponent, if_neg hmark]
          rfl
  | @power mark sign ds negative mark_eq sign_spells nonempty digits =>
      have hdigit : Ends Char.isDigit cs := hcs.mono fun c hc => by simp [continues, hc]
      rw [List.cons_append, scanExponent, if_pos mark_eq,
        List.append_assoc, scanSign_append sign_spells (ends_isSign_of_digits nonempty digits cs)]
      simp only [List.drop_left, takeWhile_append_of_ends digits hdigit]
      simp only [List.isEmpty_iff, nonempty, if_false, List.length_cons, List.length_append]
      congr 1
      omega

theorem scan_complete {taken cs : List Char} {d : Decimal} (h : Spells taken d)
    (hcs : Ends continues cs) : scan (taken ++ cs) = ⟨taken.length, some d⟩ := by
  cases h with
  | @numeral whole fraction ds power e digits fraction_spells power_spells nonempty =>
      have hdigit : Ends Char.isDigit (power ++ cs) :=
        power_spells.ends (by decide) (hcs.mono fun c hc => by simp [continues, hc])
      have hpoint : Ends (· == '.') (power ++ cs) :=
        power_spells.ends (by decide) (hcs.mono fun c hc => by simp_all [continues])
      have hwhole : (whole ++ (fraction ++ (power ++ cs))).takeWhile Char.isDigit = whole :=
        takeWhile_append_of_ends digits (fraction_spells.ends hdigit)
      simp only [scan, List.append_assoc, hwhole, List.drop_left,
        scanFraction_complete fraction_spells hdigit hpoint]
      rw [← List.drop_drop, List.drop_left, List.drop_left, scanExponent_complete power_spells hcs]
      simp only [Option.map_some, List.length_append, Nat.add_assoc]

/-- The head of a numeral is a digit or a point. -/
theorem Spells.exists_cons {taken : List Char} {d : Decimal} (h : Spells taken d) :
    ∃ c cs, taken = c :: cs ∧ (c.isDigit = true ∨ c = '.') := by
  cases h with
  | @numeral whole fraction ds power e digits fraction_spells power_spells nonempty =>
      cases whole with
      | cons c cs =>
          simp only [List.all_cons, Bool.and_eq_true] at digits
          exact ⟨c, _, rfl, .inl digits.1⟩
      | nil =>
          cases fraction_spells with
          | none => exact absurd rfl nonempty
          | point => exact ⟨'.', _, rfl, .inr rfl⟩

theorem Spells.starts {taken : List Char} {d : Decimal} (h : Spells taken d) (cs : List Char) :
    starts (taken ++ cs) = true := by
  cases h with
  | @numeral whole fraction ds power e digits fraction_spells power_spells nonempty =>
      cases whole with
      | cons c whole =>
          simp only [List.all_cons, Bool.and_eq_true] at digits
          simp [Numeral.starts, digits.1]
      | nil =>
          cases fraction_spells with
          | none => exact absurd rfl nonempty
          | point digits =>
              cases ds with
              | nil => exact absurd rfl nonempty
              | cons d ds =>
                  simp only [List.all_cons, Bool.and_eq_true] at digits
                  simp [Numeral.starts, digits.1]

/-! ## The characters of a numeral -/

/-- The characters that occur in signs and numerals. -/
def isPart (c : Char) : Bool :=
  continues c || isSign c

theorem isPart_cases {c : Char} (h : isPart c = true) :
    c.isDigit = true ∨ c = '.' ∨ c = 'e' ∨ c = 'E' ∨ c = '+' ∨ c = '-' := by
  simpa [isPart, continues, isSign, or_assoc] using h

theorem all_isPart_of_digits {ds : List Char} (h : ds.all Char.isDigit = true) :
    ds.all isPart = true :=
  List.all_eq_true.mpr fun c hc => by simp [isPart, continues, List.all_eq_true.mp h c hc]

theorem SpellsSign.all_isPart {sign : List Char} {negative : Bool} (h : SpellsSign sign negative) :
    sign.all isPart = true := by
  cases h with
  | none => rfl
  | plus => rfl
  | minus => rfl

theorem Spells.all_isPart {cs : List Char} {d : Decimal} (h : Spells cs d) :
    cs.all isPart = true := by
  cases h with
  | @numeral whole fraction ds power e digits fraction_spells power_spells nonempty =>
      have hfraction : fraction.all isPart = true := by
        cases fraction_spells with
        | none => rfl
        | point digits =>
            rw [List.all_cons, all_isPart_of_digits digits]
            rfl
      have hpower : power.all isPart = true := by
        cases power_spells with
        | none => rfl
        | power mark_eq sign_spells _ digits =>
            rw [List.all_cons, List.all_append, sign_spells.all_isPart, all_isPart_of_digits digits]
            rcases mark_eq with rfl | rfl <;> rfl
      rw [List.all_append, List.all_append, all_isPart_of_digits digits, hfraction, hpower]
      rfl

end Numeral

end CellFormula
