import CellFormula.Proofs.Evaluation.WellFormed
import CellFormula.Proofs.Value.ReadBack

/-! # Numbers as texts and as tokens

A text coerces to a number if it is a numeral with an optional sign between white space. Without a
sign such a text is a single token, and with one its value is still the number.
-/

namespace CellFormula

theorem Decimal.toFloat?_true : toFloat? true = fun d => (d.toFloat? false).map (-·) := by
  funext d
  unfold toFloat?
  split
  · rename_i hlt
    rw [Option.map_some, Binary64.neg_toFloat _ (Nat.le_of_lt hlt)]
    rfl
  · rfl

namespace Numeral

/-! ## White space around a text -/

/-- No character is white space. -/
def IsSolid (cs : List Char) : Prop :=
  ∀ c ∈ cs, Unicode.isWhiteSpace c = false

theorem isSolid_append {cs ds : List Char} : IsSolid (cs ++ ds) ↔ IsSolid cs ∧ IsSolid ds :=
  List.forall_mem_append

theorem isSolid_cons {c : Char} {cs : List Char} :
    IsSolid (c :: cs) ↔ Unicode.isWhiteSpace c = false ∧ IsSolid cs :=
  List.forall_mem_cons

theorem IsSolid.ends {cs : List Char} (h : IsSolid cs) : Ends Unicode.isWhiteSpace cs :=
  fun c hc => h c (List.mem_of_head? hc)

theorem isSolid_of_all_isPart {cs : List Char} (h : cs.all isPart = true) : IsSolid cs := by
  intro c hc
  obtain hdigit | rfl | rfl | rfl | rfl | rfl := isPart_cases (List.all_eq_true.mp h c hc)
  · exact isWhiteSpace_eq_false_of_isDigit hdigit
  all_goals decide

theorem trim_append {lead body tail : List Char} (hlead : lead.all Unicode.isWhiteSpace = true)
    (htail : tail.all Unicode.isWhiteSpace = true) (hbody : IsSolid body) (hne : body ≠ []) :
    trim (lead ++ (body ++ tail)) = body := by
  have hends : Ends Unicode.isWhiteSpace (body ++ tail) := by
    cases body with
    | nil => exact absurd rfl hne
    | cons c cs => exact ends_cons.mpr (isSolid_cons.mp hbody).1
  have hback : Ends Unicode.isWhiteSpace body.reverse :=
    IsSolid.ends fun c hc => hbody c (List.mem_reverse.mp hc)
  rw [trim, dropWhile_append_of_ends hlead hends, List.reverse_append,
    dropWhile_append_of_ends (by rwa [List.all_reverse]) hback, List.reverse_reverse]

theorem exists_append_trim (cs : List Char) :
    ∃ lead tail, cs = lead ++ (trim cs ++ tail) ∧ lead.all Unicode.isWhiteSpace = true ∧
      tail.all Unicode.isWhiteSpace = true := by
  refine ⟨cs.takeWhile Unicode.isWhiteSpace,
    ((cs.dropWhile Unicode.isWhiteSpace).reverse.takeWhile Unicode.isWhiteSpace).reverse, ?_,
    List.all_takeWhile, ?_⟩
  · rw [trim, ← List.reverse_append, List.takeWhile_append_dropWhile, List.reverse_reverse,
      List.takeWhile_append_dropWhile]
  · rw [List.all_reverse, List.all_takeWhile]

theorem trim_cons {c : Char} (hc : Unicode.isWhiteSpace c = false) (cs : List Char) :
    trim (c :: cs) = c :: (cs.reverse.dropWhile Unicode.isWhiteSpace).reverse := by
  rw [trim, List.dropWhile_cons_of_neg (by simp [hc]), List.reverse_cons, List.dropWhile_append]
  split
  · rename_i hempty
    rw [List.isEmpty_iff.mp hempty, List.dropWhile_cons_of_neg (by simp [hc])]
    rfl
  · rw [List.reverse_append]
    rfl

theorem trim_cons_cons {c d : Char} (hc : Unicode.isWhiteSpace c = false)
    (hd : Unicode.isWhiteSpace d = false) (cs : List Char) :
    trim (c :: d :: cs) = c :: trim (d :: cs) := by
  rw [trim_cons hc, trim, List.dropWhile_cons_of_neg (by simp [hd])]

/-! ## Texts that write a number -/

theorem read?_of_spells {cs : List Char} {d : Decimal} (h : Spells cs d) (negative : Bool) :
    read? negative cs = d.toFloat? negative := by
  have hscan := scan_complete h (ends_nil continues)
  have hstarts := h.starts []
  rw [List.append_nil] at hscan hstarts
  simp [read?, hscan, hstarts]

theorem read?_eq_some_iff {negative : Bool} {cs : List Char} {x : Float} :
    read? negative cs = some x ↔ ∃ d, Spells cs d ∧ d.toFloat? negative = some x := by
  constructor
  · intro h
    unfold read? at h
    split at h
    · rename_i hwhole
      rw [Bool.and_eq_true, beq_iff_eq] at hwhole
      obtain ⟨d, hscan, hvalue⟩ := Option.bind_eq_some_iff.mp h
      obtain ⟨taken, rest, heq, hlength, hspells⟩ := scan_sound hwhole.1 hscan
      have hrest : rest = [] := by
        rw [hwhole.2, heq, List.length_append] at hlength
        exact List.eq_nil_of_length_eq_zero (by omega)
      rw [hrest, List.append_nil] at heq
      exact ⟨d, heq ▸ hspells, hvalue⟩
    · cases h
  · rintro ⟨d, hspells, hvalue⟩
    rw [read?_of_spells hspells, hvalue]

/-- A sign before a numeral changes the sign of the number. -/
theorem read?_true (cs : List Char) : read? true cs = (read? false cs).map (-·) := by
  unfold read?
  split
  · rw [Decimal.toFloat?_true, Option.map_bind]
    rfl
  · rfl

theorem isDecimalDigit_of_isDigit {c : Char} (h : c.isDigit = true) :
    Unicode.isDecimalDigit c = true :=
  (Unicode.RangeSet.contains_iff _ c).mpr
    ⟨(0x30, 0x39), by decide, Char.isDigit_iff_toNat.mp h⟩

theorem all_isDecimalDigit {ds : List Char} (h : ds.all Char.isDigit = true) :
    ds.all Unicode.isDecimalDigit = true :=
  List.all_eq_true.mpr fun c hc => isDecimalDigit_of_isDigit (List.all_eq_true.mp h c hc)

theorem isPowerShaped_of_spells {power : List Char} {e : Int} (h : SpellsPower power e) :
    isPowerShaped power = true := by
  cases h with
  | none => rfl
  | @power mark sign ds negative mark_eq sign_spells nonempty digits =>
      have hsign := scanSign_append sign_spells (ends_isSign_of_digits nonempty digits [])
      rw [List.append_nil] at hsign
      simp [isPowerShaped, hsign, nonempty, mark_eq, all_isDecimalDigit digits]

theorem Spells.ends_isSign {cs : List Char} {d : Decimal} (h : Spells cs d) : Ends isSign cs := by
  obtain ⟨c, cs, rfl, hdigit | rfl⟩ := h.exists_cons
  · exact ends_cons.mpr (isSign_eq_false_of_isDigit hdigit)
  · exact ends_cons.mpr (by decide)

/-- The digits of other scripts only widen the shape. -/
theorem isShaped_of_spells {sign cs : List Char} {negative : Bool} {d : Decimal}
    (hsign : SpellsSign sign negative) (h : Spells cs d) : isShaped (sign ++ cs) = true := by
  rw [isShaped, scanSign_append hsign h.ends_isSign, List.drop_left]
  cases h with
  | @numeral whole fraction ds power e digits fraction_spells power_spells nonempty =>
      have hshaped := isPowerShaped_of_spells power_spells
      have hends : Ends Unicode.isDecimalDigit (power ++ []) :=
        power_spells.ends (by decide) (ends_nil _)
      have hpoint : Ends (· == '.') (power ++ []) := power_spells.ends (by decide) (ends_nil _)
      rw [List.append_nil] at hends hpoint
      cases fraction_spells with
      | none =>
          rw [List.append_nil, takeWhile_append_of_ends (all_isDecimalDigit digits) hends,
            List.drop_left]
          split
          · exact absurd (ends_cons.mp hpoint) (by decide)
          · rw [List.append_nil] at nonempty
            simp [nonempty, hshaped]
      | point point_digits =>
          have hwhole : Ends Unicode.isDecimalDigit ('.' :: ds ++ power) :=
            ends_cons.mpr (by decide)
          rw [List.append_assoc, takeWhile_append_of_ends (all_isDecimalDigit digits) hwhole,
            List.drop_left]
          simp only [List.cons_append]
          rw [takeWhile_append_of_ends (all_isDecimalDigit point_digits) hends,
            List.drop_left, hshaped]
          simp [nonempty]

/-- All decimal digits are ASCII digits. -/
def HasAsciiDigits (cs : List Char) : Prop :=
  ∀ c ∈ cs, Unicode.isDecimalDigit c = true → c.isDigit = true

theorem hasAsciiDigits_append {cs ds : List Char} :
    HasAsciiDigits (cs ++ ds) ↔ HasAsciiDigits cs ∧ HasAsciiDigits ds :=
  List.forall_mem_append

theorem hasAsciiDigits_cons {c : Char} {cs : List Char} :
    HasAsciiDigits (c :: cs) ↔
      (Unicode.isDecimalDigit c = true → c.isDigit = true) ∧ HasAsciiDigits cs :=
  List.forall_mem_cons

theorem hasAsciiDigits_of_all_isPart {cs : List Char} (h : cs.all isPart = true) :
    HasAsciiDigits cs := by
  intro c hc hdecimal
  obtain hdigit | rfl | rfl | rfl | rfl | rfl := isPart_cases (List.all_eq_true.mp h c hc)
  · exact hdigit
  all_goals exact absurd hdecimal (by decide)

theorem HasAsciiDigits.all_isDigit {ds : List Char} (h : HasAsciiDigits ds)
    (hds : ds.all Unicode.isDecimalDigit = true) : ds.all Char.isDigit = true :=
  List.all_eq_true.mpr fun c hc => h c hc (List.all_eq_true.mp hds c hc)

theorem exists_spellsPower_of_isPowerShaped {power : List Char} (hascii : HasAsciiDigits power)
    (h : isPowerShaped power = true) : ∃ e, SpellsPower power e := by
  cases power with
  | nil => exact ⟨0, .none⟩
  | cons mark cs =>
      obtain ⟨sign, ds, hcs, hlength, hsign⟩ := scanSign_sound cs
      simp only [isPowerShaped, hlength, Bool.and_eq_true, Bool.or_eq_true, beq_iff_eq,
        Bool.not_eq_true', List.isEmpty_eq_false_iff] at h
      obtain ⟨⟨hmark, hne⟩, hds⟩ := h
      rw [hcs, List.drop_left] at hne hds
      rw [hcs, hasAsciiDigits_cons, hasAsciiDigits_append] at hascii
      rw [hcs]
      exact ⟨_, .power hmark hsign hne (hascii.2.2.all_isDigit hds)⟩

/-- In ASCII digits, the shape is that of a sign and a numeral. -/
theorem exists_spells_of_isShaped {cs : List Char} (hascii : HasAsciiDigits cs)
    (h : isShaped cs = true) :
    ∃ sign numeral negative d, cs = sign ++ numeral ∧ SpellsSign sign negative ∧
      Spells numeral d := by
  obtain ⟨sign, body, rfl, hlength, hsign⟩ := scanSign_sound cs
  have hbody := (hasAsciiDigits_append.mp hascii).2
  suffices hspells : ∃ d, Spells body d by
    obtain ⟨d, hd⟩ := hspells
    exact ⟨sign, body, _, d, rfl, hsign, hd⟩
  have hsplit := append_drop_takeWhile Unicode.isDecimalDigit body
  rw [← hsplit, hasAsciiDigits_append] at hbody
  obtain ⟨hwhole, hrest⟩ := hbody
  rw [isShaped, hlength, List.drop_left] at h
  have hdigits := hwhole.all_isDigit List.all_takeWhile
  split at h
  · rename_i rest hpoint
    rw [Bool.and_eq_true, Bool.not_eq_true', List.isEmpty_eq_false_iff] at h
    obtain ⟨hne, hpower⟩ := h
    have hfraction := append_drop_takeWhile Unicode.isDecimalDigit rest
    rw [hpoint, hasAsciiDigits_cons, ← hfraction, hasAsciiDigits_append] at hrest
    obtain ⟨e, he⟩ := exists_spellsPower_of_isPowerShaped hrest.2.2 hpower
    have hspells := Spells.numeral hdigits
      (.point (hrest.2.1.all_isDigit List.all_takeWhile)) he hne
    rw [List.append_assoc, List.cons_append, hfraction, ← hpoint, hsplit] at hspells
    exact ⟨_, hspells⟩
  · rw [Bool.and_eq_true, Bool.not_eq_true', List.isEmpty_eq_false_iff] at h
    obtain ⟨hne, hpower⟩ := h
    obtain ⟨e, he⟩ := exists_spellsPower_of_isPowerShaped hrest hpower
    have hspells := Spells.numeral hdigits .none he (by rwa [List.append_nil])
    rw [List.append_nil, hsplit] at hspells
    exact ⟨_, hspells⟩

/-- A text that can be read behind its sign is a sign and a numeral. -/
theorem exists_spells_of_read? {cs : List Char} {x : Float}
    (h : read? (scanSign cs).2 (cs.drop (scanSign cs).1) = some x) :
    ∃ sign numeral negative d, cs = sign ++ numeral ∧ SpellsSign sign negative ∧
      Spells numeral d ∧ d.toFloat? negative = some x := by
  obtain ⟨sign, numeral, hcs, hlength, hsign⟩ := scanSign_sound cs
  obtain ⟨d, hspells, hvalue⟩ := read?_eq_some_iff.mp h
  rw [hlength, hcs, List.drop_left] at hspells
  exact ⟨sign, numeral, _, d, hcs, hsign, hspells, hvalue⟩

/-- The shape is looked at in vain: a text that can be read has it. -/
theorem ofText?_eq_read? (text : String) :
    ofText? text = read? (scanSign (trim text.toList)).2
      ((trim text.toList).drop (scanSign (trim text.toList)).1) := by
  rw [ofText?]
  split
  · rfl
  · rename_i hshape
    symm
    rw [Option.eq_none_iff_forall_ne_some]
    intro x hread
    obtain ⟨sign, numeral, negative, d, htrim, hsign, hspells, -⟩ := exists_spells_of_read? hread
    rw [htrim] at hshape
    exact hshape (isShaped_of_spells hsign hspells)

/-- White space, a sign that may be left out, a numeral and white space, and the number that they
write. -/
inductive SpellsText : List Char → List Char → Float → Prop where
  | text {lead sign numeral tail : List Char} {negative : Bool} {d : Decimal} {x : Float}
      (lead_blank : lead.all Unicode.isWhiteSpace = true) (sign_spells : SpellsSign sign negative)
      (spells : Spells numeral d) (value : d.toFloat? negative = some x)
      (tail_blank : tail.all Unicode.isWhiteSpace = true) :
      SpellsText (lead ++ (sign ++ numeral ++ tail)) sign x

theorem trim_of_spells {lead sign numeral tail : List Char} {negative : Bool} {d : Decimal}
    (hlead : lead.all Unicode.isWhiteSpace = true) (hsign : SpellsSign sign negative)
    (h : Spells numeral d) (htail : tail.all Unicode.isWhiteSpace = true) :
    trim (lead ++ (sign ++ numeral ++ tail)) = sign ++ numeral := by
  obtain ⟨c, cs, rfl, -⟩ := h.exists_cons
  exact trim_append hlead htail (isSolid_append.mpr
    ⟨isSolid_of_all_isPart hsign.all_isPart, isSolid_of_all_isPart h.all_isPart⟩) (by simp)

theorem ofText?_eq_some_iff {text : String} {x : Float} :
    ofText? text = some x ↔ ∃ sign, SpellsText text.toList sign x := by
  rw [ofText?_eq_read?]
  constructor
  · intro hread
    obtain ⟨sign, numeral, negative, d, htrim, hsign, hspells, hvalue⟩ :=
      exists_spells_of_read? hread
    obtain ⟨lead, tail, htext, hlead, htail⟩ := exists_append_trim text.toList
    rw [htext, htrim]
    exact ⟨sign, .text hlead hsign hspells hvalue htail⟩
  · rintro ⟨sign, h⟩
    generalize text.toList = cs at h
    cases h with
    | text lead_blank sign_spells spells value tail_blank =>
        rw [trim_of_spells lead_blank sign_spells spells tail_blank,
          scanSign_append sign_spells spells.ends_isSign, List.drop_left]
        exact read?_eq_some_iff.mpr ⟨_, spells, value⟩

/-- The shape in ASCII digits is that of a sign and a numeral, and the number is theirs. -/
theorem isShaped_and_hasAsciiDigits_iff (text : String) :
    isShaped (trim text.toList) = true ∧ HasAsciiDigits (trim text.toList) ↔
      ∃ sign numeral negative d, trim text.toList = sign ++ numeral ∧ SpellsSign sign negative ∧
        Spells numeral d ∧ ofText? text = d.toFloat? negative := by
  rw [ofText?_eq_read?]
  constructor
  · rintro ⟨hshape, hascii⟩
    obtain ⟨sign, numeral, negative, d, htrim, hsign, hspells⟩ :=
      exists_spells_of_isShaped hascii hshape
    refine ⟨sign, numeral, negative, d, htrim, hsign, hspells, ?_⟩
    rw [htrim, scanSign_append hsign hspells.ends_isSign, List.drop_left]
    exact read?_of_spells hspells negative
  · rintro ⟨sign, numeral, negative, d, htrim, hsign, hspells, -⟩
    rw [htrim, hasAsciiDigits_append]
    exact ⟨isShaped_of_spells hsign hspells, hasAsciiDigits_of_all_isPart hsign.all_isPart,
      hasAsciiDigits_of_all_isPart hspells.all_isPart⟩

theorem SpellsText.ends_isSign_iff {cs sign : List Char} {x : Float} (h : SpellsText cs sign x) :
    Ends isSign (trim cs) ↔ sign = [] := by
  cases h with
  | text lead_blank sign_spells spells value tail_blank =>
      rw [trim_of_spells lead_blank sign_spells spells tail_blank]
      cases sign_spells with
      | none => exact iff_of_true spells.ends_isSign rfl
      | plus => exact iff_of_false (fun h => absurd (ends_cons.mp h) (by decide)) (by simp)
      | minus => exact iff_of_false (fun h => absurd (ends_cons.mp h) (by decide)) (by simp)

/-- A sign written before a text that starts like a numeral. -/
theorem ofText?_sign {text : String} {c : Char} (hc : c ∈ text.toList.head?)
    (hhead : c.isDigit = true ∨ c = '.') :
    ofText? ("+" ++ text) = ofText? text ∧
      ofText? ("-" ++ text) = (ofText? text).map (-·) := by
  obtain ⟨cs, hcs⟩ := List.head?_eq_some_iff.mp hc
  have hclass : Unicode.isWhiteSpace c = false ∧ isSign c = false := by
    rcases hhead with hdigit | rfl
    · exact ⟨isWhiteSpace_eq_false_of_isDigit hdigit, isSign_eq_false_of_isDigit hdigit⟩
    · decide
  obtain ⟨hspace, hsign⟩ := hclass
  have hends : Ends isSign (trim (c :: cs)) := by
    rw [trim_cons hspace, ends_cons]
    exact hsign
  have hnone : scanSign (trim (c :: cs)) = (0, false) := scanSign_append .none hends
  have hplus : trim ("+" ++ text).toList = '+' :: trim (c :: cs) := by
    rw [String.toList_append, hcs]
    exact trim_cons_cons (by decide) hspace cs
  have hminus : trim ("-" ++ text).toList = '-' :: trim (c :: cs) := by
    rw [String.toList_append, hcs]
    exact trim_cons_cons (by decide) hspace cs
  simp only [ofText?_eq_read?, hplus, hminus, hcs, hnone]
  exact ⟨rfl, read?_true _⟩

end Numeral

/-! ## Texts that are one token -/

namespace TokenStream

theorem next?_of_items_eq_nil {stream : TokenStream} (h : stream.items = []) :
    stream.next? = none := by
  cases hnext : stream.next? with
  | none => rfl
  | some p =>
      rw [items_of_next?_eq_some hnext] at h
      cases h

theorem next?_of_items_eq_singleton {stream : TokenStream} {item : TokenItem}
    (h : stream.items = [item]) :
    ∃ after, stream.next? = some (item, after) ∧ after.rest.all Unicode.isWhiteSpace = true := by
  cases hnext : stream.next? with
  | none =>
      rw [items_of_next?_eq_none hnext] at h
      cases h
  | some p =>
      rw [items_of_next?_eq_some hnext] at h
      obtain ⟨rfl, hafter⟩ := List.cons.inj h
      exact ⟨p.2, rfl, (next?_eq_none_iff _).mp (next?_of_items_eq_nil hafter)⟩

end TokenStream

theorem exists_numeral_of_spells {taken : List Char} {x : Float}
    (h : Spells taken (.literal (.number x))) :
    ∃ d, Numeral.Spells taken d ∧ d.toFloat? false = some x := by
  cases h with
  | single single_eq =>
      unfold Lexeme.single? at single_eq
      split at single_eq <;> cases single_eq
  | pair pair_eq =>
      unfold Lexeme.pair? at pair_eq
      split at pair_eq <;> cases pair_eq
  | number spells value => exact ⟨_, spells, value⟩

/-- The formula has one token, which is the number. -/
def IsNumberFormula (text : String) (x : Float) : Prop :=
  ∃ found position, tokenize ("=" ++ text) = [.ok ⟨.literal (.number x), found, position⟩]

theorem isNumberFormula_iff {text : String} {x : Float} :
    IsNumberFormula text x ↔ Numeral.SpellsText text.toList [] x := by
  rw [IsNumberFormula, tokenize, TokenStream.ofSource_equals]
  constructor
  · rintro ⟨found, position, hitems⟩
    obtain ⟨after, hnext, hafter⟩ := TokenStream.next?_of_items_eq_singleton hitems
    obtain ⟨lead, c, cs, hrest, hlead, -, ⟨kind, hkind, hitem, rfl⟩ | ⟨fault, -, hitem, -⟩⟩ :=
      TokenStream.next?_cases hnext
    · cases hitem
      obtain ⟨taken, tail, heq, hlexeme, hspells⟩ := Lexeme.ofChars_takes hkind
      obtain ⟨d, hnumeral, hvalue⟩ := exists_numeral_of_spells hspells
      have hbody : text.toList = lead ++ (taken ++ tail) := by rw [← heq, ← hrest]
      rw [hlexeme, heq, List.drop_left] at hafter
      rw [hbody]
      exact .text hlead .none hnumeral hvalue hafter
    · cases hitem
  · intro h
    generalize text.toList = cs at h
    cases h with
    | text lead_blank sign_spells spells value tail_blank =>
        cases sign_spells
        have hlexes := (TokenStream.Lexes.word lead_blank (.number spells value)
          (ends_extendedBy_of_blank tail_blank _)).trans (.blank tail_blank)
        obtain ⟨tokens, hitems, hkinds⟩ := hlexes.exists_items 1
        obtain ⟨token, rfl, hkind⟩ := List.map_eq_singleton_iff.mp hkinds
        exact ⟨token.text, token.position, by rw [List.nil_append, hitems, ← hkind]; rfl⟩

/-! ## The value of the formula -/

/-- Adding zero takes the sign off a zero and changes no other finite number. -/
theorem add_zero_eq_ite {x : Float} (h : x.isFinite = true) : x + 0 = if x = -0 then 0 else x := by
  split
  · rename_i hzero
    rw [hzero, Binary64.neg_zero_eq, Binary64.toFloat_zero_add_zero]
  · rename_i hne
    exact IsPlainNumber.add_zero ⟨h, hne⟩

theorem Decimal.isFinite_of_toFloat? {negative : Bool} {d : Decimal} {x : Float}
    (h : d.toFloat? negative = some x) : x.isFinite = true := by
  unfold toFloat? at h
  split at h
  · rename_i hlt
    cases h
    rwa [Binary64.isFinite_iff, Binary64.rankOf_toFloat _ (Nat.le_of_lt hlt)]
  · cases h

/-- A number with a sign is read as an expression that has its value. -/
theorem Numeral.SpellsText.exists_expr {cs sign : List Char} {x : Float}
    (h : SpellsText cs sign x) :
    ∃ e : Expr, TokenStream.Lexes cs e.kinds [] ∧ e.isCanonical = true ∧ e.nesting ≤ 1 ∧
      e.evaluate = .number (x + 0) := by
  cases h with
  | text lead_blank sign_spells spells value tail_blank =>
      have hends := ends_extendedBy_of_blank tail_blank
      have hblank := TokenStream.Lexes.blank tail_blank
      cases sign_spells with
      | none =>
          have hlexes := TokenStream.Lexes.word lead_blank (.number spells value) (hends _)
          refine ⟨.literal (.number x), hlexes.trans hblank, rfl, Nat.zero_le _, ?_⟩
          rw [Expr.evaluate_literal, (Decimal.isPlainNumber_of_toFloat? value).add_zero]
      | plus =>
          have hnumber := (TokenStream.Lexes.here (.number spells value) (hends _)).trans hblank
          have hlexes := (TokenStream.Lexes.word lead_blank (.single (c := '+') rfl)
            (fun _ _ => rfl)).trans hnumber
          refine ⟨.unary .plus (.literal (.number x)), hlexes, rfl, Nat.le_refl 1, ?_⟩
          rw [Expr.evaluate_unary, Expr.evaluate_literal,
            (Decimal.isPlainNumber_of_toFloat? value).add_zero]
          rfl
      | minus =>
          have hfinite := Decimal.isFinite_of_toFloat? value
          rw [Decimal.toFloat?_true] at value
          obtain ⟨y, hy, rfl⟩ := Option.map_eq_some_iff.mp value
          have hnumber := (TokenStream.Lexes.here (.number spells hy) (hends _)).trans hblank
          have hlexes := (TokenStream.Lexes.word lead_blank (.single (c := '-') rfl)
            (fun _ _ => rfl)).trans hnumber
          refine ⟨.unary .minus (.literal (.number y)), hlexes, rfl, Nat.le_refl 1, ?_⟩
          -- Here the sign is an operator, and what it computes loses the sign of a zero.
          rw [Expr.evaluate_unary, Expr.evaluate_literal]
          show Value.ofNumber (-y) = _
          rw [Value.ofNumber, if_pos hfinite]

theorem Numeral.isFinite_of_ofText? {text : String} {x : Float} (h : ofText? text = some x) :
    x.isFinite = true := by
  rw [ofText?_eq_read?] at h
  obtain ⟨d, -, hvalue⟩ := read?_eq_some_iff.mp h
  exact Decimal.isFinite_of_toFloat? hvalue

namespace Formula

theorem calculate_of_ofText? {text : String} {x : Float} (h : Numeral.ofText? text = some x) :
    calculate ("=" ++ text) = .ok (.number (if x = -0 then 0 else x)) := by
  obtain ⟨sign, hspells⟩ := Numeral.ofText?_eq_some_iff.mp h
  obtain ⟨e, hlexes, hcanonical, hnesting, hvalue⟩ := hspells.exists_expr
  have hok := (calculate_of_lexes (TokenStream.ofSource_equals text) hlexes hcanonical).1
  rw [hok (Nat.le_trans hnesting (by decide)), hvalue,
    add_zero_eq_ite (Numeral.isFinite_of_ofText? h)]

/-- A text is one token that is a number if and only if it coerces to that number and has no sign. A
sign before a text that starts like a numeral does not decide whether it coerces, and `-` changes
the sign of the number. Every text that coerces to a number is a formula for it, without the sign of
a zero. A text has the shape of a number, in ASCII digits, if and only if it is a numeral with an
optional sign, and then it coerces to that number unless it is out of range. -/
theorem numericText_agrees :
    (∀ (text : String) (x : Float), IsNumberFormula text x ↔
      Numeral.ofText? text = some x ∧ Ends Numeral.isSign (Numeral.trim text.toList)) ∧
    (∀ (text : String) (c : Char), c ∈ text.toList.head? → (c.isDigit = true ∨ c = '.') →
      Numeral.ofText? ("+" ++ text) = Numeral.ofText? text ∧
        Numeral.ofText? ("-" ++ text) = (Numeral.ofText? text).map (-·)) ∧
    (∀ (text : String) (x : Float), Numeral.ofText? text = some x →
      calculate ("=" ++ text) = .ok (.number (if x = -0 then 0 else x))) ∧
    ∀ text : String,
      Numeral.isShaped (Numeral.trim text.toList) = true ∧
          Numeral.HasAsciiDigits (Numeral.trim text.toList) ↔
        ∃ sign numeral negative d, Numeral.trim text.toList = sign ++ numeral ∧
          Numeral.SpellsSign sign negative ∧ Numeral.Spells numeral d ∧
          Numeral.ofText? text = d.toFloat? negative := by
  refine ⟨?_, ?_, ?_, Numeral.isShaped_and_hasAsciiDigits_iff⟩
  · intro text x
    rw [isNumberFormula_iff, Numeral.ofText?_eq_some_iff]
    constructor
    · intro hspells
      exact ⟨⟨[], hspells⟩, hspells.ends_isSign_iff.mpr rfl⟩
    · rintro ⟨⟨sign, hspells⟩, hends⟩
      rwa [hspells.ends_isSign_iff.mp hends] at hspells
  · intro text c hc hhead
    exact Numeral.ofText?_sign hc hhead
  · intro text x h
    exact calculate_of_ofText? h

/-- A point without digits behind it before an exponent with a sign, between kinds of white space;
a fraction of which the sign is changed; a negative zero; and a numeral out of range. -/
theorem numericText_agrees_edges :
    IsNumberFormula "\u00a01.e+2\t" 100 ∧
    Numeral.ofText? "-.5 " = some (-0.5) ∧
    calculate "=\u3000-0.0" = .ok (.number 0) ∧
    ∃ sign numeral negative d, Numeral.trim "-1e999\n".toList = sign ++ numeral ∧
      Numeral.SpellsSign sign negative ∧ Numeral.Spells numeral d ∧
      Numeral.ofText? "-1e999\n" = d.toFloat? negative := by
  have hplain : Numeral.ofText? "\u00a01.e+2\t" = some 100 := by decide +kernel
  have hhalf : Numeral.ofText? ".5 " = some 0.5 := by decide +kernel
  have hzero : Numeral.ofText? "\u3000-0.0" = some (-0) := by decide +kernel
  refine ⟨(numericText_agrees.1 _ _).mpr ⟨hplain, ?_⟩, ?_, ?_,
    (numericText_agrees.2.2.2 _).mp ⟨by decide +kernel, ?_⟩⟩
  · have htrim : Numeral.trim "\u00a01.e+2\t".toList = ['1', '.', 'e', '+', '2'] := by
      decide +kernel
    rw [htrim]
    exact ends_cons.mpr (by decide)
  · have hsign := (numericText_agrees.2.1 ".5 " '.' rfl (.inr rfl)).2
    rw [hhalf] at hsign
    exact hsign
  · have hvalue := numericText_agrees.2.2.1 _ _ hzero
    rwa [if_pos rfl] at hvalue
  · exact Numeral.hasAsciiDigits_of_all_isPart (by decide +kernel)

end Formula

end CellFormula
