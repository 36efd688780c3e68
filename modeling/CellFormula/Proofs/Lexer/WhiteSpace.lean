import CellFormula.Proofs.Lexer.Composition
import CellFormula.Proofs.Parser.Positions

/-! # White space around a formula

What a reader takes from the head of a text is the same with white space behind the text: no token
and no fault has white space in it, but for texts between quotes, and a quote that is missing is not
found there either. White space and an `=` before a formula only move its tokens to the right.
-/

namespace CellFormula

variable {cs blank : List Char}

theorem takeWhile_append_right_of_ends {p : Char → Bool} (h : Ends p blank) (cs : List Char) :
    (cs ++ blank).takeWhile p = cs.takeWhile p := by
  induction cs with
  | nil =>
      have hnil : ([] ++ blank).takeWhile p = [] := takeWhile_append_of_ends rfl h
      exact hnil
  | cons c cs ih =>
      rw [List.cons_append, List.takeWhile_cons, List.takeWhile_cons, ih]

theorem length_takeWhile_le (p : Char → Bool) (cs : List Char) :
    (cs.takeWhile p).length ≤ cs.length :=
  (List.takeWhile_prefix p).length_le

/-! ## Numerals before white space -/

namespace Numeral

/-- The text does not start with anything that a numeral may have behind its first digit. -/
structure StopsAt (blank : List Char) : Prop where
  continues : Ends continues blank
  sign : Ends isSign blank

namespace StopsAt

variable (h : StopsAt blank)
include h

theorem digit : Ends Char.isDigit blank :=
  h.continues.mono fun c hc => by simp [Numeral.continues, hc]

theorem point : Ends (· == '.') blank :=
  h.continues.mono fun c hc => by simp_all [Numeral.continues]

end StopsAt

theorem scanFraction_le (cs : List Char) : (scanFraction cs).1 ≤ cs.length := by
  obtain ⟨fraction, rest, rfl, hlength, -⟩ := scanFraction_sound cs
  rw [hlength, List.length_append]
  exact Nat.le_add_right _ _

theorem scanSign_le (cs : List Char) : (scanSign cs).1 ≤ cs.length := by
  obtain ⟨sign, rest, rfl, hlength, -⟩ := scanSign_sound cs
  rw [hlength, List.length_append]
  exact Nat.le_add_right _ _

theorem scanExponent_le (cs : List Char) : (scanExponent cs).1 ≤ cs.length := by
  cases cs with
  | nil => exact Nat.le_refl 0
  | cons mark cs =>
      rw [scanExponent]
      split
      · have hsign := scanSign_le cs
        have hdigits := length_takeWhile_le Char.isDigit (cs.drop (scanSign cs).1)
        rw [List.length_drop] at hdigits
        simp only [List.length_cons]
        omega
      · exact Nat.zero_le _

theorem scan_length_le (cs : List Char) : (scan cs).length ≤ cs.length := by
  have hwhole := length_takeWhile_le Char.isDigit cs
  have hfraction := scanFraction_le (cs.drop (cs.takeWhile Char.isDigit).length)
  have hexponent := scanExponent_le (cs.drop ((cs.takeWhile Char.isDigit).length +
    (scanFraction (cs.drop (cs.takeWhile Char.isDigit).length)).1))
  rw [List.length_drop] at hfraction hexponent
  rw [length_scan]
  omega

variable (h : StopsAt blank)
include h

theorem scanFraction_append_blank (cs : List Char) :
    scanFraction (cs ++ blank) = scanFraction cs := by
  cases cs with
  | nil => exact scanFraction_complete .none h.digit h.point
  | cons c cs =>
      by_cases hc : c = '.'
      · rw [hc, List.cons_append, scanFraction, scanFraction,
          takeWhile_append_right_of_ends h.digit]
      · simp [scanFraction, hc]

theorem scanSign_append_blank (cs : List Char) : scanSign (cs ++ blank) = scanSign cs := by
  cases cs with
  | nil => exact scanSign_append .none h.sign
  | cons c cs =>
      by_cases hplus : c = '+'
      · rw [hplus]
        rfl
      · by_cases hminus : c = '-'
        · rw [hminus]
          rfl
        · simp [scanSign, hplus, hminus]

theorem scanExponent_append_blank (cs : List Char) :
    scanExponent (cs ++ blank) = scanExponent cs := by
  cases cs with
  | nil => exact scanExponent_complete .none h.continues
  | cons mark cs =>
      simp only [List.cons_append, scanExponent, scanSign_append_blank h,
        List.drop_append_of_le_length (scanSign_le cs), takeWhile_append_right_of_ends h.digit]

theorem scan_append_blank (cs : List Char) : scan (cs ++ blank) = scan cs := by
  have hwhole := length_takeWhile_le Char.isDigit cs
  have hfraction := scanFraction_le (cs.drop (cs.takeWhile Char.isDigit).length)
  rw [List.length_drop] at hfraction
  have hlength : (cs.takeWhile Char.isDigit).length +
      (scanFraction (cs.drop (cs.takeWhile Char.isDigit).length)).1 ≤ cs.length := by omega
  simp only [scan, takeWhile_append_right_of_ends h.digit, List.drop_append_of_le_length hwhole,
    scanFraction_append_blank h, List.drop_append_of_le_length hlength,
    scanExponent_append_blank h]

theorem starts_append_blank (c : Char) (cs : List Char) :
    starts (c :: (cs ++ blank)) = starts (c :: cs) := by
  cases cs with
  | cons d cs => rfl
  | nil =>
      have hdigit : blank.head?.any Char.isDigit = false := by
        rw [Option.any_eq_false]
        exact fun d hd => by simp [h.digit d hd]
      simp [starts, hdigit]

end Numeral

/-! ## Quoted texts before white space -/

namespace Quoted

theorem scan_cons_of_ne {c : Char} (h : c ≠ '"') (cs : List Char) :
    scan (c :: cs) = (scan cs).map fun (s, n) => (c :: s, n + 1) := by
  rw [scan]
  · exact fun _ hc _ => h hc
  · exact h

theorem scan_eq_none_of_notMem (h : '"' ∉ blank) : scan blank = none := by
  induction blank with
  | nil => rfl
  | cons c blank ih =>
      have hc : c ≠ '"' := fun hc => h (hc ▸ List.mem_cons_self)
      rw [scan_cons_of_ne hc, ih (List.not_mem_of_not_mem_cons h)]
      rfl

theorem scan_append_blank (h : '"' ∉ blank) (cs : List Char) : scan (cs ++ blank) = scan cs := by
  fun_induction scan cs with
  | case1 => exact scan_eq_none_of_notMem h
  | case2 cs ih => rw [List.cons_append, List.cons_append, scan, ih]
  | case3 cs hne =>
      have hends : Ends (· == '"') (cs ++ blank) := by
        cases cs with
        | nil => exact fun c hc => beq_false_of_ne fun heq => h (heq ▸ List.mem_of_head? hc)
        | cons d cs => exact ends_cons.mpr (beq_false_of_ne fun heq => hne cs (heq ▸ rfl))
      have hclosed : scan (encode [] ++ '"' :: (cs ++ blank)) = some ([], (encode []).length + 1) :=
        scan_complete hends
      exact hclosed
  | case4 c cs _ hc ih => rw [List.cons_append, scan_cons_of_ne hc, ih]

theorem scan_length_le {s : List Char} {n : Nat} (h : scan cs = some (s, n)) : n ≤ cs.length := by
  obtain ⟨rest, rfl, -, rfl⟩ := scan_sound h
  simp only [List.length_append, List.length_cons]
  omega

end Quoted

/-! ## Error literals before white space -/

namespace ErrorKind

theorem startsWithFolded_append {ws : List Char}
    (h : ∀ c ∈ blank.head?, c.toUpper ∉ ws.map Char.toUpper) (cs : List Char) :
    startsWithFolded ws (cs ++ blank) = startsWithFolded ws cs := by
  fun_induction startsWithFolded ws cs with
  | case1 cs => rfl
  | case2 w ws =>
      cases blank with
      | nil => rfl
      | cons c blank =>
          have hne : c.toUpper ≠ w.toUpper := List.ne_of_not_mem_cons (h c rfl)
          simp [startsWithFolded, hne.symm]
  | case3 w ws c cs ih =>
      rw [List.cons_append, startsWithFolded, ih]
      exact fun d hd => List.not_mem_of_not_mem_cons (h d hd)

theorem literal_not_isWhiteSpace (kind : ErrorKind) :
    kind.literal.toList.all (!Unicode.isWhiteSpace ·) = true := by
  cases kind <;> decide

theorem toUpper_of_isWhiteSpace {c : Char} (h : Unicode.isWhiteSpace c = true) : c.toUpper = c := by
  refine Char.toNat_inj.mp ?_
  rw [toNat_toUpper, if_neg]
  intro hlower
  have hletter : Unicode.isAlphabetic c = true :=
    (Unicode.RangeSet.contains_iff _ c).mpr
      ⟨(0x61, 0x7A), by decide, hlower⟩
  rw [isWhiteSpace_eq_false_of_isAlphabetic hletter] at h
  cases h

theorem atHead?_append_blank (h : blank.all Unicode.isWhiteSpace = true) (cs : List Char) :
    atHead? (cs ++ blank) = atHead? cs := by
  have hstarts : ∀ kind : ErrorKind, startsWithFolded kind.literal.toList (cs ++ blank) =
      startsWithFolded kind.literal.toList cs := by
    intro kind
    refine startsWithFolded_append ?_ cs
    intro c hc
    have hspace := List.all_eq_true.mp h c (List.mem_of_head? hc)
    rw [map_toUpper_literal, toUpper_of_isWhiteSpace hspace]
    intro hmem
    have hblack := List.all_eq_true.mp (literal_not_isWhiteSpace kind) c hmem
    simp [hspace] at hblack
  simp only [atHead?, hstarts]

theorem literal_length_le {kind : ErrorKind} (h : atHead? cs = some kind) :
    kind.literal.length ≤ cs.length := by
  have hlength := (literal_prefix_of_atHead? h).length_le
  rwa [String.length_toList, List.length_map] at hlength

end ErrorKind

/-! ## Lexemes before white space -/

namespace Lexeme

theorem continuesError_eq_false_of_isWhiteSpace {c : Char} (h : Unicode.isWhiteSpace c = true) :
    continuesError c = false := by
  have hne := beq_eq_false_of_isWhiteSpace h
  simp [continuesError, isAlphanumeric_eq_false_of_isWhiteSpace h, hne '/' (by decide),
    hne '!' (by decide), hne '?' (by decide), hne '_' (by decide)]

section Blank

variable (h : blank.all Unicode.isWhiteSpace = true)
include h

theorem stopsAt_of_blank : Numeral.StopsAt blank where
  continues := ends_extendedBy_of_blank h (.literal (.number 0))
  sign := ends_of_blank h fun c hc => by
    have hne := beq_eq_false_of_isWhiteSpace hc
    simp [Numeral.isSign, hne '+' (by decide), hne '-' (by decide)]

theorem quote_notMem_blank : '"' ∉ blank := by
  intro hmem
  exact absurd (List.all_eq_true.mp h _ hmem) (by decide)

theorem symbol?_append_blank (c : Char) (cs : List Char) :
    symbol? c (cs ++ blank) = symbol? c cs := by
  cases cs with
  | cons d cs => rfl
  | nil =>
      have hpair : blank.head?.bind (pair? c) = none := by
        rw [Option.eq_none_iff_forall_ne_some]
        intro kind hkind
        obtain ⟨d, hd, hd'⟩ := Option.bind_eq_some_iff.mp hkind
        have hspace := List.all_eq_true.mp h d (List.mem_of_head? hd)
        unfold pair? at hd'
        split at hd'
        all_goals first | exact absurd hspace (by decide) | cases hd'
      simp [symbol?, hpair]

theorem text_append_blank (cs : List Char) : text (cs ++ blank) = text cs := by
  rw [text, text, Quoted.scan_append_blank (quote_notMem_blank h)]

theorem number_append_blank (cs : List Char) : number (cs ++ blank) = number cs := by
  rw [number, number, Numeral.scan_append_blank (stopsAt_of_blank h)]

theorem errorLiteral_append_blank (c : Char) (cs : List Char) :
    errorLiteral (c :: cs ++ blank) = errorLiteral (c :: cs) := by
  have hends : Ends continuesError blank :=
    ends_of_blank h fun _ => continuesError_eq_false_of_isWhiteSpace
  rw [errorLiteral, errorLiteral, ErrorKind.atHead?_append_blank h, List.cons_append,
    List.tail_cons, List.tail_cons, takeWhile_append_right_of_ends hends]

theorem word_append_blank (cs : List Char) : word (cs ++ blank) = word cs := by
  have hends : Ends continuesWord blank := ends_extendedBy_of_blank h (.literal (.boolean true))
  rw [word, word, takeWhile_append_right_of_ends hends]

/-- White space behind a text changes nothing about the lexeme at its head. -/
theorem ofChars_append_blank (c : Char) (cs : List Char) :
    ofChars c (cs ++ blank) = ofChars c cs := by
  rw [ofChars, ofChars, symbol?_append_blank h, text_append_blank h,
    Numeral.starts_append_blank (stopsAt_of_blank h), ← List.cons_append, number_append_blank h,
    errorLiteral_append_blank h, word_append_blank h]

end Blank

theorem symbol?_length_le {c : Char} {lexeme : Lexeme} (h : symbol? c cs = some lexeme) :
    lexeme.length ≤ cs.length + 1 := by
  unfold symbol? at h
  split at h
  · rename_i kind hpair
    obtain ⟨d, hd, -⟩ := Option.bind_eq_some_iff.mp hpair
    obtain ⟨rest, rfl⟩ := List.head?_eq_some_iff.mp hd
    cases h
    simp
  · obtain ⟨kind, -, rfl⟩ := Option.map_eq_some_iff.mp h
    simp

theorem text_length_le (cs : List Char) : (text cs).length ≤ cs.length + 1 := by
  unfold text
  split
  · rename_i s n hscan
    exact Nat.succ_le_succ (Quoted.scan_length_le hscan)
  · simp

theorem number_length_le (cs : List Char) : (number cs).length ≤ cs.length := by
  have hscan := Numeral.scan_length_le cs
  simp only [number]
  split <;> exact hscan

theorem errorLiteral_length_le (c : Char) (cs : List Char) :
    (errorLiteral (c :: cs)).length ≤ cs.length + 1 := by
  unfold errorLiteral
  split
  · rename_i kind hkind
    exact ErrorKind.literal_length_le hkind
  · have hword := length_takeWhile_le continuesError cs
    simp only [List.tail_cons]
    omega

theorem word_length_le (cs : List Char) : (word cs).length ≤ cs.length := by
  have hword := length_takeWhile_le continuesWord cs
  simp only [word]
  split <;> exact hword

theorem ofChars_length_le (c : Char) (cs : List Char) :
    (ofChars c cs).length ≤ (c :: cs).length := by
  rcases ofChars_cases c cs with hsymbol | ⟨-, heq⟩ | ⟨-, heq⟩ | heq | heq | heq
  · exact symbol?_length_le hsymbol
  · exact heq ▸ text_length_le cs
  · exact heq ▸ number_length_le (c :: cs)
  · exact heq ▸ errorLiteral_length_le c cs
  · exact heq ▸ word_length_le (c :: cs)
  · simp [heq]

end Lexeme

/-! ## Streams further to the right and before white space -/

namespace TokenStream

/-- The same text `n` bytes to the right. -/
def shift (n : Nat) (stream : TokenStream) : TokenStream :=
  { stream with offset := stream.offset + n }

/-- The stream with more text behind what is left of it. -/
def followedBy (blank : List Char) (stream : TokenStream) : TokenStream :=
  { stream with rest := stream.rest ++ blank }

theorem next?_shift (n : Nat) (stream : TokenStream) :
    (stream.shift n).next? =
      stream.next?.map fun (item, after) => (item.shift n, after.shift n) := by
  simp only [next?, shift, Nat.add_right_comm _ n]
  split
  · rfl
  · split <;> rfl

theorem items_shift (n : Nat) (stream : TokenStream) :
    (stream.shift n).items = stream.items.map (TokenItem.shift n) := by
  have hshift := next?_shift n stream
  induction stream using steps_induction with
  | done stream h =>
      rw [h] at hshift
      rw [items_of_next?_eq_none hshift, items_of_next?_eq_none h, List.map_nil]
  | step stream item after h ih =>
      rw [h] at hshift
      rw [items_of_next?_eq_some hshift, items_of_next?_eq_some h, List.map_cons,
        ih (next?_shift n after)]

section Blank

variable (h : blank.all Unicode.isWhiteSpace = true)
include h

theorem next?_blank_append (rest : List Char) (offset : Nat) :
    next? ⟨blank ++ rest, offset⟩ = next? ⟨rest, offset + byteLength blank⟩ := by
  rw [List.all_eq_true] at h
  simp only [next?, List.takeWhile_append_of_pos h, List.dropWhile_append_of_pos h,
    byteLength_append, Nat.add_assoc]

theorem items_blank_append (rest : List Char) (offset : Nat) :
    items ⟨blank ++ rest, offset⟩ = items ⟨rest, offset + byteLength blank⟩ := by
  have hnext := next?_blank_append h rest offset
  cases hafter : next? ⟨rest, offset + byteLength blank⟩ with
  | none =>
      rw [hafter] at hnext
      rw [items_of_next?_eq_none hnext, items_of_next?_eq_none hafter]
  | some found =>
      rw [hafter] at hnext
      rw [items_of_next?_eq_some hnext, items_of_next?_eq_some hafter]

/-- White space behind the text stays behind it while tokens are taken. An error gives it up with
all that is left. -/
theorem next?_followedBy {stream after : TokenStream} {item : TokenItem}
    (hnext : stream.next? = some (item, after)) :
    (stream.followedBy blank).next? = some (item, after.followedBy blank) ∨
      (stream.followedBy blank).next? = some (item, after) := by
  obtain ⟨gap, c, cs, hrest, hgap, hc, hitem⟩ := next?_cases hnext
  have hends : Ends Unicode.isWhiteSpace (c :: (cs ++ blank)) := ends_cons.mpr hc
  have hle : (Lexeme.ofChars c cs).length ≤ (c :: cs).length := Lexeme.ofChars_length_le c cs
  have htake : (c :: (cs ++ blank)).take (Lexeme.ofChars c cs).length =
      (c :: cs).take (Lexeme.ofChars c cs).length := List.take_append_of_le_length hle
  have hdrop : (c :: (cs ++ blank)).drop (Lexeme.ofChars c cs).length =
      (c :: cs).drop (Lexeme.ofChars c cs).length ++ blank := List.drop_append_of_le_length hle
  simp only [followedBy, next?, hrest, List.append_assoc, List.cons_append,
    takeWhile_append_of_ends hgap hends, dropWhile_append_of_ends hgap hends,
    Lexeme.ofChars_append_blank h, htake, hdrop]
  rcases hitem with ⟨kind, houtcome, rfl, rfl⟩ | ⟨fault, houtcome, rfl, rfl⟩
  · rw [houtcome]
    exact .inl rfl
  · rw [houtcome]
    exact .inr rfl

theorem items_followedBy (stream : TokenStream) :
    (stream.followedBy blank).items = stream.items := by
  induction stream using steps_induction with
  | done stream hnext =>
      have hend : (stream.followedBy blank).next? = none := by
        rw [next?_eq_none_iff] at hnext ⊢
        rw [followedBy, List.all_append, hnext, h, Bool.true_and]
      rw [items_of_next?_eq_none hend, items_of_next?_eq_none hnext]
  | step stream item after hnext ih =>
      rw [items_of_next?_eq_some hnext]
      rcases next?_followedBy h hnext with hfollowed | hfollowed
      · rw [items_of_next?_eq_some hfollowed, ih]
      · rw [items_of_next?_eq_some hfollowed]

end Blank

end TokenStream

/-! ## White space and `=` around the source -/

section Source

open TokenStream

variable {w : String} (hw : IsBlank w) (source : String)

include hw in
theorem tokenize_blank_append :
    tokenize (w ++ source) = (tokenize source).map (TokenItem.shift w.utf8ByteSize) := by
  have hshift : ofSource (w ++ source) = (ofSource source).shift w.utf8ByteSize := by
    obtain ⟨lead, hlead, hcases⟩ := ofSource_cases source
    have hlead' : (w.toList ++ lead).all Unicode.isWhiteSpace = true := by
      rw [List.all_append, hlead, Bool.and_true]
      exact hw
    have hlength : byteLength (w.toList ++ lead) = byteLength lead + w.utf8ByteSize := by
      rw [byteLength_append, byteLength_toList, Nat.add_comm]
    rcases hcases with ⟨body, hsource, hstream⟩ | ⟨body, hsource, hbody, hstream⟩
    · have htoList : (w ++ source).toList = w.toList ++ lead ++ '=' :: body := by
        rw [String.toList_append, hsource, List.append_assoc]
      rw [ofSource_of_equals hlead' htoList, hstream, hlength, shift, Nat.add_right_comm]
    · have htoList : (w ++ source).toList = w.toList ++ lead ++ body := by
        rw [String.toList_append, hsource, List.append_assoc]
      rw [ofSource_of_body hlead' htoList hbody, hstream, hlength, shift]
  rw [tokenize, hshift, items_shift, tokenize]

include hw in
theorem tokenize_append_blank : tokenize (source ++ w) = tokenize source := by
  obtain ⟨lead, hlead, ⟨body, hsource, hstream⟩ | ⟨body, hsource, hbody, hstream⟩⟩ :=
    ofSource_cases source
  · have htoList : (source ++ w).toList = lead ++ '=' :: (body ++ w.toList) := by
      rw [String.toList_append, hsource, List.append_assoc, List.cons_append]
    rw [tokenize, tokenize, hstream, ofSource_of_equals hlead htoList]
    exact items_followedBy hw ⟨body, byteLength lead + 1⟩
  · cases body with
    | cons c cs =>
        have htoList : (source ++ w).toList = lead ++ (c :: cs ++ w.toList) := by
          rw [String.toList_append, hsource, List.append_assoc]
        rw [tokenize, tokenize, hstream, ofSource_of_body hlead htoList hbody]
        exact items_followedBy hw ⟨c :: cs, byteLength lead⟩
    | nil =>
        -- With nothing to read, the white space behind counts to the white space in front.
        have htoList : (source ++ w).toList = lead ++ w.toList ++ [] := by
          rw [String.toList_append, hsource, List.append_nil, List.append_nil]
        have hlead' : (lead ++ w.toList).all Unicode.isWhiteSpace = true := by
          rw [List.all_append, hlead, Bool.true_and]
          exact hw
        rw [tokenize, tokenize, hstream, ofSource_of_body hlead' htoList hbody,
          items_of_next?_eq_none rfl, items_of_next?_eq_none rfl]

theorem tokenize_equals_append
    (h : source.toList.find? (!Unicode.isWhiteSpace ·) ≠ some '=') :
    tokenize ("=" ++ source) = (tokenize source).map (TokenItem.shift 1) := by
  obtain ⟨lead, hlead, ⟨body, hsource, hstream⟩ | ⟨body, hsource, -, hstream⟩⟩ :=
    ofSource_cases source
  · refine absurd ?_ h
    rw [List.find?_eq_some_iff_append]
    exact ⟨by decide, lead, body, hsource, by simpa using hlead⟩
  · rw [tokenize, ofSource_equals, hsource, items_blank_append hlead, tokenize, hstream,
      ← items_shift, shift, Nat.add_comm]

end Source

end CellFormula
