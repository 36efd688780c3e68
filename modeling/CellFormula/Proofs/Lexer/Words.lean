import CellFormula.Proofs.Lexer.Equations
import CellFormula.Proofs.Lexer.Numerals

/-! # The words of formulas

Which texts spell a token of which kind. The lexeme at the head of a text is such a word, and every
word is taken whole unless the character behind it can make it longer.
-/

namespace CellFormula

/-! ## Classes of characters -/

/-- Sets share no character when none of their ranges meet. -/
theorem Unicode.RangeSet.contains_eq_false_of_apart {s t : RangeSet} {c : Char}
    (h : ∀ r ∈ s.ranges, ∀ r' ∈ t.ranges, r.2 < r'.1 ∨ r'.2 < r.1)
    (hc : s.contains c = true) : t.contains c = false := by
  obtain ⟨r, hr, hlo, hhi⟩ := (s.contains_iff c).mp hc
  rw [← Bool.not_eq_true, contains_iff]
  rintro ⟨r', hr', hlo', hhi'⟩
  have hapart := h r hr r' hr'
  omega

theorem isDigit_eq_false_of_contains {s : Unicode.RangeSet} {c : Char}
    (h : ∀ r ∈ s.ranges, r.2 < '0'.toNat ∨ '9'.toNat < r.1)
    (hc : s.contains c = true) : c.isDigit = false := by
  obtain ⟨r, hr, hlo, hhi⟩ := (s.contains_iff c).mp hc
  rw [← Bool.not_eq_true, Char.isDigit_iff_toNat]
  intro hdigit
  have hapart := h r hr
  omega

theorem isDigit_eq_false_of_isWhiteSpace {c : Char} (h : Unicode.isWhiteSpace c = true) :
    c.isDigit = false :=
  isDigit_eq_false_of_contains (by decide) h

theorem isDigit_eq_false_of_isAlphabetic {c : Char} (h : Unicode.isAlphabetic c = true) :
    c.isDigit = false :=
  isDigit_eq_false_of_contains (by decide +kernel) h

theorem Lexeme.isAlphanumeric_eq_false_of_isWhiteSpace {c : Char}
    (h : Unicode.isWhiteSpace c = true) : isAlphanumeric c = false := by
  have halphabetic : Unicode.isAlphabetic c = false :=
    Unicode.RangeSet.contains_eq_false_of_apart (by decide +kernel) h
  have hnumeric : Unicode.isNumeric c = false :=
    Unicode.RangeSet.contains_eq_false_of_apart (by decide +kernel) h
  rw [isAlphanumeric, halphabetic, hnumeric]
  rfl

theorem isWhiteSpace_eq_false_of_isDigit {c : Char} (h : c.isDigit = true) :
    Unicode.isWhiteSpace c = false := by
  rw [← Bool.not_eq_true]
  intro hspace
  rw [isDigit_eq_false_of_isWhiteSpace hspace] at h
  cases h

theorem isWhiteSpace_eq_false_of_isAlphabetic {c : Char} (h : Unicode.isAlphabetic c = true) :
    Unicode.isWhiteSpace c = false := by
  rw [← Bool.not_eq_true]
  intro hspace
  have hnone := Lexeme.isAlphanumeric_eq_false_of_isWhiteSpace hspace
  rw [Lexeme.isAlphanumeric, h] at hnone
  cases hnone

theorem toNat_toUpper (c : Char) :
    c.toUpper.toNat = if 97 ≤ c.toNat ∧ c.toNat ≤ 122 then c.toNat - 32 else c.toNat := by
  have hrange : ('a'.val ≤ c.val ∧ c.val ≤ 'z'.val) ↔ 97 ≤ c.toNat ∧ c.toNat ≤ 122 := by
    simp [UInt32.le_iff_toNat_le]
  unfold Char.toUpper
  by_cases h : 97 ≤ c.toNat ∧ c.toNat ≤ 122
  · rw [dif_pos (hrange.mpr h), if_pos h]
    have hshift : ('A'.val - 'a'.val).toNat = 2 ^ 32 - 32 := by decide
    show (c.val + ('A'.val - 'a'.val)).toNat = c.toNat - 32
    rw [UInt32.toNat_add, Char.toNat_val, hshift]
    omega
  · rw [dif_neg (mt hrange.mp h), if_neg h]

/-- What becomes a capital letter is a letter. -/
theorem isAlphabetic_of_toUpper {c : Char} (h : c.toUpper.isUpper = true) :
    Unicode.isAlphabetic c = true := by
  have hupper : 65 ≤ c.toUpper.toNat ∧ c.toUpper.toNat ≤ 90 := of_decide_eq_true h
  rw [toNat_toUpper] at hupper
  refine (Unicode.RangeSet.contains_iff _ c).mpr ?_
  split at hupper
  · rename_i hlower
    exact ⟨(0x61, 0x7A), by decide, hlower⟩
  · exact ⟨(0x41, 0x5A), by decide, hupper⟩

/-! ## The grammar of words -/

/-- A text that is one token, and the kind of the token. -/
inductive Spells : List Char → TokenKind → Prop where
  | single {c : Char} {kind : TokenKind} (single_eq : Lexeme.single? c = some kind) :
      Spells [c] kind
  | pair {c d : Char} {kind : TokenKind} (pair_eq : Lexeme.pair? c d = some kind) :
      Spells [c, d] kind
  | text (s : List Char) :
      Spells ('"' :: (Quoted.encode s ++ ['"'])) (.literal (.text (String.ofList s)))
  | number {cs : List Char} {d : Decimal} {x : Float} (spells : Numeral.Spells cs d)
      (value : d.toFloat? false = some x) : Spells cs (.literal (.number x))
  | error {cs : List Char} {kind : ErrorKind} (folded : cs.map Char.toUpper = kind.literal.toList) :
      Spells cs (.literal (.error kind))
  | boolean {cs : List Char} {b : Bool} (folded : cs.map Char.toUpper = (booleanText b).toList) :
      Spells cs (.literal (.boolean b))

/-- Whether a character right behind a token of the kind may belong to it. -/
def TokenKind.extendedBy : TokenKind → Char → Bool
  | literal (.number _), c => Numeral.continues c
  | literal (.text _), c => c == '"'
  | literal (.boolean _), c => Lexeme.continuesWord c
  | operator (.comparison .less), c => c == '=' || c == '>'
  | operator (.comparison .greater), c => c == '='
  | _, _ => false

/-! ## Operators and delimiters -/

namespace Lexeme

/-- The characters that operators and delimiters start with. -/
def symbols : List Char :=
  ['+', '-', '*', '/', '^', '&', '=', '<', '>', '(', ')', '\x7b', '\x7d', ',']

theorem mem_symbols_of_single? {c : Char} {kind : TokenKind} (h : single? c = some kind) :
    c ∈ symbols := by
  unfold single? at h
  split at h <;> first | decide | cases h

theorem mem_symbols_of_pair? {c d : Char} {kind : TokenKind} (h : pair? c d = some kind) :
    c ∈ symbols := by
  unfold pair? at h
  split at h <;> first | decide | cases h

theorem symbol?_eq_none {c : Char} (h : c ∉ symbols) (cs : List Char) : symbol? c cs = none := by
  have hsingle : single? c = none := by
    rw [Option.eq_none_iff_forall_ne_some]
    exact fun kind hkind => h (mem_symbols_of_single? hkind)
  have hpair : cs.head?.bind (pair? c) = none := by
    rw [Option.eq_none_iff_forall_ne_some]
    intro kind hkind
    obtain ⟨d, -, hd⟩ := Option.bind_eq_some_iff.mp hkind
    exact h (mem_symbols_of_pair? hd)
  rw [symbol?, hpair, hsingle]
  rfl

/-- A class without symbols. -/
theorem not_mem_symbols {p : Char → Bool} {c : Char} (hp : symbols.any p = false)
    (hc : p c = true) : c ∉ symbols := by
  intro hmem
  rw [List.any_eq_true.mpr ⟨c, hmem, hc⟩] at hp
  cases hp

theorem extendedBy_of_pair? {c d : Char} {kind kind' : TokenKind} (h : single? c = some kind)
    (h' : pair? c d = some kind') : kind.extendedBy d = true := by
  unfold pair? at h'
  split at h'
  all_goals first | cases h; rfl | cases h'

end Lexeme

/-! ## Quoted texts -/

namespace Quoted

theorem scan_sound {cs s : List Char} {n : Nat} (h : scan cs = some (s, n)) :
    ∃ rest, cs = encode s ++ '"' :: rest ∧ Ends (· == '"') rest ∧ n = (encode s).length + 1 := by
  fun_induction scan cs generalizing s n with
  | case1 => cases h
  | case2 cs ih =>
      obtain ⟨⟨s', n'⟩, hscan, heq⟩ := Option.map_eq_some_iff.mp h
      cases heq
      obtain ⟨rest, rfl, hrest, rfl⟩ := ih hscan
      exact ⟨rest, by simp [encode], hrest, by simp [encode]⟩
  | case3 cs hne =>
      cases h
      refine ⟨cs, rfl, ?_, rfl⟩
      cases cs with
      | nil => exact ends_nil _
      | cons c cs =>
          refine ends_cons.mpr (beq_false_of_ne ?_)
          rintro rfl
          exact hne cs rfl
  | case4 c cs _ hc ih =>
      obtain ⟨⟨s', n'⟩, hscan, heq⟩ := Option.map_eq_some_iff.mp h
      cases heq
      obtain ⟨rest, rfl, hrest, rfl⟩ := ih hscan
      exact ⟨rest, by rw [encode, if_neg hc]; rfl, hrest, by rw [encode, if_neg hc]; rfl⟩

theorem scan_complete {s cs : List Char} (h : Ends (· == '"') cs) :
    scan (encode s ++ '"' :: cs) = some (s, (encode s).length + 1) := by
  induction s with
  | nil =>
      cases cs with
      | nil => rfl
      | cons c cs =>
          have hc : c ≠ '"' := by simpa using h
          simp [encode, scan, hc]
  | cons c s ih =>
      by_cases hc : c = '"'
      · simp [encode, scan, hc, ih]
      · simp [encode, scan, hc, ih]

theorem toList_quote (s : String) : (quote s).toList = '"' :: (encode s.toList ++ ['"']) := by
  rw [quote, String.toList_ofList]

theorem spells_quote (s : String) : Spells (quote s).toList (.literal (.text s)) := by
  have hspells := Spells.text s.toList
  rwa [String.ofList_toList, ← toList_quote] at hspells

end Quoted

/-! ## Error literals -/

namespace ErrorKind

theorem startsWithFolded_iff {ws cs : List Char} :
    startsWithFolded ws cs = true ↔ ws.map Char.toUpper <+: cs.map Char.toUpper := by
  fun_induction startsWithFolded ws cs with
  | case1 cs => simp
  | case2 w ws => simp
  | case3 w ws c cs ih => simp [ih]

theorem map_toUpper_literal (kind : ErrorKind) :
    kind.literal.toList.map Char.toUpper = kind.literal.toList := by
  cases kind <;> rfl

/-- No literal is the beginning of another. -/
theorem eq_of_literal_starts {kind kind' : ErrorKind}
    (h : kind.literal.toList <+: kind'.literal.toList) : kind = kind' := by
  revert h
  cases kind <;> cases kind' <;> decide

theorem literal_prefix_of_atHead? {cs : List Char} {kind : ErrorKind} (h : atHead? cs = some kind) :
    kind.literal.toList <+: cs.map Char.toUpper := by
  have hstarts : startsWithFolded kind.literal.toList cs = true :=
    List.find?_some (p := fun k : ErrorKind => startsWithFolded k.literal.toList cs) h
  rwa [startsWithFolded_iff, map_toUpper_literal] at hstarts

theorem atHead?_complete {taken : List Char} {kind : ErrorKind}
    (h : taken.map Char.toUpper = kind.literal.toList) (cs : List Char) :
    atHead? (taken ++ cs) = some kind := by
  have hprefix : kind.literal.toList <+: (taken ++ cs).map Char.toUpper := by
    rw [List.map_append, h]
    exact List.prefix_append _ _
  cases hfind : atHead? (taken ++ cs) with
  | none =>
      have hall : kind ∈ all := by cases kind <;> decide
      refine absurd ?_ (List.find?_eq_none.mp hfind kind hall)
      rwa [startsWithFolded_iff, map_toUpper_literal]
  | some kind' =>
      rcases List.prefix_or_prefix_of_prefix hprefix (literal_prefix_of_atHead? hfind) with hle | hle
      · rw [eq_of_literal_starts hle]
      · rw [eq_of_literal_starts hle]

end ErrorKind

/-! ## Truth values -/

namespace Lexeme

theorem boolean?_eq_some_iff {cs : List Char} {b : Bool} :
    boolean? cs = some b ↔ cs.map Char.toUpper = (booleanText b).toList := by
  unfold boolean?
  by_cases htrue : cs.map Char.toUpper = "TRUE".toList
  · rw [if_pos htrue, htrue]
    cases b <;> decide
  · rw [if_neg htrue]
    by_cases hfalse : cs.map Char.toUpper = "FALSE".toList
    · rw [if_pos hfalse, hfalse]
      cases b <;> decide
    · rw [if_neg hfalse]
      cases b with
      | false => exact ⟨nofun, fun h => absurd h hfalse⟩
      | true => exact ⟨nofun, fun h => absurd h htrue⟩

theorem isAlphabetic_of_boolean {cs : List Char} {b : Bool}
    (h : cs.map Char.toUpper = (booleanText b).toList) : ∀ c ∈ cs, Unicode.isAlphabetic c = true := by
  intro c hc
  have hmem : c.toUpper ∈ (booleanText b).toList := h ▸ List.mem_map_of_mem hc
  have hupper : (booleanText b).toList.all Char.isUpper = true := by cases b <;> rfl
  exact isAlphabetic_of_toUpper (List.all_eq_true.mp hupper _ hmem)

/-! ## Every token takes a word -/

/-- The lexeme is a token that takes a word of its kind from the head of a text. -/
def Takes (lexeme : Lexeme) (cs : List Char) (kind : TokenKind) : Prop :=
  ∃ taken rest, cs = taken ++ rest ∧ lexeme = ⟨taken.length, .ok kind⟩ ∧ Spells taken kind

variable {c : Char} {cs : List Char} {kind : TokenKind}

theorem symbol?_takes {lexeme : Lexeme} (h : symbol? c cs = some lexeme)
    (hkind : lexeme.outcome = .ok kind) : lexeme.Takes (c :: cs) kind := by
  unfold symbol? at h
  split at h
  · rename_i found hpair
    obtain ⟨d, hd, hfound⟩ := Option.bind_eq_some_iff.mp hpair
    obtain ⟨rest, rfl⟩ := List.head?_eq_some_iff.mp hd
    cases h
    cases hkind
    exact ⟨[c, d], rest, rfl, rfl, .pair hfound⟩
  · obtain ⟨found, hfound, rfl⟩ := Option.map_eq_some_iff.mp h
    cases hkind
    exact ⟨[c], cs, rfl, rfl, .single hfound⟩

theorem text_takes (h : (text cs).outcome = .ok kind) : (text cs).Takes ('"' :: cs) kind := by
  unfold text at h ⊢
  split
  · rename_i s n hscan
    rw [hscan] at h
    cases h
    obtain ⟨rest, rfl, -, rfl⟩ := Quoted.scan_sound hscan
    exact ⟨'"' :: (Quoted.encode s ++ ['"']), rest, by simp, by simp, .text s⟩
  · rename_i hscan
    rw [hscan] at h
    cases h

theorem number_takes (hstarts : Numeral.starts cs = true) (h : (number cs).outcome = .ok kind) :
    (number cs).Takes cs kind := by
  simp only [number] at h ⊢
  split
  · rename_i x hx
    simp only [hx] at h
    cases h
    obtain ⟨d, hd, hvalue⟩ := Option.bind_eq_some_iff.mp hx
    obtain ⟨taken, rest, heq, hlength, hspells⟩ := Numeral.scan_sound hstarts hd
    exact ⟨taken, rest, heq, by rw [hlength], .number hspells hvalue⟩
  · rename_i hx
    simp only [hx] at h
    cases h

theorem errorLiteral_takes (h : (errorLiteral cs).outcome = .ok kind) :
    (errorLiteral cs).Takes cs kind := by
  unfold errorLiteral at h ⊢
  split
  · rename_i e he
    simp only [he] at h
    cases h
    have hprefix := ErrorKind.literal_prefix_of_atHead? he
    rw [List.prefix_iff_eq_take, String.length_toList, ← List.map_take] at hprefix
    have hlength := congrArg List.length hprefix
    rw [List.length_map, String.length_toList] at hlength
    exact ⟨cs.take e.literal.length, cs.drop e.literal.length, (List.take_append_drop _ _).symm,
      by rw [← hlength], .error hprefix.symm⟩
  · rename_i he
    simp only [he] at h
    cases h

theorem word_takes (h : (word cs).outcome = .ok kind) : (word cs).Takes cs kind := by
  simp only [word] at h ⊢
  split
  · rename_i b hb
    simp only [hb] at h
    cases h
    exact ⟨cs.takeWhile continuesWord, _, (append_drop_takeWhile continuesWord cs).symm, rfl,
      .boolean (boolean?_eq_some_iff.mp hb)⟩
  · rename_i hb
    simp only [hb] at h
    cases h

/-- The readers in the order in which they are asked. -/
theorem ofChars_cases (c : Char) (cs : List Char) :
    symbol? c cs = some (ofChars c cs) ∨
      (c = '"' ∧ ofChars c cs = text cs) ∨
      (Numeral.starts (c :: cs) = true ∧ ofChars c cs = number (c :: cs)) ∨
      ofChars c cs = errorLiteral (c :: cs) ∨
      ofChars c cs = word (c :: cs) ∨
      ofChars c cs = ⟨1, .error .unexpectedCharacter⟩ := by
  unfold ofChars
  split
  · rename_i lexeme hsymbol
    exact .inl hsymbol
  · split
    · rename_i hquote
      exact .inr (.inl ⟨hquote, rfl⟩)
    · split
      · rename_i hstarts
        exact .inr (.inr (.inl ⟨hstarts, rfl⟩))
      · split
        · exact .inr (.inr (.inr (.inl rfl)))
        · split
          · exact .inr (.inr (.inr (.inr (.inl rfl))))
          · exact .inr (.inr (.inr (.inr (.inr rfl))))

theorem ofChars_takes (h : (ofChars c cs).outcome = .ok kind) :
    (ofChars c cs).Takes (c :: cs) kind := by
  rcases ofChars_cases c cs with hsymbol | ⟨rfl, heq⟩ | ⟨hstarts, heq⟩ | heq | heq | heq
  · exact symbol?_takes hsymbol h
  · rw [heq] at h ⊢
    exact text_takes h
  · rw [heq] at h ⊢
    exact number_takes hstarts h
  · rw [heq] at h ⊢
    exact errorLiteral_takes h
  · rw [heq] at h ⊢
    exact word_takes h
  · rw [heq] at h
    cases h

/-! ## Every word is taken whole -/

variable {rest : List Char}

theorem ofChars_single (h : single? c = some kind) (hrest : Ends kind.extendedBy rest) :
    ofChars c rest = ⟨1, .ok kind⟩ := by
  have hpair : rest.head?.bind (pair? c) = none := by
    rw [Option.eq_none_iff_forall_ne_some]
    intro kind' hkind'
    obtain ⟨d, hd, hpair⟩ := Option.bind_eq_some_iff.mp hkind'
    exact absurd (extendedBy_of_pair? h hpair) (by simp [hrest d hd])
  rw [ofChars, symbol?, hpair, h]
  rfl

theorem ofChars_pair {d : Char} (h : pair? c d = some kind) (rest : List Char) :
    ofChars c (d :: rest) = ⟨2, .ok kind⟩ := by
  have hpair : (d :: rest).head?.bind (pair? c) = some kind := h
  rw [ofChars, symbol?, hpair]

theorem ofChars_quote_eq_text (cs : List Char) : ofChars '"' cs = text cs := by
  rw [ofChars, symbol?_eq_none (by decide)]
  rfl

theorem ofChars_quote (s : List Char) (hrest : Ends (· == '"') rest) :
    ofChars '"' (Quoted.encode s ++ '"' :: rest) =
      ⟨(Quoted.encode s).length + 2, .ok (.literal (.text (String.ofList s)))⟩ := by
  simp [ofChars_quote_eq_text, text, Quoted.scan_complete hrest]

theorem ofChars_numeral {d : Decimal} {x : Float} (h : Numeral.Spells (c :: cs) d)
    (hvalue : d.toFloat? false = some x) (hrest : Ends Numeral.continues rest) :
    ofChars c (cs ++ rest) = ⟨cs.length + 1, .ok (.literal (.number x))⟩ := by
  have hc : c.isDigit = true ∨ c = '.' := by
    obtain ⟨c', cs', heq, hc'⟩ := h.exists_cons
    cases heq
    exact hc'
  have hsymbol : c ∉ symbols :=
    not_mem_symbols (p := fun s => s.isDigit || s == '.') (by decide) (by simpa using hc)
  have hquote : c ≠ '"' := by
    rintro rfl
    exact absurd hc (by decide)
  have hstarts : Numeral.starts (c :: (cs ++ rest)) = true := h.starts rest
  have hscan : Numeral.scan (c :: (cs ++ rest)) = ⟨cs.length + 1, some d⟩ :=
    Numeral.scan_complete h hrest
  rw [ofChars, symbol?_eq_none hsymbol]
  simp [hquote, hstarts, number, hscan, hvalue]

theorem eq_hash_of_error {e : ErrorKind} (h : (c :: cs).map Char.toUpper = e.literal.toList) :
    c = '#' := by
  have hupper : c.toUpper = '#' := by
    cases e <;> exact (List.cons.inj h).1
  have hnat := congrArg Char.toNat hupper
  have hhash : '#'.toNat = 35 := rfl
  rw [toNat_toUpper] at hnat
  refine Char.toNat_inj.mp ?_
  split at hnat <;> omega

theorem ofChars_error {e : ErrorKind} (h : (c :: cs).map Char.toUpper = e.literal.toList)
    (rest : List Char) :
    ofChars c (cs ++ rest) = ⟨cs.length + 1, .ok (.literal (.error e))⟩ := by
  have hlength : e.literal.length = cs.length + 1 := by
    rw [← String.length_toList, ← h, List.length_map, List.length_cons]
  obtain rfl := eq_hash_of_error h
  have hstarts : Numeral.starts ('#' :: (cs ++ rest)) = false := by simp [Numeral.starts]
  have hhead : ErrorKind.atHead? ('#' :: (cs ++ rest)) = some e :=
    ErrorKind.atHead?_complete h rest
  rw [ofChars, symbol?_eq_none (by decide)]
  simp [hstarts, errorLiteral, hhead, hlength]

theorem ofChars_boolean {b : Bool} (h : (c :: cs).map Char.toUpper = (booleanText b).toList)
    (hrest : Ends continuesWord rest) :
    ofChars c (cs ++ rest) = ⟨cs.length + 1, .ok (.literal (.boolean b))⟩ := by
  have hletters := isAlphabetic_of_boolean h
  have hc : Unicode.isAlphabetic c = true := hletters c List.mem_cons_self
  have hsymbol : c ∉ symbols := not_mem_symbols (by decide) hc
  have hne : c ≠ '"' ∧ c ≠ '#' ∧ c ≠ '.' := by
    refine ⟨?_, ?_, ?_⟩ <;> rintro rfl <;> exact absurd hc (by decide)
  have hdigit := isDigit_eq_false_of_isAlphabetic hc
  have hword : (c :: (cs ++ rest)).takeWhile continuesWord = c :: cs := by
    rw [← List.cons_append]
    refine takeWhile_append_of_ends ?_ hrest
    rw [List.all_eq_true]
    intro d hd
    simp [continuesWord, isAlphanumeric, hletters d hd]
  rw [ofChars, symbol?_eq_none hsymbol]
  simp [hne, Numeral.starts, hdigit, startsWord, hc, word, hword, boolean?_eq_some_iff.mpr h]

theorem ofChars_complete {taken : List Char} (h : Spells taken kind)
    (hrest : Ends kind.extendedBy rest) :
    ∃ c cs, taken = c :: cs ∧ ofChars c (cs ++ rest) = ⟨taken.length, .ok kind⟩ := by
  cases h with
  | single single_eq => exact ⟨_, [], rfl, ofChars_single single_eq hrest⟩
  | pair pair_eq => exact ⟨_, [_], rfl, ofChars_pair pair_eq rest⟩
  | text s => exact ⟨'"', _, rfl, by simpa using ofChars_quote s hrest⟩
  | number spells value =>
      obtain ⟨c, cs, rfl, -⟩ := spells.exists_cons
      exact ⟨c, cs, rfl, ofChars_numeral spells value hrest⟩
  | @error _ e folded =>
      cases taken with
      | nil => cases e <;> exact absurd folded (by decide)
      | cons c cs => exact ⟨c, cs, rfl, ofChars_error folded rest⟩
  | @boolean _ b folded =>
      cases taken with
      | nil => cases b <;> exact absurd folded (by decide)
      | cons c cs => exact ⟨c, cs, rfl, ofChars_boolean folded hrest⟩

end Lexeme

end CellFormula
