import CellFormula.Proofs.Lexer.Tiling
import CellFormula.Proofs.Lexer.Words

/-! # Lexing is compositional

Words written one after the other are read as the same words. White space between them may be left
out except where the second word starts with a character that can make the first one longer.
-/

namespace CellFormula

open Lexeme

/-! ## The first character of a word -/

/-- The character may start a word of the kind. -/
inductive Starts : Char → TokenKind → Prop where
  | single {c : Char} {kind : TokenKind} (single_eq : single? c = some kind) : Starts c kind
  | pair {c d : Char} {kind : TokenKind} (pair_eq : pair? c d = some kind) : Starts c kind
  | text (s : String) : Starts '"' (.literal (.text s))
  | number {c : Char} (x : Float) (numeral : c.isDigit = true ∨ c = '.') :
      Starts c (.literal (.number x))
  | error (e : ErrorKind) : Starts '#' (.literal (.error e))
  | boolean {c : Char} (b : Bool) (letter : c.toUpper = 'T' ∨ c.toUpper = 'F') :
      Starts c (.literal (.boolean b))

theorem Spells.exists_starts {taken : List Char} {kind : TokenKind} (h : Spells taken kind) :
    ∃ c cs, taken = c :: cs ∧ Starts c kind := by
  cases h with
  | single single_eq => exact ⟨_, _, rfl, .single single_eq⟩
  | pair pair_eq => exact ⟨_, _, rfl, .pair pair_eq⟩
  | text s => exact ⟨_, _, rfl, .text _⟩
  | @number _ _ x spells value =>
      obtain ⟨c, cs, rfl, hc⟩ := spells.exists_cons
      exact ⟨c, cs, rfl, .number x hc⟩
  | @error _ e folded =>
      cases taken with
      | nil => cases e <;> exact absurd folded (by decide)
      | cons c cs =>
          obtain rfl := eq_hash_of_error folded
          exact ⟨'#', cs, rfl, .error e⟩
  | @boolean _ b folded =>
      cases taken with
      | nil => cases b <;> exact absurd folded (by decide)
      | cons c cs =>
          refine ⟨c, cs, rfl, .boolean b ?_⟩
          cases b with
          | false => exact .inr (List.cons.inj folded).1
          | true => exact .inl (List.cons.inj folded).1

namespace Starts

variable {c : Char} {kind kind' : TokenKind}

theorem isAlphabetic_of_letter (h : c.toUpper = 'T' ∨ c.toUpper = 'F') :
    Unicode.isAlphabetic c = true := by
  rcases h with h | h
  · exact isAlphabetic_of_toUpper (by rw [h]; decide)
  · exact isAlphabetic_of_toUpper (by rw [h]; decide)

theorem isWhiteSpace_eq_false (h : Starts c kind) : Unicode.isWhiteSpace c = false := by
  have hsymbols : symbols.all (!Unicode.isWhiteSpace ·) = true := by decide
  have hsymbol : c ∈ symbols → Unicode.isWhiteSpace c = false := by
    intro hc
    simpa using List.all_eq_true.mp hsymbols c hc
  cases h with
  | single single_eq => exact hsymbol (mem_symbols_of_single? single_eq)
  | pair pair_eq => exact hsymbol (mem_symbols_of_pair? pair_eq)
  | text => decide
  | number x numeral =>
      rcases numeral with hdigit | rfl
      · exact isWhiteSpace_eq_false_of_isDigit hdigit
      · decide
  | error => decide
  | boolean b letter => exact isWhiteSpace_eq_false_of_isAlphabetic (isAlphabetic_of_letter letter)

/-- Only numbers and truth values start with a character outside the symbols and the marks of texts
and errors. -/
theorem number_or_boolean (h : Starts c kind) {p : Char → Bool} (hc : p c = true)
    (hp : ('"' :: '#' :: symbols).any p = false) :
    (∃ x, kind = .literal (.number x)) ∨
      ∃ b, kind = .literal (.boolean b) ∧ (c.toUpper = 'T' ∨ c.toUpper = 'F') := by
  rw [List.any_cons, List.any_cons, Bool.or_eq_false_iff, Bool.or_eq_false_iff] at hp
  obtain ⟨hquote, hhash, hsymbols⟩ := hp
  have hsymbol : c ∉ symbols := not_mem_symbols hsymbols hc
  cases h with
  | single single_eq => exact absurd (mem_symbols_of_single? single_eq) hsymbol
  | pair pair_eq => exact absurd (mem_symbols_of_pair? pair_eq) hsymbol
  | text => exact absurd hc (by simp [hquote])
  | number x => exact .inl ⟨x, rfl⟩
  | error => exact absurd hc (by simp [hhash])
  | boolean b letter => exact .inr ⟨b, rfl, letter⟩

end Starts

/-! ## Where white space is needed -/

/-- Whether a word of the second kind has to be kept apart from one of the first kind before it. -/
def TokenKind.needsGap : TokenKind → TokenKind → Bool
  | literal (.number _), literal (.number _) => true
  | literal (.boolean _), literal (.boolean _) => true
  | literal (.boolean _), literal (.number _) => true
  | literal (.text _), literal (.text _) => true
  | operator (.comparison .less), operator (.comparison op) =>
    op == .equal || op == .greater || op == .greaterEqual
  | operator (.comparison .greater), operator (.comparison .equal) => true
  | _, _ => false

theorem ends_of_blank {p : Char → Bool} {blank : List Char}
    (h : blank.all Unicode.isWhiteSpace = true)
    (hp : ∀ c, Unicode.isWhiteSpace c = true → p c = false) : Ends p blank :=
  fun c hc => hp c (List.all_eq_true.mp h c (List.mem_of_head? hc))

theorem beq_eq_false_of_isWhiteSpace {c : Char} (h : Unicode.isWhiteSpace c = true) (d : Char)
    (hd : Unicode.isWhiteSpace d = false) : (c == d) = false := by
  rw [beq_eq_false_iff_ne]
  rintro rfl
  rw [h] at hd
  cases hd

theorem extendedBy_eq_false_of_isWhiteSpace {c : Char} (h : Unicode.isWhiteSpace c = true)
    (kind : TokenKind) : kind.extendedBy c = false := by
  have hne := beq_eq_false_of_isWhiteSpace h
  have hdigit := isDigit_eq_false_of_isWhiteSpace h
  unfold TokenKind.extendedBy
  split
  · simp [Numeral.continues, hdigit, hne '.' (by decide), hne 'e' (by decide), hne 'E' (by decide)]
  · exact hne '"' (by decide)
  · simp [continuesWord, isAlphanumeric_eq_false_of_isWhiteSpace h, hne '_' (by decide), hne '.' (by decide)]
  · simp [hne '=' (by decide), hne '>' (by decide)]
  · exact hne '=' (by decide)
  · rfl

theorem ends_extendedBy_of_blank {blank : List Char} (h : blank.all Unicode.isWhiteSpace = true)
    (kind : TokenKind) : Ends kind.extendedBy blank :=
  ends_of_blank h fun _ hc => extendedBy_eq_false_of_isWhiteSpace hc kind

/-- The text cannot make any word before it longer. -/
def Closes (rest : List Char) : Prop :=
  ∀ kind : TokenKind, Ends kind.extendedBy rest

theorem closes_nil : Closes [] :=
  fun _ => ends_nil _

theorem closes_separator {c : Char} (hc : c = ',' ∨ c = '\x7d' ∨ c = '&') (cs : List Char) :
    Closes (c :: cs) := by
  intro kind
  rw [ends_cons]
  unfold TokenKind.extendedBy
  rcases hc with rfl | rfl | rfl <;> split <;> decide

namespace Starts

variable {c : Char} {kind kind' : TokenKind}

theorem needsGap_of_continues {x : Float} (h : Starts c kind) (hc : Numeral.continues c = true) :
    TokenKind.needsGap (.literal (.number x)) kind = true := by
  rcases h.number_or_boolean hc (by decide) with ⟨y, rfl⟩ | ⟨b, rfl, letter⟩
  · rfl
  · -- Of the letters that continue a numeral, none starts a truth value.
    have hdigit := isDigit_eq_false_of_isAlphabetic (isAlphabetic_of_letter letter)
    simp only [Numeral.continues, hdigit, Bool.false_or, Bool.or_eq_true, beq_iff_eq] at hc
    rcases hc with (rfl | rfl) | rfl <;> exact absurd letter (by decide)

theorem needsGap_of_continuesWord {b : Bool} (h : Starts c kind) (hc : continuesWord c = true) :
    TokenKind.needsGap (.literal (.boolean b)) kind = true := by
  rcases h.number_or_boolean hc (by decide) with ⟨x, rfl⟩ | ⟨b', rfl, -⟩
  · rfl
  · rfl

theorem needsGap_of_quote {s : String} (h : Starts '"' kind) :
    TokenKind.needsGap (.literal (.text s)) kind = true := by
  cases h with
  | single single_eq => cases single_eq
  | pair pair_eq => exact absurd (mem_symbols_of_pair? pair_eq) (by decide)
  | text => rfl
  | number x numeral => exact absurd numeral (by decide)
  | boolean b letter => exact absurd letter (by decide)

/-- A word that starts with a character of comparisons is an operator. -/
theorem operator_of_mem (h : Starts c kind) (hc : c = '=' ∨ c = '>') :
    (c = '=' ∧ kind = .operator (.comparison .equal)) ∨
      (c = '>' ∧ (kind = .operator (.comparison .greater) ∨
        kind = .operator (.comparison .greaterEqual))) := by
  cases h with
  | single single_eq =>
      rcases hc with rfl | rfl
      · cases single_eq
        exact .inl ⟨rfl, rfl⟩
      · cases single_eq
        exact .inr ⟨rfl, .inl rfl⟩
  | pair pair_eq =>
      unfold pair? at pair_eq
      split at pair_eq
      · exact absurd hc (by decide)
      · exact absurd hc (by decide)
      · cases pair_eq
        exact .inr ⟨rfl, .inr rfl⟩
      · cases pair_eq
  | text => exact absurd hc (by decide)
  | number x numeral => rcases hc with rfl | rfl <;> exact absurd numeral (by decide)
  | error => exact absurd hc (by decide)
  | boolean b letter => rcases hc with rfl | rfl <;> exact absurd letter (by decide)

/-- A word that makes the one before it longer has to be kept apart from it. -/
theorem needsGap (h : Starts c kind') (hextended : kind.extendedBy c = true) :
    kind.needsGap kind' = true := by
  unfold TokenKind.extendedBy at hextended
  split at hextended
  · exact h.needsGap_of_continues hextended
  · obtain rfl := beq_iff_eq.mp hextended
    exact h.needsGap_of_quote
  · exact h.needsGap_of_continuesWord hextended
  · simp only [Bool.or_eq_true, beq_iff_eq] at hextended
    rcases h.operator_of_mem hextended with ⟨-, rfl⟩ | ⟨-, rfl | rfl⟩ <;> rfl
  · obtain rfl := beq_iff_eq.mp hextended
    rcases h.operator_of_mem (.inl rfl) with ⟨-, rfl⟩ | ⟨hne, -⟩
    · rfl
    · exact absurd hne (by decide)
  · cases hextended

end Starts

/-! ## Reading word after word -/

namespace TokenStream

theorem next?_word {gap taken rest : List Char} {kind : TokenKind}
    (hgap : gap.all Unicode.isWhiteSpace = true) (h : Spells taken kind)
    (hrest : Ends kind.extendedBy rest) (offset : Nat) :
    next? ⟨gap ++ (taken ++ rest), offset⟩ =
      some (.ok ⟨kind, String.ofList taken, offset + byteLength gap⟩,
        ⟨rest, offset + byteLength gap + byteLength taken⟩) := by
  obtain ⟨c, cs, heq, hlexeme⟩ := ofChars_complete h hrest
  obtain ⟨c', cs', heq', hstarts⟩ := h.exists_starts
  subst heq
  cases heq'
  have hends : Ends Unicode.isWhiteSpace (c :: cs ++ rest) :=
    ends_cons.mpr hstarts.isWhiteSpace_eq_false
  have hdrop : (gap ++ (c :: cs ++ rest)).dropWhile Unicode.isWhiteSpace = c :: (cs ++ rest) :=
    dropWhile_append_of_ends hgap hends
  have htake : (c :: (cs ++ rest)).take (c :: cs).length = c :: cs := by
    rw [← List.cons_append, List.take_left]
  have hafter : (c :: (cs ++ rest)).drop (c :: cs).length = rest := by
    rw [← List.cons_append, List.drop_left]
  simp only [next?, takeWhile_append_of_ends hgap hends, hdrop, hlexeme, htake, hafter]

/-- Reading goes from the first text to the last past tokens of the given kinds. -/
def Lexes (cs : List Char) (kinds : List TokenKind) (rest : List Char) : Prop :=
  ∀ offset, ∃ (tokens : List Token) (offset' : Nat), tokens.map Token.kind = kinds ∧
    items ⟨cs, offset⟩ = tokens.map .ok ++ items ⟨rest, offset'⟩

namespace Lexes

variable {cs ds rest gap taken : List Char} {kinds kinds' : List TokenKind} {kind : TokenKind}

theorem trans (h : Lexes cs kinds ds) (h' : Lexes ds kinds' rest) :
    Lexes cs (kinds ++ kinds') rest := by
  intro offset
  obtain ⟨tokens, offset', hkinds, hitems⟩ := h offset
  obtain ⟨tokens', offset'', hkinds', hitems'⟩ := h' offset'
  refine ⟨tokens ++ tokens', offset'', ?_, ?_⟩
  · rw [List.map_append, hkinds, hkinds']
  · rw [hitems, hitems', List.map_append, List.append_assoc]

theorem blank (h : gap.all Unicode.isWhiteSpace = true) : Lexes gap [] [] := by
  intro offset
  refine ⟨[], offset, rfl, ?_⟩
  rw [items_of_next?_eq_none ((next?_eq_none_iff _).mpr h), List.map_nil, List.nil_append,
    items_of_next?_eq_none ((next?_eq_none_iff _).mpr rfl)]

theorem word (hgap : gap.all Unicode.isWhiteSpace = true) (h : Spells taken kind)
    (hrest : Ends kind.extendedBy rest) : Lexes (gap ++ (taken ++ rest)) [kind] rest := by
  intro offset
  exact ⟨[_], _, rfl, items_of_next?_eq_some (next?_word hgap h hrest offset)⟩

/-- A word at the head of the text. -/
theorem here (h : Spells taken kind) (hrest : Ends kind.extendedBy rest) :
    Lexes (taken ++ rest) [kind] rest := by
  have hblank : ([] : List Char).all Unicode.isWhiteSpace = true := rfl
  exact word hblank h hrest

/-- A symbol that no character can make longer. -/
theorem symbol {c : Char} (h : Lexeme.single? c = some kind)
    (hkind : ∀ d, kind.extendedBy d = false) (rest : List Char) : Lexes (c :: rest) [kind] rest :=
  here (.single h) fun d _ => hkind d

/-- Words up to the end of the text are all the tokens. -/
theorem exists_items (h : Lexes cs kinds []) (offset : Nat) :
    ∃ tokens : List Token, items ⟨cs, offset⟩ = tokens.map .ok ∧ tokens.map Token.kind = kinds := by
  obtain ⟨tokens, offset', hkinds, hitems⟩ := h offset
  refine ⟨tokens, ?_, hkinds⟩
  rw [hitems, items_of_next?_eq_none ((next?_eq_none_iff _).mpr rfl), List.append_nil]

end Lexes

theorem spells_of_mem_items {stream : TokenStream} {token : Token} (h : .ok token ∈ stream.items) :
    Spells token.text.toList token.kind := by
  obtain ⟨c, cs, start, ⟨kind, hkind, hitem⟩ | ⟨fault, -, hitem⟩⟩ := exists_lexeme_of_mem_items h
  · cases hitem
    obtain ⟨taken, rest, heq, hlexeme, hspells⟩ := ofChars_takes hkind
    rw [hlexeme, heq, List.take_left, String.toList_ofList]
    exact hspells
  · cases hitem

section Source

variable {source : String} {lead body : List Char}

theorem ofSource_of_equals (hlead : lead.all Unicode.isWhiteSpace = true)
    (hsource : source.toList = lead ++ '=' :: body) :
    ofSource source = ⟨body, byteLength lead + 1⟩ := by
  have hends : Ends Unicode.isWhiteSpace ('=' :: body) := ends_cons.mpr (by decide)
  simp only [ofSource, hsource, takeWhile_append_of_ends hlead hends,
    dropWhile_append_of_ends hlead hends]

theorem ofSource_of_body (hlead : lead.all Unicode.isWhiteSpace = true)
    (hsource : source.toList = lead ++ body)
    (hbody : ∀ c ∈ body.head?, Unicode.isWhiteSpace c = false ∧ c ≠ '=') :
    ofSource source = ⟨body, byteLength lead⟩ := by
  have hends : Ends Unicode.isWhiteSpace body := fun c hc => (hbody c hc).1
  simp only [ofSource, hsource, takeWhile_append_of_ends hlead hends,
    dropWhile_append_of_ends hlead hends]
  split
  · exact absurd rfl (hbody '=' rfl).2
  · rfl

end Source

theorem ofSource_equals (body : String) : ofSource ("=" ++ body) = ⟨body.toList, 1⟩ := by
  have htoList : ("=" ++ body).toList = [] ++ '=' :: body.toList := by simp
  exact ofSource_of_equals rfl htoList

end TokenStream

/-- The text is read as one token, which is of the kind and takes all of it. -/
def IsWord (word : String) (kind : TokenKind) : Prop :=
  ∃ position, tokenize ("=" ++ word) = [.ok ⟨kind, word, position⟩]

theorem isWord_iff {word : String} {kind : TokenKind} :
    IsWord word kind ↔ Spells word.toList kind := by
  rw [IsWord, tokenize, TokenStream.ofSource_equals]
  constructor
  · rintro ⟨position, hitems⟩
    have hmem : .ok ⟨kind, word, position⟩ ∈ TokenStream.items ⟨word.toList, 1⟩ := by
      rw [hitems]
      exact List.mem_singleton_self _
    exact TokenStream.spells_of_mem_items hmem
  · intro h
    have hblank : ([] : List Char).all Unicode.isWhiteSpace = true := rfl
    have hnext := TokenStream.next?_word hblank h (ends_nil _) 1
    rw [List.nil_append, List.append_nil, String.ofList_toList] at hnext
    refine ⟨1 + byteLength [], ?_⟩
    rw [TokenStream.items_of_next?_eq_some hnext,
      TokenStream.items_of_next?_eq_none ((TokenStream.next?_eq_none_iff _).mpr rfl)]

/-- A word of a kind, with the white space behind it. -/
structure Piece where
  word : String
  kind : TokenKind
  gap : String

namespace Piece

/-- The pieces one after the other. -/
def written : List Piece → String
  | [] => ""
  | p :: rest => p.word ++ p.gap ++ written rest

/-- White space stands wherever it is needed. -/
def IsSpaced : List Piece → Prop
  | p :: q :: rest => (p.kind.needsGap q.kind = true → p.gap ≠ "") ∧ IsSpaced (q :: rest)
  | _ => True

variable {p : Piece} {rest : List Piece}

theorem IsSpaced.tail (h : IsSpaced (p :: rest)) : IsSpaced rest := by
  cases rest with
  | nil => trivial
  | cons q rest => exact h.2

/-- What follows a word cannot make it longer. -/
theorem ends_extendedBy (hgap : IsBlank p.gap)
    (hwords : ∀ q ∈ rest, Spells q.word.toList q.kind) (hspaced : IsSpaced (p :: rest)) :
    Ends p.kind.extendedBy (p.gap.toList ++ (written rest).toList) := by
  cases hchars : p.gap.toList with
  | cons c cs =>
      have hc : Unicode.isWhiteSpace c = true := by
        rw [IsBlank, hchars, List.all_cons, Bool.and_eq_true] at hgap
        exact hgap.1
      rw [List.cons_append, ends_cons]
      exact extendedBy_eq_false_of_isWhiteSpace hc _
  | nil =>
      cases rest with
      | nil => exact ends_nil _
      | cons q rest =>
          obtain ⟨c, cs, hword, hstarts⟩ := (hwords q List.mem_cons_self).exists_starts
          have hempty : p.gap = "" := String.toList_eq_nil_iff.mp hchars
          rw [List.nil_append, written, String.toList_append, String.toList_append, hword,
            List.cons_append, List.cons_append, ends_cons, ← Bool.not_eq_true]
          exact fun hextended => hspaced.1 (hstarts.needsGap hextended) hempty

theorem lexes_written {pieces : List Piece} {lead : List Char}
    (hlead : lead.all Unicode.isWhiteSpace = true)
    (hpieces : ∀ p ∈ pieces, Spells p.word.toList p.kind ∧ IsBlank p.gap)
    (hspaced : IsSpaced pieces) :
    TokenStream.Lexes (lead ++ (written pieces).toList) (pieces.map Piece.kind) [] := by
  induction pieces generalizing lead with
  | nil =>
      rw [written, String.toList_empty, List.append_nil, List.map_nil]
      exact .blank hlead
  | cons p rest ih =>
      obtain ⟨⟨hword, hgap⟩, hrest⟩ := List.forall_mem_cons.mp hpieces
      have hends := ends_extendedBy hgap (fun q hq => (hrest q hq).1) hspaced
      have hfirst := TokenStream.Lexes.word hlead hword hends
      rw [written, String.toList_append, String.toList_append, List.append_assoc]
      exact hfirst.trans (ih hgap hrest hspaced.tail)

end Piece

/-- Words are read back one by one from what is written with white space where it is needed, and
every token that is read from any source is such a word. -/
theorem tokenize_compositional :
    (∀ (lead : String) (pieces : List Piece), IsBlank lead →
      (∀ p ∈ pieces, IsWord p.word p.kind ∧ IsBlank p.gap) → Piece.IsSpaced pieces →
      ∃ tokens : List Token, tokenize ("=" ++ (lead ++ Piece.written pieces)) = tokens.map .ok ∧
        tokens.map Token.kind = pieces.map Piece.kind) ∧
    ∀ (source : String) (token : Token), .ok token ∈ tokenize source →
      IsWord token.text token.kind := by
  constructor
  · intro lead pieces hlead hpieces hspaced
    have hspells : ∀ p ∈ pieces, Spells p.word.toList p.kind ∧ IsBlank p.gap :=
      fun p hp => ⟨isWord_iff.mp (hpieces p hp).1, (hpieces p hp).2⟩
    have hlexes := Piece.lexes_written hlead hspells hspaced
    rw [tokenize, TokenStream.ofSource_equals, String.toList_append]
    exact hlexes.exists_items 1
  · intro source token htoken
    exact isWord_iff.mpr (TokenStream.spells_of_mem_items htoken)

/-- Two numbers that only a no-break space keeps apart, operators that would join, and an error
literal right before a truth value. -/
theorem tokenize_compositional_mixed :
    ∃ tokens : List Token,
      tokenize "= 1.\u00a0.5< >=#n/atRuE\t\"a\"\"b\"" = tokens.map .ok ∧
        tokens.map Token.kind =
          [.literal (.number 1), .literal (.number 0.5), .operator (.comparison .less),
            .operator (.comparison .greaterEqual), .literal (.error .na), .literal (.boolean true),
            .literal (.text "a\"b")] ∧
        ∀ token ∈ tokens, IsWord token.text token.kind := by
  have hone : IsWord "1." (.literal (.number 1)) :=
    isWord_iff.mpr (.number (@Numeral.Spells.numeral ['1'] ['.'] [] [] 0 rfl (.point rfl) .none
      (by decide)) (by decide +kernel))
  have hhalf : IsWord ".5" (.literal (.number 0.5)) :=
    isWord_iff.mpr (.number (@Numeral.Spells.numeral [] ['.', '5'] ['5'] [] 0 rfl (.point rfl) .none
      (by decide)) (by decide +kernel))
  have hless : IsWord "<" (.operator (.comparison .less)) := isWord_iff.mpr (.single rfl)
  have hgreaterEqual : IsWord ">=" (.operator (.comparison .greaterEqual)) :=
    isWord_iff.mpr (.pair rfl)
  have herror : IsWord "#n/a" (.literal (.error .na)) := isWord_iff.mpr (.error (by decide))
  have htrue : IsWord "tRuE" (.literal (.boolean true)) := isWord_iff.mpr (.boolean (by decide))
  have htext : IsWord "\"a\"\"b\"" (.literal (.text "a\"b")) := isWord_iff.mpr (.text ['a', '"', 'b'])
  let pieces : List Piece :=
    [⟨"1.", .literal (.number 1), "\u00a0"⟩, ⟨".5", .literal (.number 0.5), ""⟩,
      ⟨"<", .operator (.comparison .less), " "⟩,
      ⟨">=", .operator (.comparison .greaterEqual), ""⟩, ⟨"#n/a", .literal (.error .na), ""⟩,
      ⟨"tRuE", .literal (.boolean true), "\t"⟩, ⟨"\"a\"\"b\"", .literal (.text "a\"b"), ""⟩]
  have hpieces : ∀ p ∈ pieces, IsWord p.word p.kind ∧ IsBlank p.gap := by
    simp only [pieces, List.forall_mem_cons]
    exact ⟨⟨hone, rfl⟩, ⟨hhalf, rfl⟩, ⟨hless, rfl⟩, ⟨hgreaterEqual, rfl⟩,
      ⟨herror, rfl⟩, ⟨htrue, rfl⟩, ⟨htext, rfl⟩, nofun⟩
  have hspaced : Piece.IsSpaced pieces := by simp [pieces, Piece.IsSpaced, TokenKind.needsGap]
  obtain ⟨tokens, htokens, hkinds⟩ := tokenize_compositional.1 " " pieces rfl hpieces hspaced
  refine ⟨tokens, htokens, hkinds, fun token htoken => ?_⟩
  refine tokenize_compositional.2 "= 1.\u00a0.5< >=#n/atRuE\t\"a\"\"b\"" token ?_
  exact htokens ▸ List.mem_map_of_mem htoken

end CellFormula
