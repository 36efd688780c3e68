import CellFormula.Proofs.Lexer.Composition

/-! # Quoted texts

Every text has one quoted form, which is read back as a single token, and every token for a text is
read from the quoted form of it. Where the lexer meets a quote, it finds the text that starts there
if there is one, and blames the quote if there is none.
-/

namespace CellFormula

/-! ## The quoted form -/

namespace Quoted

theorem encode_eq_flatMap (cs : List Char) :
    encode cs = cs.flatMap fun c => if c = '"' then ['"', '"'] else [c] := by
  induction cs with
  | nil => rfl
  | cons c cs ih =>
      rw [encode, ih, List.flatMap_cons]
      split <;> rfl

/-- The quoted form of a text stands at the head of a text, and the quote that closes it is not the
first of two. -/
def IsAtHead (s : String) (cs rest : List Char) : Prop :=
  cs = (quote s).toList ++ rest ∧ rest.head? ≠ some '"'

theorem ends_quote_iff {rest : List Char} : Ends (· == '"') rest ↔ rest.head? ≠ some '"' := by
  cases rest <;> simp [Ends]

theorem isAtHead_cons_iff {s : String} {cs rest : List Char} :
    IsAtHead s ('"' :: cs) rest ↔
      cs = encode s.toList ++ '"' :: rest ∧ Ends (· == '"') rest := by
  rw [IsAtHead, toList_quote, ends_quote_iff]
  simp

/-- Behind a quote there is nothing to read exactly if no quoted text starts with it. -/
theorem scan_eq_none_iff {cs : List Char} :
    scan cs = none ↔ ∀ s rest, ¬ IsAtHead s ('"' :: cs) rest := by
  constructor
  · intro hscan s rest hhead
    obtain ⟨rfl, hrest⟩ := isAtHead_cons_iff.mp hhead
    rw [scan_complete hrest] at hscan
    cases hscan
  · intro hnone
    cases hscan : scan cs with
    | none => rfl
    | some p =>
        obtain ⟨rest, hcs, hrest, -⟩ := scan_sound hscan
        refine absurd (isAtHead_cons_iff.mpr ⟨?_, hrest⟩) (hnone (String.ofList p.1) rest)
        rwa [String.toList_ofList]

end Quoted

/-- A word for a text is its quoted form. -/
theorem Spells.eq_quote {taken : List Char} {s : String}
    (h : Spells taken (.literal (.text s))) : taken = (Quoted.quote s).toList := by
  generalize hkind : TokenKind.literal (.text s) = kind at h
  cases h with
  | single single_eq =>
      subst hkind
      unfold Lexeme.single? at single_eq
      split at single_eq <;> cases single_eq
  | pair pair_eq =>
      subst hkind
      unfold Lexeme.pair? at pair_eq
      split at pair_eq <;> cases pair_eq
  | text cs =>
      cases hkind
      rw [Quoted.toList_quote, String.toList_ofList]
  | number => cases hkind
  | error => cases hkind
  | boolean => cases hkind

/-! ## Where the lexer meets a quote -/

namespace TokenStream

variable {gap cs rest : List Char} {s : String}

theorem next?_quoted (hgap : gap.all Unicode.isWhiteSpace = true)
    (h : Quoted.IsAtHead s ('"' :: cs) rest) (offset : Nat) :
    next? ⟨gap ++ '"' :: cs, offset⟩ =
      some (.ok ⟨.literal (.text s), Quoted.quote s, offset + byteLength gap⟩,
        ⟨rest, offset + byteLength gap + (Quoted.quote s).utf8ByteSize⟩) := by
  obtain ⟨hcs, hrest⟩ := h
  rw [hcs, next?_word hgap (Quoted.spells_quote s) (Quoted.ends_quote_iff.mpr hrest),
    String.ofList_toList, byteLength_toList]

theorem next?_unterminated (hgap : gap.all Unicode.isWhiteSpace = true)
    (h : Quoted.scan cs = none) (offset : Nat) :
    next? ⟨gap ++ '"' :: cs, offset⟩ =
      some (.error ⟨.unterminatedString, "\"", offset + byteLength gap⟩,
        ⟨[], offset + byteLength gap + 1⟩) := by
  have hends : Ends Unicode.isWhiteSpace ('"' :: cs) := ends_cons.mpr (by decide)
  have hlexeme : Lexeme.ofChars '"' cs = ⟨1, .error .unterminatedString⟩ := by
    rw [Lexeme.ofChars_quote_eq_text, Lexeme.text, h]
  simp only [next?, takeWhile_append_of_ends hgap hends, dropWhile_append_of_ends hgap hends,
    hlexeme]
  rfl

end TokenStream

theorem tokenize_quote (s : String) :
    tokenize ("=" ++ Quoted.quote s) = [.ok ⟨.literal (.text s), Quoted.quote s, 1⟩] := by
  have hblank : ([] : List Char).all Unicode.isWhiteSpace = true := rfl
  have hhead : Quoted.IsAtHead s ('"' :: (Quoted.encode s.toList ++ ['"'])) [] :=
    Quoted.isAtHead_cons_iff.mpr ⟨rfl, ends_nil _⟩
  have hnext := TokenStream.next?_quoted hblank hhead 1
  rw [List.nil_append] at hnext
  rw [tokenize, TokenStream.ofSource_equals, Quoted.toList_quote,
    TokenStream.items_of_next?_eq_some hnext,
    TokenStream.items_of_next?_eq_none ((TokenStream.next?_eq_none_iff _).mpr rfl)]
  rfl

/-- The quoted form of a text, in which every quote stands twice and which lists show, is read as
one token for that text, and no other form is. Where the lexer meets a quote, it reads the quoted
text at the head if there is one, and the text is unterminated exactly if there is none. -/
theorem quoted_text_codec :
    (∀ s : String,
      (Quoted.quote s).toList =
        '"' :: ((s.toList.flatMap fun c => if c = '"' then ['"', '"'] else [c]) ++ ['"']) ∧
      (Value.text s).inList = Quoted.quote s ∧
      tokenize ("=" ++ Quoted.quote s) = [.ok ⟨.literal (.text s), Quoted.quote s, 1⟩]) ∧
    (∀ (source : String) (token : Token) (s : String), .ok token ∈ tokenize source →
      token.kind = .literal (.text s) → token.text = Quoted.quote s) ∧
    ∀ (gap cs : List Char) (offset : Nat), gap.all Unicode.isWhiteSpace = true →
      (∀ s rest, Quoted.IsAtHead s ('"' :: cs) rest →
        TokenStream.next? ⟨gap ++ '"' :: cs, offset⟩ =
          some (.ok ⟨.literal (.text s), Quoted.quote s, offset + byteLength gap⟩,
            ⟨rest, offset + byteLength gap + (Quoted.quote s).utf8ByteSize⟩)) ∧
      (TokenStream.next? ⟨gap ++ '"' :: cs, offset⟩ =
          some (.error ⟨.unterminatedString, "\"", offset + byteLength gap⟩,
            ⟨[], offset + byteLength gap + 1⟩) ↔
        ¬ ∃ s rest, Quoted.IsAtHead s ('"' :: cs) rest) := by
  refine ⟨fun s => ⟨?_, rfl, tokenize_quote s⟩, ?_, ?_⟩
  · rw [Quoted.toList_quote, Quoted.encode_eq_flatMap]
  · intro source token s htoken hkind
    have hspells := TokenStream.spells_of_mem_items htoken
    rw [hkind] at hspells
    exact String.toList_inj.mp hspells.eq_quote
  · intro gap cs offset hgap
    refine ⟨fun s rest hhead => TokenStream.next?_quoted hgap hhead offset, ?_⟩
    constructor
    · rintro hnext ⟨s, rest, hhead⟩
      rw [TokenStream.next?_quoted hgap hhead] at hnext
      cases hnext
    · intro hnone
      have hscan : Quoted.scan cs = none :=
        Quoted.scan_eq_none_iff.mpr fun s rest hhead => hnone ⟨s, rest, hhead⟩
      exact TokenStream.next?_unterminated hgap hscan offset

/-- Two quotes at the start of a text, a quote inside one, three quotes that close a text, and two
that leave it open behind a space of two bytes. -/
theorem quoted_text_codec_runs :
    tokenize "=\"\"\"\"\"a\"" = [.ok ⟨.literal (.text "\"\"a"), "\"\"\"\"\"a\"", 1⟩] ∧
    .ok ⟨.literal (.text "é\"b"), Quoted.quote "é\"b", 3⟩ ∈ tokenize "=1&\"é\"\"b\"" ∧
    "\"é\"\"b\"" = Quoted.quote "é\"b" ∧
    TokenStream.next? ⟨"\"a\"\"\"&".toList, 4⟩ =
      some (.ok ⟨.literal (.text "a\""), "\"a\"\"\"", 4⟩, ⟨['&'], 9⟩) ∧
    TokenStream.next? ⟨"\u00a0\"a\"\"".toList, 4⟩ =
      some (.error ⟨.unterminatedString, "\"", 6⟩, ⟨[], 7⟩) := by
  obtain ⟨hread, htext, hnext⟩ := quoted_text_codec
  have htoken : .ok ⟨.literal (.text "é\"b"), "\"é\"\"b\"", 3⟩ ∈ tokenize "=1&\"é\"\"b\"" :=
    mem_of_mem_tokensOf (by decide +kernel)
  refine ⟨(hread "\"\"a").2.2, htoken, htext _ _ _ htoken rfl, ?_, ?_⟩
  · exact (hnext [] "a\"\"\"&".toList 4 rfl).1 "a\"" ['&'] ⟨rfl, by decide⟩
  · refine (hnext ['\u00a0'] "a\"\"".toList 4 (by decide)).2.mpr ?_
    rintro ⟨s, rest, hhead⟩
    exact Quoted.scan_eq_none_iff.mp rfl s rest hhead

end CellFormula
