import CellFormula.CommandLine
import CellFormula.Proofs.Text.Delimited
import CellFormula.Proofs.Value.NumberText

/-! # Listings of tokens

A line shows the position of a token, its text and its form. The text is escaped, so that the quote
behind it is told from those in it, and the form is all that is left of the line. So no two tokens
have the same line.
-/

namespace CellFormula

/-! ## Texts with escapes -/

namespace Escaped

/-- The characters with a letter of their own behind the backslash. -/
def shortEscapes : List (Char × Char) :=
  [('\x00', '0'), ('\t', 't'), ('\n', 'n'), ('\r', 'r'), ('"', '"'), ('\\', '\\')]

/-- A code is written in hexadecimal digits between braces. -/
def readCode : List Char → Option (Char × List Char)
  | '\x7b' :: cs =>
    let digits := cs.takeWhile (· != '\x7d')
    some (Char.ofNat (ofHexDigits digits), cs.drop (digits.length + 1))
  | _ => none

theorem brace_notMem_toDigits (n : Nat) : '\x7d' ∉ Nat.toDigits 16 n := by
  intro hmem
  obtain ⟨k, hk, heq⟩ := exists_digitChar_of_mem_toDigits (by decide) hmem
  revert k
  decide

theorem readCode_digits (c : Char) (rest : List Char) :
    readCode ('\x7b' :: (Nat.toDigits 16 c.toNat ++ ['\x7d']) ++ rest) = some (c, rest) := by
  have hdigits : (Nat.toDigits 16 c.toNat).all (· != '\x7d') = true := by
    simpa using fun d hd (heq : d = '\x7d') => brace_notMem_toDigits c.toNat (heq ▸ hd)
  have htake := takeWhile_append_of_ends hdigits (ends_cons.mpr (by decide) :
    Ends (· != '\x7d') ('\x7d' :: rest))
  simp only [readCode, List.cons_append, List.append_assoc, List.nil_append, htake]
  rw [ofHexDigits_toDigits, Char.ofNat_toNat, ← List.drop_drop, List.drop_left, List.drop_one,
    List.tail_cons]

theorem escapes_escape : Escapes escape shortEscapes readCode where
  letters := by decide
  cases c := by
    unfold escape
    -- The tests before the last one are for the characters with letters.
    iterate 6
      split
      · rename_i heq
        exact .inl ⟨_, by rw [heq]; decide, rfl⟩
    split
    · exact .inr (.inl ⟨_, rfl, readCode_digits c⟩)
    · rename_i hquote hbackslash _
      exact .inr (.inr ⟨hquote, hbackslash, rfl⟩)

end Escaped

/-! ## Forms of tokens -/

namespace TokenKind

/-- The kinds that have one form each: all but numbers and texts. -/
def fixed : List TokenKind :=
  [true, false].map (literal ∘ .boolean) ++ ErrorKind.all.map (literal ∘ .error) ++
    Operator.all.map operator ++ [leftParen, rightParen, leftBrace, rightBrace, comma]

theorem number_or_text_or_mem_fixed (kind : TokenKind) :
    (∃ x, kind = literal (.number x)) ∨ (∃ s, kind = literal (.text s)) ∨ kind ∈ fixed := by
  cases kind with
  | literal s =>
      cases s with
      | number x => exact .inl ⟨x, rfl⟩
      | text s => exact .inr (.inl ⟨s, rfl⟩)
      | boolean b => exact .inr (.inr (by cases b <;> decide))
      | error kind => exact .inr (.inr (by cases kind <;> decide))
  | operator op =>
      rcases op with op | _ | op
      · exact .inr (.inr (by cases op <;> decide))
      · exact .inr (.inr (by decide))
      · exact .inr (.inr (by cases op <;> decide))
  | _ => exact .inr (.inr (by decide))

theorem display_number_ne_text (x : Float) (s : String) :
    (literal (.number x)).display ≠ (literal (.text s)).display := by
  intro h
  have hquote : '"' ∈ (tokenNumber.write x).toList := by
    rw [show tokenNumber.write x = "\"" ++ s ++ "\"" from h]
    simp
  exact absurd (List.all_eq_true.mp (tokenNumber.all_isPart_write x) _ hquote) (by decide)

variable {kind kind' : TokenKind}

theorem display_number_ne_fixed {x : Float} (hx : x.isFinite = true) (hkind : kind ∈ fixed) :
    (literal (.number x)).display ≠ kind.display := by
  intro h
  have hnone : ∀ kind ∈ fixed, Numeral.ofText? kind.display = none := by decide +kernel
  have hread : Numeral.ofText? (tokenNumber.write x) = some x := NumberStyle.ofText?_write rfl hx
  rw [show tokenNumber.write x = kind.display from h, hnone kind hkind] at hread
  cases hread

theorem display_text_ne_fixed (s : String) (hkind : kind ∈ fixed) :
    (literal (.text s)).display ≠ kind.display := by
  intro h
  have hhead : ∀ kind ∈ fixed, kind.display.toList.head? ≠ some '"' := by decide +kernel
  apply hhead kind hkind
  rw [← h]
  simp [display]

/-- Kinds with finite numbers have different forms. -/
theorem eq_of_display_eq (hkind : kind.IsPlain) (hkind' : kind'.IsPlain)
    (h : kind.display = kind'.display) : kind = kind' := by
  have hnodup : (fixed.map display).Nodup := by decide +kernel
  rcases kind.number_or_text_or_mem_fixed with ⟨x, rfl⟩ | ⟨s, rfl⟩ | hfixed
  · rcases kind'.number_or_text_or_mem_fixed with ⟨y, rfl⟩ | ⟨t, rfl⟩ | hfixed'
    · have hsigned : tokenNumber.signedZero = true := rfl
      rw [NumberStyle.eq_of_write_eq hsigned hkind.1 hkind'.1 h]
    · exact absurd h (display_number_ne_text x t)
    · exact absurd h (display_number_ne_fixed hkind.1 hfixed')
  · rcases kind'.number_or_text_or_mem_fixed with ⟨y, rfl⟩ | ⟨t, rfl⟩ | hfixed'
    · exact absurd h.symm (display_number_ne_text y s)
    · simpa [display] using h
    · exact absurd h (display_text_ne_fixed s hfixed')
  · rcases kind'.number_or_text_or_mem_fixed with ⟨y, rfl⟩ | ⟨t, rfl⟩ | hfixed'
    · exact absurd h.symm (display_number_ne_fixed hkind'.1 hfixed)
    · exact absurd h.symm (display_text_ne_fixed t hfixed)
    · exact List.inj_on_of_nodup_map hnodup hfixed hfixed' h

end TokenKind

/-! ## Lines -/

namespace CommandLine

/-- No two tokens of formulas have the same line. -/
theorem tokenLine_inj {token token' : Token} (htoken : ∃ source, .ok token ∈ tokenize source)
    (htoken' : ∃ source, .ok token' ∈ tokenize source) (h : tokenLine token = tokenLine token') :
    token = token' := by
  have hplain {token : Token} (h : ∃ source, .ok token ∈ tokenize source) :
      token.kind.IsPlain := by
    obtain ⟨source, hsource⟩ := h
    exact (TokenStream.spells_of_mem_items hsource).isPlain
  have hchars (token : Token) : (tokenLine token).toList = token.position.repr.toList ++
      '\t' :: '"' :: (token.text.toList.flatMap Escaped.escape ++
        '"' :: '\t' :: token.kind.display.toList) := by
    simp [tokenLine, Escaped.quote]
  have htab (n : Nat) : '\t' ∉ n.repr.toList := by
    rw [Nat.toList_repr]
    intro hmem
    exact absurd (Nat.isDigit_of_mem_toDigits (by decide) (by decide) hmem) (by decide)
  have hlists := congrArg String.toList h
  rw [hchars, hchars] at hlists
  obtain ⟨hposition, hrest⟩ := eq_of_append_first (htab _) (htab _) hlists
  obtain ⟨htext, hform⟩ := Escaped.escapes_escape.eq_of_append (List.cons.inj hrest).2
  have hdisplay := String.toList_inj.mp (List.cons.inj hform).2
  have hkind := TokenKind.eq_of_display_eq (hplain htoken) (hplain htoken') hdisplay
  obtain ⟨kind, text, position⟩ := token
  obtain ⟨kind', text', position'⟩ := token'
  cases hkind
  cases htext
  cases Nat.repr_injective (String.toList_inj.mp hposition)
  rfl

end CommandLine

end CellFormula
