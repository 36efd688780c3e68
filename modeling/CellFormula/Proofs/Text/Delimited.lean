import CellFormula.Proofs.Lexer.Numerals
import Mathlib

/-! # Texts that show where they end

A text comes apart from what follows it if a reader takes it from the head of any other text, if no
text of its kind starts with another, or if it stands before a mark that it does not contain.
-/

namespace CellFormula

section Delimits

variable {α : Type} {text : α → List Char} {P : α → Prop}

/-- If the text of `a` and that of another one, each with something behind it, are the same text,
then it was the same one with the same behind it. -/
def Delimits (text : α → List Char) (P : α → Prop) (a : α) : Prop :=
  ∀ b, P b → ∀ rest rest', text a ++ rest = text b ++ rest' → a = b ∧ rest = rest'

/-- A text that a reader takes from the head of any other. -/
theorem delimits_of_read {read : List Char → Option (α × List Char)}
    (hread : ∀ a rest, P a → read (text a ++ rest) = some (a, rest)) {a : α} (ha : P a) :
    Delimits text P a := by
  intro b hb rest rest' h
  have hsame : some (a, rest) = some (b, rest') := by rw [← hread a rest ha, h, hread b rest' hb]
  simpa using hsame

/-- Texts of which none starts with another. -/
theorem delimits_of_starts (hstarts : ∀ a b, text a <+: text b → a = b) (a : α) :
    Delimits text P a := by
  intro b _ rest rest' h
  have ha : text a <+: text a ++ rest := ⟨rest, rfl⟩
  have hb : text b <+: text a ++ rest := ⟨rest', h.symm⟩
  have heq : a = b := by
    rcases List.prefix_or_prefix_of_prefix ha hb with hab | hba
    · exact hstarts a b hab
    · exact (hstarts b a hba).symm
  subst heq
  exact ⟨rfl, List.append_cancel_left h⟩

/-- Texts in a row come apart, up to a character that starts none of them. -/
theorem eq_of_flatMap_append_cons {stop : Char} (hstart : ∀ a, ∃ c cs, text a = c :: cs ∧ c ≠ stop)
    {as bs : List α} (has : ∀ a ∈ as, Delimits text P a) (hbs : ∀ b ∈ bs, P b)
    {rest rest' : List Char}
    (h : as.flatMap text ++ stop :: rest = bs.flatMap text ++ stop :: rest') :
    as = bs ∧ rest = rest' := by
  induction as generalizing bs with
  | nil =>
      cases bs with
      | nil => simpa using h
      | cons b bs =>
          obtain ⟨c, cs, htext, hne⟩ := hstart b
          simp [htext, hne.symm] at h
  | cons a as ih =>
      cases bs with
      | nil =>
          obtain ⟨c, cs, htext, hne⟩ := hstart a
          simp [htext, hne] at h
      | cons b bs =>
          rw [List.forall_mem_cons] at has hbs
          rw [List.flatMap_cons, List.flatMap_cons, List.append_assoc, List.append_assoc] at h
          obtain ⟨rfl, htail⟩ := has.1 b hbs.1 _ _ h
          obtain ⟨rfl, rfl⟩ := ih has.2 hbs.2 htail
          exact ⟨rfl, rfl⟩

end Delimits

/-! ## Escapes -/

section Escapes

variable {escape : Char → List Char} {short : List (Char × Char)}
  {readCode : List Char → Option (Char × List Char)}

/-- The first character of an escaped text, and what follows it. Behind a backslash stands the
letter of a character, or a `u` and its code. -/
def unescape (short : List (Char × Char)) (readCode : List Char → Option (Char × List Char)) :
    List Char → Option (Char × List Char)
  | [] => none
  | c :: cs =>
    if c = '\\' then
      match cs with
      | [] => none
      | d :: ds =>
        if d = 'u' then readCode ds
        else (short.find? (·.2 == d)).map fun p => (p.1, ds)
    else some (c, cs)

/-- Every character has a letter of its own, is escaped by its code, or stands for itself. -/
structure Escapes (escape : Char → List Char) (short : List (Char × Char))
    (readCode : List Char → Option (Char × List Char)) : Prop where
  letters : ('u' :: short.map Prod.snd).Nodup
  cases (c : Char) :
    (∃ d, (c, d) ∈ short ∧ escape c = ['\\', d]) ∨
    (∃ code, escape c = '\\' :: 'u' :: code ∧ ∀ rest, readCode (code ++ rest) = some (c, rest)) ∨
    (c ≠ '"' ∧ c ≠ '\\' ∧ escape c = [c])

namespace Escapes

theorem find?_letter (h : Escapes escape short readCode) {c d : Char} (hmem : (c, d) ∈ short) :
    d ≠ 'u' ∧ short.find? (·.2 == d) = some (c, d) := by
  obtain ⟨hu, hnodup⟩ := List.nodup_cons.mp h.letters
  refine ⟨fun heq => hu (heq ▸ List.mem_map_of_mem hmem), ?_⟩
  have hsome : (short.find? (·.2 == d)).isSome := List.find?_isSome.mpr ⟨(c, d), hmem, by simp⟩
  obtain ⟨p, hfind⟩ := Option.isSome_iff_exists.mp hsome
  have hletter : p.2 = d := by simpa using List.find?_some hfind
  have hsame := List.inj_on_of_nodup_map hnodup (List.mem_of_find?_eq_some hfind) hmem hletter
  rw [hfind, hsame]

theorem unescape_escape (h : Escapes escape short readCode) (c : Char) (rest : List Char) :
    unescape short readCode (escape c ++ rest) = some (c, rest) := by
  obtain ⟨d, hmem, heq⟩ | ⟨code, heq, hcode⟩ | ⟨-, hbackslash, heq⟩ := h.cases c
  · obtain ⟨hu, hfind⟩ := h.find?_letter hmem
    simp [heq, unescape, hu, hfind]
  · simp [heq, unescape, hcode]
  · simp [heq, unescape, hbackslash]

/-- No character is escaped to something that looks like the end of the text. -/
theorem exists_eq_cons (h : Escapes escape short readCode) (c : Char) :
    ∃ d ds, escape c = d :: ds ∧ d ≠ '"' := by
  obtain ⟨d, -, heq⟩ | ⟨code, heq, -⟩ | ⟨hquote, -, heq⟩ := h.cases c
  · exact ⟨'\\', _, heq, by decide⟩
  · exact ⟨'\\', _, heq, by decide⟩
  · exact ⟨c, _, heq, hquote⟩

/-- An escaped text ends at the first quote that is no part of an escape. -/
theorem eq_of_append (h : Escapes escape short readCode) {s t : String} {rest rest' : List Char}
    (heq : s.toList.flatMap escape ++ '"' :: rest = t.toList.flatMap escape ++ '"' :: rest') :
    s = t ∧ rest = rest' := by
  have hdelimits (c : Char) : Delimits escape (fun _ => True) c :=
    delimits_of_read (fun c rest _ => h.unescape_escape c rest) trivial
  obtain ⟨hsame, hrest⟩ := eq_of_flatMap_append_cons h.exists_eq_cons (fun c _ => hdelimits c)
    (fun _ _ => trivial) heq
  exact ⟨String.toList_inj.mp hsame, hrest⟩

end Escapes

end Escapes

/-! ## Marks between texts -/

variable {xs xs' rest rest' : List Char}

/-- A text without the mark ends at the first one. -/
theorem eq_of_append_first {mark : Char} (hxs : mark ∉ xs) (hxs' : mark ∉ xs')
    (h : xs ++ mark :: rest = xs' ++ mark :: rest') : xs = xs' ∧ rest = rest' := by
  have hall {ys : List Char} (hys : mark ∉ ys) : ys.all (· != mark) = true := by
    simpa using fun c hc (heq : c = mark) => hys (heq ▸ hc)
  have hends (cs : List Char) : Ends (· != mark) (mark :: cs) := ends_cons.mpr (by simp)
  have htext := congrArg (List.takeWhile (· != mark)) h
  rw [takeWhile_append_of_ends (hall hxs) (hends rest),
    takeWhile_append_of_ends (hall hxs') (hends rest')] at htext
  exact ⟨htext, by simpa [htext] using h⟩

/-- Whatever stands before the last mark comes apart from what stands behind it. -/
theorem eq_of_append_last {c : Char} {mark : List Char} (hrest : ¬ c :: mark <:+: mark ++ rest)
    (hrest' : ¬ c :: mark <:+: mark ++ rest')
    (h : xs ++ c :: (mark ++ rest) = xs' ++ c :: (mark ++ rest')) : xs = xs' ∧ rest = rest' := by
  -- If one mark stood before the other, it would be found again behind the head of the first.
  have hmark (before : List Char) (cs : List Char) :
      c :: mark <:+: before ++ c :: (mark ++ cs) :=
    ⟨before, cs, by simp⟩
  rcases List.append_eq_append_iff.mp h with ⟨as, rfl, has⟩ | ⟨as, rfl, has⟩
  · cases as with
    | nil => simpa using has
    | cons a as =>
        obtain ⟨-, htail⟩ := List.cons.inj has
        exact absurd (htail ▸ hmark as rest') hrest
  · cases as with
    | nil => simpa using has.symm
    | cons a as =>
        obtain ⟨-, htail⟩ := List.cons.inj has
        exact absurd (htail ▸ hmark as rest) hrest'

/-! ## Digits -/

theorem exists_digitChar_of_mem_toDigits {b n : Nat} (hb : 1 < b) {c : Char}
    (h : c ∈ Nat.toDigits b n) : ∃ k < b, c = Nat.digitChar k := by
  induction n using Nat.strongRecOn with
  | ind n ih =>
      rw [Nat.toDigits_eq_if hb] at h
      split at h
      · rename_i hlt
        exact ⟨n, hlt, List.mem_singleton.mp h⟩
      · rename_i hge
        rcases List.mem_append.mp h with hmem | hmem
        · exact ih (n / b) (Nat.div_lt_self (by omega) hb) hmem
        · exact ⟨n % b, Nat.mod_lt _ (by omega), List.mem_singleton.mp hmem⟩

/-- The value of a hexadecimal digit. -/
def hexValue (c : Char) : Nat :=
  if c.isDigit then c.toNat - '0'.toNat else c.toNat - 'a'.toNat + 10

theorem hexValue_digitChar {n : Nat} (h : n < 16) : hexValue (Nat.digitChar n) = n := by
  revert n
  decide

/-- The number that hexadecimal digits write. -/
def ofHexDigits (ds : List Char) : Nat :=
  ds.foldl (fun n d => 16 * n + hexValue d) 0

theorem ofHexDigits_toDigits (n : Nat) : ofHexDigits (Nat.toDigits 16 n) = n := by
  induction n using Nat.strongRecOn with
  | ind n ih =>
      rw [Nat.toDigits_eq_if (by decide)]
      split
      · rename_i hlt
        simp [ofHexDigits, hexValue_digitChar hlt]
      · rename_i hge
        have hhigh := ih (n / 16) (Nat.div_lt_self (by omega) (by decide))
        rw [ofHexDigits] at hhigh ⊢
        rw [List.foldl_append, hhigh, List.foldl_cons, List.foldl_nil,
          hexValue_digitChar (Nat.mod_lt _ (by decide)), Nat.div_add_mod]

end CellFormula
