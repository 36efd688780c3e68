import CellFormula.Token.Lexeme

/-! # The tokens of a formula, one after the other -/

namespace CellFormula

/-- The length of a text in bytes. -/
def byteLength (cs : List Char) : Nat :=
  cs.foldr (fun c n => c.utf8Size + n) 0

/-- The part of a formula that is still to be read, and its byte offset. -/
structure TokenStream where
  rest : List Char
  offset : Nat
deriving DecidableEq, Repr

namespace TokenStream

/-- A formula starts behind leading white space and one optional `=`. -/
def ofSource (source : String) : TokenStream :=
  let offset := byteLength (source.toList.takeWhile Unicode.isWhiteSpace)
  match source.toList.dropWhile Unicode.isWhiteSpace with
  | '=' :: body => ⟨body, offset + 1⟩
  | body => ⟨body, offset⟩

/-- The next token and what follows it. Nothing follows an error. -/
def next? (stream : TokenStream) : Option (TokenItem × TokenStream) :=
  let start := stream.offset + byteLength (stream.rest.takeWhile Unicode.isWhiteSpace)
  match stream.rest.dropWhile Unicode.isWhiteSpace with
  | [] => none
  | c :: cs =>
    let lexeme := Lexeme.ofChars c cs
    let taken := (c :: cs).take lexeme.length
    let text := String.ofList taken
    match lexeme.outcome with
    | .ok kind =>
      some (.ok ⟨kind, text, start⟩, ⟨(c :: cs).drop lexeme.length, start + byteLength taken⟩)
    | .error fault => some (.error ⟨fault, text, start⟩, ⟨[], start + byteLength taken⟩)

theorem length_dropWhile_le (p : Char → Bool) (cs : List Char) :
    (cs.dropWhile p).length ≤ cs.length :=
  (List.dropWhile_suffix p).length_le

/-- Reading a token leaves less to read. -/
theorem length_rest_lt {stream after : TokenStream} {item : TokenItem}
    (h : stream.next? = some (item, after)) : after.rest.length < stream.rest.length := by
  simp only [next?] at h
  have hle := length_dropWhile_le Unicode.isWhiteSpace stream.rest
  split at h
  · simp at h
  · rename_i c cs hdrop
    rw [hdrop] at hle
    have hpos := Lexeme.ofChars_length_pos c cs
    simp only [List.length_cons] at hle
    split at h
    · simp only [Option.some.injEq, Prod.mk.injEq] at h
      obtain ⟨-, rfl⟩ := h
      simp only [List.length_drop, List.length_cons]
      omega
    · simp only [Option.some.injEq, Prod.mk.injEq] at h
      obtain ⟨-, rfl⟩ := h
      simp only [List.length_nil]
      omega

/-- All tokens that are left, and the error that ends them if there is one. -/
def items (stream : TokenStream) : List TokenItem :=
  match _h : stream.next? with
  | none => []
  | some (item, after) => item :: after.items
termination_by stream.rest.length
decreasing_by exact length_rest_lt ‹_›

end TokenStream

/-- The tokens of a formula. -/
def tokenize (source : String) : List TokenItem :=
  (TokenStream.ofSource source).items

end CellFormula
