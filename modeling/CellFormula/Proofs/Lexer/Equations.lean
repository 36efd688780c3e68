import CellFormula.Token.Stream

/-! # Steps of a token stream

What one call for the next token takes from the text, and the items that repeated calls give.
-/

namespace CellFormula

/-! ## Lengths in bytes -/

theorem byteLength_eq_utf8ByteSize (cs : List Char) :
    byteLength cs = (String.ofList cs).utf8ByteSize := by
  induction cs with
  | nil => rfl
  | cons c cs ih =>
      rw [String.ofList_cons, String.utf8ByteSize_append, String.utf8ByteSize_singleton, ← ih]
      rfl

theorem byteLength_append (cs ds : List Char) :
    byteLength (cs ++ ds) = byteLength cs + byteLength ds := by
  simp only [byteLength_eq_utf8ByteSize, String.ofList_append, String.utf8ByteSize_append]

theorem byteLength_toList (s : String) : byteLength s.toList = s.utf8ByteSize := by
  rw [byteLength_eq_utf8ByteSize, String.ofList_toList]

namespace TokenStream

/-! ## The next item -/

theorem next?_eq_none_iff (stream : TokenStream) :
    stream.next? = none ↔ stream.rest.all Unicode.isWhiteSpace = true := by
  have hsplit := List.takeWhile_append_dropWhile (p := Unicode.isWhiteSpace) (l := stream.rest)
  have hhead := List.head?_dropWhile_not Unicode.isWhiteSpace stream.rest
  simp only [next?]
  split
  · rename_i hdrop
    rw [hdrop, List.append_nil] at hsplit
    rw [← hsplit, List.all_takeWhile]
    simp
  · rename_i c cs hdrop
    have hblack : Unicode.isWhiteSpace c = false := by
      rw [hdrop] at hhead
      exact hhead
    have hall : ¬ stream.rest.all Unicode.isWhiteSpace = true := by
      rw [← hsplit, hdrop]
      simp [hblack]
    split <;> simp [hall]

/-- A step takes white space and then a lexeme; behind an error nothing is left to read. -/
theorem next?_cases {stream after : TokenStream} {item : TokenItem}
    (h : stream.next? = some (item, after)) :
    ∃ gap c cs, stream.rest = gap ++ c :: cs ∧ gap.all Unicode.isWhiteSpace = true ∧
      Unicode.isWhiteSpace c = false ∧
      let lexeme := Lexeme.ofChars c cs
      let taken := (c :: cs).take lexeme.length
      let start := stream.offset + byteLength gap
      (∃ kind, lexeme.outcome = .ok kind ∧
        item = .ok ⟨kind, String.ofList taken, start⟩ ∧
        after = ⟨(c :: cs).drop lexeme.length, start + byteLength taken⟩) ∨
      (∃ fault, lexeme.outcome = .error fault ∧
        item = .error ⟨fault, String.ofList taken, start⟩ ∧
        after = ⟨[], start + byteLength taken⟩) := by
  simp only [next?] at h
  split at h
  · cases h
  · rename_i c cs hdrop
    refine ⟨stream.rest.takeWhile Unicode.isWhiteSpace, c, cs, ?_, List.all_takeWhile, ?_, ?_⟩
    · rw [← hdrop, List.takeWhile_append_dropWhile]
    · have hhead := List.head?_dropWhile_not Unicode.isWhiteSpace stream.rest
      rw [hdrop] at hhead
      exact hhead
    · split at h
      · rename_i kind houtcome
        cases h
        exact .inl ⟨kind, houtcome, rfl, rfl⟩
      · rename_i fault houtcome
        cases h
        exact .inr ⟨fault, houtcome, rfl, rfl⟩

/-! ## All items -/

theorem items_of_next?_eq_none {stream : TokenStream} (h : stream.next? = none) :
    stream.items = [] := by
  rw [items]
  split
  · rfl
  · rename_i item after h'
    rw [h] at h'
    cases h'

theorem items_of_next?_eq_some {stream after : TokenStream} {item : TokenItem}
    (h : stream.next? = some (item, after)) : stream.items = item :: after.items := by
  rw [items]
  split
  · rename_i h'
    rw [h] at h'
    cases h'
  · rename_i item' after' h'
    rw [h] at h'
    cases h'
    rfl

/-- Induction along the calls that a stream answers with an item. -/
theorem steps_induction {motive : TokenStream → Prop}
    (done : ∀ stream, stream.next? = none → motive stream)
    (step : ∀ stream item after, stream.next? = some (item, after) → motive after → motive stream)
    (stream : TokenStream) : motive stream := by
  cases h : stream.next? with
  | none => exact done stream h
  | some p =>
      obtain ⟨item, after⟩ := p
      exact step stream item after h (steps_induction done step after)
termination_by stream.rest.length
decreasing_by exact length_rest_lt h

theorem items_length_le (stream : TokenStream) : stream.items.length ≤ stream.rest.length := by
  induction stream using steps_induction with
  | done stream h => simp [items_of_next?_eq_none h]
  | step stream item after h ih =>
      have hlt := length_rest_lt h
      rw [items_of_next?_eq_some h, List.length_cons]
      omega

/-- Every item is what a lexeme of the text is taken for. -/
theorem exists_lexeme_of_mem_items {stream : TokenStream} {item : TokenItem}
    (h : item ∈ stream.items) :
    ∃ c cs start,
      let lexeme := Lexeme.ofChars c cs
      let found := String.ofList ((c :: cs).take lexeme.length)
      (∃ kind, lexeme.outcome = .ok kind ∧ item = .ok ⟨kind, found, start⟩) ∨
      (∃ fault, lexeme.outcome = .error fault ∧ item = .error ⟨fault, found, start⟩) := by
  induction stream using steps_induction with
  | done stream hnext =>
      rw [items_of_next?_eq_none hnext] at h
      cases h
  | step stream first after hnext ih =>
      rw [items_of_next?_eq_some hnext] at h
      rcases List.mem_cons.mp h with rfl | h
      · obtain ⟨gap, c, cs, -, -, -, ⟨kind, hkind, hitem, -⟩ | ⟨fault, hfault, hitem, -⟩⟩ :=
          next?_cases hnext
        · exact ⟨c, cs, _, .inl ⟨kind, hkind, hitem⟩⟩
        · exact ⟨c, cs, _, .inr ⟨fault, hfault, hitem⟩⟩
      · exact ih h

/-! ## Repeated calls -/

/-- The stream behind a call for its next item. One that is at its end stays there. -/
def pull (stream : TokenStream) : TokenStream :=
  match stream.next? with
  | some (_, after) => after
  | none => stream

/-- The stream behind a number of calls. -/
def pulled (stream : TokenStream) : Nat → TokenStream
  | 0 => stream
  | n + 1 => stream.pull.pulled n

theorem pulled_of_next?_eq_none {stream : TokenStream} (h : stream.next? = none) (n : Nat) :
    stream.pulled n = stream := by
  have hpull : stream.pull = stream := by simp [pull, h]
  induction n with
  | zero => rfl
  | succ n ih => rw [pulled, hpull, ih]

/-- Repeated calls give the items in their order, and none behind the last. -/
theorem next?_pulled (stream : TokenStream) (n : Nat) :
    (stream.pulled n).next?.map Prod.fst = stream.items[n]? := by
  induction stream using steps_induction generalizing n with
  | done stream h => simp [pulled_of_next?_eq_none h, items_of_next?_eq_none h, h]
  | step stream item after h ih =>
      rw [items_of_next?_eq_some h]
      cases n with
      | zero => simp [pulled, h]
      | succ n =>
          have hpull : stream.pull = after := by simp [pull, h]
          rw [pulled, hpull, List.getElem?_cons_succ]
          exact ih n

/-! ## The start of the formula -/

/-- The text is white space, at most one `=`, and the part that is read. -/
theorem ofSource_cases (source : String) :
    ∃ lead, lead.all Unicode.isWhiteSpace = true ∧
      ((∃ body, source.toList = lead ++ '=' :: body ∧
          ofSource source = ⟨body, byteLength lead + 1⟩) ∨
        ∃ body, source.toList = lead ++ body ∧
          (∀ c ∈ body.head?, Unicode.isWhiteSpace c = false ∧ c ≠ '=') ∧
          ofSource source = ⟨body, byteLength lead⟩) := by
  refine ⟨source.toList.takeWhile Unicode.isWhiteSpace, List.all_takeWhile, ?_⟩
  have hsplit := List.takeWhile_append_dropWhile (p := Unicode.isWhiteSpace) (l := source.toList)
  have hhead := List.head?_dropWhile_not Unicode.isWhiteSpace source.toList
  simp only [ofSource]
  split
  · rename_i body hdrop
    rw [hdrop] at hsplit
    exact .inl ⟨body, hsplit.symm, rfl⟩
  · rename_i body hne
    refine .inr ⟨_, hsplit.symm, ?_, rfl⟩
    intro c hc
    rw [hc] at hhead
    refine ⟨hhead, ?_⟩
    rintro rfl
    obtain ⟨tail, htail⟩ := List.head?_eq_some_iff.mp hc
    exact hne tail htail

end TokenStream

end CellFormula
