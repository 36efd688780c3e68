import CellFormula.Proofs.Lexer.Equations

/-! # Tokens tile the formula

Every token is the piece of the text that stands at its position, and only white space stands
between two of them. All offsets count bytes.
-/

namespace CellFormula

/-! ## Pieces of a text -/

/-- The piece stands in the source at the offset, which lies between two characters. -/
def StandsAt (source piece : String) (offset : Nat) : Prop :=
  ∃ before after, source = before ++ piece ++ after ∧ before.utf8ByteSize = offset

def IsBlank (s : String) : Prop :=
  s.toList.all Unicode.isWhiteSpace = true

/-- Only white space stands between the two offsets. -/
def BlankBetween (source : String) (start stop : Nat) : Prop :=
  ∃ gap, IsBlank gap ∧ StandsAt source gap start ∧ start + gap.utf8ByteSize = stop

theorem standsAt_of_toList {source : String} {before piece after : List Char}
    (h : source.toList = before ++ piece ++ after) :
    StandsAt source (String.ofList piece) (byteLength before) := by
  refine ⟨String.ofList before, String.ofList after, ?_, ?_⟩
  · rw [← String.ofList_append, ← String.ofList_append, ← h, String.ofList_toList]
  · exact (byteLength_eq_utf8ByteSize before).symm

theorem blankBetween_of_toList {source : String} {before gap after : List Char}
    (h : source.toList = before ++ gap ++ after) (hgap : gap.all Unicode.isWhiteSpace = true) :
    BlankBetween source (byteLength before) (byteLength before + byteLength gap) := by
  refine ⟨String.ofList gap, ?_, standsAt_of_toList h, ?_⟩
  · rw [IsBlank, String.toList_ofList]
    exact hgap
  · rw [byteLength_eq_utf8ByteSize gap]

theorem StandsAt.add_le {source piece : String} {offset : Nat} (h : StandsAt source piece offset) :
    offset + piece.utf8ByteSize ≤ source.utf8ByteSize := by
  obtain ⟨before, after, rfl, rfl⟩ := h
  simp only [String.utf8ByteSize_append]
  omega

theorem BlankBetween.le {source : String} {start stop : Nat} (h : BlankBetween source start stop) :
    start ≤ stop := by
  obtain ⟨gap, -, -, rfl⟩ := h
  exact Nat.le_add_right _ _

/-! ## Tilings -/

/-- Where the formula proper starts: behind white space and one `=` if there is one. -/
def IsBodyStart (source : String) (start : Nat) : Prop :=
  ∃ lead body, IsBlank lead ∧
    ((source = lead ++ "=" ++ body ∧ start = lead.utf8ByteSize + 1) ∨
      (source = lead ++ body ∧ start = lead.utf8ByteSize ∧
        ∀ c ∈ body.toList.head?, Unicode.isWhiteSpace c = false ∧ c ≠ '='))

/-- A piece that is not empty, with nothing but white space before it from the start. -/
structure IsTile (source : String) (start : Nat) (piece : String) (position : Nat) : Prop where
  gap : BlankBetween source start position
  stands : StandsAt source piece position
  nonempty : piece ≠ ""

/-- The offset right behind a token. -/
def Token.stop (token : Token) : Nat :=
  token.position + token.text.utf8ByteSize

/-- From the start on, the items are tiles with white space between them. An error is the last of
them; without one, white space follows up to the end of the source. -/
def Tiles (source : String) (start : Nat) : List TokenItem → Prop
  | [] => BlankBetween source start source.utf8ByteSize
  | .ok token :: items =>
    IsTile source start token.text token.position ∧ Tiles source token.stop items
  | .error e :: items => IsTile source start e.found e.position ∧ items = []

/-- The tokens among some items. -/
def tokensOf (items : List TokenItem) : List Token :=
  items.filterMap Except.toOption

@[simp] theorem tokensOf_nil : tokensOf [] = [] := rfl

@[simp] theorem tokensOf_ok_cons (token : Token) (items : List TokenItem) :
    tokensOf (.ok token :: items) = token :: tokensOf items := rfl

@[simp] theorem tokensOf_error_cons (e : LexError) (items : List TokenItem) :
    tokensOf (.error e :: items) = tokensOf items := rfl

theorem mem_of_mem_tokensOf {token : Token} {items : List TokenItem} (h : token ∈ tokensOf items) :
    .ok token ∈ items := by
  obtain ⟨item, hitem, htoken⟩ := List.mem_filterMap.mp h
  cases item with
  | ok token' =>
      cases htoken
      exact hitem
  | error e => cases htoken

/-- The text of an item, which for an error is what was found. -/
def TokenItem.text : TokenItem → String
  | .ok token => token.text
  | .error e => e.found

def TokenItem.position : TokenItem → Nat
  | .ok token => token.position
  | .error e => e.position

theorem IsTile.start_le {source piece : String} {start position : Nat}
    (h : IsTile source start piece position) : start ≤ position :=
  h.gap.le

theorem IsTile.position_lt {source piece : String} {start position : Nat}
    (h : IsTile source start piece position) : position < source.utf8ByteSize := by
  have hle := h.stands.add_le
  have hpos : piece.utf8ByteSize ≠ 0 := mt String.utf8ByteSize_eq_zero_iff.mp h.nonempty
  omega

/-- Each item is a tile somewhere behind the start. -/
theorem Tiles.exists_isTile {source : String} {items : List TokenItem} {start : Nat}
    {item : TokenItem} (h : Tiles source start items) (hitem : item ∈ items) :
    ∃ behind, start ≤ behind ∧ IsTile source behind item.text item.position := by
  induction items generalizing start with
  | nil => cases hitem
  | cons first items ih =>
      cases first with
      | error e =>
          obtain ⟨htile, rfl⟩ := h
          cases List.mem_singleton.mp hitem
          exact ⟨start, Nat.le_refl _, htile⟩
      | ok token =>
          obtain ⟨htile, hrest⟩ := h
          rcases List.mem_cons.mp hitem with rfl | hitem
          · exact ⟨start, Nat.le_refl _, htile⟩
          · obtain ⟨behind, hstop, htile'⟩ := ih hrest hitem
            have hstart := htile.start_le
            simp only [Token.stop] at hstop
            exact ⟨behind, by omega, htile'⟩

theorem Tiles.start_le_position {source : String} {items : List TokenItem} {start : Nat}
    (h : Tiles source start items) : ∀ token ∈ tokensOf items, start ≤ token.position := by
  intro token htoken
  obtain ⟨behind, hbehind, htile⟩ := h.exists_isTile (mem_of_mem_tokensOf htoken)
  exact Nat.le_trans hbehind htile.start_le

/-- The tokens of a tiling stand one behind the other. -/
theorem Tiles.pairwise_stop_le {source : String} {items : List TokenItem} {start : Nat}
    (h : Tiles source start items) :
    (tokensOf items).Pairwise fun earlier later => earlier.stop ≤ later.position := by
  induction items generalizing start with
  | nil => simp
  | cons item items ih =>
      cases item with
      | error e =>
          obtain ⟨-, rfl⟩ := h
          simp
      | ok token => exact List.pairwise_cons.mpr ⟨h.2.start_le_position, ih h.2⟩

theorem Tiles.error_position_lt {source : String} {items : List TokenItem} {start : Nat}
    (h : Tiles source start items) {e : LexError} (he : .error e ∈ items) :
    e.position < source.utf8ByteSize := by
  obtain ⟨behind, -, htile⟩ := h.exists_isTile he
  exact htile.position_lt

/-! ## Streams on a source -/

/-- The stream is at a place of the source: what is left to read stands there. -/
def TokenStream.IsOn (stream : TokenStream) (source : String) : Prop :=
  ∃ before, source.toList = before ++ stream.rest ∧ byteLength before = stream.offset

namespace TokenStream

/-- One step takes a tile. A token leaves the stream on the source, right behind it. -/
theorem IsOn.tile_of_next? {stream after : TokenStream} {source : String} {item : TokenItem}
    (hon : stream.IsOn source) (h : stream.next? = some (item, after)) :
    (∃ token, item = .ok token ∧ IsTile source stream.offset token.text token.position ∧
        after.IsOn source ∧ after.offset = token.stop) ∨
      ∃ e, item = .error e ∧ IsTile source stream.offset e.found e.position ∧ after.rest = [] := by
  obtain ⟨before, hsource, hoffset⟩ := hon
  obtain ⟨gap, c, cs, hrest, hgap, -, hitem⟩ := next?_cases h
  have hpos := Lexeme.ofChars_length_pos c cs
  generalize Lexeme.ofChars c cs = lexeme at hpos hitem
  have hcut : source.toList =
      before ++ gap ++ (c :: cs).take lexeme.length ++ (c :: cs).drop lexeme.length := by
    rw [hsource, hrest, List.append_assoc, List.append_assoc, List.take_append_drop]
  have hne : String.ofList ((c :: cs).take lexeme.length) ≠ "" := by
    obtain ⟨n, hn⟩ := Nat.exists_eq_add_of_lt hpos
    rw [hn]
    simp
  have htile : IsTile source stream.offset (String.ofList ((c :: cs).take lexeme.length))
      (stream.offset + byteLength gap) := by
    refine ⟨?_, ?_, hne⟩
    · rw [← hoffset]
      exact blankBetween_of_toList (hcut.trans (List.append_assoc _ _ _)) hgap
    · rw [← hoffset, ← byteLength_append]
      exact standsAt_of_toList hcut
  rcases hitem with ⟨kind, -, rfl, rfl⟩ | ⟨fault, -, rfl, rfl⟩
  · refine .inl ⟨_, rfl, htile, ⟨_, hcut, ?_⟩, ?_⟩
    · simp only [byteLength_append]
      omega
    · simp only [Token.stop, byteLength_eq_utf8ByteSize]
  · exact .inr ⟨_, rfl, htile, rfl⟩

/-- The items of a stream tile the source from where the stream is. -/
theorem IsOn.tiles_items {stream : TokenStream} {source : String} (hon : stream.IsOn source) :
    Tiles source stream.offset stream.items := by
  induction stream using steps_induction with
  | done stream h =>
      obtain ⟨before, hsource, hoffset⟩ := hon
      have hblank := (next?_eq_none_iff stream).mp h
      have hsize : byteLength before + byteLength stream.rest = source.utf8ByteSize := by
        rw [← byteLength_append, ← hsource, byteLength_toList]
      rw [items_of_next?_eq_none h, Tiles, ← hoffset, ← hsize]
      exact blankBetween_of_toList (hsource.trans (List.append_nil _).symm) hblank
  | step stream item after h ih =>
      rw [items_of_next?_eq_some h]
      rcases hon.tile_of_next? h with ⟨token, rfl, htile, hafter, hstop⟩ | ⟨e, rfl, htile, hrest⟩
      · refine ⟨htile, ?_⟩
        rw [← hstop]
        exact ih hafter
      · -- Behind an error the stream is off the source, so that `ih` says nothing about it.
        have hend : after.next? = none := by simp [next?_eq_none_iff, hrest]
        exact ⟨htile, items_of_next?_eq_none hend⟩

theorem isOn_ofSource (source : String) : (ofSource source).IsOn source := by
  obtain ⟨lead, -, ⟨body, hsource, hstream⟩ | ⟨body, hsource, -, hstream⟩⟩ := ofSource_cases source
  · refine ⟨lead ++ ['='], ?_, ?_⟩
    · simp [hstream, hsource]
    · rw [hstream, byteLength_append]
      rfl
  · exact ⟨lead, by rw [hstream]; exact hsource, by rw [hstream]⟩

theorem isBodyStart_ofSource (source : String) :
    IsBodyStart source (ofSource source).offset := by
  obtain ⟨lead, hlead, hcases⟩ := ofSource_cases source
  have hblank : IsBlank (String.ofList lead) := by rw [IsBlank, String.toList_ofList, hlead]
  rcases hcases with ⟨body, hsource, hstream⟩ | ⟨body, hsource, hhead, hstream⟩
  · refine ⟨String.ofList lead, String.ofList body, hblank, .inl ⟨?_, ?_⟩⟩
    · rw [← String.toList_inj, hsource]
      simp
    · rw [hstream, byteLength_eq_utf8ByteSize]
  · refine ⟨String.ofList lead, String.ofList body, hblank, .inr ⟨?_, ?_, ?_⟩⟩
    · rw [← String.toList_inj, hsource]
      simp
    · rw [hstream, byteLength_eq_utf8ByteSize]
    · rw [String.toList_ofList]
      exact hhead

theorem length_rest_ofSource_le (source : String) :
    (ofSource source).rest.length ≤ source.length := by
  obtain ⟨before, hsource, -⟩ := isOn_ofSource source
  rw [← String.length_toList, hsource, List.length_append]
  exact Nat.le_add_left _ _

end TokenStream

/-- From the start of the formula to the first token, between tokens and behind the last one there
is only white space, or up to the error that ends them. Repeated calls give the items one by one
and nothing behind them. -/
theorem tokenize_tiles (source : String) :
    ∃ start, IsBodyStart source start ∧ Tiles source start (tokenize source) ∧
      ((tokensOf (tokenize source)).Pairwise fun earlier later =>
        earlier.stop ≤ later.position) ∧
      (∀ e, .error e ∈ tokenize source → e.position < source.utf8ByteSize) ∧
      (∀ n, ((TokenStream.ofSource source).pulled n).next?.map Prod.fst =
        (tokenize source)[n]?) ∧
      (tokenize source).length ≤ source.length := by
  have htiles := (TokenStream.isOn_ofSource source).tiles_items
  refine ⟨(TokenStream.ofSource source).offset, TokenStream.isBodyStart_ofSource source, htiles,
    htiles.pairwise_stop_le, ?_, TokenStream.next?_pulled _, ?_⟩
  · intro e he
    exact htiles.error_position_lt he
  · have hitems := TokenStream.items_length_le (TokenStream.ofSource source)
    exact Nat.le_trans hitems (TokenStream.length_rest_ofSource_le source)

end CellFormula
