import CellFormula.Expr.Shape
import CellFormula.Proofs.Parser.Equations

/-! # Whatever the parser answers is written out by the tokens it passed

The invariant of every parser is `Reads`: it moved past the tokens of the expression and no others,
and the expression is canonical, holds together at least as tightly as the tier asks, and keeps to
the nesting that was left.
-/

namespace CellFormula

/-! ## Tokens passed -/

namespace Cursor

/-- From one cursor to the other, tokens of the given kinds are moved past, and nothing else. -/
structure Passes (before : Cursor) (kinds : List TokenKind) (after : Cursor) : Prop where
  tokens : ∃ ts : List Token, ts.map Token.kind = kinds ∧ before.ahead = ts.map .ok ++ after.ahead
  settled : before.Settled → after.Settled

theorem Passes.trans {a b c : Cursor} {ks ls : List TokenKind} (h : a.Passes ks b)
    (h' : b.Passes ls c) : a.Passes (ks ++ ls) c := by
  obtain ⟨ts, hts, ha⟩ := h.tokens
  obtain ⟨us, hus, hb⟩ := h'.tokens
  refine ⟨⟨ts ++ us, by simp [hts, hus], ?_⟩, fun hs => h'.settled (h.settled hs)⟩
  rw [ha, hb]
  simp

/-- One step passes the token looked at. -/
theorem passes_of_advance {cursor after : Cursor} {token? : Option Token} {token : Token}
    (h : Parser.advance.run cursor = .ok token? after) (hcurrent : cursor.current = some token) :
    cursor.Passes [token.kind] after := by
  obtain ⟨-, hsettled, hahead⟩ := Parser.run_advance_eq_ok h
  refine ⟨⟨[token], rfl, ?_⟩, fun _ => hsettled⟩
  rw [ahead_of_current hcurrent, hahead]
  rfl

end Cursor

/-! ## Elements written out -/

/-- A sign is written like one operator only. -/
theorem Operator.eq_of_sign? {op : Operator} {sign : Sign} (h : op.sign? = some sign) :
    op = sign.operator := by
  unfold sign? at h
  split at h <;> cases h <;> rfl

namespace Expr

theorem kindsEach_cons (e : Expr) (rest : List Expr) :
    kindsEach (e :: rest) = e.kinds ++ rest.flatMap fun e => .comma :: e.kinds := by
  induction rest generalizing e with
  | nil => simp [kindsEach]
  | cons e' rest ih =>
      rw [kindsEach, ih e']
      · simp
      · exact List.cons_ne_nil e' rest

theorem tier_le_six (e : Expr) : e.tier ≤ 6 := by
  cases e with
  | binary op left right => exact Nat.le_succ_of_le op.tier_le_five
  | _ => exact Nat.le_refl 6

theorem one_le_tier (e : Expr) : 1 ≤ e.tier := by
  cases e with
  | binary op left right => exact op.one_le_tier
  | _ => exact Nat.le_add_left 1 5

theorem exists_binary_of_tier_lt {e : Expr} (h : e.tier < 6) :
    ∃ op left right, e = binary op left right := by
  cases e with
  | binary op left right => exact ⟨op, left, right, rfl⟩
  | _ => exact absurd h (Nat.lt_irrefl 6)

theorem kinds_array_cons (e : Expr) (rest : List Expr) :
    (array (e :: rest)).kinds =
      .leftBrace :: (e.kinds ++ ((rest.flatMap fun e => .comma :: e.kinds) ++ [.rightBrace])) := by
  rw [kinds, kindsEach_cons, List.append_assoc]

end Expr

/-! ## The invariant of every parser -/

/-- An expression was read between two cursors. -/
structure Reads (tier depth : Nat) (before : Cursor) (e : Expr) (after : Cursor) : Prop where
  passes : before.Passes e.kinds after
  canonical : e.isCanonical = true
  tier_le : tier ≤ e.tier
  nesting_le : e.nesting ≤ depth

namespace Reads

variable {tier depth : Nat} {a b c d : Cursor}

theorem of_literal {s : Scalar} (h : a.Passes [.literal s] b) :
    Reads 6 depth a (.literal (.scalar s)) b where
  passes := by simpa [Expr.kinds] using h
  canonical := by rw [Expr.isCanonical]
  tier_le := Nat.le_refl 6
  nesting_le := by simp [Expr.nesting]

theorem of_sign {sign : Sign} {e : Expr} (hsign : a.Passes [.operator sign.operator] b)
    (h : Reads 6 depth b e c) : Reads 6 (depth + 1) a (.unary sign e) c where
  passes := by
    rw [Expr.kinds]
    exact hsign.trans h.passes
  canonical := by
    have htier : e.tier = 6 := Nat.le_antisymm (Expr.tier_le_six e) h.tier_le
    simp [Expr.isCanonical, h.canonical, htier]
  tier_le := Nat.le_refl 6
  nesting_le := by simpa [Expr.nesting] using h.nesting_le

/-- One more round hangs the chain so far to the left of its operator. -/
theorem binary {left right : Expr} {op : Operator} (hleft : Reads tier depth a left b)
    (hop : b.Passes [.operator op] c) (htier : op.tier = tier)
    (hright : Reads (tier + 1) depth c right d) :
    Reads tier depth a (.binary op left right) d where
  passes := by
    rw [Expr.kinds]
    exact hleft.passes.trans (hop.trans hright.passes)
  canonical := by
    have hloose : op.tier ≤ left.tier := htier ▸ hleft.tier_le
    have htight : op.tier < right.tier := htier ▸ hright.tier_le
    simp [Expr.isCanonical, hleft.canonical, hright.canonical, hloose, htight]
  tier_le := by simp [Expr.tier, htier]
  nesting_le := by
    rw [Expr.nesting]
    exact Nat.max_le.mpr ⟨hleft.nesting_le, hright.nesting_le⟩

theorem of_group {e : Expr} (hopen : a.Passes [.leftParen] b) (h : Reads tier depth b e c)
    (hclose : c.Passes [.rightParen] d) : Reads 6 (depth + 1) a (.group e) d where
  passes := by
    rw [Expr.kinds]
    exact hopen.trans (h.passes.trans hclose)
  canonical := by simpa [Expr.isCanonical] using h.canonical
  tier_le := Nat.le_refl 6
  nesting_le := by simpa [Expr.nesting] using h.nesting_le

end Reads

/-- The elements behind the first one were read between two cursors, with their commas and the
closing brace. -/
structure ReadsRest (depth : Nat) (before : Cursor) (es : List Expr) (after : Cursor) : Prop where
  passes : before.Passes ((es.flatMap fun e => .comma :: e.kinds) ++ [.rightBrace]) after
  canonical : ∀ e ∈ es, e.isCanonical = true
  nesting_le : ∀ e ∈ es, e.nesting ≤ depth

namespace ReadsRest

variable {depth tier : Nat} {a b c d : Cursor}

theorem nil (h : a.Passes [.rightBrace] b) : ReadsRest depth a [] b where
  passes := by simpa using h
  canonical := nofun
  nesting_le := nofun

theorem cons {e : Expr} {es : List Expr} (hcomma : a.Passes [.comma] b)
    (h : Reads tier depth b e c) (hrest : ReadsRest depth c es d) :
    ReadsRest depth a (e :: es) d where
  passes := by
    have hpasses := (hcomma.trans h.passes).trans hrest.passes
    simpa using hpasses
  canonical := List.forall_mem_cons.mpr ⟨h.canonical, hrest.canonical⟩
  nesting_le := List.forall_mem_cons.mpr ⟨h.nesting_le, hrest.nesting_le⟩

theorem array {e : Expr} {es : List Expr} (hopen : a.Passes [.leftBrace] b)
    (h : Reads tier depth b e c) (hrest : ReadsRest depth c es d) :
    Reads 6 (depth + 1) a (.array (e :: es)) d where
  passes := by
    rw [Expr.kinds_array_cons]
    exact hopen.trans (h.passes.trans hrest.passes)
  canonical := by
    simpa [Expr.isCanonical, Expr.areCanonical_eq_all, h.canonical] using hrest.canonical
  tier_le := Nat.le_refl 6
  nesting_le := by
    rw [Expr.nesting]
    exact Nat.succ_le_succ (Expr.nestingEach_le_iff.mpr
      (List.forall_mem_cons.mpr ⟨h.nesting_le, hrest.nesting_le⟩))

end ReadsRest

/-! ## The parsers keep the invariant -/

namespace Parser

/-- Every answer of the parser was read, with operators of the given tier and tighter ones outside
all nesting. -/
def Sound (tier depth : Nat) (p : Parser Expr) : Prop :=
  ∀ ⦃before e after⦄, p.run before = .ok e after → Reads tier depth before e after

variable {bound tier depth : Nat}

theorem sound_rounds {p : Parser Expr} (hp : Sound (tier + 1) depth p) {n : Nat} {left : Expr}
    {start before after : Cursor} {e : Expr} (hleft : Reads tier depth start left before)
    (h : (rounds tier p n left).run before = .ok e after) : Reads tier depth start e after := by
  induction n generalizing left before with
  | zero =>
      rw [run_rounds_zero] at h
      cases h
      exact hleft
  | succ n ih =>
      cases hop : before.operator? tier with
      | none =>
          rw [run_rounds_of_none hop] at h
          cases h
          exact hleft
      | some op =>
          obtain ⟨htier, token, hcurrent, hkind⟩ := Cursor.operator?_eq_some_iff.mp hop
          rw [run_rounds_of_some hop] at h
          obtain ⟨token?, c, hadvance, h⟩ := run_bind_eq_ok_iff.mp h
          obtain ⟨right, d, hright, h⟩ := run_bind_eq_ok_iff.mp h
          have hpass := Cursor.passes_of_advance hadvance hcurrent
          rw [hkind] at hpass
          exact ih (hleft.binary hpass htier (hp hright)) h

theorem sound_chain {p : Parser Expr} (hp : Sound (tier + 1) depth p) :
    Sound tier depth (chain bound p tier) := by
  intro before e after h
  obtain ⟨left, between, hleft, h⟩ := run_bind_eq_ok_iff.mp h
  have hreads := hp hleft
  exact sound_rounds hp { hreads with tier_le := Nat.le_of_succ_le hreads.tier_le } h

theorem sound_tiers {p : Parser Expr} (hp : Sound 6 depth p) : Sound 1 depth (tiers bound p) :=
  tiers_induction (motive := fun tier p => Sound tier depth p) hp fun _ _ _ => sound_chain

/-! ### Elements -/

theorem sound_elements {p : Parser Expr} (hp : Sound tier depth p) {n : Nat}
    {before after : Cursor} {es : List Expr}
    (h : (elements p n).run before = .ok es after) : ReadsRest depth before es after := by
  induction n generalizing before es with
  | zero =>
      cases hcurrent : before.current with
      | none => simp [elements, hcurrent] at h
      | some token => simp [elements, hcurrent] at h
  | succ n ih =>
      cases hcurrent : before.current with
      | none => simp [run_elements_of_end hcurrent] at h
      | some token =>
          by_cases hcomma : token.kind = .comma
          · rw [run_elements_of_comma hcurrent hcomma] at h
            obtain ⟨token?, b, hadvance, h⟩ := run_bind_eq_ok_iff.mp h
            obtain ⟨e, c, he, h⟩ := run_bind_eq_ok_iff.mp h
            obtain ⟨rest, d, hrest, h⟩ := run_bind_eq_ok_iff.mp h
            cases h
            have hpass := Cursor.passes_of_advance hadvance hcurrent
            rw [hcomma] at hpass
            exact .cons hpass (hp he) (ih hrest)
          · by_cases hbrace : token.kind = .rightBrace
            · rw [run_elements_of_rightBrace hcurrent hbrace] at h
              obtain ⟨token?, b, hadvance, h⟩ := run_bind_eq_ok_iff.mp h
              cases h
              have hpass := Cursor.passes_of_advance hadvance hcurrent
              rw [hbrace] at hpass
              exact .nil hpass
            · simp [run_elements_of_other hcurrent hcomma hbrace] at h

theorem passes_of_expect {kind : TokenKind} {before after : Cursor} {u : Unit}
    (h : (expect kind).run before = .ok u after) : before.Passes [kind] after := by
  cases hcurrent : before.current with
  | none => simp [run_expect_of_end hcurrent] at h
  | some token =>
      by_cases hkind : token.kind = kind
      · rw [run_expect_of_current hcurrent hkind] at h
        obtain ⟨token?, b, hadvance, h⟩ := run_bind_eq_ok_iff.mp h
        cases h
        rw [← hkind]
        exact Cursor.passes_of_advance hadvance hcurrent
      · simp [run_expect_of_ne hcurrent hkind] at h

/-! ### Operands -/

/-- The parser for what stands one level deeper is sound for the depth that is left there. -/
def SoundDeeper (depth : Nat) (deeper : Option (Parser Expr)) : Prop :=
  ∀ inner ∈ deeper, ∃ d, depth = d + 1 ∧ Sound 6 d inner

section Nested

variable {deeper : Option (Parser Expr)} {inner : Parser Expr} {a b c : Cursor} {e : Expr}

theorem sound_signed {sign : Sign} (hinner : Sound 6 depth inner)
    (hsign : a.Passes [.operator sign.operator] b) (h : (signed sign inner).run b = .ok e c) :
    Reads 6 (depth + 1) a e c := by
  obtain ⟨x, c', hx, h⟩ := run_bind_eq_ok_iff.mp h
  cases h
  exact .of_sign hsign (hinner hx)

theorem sound_group (hinner : Sound 6 depth inner) (hopen : a.Passes [.leftParen] b)
    (h : (group bound inner).run b = .ok e c) : Reads 6 (depth + 1) a e c := by
  obtain ⟨x, c', hx, h⟩ := run_bind_eq_ok_iff.mp h
  obtain ⟨u, c'', hclose, h⟩ := run_bind_eq_ok_iff.mp h
  cases h
  exact .of_group hopen (sound_tiers hinner hx) (passes_of_expect hclose)

theorem sound_array (hinner : Sound 6 depth inner) (hopen : a.Passes [.leftBrace] b)
    (h : (array bound inner).run b = .ok e c) : Reads 6 (depth + 1) a e c := by
  obtain ⟨x, c', hx, h⟩ := run_bind_eq_ok_iff.mp h
  obtain ⟨xs, c'', hrest, h⟩ := run_bind_eq_ok_iff.mp h
  cases h
  exact ReadsRest.array hopen (sound_tiers hinner hx) (sound_elements (sound_tiers hinner) hrest)

/-- One level of the depth pays for what is read inside. -/
theorem sound_nested {position : Nat} {inside : Parser Expr → Parser Expr}
    (hdeeper : SoundDeeper depth deeper)
    (hinside : ∀ inner d, Sound 6 d inner → (inside inner).run b = .ok e c →
      Reads 6 (d + 1) a e c)
    (h : (nested deeper position inside).run b = .ok e c) : Reads 6 depth a e c := by
  cases deeper with
  | none => simp [nested] at h
  | some inner =>
      obtain ⟨d, rfl, hinner⟩ := hdeeper inner rfl
      exact hinside inner d hinner h

theorem sound_startedBy {token : Token} (hdeeper : SoundDeeper depth deeper)
    (hpass : a.Passes [token.kind] b) (h : (startedBy bound deeper token).run b = .ok e c) :
    Reads 6 depth a e c := by
  unfold startedBy at h
  cases hkind : token.kind with
  | literal s =>
      rw [hkind] at hpass h
      cases h
      exact .of_literal hpass
  | leftParen =>
      rw [hkind] at hpass h
      exact sound_nested hdeeper (fun _ _ hinner => sound_group hinner hpass) h
  | leftBrace =>
      rw [hkind] at hpass h
      exact sound_nested hdeeper (fun _ _ hinner => sound_array hinner hpass) h
  | _ => simp [hkind] at h

end Nested

theorem sound_operandOver {deeper : Option (Parser Expr)} (hdeeper : SoundDeeper depth deeper) :
    Sound 6 depth (operandOver bound deeper) := by
  intro before e after h
  cases hsign : before.sign? with
  | some signed =>
      obtain ⟨sign, position⟩ := signed
      obtain ⟨token, op, hcurrent, hkind, hop, -⟩ := Cursor.sign?_eq_some_iff.mp hsign
      rw [run_operandOver_of_sign hsign] at h
      obtain ⟨token?, b, hadvance, h⟩ := run_bind_eq_ok_iff.mp h
      have hpass := Cursor.passes_of_advance hadvance hcurrent
      rw [hkind, Operator.eq_of_sign? hop] at hpass
      exact sound_nested hdeeper (fun _ _ hinner => sound_signed hinner hpass) h
  | none =>
      rw [run_operandOver_of_none hsign] at h
      obtain ⟨token?, b, hadvance, h'⟩ := run_bind_eq_ok_iff.mp h
      obtain ⟨rfl, -, -⟩ := run_advance_eq_ok hadvance
      cases hcurrent : before.current with
      | none => simp [hcurrent] at h'
      | some token =>
          rw [hcurrent] at h'
          exact sound_startedBy hdeeper (Cursor.passes_of_advance hadvance hcurrent) h'

theorem sound_operand : Sound 6 depth (operand bound depth) := by
  induction depth with
  | zero => exact sound_operandOver nofun
  | succ depth ih =>
      apply sound_operandOver
      rintro inner ⟨⟩
      exact ⟨depth, rfl, ih⟩

/-- A formula is read from the first item to the last. -/
theorem reads_of_formula {items : List TokenItem} {e : Expr} {after : Cursor}
    (h : (formula bound depth).run ⟨none, items⟩ = .ok e after) :
    Reads 1 depth ⟨none, items⟩ e after ∧ after.ahead = [] := by
  obtain ⟨token?, start, hadvance, h⟩ := run_bind_eq_ok_iff.mp h
  obtain ⟨e', stop, hread, h⟩ := run_bind_eq_ok_iff.mp h
  obtain ⟨-, hsettled, hahead⟩ := run_advance_eq_ok hadvance
  have hreads := sound_tiers sound_operand hread
  rw [run_get_bind] at h
  cases hcurrent : stop.current with
  | some token => simp [hcurrent] at h
  | none =>
      rw [hcurrent] at h
      cases h
      obtain ⟨ts, hts, hstart⟩ := hreads.passes.tokens
      refine ⟨{ hreads with passes := ⟨⟨ts, hts, ?_⟩, fun _ => ?_⟩ }, ?_⟩
      · rw [← hstart, hahead]
        rfl
      · exact hreads.passes.settled hsettled
      · exact (hreads.passes.settled hsettled).ahead_eq_nil hcurrent

end Parser

/-! ## Whole formulas -/

namespace Expr

theorem parse_eq_ok_iff {items : List TokenItem} {e : Expr} :
    parse items = .ok e ↔ ∃ after, parseWithin maxNesting items = .ok e after := by
  unfold parse
  split
  · rename_i e' after h
    simp [h]
  · rename_i err after h
    simp [h]

theorem parse_eq_error_iff {items : List TokenItem} {e : FormulaError} :
    parse items = .error e ↔ ∃ after, parseWithin maxNesting items = .error e after := by
  unfold parse
  split
  · rename_i e' after h
    simp [h]
  · rename_i err after h
    simp [h]

theorem parseWithin_sound {depth : Nat} {items : List TokenItem} {e : Expr} {after : Cursor}
    (h : parseWithin depth items = .ok e after) :
    (∃ ts : List Token, items = ts.map .ok ∧ ts.map Token.kind = e.kinds) ∧
      e.isCanonical = true ∧ e.nesting ≤ depth := by
  obtain ⟨hreads, hend⟩ := Parser.reads_of_formula h
  obtain ⟨ts, hts, hahead⟩ := hreads.passes.tokens
  rw [hend, List.append_nil] at hahead
  exact ⟨⟨ts, hahead, hts⟩, hreads.canonical, hreads.nesting_le⟩

/-- A parsed expression written out is the whole sequence of tokens, and it is in canonical shape
within the deepest nesting. -/
theorem parse_sound (items : List TokenItem) (e : Expr) (h : parse items = .ok e) :
    (∃ ts : List Token, items = ts.map .ok ∧ ts.map Token.kind = e.kinds) ∧
      e.isCanonical = true ∧ e.nesting ≤ maxNesting := by
  obtain ⟨after, hparse⟩ := parse_eq_ok_iff.mp h
  exact parseWithin_sound hparse

/-- Read from the tokens of `-(TRUE)^{#N/A}`. -/
theorem parse_sound_signed_group :
    (∃ ts : List Token,
      ([.ok ⟨.operator (.arithmetic .subtract), "-", 0⟩, .ok ⟨.leftParen, "(", 1⟩,
        .ok ⟨.literal (.boolean true), "TRUE", 2⟩, .ok ⟨.rightParen, ")", 6⟩,
        .ok ⟨.operator (.arithmetic .power), "^", 7⟩, .ok ⟨.leftBrace, "\x7b", 8⟩,
        .ok ⟨.literal (.error .na), "#N/A", 9⟩, .ok ⟨.rightBrace, "\x7d", 13⟩] :
          List TokenItem) = ts.map .ok ∧
      ts.map Token.kind =
        (binary (.arithmetic .power) (unary .minus (group (literal (.boolean true))))
          (array [literal (.error .na)])).kinds) ∧
    (binary (.arithmetic .power) (unary .minus (group (literal (.boolean true))))
      (array [literal (.error .na)])).isCanonical = true ∧
    (binary (.arithmetic .power) (unary .minus (group (literal (.boolean true))))
      (array [literal (.error .na)])).nesting ≤ maxNesting :=
  parse_sound _ _ rfl

end Expr

end CellFormula
