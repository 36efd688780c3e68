import CellFormula.Proofs.Parser.Soundness

/-! # Every canonical expression is parsed back from its tokens

A parser reads an expression back whatever stands behind it, as long as no operator follows that
would still belong to the expression. The depth left is the only thing that decreases on the way
into a group, an array or behind a sign, so that siblings do not add up.
-/

namespace CellFormula

open Cursor

namespace Parser

/-- The parser reads `e` back from its tokens and stops behind them. -/
def ReadsBack (bound tier : Nat) (p : Parser Expr) (e : Expr) : Prop :=
  ∀ ts rest : List Token, ts.map Token.kind = e.kinds → (facing rest).Stops tier →
    (ts ++ rest).length ≤ bound → p.run (facing (ts ++ rest)) = .ok e (facing rest)

/-- The parser reads back all canonical expressions that hold together as tightly as the tier asks
and keep to the depth. -/
def Complete (bound tier depth : Nat) (p : Parser Expr) : Prop :=
  ∀ e : Expr, e.isCanonical = true → tier ≤ e.tier → e.nesting ≤ depth → ReadsBack bound tier p e

variable {bound tier depth : Nat} {p : Parser Expr}

/-! ## Chains of operators -/

/-- Reading an expression as the beginning of a chain leaves the chain before what follows, with
rounds enough to go on. The induction is on the left operands, along which a chain grows. -/
theorem run_chain_reaches (hp : Complete bound (tier + 1) depth p) (hsix : tier < 6) (e : Expr)
    (hcanonical : e.isCanonical = true) (htier : tier ≤ e.tier) (hnesting : e.nesting ≤ depth)
    (ts rest : List Token) (hts : ts.map Token.kind = e.kinds)
    (hrest : (facing rest).Stops (tier + 1)) (hbound : (ts ++ rest).length ≤ bound) :
    ∃ n, rest.length ≤ n ∧
      (chain bound p tier).run (facing (ts ++ rest)) = (rounds tier p n e).run (facing rest) := by
  by_cases hlt : tier < e.tier
  · refine ⟨bound, ?_, ?_⟩
    · simp only [List.length_append] at hbound
      omega
    · exact run_bind_of_ok (hp e hcanonical hlt hnesting ts rest hts hrest hbound)
  · obtain ⟨op, left, right, rfl⟩ := Expr.exists_binary_of_tier_lt (e := e) (by omega)
    have hop : op.tier = tier := Nat.le_antisymm (Nat.not_lt.mp hlt) htier
    simp only [Expr.isCanonical, Bool.and_eq_true, decide_eq_true_eq, hop] at hcanonical
    obtain ⟨⟨⟨hleft, hright⟩, hcleft⟩, hcright⟩ := hcanonical
    rw [Expr.nesting, Nat.max_le] at hnesting
    rw [Expr.kinds, List.map_eq_append_iff] at hts
    obtain ⟨us, vs, rfl, hus, hvs⟩ := hts
    obtain ⟨token, ws, rfl, hkind, hws⟩ := List.map_eq_cons_iff.mp hvs
    have hsplit : us ++ token :: ws ++ rest = us ++ (token :: (ws ++ rest)) := by simp
    rw [hsplit] at hbound ⊢
    have hstop : (facing (token :: (ws ++ rest))).Stops (tier + 1) := by
      intro token' op' hcurrent hkind'
      cases hcurrent
      rw [hkind] at hkind'
      cases hkind'
      omega
    obtain ⟨n, hn, hrun⟩ := run_chain_reaches hp hsix left hcleft hleft hnesting.1 us
      (token :: (ws ++ rest)) hus hstop hbound
    simp only [List.length_append, List.length_cons] at hbound hn
    -- The operator takes one round, and at least one is left for each token behind it.
    obtain ⟨m, rfl⟩ : ∃ m, n = m + 1 := ⟨n - 1, by omega⟩
    refine ⟨m, by omega, ?_⟩
    have hlook : (facing (token :: (ws ++ rest))).operator? tier = some op :=
      operator?_eq_some_iff.mpr ⟨hop, token, rfl, hkind⟩
    rw [hrun, run_rounds_of_some hlook, run_bind_of_ok (run_advance_facing _ _)]
    exact run_bind_of_ok (hp right hcright hright hnesting.2 ws rest hws hrest
      (by simp only [List.length_append]; omega))

theorem complete_chain (hp : Complete bound (tier + 1) depth p) (hsix : tier < 6) :
    Complete bound tier depth (chain bound p tier) := by
  intro e hcanonical htier hnesting ts rest hts hrest hbound
  obtain ⟨n, -, hrun⟩ := run_chain_reaches hp hsix e hcanonical htier hnesting ts rest hts
    (hrest.mono (Nat.le_succ tier)) hbound
  rw [hrun]
  exact run_rounds_of_none hrest.operator?_eq_none

theorem complete_tiers (hp : Complete bound 6 depth p) : Complete bound 1 depth (tiers bound p) :=
  tiers_induction (motive := fun tier p => Complete bound tier depth p) hp
    fun _ hsix _ h => complete_chain h hsix

/-! ## Elements -/

/-- What follows an element is a comma or the closing brace. -/
theorem stops_before_elements {es : List Expr} {ts : List Token} (rest : List Token)
    (hts : ts.map Token.kind = (es.flatMap fun e => .comma :: e.kinds) ++ [.rightBrace]) :
    (facing (ts ++ rest)).Stops tier := by
  cases es with
  | nil =>
      obtain ⟨token, us, rfl, hkind, -⟩ := List.map_eq_cons_iff.mp hts
      exact stops_of_kind_ne rfl (by simp [hkind])
  | cons e es =>
      simp only [List.flatMap_cons, List.cons_append] at hts
      obtain ⟨token, us, rfl, hkind, -⟩ := List.map_eq_cons_iff.mp hts
      exact stops_of_kind_ne rfl (by simp [hkind])

/-- Elements are read back one after the other, up to the brace that closes them. -/
theorem run_elements_complete (hp : Complete bound 1 depth p) {es : List Expr}
    (hcanonical : ∀ e ∈ es, e.isCanonical = true) (hnesting : ∀ e ∈ es, e.nesting ≤ depth)
    {n : Nat} (ts rest : List Token)
    (hts : ts.map Token.kind = (es.flatMap fun e => .comma :: e.kinds) ++ [.rightBrace])
    (hn : (ts ++ rest).length ≤ n) (hbound : (ts ++ rest).length ≤ bound) :
    (elements p n).run (facing (ts ++ rest)) = .ok es (facing rest) := by
  induction es generalizing n ts with
  | nil =>
      obtain ⟨token, us, rfl, hkind, hus⟩ := List.map_eq_cons_iff.mp hts
      obtain rfl := List.map_eq_nil_iff.mp hus
      obtain ⟨m, rfl⟩ : ∃ m, n = m + 1 := ⟨n - 1, by simp at hn; omega⟩
      exact (run_elements_of_rightBrace rfl hkind).trans (run_bind_of_ok (run_advance_facing _ _))
  | cons e es ih =>
      simp only [List.flatMap_cons, List.cons_append, List.append_assoc] at hts
      obtain ⟨token, us, rfl, hkind, hus⟩ := List.map_eq_cons_iff.mp hts
      obtain ⟨vs, ws, rfl, hvs, hws⟩ := List.map_eq_append_iff.mp hus
      have hsplit : token :: (vs ++ ws) ++ rest = token :: (vs ++ (ws ++ rest)) := by simp
      rw [hsplit] at hn hbound ⊢
      simp only [List.length_cons, List.length_append] at hn hbound
      obtain ⟨m, rfl⟩ : ∃ m, n = m + 1 := ⟨n - 1, by omega⟩
      have hhead := hp e (hcanonical e (by simp)) e.one_le_tier (hnesting e (by simp)) vs
        (ws ++ rest) hvs (stops_before_elements rest hws) (by simp only [List.length_append]; omega)
      have htail := ih (fun e' h => hcanonical e' (by simp [h]))
        (fun e' h => hnesting e' (by simp [h])) (n := m) ws hws
        (by simp only [List.length_append]; omega) (by simp only [List.length_append]; omega)
      rw [run_elements_of_comma rfl hkind, run_bind_of_ok (run_advance_facing _ _),
        run_bind_of_ok hhead, run_bind_of_ok htail]
      rfl

/-! ## Operands -/

theorem run_operandOver_facing {deeper : Option (Parser Expr)} {token : Token} {ts : List Token}
    (h : ∀ op, token.kind ≠ .operator op) :
    (operandOver bound deeper).run (facing (token :: ts)) =
      (startedBy bound deeper token).run (facing ts) := by
  rw [run_operandOver_of_none (sign?_eq_none_of_kind_ne rfl h)]
  exact run_primary_of_advance (run_advance_facing token ts)

theorem readsBack_group {inner : Parser Expr} {token : Token} {x : Expr} {ts rest : List Token}
    (hinner : Complete bound 6 depth inner) (hkind : token.kind = .leftParen)
    (hts : ts.map Token.kind = x.kinds ++ [.rightParen]) (hcanonical : x.isCanonical = true)
    (hnesting : x.nesting ≤ depth) (hbound : (ts ++ rest).length ≤ bound) :
    (startedBy bound (some inner) token).run (facing (ts ++ rest)) =
      .ok (.group x) (facing rest) := by
  obtain ⟨us, vs, rfl, hus, hvs⟩ := List.map_eq_append_iff.mp hts
  obtain ⟨close, ws, rfl, hclose, hws⟩ := List.map_eq_cons_iff.mp hvs
  obtain rfl := List.map_eq_nil_iff.mp hws
  have hsplit : us ++ [close] ++ rest = us ++ (close :: rest) := by simp
  rw [hsplit] at hbound ⊢
  have hread := complete_tiers hinner x hcanonical x.one_le_tier hnesting us (close :: rest) hus
    (stops_of_kind_ne rfl (by simp [hclose])) hbound
  simp only [startedBy, hkind, nested, group]
  rw [run_bind_of_ok hread, EStateM.run_bind, run_expect_of_current rfl hclose,
    run_bind_of_ok (run_advance_facing close rest)]
  rfl

theorem readsBack_array {inner : Parser Expr} {token : Token} {x : Expr} {xs : List Expr}
    {ts rest : List Token} (hinner : Complete bound 6 depth inner)
    (hkind : token.kind = .leftBrace)
    (hts : ts.map Token.kind =
      x.kinds ++ ((xs.flatMap fun e => .comma :: e.kinds) ++ [.rightBrace]))
    (hcanonical : ∀ e ∈ x :: xs, e.isCanonical = true)
    (hnesting : ∀ e ∈ x :: xs, e.nesting ≤ depth) (hbound : (ts ++ rest).length ≤ bound) :
    (startedBy bound (some inner) token).run (facing (ts ++ rest)) =
      .ok (.array (x :: xs)) (facing rest) := by
  obtain ⟨us, vs, rfl, hus, hvs⟩ := List.map_eq_append_iff.mp hts
  rw [List.append_assoc] at hbound ⊢
  have htiers : Complete bound 1 depth (tiers bound inner) := complete_tiers hinner
  have hfirst := htiers x (hcanonical x (by simp)) x.one_le_tier (hnesting x (by simp)) us
    (vs ++ rest) hus (stops_before_elements rest hvs) hbound
  simp only [List.length_append] at hbound
  have hrest := run_elements_complete htiers (fun e h => hcanonical e (by simp [h]))
    (fun e h => hnesting e (by simp [h])) (n := bound) vs rest hvs
    (by simp only [List.length_append]; omega) (by simp only [List.length_append]; omega)
  simp only [startedBy, hkind, nested, array]
  rw [run_bind_of_ok hfirst, run_bind_of_ok hrest]
  rfl

theorem readsBack_sign {inner : Parser Expr} {token : Token} {sign : Sign} {x : Expr}
    {ts rest : List Token} (hinner : Complete bound 6 depth inner)
    (hkind : token.kind = .operator sign.operator) (hts : ts.map Token.kind = x.kinds)
    (hcanonical : x.isCanonical = true) (htier : x.tier = 6) (hnesting : x.nesting ≤ depth)
    (hbound : (ts ++ rest).length ≤ bound) :
    (operandOver bound (some inner)).run (facing (token :: (ts ++ rest))) =
      .ok (.unary sign x) (facing rest) := by
  have hsign : (facing (token :: (ts ++ rest))).sign? = some (sign, token.position) :=
    sign?_eq_some_iff.mpr ⟨token, _, rfl, hkind, sign.sign?_operator, rfl⟩
  have hread := hinner x hcanonical (Nat.le_of_eq htier.symm) hnesting ts rest hts
    (stops_six _) hbound
  rw [run_operandOver_of_sign hsign, run_bind_of_ok (run_advance_facing token (ts ++ rest))]
  exact run_bind_of_ok hread

/-- The parser for what stands one level deeper, which there has to be as long as the depth is not
used up. -/
def CompleteDeeper (bound depth : Nat) (deeper : Option (Parser Expr)) : Prop :=
  ∀ d, depth = d + 1 → ∃ inner, deeper = some inner ∧ Complete bound 6 d inner

theorem CompleteDeeper.exists_inner {deeper : Option (Parser Expr)} {n : Nat}
    (hdeeper : CompleteDeeper bound depth deeper) (h : n + 1 ≤ depth) :
    ∃ d inner, n ≤ d ∧ deeper = some inner ∧ Complete bound 6 d inner := by
  obtain ⟨inner, hsome, hinner⟩ := hdeeper (depth - 1) (by omega)
  exact ⟨depth - 1, inner, by omega, hsome, hinner⟩

theorem complete_operandOver {deeper : Option (Parser Expr)}
    (hdeeper : CompleteDeeper bound depth deeper) :
    Complete bound 6 depth (operandOver bound deeper) := by
  intro e hcanonical htier hnesting ts rest hts hrest hbound
  match e with
  | .literal (.scalar s) =>
      rw [Expr.kinds] at hts
      obtain ⟨token, us, rfl, hkind, hus⟩ := List.map_eq_cons_iff.mp hts
      obtain rfl := List.map_eq_nil_iff.mp hus
      rw [List.singleton_append, run_operandOver_facing (by simp [hkind]), startedBy, hkind]
      rfl
  | .literal (.list vs) => simp [Expr.isCanonical] at hcanonical
  | .unary sign x =>
      rw [Expr.nesting] at hnesting
      obtain ⟨d, inner, hle, rfl, hinner⟩ := hdeeper.exists_inner hnesting
      simp only [Expr.isCanonical, Bool.and_eq_true, decide_eq_true_eq] at hcanonical
      rw [Expr.kinds] at hts
      obtain ⟨token, us, rfl, hkind, hus⟩ := List.map_eq_cons_iff.mp hts
      rw [List.cons_append, List.length_cons] at hbound
      exact readsBack_sign hinner hkind hus hcanonical.2 hcanonical.1 hle (by omega)
  | .binary op left right => exact absurd op.tier_le_five (Nat.not_le.mpr htier)
  | .group x =>
      rw [Expr.nesting] at hnesting
      obtain ⟨d, inner, hle, rfl, hinner⟩ := hdeeper.exists_inner hnesting
      rw [Expr.isCanonical] at hcanonical
      rw [Expr.kinds] at hts
      obtain ⟨token, us, rfl, hkind, hus⟩ := List.map_eq_cons_iff.mp hts
      rw [List.cons_append, List.length_cons] at hbound
      rw [List.cons_append, run_operandOver_facing (by simp [hkind])]
      exact readsBack_group hinner hkind hus hcanonical hle (by omega)
  | .array [] => simp [Expr.isCanonical] at hcanonical
  | .array (x :: xs) =>
      rw [Expr.nesting] at hnesting
      obtain ⟨d, inner, hle, rfl, hinner⟩ := hdeeper.exists_inner hnesting
      simp only [Expr.isCanonical, Expr.areCanonical_eq_all, Bool.and_eq_true,
        List.all_eq_true] at hcanonical
      rw [Expr.kinds_array_cons] at hts
      obtain ⟨token, us, rfl, hkind, hus⟩ := List.map_eq_cons_iff.mp hts
      rw [List.cons_append, List.length_cons] at hbound
      rw [List.cons_append, run_operandOver_facing (by simp [hkind])]
      exact readsBack_array hinner hkind hus hcanonical.2 (Expr.nestingEach_le_iff.mp hle)
        (by omega)

theorem complete_operand : Complete bound 6 depth (operand bound depth) := by
  induction depth with
  | zero => exact complete_operandOver nofun
  | succ depth ih =>
      apply complete_operandOver
      rintro d ⟨⟩
      exact ⟨_, rfl, ih⟩

end Parser

/-! ## Whole formulas -/

namespace Expr

theorem parseWithin_complete {depth : Nat} {e : Expr} (hcanonical : e.isCanonical = true)
    (hnesting : e.nesting ≤ depth) {ts : List Token} (hts : ts.map Token.kind = e.kinds) :
    parseWithin depth (ts.map .ok) = .ok e ⟨none, []⟩ := by
  have hend : (facing []).Stops 1 := nofun
  have hcomplete : Parser.Complete ts.length 1 depth
      (Parser.tiers ts.length (Parser.operand ts.length depth)) :=
    Parser.complete_tiers Parser.complete_operand
  have hread := hcomplete e hcanonical e.one_le_tier hnesting ts [] hts hend (by simp)
  rw [List.append_nil] at hread
  rw [parseWithin, List.length_map, Parser.formula,
    Parser.run_bind_of_ok (Parser.run_advance_initial ts), Parser.run_bind_of_ok hread]
  rfl

/-- No two canonical expressions are written alike. -/
theorem eq_of_kinds_eq {e e' : Expr} (h : e.isCanonical = true) (h' : e'.isCanonical = true)
    (hkinds : e'.kinds = e.kinds) : e' = e := by
  let ts : List Token := e.kinds.map fun kind => ⟨kind, "", 0⟩
  have hts : ts.map Token.kind = e.kinds := by simp [ts, Function.comp_def]
  have hparse := parseWithin_complete h (Nat.le_max_left e.nesting e'.nesting) hts
  have hparse' :=
    parseWithin_complete h' (Nat.le_max_right e.nesting e'.nesting) (hts.trans hkinds.symm)
  rw [hparse] at hparse'
  cases hparse'
  rfl

/-! ## Long chains -/

/-- Operands joined by operators, from the left. -/
def joined (first : Expr) (links : List (Operator × Expr)) : Expr :=
  links.foldl (fun left link => binary link.1 left link.2) first

theorem kinds_joined (first : Expr) (links : List (Operator × Expr)) :
    (joined first links).kinds =
      first.kinds ++ links.flatMap fun link => .operator link.1 :: link.2.kinds := by
  induction links generalizing first with
  | nil => simp [joined]
  | cons link links ih =>
      have hstep := ih (binary link.1 first link.2)
      rw [kinds] at hstep
      simpa [joined] using hstep

/-- Operators of one tier join canonical operands that hold together more tightly to a canonical
chain, however long, and the chain is nested no deeper than its operands. -/
theorem joined_isCanonical {tier depth : Nat} {first : Expr} {links : List (Operator × Expr)}
    (hfirst : first.isCanonical = true ∧ tier ≤ first.tier ∧ first.nesting ≤ depth)
    (hlinks : ∀ link ∈ links, link.1.tier = tier ∧ tier < link.2.tier ∧
      link.2.isCanonical = true ∧ link.2.nesting ≤ depth) :
    (joined first links).isCanonical = true ∧ (joined first links).nesting ≤ depth := by
  induction links generalizing first with
  | nil => exact ⟨hfirst.1, hfirst.2.2⟩
  | cons link links ih =>
      obtain ⟨hcanonical, htier, hnesting⟩ := hfirst
      obtain ⟨⟨hop, htight, hright, hdeep⟩, hrest⟩ := List.forall_mem_cons.mp hlinks
      change (joined (binary link.1 first link.2) links).isCanonical = true ∧ _
      refine ih ⟨?_, ?_, ?_⟩ hrest
      · simp [isCanonical, hop, htier, htight, hcanonical, hright]
      · exact Nat.le_of_eq hop.symm
      · rw [nesting]
        exact Nat.max_le.mpr ⟨hnesting, hdeep⟩

/-- A canonical expression within the deepest nesting is what its tokens are parsed to, whatever
their texts and positions; no other canonical expression has these tokens; and joining any number
of such operands in a chain is parsed as well. -/
theorem parse_complete (e : Expr) (hcanonical : e.isCanonical = true)
    (hnesting : e.nesting ≤ maxNesting) :
    (∀ ts : List Token, ts.map Token.kind = e.kinds → parse (ts.map .ok) = .ok e) ∧
    (∀ e' : Expr, e'.isCanonical = true → e'.kinds = e.kinds → e' = e) ∧
    (∀ (tier : Nat) (links : List (Operator × Expr)), tier ≤ e.tier →
      (∀ link ∈ links, link.1.tier = tier ∧ tier < link.2.tier ∧
        link.2.isCanonical = true ∧ link.2.nesting ≤ maxNesting) →
      ∀ ts : List Token,
        ts.map Token.kind =
          (e.kinds ++ links.flatMap fun link => .operator link.1 :: link.2.kinds) →
        parse (ts.map .ok) = .ok (joined e links)) := by
  refine ⟨?_, ?_, ?_⟩
  · intro ts hts
    exact parse_eq_ok_iff.mpr ⟨_, parseWithin_complete hcanonical hnesting hts⟩
  · intro e' h' hkinds
    exact eq_of_kinds_eq hcanonical h' hkinds
  · intro tier links htier hlinks ts hts
    obtain ⟨hchain, hdeep⟩ := joined_isCanonical ⟨hcanonical, htier, hnesting⟩ hlinks
    rw [← kinds_joined] at hts
    exact parse_eq_ok_iff.mpr ⟨_, parseWithin_complete hchain hdeep hts⟩

/-- Thirty-two signs, each with its group, use up the nesting. -/
theorem parse_complete_signed_groups :
    let e := Nat.repeat (fun e => unary .minus (group e)) 32 (literal (.boolean true))
    e.nesting = maxNesting ∧ parse (e.kinds.map fun kind => .ok ⟨kind, "", 0⟩) = .ok e := by
  intro e
  refine ⟨rfl, ?_⟩
  have h := (parse_complete e rfl (Nat.le_refl 64)).1 (e.kinds.map fun kind => ⟨kind, "", 0⟩)
    (by simp [Function.comp_def])
  rwa [List.map_map] at h

end Expr

end CellFormula
