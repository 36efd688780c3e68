import CellFormula.Formula
import CellFormula.Proofs.Evaluation.Equations
import CellFormula.Proofs.Lexer.Composition
import CellFormula.Proofs.Number.Order
import CellFormula.Proofs.Number.ReadBack
import CellFormula.Proofs.Parser.Completeness
import CellFormula.Proofs.Parser.ViablePrefix
import CellFormula.Proofs.Value.WellFormed

/-! # Displayed lists read back

The display of a list is a formula: an array literal in which a negative number is a sign and a
number. Its value is the list, unless it is nested too deeply to be read.
-/

namespace CellFormula

/-! ## The expression that a value is displayed as -/

namespace Scalar

/-- A negative number costs a level of nesting, because its sign is an operator. -/
def signDepth : Scalar → Nat
  | number x => if x < 0 then 1 else 0
  | _ => 0

def toExpr : Scalar → Expr
  | number x => if x < 0 then .unary .minus (.literal (.number (-x))) else .literal (.number x)
  | s => .literal (.scalar s)

theorem toExpr_cases (s : Scalar) :
    (∃ x, s = number x ∧ x < 0 ∧ s.toExpr = .unary .minus (.literal (.number (-x))) ∧
        s.signDepth = 1) ∨
      ((∀ x, s = number x → ¬ x < 0) ∧ s.toExpr = .literal (.scalar s) ∧ s.signDepth = 0) := by
  cases s with
  | number x =>
      by_cases hx : x < 0
      · exact .inl ⟨x, rfl, hx, if_pos hx, if_pos hx⟩
      · refine .inr ⟨?_, if_neg hx, if_neg hx⟩
        rintro y heq
        cases heq
        exact hx
  | text t => exact .inr ⟨nofun, rfl, rfl⟩
  | boolean b => exact .inr ⟨nofun, rfl, rfl⟩
  | error kind => exact .inr ⟨nofun, rfl, rfl⟩

end Scalar

namespace Value

mutual

def toExpr : Value → Expr
  | scalar s => s.toExpr
  | list items => .array (toExprEach items)

def toExprEach : List Value → List Expr
  | [] => []
  | item :: rest => toExpr item :: toExprEach rest

end

theorem toExprEach_eq_map (items : List Value) : toExprEach items = items.map toExpr := by
  induction items with
  | nil => rw [toExprEach, List.map_nil]
  | cons item rest ih => rw [toExprEach, ih, List.map_cons]

theorem isCanonical_toExpr {v : Value} (h : v.IsWellFormed) : v.toExpr.isCanonical = true := by
  induction h with
  | @scalar s =>
      rw [toExpr]
      rcases s.toExpr_cases with ⟨x, -, -, hs, -⟩ | ⟨-, hs, -⟩
      · rw [hs]
        rfl
      · rw [hs]
        rfl
  | @list items nonempty each ih =>
      rw [toExpr, Expr.isCanonical, Expr.areCanonical_eq_all, toExprEach_eq_map, Bool.and_eq_true]
      refine ⟨by simpa using nonempty, List.all_eq_true.mpr fun e he => ?_⟩
      obtain ⟨v, hv, rfl⟩ := List.mem_map.mp he
      exact ih v hv

theorem nestingEach_toExprEach {items : List Value}
    (h : ∀ v ∈ items, v.toExpr.nesting = v.depth Scalar.signDepth) :
    Expr.nestingEach (toExprEach items) = depthEach Scalar.signDepth items := by
  induction items with
  | nil => rw [toExprEach, Expr.nestingEach, depthEach]
  | cons item rest ih =>
      obtain ⟨hitem, hrest⟩ := List.forall_mem_cons.mp h
      rw [toExprEach, Expr.nestingEach, depthEach, hitem, ih hrest]

theorem nesting_toExpr (v : Value) : v.toExpr.nesting = v.depth Scalar.signDepth := by
  induction v with
  | scalar s =>
      rw [toExpr, depth]
      rcases s.toExpr_cases with ⟨x, -, -, hs, hdepth⟩ | ⟨-, hs, hdepth⟩
      · rw [hs, hdepth]
        rfl
      · rw [hs, hdepth]
        rfl
  | list items ih => rw [toExpr, Expr.nesting, depth, nestingEach_toExprEach ih]

/-! ## Its value is the value -/

theorem negate_neg {x : Float} (h : IsPlainNumber x) : (number (-x)).negate = number x := by
  have hneg : - -x = x := by
    obtain ⟨negative, rank, rfl, hlt, -⟩ := h.exists_toFloat
    rw [Binary64.neg_toFloat _ (Nat.le_of_lt hlt), Binary64.neg_toFloat _ (Nat.le_of_lt hlt),
      Bool.not_not]
  show ofNumber (- -x) = number x
  rw [hneg, h.ofNumber_eq]

theorem evaluate_toExpr {v : Value} (h : v.IsWellFormed) : v.toExpr.evaluate = v := by
  induction h with
  | @scalar s plain =>
      rw [toExpr]
      rcases s.toExpr_cases with ⟨x, rfl, -, hs, -⟩ | ⟨-, hs, -⟩
      · rw [hs, Expr.evaluate_unary, Expr.evaluate_literal]
        exact negate_neg plain
      · rw [hs, Expr.evaluate_literal]
  | @list items nonempty each ih =>
      rw [toExpr, Expr.evaluate_array, toExprEach_eq_map, List.map_map]
      congr 1
      calc
        items.map (Expr.evaluate ∘ toExpr) = items.map id := List.map_congr_left ih
        _ = items := List.map_id items

/-! ## Its tokens are the words of the display -/

open TokenStream

theorem lexes_number {x : Float} (h : IsPlainNumber x) {rest : List Char} (hrest : Closes rest) :
    Lexes ((cellNumber.write x).toList ++ rest) (Scalar.number x).toExpr.kinds rest := by
  obtain ⟨negative, rank, rfl, hlt, hpos⟩ := h.exists_toFloat
  have hsign := Binary64.toFloat_lt_zero_iff hlt hpos
  obtain ⟨d, hspells, hvalue⟩ := cellNumber.exists_spells_shortest hlt
  have hbody := Lexes.here (.number hspells hvalue) (hrest _)
  rw [toList_write hlt hpos]
  cases negative with
  | false =>
      have hexpr : (Scalar.number (Binary64.toFloat false rank)).toExpr =
          .literal (.number (Binary64.toFloat false rank)) := if_neg (by simp [hsign])
      rw [hexpr]
      exact hbody
  | true =>
      have hexpr : (Scalar.number (Binary64.toFloat true rank)).toExpr =
          .unary .minus (.literal (.number (-Binary64.toFloat true rank))) := if_pos (hsign.mpr rfl)
      rw [hexpr, Binary64.neg_toFloat _ (Nat.le_of_lt hlt)]
      exact (Lexes.symbol (c := '-') rfl (fun _ => rfl) _).trans hbody

theorem lexes_scalar {s : Scalar} (h : s.IsPlain) {rest : List Char} (hrest : Closes rest) :
    Lexes (s.inList.toList ++ rest) s.toExpr.kinds rest := by
  cases s with
  | number x => exact lexes_number h hrest
  | text t => exact .here (Quoted.spells_quote t) (hrest _)
  | boolean b =>
      refine .here (.boolean ?_) (hrest _)
      cases b <;> rfl
  | error kind => exact .here (.error kind.map_toUpper_literal) (hrest _)

theorem lexes_intercalate {items : List Value} (hne : items ≠ [])
    (h : ∀ v ∈ items, ∀ rest, Closes rest → Lexes (v.inList.toList ++ rest) v.toExpr.kinds rest)
    {rest : List Char} (hrest : Closes rest) :
    Lexes ((",".intercalate (inListEach items)).toList ++ rest)
      (Expr.kindsEach (toExprEach items)) rest := by
  induction items with
  | nil => exact absurd rfl hne
  | cons item tail ih =>
      obtain ⟨hitem, htail⟩ := List.forall_mem_cons.mp h
      cases tail with
      | nil =>
          rw [inListEach, inListEach, String.intercalate_singleton, toExprEach, toExprEach,
            Expr.kindsEach]
          exact hitem rest hrest
      | cons next tail =>
          have htext : (",".intercalate (inListEach (item :: next :: tail))).toList ++ rest =
              item.inList.toList ++
                ',' :: ((",".intercalate (inListEach (next :: tail))).toList ++ rest) := by
            simp [inListEach, String.intercalate_cons_cons]
          have hkinds : Expr.kindsEach (toExprEach (item :: next :: tail)) =
              item.toExpr.kinds ++ .comma :: Expr.kindsEach (toExprEach (next :: tail)) := by
            simp [toExprEach, Expr.kindsEach]
          rw [htext, hkinds]
          exact (hitem _ (closes_separator (.inl rfl) _)).trans
            ((Lexes.symbol rfl (fun _ => rfl) _).trans (ih (List.cons_ne_nil _ _) htail))

theorem lexes_inList {v : Value} (h : v.IsWellFormed) :
    ∀ rest, Closes rest → Lexes (v.inList.toList ++ rest) v.toExpr.kinds rest := by
  induction h with
  | scalar plain =>
      intro rest hrest
      rw [inList, toExpr]
      exact lexes_scalar plain hrest
  | @list items nonempty each ih =>
      intro rest hrest
      have hitems := lexes_intercalate nonempty ih (closes_separator (.inr (.inl rfl)) rest)
      have hopen := Lexes.symbol (c := '\x7b') rfl (fun _ => rfl)
        ((",".intercalate (inListEach items)).toList ++ '\x7d' :: rest)
      have hclose := Lexes.symbol (c := '\x7d') rfl (fun _ => rfl) rest
      have hall := hopen.trans (hitems.trans hclose)
      rw [inList, toExpr, Expr.kinds]
      simpa using hall

end Value

/-! ## Expressions that are nested too deeply -/

namespace Expr

open Point

/-- Where a deeper walk passes, a walk that fails does so for its depth. -/
theorem walk_eq_error_of_deeper {depth deeper : Nat} {ts : List Token} {last : Point}
    {e : ParseError} (hdeeper : (beforeOperand []).walk deeper ts = .ok last)
    (h : (beforeOperand []).walk depth ts = .error e) :
    ∃ position, e = .nestingTooDeep position := by
  obtain ⟨pre, token, post, next, rfl, hpre, hstep⟩ := walk_eq_error h
  obtain ⟨next', hpre', hpost⟩ := walk_append_eq_ok hdeeper
  obtain rfl := walk_unique hpre hpre'
  cases hnext : next.next? token.kind with
  | none =>
      rw [walk_cons_of_error (step_of_next?_eq_none hnext)] at hpost
      cases hpost
  | some beyond =>
      by_cases hle : beyond.openings.length ≤ depth
      · rw [step_of_length_le hnext hle] at hstep
        cases hstep
      · rw [step_of_lt_length hnext (Nat.not_le.mp hle)] at hstep
        cases hstep
        exact ⟨token.position, rfl⟩

/-- An expression that is written out but nested too deeply is refused for that. -/
theorem parse_too_deep {e : Expr} (hcanonical : e.isCanonical = true)
    (hdeep : maxNesting < e.nesting) {ts : List Token} (hts : ts.map Token.kind = e.kinds) :
    ∃ position, parse (ts.map .ok) = .error (.parse (.nestingTooDeep position)) := by
  have hwhole := parseWithin_complete hcanonical (Nat.le_refl _) hts
  have hwalk := exists_parseWithin_eq_ok_iff.mp ⟨e, _, hwhole⟩
  have hrefused : ∀ e', parse (ts.map .ok) ≠ .ok e' := by
    intro e' hparse
    obtain ⟨after, hparse⟩ := parse_eq_ok_iff.mp hparse
    obtain ⟨⟨ts', hmap, hkinds⟩, hcanonical', hnesting⟩ := parseWithin_sound hparse
    obtain rfl : ts = ts' := (List.map_inj_right fun _ _ => Except.ok.inj).mp hmap
    obtain rfl := eq_of_kinds_eq hcanonical hcanonical' (hkinds.symm.trans hts)
    omega
  cases hparse : parse (ts.map .ok) with
  | ok e' => exact absurd hparse (hrefused e')
  | error err =>
      obtain ⟨after, hwithin⟩ := parse_eq_error_iff.mp hparse
      rcases read_tokens_eq_error (read_of_parseWithin_eq_error hwithin) with
        ⟨last, hlast, -⟩ | ⟨e', herror, rfl⟩
      · -- A walk through all tokens ends where the deeper one does, at a whole formula.
        obtain rfl := walk_unique hwalk hlast
        obtain ⟨e', hparse'⟩ := isAccepted_iff.mpr hlast
        exact absurd hparse' (hrefused e')
      · obtain ⟨position, rfl⟩ := walk_eq_error_of_deeper hwalk herror
        exact ⟨position, rfl⟩

end Expr

/-! ## Formulas written out -/

theorem TokenStream.ofSource_of_head {source : String} {c : Char} {cs : List Char}
    (h : source.toList = c :: cs) (hspace : Unicode.isWhiteSpace c = false) (hne : c ≠ '=') :
    ofSource source = ⟨source.toList, 0⟩ := by
  simp [ofSource, h, hspace, hne, byteLength]

namespace Formula

/-- What becomes of a source that reads as an expression written out. -/
theorem calculate_of_lexes {source : String} {cs : List Char} {offset : Nat} {e : Expr}
    (hsource : TokenStream.ofSource source = ⟨cs, offset⟩) (hlexes : TokenStream.Lexes cs e.kinds [])
    (hcanonical : e.isCanonical = true) :
    (e.nesting ≤ maxNesting → calculate source = .ok e.evaluate) ∧
      (maxNesting < e.nesting →
        ∃ position, calculate source = .error (.parse (.nestingTooDeep position))) := by
  obtain ⟨tokens, htokens, hkinds⟩ := hlexes.exists_items offset
  have hitems : tokenize source = tokens.map .ok := by rw [tokenize, hsource, htokens]
  constructor
  · intro hnesting
    have hparse := Expr.parseWithin_complete hcanonical hnesting hkinds
    rw [calculate, parse, hitems, Expr.parse_eq_ok_iff.mpr ⟨_, hparse⟩]
    rfl
  · intro hdeep
    obtain ⟨position, hparse⟩ := Expr.parse_too_deep hcanonical hdeep hkinds
    refine ⟨position, ?_⟩
    rw [calculate, parse, hitems, hparse]
    rfl

/-- A displayed list reads back, with `=` before it or without, as long as its lists and the signs
of its negative numbers are nested within the limit. Beyond the limit it is refused for that. -/
theorem calculate_display (items : List Value) (h : (Value.list items).IsWellFormed) :
    ((Value.list items).depth Scalar.signDepth ≤ maxNesting →
      calculate (Value.list items).display = .ok (.list items) ∧
        calculate ("=" ++ (Value.list items).display) = .ok (.list items)) ∧
    (maxNesting < (Value.list items).depth Scalar.signDepth →
      (∃ position, calculate (Value.list items).display =
          .error (.parse (.nestingTooDeep position))) ∧
        ∃ position, calculate ("=" ++ (Value.list items).display) =
          .error (.parse (.nestingTooDeep position))) := by
  have hlexes := Value.lexes_inList h [] closes_nil
  rw [List.append_nil] at hlexes
  have hdisplay : (Value.list items).display = (Value.list items).inList := rfl
  have hbare : TokenStream.ofSource (Value.list items).inList =
      ⟨(Value.list items).inList.toList, 0⟩ := by
    have hhead : (Value.list items).inList.toList =
        '\x7b' :: ((",".intercalate (Value.inListEach items)).toList ++ ['\x7d']) := by
      simp [Value.inList]
    exact TokenStream.ofSource_of_head hhead (by decide) (by decide)
  have hcanonical := Value.isCanonical_toExpr h
  obtain ⟨hok, hdeep⟩ := calculate_of_lexes hbare hlexes hcanonical
  obtain ⟨hok', hdeep'⟩ :=
    calculate_of_lexes (TokenStream.ofSource_equals _) hlexes hcanonical
  rw [Value.nesting_toExpr, Value.evaluate_toExpr h] at hok hok'
  rw [Value.nesting_toExpr] at hdeep hdeep'
  rw [hdisplay]
  exact ⟨fun hle => ⟨hok hle, hok' hle⟩, fun hlt => ⟨hdeep hlt, hdeep' hlt⟩⟩

/-- A text full of delimiters, numbers with a sign and with an exponent, and an error in an inner
list; and a negative number inside as many lists as may be nested. -/
theorem calculate_display_delimiters :
    let flat : Value := .list [.text "a\",\x7b=", .number (-1e-7), .number 1e21,
      .list [.error .na, .boolean true]]
    let deep : Value := .list [Nat.repeat (fun v => .list [v]) 63 (.number (-1))]
    (flat.display = "\x7b\"a\"\",\x7b=\",-1e-7,1e+21,\x7b#N/A,TRUE\x7d\x7d" ∧
      calculate flat.display = .ok flat ∧ calculate ("=" ++ flat.display) = .ok flat) ∧
    (∃ position, calculate deep.display = .error (.parse (.nestingTooDeep position))) ∧
      ∃ position, calculate ("=" ++ deep.display) =
        .error (.parse (.nestingTooDeep position)) := by
  have hflat : (Value.list [.text "a\",\x7b=", .number (-1e-7), .number 1e21,
      .list [.error .na, .boolean true]]).IsWellFormed := by
    refine .list (by simp) ?_
    simp only [List.forall_mem_cons]
    refine ⟨.scalar trivial, .scalar ⟨by decide +kernel, by decide +kernel⟩,
      .scalar ⟨by decide +kernel, by decide +kernel⟩, .list (by simp) ?_, nofun⟩
    simp only [List.forall_mem_cons]
    exact ⟨.scalar trivial, .scalar trivial, nofun⟩
  have hnested : ∀ n, (Nat.repeat (fun v => Value.list [v]) n (.number (-1))).IsWellFormed := by
    intro n
    induction n with
    | zero => exact .scalar ⟨by decide +kernel, by decide +kernel⟩
    | succ n ih => exact .list (by simp) (by simpa using ih)
  refine ⟨⟨by decide +kernel, ?_⟩, ?_⟩
  · exact (calculate_display _ hflat).1 (by decide +kernel)
  · exact (calculate_display _ (hnested 64)).2 (by decide +kernel)

end Formula

end CellFormula
