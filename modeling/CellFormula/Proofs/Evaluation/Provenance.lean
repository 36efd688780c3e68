import CellFormula.Proofs.Evaluation.Lists

/-! # Where errors come from

An operator passes on the errors of its operands, and only arithmetic adds errors of its own. An
empty list would be an error as well, but a formula that was read has none. So every error in the
value of a formula is one of its literals or was found by its arithmetic.
-/

namespace CellFormula

/-! ## Errors in values -/

namespace Value

/-- The error occurs in the value, in lists at any depth too. -/
inductive HasError (kind : ErrorKind) : Value → Prop where
  | here : HasError kind (error kind)
  | item {v : Value} {items : List Value} (mem : v ∈ items) (inside : HasError kind v) :
      HasError kind (list items)

variable {kind : ErrorKind}

theorem hasError_scalar_iff {s : Scalar} : (scalar s).HasError kind ↔ s = .error kind := by
  constructor
  · intro h
    cases h
    rfl
  · rintro rfl
    exact .here

theorem hasError_list_iff {items : List Value} :
    (list items).HasError kind ↔ ∃ v ∈ items, v.HasError kind := by
  constructor
  · rintro (_ | ⟨mem, inside⟩)
    exact ⟨_, mem, inside⟩
  · rintro ⟨v, mem, inside⟩
    exact .item mem inside

theorem hasError_of_firstScalar {v : Value} (h : v.firstScalar = .ok (.error kind)) :
    v.HasError kind := by
  fun_induction firstScalar v with
  | case1 s =>
      cases h
      exact .here
  | case2 => cases h
  | case3 item rest ih => exact .item List.mem_cons_self (ih h)

/-! ## Failures of coercions -/

theorem ofNumber_eq_error {x : Float} (h : ofNumber x = error kind) : kind = .num := by
  unfold ofNumber at h
  split at h
  · cases h
  · cases h
    rfl

/-- What is done with a coerced operand fails by the coercion, or behind it. -/
theorem ofResult_bind_eq_error {α : Type} {r : Except ErrorKind α}
    {f : α → Except ErrorKind Value} (h : ofResult (r >>= f) = error kind) :
    r = .error kind ∨ ∃ x, ofResult (f x) = error kind := by
  cases r with
  | error kind' =>
      cases h
      exact .inl rfl
  | ok x => exact .inr ⟨x, h⟩

end Value

namespace Scalar

variable {s t : Scalar} {kind : ErrorKind}

theorem toNumber_eq_error (h : s.toNumber = .error kind) : s = .error kind ∨ kind = .value := by
  cases s with
  | number x => cases h
  | text s =>
      rw [toNumber] at h
      split at h
      · cases h
      · cases h
        exact .inr rfl
  | boolean b => cases h
  | error kind' =>
      cases h
      exact .inl rfl

theorem toText_eq_error (h : s.toText = .error kind) : s = .error kind := by
  cases s with
  | error kind' =>
      cases h
      rfl
  | _ => cases h

theorem compare_eq_error (h : s.compare t = .error kind) : s = .error kind ∨ t = .error kind := by
  cases s <;> cases t <;> cases h
  all_goals first | exact .inl rfl | exact .inr rfl

end Scalar

/-! ## What operators and signs add -/

/-- The errors that arithmetic finds in operands that are none: a text that is no number, a result
out of range, and a division by zero or a negative power of it. -/
def Arithmetic.ownErrors : Arithmetic → List ErrorKind
  | divide => [.value, .num, .div0]
  | power => [.value, .num, .div0]
  | _ => [.value, .num]

def Operator.ownErrors : Operator → List ErrorKind
  | arithmetic op => op.ownErrors
  | _ => []

def Sign.ownErrors : Sign → List ErrorKind
  | minus => [.value, .num]
  | plus => []

section Apply

variable {left right v : Value} {s t : Scalar} {kind : ErrorKind}

theorem Arithmetic.value_mem_ownErrors (op : Arithmetic) : .value ∈ op.ownErrors := by
  cases op <;> decide

theorem Arithmetic.ownErrors_subset (op : Arithmetic) :
    op.ownErrors ⊆ [.value, .div0, .num] := by
  cases op <;> decide

theorem Arithmetic.eq_divide_or_power {op : Arithmetic} (h : .div0 ∈ op.ownErrors) :
    op = divide ∨ op = power := by
  revert h
  cases op <;> decide

theorem Arithmetic.applyPower_eq_error {base exponent : Float}
    (h : applyPower base exponent = .error kind) : kind ∈ power.ownErrors := by
  unfold applyPower at h
  split at h
  · split at h
    · cases h
      decide
    · split at h
      · cases h
        decide
      · cases h
  · rw [Value.ofNumber_eq_error h]
    decide

theorem Arithmetic.applyNumbers_eq_error {op : Arithmetic} {x y : Float}
    (h : op.applyNumbers x y = .error kind) : kind ∈ op.ownErrors := by
  cases op with
  | divide =>
      rw [applyNumbers] at h
      split at h
      · cases h
        decide
      · rw [Value.ofNumber_eq_error h]
        decide
  | power => exact applyPower_eq_error h
  | _ =>
      rw [Value.ofNumber_eq_error h]
      decide

theorem Operator.apply_eq_error {op : Operator} (hl : left.firstScalar = .ok s)
    (hr : right.firstScalar = .ok t) (h : op.apply left right = .error kind) :
    s = .error kind ∨ t = .error kind ∨ kind ∈ op.ownErrors := by
  cases op with
  | arithmetic op =>
      rw [apply, Arithmetic.apply, Value.toNumber, Value.toNumber, hl, hr] at h
      rcases Value.ofResult_bind_eq_error h with hs | ⟨x, h⟩
      · rcases Scalar.toNumber_eq_error hs with hs | rfl
        · exact .inl hs
        · exact .inr (.inr op.value_mem_ownErrors)
      · rcases Value.ofResult_bind_eq_error h with ht | ⟨y, h⟩
        · rcases Scalar.toNumber_eq_error ht with ht | rfl
          · exact .inr (.inl ht)
          · exact .inr (.inr op.value_mem_ownErrors)
        · exact .inr (.inr (Arithmetic.applyNumbers_eq_error h))
  | concat =>
      rw [apply, Value.concat, Value.toText, Value.toText, hl, hr] at h
      rcases Value.ofResult_bind_eq_error h with hs | ⟨x, h⟩
      · exact .inl (Scalar.toText_eq_error hs)
      · rcases Value.ofResult_bind_eq_error h with ht | ⟨y, h⟩
        · exact .inr (.inl (Scalar.toText_eq_error ht))
        · cases h
  | comparison op =>
      rw [apply, Comparison.apply, Value.compare, hl, hr] at h
      rcases Value.ofResult_bind_eq_error h with hst | ⟨order, h⟩
      · rcases Scalar.compare_eq_error hst with hs | ht
        · exact .inl hs
        · exact .inr (.inl ht)
      · cases h

theorem Sign.apply_eq_error {sign : Sign} (hv : v.firstScalar = .ok s)
    (h : sign.apply v = .error kind) : s = .error kind ∨ kind ∈ sign.ownErrors := by
  cases sign with
  | minus =>
      rw [apply, Value.negate, Value.toNumber, hv] at h
      rcases Value.ofResult_bind_eq_error h with hs | ⟨x, h⟩
      · rcases Scalar.toNumber_eq_error hs with hs | rfl
        · exact .inl hs
        · exact .inr (by decide)
      · rw [Value.ofNumber_eq_error h]
        exact .inr (by decide)
  | plus =>
      rw [apply, Value.identity, hv] at h
      exact .inl (Value.scalar.inj h)

end Apply

/-! ## Errors in expressions -/

namespace Expr

/-- The errors that an expression adds to those of its parts. -/
def ownErrors : Expr → List ErrorKind
  | literal (.error kind) => [kind]
  | unary sign _ => sign.ownErrors
  | binary op _ _ => op.ownErrors
  | _ => []

variable {e : Expr} {kind : ErrorKind}

/-- Without empty arrays, every operand stands for a scalar. -/
theorem exists_firstScalar_evaluate (h : e.isCanonical = true) :
    ∃ s, e.evaluate.firstScalar = .ok s := by
  induction e with
  | literal v =>
      cases v with
      | scalar s => exact ⟨s, by rw [evaluate_literal, Value.firstScalar]⟩
      | list items => cases h
  | unary sign operand =>
      obtain ⟨s, hs⟩ := sign.exists_scalar_apply operand.evaluate
      exact ⟨s, by rw [evaluate_unary, hs, Value.firstScalar]⟩
  | binary op left right =>
      obtain ⟨s, hs⟩ := op.exists_scalar_apply left.evaluate right.evaluate
      exact ⟨s, by rw [evaluate_binary, hs, Value.firstScalar]⟩
  | array elements ih =>
      cases elements with
      | nil => cases h
      | cons first rest =>
          rw [evaluate_array, List.map_cons, Value.firstScalar_list_cons]
          exact ih first List.mem_cons_self
            ((IsPart.element List.mem_cons_self (.whole first)).isCanonical h)
  | group inner ih =>
      rw [evaluate_group]
      exact ih ((IsPart.inner (.whole inner)).isCanonical h)

/-- Every error in the value of an expression is added by one of its parts. -/
theorem exists_part_of_hasError (h : e.isCanonical = true) (hkind : e.evaluate.HasError kind) :
    ∃ p, IsPart p e ∧ kind ∈ p.ownErrors := by
  induction e with
  | literal v =>
      rw [evaluate_literal] at hkind
      cases v with
      | scalar s =>
          obtain rfl := Value.hasError_scalar_iff.mp hkind
          exact ⟨_, .whole _, List.mem_singleton_self kind⟩
      | list items => cases h
  | unary sign operand ih =>
      have hcanonical := (IsPart.operand sign (.whole operand)).isCanonical h
      obtain ⟨s, hs⟩ := exists_firstScalar_evaluate hcanonical
      obtain ⟨r, hr⟩ := sign.exists_scalar_apply operand.evaluate
      rw [evaluate_unary, hr] at hkind
      obtain rfl := Value.hasError_scalar_iff.mp hkind
      rcases Sign.apply_eq_error hs hr with rfl | hown
      · obtain ⟨p, hp, hmem⟩ := ih hcanonical (Value.hasError_of_firstScalar hs)
        exact ⟨p, .operand sign hp, hmem⟩
      · exact ⟨_, .whole _, hown⟩
  | binary op left right ihl ihr =>
      have hcl := (IsPart.left op right (.whole left)).isCanonical h
      have hcr := (IsPart.right op left (.whole right)).isCanonical h
      obtain ⟨s, hs⟩ := exists_firstScalar_evaluate hcl
      obtain ⟨t, ht⟩ := exists_firstScalar_evaluate hcr
      obtain ⟨r, hr⟩ := op.exists_scalar_apply left.evaluate right.evaluate
      -- Both operands stand for scalars, so that the error of an empty list is out of the question.
      rw [evaluate_binary, hr] at hkind
      obtain rfl := Value.hasError_scalar_iff.mp hkind
      rcases Operator.apply_eq_error hs ht hr with rfl | rfl | hown
      · obtain ⟨p, hp, hmem⟩ := ihl hcl (Value.hasError_of_firstScalar hs)
        exact ⟨p, .left op right hp, hmem⟩
      · obtain ⟨p, hp, hmem⟩ := ihr hcr (Value.hasError_of_firstScalar ht)
        exact ⟨p, .right op left hp, hmem⟩
      · exact ⟨_, .whole _, hown⟩
  | array elements ih =>
      rw [evaluate_array, Value.hasError_list_iff] at hkind
      obtain ⟨v, hv, hkind⟩ := hkind
      obtain ⟨e, he, rfl⟩ := List.mem_map.mp hv
      obtain ⟨p, hp, hmem⟩ := ih e he ((IsPart.element he (.whole e)).isCanonical h) hkind
      exact ⟨p, .element he hp, hmem⟩
  | group inner ih =>
      rw [evaluate_group] at hkind
      obtain ⟨p, hp, hmem⟩ := ih ((IsPart.inner (.whole inner)).isCanonical h) hkind
      exact ⟨p, .inner hp, hmem⟩

/-- The expression has a literal for the error. -/
def Names (e : Expr) (kind : ErrorKind) : Prop :=
  IsPart (literal (.error kind)) e

/-- The expression has an arithmetic operator or the sign `-`. -/
def Calculates (e : Expr) : Prop :=
  (∃ op left right, IsPart (binary (.arithmetic op) left right) e) ∨
    ∃ operand, IsPart (unary .minus operand) e

/-- The expression has an operator `/` or `^`. -/
def Divides (e : Expr) : Prop :=
  ∃ op left right, (op = .divide ∨ op = .power) ∧ IsPart (binary (.arithmetic op) left right) e

/-- The error is one that arithmetic finds, and the expression has the arithmetic to find it. -/
structure Finds (e : Expr) (kind : ErrorKind) : Prop where
  kind_mem : kind ∈ [.value, .div0, .num]
  calculates : e.Calculates
  divides : kind = .div0 → e.Divides

/-- Only literals, arithmetic operators and the sign `-` add errors. -/
theorem names_or_finds_of_part {p : Expr} (hpart : IsPart p e) (hown : kind ∈ p.ownErrors) :
    e.Names kind ∨ e.Finds kind := by
  cases p with
  | literal v =>
      cases v with
      | scalar s =>
          cases s with
          | error kind' =>
              cases List.mem_singleton.mp hown
              exact .inl hpart
          | _ => cases hown
      | list items => cases hown
  | unary sign operand =>
      cases sign with
      | minus =>
          have hnegate : kind ∈ Sign.minus.ownErrors := hown
          refine .inr ⟨?_, .inr ⟨operand, hpart⟩, ?_⟩
          · have hsubset : Sign.minus.ownErrors ⊆ [.value, .div0, .num] := by decide
            exact hsubset hnegate
          · rintro rfl
            exact absurd hnegate (by decide)
      | plus => cases hown
  | binary op left right =>
      cases op with
      | arithmetic op =>
          refine .inr ⟨op.ownErrors_subset hown, .inl ⟨op, left, right, hpart⟩, ?_⟩
          rintro rfl
          exact ⟨op, left, right, Arithmetic.eq_divide_or_power hown, hpart⟩
      | concat => cases hown
      | comparison op => cases hown
  | array elements => cases hown
  | group inner => cases hown

theorem isCanonical_of_parse {items : List TokenItem} (h : parse items = .ok e) :
    e.isCanonical = true := by
  obtain ⟨after, hparse⟩ := parse_eq_ok_iff.mp h
  exact (parseWithin_sound hparse).2.1

/-- Every error in the value of an expression that was read, in lists too, is one of its literals or
found by its arithmetic, and a division by zero is found by `/` or `^`. So without error literals
only the errors of arithmetic occur, and without arithmetic only those of the literals. -/
theorem evaluate_errors_have_sources {items : List TokenItem} (h : parse items = .ok e) :
    (∀ kind, e.evaluate.HasError kind →
      e.Names kind ∨
        (kind ∈ [.value, .div0, .num] ∧ e.Calculates ∧ (kind = .div0 → e.Divides))) ∧
    ((∀ kind, ¬ e.Names kind) →
      ∀ kind ∈ [.null, .ref, .name, .na], ¬ e.evaluate.HasError kind) ∧
    (¬ e.Calculates → ∀ kind, e.evaluate.HasError kind → e.Names kind) := by
  have hsource : ∀ kind, e.evaluate.HasError kind → e.Names kind ∨ e.Finds kind := by
    intro kind hkind
    obtain ⟨p, hpart, hown⟩ := exists_part_of_hasError (isCanonical_of_parse h) hkind
    exact names_or_finds_of_part hpart hown
  refine ⟨fun kind hkind => ?_, fun hnone kind hmem hkind => ?_, fun hplain kind hkind => ?_⟩
  · rcases hsource kind hkind with hnames | hfinds
    · exact .inl hnames
    · exact .inr ⟨hfinds.kind_mem, hfinds.calculates, hfinds.divides⟩
  · rcases hsource kind hkind with hnames | hfinds
    · exact hnone kind hnames
    · have hother : ∀ k ∈ [ErrorKind.null, .ref, .name, .na], k ∉ [.value, .div0, .num] := by decide
      exact hother kind hmem hfinds.kind_mem
  · rcases hsource kind hkind with hnames | hfinds
    · exact hnames
    · exact absurd hfinds.calculates hplain

/-- Read from the tokens of `TRUE/FALSE` and of `TRUE&{#REF!}`. -/
theorem evaluate_errors_have_sources_div0 :
    let quotient := binary (.arithmetic .divide) (literal (.boolean true)) (literal (.boolean false))
    let joined := binary .concat (literal (.boolean true)) (array [literal (.error .ref)])
    (quotient.evaluate = .error .div0 ∧ quotient.Divides ∧ ¬ quotient.evaluate.HasError .na) ∧
      joined.evaluate = .error .ref ∧ joined.Names .ref := by
  intro quotient joined
  have hquotient : parse [.ok ⟨.literal (.boolean true), "TRUE", 0⟩,
      .ok ⟨.operator (.arithmetic .divide), "/", 4⟩,
      .ok ⟨.literal (.boolean false), "FALSE", 5⟩] = .ok quotient := rfl
  have hjoined : parse [.ok ⟨.literal (.boolean true), "TRUE", 0⟩, .ok ⟨.operator .concat, "&", 4⟩,
      .ok ⟨.leftBrace, "\x7b", 5⟩, .ok ⟨.literal (.error .ref), "#REF!", 6⟩,
      .ok ⟨.rightBrace, "\x7d", 11⟩] = .ok joined := rfl
  have hdiv0 : quotient.evaluate = .error .div0 := by decide +kernel
  have href : joined.evaluate = .error .ref := by decide +kernel
  have hliterals : ∀ kind, ¬ quotient.Names kind := by
    intro kind hnames
    have hmem : .literal (.error kind) ∈ quotient.kinds :=
      hnames.kinds_subset (List.mem_singleton_self _)
    revert hmem
    cases kind <;> decide
  have hplain : ¬ joined.Calculates := by
    rintro (⟨op, left, right, hpart⟩ | ⟨operand, hpart⟩)
    · have hmem : .operator (.arithmetic op) ∈ joined.kinds :=
        hpart.kinds_subset (by simp [kinds])
      revert hmem
      cases op <;> decide
    · have hmem : .operator (.arithmetic .subtract) ∈ joined.kinds :=
        hpart.kinds_subset (by simp [kinds, Sign.operator])
      exact absurd hmem (by decide)
  obtain ⟨hsource, hothers, -⟩ := evaluate_errors_have_sources hquotient
  obtain ⟨-, -, hnamed⟩ := evaluate_errors_have_sources hjoined
  refine ⟨⟨hdiv0, ?_, hothers hliterals .na (by decide)⟩, href, hnamed hplain .ref (href ▸ .here)⟩
  rcases hsource .div0 (hdiv0 ▸ .here) with hnames | ⟨-, -, hdivides⟩
  · exact absurd hnames (hliterals .div0)
  · exact hdivides rfl

end Expr

end CellFormula
