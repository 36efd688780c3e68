import CellFormula.Proofs.CommandLine.Output
import CellFormula.Proofs.Tagged.Json

/-! # Values as lines of JSON

Strings escape the control characters, and nothing else in a JSON text has any. So the text of a
value stays on one line whatever its strings contain, and as many lines are printed as there are
formulas.
-/

namespace CellFormula

namespace Tagged

/-! ## Texts without control characters -/

/-- No character is below the space. -/
def HasNoControls (cs : List Char) : Prop :=
  ∀ c ∈ cs, 0x20 ≤ c.toNat

theorem hasNoControls_append {cs ds : List Char} :
    HasNoControls (cs ++ ds) ↔ HasNoControls cs ∧ HasNoControls ds :=
  List.forall_mem_append

theorem hasNoControls_cons {c : Char} {cs : List Char} :
    HasNoControls (c :: cs) ↔ 0x20 ≤ c.toNat ∧ HasNoControls cs :=
  List.forall_mem_cons

theorem HasNoControls.not_mem {cs : List Char} (h : HasNoControls cs) {c : Char}
    (hc : c.toNat < 0x20) : c ∉ cs :=
  fun hmem => absurd (h c hmem) (Nat.not_le.mpr hc)

theorem le_toNat_digitChar {n : Nat} (h : n < 16) : 0x20 ≤ (Nat.digitChar n).toNat := by
  revert n
  decide

theorem hasNoControls_jsonEscape (c : Char) : HasNoControls (jsonEscape c) := by
  obtain ⟨d, hshort, heq⟩ | ⟨hcontrol, heq⟩ | ⟨hcontrol, -, -, heq⟩ := jsonEscape_cases c
  · have hletters : ∀ p ∈ shortEscapes, 0x20 ≤ p.2.toNat := by simp [shortEscapes]
    simpa [heq, HasNoControls] using hletters _ hshort
  · have hhigh := le_toNat_digitChar (n := c.toNat / 16) (by omega)
    have hlow := le_toNat_digitChar (n := c.toNat % 16) (by omega)
    simp [heq, HasNoControls, hhigh, hlow]
  · simpa [heq, HasNoControls] using hcontrol

theorem hasNoControls_jsonString (s : String) : HasNoControls (jsonString s).toList := by
  have hchars : HasNoControls (s.toList.flatMap jsonEscape) := by
    intro d hd
    obtain ⟨c, -, hescape⟩ := List.mem_flatMap.mp hd
    exact hasNoControls_jsonEscape c d hescape
  rw [jsonString, String.toList_ofList, hasNoControls_cons, hasNoControls_append]
  exact ⟨by decide, hchars, by simp [HasNoControls]⟩

theorem hasNoControls_of_all_isPart {cs : List Char} (h : cs.all Numeral.isPart = true) :
    HasNoControls cs := by
  intro c hc
  obtain hdigit | rfl | rfl | rfl | rfl | rfl :=
    Numeral.isPart_cases (List.all_eq_true.mp h c hc)
  · simp only [Char.isDigit, Bool.and_eq_true, decide_eq_true_eq, ge_iff_le,
      UInt32.le_iff_toNat_le] at hdigit
    exact Nat.le_trans (by decide) hdigit.1
  all_goals decide

theorem hasNoControls_jsonScalar (s : Scalar) : HasNoControls (jsonScalar s).toList := by
  cases s with
  | number x => exact hasNoControls_of_all_isPart (jsonNumber.all_isPart_write x)
  | text s => exact hasNoControls_jsonString s
  | boolean b => cases b <;> simp [HasNoControls, jsonScalar]
  | error kind => exact hasNoControls_jsonString kind.code

theorem hasNoControls_jsonObject {tag : Tag} {payload : String}
    (h : HasNoControls payload.toList) : HasNoControls (jsonObject tag payload).toList := by
  rw [toList_jsonObject]
  simp only [hasNoControls_append]
  refine ⟨?_, hasNoControls_jsonString tag.name, ?_, h, ?_⟩
  all_goals simp [HasNoControls]

theorem hasNoControls_jsonItems {items : List Value} (h : ∀ v ∈ items, HasNoControls (jsonChars v)) :
    HasNoControls (jsonItems items) := by
  have hbracket : HasNoControls [']'] := by simp [HasNoControls]
  cases items with
  | nil => exact hasNoControls_cons.mpr ⟨by decide, hbracket⟩
  | cons item rest =>
      rw [List.forall_mem_cons] at h
      have hrest : HasNoControls (rest.flatMap (',' :: jsonChars ·)) := by
        intro c hc
        obtain ⟨v, hv, hmem⟩ := List.mem_flatMap.mp hc
        exact hasNoControls_cons.mpr ⟨by decide, h.2 v hv⟩ c hmem
      rw [jsonItems, hasNoControls_cons, hasNoControls_append, hasNoControls_append]
      exact ⟨by decide, h.1, hrest, hbracket⟩

theorem hasNoControls_jsonChars (v : Value) : HasNoControls (jsonChars v) := by
  induction v with
  | scalar s =>
      rw [jsonChars_scalar]
      exact hasNoControls_jsonObject (hasNoControls_jsonScalar s)
  | list items ih =>
      rw [jsonChars_list]
      apply hasNoControls_jsonObject
      rw [String.toList_ofList]
      exact hasNoControls_jsonItems ih

end Tagged

namespace CommandLine

/-! ## Lines of a run -/

/-- Lines without control characters end where they seem to. -/
theorem count_linesText {lines : List String}
    (h : ∀ line ∈ lines, Tagged.HasNoControls line.toList) :
    (linesText lines).toList.count '\n' = lines.length ∧ '\r' ∉ (linesText lines).toList := by
  induction lines with
  | nil => decide
  | cons line lines ih =>
      rw [List.forall_mem_cons] at h
      obtain ⟨hcount, hreturn⟩ := ih h.2
      have hfeed := h.1.not_mem (c := '\n') (by decide)
      have htext : (linesText (line :: lines)).toList =
          line.toList ++ '\n' :: (linesText lines).toList := by
        simp [linesText_cons]
      rw [htext]
      constructor
      · rw [List.count_append, List.count_eq_zero_of_not_mem hfeed, List.count_cons_self, hcount,
          Nat.zero_add, List.length_cons]
      · simp [h.1.not_mem (c := '\r') (by decide), hreturn]

/-! ## Main statement -/

/-- What is printed for a formula is finite, also where only its first scalar is printed. -/
theorem isFinite_shown {formula : String} {v : Value} (h : Formula.calculate formula = .ok v)
    (coherent : Bool) : (if coherent then v.identity else v).IsFinite := by
  have hwell := Formula.isWellFormed_of_calculate h
  split
  · exact (Value.isPlainScalar_identity hwell).isWellFormed.isFinite
  · exact hwell.isFinite

/-- Values whose numbers are finite have different JSON texts unless they are the same, down to the
sign of a zero, and each text stays on one line. So formulas that can all be read print one line
each: the text of their value, or of its first scalar, which are such values. -/
theorem json_determines_value :
    (∀ u v : Value, u.IsFinite → v.IsFinite →
      (Tagged.ofValue u).json = (Tagged.ofValue v).json → u = v) ∧
    (∀ v : Value, v.IsFinite →
      '\n' ∉ (Tagged.ofValue v).json.toList ∧ '\r' ∉ (Tagged.ofValue v).json.toList) ∧
    ∀ (coherent : Bool) (formulas : List String) (values shown : List Value),
      formulas.map Formula.calculate = values.map .ok →
      shown = values.map (fun v => if coherent then v.identity else v) →
      (∀ v ∈ shown, v.IsFinite) ∧
      (Command.evaluate ⟨true, coherent⟩ formulas).run =
        ⟨0, linesText (shown.map fun v => (Tagged.ofValue v).json), ""⟩ ∧
      (Command.evaluate ⟨true, coherent⟩ formulas).run.stdout.toList.count '\n' =
        formulas.length ∧
      '\r' ∉ (Command.evaluate ⟨true, coherent⟩ formulas).run.stdout.toList := by
  refine ⟨fun u v hu hv => Tagged.eq_of_json_eq hu hv, fun v _ => ?_, ?_⟩
  · have hchars := Tagged.hasNoControls_jsonChars v
    exact ⟨hchars.not_mem (by decide), hchars.not_mem (by decide)⟩
  · intro coherent formulas values shown h hshown
    have hlength : shown.length = formulas.length := by
      simpa [hshown] using (congrArg List.length h).symm
    have hfinite : ∀ v ∈ shown, v.IsFinite := by
      intro w hw
      rw [hshown] at hw
      obtain ⟨v, hv, rfl⟩ := List.mem_map.mp hw
      have hmem : Except.ok v ∈ formulas.map Formula.calculate := h ▸ List.mem_map_of_mem hv
      obtain ⟨formula, -, hvalue⟩ := List.mem_map.mp hmem
      exact isFinite_shown hvalue coherent
    have hall : (Command.evaluate ⟨true, coherent⟩ formulas).run =
        ⟨0, linesText (shown.map fun v => (Tagged.ofValue v).json), ""⟩ := by
      rw [Command.run, evaluateAll_eq_upToFailure, upToFailure_of_readable _ _ _ h, hshown,
        List.map_map]
      rfl
    have hlines : ∀ line ∈ shown.map (fun v => (Tagged.ofValue v).json),
        Tagged.HasNoControls line.toList := by
      intro line hline
      obtain ⟨v, -, rfl⟩ := List.mem_map.mp hline
      exact Tagged.hasNoControls_jsonChars v
    obtain ⟨hcount, hreturn⟩ := count_linesText hlines
    rw [List.length_map, hlength] at hcount
    rw [hall]
    exact ⟨hfinite, rfl, hcount, hreturn⟩

/-- A text that is the code of an error is not taken for the error, and a text with both ends of a
line in it is printed on one line. -/
theorem json_determines_value_alike :
    (Tagged.ofValue (.list [.text "NA", .number (-0)])).json ≠
      (Tagged.ofValue (.list [.error .na, .number 0])).json ∧
    '\n' ∉ (Tagged.ofValue (.text "a\r\nb")).json.toList ∧
    (Command.evaluate ⟨true, true⟩ ["=\x7b\"a\r\nb\"\x7d", "=-1"]).run =
      ⟨0, "\x7b\"type\":\"STRING\",\"value\":\"a\\r\\nb\"\x7d\n" ++
        "\x7b\"type\":\"NUMBER\",\"value\":-1.0\x7d\n", ""⟩ := by
  obtain ⟨hsame, hline, hrun⟩ := json_determines_value
  refine ⟨fun h => ?_, (hline (.text "a\r\nb") (.scalar trivial)).1, ?_⟩
  · have hfinite (s : Scalar) (x : Float) (hs : s.IsFinite) (hx : x.isFinite = true) :
        (Value.list [.scalar s, .number x]).IsFinite :=
      .list (by simpa using ⟨.scalar hs, .scalar hx⟩)
    have heq := hsame _ _ (hfinite (.text "NA") (-0) trivial (by decide +kernel))
      (hfinite (.error .na) 0 trivial (by decide +kernel)) h
    exact absurd heq (by simp)
  · have hvalues : ["=\x7b\"a\r\nb\"\x7d", "=-1"].map Formula.calculate =
        [.list [.text "a\r\nb"], .number (-1)].map .ok := by decide +kernel
    refine (hrun true _ _ _ hvalues rfl).2.1.trans ?_
    decide +kernel

end CommandLine

end CellFormula
