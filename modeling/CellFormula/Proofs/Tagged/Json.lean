import CellFormula.Proofs.Text.Delimited
import CellFormula.Proofs.Value.NumberText
import CellFormula.Tagged

/-! # The JSON text of a value

The text shows where it ends: it can be told from whatever follows it. So the tag tells how to read
the payload at each level, the elements of a list come apart, and no two values share a text.
-/

namespace CellFormula

/-! ## Values with finite numbers -/

def Scalar.IsFinite : Scalar → Prop
  | number x => x.isFinite = true
  | _ => True

/-- Every number is finite. A list may be empty. -/
inductive Value.IsFinite : Value → Prop where
  | scalar {s : Scalar} (finite : s.IsFinite) : IsFinite (.scalar s)
  | list {items : List Value} (each : ∀ v ∈ items, v.IsFinite) : IsFinite (.list items)

theorem Value.IsWellFormed.isFinite {v : Value} (h : v.IsWellFormed) : v.IsFinite := by
  induction h with
  | @scalar s plain =>
      refine .scalar ?_
      cases s with
      | number x => exact plain.1
      | text s => exact trivial
      | boolean b => exact trivial
      | error kind => exact trivial
  | list _ _ ih => exact .list ih

namespace Tagged

/-! ## Strings -/

/-- The characters with an escape of their own, and the letter behind the backslash. -/
def shortEscapes : List (Char × Char) :=
  [('"', '"'), ('\\', '\\'), ('\x08', 'b'), ('\t', 't'), ('\n', 'n'), ('\x0c', 'f'),
    ('\r', 'r')]

/-- A character has a short escape, is escaped by its number, or stands for itself. -/
theorem jsonEscape_cases (c : Char) :
    (∃ d, (c, d) ∈ shortEscapes ∧ jsonEscape c = ['\\', d]) ∨
    (c.toNat < 0x20 ∧ jsonEscape c =
      ['\\', 'u', '0', '0', Nat.digitChar (c.toNat / 16), Nat.digitChar (c.toNat % 16)]) ∨
    (0x20 ≤ c.toNat ∧ c ≠ '"' ∧ c ≠ '\\' ∧ jsonEscape c = [c]) := by
  unfold jsonEscape
  -- The tests before the last one are for the short escapes.
  iterate 7
    split
    · rename_i heq
      exact .inl ⟨_, by rw [heq]; decide, rfl⟩
  split
  · rename_i hcontrol
    exact .inr (.inl ⟨hcontrol, rfl⟩)
  · rename_i hquote hbackslash _ _ _ _ _ hcontrol
    exact .inr (.inr ⟨Nat.not_lt.mp hcontrol, hquote, hbackslash, rfl⟩)

/-- A code is two zeros and two hexadecimal digits. -/
def readCode : List Char → Option (Char × List Char)
  | '0' :: '0' :: high :: low :: cs => some (Char.ofNat (16 * hexValue high + hexValue low), cs)
  | _ => none

theorem readCode_digits {c : Char} (h : c.toNat < 0x20) (rest : List Char) :
    readCode (['0', '0', Nat.digitChar (c.toNat / 16), Nat.digitChar (c.toNat % 16)] ++ rest) =
      some (c, rest) := by
  have hvalue : 16 * hexValue (Nat.digitChar (c.toNat / 16)) +
      hexValue (Nat.digitChar (c.toNat % 16)) = c.toNat := by
    rw [hexValue_digitChar (by omega), hexValue_digitChar (by omega)]
    exact Nat.div_add_mod c.toNat 16
  show some (Char.ofNat (16 * hexValue (Nat.digitChar (c.toNat / 16)) +
    hexValue (Nat.digitChar (c.toNat % 16))), rest) = some (c, rest)
  rw [hvalue, Char.ofNat_toNat]

theorem escapes_jsonEscape : Escapes jsonEscape shortEscapes readCode where
  letters := by decide
  cases c := by
    obtain hshort | ⟨hcontrol, heq⟩ | ⟨-, hplain⟩ := jsonEscape_cases c
    · exact .inl hshort
    · exact .inr (.inl ⟨_, heq, readCode_digits hcontrol⟩)
    · exact .inr (.inr hplain)

theorem delimits_jsonString (s : String) :
    Delimits (fun s => (jsonString s).toList) (fun _ => True) s := by
  intro t _ rest rest' h
  have hchars : s.toList.flatMap jsonEscape ++ '"' :: rest =
      t.toList.flatMap jsonEscape ++ '"' :: rest' := by
    simpa only [jsonString, String.toList_ofList, List.cons_append, List.append_assoc,
      List.cons.injEq, true_and, List.nil_append] using h
  exact escapes_jsonEscape.eq_of_append hchars

/-! ## Numbers -/

/-- A number shows where it ends if an object ends there. -/
theorem eq_of_jsonNumber_append {x y : Float} (hx : x.isFinite = true) (hy : y.isFinite = true)
    {rest rest' : List Char}
    (h : (jsonNumber.write x).toList ++ '\x7d' :: rest =
      (jsonNumber.write y).toList ++ '\x7d' :: rest') : x = y ∧ rest = rest' := by
  have hbrace (x : Float) : '\x7d' ∉ (jsonNumber.write x).toList := fun hmem =>
    absurd (List.all_eq_true.mp (jsonNumber.all_isPart_write x) _ hmem) (by decide)
  obtain ⟨htext, hrest⟩ := eq_of_append_first (hbrace x) (hbrace y) h
  exact ⟨NumberStyle.eq_of_write_eq rfl hx hy (String.toList_inj.mp htext), hrest⟩

/-! ## Objects -/

theorem toList_jsonObject (tag : Tag) (payload : String) :
    (jsonObject tag payload).toList = "\x7b\"type\":".toList ++ ((jsonString tag.name).toList ++
      (",\"value\":".toList ++ (payload.toList ++ ['\x7d']))) := by
  simp only [jsonObject, String.toList_append, List.append_assoc]
  rfl

theorem tag_eq_of_name_eq {tag tag' : Tag} (h : tag.name = tag'.name) : tag = tag' := by
  have hall (tag : Tag) : tag ∈ Tag.all := by cases tag <;> decide
  exact List.inj_on_of_nodup_map (by decide) (hall tag) (hall tag') h

theorem kind_eq_of_code_eq {kind kind' : ErrorKind} (h : kind.code = kind'.code) :
    kind = kind' := by
  have hall (kind : ErrorKind) : kind ∈ ErrorKind.all := by cases kind <;> decide
  exact List.inj_on_of_nodup_map (by decide) (hall kind) (hall kind') h

/-- An object shows its tag, and leaves the payload up to the closing brace. -/
theorem eq_of_jsonObject_append {tag tag' : Tag} {payload payload' : String}
    {rest rest' : List Char}
    (h : (jsonObject tag payload).toList ++ rest = (jsonObject tag' payload').toList ++ rest') :
    tag = tag' ∧ payload.toList ++ '\x7d' :: rest = payload'.toList ++ '\x7d' :: rest' := by
  simp only [toList_jsonObject, List.append_assoc, List.append_cancel_left_eq] at h
  obtain ⟨hname, hpayload⟩ := delimits_jsonString tag.name tag'.name trivial _ _ h
  exact ⟨tag_eq_of_name_eq hname, List.append_cancel_left hpayload⟩

theorem tag_ne_list (s : Scalar) : s.tag ≠ .list := by
  cases s <;> nofun

theorem eq_of_jsonScalar_append {s t : Scalar} (hs : s.IsFinite) (ht : t.IsFinite)
    (htag : s.tag = t.tag) {rest rest' : List Char}
    (h : (jsonScalar s).toList ++ '\x7d' :: rest = (jsonScalar t).toList ++ '\x7d' :: rest') :
    s = t ∧ rest = rest' := by
  -- The tag makes both scalars of the same kind, without which a text and an error look alike.
  cases s with
  | number x =>
      cases t with
      | number y =>
          obtain ⟨rfl, rfl⟩ := eq_of_jsonNumber_append hs ht h
          exact ⟨rfl, rfl⟩
      | _ => cases htag
  | text s =>
      cases t with
      | text t =>
          obtain ⟨rfl, hrest⟩ := delimits_jsonString s t trivial _ _ h
          exact ⟨rfl, (List.cons.inj hrest).2⟩
      | _ => cases htag
  | boolean b =>
      cases t with
      | boolean c =>
          cases b <;> cases c
          case false.false => simpa using h
          case true.true => simpa using h
          all_goals simp [jsonScalar] at h
      | _ => cases htag
  | error kind =>
      cases t with
      | error kind' =>
          obtain ⟨hcode, hrest⟩ := delimits_jsonString kind.code kind'.code trivial _ _ h
          exact ⟨by rw [kind_eq_of_code_eq hcode], (List.cons.inj hrest).2⟩
      | _ => cases htag

/-! ## Values -/

/-- The characters of the JSON text of a value. -/
def jsonChars (v : Value) : List Char :=
  (ofValue v).json.toList

theorem jsonChars_scalar (s : Scalar) :
    jsonChars (.scalar s) = (jsonObject s.tag (jsonScalar s)).toList := by
  rw [jsonChars, ofValue, json]

/-- The elements of a list between brackets, with a comma before each but the first. -/
def jsonItems : List Value → List Char
  | [] => ['[', ']']
  | item :: rest => '[' :: (jsonChars item ++ (rest.flatMap (',' :: jsonChars ·) ++ [']']))

theorem toList_intercalate (item : Value) (rest : List Value) :
    (",".intercalate (jsonEach (ofValues (item :: rest)))).toList =
      jsonChars item ++ rest.flatMap (',' :: jsonChars ·) := by
  induction rest generalizing item with
  | nil => simp [ofValues, jsonEach, jsonChars]
  | cons next rest ih =>
      rw [List.flatMap_cons, List.cons_append, ← ih next]
      simp [ofValues, jsonEach, String.intercalate_cons_cons, jsonChars]

theorem jsonChars_list (items : List Value) :
    jsonChars (.list items) = (jsonObject .list (String.ofList (jsonItems items))).toList := by
  have hitems : "[" ++ ",".intercalate (jsonEach (ofValues items)) ++ "]" =
      String.ofList (jsonItems items) := by
    apply String.toList_inj.mp
    cases items with
    | nil => rfl
    | cons item rest =>
        simp only [String.toList_append, toList_intercalate, String.toList_ofList, jsonItems,
          List.append_assoc]
        rfl
  rw [jsonChars, ofValue, json, hitems]

/-- Every text of a value starts with a brace. -/
theorem exists_jsonChars_eq_cons (v : Value) : ∃ cs, jsonChars v = '\x7b' :: cs := by
  cases v with
  | scalar s => exact ⟨_, by rw [jsonChars_scalar, toList_jsonObject]; rfl⟩
  | list items => exact ⟨_, by rw [jsonChars_list, toList_jsonObject]; rfl⟩

/-- The elements of a list come apart if each of them shows where it ends. -/
theorem eq_of_jsonItems_append {items items' : List Value}
    (hitems : ∀ v ∈ items, Delimits jsonChars Value.IsFinite v)
    (hitems' : ∀ v ∈ items', v.IsFinite) {rest rest' : List Char}
    (h : jsonItems items ++ rest = jsonItems items' ++ rest') : items = items' ∧ rest = rest' := by
  cases items with
  | nil =>
      cases items' with
      | nil => simpa [jsonItems] using h
      | cons item' tail' =>
          obtain ⟨cs, htext⟩ := exists_jsonChars_eq_cons item'
          simp [jsonItems, htext] at h
  | cons item tail =>
      cases items' with
      | nil =>
          obtain ⟨cs, htext⟩ := exists_jsonChars_eq_cons item
          simp [jsonItems, htext] at h
      | cons item' tail' =>
          rw [List.forall_mem_cons] at hitems hitems'
          simp only [jsonItems, List.cons_append, List.append_assoc, List.cons.injEq, true_and,
            List.nil_append] at h
          obtain ⟨rfl, htail⟩ := hitems.1 item' hitems'.1 _ _ h
          have hcomma : ∀ v ∈ tail, Delimits (',' :: jsonChars ·) Value.IsFinite v := by
            intro v hv w hw cs cs' heq
            exact hitems.2 v hv w hw cs cs' (List.cons.inj heq).2
          obtain ⟨rfl, rfl⟩ := eq_of_flatMap_append_cons
            (fun v => ⟨',', jsonChars v, rfl, by decide⟩) hcomma hitems'.2 htail
          exact ⟨rfl, rfl⟩

theorem delimits_jsonChars {v : Value} (h : v.IsFinite) : Delimits jsonChars Value.IsFinite v := by
  induction h with
  | @scalar s hs =>
      intro w hw rest rest' heq
      cases hw with
      | @scalar t ht =>
          rw [jsonChars_scalar, jsonChars_scalar] at heq
          obtain ⟨htag, hpayload⟩ := eq_of_jsonObject_append heq
          obtain ⟨rfl, rfl⟩ := eq_of_jsonScalar_append hs ht htag hpayload
          exact ⟨rfl, rfl⟩
      | @list items each =>
          rw [jsonChars_scalar, jsonChars_list] at heq
          exact absurd (eq_of_jsonObject_append heq).1 (tag_ne_list s)
  | @list items each ih =>
      intro w hw rest rest' heq
      cases hw with
      | @scalar t ht =>
          rw [jsonChars_scalar, jsonChars_list] at heq
          exact absurd (eq_of_jsonObject_append heq).1.symm (tag_ne_list t)
      | @list items' each' =>
          rw [jsonChars_list, jsonChars_list] at heq
          have hpayload := (eq_of_jsonObject_append heq).2
          simp only [String.toList_ofList] at hpayload
          obtain ⟨rfl, hrest⟩ := eq_of_jsonItems_append ih each' hpayload
          exact ⟨rfl, (List.cons.inj hrest).2⟩

/-- No two values have the same JSON text. -/
theorem eq_of_json_eq {u v : Value} (hu : u.IsFinite) (hv : v.IsFinite)
    (h : (ofValue u).json = (ofValue v).json) : u = v := by
  have hchars : jsonChars u ++ [] = jsonChars v ++ [] := by rw [jsonChars, h, jsonChars]
  exact (delimits_jsonChars hu v hv [] [] hchars).1

end Tagged

end CellFormula
