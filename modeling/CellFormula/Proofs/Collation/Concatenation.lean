import CellFormula.Proofs.Collation.Case

/-! # Sort keys of joined texts

The key of a joined text is the key of its first part followed by the key of its second, level by
level, as long as no mark at the seam belongs to the first part. So a common beginning of two texts
does not matter to their order.
-/

namespace CellFormula.Collation

open Unicode

/-! ## Levels of keys -/

/-- Keys one after the other, on every level. -/
instance : Append SortKey where
  append a b := ⟨a.primary ++ b.primary, a.secondary ++ b.secondary, a.tertiary ++ b.tertiary⟩

@[simp] theorem SortKey.primary_append (a b : SortKey) :
    (a ++ b).primary = a.primary ++ b.primary := rfl

@[simp] theorem SortKey.secondary_append (a b : SortKey) :
    (a ++ b).secondary = a.secondary ++ b.secondary := rfl

@[simp] theorem SortKey.tertiary_append (a b : SortKey) :
    (a ++ b).tertiary = a.tertiary ++ b.tertiary := rfl

theorem SortKey.ofElements_append (es fs : List Element) :
    ofElements (es ++ fs) = ofElements es ++ ofElements fs := by
  simp only [ofElements, List.filterMap_append, List.map_append]
  rfl

/-- A common beginning of two sequences does not matter to their order. -/
theorem compare_append_left {α : Type} [Ord α] [Std.ReflOrd α] (common xs ys : List α) :
    compare (common ++ xs) (common ++ ys) = compare xs ys := by
  induction common with
  | nil => rfl
  | cons a common ih =>
      rw [List.cons_append, List.cons_append, List.compare_cons_cons, Std.ReflOrd.compare_self,
        Ordering.eq_then, ih]

theorem SortKey.cmp_append_left (common a b : SortKey) :
    (common ++ a).cmp (common ++ b) = a.cmp b := by
  simp only [cmp, primary_append, secondary_append, tertiary_append, compare_append_left]

/-! ## Texts that can be joined to others -/

/-- The text is empty, or its canonical form starts with a character that is no mark and that no
mark moves past. -/
def StartsAfresh (t : String) : Prop :=
  t = "" ∨ ∃ c ∈ (canonicalForm t.toList).head?, combiningClass c = 0 ∧ isMark c = false

namespace StartsAfresh

theorem head_spec {t : String} (h : StartsAfresh t) :
    ∀ c ∈ (canonicalForm t.toList).head?, combiningClass c = 0 ∧ isMark c = false := by
  rcases h with rfl | ⟨c, hc, hspec⟩
  · exact nofun
  · intro d hd
    obtain rfl : c = d := Option.mem_unique hc hd
    exact hspec

theorem exists_cons {t : String} (h : StartsAfresh t) (hne : t ≠ "") :
    ∃ c cs, canonicalForm t.toList = c :: cs := by
  rcases h with rfl | ⟨c, hc, -⟩
  · exact absurd rfl hne
  · exact ⟨c, _, List.eq_cons_of_mem_head? hc⟩

end StartsAfresh

/-- A text that does not start with a mark keeps its elements behind another. -/
theorem elements_append (before : List Char) {after : List Char}
    (h : ∀ c ∈ after.head?, isMark c = false) :
    elements (before ++ after) = elements before ++ elements after := by
  cases after with
  | nil => simp [elements]
  | cons c after => exact elements_append_cons (h c rfl) before after

theorem sortKey_append (s : String) {t : String} (h : StartsAfresh t) :
    sortKey (s ++ t) = sortKey s ++ sortKey t := by
  have hform : canonicalForm (s ++ t).toList =
      canonicalForm s.toList ++ canonicalForm t.toList := by
    rw [String.toList_append]
    exact canonicalForm_append _ fun c hc => (h.head_spec c hc).1
  rw [sortKey, hform, elements_append _ fun c hc => (h.head_spec c hc).2,
    SortKey.ofElements_append]
  rfl

/-! ## The order of joined texts -/

theorem collate_append_left (s : String) {t u : String} (ht : StartsAfresh t)
    (hu : StartsAfresh u) : collate (s ++ t) (s ++ u) = collate t u := by
  simp only [collate, sortKey_append s ht, sortKey_append s hu, SortKey.cmp_append_left,
    String.toList_append, List.map_append, compare_append_left]

/-- Every character gives a base first, if only that of its expansion. -/
theorem exists_baseElements (c : Char) : ∃ b es, baseElements c = .base b :: es := by
  unfold baseElements
  split
  · rename_i bases stroke hexpansion
    unfold expansion? at hexpansion
    split at hexpansion <;> cases hexpansion <;> exact ⟨_, _, rfl⟩
  · exact ⟨c, [], rfl⟩

theorem collate_empty {t : String} (h : StartsAfresh t) (hne : t ≠ "") : collate "" t = .lt := by
  obtain ⟨c, cs, hform⟩ := h.exists_cons hne
  obtain ⟨b, es, hbase⟩ := exists_baseElements c
  have hempty : (sortKey "").primary = [] := rfl
  have hprimary : (sortKey t).primary =
      weight b :: (es ++ cs.flatMap elementsOf).filterMap Element.weight? := by
    rw [sortKey, hform, elements, hbase]
    rfl
  have hprecedes : compare (sortKey "").primary (sortKey t).primary = .lt := by
    rw [hempty, hprimary, List.compare_nil_cons]
  rw [collate, SortKey.cmp, hprecedes]
  rfl

/-- Behind any text, a text that starts afresh adds its levels to those of the key, and two such
texts are ordered as they are by themselves. So a text comes before its continuations. -/
theorem collate_append (s t u : String) (ht : StartsAfresh t) (hu : StartsAfresh u) :
    (sortKey (s ++ t)).primary = (sortKey s).primary ++ (sortKey t).primary ∧
    (sortKey (s ++ t)).secondary = (sortKey s).secondary ++ (sortKey t).secondary ∧
    (sortKey (s ++ t)).tertiary = (sortKey s).tertiary ++ (sortKey t).tertiary ∧
    collate (s ++ t) (s ++ u) = collate t u ∧
    (t ≠ "" → collate s (s ++ t) = .lt) := by
  have hkey := sortKey_append s ht
  refine ⟨?_, ?_, ?_, collate_append_left s ht hu, fun hne => ?_⟩
  · rw [hkey, SortKey.primary_append]
  · rw [hkey, SortKey.secondary_append]
  · rw [hkey, SortKey.tertiary_append]
  · have hempty := collate_append_left s (.inl rfl) ht
    rwa [String.append_empty, collate_empty ht hne] at hempty

/-- Behind a letter with an accent, a letter whose two accents change places in canonical form and a
letter that is expanded. -/
theorem collate_append_accents :
    StartsAfresh "\u00e9\u0323" ∧ StartsAfresh "Ø" ∧
      (sortKey ("ße\u0301" ++ "\u00e9\u0323")).secondary = [0, 0, 0, 0x301, 0, 0x323, 0x301] ∧
      collate ("ße\u0301" ++ "\u00e9\u0323") ("ße\u0301" ++ "Ø") = .lt ∧
      collate "ße\u0301" ("ße\u0301" ++ "\u00e9\u0323") = .lt := by
  have ht : StartsAfresh "\u00e9\u0323" :=
    .inr ⟨'e', by decide +kernel, by decide +kernel, by decide +kernel⟩
  have hu : StartsAfresh "Ø" := .inr ⟨'Ø', by decide +kernel, by decide +kernel, by decide +kernel⟩
  obtain ⟨-, hsecondary, -, horder, hless⟩ := collate_append "ße\u0301" _ _ ht hu
  refine ⟨ht, hu, ?_, ?_, hless (by decide)⟩
  · rw [hsecondary]
    decide +kernel
  · rw [horder]
    decide +kernel

end CellFormula.Collation
