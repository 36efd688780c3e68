import CellFormula.Collation.SortKey

/-! # The order of texts -/

namespace CellFormula.Collation

def SortKey.cmp (a b : SortKey) : Ordering :=
  (compare a.primary b.primary).then
    ((compare a.secondary b.secondary).then (compare a.tertiary b.tertiary))

/-- Compare two texts level by level, and by their code points if all levels agree. Only identical
texts are equal. -/
def collate (a b : String) : Ordering :=
  ((sortKey a).cmp (sortKey b)).then (compare (a.toList.map Char.toNat) (b.toList.map Char.toNat))

/-- Texts in ascending order. -/
def sort (texts : List String) : List String :=
  texts.mergeSort fun a b => (collate a b).isLE

end CellFormula.Collation
