/-!
# Sorted sets of texts

Where order does not matter, texts are shown in code point order, each once. `mem_sortedSet` says
that sorting keeps the members and adds none.
-/

namespace RowGuard.Text

/-- The members of a list in code point order, each once. -/
def sortedSet (names : List String) : List String :=
  names.eraseDups.mergeSort fun a b => decide (a ≤ b)

theorem mem_sortedSet {a : String} {names : List String} : a ∈ sortedSet names ↔ a ∈ names := by
  simp [sortedSet, List.mem_mergeSort]

end RowGuard.Text
