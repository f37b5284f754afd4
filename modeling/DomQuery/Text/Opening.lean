/-!
Texts that begin with a given text.

Main statements: `after?_eq_some_iff` and `opensWith_iff` say both tests as equations between texts.
-/

namespace DomQuery.Text

/-- What comes after the opening, if the text begins with it. -/
def after? (opening s : String) : Option String :=
  if opening.toList.isPrefixOf s.toList then
    some (String.ofList (s.toList.drop opening.toList.length))
  else none

theorem isPrefixOf_iff_eq_append {opening cs : List Char} :
    opening.isPrefixOf cs = true ↔ cs = opening ++ cs.drop opening.length := by
  rw [List.isPrefixOf_iff_prefix, List.prefix_iff_eq_append, eq_comm]

theorem after?_eq_some_iff {opening s rest : String} :
    after? opening s = some rest ↔ s = opening ++ rest := by
  rw [← String.toList_inj, String.toList_append, after?]
  split
  · rename_i h
    rw [Option.some.injEq, isPrefixOf_iff_eq_append.1 h, List.append_cancel_left_eq,
      List.drop_left, ← String.toList_inj, String.toList_ofList]
  · rename_i h
    simp only [reduceCtorEq, false_iff]
    intro same
    exact h (by simp [same])

/-- Whether the text begins with the opening. -/
def opensWith (opening s : String) : Bool := (after? opening s).isSome

theorem opensWith_iff {opening s : String} :
    opensWith opening s = true ↔ ∃ rest, s = opening ++ rest := by
  simp [opensWith, Option.isSome_iff_exists, after?_eq_some_iff]

end DomQuery.Text
