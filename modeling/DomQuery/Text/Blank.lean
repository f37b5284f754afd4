import DomQuery.Text.CharClass

/-!
White space, and texts without white space at their ends.

The class is the Unicode property `White_Space`, which is wider than the ASCII blanks: it holds the
line separators, the no-break spaces and the spaces of fixed width. Main statement:
`exists_append_trimChars`, trimming only removes from the two ends.
-/

namespace DomQuery.Text

/-! ### The class -/

/-- The Unicode property `White_Space`. -/
def blanks : CharClass where
  ranges :=
    [(0x9, 0xD), (0x20, 0x20), (0x85, 0x85), (0xA0, 0xA0), (0x1680, 0x1680), (0x2000, 0x200A),
     (0x2028, 0x2029), (0x202F, 0x202F), (0x205F, 0x205F), (0x3000, 0x3000)]

def isBlank (c : Char) : Bool := blanks.contains c

/-! ### Trimming -/

/-- The characters between the first and the last that are not blank. -/
def trimChars (cs : List Char) : List Char :=
  ((cs.dropWhile isBlank).reverse.dropWhile isBlank).reverse

/-- The text without the blanks at its two ends; blanks inside stay. -/
def trim (s : String) : String := String.ofList (trimChars s.toList)

@[simp] theorem toList_trim (s : String) : (trim s).toList = trimChars s.toList := by
  simp [trim]

/-- What trimming removes is a run of blanks on either side. -/
theorem exists_append_trimChars (cs : List Char) :
    ∃ front back, cs = front ++ trimChars cs ++ back ∧
      (∀ c ∈ front, isBlank c = true) ∧ ∀ c ∈ back, isBlank c = true := by
  refine ⟨cs.takeWhile isBlank, ((cs.dropWhile isBlank).reverse.takeWhile isBlank).reverse,
    ?_, fun c h => ?_, fun c h => ?_⟩
  · rw [trimChars, List.append_assoc, ← List.reverse_append, List.takeWhile_append_dropWhile,
      List.reverse_reverse, List.takeWhile_append_dropWhile]
  · exact List.all_eq_true.1 List.all_takeWhile c h
  · exact List.all_eq_true.1 List.all_takeWhile c (List.mem_reverse.1 h)

end DomQuery.Text
