import DomQuery.Locator.Script

/-!
Where the literal stands in a script.

A script is a frame around one literal, and the frame has no quote in front of it. So the first
quote of a script opens the literal (`dropWhile_around`), and what stands before that quote is the
first half of the frame (`takeWhile_around`).
-/

namespace DomQuery.Script

open Text

/-! ### Two kinds of script -/

/-- What a script is asked for. -/
inductive Probe where
  | element
  | count
  deriving DecidableEq, Repr

namespace Probe

/-- The fixed texts around the literal. -/
def frame : Probe → Grammar → Frame
  | element => Grammar.elementFrame
  | count => Grammar.countFrame

/-- The script of a locator. -/
def script : Probe → Locator → String
  | element => Locator.elementScript
  | count => Locator.countScript

/-- The script of a locator, for a chosen class of hidden characters. -/
def scriptWith (hidden : Char → Bool) (p : Probe) (l : Locator) : String :=
  (p.frame l.grammar).around (quoteWith hidden l.value)

theorem scriptWith_isHidden : scriptWith isHidden = script := by
  funext p
  cases p <;> rfl

/-- All six frames differ. Those of an XPath expression differ only after the literal. -/
theorem frame_inj {p q : Probe} {g h : Grammar} : p.frame g = q.frame h ↔ p = q ∧ g = h := by
  cases p <;> cases q <;> cases g <;> cases h <;> decide

theorem quote_not_mem_frame (p : Probe) (g : Grammar) : '"' ∉ (p.frame g).before.toList := by
  cases p <;> cases g <;> decide

end Probe

/-! ### The first quote -/

section Around

variable {hidden : Char → Bool} {f : Frame} (hf : '"' ∉ f.before.toList) (value : String)

theorem toList_around (f : Frame) (value : String) :
    (f.around (quoteWith hidden value)).toList =
      f.before.toList ++ '"' :: (encode hidden value.toList ++ '"' :: f.after.toList) := by
  simp [Frame.around, toList_quoteWith]

include hf

theorem ne_quote_of_mem_before : ∀ c ∈ f.before.toList, decide (c ≠ '"') = true := by
  intro c hc
  exact decide_eq_true fun same => hf (same ▸ hc)

/-- What stands before the first quote is the first half of the frame. -/
theorem takeWhile_around :
    (f.around (quoteWith hidden value)).toList.takeWhile (· ≠ '"') = f.before.toList := by
  rw [toList_around, List.takeWhile_append_of_pos (ne_quote_of_mem_before hf)]
  simp

/-- The first quote opens the literal of the value. -/
theorem dropWhile_around :
    (f.around (quoteWith hidden value)).toList.dropWhile (· ≠ '"') =
      '"' :: (encode hidden value.toList ++ '"' :: f.after.toList) := by
  rw [toList_around, List.dropWhile_append_of_pos (ne_quote_of_mem_before hf)]
  simp

end Around

end DomQuery.Script
