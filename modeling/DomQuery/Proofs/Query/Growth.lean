import DomQuery.Proofs.Css.Chain
import DomQuery.Proofs.XPath.Chain

/-!
What was written stays at the front.

An expression only grows at its end, by a text that the chain alone decides. A selector is rendered
and trimmed anew at every step, but trimming leaves a finished text at the front whatever is written
after it (`trim_append_eq`). So once a text is finished, no later step touches it (`IsBehind`), and
every step finishes it except a condition on the open step.

* `Css.Selector.IsBehind.refineAll?`: steps keep what a selector stands behind.
* `written_text_stays`: the law of each grammar.
-/

namespace DomQuery

open Text

namespace Css.Selector

/-- The selector has an open step, and its finished text begins with `front`. -/
structure IsBehind (front : String) (s : Selector) : Prop where
  opened : s.current.isSome = true
  finished : ∃ later, trim s.finished = front ++ later

/-- With a step open, the text is what is finished and the step, trimmed. -/
theorem exists_text_eq_trim {s : Selector} (opened : s.current.isSome = true) :
    ∃ step, s.text = trim (s.finished ++ step) := by
  obtain ⟨step, current⟩ := Option.isSome_iff_exists.1 opened
  refine ⟨" " ++ step.render, ?_⟩
  rw [Selector.text, current, ← String.append_assoc]

/-- The text of a selector begins with what its finished text begins with. -/
theorem IsBehind.text {front : String} {s : Selector} (h : s.IsBehind front) :
    ∃ later, s.text = front ++ later := by
  obtain ⟨step, rendered⟩ := exists_text_eq_trim h.opened
  obtain ⟨later, finished⟩ := h.finished
  obtain ⟨more, written⟩ := trim_append_eq s.finished step
  exact ⟨later ++ more, by rw [rendered, written, finished, String.append_assoc]⟩

theorem trim_text {s : Selector} (opened : s.current.isSome = true) : trim s.text = s.text := by
  obtain ⟨step, rendered⟩ := exists_text_eq_trim opened
  rw [rendered, trim_trim]

/-- A step keeps what the selector stands behind. -/
theorem IsBehind.refine? {front : String} {s t : Selector} {r : Refinement} (h : s.IsBehind front)
    (step : s.refine? r = some t) : t.IsBehind front := by
  cases r with
  | qualify q =>
      obtain ⟨part, -, rfl⟩ := Option.map_eq_some_iff.1 step
      exact ⟨rfl, h.finished⟩
  | descend move =>
      cases step
      obtain ⟨later, shown⟩ := h.text
      exact ⟨rfl, later, (trim_text h.opened).trans shown⟩

theorem IsBehind.refineAll? {front : String} {s t : Selector} {rs : List Refinement}
    (h : s.IsBehind front) (run : s.refineAll? rs = some t) : t.IsBehind front := by
  induction rs generalizing s with
  | nil => cases run; exact h
  | cons r rs ih =>
      obtain ⟨u, step, rest⟩ := Option.bind_eq_some_iff.1 run
      exact ih (h.refine? step) rest

/-- A move, and any step when none is open, leaves the whole text behind the next step. -/
theorem isBehind_text {s t : Selector} {r : Refinement}
    (fresh : r.isDescent = true ∨ s.current = none) (step : s.refine? r = some t) :
    t.IsBehind (trim s.text) := by
  cases r with
  | descend move =>
      cases step
      exact ⟨rfl, "", String.append_empty.symm⟩
  | qualify q =>
      obtain ⟨part, -, rfl⟩ := Option.map_eq_some_iff.1 step
      have closed : s.current = none := fresh.resolve_left (by simp [Refinement.isDescent])
      refine ⟨rfl, "", ?_⟩
      rw [finished_add, Selector.text, closed, String.append_empty]

end Css.Selector

/-- **What is written stays at the front.** A chain that expressions can follow writes the same text
after every expression. A chain that selectors can follow, if it does not begin with a condition on
an open step, leaves the text of the selector, without the blanks at its ends, to the letter at the
front of what it leads to. -/
theorem written_text_stays (rs : List Refinement) :
    ((∀ r ∈ rs, r.needsSelector = false) →
      ∃ written, ∀ e : XPath.Expression, e.refineAll? rs = some ⟨e.text ++ written⟩) ∧
    ((∀ r ∈ rs, r.needsExpression = false) → ∀ s : Css.Selector, rs ≠ [] →
      ((∃ move rest, rs = .descend move :: rest) ∨ s.current = none) →
      ∃ t later, s.refineAll? rs = some t ∧ t.text = trim s.text ++ later) := by
  constructor
  · intro follows
    obtain ⟨written, hwritten⟩ := XPath.exists_suffixAll? follows
    refine ⟨written, fun e => ?_⟩
    rw [XPath.Expression.refineAll?_eq, hwritten, Option.map_some]
  · intro follows s ne fresh
    obtain ⟨t, reached⟩ := Css.Selector.exists_refineAll? follows s
    obtain ⟨r, rest, rfl⟩ := List.exists_cons_of_ne_nil ne
    obtain ⟨u, step, run⟩ := Option.bind_eq_some_iff.1 reached
    have leaves : r.isDescent = true ∨ s.current = none := by
      rcases fresh with ⟨move, later, begins⟩ | closed
      · cases begins
        exact .inl rfl
      · exact .inr closed
    obtain ⟨later, shown⟩ := ((Css.Selector.isBehind_text leaves step).refineAll? run).text
    exact ⟨t, later, reached, shown⟩

/-- A marked element, past a step for a blank tag. -/
def markedInside : List Refinement :=
  [.descend (.inside " "), .descend (.child "em"), .qualify (.hasClass "on")]

/-- The blank step goes, together with the last blank of the text that was given; the blanks inside
the text stay. -/
theorem written_text_stays_markedInside :
    (∀ r ∈ markedInside, r.needsSelector = false) ∧
      (∀ r ∈ markedInside, r.needsExpression = false) ∧ markedInside ≠ [] ∧
      (∃ written, ∀ e : XPath.Expression, e.refineAll? markedInside = some ⟨e.text ++ written⟩) ∧
      ∃ t later, (Css.Selector.ofText " ul  li ").refineAll? markedInside = some t ∧
        t.text = "ul  li" ++ later := by
  have expressions : ∀ r ∈ markedInside, r.needsSelector = false := by decide
  have selectors : ∀ r ∈ markedInside, r.needsExpression = false := by decide
  have ne : markedInside ≠ [] := List.cons_ne_nil _ _
  obtain ⟨xpath, css⟩ := written_text_stays markedInside
  obtain ⟨t, later, reached, shown⟩ := css selectors (.ofText " ul  li ") ne (.inr rfl)
  have trimmed : trim (Css.Selector.ofText " ul  li ").text = "ul  li" := by decide +kernel
  exact ⟨expressions, selectors, ne, xpath expressions, t, later, reached, trimmed ▸ shown⟩

end DomQuery
