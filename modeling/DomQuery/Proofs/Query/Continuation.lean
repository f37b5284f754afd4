import DomQuery.Proofs.Css.Chain
import DomQuery.Proofs.Text.Stretch
import DomQuery.Proofs.XPath.Chain

/-!
Steps that come after an appended description.

In an expression they continue the appended part as if it stood alone, to the letter. A selector
that was joined from two is closed, so a condition does not reach into the appended part: it opens a
step after it. What the steps write comes after the words of both parts in any case
(`shownWords_refineAll?`), and spaces are all that trimming can take from these.

* `later_steps_keep_appended`: the law of each grammar.
-/

namespace DomQuery

open Text

namespace Css.Selector

/-- The words of the whole selector. -/
def shownWords (s : Selector) : List (List Char) := words s.text.toList

theorem shownWords_append (s t : Selector) :
    (s.append t).shownWords = s.shownWords ++ t.shownWords := by
  rw [shownWords, text_append, words_append_space]
  rfl

/-- The finished text shows its words, whatever step is open after it. -/
theorem shownWords_mk (finished : String) (current : Option Step) :
    shownWords ⟨finished, current⟩ = words finished.toList ++ shownWords ⟨"", current⟩ := by
  cases current with
  | none => simp [shownWords, text]
  | some step =>
      simp only [shownWords, text, toList_trim, words_trimChars, words_append_space]
      simp

/-- The words of a chain come after those of the finished text, and are the same after any. -/
theorem shownWords_refineAll? (finished : String) (current : Option Step) (rs : List Refinement) :
    (refineAll? ⟨finished, current⟩ rs).map shownWords =
      (refineAll? ⟨"", current⟩ rs).map fun t => words finished.toList ++ t.shownWords := by
  induction rs generalizing finished current with
  | nil => exact congrArg some (shownWords_mk finished current)
  | cons r rs ih =>
      cases r with
      | qualify q =>
          cases hq : part? q with
          | none => simp [refineAll?, refine?, hq]
          | some part =>
              rw [refineAll?_qualify _ hq, refineAll?_qualify _ hq]
              exact ih finished _
      | descend move =>
          -- The open step is finished on both sides, and the chain goes on from a fresh one.
          have cut := fun f => ih (text ⟨f, current⟩) (some (openStep move))
          have shown : words (text ⟨finished, current⟩).toList =
              words finished.toList ++ words (text ⟨"", current⟩).toList :=
            shownWords_mk finished current
          have fromNothing := congrArg (Option.map (words finished.toList ++ ·)) (cut "")
          rw [Option.map_map, Option.map_map] at fromNothing
          rw [refineAll?_descend, refineAll?_descend, openNext, openNext, cut finished, shown]
          simpa [Function.comp_def, List.append_assoc] using fromNothing.symm

/-- A move closes the open step first, so the words before it stay together. -/
theorem shownWords_refineAll?_descend (s : Selector) (move : Descent) (rs : List Refinement) :
    (s.refineAll? (.descend move :: rs)).map shownWords =
      ((ofText "").refineAll? (.descend move :: rs)).map fun t => s.shownWords ++ t.shownWords := by
  rw [refineAll?_descend, refineAll?_descend, openNext, openNext, shownWords_refineAll?]
  rfl

end Css.Selector

/-- **Later steps never change an appended part.** In expressions a chain after an appended part is
the appended part followed by the chain. In selectors the words after the chain are those of the
first part, those of the appended part, and those that the chain has by itself; if the chain begins
with a move, these are the words of the first part joined with the second part followed by the
chain. -/
theorem later_steps_keep_appended (rs : List Refinement) :
    ((∀ r ∈ rs, r.needsSelector = false) → ∀ e f : XPath.Expression,
      ∃ g, f.refineAll? rs = some g ∧ (e.append f).refineAll? rs = some (e.append g)) ∧
    ((∀ r ∈ rs, r.needsExpression = false) → ∀ s t : Css.Selector,
      ∃ after own, (s.append t).refineAll? rs = some after ∧
        (Css.Selector.ofText "").refineAll? rs = some own ∧
        after.shownWords = s.shownWords ++ t.shownWords ++ own.shownWords ∧
        ∀ move rest, rs = .descend move :: rest →
          ∃ u, t.refineAll? rs = some u ∧ after.shownWords = (s.append u).shownWords) := by
  constructor
  · intro follows e f
    obtain ⟨suffix, hsuffix⟩ := XPath.exists_suffixAll? follows
    have reached : f.refineAll? rs = some ⟨f.text ++ suffix⟩ := by
      rw [XPath.Expression.refineAll?_eq, hsuffix, Option.map_some]
    exact ⟨_, reached, by rw [XPath.Expression.append_refineAll?, reached, Option.map_some]⟩
  · intro follows s t
    obtain ⟨after, reached⟩ := Css.Selector.exists_refineAll? follows (s.append t)
    obtain ⟨own, reachedOwn⟩ := Css.Selector.exists_refineAll? follows (.ofText "")
    have shown : after.shownWords = s.shownWords ++ t.shownWords ++ own.shownWords := by
      have law := Css.Selector.shownWords_refineAll? (s.append t).finished none rs
      rw [show Css.Selector.mk (s.append t).finished none = s.append t from rfl, reached,
        show Css.Selector.mk "" none = .ofText "" from rfl, reachedOwn] at law
      rw [← Css.Selector.shownWords_append]
      exact Option.some.inj law
    refine ⟨after, own, reached, reachedOwn, shown, ?_⟩
    rintro move rest rfl
    obtain ⟨u, reachedU⟩ := Css.Selector.exists_refineAll? follows t
    have law := Css.Selector.shownWords_refineAll?_descend t move rest
    rw [reachedU, reachedOwn] at law
    have shownU : u.shownWords = t.shownWords ++ own.shownWords := Option.some.inj law
    refine ⟨u, reachedU, ?_⟩
    rw [shown, Css.Selector.shownWords_append, shownU, List.append_assoc]

/-- Stressed text right inside what is marked. -/
def markedStress : List Refinement := [.qualify (.hasClass "on"), .descend (.child "em")]

/-- The expression qualifies the appended link. The selector, joined from two ragged texts, has a
step of its own for the mark. -/
theorem later_steps_keep_appended_markedStress :
    (∀ r ∈ markedStress, r.needsSelector = false) ∧
      (∀ r ∈ markedStress, r.needsExpression = false) ∧
      ((XPath.Expression.mk "//ul").append ⟨"//a"⟩).refineAll? markedStress =
        some ⟨"//ul//a[contains(concat(' ', @class, ' '), ' on ')]/em"⟩ ∧
      ∃ after, ((Css.Selector.ofText " ul  li ").append (.ofText "a\t")).refineAll? markedStress =
          some after ∧
        after.shownWords = ["ul", "li", "a", ".on", ">", "em"].map String.toList := by
  have expressions : ∀ r ∈ markedStress, r.needsSelector = false := by decide
  have selectors : ∀ r ∈ markedStress, r.needsExpression = false := by decide
  obtain ⟨xpath, css⟩ := later_steps_keep_appended markedStress
  obtain ⟨g, reached, continued⟩ := xpath expressions ⟨"//ul"⟩ ⟨"//a"⟩
  obtain ⟨after, own, reachedAfter, reachedOwn, shown, -⟩ :=
    css selectors (.ofText " ul  li ") (.ofText "a\t")
  refine ⟨expressions, selectors, ?_, after, reachedAfter, ?_⟩
  · cases reached
    exact continued
  · cases reachedOwn
    rw [shown]
    decide +kernel

end DomQuery
