import DomQuery.Proofs.Outline.Strategy
import DomQuery.Proofs.Text.Trimmed

/-!
The selector of a chain of steps, step by step.

A chain that selectors can express is cut before each move (`Route`). The move opens a step, or the
start does, and the conditions up to the next move are added to that step alone. So the steps can be
rendered each by itself, and the selector is these texts with one space between two.

* `refineAll?_ofSteps`: the steps of a chain are put after those that are there already, whatever
  was finished before, as long as that is trimmed. Each move trims what it finishes, so it stays so.
* `text_of_open`: the text of such a selector.
* `finished_of_qualify`: conditions leave the finished text alone.
* `text_of_chain`: these facts, for the selectors that start at any element or at a tag.
-/

namespace DomQuery

open Text

/-! ### Routes -/

/-- A chain of steps, cut before each move. -/
structure Route where
  /-- What is said of the element at the start. -/
  here : List Qualifier
  /-- Each move, with what is said of the element it leads to. -/
  moves : List (Descent × List Qualifier)
  deriving DecidableEq, Repr

namespace Route

def ofChain : List Refinement → Route
  | [] => ⟨[], []⟩
  | .qualify q :: rs => ⟨q :: (ofChain rs).here, (ofChain rs).moves⟩
  | .descend d :: rs => ⟨[], (d, (ofChain rs).here) :: (ofChain rs).moves⟩

def toChain (route : Route) : List Refinement :=
  route.here.map .qualify ++ route.moves.flatMap fun leg => .descend leg.1 :: leg.2.map .qualify

/-- Cutting a chain loses nothing. -/
theorem toChain_ofChain (rs : List Refinement) : (ofChain rs).toChain = rs := by
  induction rs with
  | nil => rfl
  | cons r rs ih =>
      cases r with
      | qualify q => exact congrArg (.qualify q :: ·) ih
      | descend d => exact congrArg (.descend d :: ·) ih

end Route

namespace Css

/-! ### Steps of a route -/

/-- The step with the parts that state the conditions. -/
def Step.addAll (s : Step) (qs : List Qualifier) : Step := (qs.filterMap part?).foldl add s

theorem Step.isTrimmed_render (s : Step) : IsTrimmed s.render.toList := by
  rw [render, toList_trim]
  exact isTrimmed_trimChars _

/-- The steps of a route, each by itself; the first one is open at the start. -/
def stepsOf (first : Step) (route : Route) : List Step :=
  first.addAll route.here :: route.moves.map fun leg => (openStep leg.1).addAll leg.2

theorem stepsOf_qualify {q : Qualifier} {part : Part} (h : part? q = some part) (first : Step)
    (rs : List Refinement) :
    stepsOf first (.ofChain (.qualify q :: rs)) = stepsOf (first.add part) (.ofChain rs) := by
  simp [stepsOf, Route.ofChain, Step.addAll, h]

theorem stepsOf_descend (first : Step) (move : Descent) (rs : List Refinement) :
    stepsOf first (.ofChain (.descend move :: rs)) =
      first :: stepsOf (openStep move) (.ofChain rs) := rfl

/-- A selector can state each condition that does not need an expression. -/
theorem exists_part? {q : Qualifier} (h : (Refinement.qualify q).needsExpression = false) :
    ∃ part, part? q = some part := by
  have follows : ((Query.css .any).refine? (.qualify q)).isSome = true := by
    rw [Query.refine?_isSome]
    exact congrArg (!·) h
  obtain ⟨s, hs⟩ := Option.isSome_iff_exists.1 follows
  obtain ⟨t, ht, -⟩ := Option.map_eq_some_iff.1 hs
  obtain ⟨part, hpart, -⟩ := Option.map_eq_some_iff.1 ht
  exact ⟨part, hpart⟩

/-! ### Selectors along a chain -/

namespace Selector

/-- The selector after a chain, if CSS can express every step of it. -/
def refineAll? (s : Selector) (rs : List Refinement) : Option Selector := rs.foldlM refine? s

theorem refineAll?_append (s : Selector) (rs ss : List Refinement) :
    s.refineAll? (rs ++ ss) = (s.refineAll? rs).bind (·.refineAll? ss) := List.foldlM_append

theorem refineAll?_qualify (s : Selector) {q : Qualifier} {part : Part} (h : part? q = some part)
    (rs : List Refinement) : s.refineAll? (.qualify q :: rs) = (s.add part).refineAll? rs := by
  rw [refineAll?, List.foldlM_cons, refine?_qualify, h]
  rfl

theorem refineAll?_descend (s : Selector) (move : Descent) (rs : List Refinement) :
    s.refineAll? (.descend move :: rs) = (s.openNext (openStep move)).refineAll? rs := rfl

/-- A selector can follow each chain in which nothing needs an expression. -/
theorem exists_refineAll? {rs : List Refinement} (h : ∀ r ∈ rs, r.needsExpression = false)
    (s : Selector) : ∃ t, s.refineAll? rs = some t := by
  induction rs generalizing s with
  | nil => exact ⟨s, rfl⟩
  | cons r rs ih =>
      have later := ih fun r hr => h r (List.mem_cons_of_mem _ hr)
      cases r with
      | qualify q =>
          obtain ⟨part, hpart⟩ := exists_part? (h _ List.mem_cons_self)
          rw [refineAll?_qualify s hpart]
          exact later (s.add part)
      | descend move =>
          rw [refineAll?_descend]
          exact later (s.openNext (openStep move))

/-- The selector with these steps after a finished text. The last of them is open. -/
def ofSteps (finished : String) (steps : List Step) : Selector :=
  ⟨spaced (finished :: steps.dropLast.map Step.render), steps.getLast?⟩

theorem ofSteps_concat (finished : String) (done : List Step) (last : Step) :
    ofSteps finished (done ++ [last]) =
      ⟨spaced (finished :: done.map Step.render), some last⟩ := by
  simp [ofSteps]

section Finished

variable {finished : String} (trimmed : IsTrimmed finished.toList)

include trimmed

theorem isTrimmed_finished_ofSteps (steps : List Step) :
    IsTrimmed (ofSteps finished steps).finished.toList := by
  apply isTrimmed_spaced
  intro t ht
  rw [List.mem_cons, List.mem_map] at ht
  rcases ht with rfl | ⟨s, -, rfl⟩
  · exact trimmed
  · exact s.isTrimmed_render

theorem text_ofSteps {steps : List Step} (ne : steps ≠ []) :
    (ofSteps finished steps).text = spaced (finished :: steps.map Step.render) := by
  obtain ⟨done, last, rfl⟩ : ∃ done last, steps = done ++ [last] :=
    ⟨_, _, (List.dropLast_concat_getLast ne).symm⟩
  have front := isTrimmed_finished_ofSteps trimmed (done ++ [last])
  have cut : finished :: (done ++ [last]).map Step.render =
      (finished :: done.map Step.render) ++ [last.render] := by simp
  rw [ofSteps_concat] at front ⊢
  rw [cut, ← spaced_cons_spaced]
  exact trim_append_space front last.isTrimmed_render

/-- A move finishes the open step, and trims it together with what was finished before. -/
theorem openNext_ofSteps {steps : List Step} (ne : steps ≠ []) (next : Step) :
    (ofSteps finished steps).openNext next = ofSteps finished (steps ++ [next]) := by
  rw [openNext, text_ofSteps trimmed ne, ofSteps_concat]

/-- The steps of a chain come after those that are there already. -/
theorem refineAll?_ofSteps {rs : List Refinement} (h : ∀ r ∈ rs, r.needsExpression = false)
    (done : List Step) (first : Step) :
    (ofSteps finished (done ++ [first])).refineAll? rs =
      some (ofSteps finished (done ++ stepsOf first (.ofChain rs))) := by
  induction rs generalizing done first with
  | nil => rfl
  | cons r rs ih =>
      have later := ih fun r hr => h r (List.mem_cons_of_mem _ hr)
      cases r with
      | qualify q =>
          obtain ⟨part, hpart⟩ := exists_part? (h _ List.mem_cons_self)
          have added : (ofSteps finished (done ++ [first])).add part =
              ofSteps finished (done ++ [first.add part]) := by
            rw [ofSteps_concat, ofSteps_concat]
            rfl
          rw [refineAll?_qualify _ hpart, added, later, stepsOf_qualify hpart]
      | descend move =>
          have ne : done ++ [first] ≠ [] := by simp
          rw [refineAll?_descend, openNext_ofSteps trimmed ne, later, stepsOf_descend,
            List.append_assoc]
          rfl

/-- What is finished, then the open step and the steps of the chain, each rendered by itself. -/
theorem text_of_open {rs : List Refinement} (h : ∀ r ∈ rs, r.needsExpression = false)
    (first : Step) :
    ∃ s, refineAll? ⟨finished, some first⟩ rs = some s ∧
      s.text = spaced (finished :: (stepsOf first (.ofChain rs)).map Step.render) := by
  have start : ⟨finished, some first⟩ = ofSteps finished [first] := by
    rw [ofSteps, List.dropLast_singleton, List.map_nil, spaced_singleton]
    rfl
  rw [start]
  exact ⟨_, refineAll?_ofSteps trimmed h [] first, text_ofSteps trimmed (List.cons_ne_nil _ _)⟩

end Finished

/-- Conditions leave the finished text alone. -/
theorem finished_of_qualify {s t : Selector} {rs : List Refinement}
    (stay : ∀ r ∈ rs, r.isDescent = false) (h : s.refineAll? rs = some t) :
    t.finished = s.finished := by
  induction rs generalizing s with
  | nil => cases h; rfl
  | cons r rs ih =>
      obtain ⟨u, step, rest⟩ := Option.bind_eq_some_iff.1 h
      have kept := ih (fun r hr => stay r (List.mem_cons_of_mem _ hr)) rest
      cases r with
      | qualify q =>
          obtain ⟨part, -, rfl⟩ := Option.map_eq_some_iff.1 step
          exact kept
      | descend move => cases stay _ List.mem_cons_self

/-- What is finished after a move is all that was written before it. -/
theorem finished_after_move {s t : Selector} {before after : List Refinement} {move : Descent}
    (stay : ∀ r ∈ after, r.isDescent = false)
    (h : s.refineAll? (before ++ .descend move :: after) = some t) :
    ∃ u, s.refineAll? before = some u ∧ t.finished = u.text := by
  rw [refineAll?_append, Option.bind_eq_some_iff] at h
  obtain ⟨u, reached, rest⟩ := h
  rw [refineAll?_descend] at rest
  exact ⟨u, reached, finished_of_qualify stay rest⟩

/-- **A selector is its steps, rendered one by one.** A chain in which nothing needs an expression
is followed to its end. The text is that of the steps of the chain, those written as nothing left
out, with one space between two. What is finished is the selector as it was before the last move, or
nothing if there was no move. -/
theorem text_of_chain (tag : Option String) {rs : List Refinement}
    (h : ∀ r ∈ rs, r.needsExpression = false) :
    (Route.ofChain rs).toChain = rs ∧
      ∃ s, (tag.elim any ofTag).refineAll? rs = some s ∧
        s.text = spaced ((stepsOf { tag := tag } (.ofChain rs)).map Step.render) ∧
        ((∀ r ∈ rs, r.isDescent = false) → s.finished = "") ∧
        ∀ before move after, rs = before ++ .descend move :: after →
          (∀ r ∈ after, r.isDescent = false) →
          ∃ t, (tag.elim any ofTag).refineAll? before = some t ∧ s.finished = t.text := by
  have opens : tag.elim any ofTag = ⟨"", some { tag := tag }⟩ := by cases tag <;> rfl
  have nothing : IsTrimmed "".toList := isTrimmed_nil
  obtain ⟨s, refined, shown⟩ := text_of_open nothing h { tag := tag }
  rw [opens]
  refine ⟨Route.toChain_ofChain rs, s, refined, ?_, ?_, ?_⟩
  · rw [shown, spaced_empty_cons]
  · intro stay
    exact finished_of_qualify stay refined
  · rintro before move after rfl stay
    exact finished_after_move stay refined

/-- The second cell of a row, past a step for a blank tag. -/
def cellOfRow : List Refinement :=
  [.qualify (.hasClass "row"), .descend (.inside " "), .descend (.child "td"), .qualify (.isNth 2)]

/-- The blank tag is written as nothing and leaves no space behind. -/
theorem text_of_chain_cellOfRow :
    (∀ r ∈ cellOfRow, r.needsExpression = false) ∧
      ∃ s, any.refineAll? cellOfRow = some s ∧ s.text = ".row > td:nth-child(2)" := by
  have selectors : ∀ r ∈ cellOfRow, r.needsExpression = false := by decide
  obtain ⟨-, s, refined, shown, -⟩ := text_of_chain none selectors
  exact ⟨selectors, s, refined, shown.trans (by decide +kernel)⟩

end Selector
end Css
end DomQuery
