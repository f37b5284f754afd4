import DomQuery.Proofs.Css.Places
import DomQuery.Proofs.XPath.WellFormed
import DomQuery.Text.Opening

/-!
Which refinements leave the element.

A move leaves the element in both grammars: a selector finishes its text and opens a step with
nothing in it, and an expression goes on with a slash. A condition leaves it in neither: a selector
keeps its finished text and changes one place of the open step, and an expression gets a predicate.
Each of them does so at every selector and every expression, or is refused at each; and no condition
is refused by both grammars.

* `Css.Step.changesAt_add`: a part changes one place of a step.
* `Refinement.leaves_descend`, `Refinement.stays_qualify`: what each kind of refinement does.
* `Refinement.isDescent_iff_leaves`: so the kinds are told apart by what the grammars do.
-/

namespace DomQuery

open Text

/-! ### Steps of a selector -/

namespace Css

namespace Step

/-- The texts in a place of the step. -/
def textsIn (s : Step) : Place → List String
  | .id => s.id.toList
  | .classes => s.classes
  | .pseudoClasses => s.pseudoClasses
  | .conditions => s.conditions

/-- The step has nothing in any place. -/
def IsFresh (s : Step) : Prop := ∀ place, s.textsIn place = []

/-- The step `t` is `s` with something new in one place: another id, or one more text at the end. -/
structure ChangesAt (place : Place) (s t : Step) : Prop where
  combinator : t.combinator = s.combinator
  tag : t.tag = s.tag
  elsewhere : ∀ other, other ≠ place → t.textsIn other = s.textsIn other
  here : ∃ text, t.textsIn place = if place = .id then [text] else s.textsIn place ++ [text]

theorem isFresh_openStep (move : Descent) : (openStep move).IsFresh := by
  intro place
  cases move <;> cases place <;> rfl

theorem changesAt_add (s : Step) (part : Part) : s.ChangesAt part.place (s.add part) where
  combinator := combinator_add s part
  tag := tag_add s part
  elsewhere := by
    intro other ne
    have nothing : part.textsAt other = [] := if_neg ne.symm
    rw [add_eq]
    cases other <;> simp [textsIn, nothing]
  here := by
    cases part with
    | id value => exact ⟨value, rfl⟩
    | className name => exact ⟨name, rfl⟩
    | pseudoClass text => exact ⟨text, rfl⟩
    | condition text => exact ⟨text, rfl⟩

end Step
end Css

/-! ### Predicates of an expression -/

namespace XPath

theorem opensWith_locationStep (move : Descent) : opensWith "/" (locationStep move) = true := by
  rw [opensWith_iff]
  cases move with
  | anyInside => exact ⟨"/*", rfl⟩
  | inside tag => exact ⟨"/" ++ tag, by rw [← String.append_assoc]; rfl⟩
  | child tag => exact ⟨tag, rfl⟩

theorem classTest_ne_empty (name : String) : classTest name ≠ "" := by
  unfold classTest
  simp

/-- Only a choice from no classes is written as nothing. -/
theorem condition?_eq_empty_iff {q : Qualifier} : condition? q = some "" ↔ q = .hasAnyClass [] := by
  constructor
  · intro h
    cases q with
    | hasAnyClass names =>
        by_contra other
        have ne : names.map classTest ≠ [] := by simpa using other
        refine intercalate_ne_empty ne ?_ (Option.some.inj h)
        intro test mem
        obtain ⟨name, -, rfl⟩ := List.mem_map.1 mem
        exact classTest_ne_empty name
    | hasClass name => exact absurd (Option.some.inj h) (classTest_ne_empty name)
    | textIs text => by_cases none : text = "" <;> simp [condition?, none, emptiness] at h
    | isNth position => exact absurd (Option.some.inj h) (isNumber_toString _).1
    | isNthOfType position => exact absurd (Option.some.inj h) (isNumber_toString _).1
    | isChecked => cases h
    | _ => simp [condition?, negation, emptiness] at h
  · rintro rfl
    rfl

end XPath

/-! ### Both grammars -/

namespace Refinement

/-- Both grammars follow the refinement to another element, wherever they are. A selector finishes
all of its text and opens a step that has nothing in it; an expression goes on with a slash. -/
structure Leaves (r : Refinement) : Prop where
  selector : ∃ step : Css.Step, step.IsFresh ∧
    ∀ s : Css.Selector, s.refine? r = some ⟨s.text, some step⟩
  expression : ∃ written, opensWith "/" written = true ∧
    ∀ e : XPath.Expression, e.refine? r = some ⟨e.text ++ written⟩

/-- Neither grammar follows the refinement to another element, and one of them states it. A selector
refuses it or changes one place of the open step; an expression refuses it or gets a predicate,
which is empty only for a choice from no classes. -/
structure Stays (r : Refinement) : Prop where
  selector : (∀ s : Css.Selector, s.refine? r = none) ∨
    ∃ place, ∀ s : Css.Selector, ∃ step,
      s.refine? r = some ⟨s.finished, some step⟩ ∧ s.lastStep.ChangesAt place step
  expression : (∀ e : XPath.Expression, e.refine? r = none) ∨
    ∃ condition, (condition = "" → r = .qualify (.hasAnyClass [])) ∧
      ∀ e : XPath.Expression, e.refine? r = some ⟨e.text ++ ("[" ++ condition ++ "]")⟩
  stated : ∀ (s : Css.Selector) (e : XPath.Expression),
    (s.refine? r).isSome = true ∨ (e.refine? r).isSome = true

theorem leaves_descend (move : Descent) : (Refinement.descend move).Leaves where
  selector :=
    ⟨Css.openStep move, Css.Step.isFresh_openStep move, fun s => s.refine?_descend move⟩
  expression := ⟨XPath.locationStep move, XPath.opensWith_locationStep move, fun _ => rfl⟩

/-- What a selector cannot state, an expression can. -/
theorem selector_or_expression (r : Refinement) (s : Css.Selector) (e : XPath.Expression) :
    (s.refine? r).isSome = true ∨ (e.refine? r).isSome = true := by
  have css : (s.refine? r).isSome = r.fits .css :=
    Option.isSome_map.symm.trans (Query.refine?_isSome (.css s) r)
  have xpath : (e.refine? r).isSome = r.fits .xpath :=
    Option.isSome_map.symm.trans (Query.refine?_isSome (.xpath e) r)
  rw [css, xpath]
  cases checked : r.needsSelector with
  | false => exact .inr (congrArg (!·) checked)
  | true =>
      rw [needsSelector_iff.1 checked]
      exact .inl rfl

theorem stays_qualify (q : Qualifier) : (Refinement.qualify q).Stays where
  selector := by
    cases h : Css.part? q with
    | none => exact .inl fun s => by rw [Css.Selector.refine?_qualify, h, Option.map_none]
    | some part =>
        refine .inr ⟨part.place, fun s => ⟨s.lastStep.add part, ?_, s.lastStep.changesAt_add part⟩⟩
        rw [Css.Selector.refine?_qualify, h, Option.map_some, Css.Selector.add_eq]
  expression := by
    cases h : XPath.condition? q with
    | none => exact .inl fun e => by simp [XPath.Expression.refine?, XPath.suffix?, h]
    | some condition =>
        refine .inr ⟨condition, ?_, fun e => by simp [XPath.Expression.refine?, XPath.suffix?, h]⟩
        rintro rfl
        rw [XPath.condition?_eq_empty_iff.1 h]
  stated := selector_or_expression (.qualify q)

/-- A predicate is no location step. -/
theorem Leaves.not_stays {r : Refinement} (leaves : r.Leaves) : ¬ r.Stays := by
  intro stays
  obtain ⟨written, slash, follows⟩ := leaves.expression
  have follows := follows ⟨""⟩
  rcases stays.expression with refused | ⟨condition, -, states⟩
  · rw [refused] at follows
    cases follows
  · rw [states, Option.some.injEq, XPath.Expression.mk.injEq, String.append_right_inj] at follows
    obtain ⟨rest, cut⟩ := opensWith_iff.1 slash
    have same := congrArg (·.toList.head?) (follows.trans cut)
    simp at same

/-- **A refinement is a move exactly when both grammars leave the element.** A move is followed at
every selector and every expression, and a condition leaves the element in neither grammar, from no
selector and no expression. -/
theorem isDescent_iff_leaves (r : Refinement) :
    (r.isDescent = true ↔ r.Leaves) ∧ (r.isDescent = false ↔ r.Stays) := by
  cases r with
  | qualify q =>
      have stays := stays_qualify q
      exact ⟨iff_of_false nofun fun leaves => leaves.not_stays stays,
        iff_of_true rfl stays⟩
  | descend move =>
      have leaves := leaves_descend move
      exact ⟨iff_of_true rfl leaves, iff_of_false nofun leaves.not_stays⟩

end Refinement
end DomQuery
