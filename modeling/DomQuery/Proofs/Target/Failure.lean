import DomQuery.Event
import DomQuery.Proofs.Target.Append
import Mathlib.Tactic.TFAE

/-!
Descriptions that cannot be satisfied: nothing brings them back, and rendering says so.

A description fails in one of two forms, as impossible or as a composite without queries. What is
done with a description is refining it, appending another to it or appending it to another (`Use`).
None of these revives it, in either form (`Use.isSatisfiable_apply`), so no run of them does
(`isSatisfiable_useAll`).

The three renderings ask for the same query, and so succeed on the same descriptions: `RendersAs`
says what they give then, `FailsToRender` what they give on the others, and `Reports` what each of
them reports.

* `unsatisfiable_for_good`: both facts, for descriptions of any form.
-/

namespace DomQuery

/-! ### What is done with a description -/

/-- One thing that is done with a description. -/
inductive Use where
  | refine (refinement : Refinement)
  /-- Another description is appended to it. -/
  | extend (inner : Target)
  /-- It is appended to another description. -/
  | nest (outer : Target)
  deriving DecidableEq, Repr

def Use.apply : Use → Target → Target
  | refine r, t => t.refine r
  | extend u, t => t.append u
  | nest u, t => u.append t

namespace Target

/-- What becomes of a description that is used again and again. -/
def useAll (t : Target) (uses : List Use) : Target := uses.foldl (fun u use => use.apply u) t

theorem useAll_cons (t : Target) (use : Use) (uses : List Use) :
    t.useAll (use :: uses) = (use.apply t).useAll uses := rfl

/-! ### No use brings a description back -/

theorem isSatisfiable_refine {t : Target} (h : t.isSatisfiable = false) (r : Refinement) :
    (t.refine r).isSatisfiable = false := by
  rw [isSatisfiable_eq_false_iff] at h ⊢
  rw [queries_refine, h, List.filterMap_nil]

theorem append_eq_impossible {u : Target} (h : u.isSatisfiable = false) (t : Target) :
    t.append u = impossible := by
  unfold append reportedAppend
  rw [if_neg (Bool.eq_false_iff.1 h)]

theorem isSatisfiable_append_left {t : Target} (h : t.isSatisfiable = false) (u : Target) :
    (t.append u).isSatisfiable = false := by
  cases t with
  | single q => cases h
  | impossible => rw [impossible_append]; rfl
  | composite c =>
      cases u with
      | single p => rfl
      | impossible => rfl
      | composite d =>
          rw [composite_append_composite]
          by_cases hd : d.isSatisfiable = true
          · rw [if_pos hd]
            exact Composite.isSatisfiable_append_of_left h d
          · rw [if_neg hd]
            rfl

end Target

/-- One use does not bring a description back. -/
theorem Use.isSatisfiable_apply (use : Use) {t : Target} (h : t.isSatisfiable = false) :
    (use.apply t).isSatisfiable = false := by
  cases use with
  | refine r => exact Target.isSatisfiable_refine h r
  | extend u => exact Target.isSatisfiable_append_left h u
  | nest u => rw [apply, Target.append_eq_impossible h u]; rfl

namespace Target

/-- Nor does any run of uses. -/
theorem isSatisfiable_useAll (uses : List Use) {t : Target} (h : t.isSatisfiable = false) :
    (t.useAll uses).isSatisfiable = false := by
  induction uses generalizing t with
  | nil => exact h
  | cons use uses ih => exact ih (use.isSatisfiable_apply h)

/-! ### The three renderings -/

/-- Every rendering of the description succeeds. The compact text marks selectors only. -/
structure RendersAs (t : Target) (l : Locator) : Prop where
  locator : t.locator = .ok l
  compact : t.compact = .ok (if l.grammar = .css then "css=" ++ l.value else l.value)
  write : t.write = ⟨if l.grammar = .css then "css=" ++ l.value else l.value, true⟩

/-- No rendering of the description gives anything. -/
structure FailsToRender (t : Target) : Prop where
  locator : t.locator = .error .noValidSpecification
  compact : t.compact = .error .noValidSpecification
  write : t.write = ⟨"", false⟩

/-- Each rendering reports these events. -/
structure Reports (t : Target) (events : List Event) : Prop where
  locator : t.reportedLocator = ⟨t.locator, events⟩
  compact : t.reportedCompact = ⟨t.compact, events⟩
  write : t.reportedText = ⟨t.write, events⟩

theorem reports_renderEvents (t : Target) : t.Reports t.renderEvents where
  locator := t.reportedLocator_eq
  compact := t.reportedCompact_eq
  write := t.reportedText_eq

theorem isSatisfiable_iff_resolve {t : Target} :
    t.isSatisfiable = true ↔ ∃ q, t.resolve = .ok q := by
  cases t with
  | single q => simp [isSatisfiable, resolve]
  | composite c =>
      obtain ⟨_ | ⟨q, qs⟩⟩ := c <;>
        simp [isSatisfiable, resolve, Composite.isSatisfiable, Composite.first?]
  | impossible => simp [isSatisfiable, resolve]

theorem rendersAs_of_resolve {t : Target} {q : Query} (h : t.resolve = .ok q) :
    t.RendersAs q.locator ∧ t.Reports [] := by
  have rendered : t.locator = .ok q.locator := locator_eq_ok_iff.2 ⟨q, h, rfl⟩
  have compact : t.compact = .ok q.locator.compact := by rw [Target.compact, rendered]; rfl
  have marked : q.locator.compact =
      if q.locator.grammar = .css then "css=" ++ q.locator.value else q.locator.value := by
    cases q <;> rfl
  have silent : t.renderEvents = [] := by rw [renderEvents, reportedQuery, h]
  constructor
  · constructor
    · exact rendered
    · rw [compact, marked]
    · rw [write, compact, marked]
  · rw [← silent]
    exact t.reports_renderEvents

theorem failsToRender_of_resolve {t : Target} {reason : Unsatisfied}
    (h : t.resolve = .error reason) : t.FailsToRender ∧ t.Reports [.unrenderable reason] := by
  have failed : t.locator = .error .noValidSpecification := by rw [locator, h]
  have compact : t.compact = .error .noValidSpecification := by
    rw [Target.compact, failed]
    rfl
  have reported : t.renderEvents = [.unrenderable reason] := by
    rw [renderEvents, reportedQuery, h]
  constructor
  · constructor
    · exact failed
    · exact compact
    · rw [write, compact]
  · rw [← reported]
    exact t.reports_renderEvents

theorem exists_rendersAs {t : Target} (h : t.isSatisfiable = true) :
    ∃ l, t.RendersAs l ∧ t.Reports [] := by
  obtain ⟨q, resolved⟩ := isSatisfiable_iff_resolve.1 h
  exact ⟨q.locator, rendersAs_of_resolve resolved⟩

theorem failsToRender {t : Target} (h : t.isSatisfiable = false) :
    t.FailsToRender ∧ ∃ event, event.level = .debug ∧ t.Reports [event] := by
  cases resolved : t.resolve with
  | ok q => rw [isSatisfiable_iff_resolve.2 ⟨q, resolved⟩] at h; cases h
  | error reason =>
      obtain ⟨failed, reported⟩ := failsToRender_of_resolve resolved
      exact ⟨failed, _, rfl, reported⟩

/-- A description can be satisfied when one of its renderings succeeds, and then all of them do. -/
theorem isSatisfiable_tfae (t : Target) :
    [t.isSatisfiable = true, ∃ text, t.compact = .ok text, ∃ l, t.locator = .ok l,
      t.write.isComplete = true].TFAE := by
  cases h : t.isSatisfiable with
  | true =>
      obtain ⟨l, rendered, -⟩ := exists_rendersAs h
      simp [rendered.locator, rendered.compact, rendered.write]
  | false =>
      have failed := (failsToRender h).1
      simp [failed.locator, failed.compact, failed.write]

/-- **A description that cannot be satisfied stays so, whatever is done with it**, and rendering
tells exactly these apart. On a description that can be satisfied the three renderings succeed,
agree and report nothing. On any other each of them fails, writes nothing and reports one event. -/
theorem unsatisfiable_for_good (t : Target) :
    (t.isSatisfiable = false → ∀ uses, (t.useAll uses).isSatisfiable = false) ∧
      [t.isSatisfiable = true, ∃ text, t.compact = .ok text, ∃ l, t.locator = .ok l,
        t.write.isComplete = true].TFAE ∧
      (t.isSatisfiable = true → ∃ l, t.RendersAs l ∧ t.Reports []) ∧
      (t.isSatisfiable = false →
        t.FailsToRender ∧ ∃ event, event.level = .debug ∧ t.Reports [event]) := by
  refine ⟨?_, t.isSatisfiable_tfae, exists_rendersAs, failsToRender⟩
  intro h uses
  exact isSatisfiable_useAll uses h

/-- A checked control with a text: selectors cannot see the one, expressions not the other. -/
def checkedText : Target :=
  (anyElement.refine (.qualify (.textIs "a"))).refine (.qualify .isChecked)

theorem unsatisfiable_for_good_checkedText :
    checkedText = composite ⟨[]⟩ ∧ checkedText.isSatisfiable = false ∧
      (checkedText.useAll
        [.extend anyElement, .nest (ofTag "p"), .refine (.qualify .isEmpty)]).isSatisfiable =
          false ∧
      checkedText.FailsToRender := by
  have fails : checkedText.isSatisfiable = false := rfl
  obtain ⟨forGood, -, -, unrendered⟩ := unsatisfiable_for_good checkedText
  exact ⟨rfl, fails, forGood fails _, (unrendered fails).1⟩

end Target
end DomQuery
