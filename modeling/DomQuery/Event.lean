import DomQuery.Target

/-!
Rendering with its events.

That nothing can be rendered is reported by whatever asks for the query to render. Main statements:
`reportedLocator_eq`, `reportedCompact_eq` and `reportedText_eq`, all renderings report alike.
-/

namespace DomQuery

namespace Target

/-- The query to render. That there is none is reported where it is asked for, so every rendering
that asks reports it. -/
def reportedQuery (t : Target) : Reported (Except RenderError Query) :=
  match t.resolve with
  | .ok q => ⟨.ok q, []⟩
  | .error reason => ⟨.error .noValidSpecification, [.unrenderable reason]⟩

def renderEvents (t : Target) : List Event := t.reportedQuery.events

def reportedLocator (t : Target) : Reported (Except RenderError Locator) :=
  t.reportedQuery.map fun found => found.map Query.locator

def reportedCompact (t : Target) : Reported (Except RenderError String) :=
  t.reportedQuery.map fun found => found.map fun q => q.locator.compact

def reportedText (t : Target) : Reported Written :=
  t.reportedCompact.map fun
    | .ok text => ⟨text, true⟩
    | .error _ => ⟨"", false⟩

theorem reportedLocator_eq (t : Target) : t.reportedLocator = ⟨t.locator, t.renderEvents⟩ := by
  unfold reportedLocator renderEvents reportedQuery locator
  cases t.resolve <;> rfl

theorem reportedCompact_eq (t : Target) : t.reportedCompact = ⟨t.compact, t.renderEvents⟩ := by
  unfold reportedCompact renderEvents reportedQuery compact locator
  cases t.resolve <;> rfl

theorem reportedText_eq (t : Target) : t.reportedText = ⟨t.write, t.renderEvents⟩ := by
  rw [reportedText, reportedCompact_eq]
  rfl

end Target
end DomQuery
