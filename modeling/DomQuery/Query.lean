import DomQuery.Css.Selector
import DomQuery.Locator
import DomQuery.XPath.Expression

/-!
Descriptions of an element in a single grammar.

Main statements: `grammar_of_refine?` and `grammar_of_append?`, a query never leaves its grammar.
-/

namespace DomQuery

/-- A description of an element in one grammar. -/
inductive Query where
  | byId (id : String)
  | css (selector : Css.Selector)
  | xpath (expression : XPath.Expression)
  deriving DecidableEq, Repr

namespace Query

/-- The grammar of the query. -/
def grammar : Query → Grammar
  | byId _ => .byId
  | css _ => .css
  | xpath _ => .xpath

/-- The query after a refinement, if its grammar can express it. A bare id only takes another id,
which replaces it. -/
def refine? : Query → Refinement → Option Query
  | byId _, .qualify (.hasId id) => some (byId id)
  | byId _, _ => none
  | css s, r => (s.refine? r).map css
  | xpath e, r => (e.refine? r).map xpath

/-- The elements of the second query inside those of the first. Only two selectors or two
expressions can be joined. -/
def append? : Query → Query → Option Query
  | css s, css t => some (css (s.append t))
  | xpath e, xpath f => some (xpath (e.append f))
  | _, _ => none

/-- The locator of the elements described. -/
def locator : Query → Locator
  | byId id => ⟨.byId, id⟩
  | css s => ⟨.css, s.text⟩
  | xpath e => ⟨.xpath, e.text⟩

@[simp] theorem grammar_locator (q : Query) : q.locator.grammar = q.grammar := by
  cases q <;> rfl

theorem grammar_of_refine? {q p : Query} {r : Refinement} (h : q.refine? r = some p) :
    p.grammar = q.grammar := by
  unfold refine? at h
  split at h
  · cases h; rfl
  · cases h
  · obtain ⟨s, -, rfl⟩ := Option.map_eq_some_iff.1 h; rfl
  · obtain ⟨e, -, rfl⟩ := Option.map_eq_some_iff.1 h; rfl

theorem grammar_of_append? {q p j : Query} (h : q.append? p = some j) :
    j.grammar = q.grammar := by
  unfold append? at h
  split at h
  · cases h; rfl
  · cases h; rfl
  · cases h

end Query
end DomQuery
