import DomQuery.Event.Basic
import DomQuery.Query

/-!
Descriptions kept in several grammars at once.

A step goes to every query. What it makes of the query is another query or, if the grammar cannot
follow, the event of its loss (`Step.outcome`); the queries that are left keep their order. Main
statements: `queries_step` says which queries a step leaves, and `stepEvents_eq` which it reports.
-/

namespace DomQuery

/-- Queries for the same element, the preferred one first. -/
@[ext]
structure Composite where
  queries : List Query
  deriving DecidableEq, Repr

namespace Composite

/-! ### What a step makes of a query -/

/-- The first query in the grammar of `q`. -/
def partner? (c : Composite) (q : Query) : Option Query :=
  c.queries.find? fun p => p.grammar = q.grammar

/-- The query joined with its partner, if there is one and the grammar can join them. -/
def join? (c : Composite) (q : Query) : Option Query := (c.partner? q).bind q.append?

/-- A step of a composite. -/
inductive Step where
  | refine (refinement : Refinement)
  | append (inner : Composite)
  deriving DecidableEq, Repr

namespace Step

/-- What the step makes of a query, if it can take it. -/
def follow? : Step → Query → Option Query
  | refine r, q => q.refine? r
  | append d, q => d.join? q

/-- The event that reports the loss of a query in the step. -/
def loss : Step → Query → Event
  | refine r, q => .dropped q.grammar r
  | append _, q => .unpaired q.grammar

/-- What becomes of a query in the step: a query, or the event of its loss. -/
def outcome (s : Step) (q : Query) : Query ⊕ Event :=
  (s.follow? q).elim (.inr (s.loss q)) .inl

theorem getLeft?_outcome (s : Step) (q : Query) : (s.outcome q).getLeft? = s.follow? q := by
  rw [outcome]
  cases s.follow? q <;> rfl

theorem getRight?_outcome (s : Step) (q : Query) :
    (s.outcome q).getRight? = if (s.follow? q).isNone then some (s.loss q) else none := by
  rw [outcome]
  cases s.follow? q <;> rfl

end Step

/-! ### Steps -/

/-- The composite after a step, with the events of the step, in the order of the queries. -/
def reportedStep (c : Composite) (s : Step) : Reported Composite :=
  let outcomes := c.queries.map s.outcome
  ⟨⟨outcomes.filterMap Sum.getLeft?⟩, outcomes.filterMap Sum.getRight?⟩

def step (c : Composite) (s : Step) : Composite := (c.reportedStep s).result

def stepEvents (c : Composite) (s : Step) : List Event := (c.reportedStep s).events

/-- The queries that can express the refinement, refined. -/
def refine (c : Composite) (r : Refinement) : Composite := c.step (.refine r)

/-- Every query of `c` joined with its partner in `d`. -/
def append (c d : Composite) : Composite := c.step (.append d)

/-- One event for each query that cannot express the refinement. -/
def refineEvents (c : Composite) (r : Refinement) : List Event := c.stepEvents (.refine r)

/-- One event for each query of `c` that is not joined with one of `d`. -/
def appendEvents (c d : Composite) : List Event := c.stepEvents (.append d)

/-- The queries after a step are its outcomes on the one side. -/
theorem queries_step_eq_outcomes (c : Composite) (s : Step) :
    (c.step s).queries = c.queries.filterMap fun q => (s.outcome q).getLeft? :=
  List.filterMap_map

/-- The events of a step are its outcomes on the other side. -/
theorem stepEvents_eq_outcomes (c : Composite) (s : Step) :
    c.stepEvents s = c.queries.filterMap fun q => (s.outcome q).getRight? :=
  List.filterMap_map

theorem queries_step (c : Composite) (s : Step) :
    (c.step s).queries = c.queries.filterMap s.follow? := by
  simp only [queries_step_eq_outcomes, Step.getLeft?_outcome]

theorem stepEvents_eq (c : Composite) (s : Step) :
    c.stepEvents s = (c.queries.filter fun q => (s.follow? q).isNone).map s.loss := by
  simp only [stepEvents_eq_outcomes, Step.getRight?_outcome]
  rw [← List.filterMap_eq_map', List.filterMap_filter]

theorem queries_refine (c : Composite) (r : Refinement) :
    (c.refine r).queries = c.queries.filterMap (·.refine? r) := c.queries_step (.refine r)

theorem queries_append (c d : Composite) :
    (c.append d).queries = c.queries.filterMap d.join? := c.queries_step (.append d)

/-! ### Starts -/

/-- Any element, as a selector and as an expression. -/
def anyElement : Composite := ⟨[.css .any, .xpath .any]⟩

def ofTag (tag : String) : Composite := ⟨[.css (.ofTag tag), .xpath (.ofTag tag)]⟩

def ofClass (name : String) : Composite := anyElement.refine (.qualify (.hasClass name))

/-- The element with the id: the bare id first, then any element so qualified. -/
def ofId (id : String) : Composite :=
  ⟨.byId id :: (anyElement.refine (.qualify (.hasId id))).queries⟩

/-! ### Results -/

/-- Whether a query is left. -/
def isSatisfiable (c : Composite) : Bool := !c.queries.isEmpty

/-- The preferred query. -/
def first? (c : Composite) : Option Query := c.queries.head?

theorem isSatisfiable_iff {c : Composite} : c.isSatisfiable = true ↔ c.queries ≠ [] := by
  simp [isSatisfiable]

end Composite
end DomQuery
