import DomQuery.Composite
import DomQuery.Locator.Compact

/-!
Descriptions of an element, in whatever grammars can still express it.

A description never fails while it is built: one that no grammar can express becomes impossible,
or a composite without queries, and only rendering reports it. A step on a composite reports what
the composite loses; a description in one grammar is given up without a word. Main statement:
`locator_eq_ok_iff`, what a description renders as.
-/

namespace DomQuery

/-- A description of an element. -/
inductive Target where
  /-- In one grammar. -/
  | single (query : Query)
  /-- In several grammars. -/
  | composite (queries : Composite)
  /-- In none; nothing brings such a description back. -/
  | impossible
  deriving DecidableEq, Repr

/-- The failure of rendering. -/
inductive RenderError where
  | noValidSpecification
  deriving DecidableEq, Repr

def RenderError.message : RenderError → String
  | .noValidSpecification => "No valid specification could be created"

/-- What writing has put out, and whether it came to its end. -/
structure Written where
  text : String
  isComplete : Bool
  deriving DecidableEq, Repr

namespace Target

/-! ### Starts -/

/-- Any element. -/
def anyElement : Target := composite .anyElement

def ofTag (tag : String) : Target := composite (.ofTag tag)

def ofClass (name : String) : Target := composite (.ofClass name)

/-- The element with the id, found by the bare id as long as nothing else is said of it. -/
def ofId (id : String) : Target := composite (.ofId id)

/-- The description that a locator stands for. An id is known to every grammar; a selector or an
expression is kept as it is. -/
def ofLocator (l : Locator) : Target :=
  match l.grammar with
  | .byId => ofId l.value
  | .css => single (.css (.ofText l.value))
  | .xpath => single (.xpath ⟨l.value⟩)

/-- The description that a compact text stands for. -/
def ofCompact (text : String) : Target := ofLocator (.ofCompact text)

/-! ### Steps -/

/-- Whether some grammar still expresses the description. -/
def isSatisfiable : Target → Bool
  | single _ => true
  | composite c => c.isSatisfiable
  | impossible => false

/-- The description after a step, with the events of the step. One in a single grammar that cannot
follow becomes impossible. -/
def reportedRefine : Target → Refinement → Reported Target
  | single q, r => ⟨(q.refine? r).elim impossible single, []⟩
  | composite c, r => (c.reportedStep (.refine r)).map composite
  | impossible, _ => ⟨impossible, []⟩

/-- The description after a step. -/
def refine (t : Target) (r : Refinement) : Target := (t.reportedRefine r).result

def refineEvents (t : Target) (r : Refinement) : List Event := (t.reportedRefine r).events

/-- The description after a recorded chain. -/
def refineAll (t : Target) (rs : List Refinement) : Target := rs.foldl refine t

/-- The events of the steps of a chain, one step after the other. -/
def refineAllEvents : Target → List Refinement → List Event
  | _, [] => []
  | t, r :: rs => t.refineEvents r ++ (t.refine r).refineAllEvents rs

/-- The description of the elements of `u` inside those of `t`, with the events of the step. Both
have to be in one grammar, the same, or both in several. -/
def reportedAppend (t u : Target) : Reported Target :=
  if u.isSatisfiable then
    match t, u with
    | single q, single p => ⟨(q.append? p).elim impossible single, []⟩
    | composite c, composite d => (c.reportedStep (.append d)).map composite
    | _, _ => ⟨impossible, []⟩
  else ⟨impossible, []⟩

/-- The elements of `u` inside those of `t`. -/
def append (t u : Target) : Target := (t.reportedAppend u).result

def appendEvents (t u : Target) : List Event := (t.reportedAppend u).events

/-! ### Results -/

/-- The query that the description renders as. -/
def resolve : Target → Except Unsatisfied Query
  | single q => .ok q
  | composite c => c.first?.elim (.error .exhausted) .ok
  | impossible => .error .impossible

/-- The locator to hand to a driver. -/
def locator (t : Target) : Except RenderError Locator :=
  match t.resolve with
  | .ok q => .ok q.locator
  | .error _ => .error .noValidSpecification

/-- The locator as one text. -/
def compact (t : Target) : Except RenderError String := t.locator.map Locator.compact

/-- Writes the compact locator, or fails before the first character. -/
def write (t : Target) : Written :=
  match t.compact with
  | .ok text => ⟨text, true⟩
  | .error _ => ⟨"", false⟩

theorem locator_eq_ok_iff {t : Target} {l : Locator} :
    t.locator = .ok l ↔ ∃ q, t.resolve = .ok q ∧ l = q.locator := by
  unfold locator
  cases t.resolve <;> simp [eq_comm]

end Target

/-- The locator to hand to a driver for a compact text. -/
def locate (text : String) : Except RenderError Locator := (Target.ofCompact text).locator

end DomQuery
