import DomQuery.Grammar
import DomQuery.Refinement.Label

/-!
Events, and results that come with the events on the way to them.

An event is shown by a level, a message and named values; `Event.texts` writes all of these.
-/

namespace DomQuery

/-- Why a description cannot be rendered. -/
inductive Unsatisfied where
  | impossible
  /-- A composite has lost its last query. -/
  | exhausted
  deriving DecidableEq, Repr

inductive Event where
  /-- A query could not express the refinement. -/
  | dropped (grammar : Grammar) (refinement : Refinement)
  /-- A query had nothing to be joined with. -/
  | unpaired (grammar : Grammar)
  /-- A description was rendered that no grammar can express. -/
  | unrenderable (reason : Unsatisfied)
  deriving DecidableEq, Repr

/-! ### How an event is shown -/

inductive Level where
  | trace
  | debug
  deriving DecidableEq, Repr

def Level.name : Level → String
  | .trace => "TRACE"
  | .debug => "DEBUG"

/-- The description as an event shows it. -/
def Unsatisfied.label : Unsatisfied → String
  | .impossible => "Invalid"
  | .exhausted => "MultiFormat(MultiFormatSpecification \x7b variants: [] \x7d)"

namespace Event

def level : Event → Level
  | dropped _ _ => .trace
  | unpaired _ => .debug
  | unrenderable _ => .debug

def message : Event → String
  | dropped _ _ => "dropping variant"
  | unpaired _ => "no mergeable partner, dropping variant"
  | unrenderable _ => "render requested for unsatisfiable specification"

/-- The named values that go with the message. -/
def fields : Event → List (String × String)
  | dropped g r => [("kind", g.label), ("refinement", r.label)]
  | unpaired g => [("kind", g.label)]
  | unrenderable reason => [("specification", reason.label)]

/-- Level, message and fields, each as one text. -/
def texts (e : Event) : List String :=
  e.level.name :: e.message :: e.fields.map fun field => field.1 ++ "=" ++ field.2

end Event

/-! ### Results with their events -/

/-- A result, and the events on the way to it. -/
structure Reported (α : Type) where
  result : α
  events : List Event := []
  deriving DecidableEq

def Reported.map {α β : Type} (f : α → β) (r : Reported α) : Reported β := ⟨f r.result, r.events⟩

end DomQuery
