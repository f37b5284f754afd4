import DomQuery.Css.Step
import DomQuery.Refinement

/-!
CSS selectors under construction.

The steps before the last are kept as text, the last one in parts, so that a later condition lands
in the right place of its compound selector. A selector given as text, or joined from two, has no
open step until a condition opens one. Main statements: `refine?_qualify` and `refine?_descend` say
what a refinement does to the finished text and to the open step.
-/

namespace DomQuery.Css

open Text

/-! ### Conditions and moves in CSS -/

/-- The pattern of the ids that are written after a hash sign. -/
def plainIdPattern : String := "^[A-Za-z\\-_]+$"

/-- Whether the id has only ASCII letters, hyphens and underscores, and at least one of them. -/
def isPlainId (id : String) : Bool :=
  !id.toList.isEmpty && id.toList.all fun c => c.isAlpha || c == '-' || c == '_'

/-- An attribute condition on a quoted value; nothing in the value is escaped. -/
def comparison (name operator value : String) : String :=
  name ++ operator ++ "\"" ++ value ++ "\""

/-- The part that states a condition. CSS cannot look at text, nor at a choice of classes. -/
def part? : Qualifier → Option Part
  | .hasId id => some (if isPlainId id then .id id else .condition (comparison "id" "=" id))
  | .hasClass name => some (.className name)
  | .lacksClass name => some (.pseudoClass (":not(." ++ name ++ ")"))
  | .hasAttribute name => some (.condition name)
  | .lacksAttribute name => some (.pseudoClass (":not([" ++ name ++ "])"))
  | .attributeContains name part => some (.condition (comparison name "*=" part))
  | .attributeIs name value => some (.condition (comparison name "=" value))
  | .isEmpty => some (.pseudoClass ":empty")
  | .isChecked => some (.pseudoClass ":checked")
  | .isNth position => some (.pseudoClass (":nth-child(" ++ toString position.toNat ++ ")"))
  | .isNthOfType position => some (.pseudoClass (":nth-of-type(" ++ toString position.toNat ++ ")"))
  | .hasAnyClass _ | .textIs _ | .textContains _ | .isNumeric => none

/-- The step that a move opens. -/
def openStep : Descent → Step
  | .anyInside => {}
  | .inside tag => .ofTag tag
  | .child tag => (Step.ofTag tag).joinedBy ">"

/-! ### Selectors -/

/-- A selector: the text of its finished steps, and the step still open to conditions. -/
structure Selector where
  finished : String
  current : Option Step
  deriving DecidableEq, Repr

namespace Selector

/-- Any element. -/
def any : Selector := ⟨"", some {}⟩

/-- Any element with the tag. -/
def ofTag (tag : String) : Selector := ⟨"", some (.ofTag tag)⟩

/-- A selector taken as it is. -/
def ofText (text : String) : Selector := ⟨text, none⟩

/-- The whole selector. Without an open step it is the finished text, blanks included. -/
def text (s : Selector) : String :=
  match s.current with
  | some step => trim (s.finished ++ " " ++ step.render)
  | none => s.finished

/-- Adds a part to the open step, or to a new one if none is open. -/
def add (s : Selector) (p : Part) : Selector :=
  { s with current := some ((s.current.getD {}).add p) }

/-- Finishes the open step and opens another. -/
def openNext (s : Selector) (step : Step) : Selector := ⟨s.text, some step⟩

/-- The selector after a refinement, if CSS can express it. -/
def refine? (s : Selector) : Refinement → Option Selector
  | .qualify condition => (part? condition).map s.add
  | .descend move => some (s.openNext (openStep move))

/-- The elements of the second selector inside those of the first. -/
def append (s t : Selector) : Selector := ⟨s.text ++ " " ++ t.text, none⟩

theorem refine?_qualify (s : Selector) (q : Qualifier) :
    s.refine? (.qualify q) = (part? q).map s.add := rfl

theorem refine?_descend (s : Selector) (d : Descent) :
    s.refine? (.descend d) = some ⟨s.text, some (openStep d)⟩ := rfl

@[simp] theorem finished_add (s : Selector) (p : Part) : (s.add p).finished = s.finished := rfl

@[simp] theorem text_append (s t : Selector) : (s.append t).text = s.text ++ " " ++ t.text := rfl

end Selector
end DomQuery.Css
