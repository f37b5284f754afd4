import DomQuery.Text.Blank

/-!
One step of a CSS selector: a combinator and a compound selector.

A step keeps its parts in separate fields, so parts of one kind are written together however they
were given. Main statements: `combinator_add` and `tag_add`, the fields that `add` leaves alone.
-/

namespace DomQuery.Css

open Text

/-- A part of a compound selector. -/
inductive Part where
  | id (value : String)
  | className (name : String)
  /-- A pseudo-class with its colon. -/
  | pseudoClass (text : String)
  /-- The inside of an attribute condition. -/
  | condition (text : String)
  deriving DecidableEq, Repr

/-- A compound selector with the combinator that joins it to the steps before it. -/
structure Step where
  combinator : String := " "
  tag : Option String := none
  id : Option String := none
  classes : List String := []
  pseudoClasses : List String := []
  conditions : List String := []
  deriving DecidableEq, Repr

namespace Step

/-! ### Building -/

/-- The step for elements with the tag, whatever tag it had. -/
def withTag (s : Step) (tag : String) : Step := { s with tag := some tag }

/-- The step with another combinator. -/
def joinedBy (s : Step) (combinator : String) : Step := { s with combinator := combinator }

def ofTag (tag : String) : Step := withTag {} tag

/-- An id takes the place of an earlier one; a part of any other kind comes after its like. -/
def add (s : Step) : Part → Step
  | .id value => { s with id := some value }
  | .className name => { s with classes := s.classes ++ [name] }
  | .pseudoClass text => { s with pseudoClasses := s.pseudoClasses ++ [text] }
  | .condition text => { s with conditions := s.conditions ++ [text] }

@[simp] theorem combinator_add (s : Step) (p : Part) : (s.add p).combinator = s.combinator := by
  cases p <;> rfl

@[simp] theorem tag_add (s : Step) (p : Part) : (s.add p).tag = s.tag := by
  cases p <;> rfl

/-! ### Text -/

/-- The compound selector without its attribute conditions, empty if there is nothing to say. -/
def compound (s : Step) : String :=
  s.tag.getD "" ++ (s.id.map ("#" ++ ·)).getD "" ++ String.join (s.classes.map ("." ++ ·)) ++
    String.join s.pseudoClasses

/-- The step without its combinator; a star stands for an empty compound selector. -/
def body (s : Step) : String :=
  (if s.compound = "" then "*" else s.compound) ++
    String.join (s.conditions.map fun text => "[" ++ text ++ "]")

/-- The step with its combinator, without blanks at the ends. -/
def render (s : Step) : String := trim (s.combinator ++ " " ++ s.body)

end Step
end DomQuery.Css
