import DomQuery.Refinement
import DomQuery.Text.Quoted

/-!
Refinements as they are shown in events: a capitalised name, with the texts in it quoted.
-/

namespace DomQuery

open Text (quote)

/-! ### Shapes of a label -/

/-- A name applied to one argument. -/
def labelOf (name argument : String) : String := name ++ "(" ++ argument ++ ")"

/-- A name with two named texts. -/
def labelOfPair (name first firstValue second secondValue : String) : String :=
  name ++ " \x7b " ++ first ++ ": " ++ quote firstValue ++ ", " ++ second ++ ": " ++
    quote secondValue ++ " \x7d"

/-- Texts in brackets. -/
def labelOfList (texts : List String) : String :=
  "[" ++ String.intercalate ", " (texts.map quote) ++ "]"

/-! ### Labels of refinements -/

def Qualifier.label : Qualifier → String
  | .hasId id => labelOf "WithId" (quote id)
  | .hasClass name => labelOf "WithClass" (quote name)
  | .lacksClass name => labelOf "WithoutClass" (quote name)
  | .hasAnyClass names => labelOf "WithAnyOfTheseClasses" (labelOfList names)
  | .hasAttribute name => labelOf "WithAttribute" (quote name)
  | .lacksAttribute name => labelOf "WithoutAttribute" (quote name)
  | .attributeContains name part =>
    labelOfPair "WithAttributeContaining" "name" name "substring" part
  | .attributeIs name value => labelOfPair "WithAttributeValue" "name" name "value" value
  | .textIs text => labelOf "WithText" (quote text)
  | .textContains part => labelOf "WithTextContaining" (quote part)
  | .isNumeric => "WithNumericalContent"
  | .isEmpty => "WithNoChildren"
  | .isChecked => "ThatIsChecked"
  | .isNth position => labelOf "InPosition" (toString position.toNat)
  | .isNthOfType position => labelOf "InPositionOfType" (toString position.toNat)

def Descent.label : Descent → String
  | .anyInside => "ThatContainsAnyElement"
  | .inside tag => labelOf "ThatContainsA" (quote tag)
  | .child tag => labelOf "ThatContainsAChildOfType" (quote tag)

def Refinement.label : Refinement → String
  | .qualify condition => condition.label
  | .descend move => move.label

end DomQuery
