import DomQuery.Refinement

/-!
XPath expressions under construction.

A predicate qualifies the step it follows, so every refinement writes its text at the end of the
expression: `refine?_eq_some_iff` says which text. Literals stand between single quotes and nothing
in them is escaped.
-/

namespace DomQuery.XPath

/-! ### Conditions and moves in XPath -/

/-- The condition that the class is among the words of the class attribute. -/
def classTest (name : String) : String :=
  "contains(concat(' ', @class, ' '), ' " ++ name ++ " ')"

def negation (condition : String) : String := "not(" ++ condition ++ ")"

/-- The condition that the element has neither text nor elements in it. -/
def emptiness : String := "not(node())"

/-- The inside of the predicate that states a condition. XPath cannot see whether a control is
checked. A position after a tag counts the siblings with that tag, and an empty text is no text. -/
def condition? : Qualifier → Option String
  | .hasId id => some ("@id='" ++ id ++ "'")
  | .hasClass name => some (classTest name)
  | .lacksClass name => some (negation (classTest name))
  | .hasAnyClass names => some (String.intercalate " or " (names.map classTest))
  | .hasAttribute name => some ("@" ++ name)
  | .lacksAttribute name => some (negation ("@" ++ name))
  | .attributeContains name part => some ("contains(@" ++ name ++ ", '" ++ part ++ "')")
  | .attributeIs name value => some ("@" ++ name ++ "='" ++ value ++ "'")
  | .textIs text => some (if text = "" then emptiness else "text() = '" ++ text ++ "'")
  | .textContains part => some ("text()[contains(.,'" ++ part ++ "')]")
  | .isNumeric => some "number(.)=."
  | .isEmpty => some emptiness
  | .isNth position | .isNthOfType position => some (toString position.toNat)
  | .isChecked => none

/-- The location step that a move writes. -/
def locationStep : Descent → String
  | .anyInside => "//*"
  | .inside tag => "//" ++ tag
  | .child tag => "/" ++ tag

/-- The text that a refinement writes at the end of an expression. -/
def suffix? : Refinement → Option String
  | .qualify condition => (condition? condition).map fun test => "[" ++ test ++ "]"
  | .descend move => some (locationStep move)

/-! ### Expressions -/

/-- An expression, kept as its text. -/
structure Expression where
  text : String
  deriving DecidableEq, Repr

namespace Expression

/-- Any element. -/
def any : Expression := ⟨"//*"⟩

/-- Any element with the tag. -/
def ofTag (tag : String) : Expression := ⟨"//" ++ tag⟩

/-- The expression after a refinement, if XPath can express it. -/
def refine? (e : Expression) (r : Refinement) : Option Expression :=
  (suffix? r).map fun suffix => ⟨e.text ++ suffix⟩

/-- The second expression continues the first. -/
def append (e f : Expression) : Expression := ⟨e.text ++ f.text⟩

theorem refine?_eq_some_iff {e f : Expression} {r : Refinement} :
    e.refine? r = some f ↔ ∃ suffix, suffix? r = some suffix ∧ f = ⟨e.text ++ suffix⟩ := by
  simp only [refine?, Option.map_eq_some_iff, eq_comm (a := f)]

@[simp] theorem text_append (e f : Expression) : (e.append f).text = e.text ++ f.text := rfl

end Expression
end DomQuery.XPath
