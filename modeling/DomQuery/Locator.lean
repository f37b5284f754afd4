import DomQuery.Grammar

/-!
Locators: what a driver is given to find an element, a grammar and a text in it.
-/

namespace DomQuery

/-- A text and the grammar in which a driver is to read it. -/
structure Locator where
  grammar : Grammar
  value : String
  deriving DecidableEq, Repr

namespace Locator

/-- What a driver calls the way of finding the element. -/
def strategy (l : Locator) : String := l.grammar.strategy

/-- The locator for people to read. -/
def display (l : Locator) : String := "By." ++ l.strategy ++ ": " ++ l.value

end Locator
end DomQuery
