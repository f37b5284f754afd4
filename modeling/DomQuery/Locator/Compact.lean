import DomQuery.Locator
import DomQuery.Text.Opening

/-!
Locators as one text whose opening names the grammar.

`css=` marks a selector and `xpath=` an expression; a text that opens like a path from the root is
an expression as well, and any other text is an id. Writing marks selectors only.
-/

namespace DomQuery

namespace Locator

open Text

def cssMark : String := "css="

def xpathMark : String := "xpath="

/-- The two ways in which an expression shows itself without a mark. -/
def opensPath (text : String) : Bool := opensWith "//" text || opensWith "(//" text

/-- The locator that a compact text stands for. A mark is not part of the value. -/
def ofCompact (text : String) : Locator :=
  match after? cssMark text with
  | some selector => ⟨.css, selector⟩
  | none =>
    match after? xpathMark text with
    | some expression => ⟨.xpath, expression⟩
    | none => ⟨if opensPath text then .xpath else .byId, text⟩

/-- The compact text of a locator: a selector is marked, an expression and an id stand bare. -/
def compact (l : Locator) : String :=
  match l.grammar with
  | .css => cssMark ++ l.value
  | .xpath | .byId => l.value

end Locator
end DomQuery
