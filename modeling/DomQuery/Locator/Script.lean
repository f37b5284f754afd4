import DomQuery.Locator
import DomQuery.Text.Quoted

/-!
Script expressions that evaluate a locator in a page.

Each grammar has one expression for the first match and one for the number of matches. The value is
written as a quoted literal between two fixed texts, its frame.
-/

namespace DomQuery

/-- The fixed texts on the two sides of a literal. -/
structure Frame where
  before : String
  after : String
  deriving DecidableEq, Repr

def Frame.around (f : Frame) (literal : String) : String := f.before ++ literal ++ f.after

namespace Grammar

/-- The expression for the first match. -/
def elementFrame : Grammar → Frame
  | byId => ⟨"document.getElementById(", ")"⟩
  | css => ⟨"document.querySelector(", ")"⟩
  | xpath =>
    ⟨"document.evaluate(",
      ", document, null, XPathResult.FIRST_ORDERED_NODE_TYPE, null).singleNodeValue"⟩

/-- The expression for the number of matches. -/
def countFrame : Grammar → Frame
  | byId => ⟨"(document.getElementById(", ") ? 1 : 0)"⟩
  | css => ⟨"document.querySelectorAll(", ").length"⟩
  | xpath =>
    ⟨"document.evaluate(",
      ", document, null, XPathResult.ORDERED_NODE_SNAPSHOT_TYPE, null).snapshotLength"⟩

end Grammar

namespace Locator

/-- A script expression for the first element that matches. -/
def elementScript (l : Locator) : String := l.grammar.elementFrame.around (Text.quote l.value)

/-- A script expression for the number of elements that match. -/
def countScript (l : Locator) : String := l.grammar.countFrame.around (Text.quote l.value)

end Locator
end DomQuery
