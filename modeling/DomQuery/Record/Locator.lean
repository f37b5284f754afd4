import DomQuery.Locator
import DomQuery.Record.Tagged

/-!
Locators as records: the name of the grammar and the value.

Main statement: `ofJson?_toJson`, a stored locator is read back as it was.
-/

namespace DomQuery

open Record

/-- The grammar with the name that the value stands for. -/
def Grammar.ofJson? (json : Json) : Option Grammar := json.name?.bind Grammar.ofName?

/-- The grammars of an array that holds nothing else. -/
def Grammar.listOfJson? : Json → Option (List Grammar)
  | .array items => items.mapM Grammar.ofJson?
  | _ => none

namespace Locator

/-- A locator is a value and the grammar it is used with. -/
def keys : TagKeys := { name := "using", content := "value" }

def toJson (l : Locator) : Json :=
  Tagged.toJson keys ⟨l.grammar.name, Content.text.write l.value⟩

def ofJson? (json : Json) : Option Locator := do
  let t ← Tagged.ofJson? keys json
  let grammar ← Grammar.ofName? t.name
  let value ← Content.text.read? t.content
  pure ⟨grammar, value⟩

theorem ofJson?_toJson (l : Locator) : ofJson? l.toJson = some l := by
  simp [ofJson?, toJson]

end Locator
end DomQuery
