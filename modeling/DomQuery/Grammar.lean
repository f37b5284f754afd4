/-!
The grammars an element can be described in.

The order puts the grammar a driver resolves most directly first: a bare id, then a CSS selector,
then an XPath expression.
-/

namespace DomQuery

/-- How the text that finds an element is to be read. -/
inductive Grammar where
  | byId
  | css
  | xpath
  deriving DecidableEq, Repr

namespace Grammar

/-- The place in the order of preference, from 0. -/
def rank : Grammar → Nat
  | byId => 0
  | css => 1
  | xpath => 2

instance : LE Grammar := ⟨fun g h => g.rank ≤ h.rank⟩
instance : LT Grammar := ⟨fun g h => g.rank < h.rank⟩
instance (g h : Grammar) : Decidable (g ≤ h) := inferInstanceAs (Decidable (g.rank ≤ h.rank))
instance (g h : Grammar) : Decidable (g < h) := inferInstanceAs (Decidable (g.rank < h.rank))

/-- The grammars in order of preference. -/
def sort (gs : List Grammar) : List Grammar := gs.mergeSort fun g h => decide (g ≤ h)

/-! ### Names -/

/-- What a driver calls the strategy. -/
def strategy : Grammar → String
  | byId => "id"
  | css => "css selector"
  | xpath => "xpath"

/-- The name in a record. -/
def name : Grammar → String
  | byId => "id"
  | css => "css"
  | xpath => "x_path"

/-- The name in an event. -/
def label : Grammar → String
  | byId => "Id"
  | css => "Css"
  | xpath => "XPath"

/-- The grammar with the name, which has to be spelled exactly. -/
def ofName? : String → Option Grammar
  | "id" => some byId
  | "css" => some css
  | "x_path" => some xpath
  | _ => none

@[simp] theorem ofName?_name (g : Grammar) : ofName? g.name = some g := by
  cases g <;> rfl

end Grammar
end DomQuery
