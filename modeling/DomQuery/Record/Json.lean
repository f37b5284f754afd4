/-!
JSON values, and what a reader of records asks of them.

A number written with digits alone is kept apart from every other spelling, because only such a
number can be a position: `3.0` is not `3` here.
-/

namespace DomQuery.Record

inductive Json where
  | null
  | bool (value : Bool)
  /-- A number of digits alone. -/
  | natural (value : Nat)
  /-- Any other number, by its spelling. -/
  | number (spelling : String)
  | text (value : String)
  | array (items : List Json)
  | object (members : List (String × Json))
  deriving Inhabited, Repr

namespace Json

/-- The text, if the value is one. -/
def text? : Json → Option String
  | text value => some value
  | _ => none

/-- The name that the value stands for: a text is its own name, and an object with a single member
that holds null has the name of the member. -/
def name? : Json → Option String
  | text value => some value
  | object [(name, null)] => some name
  | _ => none

/-- The texts of an array that holds nothing else. -/
def texts? : Json → Option (List String)
  | array items => items.mapM text?
  | _ => none

/-- A number in the range of positions. -/
def position? : Json → Option UInt32
  | natural value => if value < UInt32.size then some (.ofNat value) else none
  | _ => none

/-- The member with the name, if the value is an object that has one. -/
def member? (name : String) : Json → Option Json
  | object members => members.lookup name
  | _ => none

theorem mapM_text?_map_text (texts : List String) :
    (texts.map text).mapM text? = some texts := by
  induction texts with
  | nil => rfl
  | cons s texts ih => simp [List.mapM_cons, ih, text?]

@[simp] theorem texts?_array (texts : List String) :
    (array (texts.map text)).texts? = some texts := mapM_text?_map_text texts

@[simp] theorem position?_natural (position : UInt32) :
    (natural position.toNat).position? = some position := by
  simp [position?, position.toNat_lt_size]

end Json
end DomQuery.Record
