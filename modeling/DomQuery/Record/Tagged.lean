import DomQuery.Record.Json

/-!
Tagged values: a name and at most one content.

A tagged value is written as an object with a member for the name and a member for the content. It
is read from such an object whatever else the object holds, in either form of a name, and from an
array of the two with the name as a text. A content is of one of a few kinds, each of which says how
it is written and read. Main statements: `Tagged.ofJson?_toJson` and `Content.read?_write`, what is
written is read back.
-/

namespace DomQuery.Record

/-- The names of the two members. -/
structure TagKeys where
  name : String
  content : String
  name_ne_content : name ≠ content := by decide

/-- A name and its content, if there is one. -/
structure Tagged where
  name : String
  content : Option Json

namespace Tagged

def toJson (keys : TagKeys) (t : Tagged) : Json :=
  .object ((keys.name, .text t.name) :: (t.content.map fun json => (keys.content, json)).toList)

/-- An array has to give both the name and the content. -/
def ofJson? (keys : TagKeys) : Json → Option Tagged
  | .array [name, content] => name.text?.map fun text => ⟨text, some content⟩
  | .array _ => none
  | json => ((json.member? keys.name).bind Json.name?).map fun text =>
      ⟨text, json.member? keys.content⟩

@[simp] theorem ofJson?_toJson (keys : TagKeys) (t : Tagged) :
    ofJson? keys (t.toJson keys) = some t := by
  obtain ⟨name, content⟩ := t
  have apart : (keys.content == keys.name) = false := by
    simpa using keys.name_ne_content.symm
  cases content <;> simp [toJson, ofJson?, Json.member?, List.lookup_cons, Json.name?, apart]

end Tagged

/-! ### Contents -/

/-- The kinds of content, by what is read from them. -/
inductive Content : Type → Type where
  /-- Nothing is written; null may stand. -/
  | nothing : Content Unit
  | text : Content String
  /-- An array of texts. -/
  | texts : Content (List String)
  | position : Content UInt32
  /-- An object with a text under each of the two names; other members are ignored. -/
  | pair (first second : String) (apart : first ≠ second := by decide) : Content (String × String)

namespace Content

variable {α : Type}

/-- The content as it is written, if anything is. -/
def write : Content α → α → Option Json
  | nothing, _ => none
  | text, value => some (.text value)
  | texts, values => some (.array (values.map .text))
  | position, value => some (.natural value.toNat)
  | pair first second _, values =>
    some (.object [(first, .text values.1), (second, .text values.2)])

/-- Reads a content that is given or left out. -/
def read? : Content α → Option Json → Option α
  | nothing, none => some ()
  | nothing, some .null => some ()
  | nothing, some _ => none
  | text, content => content.bind Json.text?
  | texts, content => content.bind Json.texts?
  | position, content => content.bind Json.position?
  | pair first second _, content => do
    let json ← content
    let value ← (json.member? first).bind Json.text?
    let value' ← (json.member? second).bind Json.text?
    pure (value, value')

@[simp] theorem read?_write (c : Content α) (a : α) : c.read? (c.write a) = some a := by
  cases c with
  | nothing => rfl
  | text => rfl
  | texts => exact Json.texts?_array a
  | position => exact Json.position?_natural a
  | pair first second apart =>
    have other : (second == first) = false := by simpa using apart.symm
    simp [read?, write, Json.member?, Json.text?, List.lookup_cons, other]

end Content
end DomQuery.Record
