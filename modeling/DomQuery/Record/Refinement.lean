import DomQuery.Record.Tagged
import DomQuery.Refinement

/-!
Refinements as records.

A refinement is stored as its name and its arguments, a chain as an array of its refinements. The
name says of which kind the arguments are (`operation?`). Main statements: `ofJson?_toJson` and
`chainOfJson?_chainToJson`, both are read back as they were.
-/

namespace DomQuery

open Record

namespace Refinement

/-- A refinement is an operation with its arguments. -/
def keys : TagKeys := { name := "op", content := "args" }

/-! ### Writing -/

/-- The name of the refinement and its arguments, if it has any. -/
def toTagged : Refinement → Tagged
  | .qualify (.hasId id) => ⟨"with_id", Content.text.write id⟩
  | .qualify (.hasClass name) => ⟨"with_class", Content.text.write name⟩
  | .qualify (.lacksClass name) => ⟨"without_class", Content.text.write name⟩
  | .qualify (.hasAnyClass names) => ⟨"with_any_of_these_classes", Content.texts.write names⟩
  | .qualify (.hasAttribute name) => ⟨"with_attribute", Content.text.write name⟩
  | .qualify (.lacksAttribute name) => ⟨"without_attribute", Content.text.write name⟩
  | .qualify (.attributeContains name part) =>
    ⟨"with_attribute_containing", (Content.pair "name" "substring").write (name, part)⟩
  | .qualify (.attributeIs name value) =>
    ⟨"with_attribute_value", (Content.pair "name" "value").write (name, value)⟩
  | .qualify (.textIs text) => ⟨"with_text", Content.text.write text⟩
  | .qualify (.textContains part) => ⟨"with_text_containing", Content.text.write part⟩
  | .qualify .isNumeric => ⟨"with_numerical_content", Content.nothing.write ()⟩
  | .qualify .isEmpty => ⟨"with_no_children", Content.nothing.write ()⟩
  | .qualify .isChecked => ⟨"that_is_checked", Content.nothing.write ()⟩
  | .qualify (.isNth position) => ⟨"in_position", Content.position.write position⟩
  | .qualify (.isNthOfType position) => ⟨"in_position_of_type", Content.position.write position⟩
  | .descend .anyInside => ⟨"that_contains_any_element", Content.nothing.write ()⟩
  | .descend (.inside tag) => ⟨"that_contains_a", Content.text.write tag⟩
  | .descend (.child tag) => ⟨"that_contains_a_child_of_type", Content.text.write tag⟩

def toJson (r : Refinement) : Json := r.toTagged.toJson keys

/-- A recorded chain is an array of records. -/
def chainToJson (rs : List Refinement) : Json := .array (rs.map toJson)

/-! ### Reading -/

/-- The kind of content that a name takes, and the refinement made with what is read from it. -/
structure Operation where
  {Argument : Type}
  content : Content Argument
  make : Argument → Refinement

/-- The operation with the name, which has to be spelled exactly. -/
def operation? : String → Option Operation
  | "with_id" => some ⟨.text, fun id => .qualify (.hasId id)⟩
  | "with_class" => some ⟨.text, fun name => .qualify (.hasClass name)⟩
  | "without_class" => some ⟨.text, fun name => .qualify (.lacksClass name)⟩
  | "with_any_of_these_classes" => some ⟨.texts, fun names => .qualify (.hasAnyClass names)⟩
  | "with_attribute" => some ⟨.text, fun name => .qualify (.hasAttribute name)⟩
  | "without_attribute" => some ⟨.text, fun name => .qualify (.lacksAttribute name)⟩
  | "with_attribute_containing" =>
    some ⟨.pair "name" "substring", fun texts => .qualify (.attributeContains texts.1 texts.2)⟩
  | "with_attribute_value" =>
    some ⟨.pair "name" "value", fun texts => .qualify (.attributeIs texts.1 texts.2)⟩
  | "with_text" => some ⟨.text, fun text => .qualify (.textIs text)⟩
  | "with_text_containing" => some ⟨.text, fun part => .qualify (.textContains part)⟩
  | "with_numerical_content" => some ⟨.nothing, fun _ => .qualify .isNumeric⟩
  | "with_no_children" => some ⟨.nothing, fun _ => .qualify .isEmpty⟩
  | "that_is_checked" => some ⟨.nothing, fun _ => .qualify .isChecked⟩
  | "in_position" => some ⟨.position, fun position => .qualify (.isNth position)⟩
  | "in_position_of_type" => some ⟨.position, fun position => .qualify (.isNthOfType position)⟩
  | "that_contains_any_element" => some ⟨.nothing, fun _ => .descend .anyInside⟩
  | "that_contains_a" => some ⟨.text, fun tag => .descend (.inside tag)⟩
  | "that_contains_a_child_of_type" => some ⟨.text, fun tag => .descend (.child tag)⟩
  | _ => none

/-- The arguments have to be of the kind that the operation takes. -/
def ofTagged? (t : Tagged) : Option Refinement :=
  (operation? t.name).bind fun op => (op.content.read? t.content).map op.make

def ofJson? (json : Json) : Option Refinement := (Tagged.ofJson? keys json).bind ofTagged?

/-- The chain of an array that holds nothing else than records. -/
def chainOfJson? : Json → Option (List Refinement)
  | .array items => items.mapM ofJson?
  | _ => none

/-- What an operation makes is written under its name, with its kind of content. -/
theorem toTagged_make {name : String} {op : Operation} (h : operation? name = some op)
    (a : op.Argument) : (op.make a).toTagged = ⟨name, op.content.write a⟩ := by
  unfold operation? at h
  split at h <;> cases h <;> rfl

theorem exists_operation (r : Refinement) :
    ∃ op, operation? r.toTagged.name = some op ∧ ∃ a, op.make a = r := by
  cases r with
  | qualify q =>
    cases q with
    | isNumeric | isEmpty | isChecked => exact ⟨_, rfl, (), rfl⟩
    | attributeContains name text | attributeIs name text => exact ⟨_, rfl, (name, text), rfl⟩
    | _ => exact ⟨_, rfl, _, rfl⟩
  | descend d =>
    cases d with
    | anyInside => exact ⟨_, rfl, (), rfl⟩
    | _ => exact ⟨_, rfl, _, rfl⟩

theorem ofTagged?_toTagged (r : Refinement) : ofTagged? r.toTagged = some r := by
  obtain ⟨op, found, a, rfl⟩ := exists_operation r
  have written := congrArg Tagged.content (toTagged_make found a)
  rw [ofTagged?, found, Option.bind_some, written, Content.read?_write, Option.map_some]

theorem ofJson?_toJson (r : Refinement) : ofJson? r.toJson = some r := by
  simp [ofJson?, toJson, ofTagged?_toTagged]

theorem chainOfJson?_chainToJson (rs : List Refinement) :
    chainOfJson? (chainToJson rs) = some rs := by
  rw [chainToJson, chainOfJson?]
  induction rs with
  | nil => rfl
  | cons r rs ih => simp [List.mapM_cons, ofJson?_toJson, ih]

end Refinement
end DomQuery
