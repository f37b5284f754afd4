import DomQuery.Proofs.Record.Layout
import DomQuery.Record.Refinement
import DomQuery.Target

/-!
Recorded refinements: what a reader accepts, and that a recorded chain replays.

A refinement is written in one way, its name and its content. `Presents` says of a record, in any
layout, that it has this name and a content that is read as this one.

* `ofJson?_of_presents`: a reader accepts each record that presents a refinement.
* `presents_of_ofJson?`: it accepts no other, as long as no object repeats a member.
* `recorded_chain_replays`: so what is written is read back, and a chain that was recorded does to
  every description what it did before it was recorded.
-/

namespace DomQuery

open Record

namespace Refinement

/-! ### Names and contents -/

section Tagged

variable {r : Refinement} {t : Tagged}

theorem restates_of_ofTagged?
    (unrepeated : ∀ content, t.content = some content → content.Unrepeated)
    (h : ofTagged? t = some r) :
    t.name = r.toTagged.name ∧ Tagged.Restates r.toTagged.content t.content := by
  obtain ⟨op, found, h⟩ := Option.bind_eq_some_iff.1 h
  obtain ⟨a, read, rfl⟩ := Option.map_eq_some_iff.1 h
  rw [toTagged_make found a]
  exact ⟨rfl, op.content.restates_of_read? unrepeated read⟩

theorem ofTagged?_of_restates (named : t.name = r.toTagged.name)
    (restated : Tagged.Restates r.toTagged.content t.content) : ofTagged? t = some r := by
  obtain ⟨op, found, a, rfl⟩ := exists_operation r
  rw [toTagged_make found a] at restated
  rw [ofTagged?, named, found, Option.bind_some, op.content.read?_of_restates restated,
    Option.map_some]

end Tagged

/-! ### Records -/

/-- The record has the name of the refinement and its content, in one of the layouts and in a form
that is read as the written one. -/
def Presents (json : Json) (r : Refinement) : Prop :=
  ∃ content, Tagged.LaidOut keys ⟨r.toTagged.name, content⟩ json ∧
    Tagged.Restates r.toTagged.content content

theorem ofJson?_of_presents {json : Json} {r : Refinement} (h : Presents json r) :
    ofJson? json = some r := by
  obtain ⟨content, laidOut, restated⟩ := h
  rw [ofJson?, Tagged.ofJson?_of_laidOut laidOut]
  exact ofTagged?_of_restates rfl restated

theorem presents_of_ofJson? {json : Json} {r : Refinement} (unrepeated : json.Unrepeated)
    (h : ofJson? json = some r) : Presents json r := by
  obtain ⟨⟨name, content⟩, tagged, read⟩ := Option.bind_eq_some_iff.1 h
  have laidOut := Tagged.laidOut_of_ofJson? unrepeated tagged
  obtain ⟨named, restated⟩ :=
    restates_of_ofTagged? (fun _ => laidOut.unrepeated_content unrepeated) read
  cases named
  exact ⟨content, laidOut, restated⟩

/-- **Recorded chains replay.** What is written is read back. A reader accepts what presents a
refinement, and of the values in which no object repeats a member nothing else. So a recorded chain
does to each description what the chain does. -/
theorem recorded_chain_replays :
    (∀ r : Refinement, ofJson? r.toJson = some r) ∧
      (∀ json r, Presents json r → ofJson? json = some r) ∧
      (∀ json : Json, json.Unrepeated → ∀ r, ofJson? json = some r → Presents json r) ∧
      ∀ (t : Target) (rs : List Refinement),
        (chainOfJson? (chainToJson rs)).map t.refineAll = some (t.refineAll rs) := by
  refine ⟨ofJson?_toJson, ?_, ?_, ?_⟩
  · intro json r presents
    exact ofJson?_of_presents presents
  · intro json unrepeated r read
    exact presents_of_ofJson? unrepeated read
  · intro t rs
    rw [chainOfJson?_chainToJson, Option.map_some]

/-- A record with its members in another order and with members that say nothing. -/
def annotated : Json :=
  .object [("note", .array [.natural 1, .bool true]),
    ("args", .object [("value", .text "x"), ("unit", .null), ("name", .text "type")]),
    ("op", .text "with_attribute_value")]

theorem recorded_chain_replays_annotated :
    annotated.Unrepeated ∧ Presents annotated (.qualify (.attributeIs "type" "x")) ∧
      ofJson? annotated = some (.qualify (.attributeIs "type" "x")) := by
  obtain ⟨-, reads, only, -⟩ := recorded_chain_replays
  have unrepeated : annotated.Unrepeated := by
    refine .object (by decide) ?_
    simp only [List.forall_mem_cons]
    refine ⟨.array ?_, .object (by decide) ?_, .text _, by simp⟩
    · simp only [List.forall_mem_cons]
      exact ⟨.natural 1, .bool true, by simp⟩
    · simp only [List.forall_mem_cons]
      exact ⟨.text "x", .null, .text "type", by simp⟩
  have presents : Presents annotated (.qualify (.attributeIs "type" "x")) := by
    refine ⟨some (.object [("value", .text "x"), ("unit", .null), ("name", .text "type")]),
      .object rfl .text rfl, .members ?_⟩
    simp only [List.forall_mem_cons]
    exact ⟨rfl, rfl, by simp⟩
  have read := reads annotated _ presents
  exact ⟨unrepeated, only annotated unrepeated _ read, read⟩

/-- A record with an object in the place of the name. -/
def namedByMember : Json := .object [("op", .object [("with_no_children", .null)])]

theorem namedByMember_accepted :
    namedByMember.Unrepeated ∧ (∀ name, namedByMember.member? "op" ≠ some (.text name)) ∧
      ofJson? namedByMember = some (.qualify .isEmpty) := by
  refine ⟨?_, ?_, rfl⟩
  · have inner : (Json.object [("with_no_children", .null)]).Unrepeated :=
      .object (by simp) (by simpa using .null)
    exact .object (by simp) (by simpa using inner)
  · intro name h
    cases h

end Refinement
end DomQuery
