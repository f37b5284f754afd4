import DomQuery.Proofs.Composite.Pairing
import DomQuery.Proofs.Target.Failure

/-!
The bare id of a description, and when it is gone.

A description that starts at an id prefers the bare id to the selector and the expression for any
element with that id. The bare id follows another id and nothing else: every other refinement leaves
it out, and so does a join, in which a bare id is no partner of anything. What is left then is what
would have been there without it.

* `apply_preferring`: every use but naming an id loses the bare id.
* `useAll_preferring`: so does every run with such a use in it.
* `bare_id_never_leaks`: what this says of the two ways to start at an id.
-/

namespace DomQuery

namespace Use

/-- Names the id of the element. -/
def name (id : String) : Use := .refine (.qualify (.hasId id))

/-- Whether the use names an id and does nothing else. -/
def namesId : Use → Bool
  | refine r => r.namesId
  | extend _ => false
  | nest _ => false

theorem namesId_iff {use : Use} : use.namesId = true ↔ ∃ id, use = .name id := by
  cases use with
  | refine r =>
      rw [namesId, Refinement.namesId_iff]
      simp [name]
  | extend u => simp [namesId, name]
  | nest u => simp [namesId, name]

end Use

namespace Composite

/-- The composite with a bare id in front. -/
def preferring (id : String) (c : Composite) : Composite := ⟨.byId id :: c.queries⟩

/-- The bare id follows no other refinement. -/
theorem refine_preferring {r : Refinement} (h : r.namesId = false) (id : String) (c : Composite) :
    (c.preferring id).refine r = c.refine r := by
  have lost : (Query.byId id).refine? r = none := by
    rw [← Option.not_isSome_iff_eq_none, Query.refine?_isSome]
    exact Bool.eq_false_iff.1 h
  apply Composite.ext
  rw [queries_refine, queries_refine]
  exact List.filterMap_cons_none lost

/-- The bare id is joined with nothing. -/
theorem preferring_append (id : String) (c d : Composite) :
    (c.preferring id).append d = c.append d := by
  have lost : d.join? (.byId id) = none := join?_eq_none_of_byId rfl
  apply Composite.ext
  rw [queries_append, queries_append]
  exact List.filterMap_cons_none lost

/-- Nothing is joined with the bare id. -/
theorem append_preferring (id : String) (c d : Composite) :
    c.append (d.preferring id) = c.append d := by
  apply append_of_filter_eq
  rw [preferring, List.filter_cons_of_neg (by simp [Query.grammar])]

/-- An id can be named in every grammar. -/
theorem grammars_refine_hasId (id : String) (c : Composite) :
    (c.refine (.qualify (.hasId id))).grammars = c.grammars := by
  rw [grammars_refine, List.filter_eq_self]
  intro g _
  cases g <;> rfl

theorem isSatisfiable_refine_hasId (id : String) (c : Composite) :
    (c.refine (.qualify (.hasId id))).isSatisfiable = c.isSatisfiable := by
  rw [Bool.eq_iff_iff, isSatisfiable_iff_grammars, isSatisfiable_iff_grammars,
    grammars_refine_hasId]

end Composite

namespace Target

open Composite (preferring)

/-! ### One use -/

/-- Naming an id changes the bare id, and the other queries as it does without one. -/
theorem apply_name_preferring (a b : String) (c : Composite) :
    (Use.name b).apply (composite (c.preferring a)) =
      composite (preferring b (c.refine (.qualify (.hasId b)))) := rfl

/-- Every other use leaves what it leaves without the bare id. -/
theorem apply_preferring {use : Use} (h : use.namesId = false) {c : Composite}
    (left : c.isSatisfiable = true) (id : String) :
    use.apply (composite (c.preferring id)) = use.apply (composite c) := by
  cases use with
  | refine r => exact congrArg composite (c.refine_preferring h id)
  | extend u =>
      cases u with
      | single p => rfl
      | impossible => rfl
      | composite d =>
          rw [Use.apply, Use.apply, composite_append_composite, composite_append_composite,
            Composite.preferring_append]
  | nest u =>
      cases u with
      | single q => rw [Use.apply, Use.apply, single_append_composite, single_append_composite]
      | impossible => rw [Use.apply, Use.apply, impossible_append, impossible_append]
      | composite d =>
          have leftToo : (c.preferring id).isSatisfiable = true := rfl
          rw [Use.apply, Use.apply, composite_append_composite, composite_append_composite,
            if_pos leftToo, if_pos left, Composite.append_preferring]

/-! ### Runs -/

/-- A run that does anything but name ids ends as it does without the bare id. -/
theorem useAll_preferring {uses : List Use} (h : ∃ use ∈ uses, use.namesId = false)
    {c : Composite} (left : c.isSatisfiable = true) (id : String) :
    (composite (c.preferring id)).useAll uses = (composite c).useAll uses := by
  induction uses generalizing c id with
  | nil => simp at h
  | cons use uses ih =>
      cases names : use.namesId with
      | false => exact congrArg (useAll · uses) (apply_preferring names left id)
      | true =>
          obtain ⟨b, rfl⟩ := Use.namesId_iff.1 names
          have later : ∃ use ∈ uses, use.namesId = false := by simpa [names] using h
          rw [useAll_cons, apply_name_preferring]
          exact ih later ((c.isSatisfiable_refine_hasId b).trans left) b

/-- A run that only names ids keeps every query, and the bare id is the last one named. -/
theorem useAll_names (ids : List String) (c : Composite) :
    ∃ d : Composite, d.grammars = c.grammars ∧
      (composite c).useAll (ids.map .name) = composite d ∧
      ∀ id, (composite (c.preferring id)).useAll (ids.map .name) =
        composite (d.preferring (ids.getLastD id)) := by
  induction ids generalizing c with
  | nil => exact ⟨c, rfl, rfl, fun _ => rfl⟩
  | cons b ids ih =>
      obtain ⟨d, grammars, run, runPreferring⟩ := ih (c.refine (.qualify (.hasId b)))
      refine ⟨d, grammars.trans (c.grammars_refine_hasId b), run, fun id => ?_⟩
      rw [List.getLastD_cons, List.map_cons, useAll_cons, apply_name_preferring]
      exact runPreferring b

/-- A composite renders as its first query. -/
theorem rendersAs_first (q : Query) (qs : List Query) : (composite ⟨q :: qs⟩).RendersAs q.locator :=
  (rendersAs_of_resolve rfl).1

/-- **The preference for the bare id goes no further than the bare id.** A description that starts
at an id and one that starts at any element and names the id are the same after every run of uses in
which one use does not name an id. As long as ids are all that is named, the first is the second
with the id named last in front; it renders as this id, and the second as its selector. -/
theorem bare_id_never_leaks (id : String) :
    (∀ uses : List Use, (∃ use ∈ uses, use.namesId = false) →
      (ofId id).useAll uses = (anyElement.refine (.qualify (.hasId id))).useAll uses) ∧
    ∀ ids : List String, ∃ c : Composite,
      (anyElement.refine (.qualify (.hasId id))).useAll (ids.map .name) = composite c ∧
      (ofId id).useAll (ids.map .name) = composite ⟨.byId (ids.getLastD id) :: c.queries⟩ ∧
      c.grammars = [.css, .xpath] ∧
      ((ofId id).useAll (ids.map .name)).RendersAs ⟨.byId, ids.getLastD id⟩ ∧
      ∃ selector, (composite c).RendersAs ⟨.css, selector⟩ := by
  constructor
  · intro uses other
    exact useAll_preferring other rfl id
  · intro ids
    obtain ⟨c, grammars, run, runPreferring⟩ :=
      useAll_names ids (Composite.anyElement.refine (.qualify (.hasId id)))
    have named : (ofId id).useAll (ids.map .name) = composite (c.preferring (ids.getLastD id)) :=
      runPreferring id
    have kept : c.grammars = [.css, .xpath] := grammars
    refine ⟨c, run, named, kept, ?_, ?_⟩
    · rw [named]
      exact rendersAs_first (.byId (ids.getLastD id)) c.queries
    · obtain ⟨_ | ⟨q, qs⟩⟩ := c
      · cases kept
      · cases q with
        | byId id => cases kept
        | css s => exact ⟨s.text, rendersAs_first (.css s) qs⟩
        | xpath e => cases kept

/-- An entry by its id, renamed and put into a list. -/
def movedEntry : List Use := [.name "entry", .nest (ofTag "ul"), .name "first"]

theorem bare_id_never_leaks_movedEntry :
    (∃ use ∈ movedEntry, use.namesId = false) ∧
      (ofId "item").useAll movedEntry =
        (anyElement.refine (.qualify (.hasId "item"))).useAll movedEntry ∧
      (ofId "item").useAll movedEntry =
        composite ⟨[.css ⟨"ul #entry", some { id := some "first" }⟩,
          .xpath ⟨"//ul//*[@id='item'][@id='entry'][@id='first']"⟩]⟩ := by
  have other : ∃ use ∈ movedEntry, use.namesId = false := by decide
  have same := (bare_id_never_leaks "item").1 movedEntry other
  refine ⟨other, same, ?_⟩
  rw [same]
  decide +kernel

end Target
end DomQuery
