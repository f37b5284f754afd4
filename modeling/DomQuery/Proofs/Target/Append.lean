import DomQuery.Proofs.Target.Queries

/-!
Joining descriptions is associative.

The law holds at each level of a description. Two texts are joined by writing one after the other,
so selectors and expressions join associatively, and so do queries, where both groupings fail for
the same operands (`Query.append?_assoc`). In a composite, the first query of a grammar that
survives being joined is the first query of that grammar, joined: whether a query survives depends
on its grammar alone (`Composite.partner?_append`). So looking for a partner commutes with joining
(`Composite.join?_append`), and composites join associatively.

For descriptions one difference is left. When the second and the third composite have no grammar in
common, joining these two first gives the description up at once, and joining them one after the
other leaves a composite without queries. Nothing can be rendered either way.

* `append_assoc_or`: the two groupings are equal, or both fail.
* `append_assoc_up_to_failure`: so they render alike.
-/

namespace DomQuery

/-! ### In one grammar -/

theorem Css.Selector.append_assoc (s t u : Css.Selector) :
    (s.append t).append u = s.append (t.append u) := by
  simp only [Css.Selector.append, Css.Selector.text, String.append_assoc]

theorem XPath.Expression.append_assoc (e f g : XPath.Expression) :
    (e.append f).append g = e.append (f.append g) := by
  simp only [XPath.Expression.append, String.append_assoc]

namespace Query

/-- Three queries are joined or refused in the same way, whichever two are joined first. -/
theorem append?_assoc (q p r : Query) :
    (q.append? p).bind (·.append? r) = (p.append? r).bind q.append? := by
  cases q <;> cases p <;> cases r <;>
    simp [append?, Css.Selector.append_assoc, XPath.Expression.append_assoc]

/-- The same for operands that may be missing. -/
theorem bind_append?_assoc (q : Query) (p r : Option Query) :
    (p.bind q.append?).bind (fun j => r.bind j.append?) =
      (p.bind fun p' => r.bind p'.append?).bind q.append? := by
  cases p with
  | none => rfl
  | some p' =>
      cases r with
      | none => simp
      | some r' => exact append?_assoc q p' r'

/-- A bare id is joined with nothing. -/
theorem append?_eq_none_of_byId {q : Query} (h : q.grammar = .byId) (p : Query) :
    q.append? p = none := by
  rw [← Option.not_isSome_iff_eq_none, append?_isSome_iff]
  exact fun joins => joins.2 h

end Query

/-! ### Composites -/

namespace Composite

theorem partner?_congr (c : Composite) {q p : Query} (h : q.grammar = p.grammar) :
    c.partner? q = c.partner? p := by
  rw [partner?, partner?, h]

theorem grammar_of_partner? {c : Composite} {q p : Query} (h : c.partner? q = some p) :
    p.grammar = q.grammar := by
  simpa using List.find?_some h

theorem grammar_of_join? {c : Composite} {q j : Query} (h : c.join? q = some j) :
    j.grammar = q.grammar := by
  obtain ⟨p, -, joined⟩ := Option.bind_eq_some_iff.1 h
  exact Query.grammar_of_append? joined

theorem join?_eq_none_of_byId {c : Composite} {q : Query} (h : q.grammar = .byId) :
    c.join? q = none := by
  rw [join?]
  cases c.partner? q with
  | none => rfl
  | some p => exact Query.append?_eq_none_of_byId h p

/-- A query that is not a bare id is joined when it has a partner. -/
theorem join?_isSome {c : Composite} {q : Query} (h : q.grammar ≠ .byId) :
    (c.join? q).isSome = (c.partner? q).isSome := by
  rw [join?]
  cases hp : c.partner? q with
  | none => rfl
  | some p =>
      have joins : (q.append? p).isSome = true :=
        Query.append?_isSome_iff.2 ⟨(grammar_of_partner? hp).symm, h⟩
      rw [Option.bind_some, joins, Option.isSome_some]

/-- Whichever query has the grammar of `q`, it is joined with the partner of `q`. -/
theorem join?_of_grammar (c : Composite) {q p : Query} (h : p.grammar = q.grammar) :
    c.join? p = (c.partner? q).bind p.append? := by
  rw [join?, partner?_congr c h]

/-- The partner of a query among joined ones is its partner before, joined. -/
theorem partner?_append (c d : Composite) {q : Query} (h : q.grammar ≠ .byId) :
    (c.append d).partner? q = (c.partner? q).bind d.join? := by
  -- A query of the grammar of `q` is kept by the join exactly when `d` has one of that grammar.
  have kept : ∀ p : Query, (d.join? p).any (fun j => j.grammar = q.grammar) =
      (decide (p.grammar = q.grammar) && (d.partner? q).isSome) := by
    intro p
    by_cases same : p.grammar = q.grammar
    · have other : p.grammar ≠ .byId := same ▸ h
      rw [← partner?_congr d same, ← join?_isSome other]
      cases hj : d.join? p with
      | none => simp
      | some j => simp [grammar_of_join? hj, same]
    · cases hj : d.join? p with
      | none => simp [same]
      | some j => simp [grammar_of_join? hj, same]
  rw [partner?, queries_append, List.find?_filterMap, funext kept]
  cases hd : d.partner? q with
  | some r => simp only [Option.isSome_some, Bool.and_true, partner?]
  | none =>
      have nothing : (c.partner? q).bind d.join? = none := by
        rw [Option.bind_eq_none_iff]
        intro p hp
        rw [join?_of_grammar d (grammar_of_partner? hp), hd, Option.bind_none]
      have unkept : c.queries.find? (fun p => decide (p.grammar = q.grammar) &&
          (none : Option Query).isSome) = none := by simp
      rw [nothing, unkept, Option.bind_none]

/-- Being joined with two composites in turn is being joined with the two joined. -/
theorem join?_append (c d : Composite) (q : Query) :
    (c.append d).join? q = (c.join? q).bind d.join? := by
  by_cases h : q.grammar = .byId
  · rw [join?_eq_none_of_byId h, join?_eq_none_of_byId h, Option.bind_none]
  · have partner : (c.partner? q).bind d.join? =
        (c.partner? q).bind fun p => (d.partner? q).bind p.append? := by
      apply Option.bind_congr
      intro p hp
      exact join?_of_grammar d (grammar_of_partner? hp)
    have joined : (c.join? q).bind d.join? =
        (c.join? q).bind fun j => (d.partner? q).bind j.append? := by
      apply Option.bind_congr
      intro j hj
      exact join?_of_grammar d (grammar_of_join? hj)
    rw [join?, partner?_append c d h, partner, joined, join?, Query.bind_append?_assoc]

theorem append_assoc (c d e : Composite) : (c.append d).append e = c.append (d.append e) := by
  apply Composite.ext
  rw [queries_append, queries_append, queries_append, List.filterMap_filterMap]
  congr 1
  funext q
  exact (join?_append d e q).symm

theorem isSatisfiable_eq_false_iff {c : Composite} : c.isSatisfiable = false ↔ c.queries = [] := by
  rw [← Bool.not_eq_true, isSatisfiable_iff, Decidable.not_not]

theorem isSatisfiable_append_of_left {c : Composite} (h : c.isSatisfiable = false)
    (d : Composite) : (c.append d).isSatisfiable = false := by
  rw [isSatisfiable_eq_false_iff] at h ⊢
  rw [queries_append, h, List.filterMap_nil]

theorem isSatisfiable_append_of_right (c : Composite) {d : Composite}
    (h : d.isSatisfiable = false) : (c.append d).isSatisfiable = false := by
  rw [isSatisfiable_eq_false_iff] at h ⊢
  rw [queries_append, List.filterMap_eq_nil_iff]
  intro q _
  rw [join?, partner?, h, List.find?_nil, Option.bind_none]

end Composite

namespace Target

/-! ### Descriptions -/

theorem isSingle_or_isComposite (t : Target) : t.IsSingle ∨ t.IsComposite := by
  cases t with
  | single q => exact .inl fun c h => by cases h
  | composite c => exact .inr (isComposite_composite c)
  | impossible => exact .inl isSingle_impossible

theorem IsComposite.append_of_isSingle {t u : Target} (ht : t.IsComposite) (hu : u.IsSingle) :
    t.append u = impossible := by
  cases t with
  | single q => exact absurd rfl (ht q)
  | impossible => exact impossible_append u
  | composite c =>
      cases u with
      | single p => rfl
      | composite d => exact absurd rfl (hu d)
      | impossible => rfl

/-- Descriptions in one grammar are joined associatively. -/
theorem IsSingle.append_assoc {t : Target} (ht : t.IsSingle) (u v : Target) :
    (t.append u).append v = t.append (u.append v) := by
  have same : ((t.append u).append v).query? = (t.append (u.append v)).query? := by
    simp only [query?_append, Option.bind_assoc t.query?, Query.bind_append?_assoc]
  rw [((ht.append u).append v).eq_elim, (ht.append (u.append v)).eq_elim, same]

/-- Composites are joined associatively, up to how they fail: when the last two share no grammar,
one grouping ends without queries and the other is impossible. -/
theorem composite_append_assoc (c d e : Composite) :
    ((composite c).append (composite d)).append (composite e) =
        (composite c).append ((composite d).append (composite e)) ∨
      (((composite c).append (composite d)).append (composite e)).isSatisfiable = false ∧
        (composite c).append ((composite d).append (composite e)) = impossible := by
  by_cases hd : d.isSatisfiable = true
  · by_cases he : e.isSatisfiable = true
    · by_cases shared : (d.append e).isSatisfiable = true
      · left
        simp [hd, he, shared, Composite.append_assoc]
      · right
        have none : (c.append (d.append e)).isSatisfiable = false :=
          c.isSatisfiable_append_of_right (eq_false_of_ne_true shared)
        simp [hd, he, shared, Composite.append_assoc, none, isSatisfiable]
    · left
      simp [hd, he]
  · left
    have none : (d.append e).isSatisfiable = false :=
      Composite.isSatisfiable_append_of_left (eq_false_of_ne_true hd) e
    by_cases he : e.isSatisfiable = true <;> simp [hd, he, none]

/-- The two ways to fail are different descriptions. -/
example :
    ((composite ⟨[.css .any]⟩).append (composite ⟨[.css .any]⟩)).append
          (composite ⟨[.xpath .any]⟩) = composite ⟨[]⟩ ∧
      (composite ⟨[.css .any]⟩).append
          ((composite ⟨[.css .any]⟩).append (composite ⟨[.xpath .any]⟩)) = impossible :=
  ⟨rfl, rfl⟩

/-- With a composite on the left, a description in one grammar fails wherever else it stands. -/
theorem IsComposite.append_assoc {t : Target} (ht : t.IsComposite) (u v : Target) :
    (t.append u).append v = t.append (u.append v) ∨
      ((t.append u).append v).isSatisfiable = false ∧ t.append (u.append v) = impossible := by
  rcases u.isSingle_or_isComposite with hu | hu
  · left
    rw [ht.append_of_isSingle hu, ht.append_of_isSingle (hu.append v), impossible_append]
  rcases v.isSingle_or_isComposite with hv | hv
  · left
    rw [(ht.append u).append_of_isSingle hv, hu.append_of_isSingle hv, append_impossible]
  cases t with
  | single q => exact absurd rfl (ht q)
  | impossible => simp
  | composite c =>
      cases u with
      | single p => exact absurd rfl (hu p)
      | impossible => simp
      | composite d =>
          cases v with
          | single r => exact absurd rfl (hv r)
          | impossible => simp
          | composite e => exact composite_append_assoc c d e

/-- The two groupings of three descriptions are equal, or both fail. -/
theorem append_assoc_or (t u v : Target) :
    (t.append u).append v = t.append (u.append v) ∨
      ((t.append u).append v).isSatisfiable = false ∧
        (t.append (u.append v)).isSatisfiable = false := by
  rcases t.isSingle_or_isComposite with ht | ht
  · left
    exact ht.append_assoc u v
  · apply (ht.append_assoc u v).imp_right
    rintro ⟨left, right⟩
    rw [right]
    exact ⟨left, rfl⟩

theorem isSatisfiable_eq_false_iff {t : Target} : t.isSatisfiable = false ↔ t.queries = [] := by
  cases t with
  | single q => simp [isSatisfiable, queries]
  | composite c => exact Composite.isSatisfiable_eq_false_iff
  | impossible => simp [isSatisfiable, queries]

/-- What cannot be satisfied cannot be rendered. -/
theorem locator_eq_error_of_not_isSatisfiable {t : Target} (h : t.isSatisfiable = false) :
    t.locator = .error .noValidSpecification :=
  locator_eq_error_iff.2 (isSatisfiable_eq_false_iff.1 h)

/-- **Joining descriptions is associative**, for descriptions of any form: the two groupings are the
same description, or neither can be satisfied. So one can be rendered exactly when the other can,
and they render alike. -/
theorem append_assoc_up_to_failure (t u v : Target) :
    ((t.append u).append v = t.append (u.append v) ∨
        ((t.append u).append v).isSatisfiable = false ∧
          (t.append (u.append v)).isSatisfiable = false) ∧
      ((t.append u).append v).isSatisfiable = (t.append (u.append v)).isSatisfiable ∧
      ((t.append u).append v).compact = (t.append (u.append v)).compact ∧
      ((t.append u).append v).locator = (t.append (u.append v)).locator := by
  have sameOrFail := append_assoc_or t u v
  have sameLocator : ((t.append u).append v).locator = (t.append (u.append v)).locator := by
    rcases sameOrFail with same | ⟨left, right⟩
    · rw [same]
    · rw [locator_eq_error_of_not_isSatisfiable left, locator_eq_error_of_not_isSatisfiable right]
  refine ⟨sameOrFail, ?_, ?_, sameLocator⟩
  · rcases sameOrFail with same | ⟨left, right⟩
    · rw [same]
    · rw [left, right]
  · rw [compact, compact, sameLocator]

end Target
end DomQuery
