import DomQuery.Proofs.Outline.Invariant

/-!
Naming an id twice.

The grammars keep an id in different places. A bare id is the id itself, and the open step of a
selector has one place for a plain id: there a later id takes the place of an earlier one. An id
that is not plain is an attribute condition of the step, and in an expression every id is a
predicate: these stay, and a later id is one more of them.

* `Css.Step.add_idPart_twice_iff`: when the open step of a selector is as if only the later id had
  been named.
* `Query.named_named_eq_iff`: the same in every grammar (`Query.Forgets`).
* `later_id_replaces_iff`: the same for each query of an outline.
-/

namespace DomQuery

/-! ### Selectors -/

namespace Css

/-- The part that demands an id. -/
def idPart (id : String) : Part :=
  if isPlainId id then .id id else .condition (comparison "id" "=" id)

/-- The step to which the next condition is added. -/
def Selector.lastStep (s : Selector) : Step := s.current.getD {}

theorem Selector.add_eq (s : Selector) (p : Part) :
    s.add p = ⟨s.finished, some (s.lastStep.add p)⟩ := rfl

/-- A step forgets a plain id when another plain id comes, and an id that comes as a condition
leaves the plain id that was there. A condition is never forgotten. -/
theorem Step.add_idPart_twice_iff (s : Step) (a b : String) :
    (s.add (idPart a)).add (idPart b) = s.add (idPart b) ↔
      isPlainId a = true ∧ (isPlainId b = true ∨ s.id = some a) := by
  by_cases ha : isPlainId a = true
  · by_cases hb : isPlainId b = true
    · simp [idPart, ha, hb, add]
    · simp [idPart, ha, hb, add, eq_comm]
  · -- One condition more: the two lists differ in length.
    have longer : ((s.add (idPart a)).add (idPart b)).conditions.length =
        (s.add (idPart b)).conditions.length + 1 := by
      by_cases hb : isPlainId b = true <;> simp [idPart, ha, hb, add]
    constructor
    · intro same
      rw [same] at longer
      omega
    · rintro ⟨plain, -⟩
      exact absurd plain ha

end Css

/-! ### Queries -/

namespace Query

/-- The query with the demand for an id. -/
def named (id : String) : Query → Query
  | byId _ => byId id
  | css s => css (s.add (Css.idPart id))
  | xpath e => xpath ⟨e.text ++ ("[@id='" ++ id ++ "']")⟩

/-- Every grammar can demand an id. -/
theorem refine?_hasId (q : Query) (id : String) :
    q.refine? (.qualify (.hasId id)) = some (q.named id) := by
  cases q with
  | byId _ => rfl
  | css s => rfl
  | xpath e =>
      have predicate : "[" ++ ("@id='" ++ id ++ "'") ++ "]" = "[@id='" ++ id ++ "']" := by
        simp [← String.toList_inj]
      simp [refine?, XPath.Expression.refine?, XPath.suffix?, XPath.condition?, named, predicate]

@[simp] theorem grammar_named (q : Query) (id : String) : (q.named id).grammar = q.grammar := by
  cases q <;> rfl

/-- Demanding `b` leaves no trace of a demand for `a` just before it. -/
def Forgets (q : Query) (a b : String) : Prop :=
  match q with
  | byId _ => True
  | css s => Css.isPlainId a = true ∧ (Css.isPlainId b = true ∨ s.lastStep.id = some a)
  | xpath _ => False

/-- A query forgets an id exactly when it has a place for one id that the later id takes. -/
theorem named_named_eq_iff (q : Query) (a b : String) :
    (q.named a).named b = q.named b ↔ q.Forgets a b := by
  cases q with
  | byId _ => exact iff_of_true rfl trivial
  | css s =>
      rw [Forgets, ← Css.Step.add_idPart_twice_iff]
      simp [named, Css.Selector.add_eq, Css.Selector.lastStep]
  | xpath e =>
      refine iff_of_false ?_ id
      intro same
      have lengths := congrArg (fun q : Query => q.locator.value.length) same
      simp only [named, locator, String.length_append] at lengths
      have opening : "[@id='".length = 6 := rfl
      omega

end Query

/-! ### Outlines -/

namespace Outline

/-- The outline with the demand for an id. -/
def named (o : Outline) (id : String) : Outline := o.refine (.qualify (.hasId id))

theorem queries_named (o : Outline) (id : String) :
    (o.named id).target.queries = o.target.queries.map (Query.named id) := by
  rw [named, target, Target.queries_refine, funext fun q => Query.refine?_hasId q id]
  exact congrFun List.filterMap_eq_map' _

/-- An outline has at most one query in each grammar. -/
theorem filter_queries_of_mem {o : Outline} {q : Query} (h : q ∈ o.target.queries) :
    o.target.queries.filter (fun p => p.grammar = q.grammar) = [q] := by
  have kept : q ∈ o.target.queries.filter (fun p => p.grammar = q.grammar) := by simp [h]
  rw [filter_queries_target] at kept ⊢
  rw [Option.mem_toList.1 kept]
  rfl

/-- **A later id replaces an earlier one exactly in the grammars that keep one id.** Each query of
an outline that names two ids in turn comes from a query of the outline before. It equals the query
in its grammar of the outline that names only the later id when that query forgets the earlier one:
a bare id always does, an expression never, and a selector when the earlier id is plain and either
the later one is plain too or the open step had the earlier id anyway. -/
theorem later_id_replaces_iff {o : Outline} {a b : String} {p : Query}
    (h : p ∈ ((o.named a).named b).target.queries) :
    ∃ q ∈ o.target.queries, ∃ once, p = (q.named a).named b ∧
      (o.named b).target.queries.filter (fun r => r.grammar = p.grammar) = [once] ∧
      (p = once ↔ q.Forgets a b) := by
  rw [queries_named, queries_named, List.map_map] at h
  obtain ⟨q, mem, rfl⟩ := List.mem_map.1 h
  have later : q.named b ∈ (o.named b).target.queries := by
    rw [queries_named]
    exact List.mem_map_of_mem mem
  refine ⟨q, mem, q.named b, rfl, ?_, q.named_named_eq_iff a b⟩
  simpa using filter_queries_of_mem later

/-- A row by its id. -/
def row : Outline := start (.ofId "row")

/-- The selector has the plain id already, so naming it again before another one changes nothing. -/
theorem later_id_replaces_iff_row :
    .css ⟨"", some { id := some "row", conditions := ["id=\"row1\""] }⟩ ∈
        ((row.named "row").named "row1").target.queries ∧
      ∃ once, (row.named "row1").target.queries.filter (fun r => r.grammar = .css) = [once] ∧
        once = .css ⟨"", some { id := some "row", conditions := ["id=\"row1\""] }⟩ := by
  have mem : .css ⟨"", some { id := some "row", conditions := ["id=\"row1\""] }⟩ ∈
      ((row.named "row").named "row1").target.queries := by decide
  obtain ⟨q, hq, once, named, found, same⟩ := later_id_replaces_iff mem
  have forgets : q.Forgets "row" "row1" := by
    cases q with
    | byId _ => cases named
    | css s =>
        rw [Start.css_mem_queries_iff.1 hq]
        exact ⟨by decide, .inr (by decide)⟩
    | xpath _ => cases named
  exact ⟨mem, once, found, (same.2 forgets).symm⟩

/-- An id that is not plain stays as a condition of the selector, and every id stays as a predicate
of the expression. -/
theorem earlier_id_remains :
    (((start .anyElement).named "row1").named "total").target.queries =
        [.css ⟨"", some { id := some "total", conditions := ["id=\"row1\""] }⟩,
          .xpath ⟨"//*[@id='row1'][@id='total']"⟩] ∧
      ((start .anyElement).named "total").target.queries =
        [.css ⟨"", some { id := some "total" }⟩, .xpath ⟨"//*[@id='total']"⟩] ∧
      ∀ p ∈ (((start .anyElement).named "row1").named "total").target.queries,
        p ∉ ((start .anyElement).named "total").target.queries := by
  decide

end Outline
end DomQuery
