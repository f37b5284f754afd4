import DomQuery.Proofs.Outline.Strategy
import DomQuery.Proofs.Target.Append

/-!
How a composite pairs its queries with those of another one.

A query is joined with the first query in its grammar, and a bare id with none. So of the second
composite only the first query in each of the other grammars counts (`append_congr`): further
queries in the same grammar, bare ids, and the order of the grammars make no difference.

Of the first composite every step, a refinement as well as a join, keeps the queries in some of its
grammars and their order (`grammars_refine`, `grammars_append`). A composite that has its queries in
the order of preference has them so after any run.

* `queries_append_eq`: the queries that are joined, and with which.
* `append_pairs_by_grammar`: all this together.
-/

namespace DomQuery

namespace Composite

/-! ### Queries by their grammar -/

/-- The grammars of the queries, in the order of the queries. -/
def grammars (c : Composite) : List Grammar := c.queries.map Query.grammar

theorem grammars_eq_nil_iff {c : Composite} : c.grammars = [] ↔ c.queries = [] :=
  List.map_eq_nil_iff

theorem isSatisfiable_iff_grammars {c : Composite} : c.isSatisfiable = true ↔ c.grammars ≠ [] :=
  isSatisfiable_iff.trans (not_congr grammars_eq_nil_iff.symm)

/-- The first query in a grammar. -/
def firstIn? (c : Composite) (g : Grammar) : Option Query :=
  c.queries.find? fun q => q.grammar = g

theorem partner?_eq (c : Composite) (q : Query) : c.partner? q = c.firstIn? q.grammar := rfl

theorem firstIn?_isSome_iff {c : Composite} {g : Grammar} :
    (c.firstIn? g).isSome = true ↔ g ∈ c.grammars := by
  simp [firstIn?, grammars]

theorem firstIn?_append (qs ps : List Query) (g : Grammar) :
    firstIn? ⟨qs ++ ps⟩ g = (firstIn? ⟨qs⟩ g).or (firstIn? ⟨ps⟩ g) := List.find?_append

/-- Whether a query in the grammar `g` is looked for leaves the queries in the others unread. -/
theorem firstIn?_filter {c : Composite} {p : Query → Bool} {g : Grammar}
    (kept : ∀ q, q.grammar = g → p q = true) : firstIn? ⟨c.queries.filter p⟩ g = c.firstIn? g := by
  rw [firstIn?, firstIn?, List.find?_filter]
  congr 1
  funext q
  by_cases own : q.grammar = g
  · simp [own, kept q own]
  · simp [own]

/-! ### Which queries a step keeps -/

/-- What keeps its grammar is known by its grammar. -/
theorem map_grammar_filterMap {f : Query → Option Query}
    (kept : ∀ q p, f q = some p → p.grammar = q.grammar) (qs : List Query) :
    (qs.filterMap f).map Query.grammar =
      (qs.filter fun q => (f q).isSome).map Query.grammar := by
  induction qs with
  | nil => rfl
  | cons q qs ih =>
      cases hq : f q with
      | none => simp [hq, ih]
      | some p => simp [hq, ih, kept q p hq]

/-- Choosing queries by their grammar is choosing grammars. -/
theorem map_grammar_filter (p : Grammar → Bool) (c : Composite) :
    (c.queries.filter fun q => p q.grammar).map Query.grammar = c.grammars.filter p := by
  rw [grammars, List.filter_map]
  rfl

theorem Step.grammar_of_follow? {s : Step} {q p : Query} (h : s.follow? q = some p) :
    p.grammar = q.grammar := by
  cases s with
  | refine r => exact Query.grammar_of_refine? h
  | append d => exact grammar_of_join? h

theorem grammars_step (c : Composite) (s : Step) :
    (c.step s).grammars =
      (c.queries.filter fun q => (s.follow? q).isSome).map Query.grammar := by
  rw [grammars, queries_step, map_grammar_filterMap fun _ _ => Step.grammar_of_follow?]

theorem grammars_refine (c : Composite) (r : Refinement) :
    (c.refine r).grammars = c.grammars.filter (Refinement.fits · r) := by
  rw [refine, grammars_step]
  simp only [Step.follow?, Query.refine?_isSome]
  exact map_grammar_filter (Refinement.fits · r) c

/-- A query is joined when it is no bare id and the other composite knows its grammar. -/
theorem join?_isSome_eq (d : Composite) (q : Query) :
    (d.join? q).isSome = decide (q.grammar ≠ .byId ∧ q.grammar ∈ d.grammars) := by
  by_cases bare : q.grammar = .byId
  · simp [join?_eq_none_of_byId bare, bare]
  · rw [join?_isSome bare, partner?_eq, Bool.eq_iff_iff, firstIn?_isSome_iff]
    simp [bare]

theorem grammars_append (c d : Composite) :
    (c.append d).grammars = c.grammars.filter fun g => g ≠ .byId ∧ g ∈ d.grammars := by
  rw [append, grammars_step]
  simp only [Step.follow?, join?_isSome_eq]
  exact map_grammar_filter (fun g => g ≠ .byId ∧ g ∈ d.grammars) c

/-- The queries that are joined, each with the first query in its grammar. -/
theorem queries_append_eq (c d : Composite) :
    (c.append d).queries.map some =
      (c.queries.filter fun q => q.grammar ≠ .byId ∧ q.grammar ∈ d.grammars).map fun q =>
        (d.firstIn? q.grammar).bind q.append? := by
  rw [queries_append, List.map_filterMap_some_eq_filter_map_isSome, List.filter_map]
  simp only [Function.comp_def, join?_isSome_eq]
  rfl

/-- Nothing is left when no grammar but the bare id is common to both. -/
theorem queries_append_eq_nil_iff {c d : Composite} :
    (c.append d).queries = [] ↔ ∀ g ∈ c.grammars, g ∈ d.grammars → g = .byId := by
  rw [← grammars_eq_nil_iff, grammars_append, List.filter_eq_nil_iff]
  simp only [decide_eq_true_eq, not_and, ne_eq, Decidable.not_imp_not]

/-! ### What counts of the second composite -/

/-- Two composites are joined alike when they have the same first query in every grammar but the
bare id. -/
theorem append_congr {d d' : Composite} (h : ∀ g, g ≠ .byId → d.firstIn? g = d'.firstIn? g)
    (c : Composite) : c.append d = c.append d' := by
  have same : d.join? = d'.join? := by
    funext q
    by_cases bare : q.grammar = .byId
    · rw [join?_eq_none_of_byId bare, join?_eq_none_of_byId bare]
    · rw [join?, join?, partner?_eq, partner?_eq, h q.grammar bare]
  apply Composite.ext
  rw [queries_append, queries_append, same]

/-- Further queries in grammars that are there already do not count. -/
theorem append_more (c d : Composite) {more : List Query}
    (known : ∀ q ∈ more, q.grammar ∈ d.grammars) : c.append ⟨d.queries ++ more⟩ = c.append d := by
  refine append_congr (fun g _ => ?_) c
  rw [firstIn?_append]
  by_cases there : g ∈ d.grammars
  · exact Option.or_of_isSome (firstIn?_isSome_iff.2 there)
  · have fresh : firstIn? ⟨more⟩ g = none := by
      rw [← Option.not_isSome_iff_eq_none, firstIn?_isSome_iff, grammars, List.mem_map]
      rintro ⟨q, mem, rfl⟩
      exact there (known q mem)
    rw [fresh, Option.or_none]

/-- Bare ids do not count, wherever they stand. -/
theorem append_of_filter_eq (c : Composite) {d d' : Composite}
    (h : d.queries.filter (·.grammar ≠ .byId) = d'.queries.filter (·.grammar ≠ .byId)) :
    c.append d = c.append d' := by
  refine append_congr (fun g other => ?_) c
  have kept : ∀ q : Query, q.grammar = g → decide (q.grammar ≠ .byId) = true := by
    rintro q rfl
    exact decide_eq_true other
  rw [← firstIn?_filter kept, h, firstIn?_filter kept]

/-! ### Runs -/

/-- What becomes of a composite by steps taken in turn. -/
def run (c : Composite) (steps : List Step) : Composite := steps.foldl step c

theorem grammars_step_sublist (c : Composite) (s : Step) :
    (c.step s).grammars.Sublist c.grammars := by
  rw [grammars_step]
  exact List.filter_sublist.map Query.grammar

/-- A run leaves queries out and moves none. -/
theorem grammars_run_sublist (c : Composite) (steps : List Step) :
    (c.run steps).grammars.Sublist c.grammars := by
  induction steps generalizing c with
  | nil => exact List.Sublist.refl _
  | cons s steps ih => exact (ih (c.step s)).trans (c.grammars_step_sublist s)

/-- Every start has its queries in the order of preference. -/
theorem pairwise_grammars_start (s : Start) : s.composite.grammars.Pairwise (· < ·) := by
  cases s with
  | ofId id => exact (by decide : [Grammar.byId, .css, .xpath].Pairwise (· < ·))
  | anyElement | ofTag _ | ofClass _ => exact (by decide : [Grammar.css, .xpath].Pairwise (· < ·))

/-- **A join pairs queries by their grammar.** The queries joined are those of the first composite
that are no bare ids and whose grammar the second one knows, in their order, each joined with the
first query in its grammar. Nothing is left when the two share no other grammar than the bare id.
Of the second composite, the order of queries in different grammars, further queries in a known
grammar and bare ids make no difference. The order of preference is kept by any run, and every
start has it. -/
theorem append_pairs_by_grammar (c d : Composite) :
    ((c.append d).queries.map some =
        (c.queries.filter fun q => q.grammar ≠ .byId ∧ q.grammar ∈ d.grammars).map fun q =>
          (d.firstIn? q.grammar).bind q.append?) ∧
      (c.append d).grammars.Sublist c.grammars ∧
      ((c.append d).queries = [] ↔ ∀ g ∈ c.grammars, g ∈ d.grammars → g = .byId) ∧
      (∀ d' : Composite, d'.queries.Perm d.queries → (∀ g, d'.firstIn? g = d.firstIn? g) →
        c.append d' = c.append d) ∧
      (∀ more : List Query, (∀ q ∈ more, q.grammar ∈ d.grammars) →
        c.append ⟨d.queries ++ more⟩ = c.append d) ∧
      (∀ d' : Composite,
        d'.queries.filter (·.grammar ≠ .byId) = d.queries.filter (·.grammar ≠ .byId) →
        c.append d' = c.append d) ∧
      (c.grammars.Pairwise (· < ·) → ∀ steps, (c.run steps).grammars.Pairwise (· < ·)) ∧
      ∀ s : Start, s.composite.grammars.Pairwise (· < ·) := by
  refine ⟨queries_append_eq c d, ?_, queries_append_eq_nil_iff, ?_, ?_, ?_, ?_,
    pairwise_grammars_start⟩
  · exact c.grammars_step_sublist (.append d)
  · intro d' _ first
    exact append_congr (fun g _ => first g) c
  · intro more known
    exact c.append_more d known
  · intro d' same
    exact c.append_of_filter_eq same
  · intro ordered steps
    exact ordered.sublist (c.grammars_run_sublist steps)

/-- The cells of a row: turned round, given twice, or with a bare id between them, they are joined
in the same way. -/
theorem append_pairs_by_grammar_cells :
    (ofId "row").append ⟨[.xpath (.ofTag "td"), .css (.ofTag "td")]⟩ =
        (ofId "row").append (ofTag "td") ∧
      (ofId "row").append ⟨(ofTag "td").queries ++ [.css (.ofTag "th"), .xpath .any]⟩ =
        (ofId "row").append (ofTag "td") ∧
      (ofId "row").append ⟨[.css (.ofTag "td"), .byId "cell", .xpath (.ofTag "td")]⟩ =
        (ofId "row").append (ofTag "td") ∧
      ((ofId "row").run [.append (ofTag "td"), .refine (.qualify .isChecked)]).grammars.Pairwise
        (· < ·) := by
  obtain ⟨-, -, -, turned, more, bare, ordered, start⟩ :=
    append_pairs_by_grammar (ofId "row") (ofTag "td")
  refine ⟨turned _ (.swap _ _ _) ?_, more _ (by decide), bare _ (by decide), ?_⟩
  · intro g
    cases g <;> rfl
  · exact ordered (start (.ofId "row")) _

end Composite
end DomQuery
