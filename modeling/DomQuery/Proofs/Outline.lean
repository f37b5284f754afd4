import DomQuery.Proofs.Target.Queries

/-!
Outlines: descriptions as trees of the steps that build them, and their evaluation in one grammar.

An outline is evaluated in two ways. `target` follows it with a composite, which carries all
grammars at once and leaves one out when it cannot follow. `alone g` follows the same outline with
the single query that each start has in the grammar `g`, and gives up when that query cannot follow.

* `queries_target`: the composite keeps exactly what the evaluations in one grammar end with, in the
  order of the grammars. The step lemmas are `queries_refine` and `queries_append`; the partner of a
  query is found because an evaluation never leaves its grammar (`grammar_of_alone`).
* `target_agrees_with_alone`: what this says of the queries and of the two renderings.
-/

namespace DomQuery

/-! ### The grammars in order -/

namespace Grammar

/-- All grammars, the preferred one first. -/
def inOrder : List Grammar := [byId, css, xpath]

theorem mem_inOrder (g : Grammar) : g ∈ inOrder := by
  cases g <;> decide

/-- Among results that are each in the grammar they are indexed by, those in one grammar are the
one result of that index. -/
theorem filter_filterMap_inOrder {f : Grammar → Option Query}
    (hf : ∀ g q, f g = some q → q.grammar = g) (g : Grammar) :
    (inOrder.filterMap f).filter (fun q => q.grammar = g) = (f g).toList := by
  have onlyOwn : ∀ h, (f h).filter (fun q => q.grammar = g) =
      if h = g then f h else none := by
    intro h
    cases hh : f h with
    | none => simp
    | some q => simp [Option.filter, hf h q hh]
  rw [List.filter_filterMap, funext onlyOwn]
  cases g <;> simp only [inOrder, List.filterMap_cons, List.filterMap_nil, if_true, if_false,
    reduceCtorEq] <;> cases f _ <;> rfl

theorem find?_filterMap_inOrder {f : Grammar → Option Query}
    (hf : ∀ g q, f g = some q → q.grammar = g) (g : Grammar) :
    (inOrder.filterMap f).find? (fun q => q.grammar = g) = f g := by
  rw [← List.head?_filter, filter_filterMap_inOrder hf]
  cases f g <;> rfl

end Grammar

/-! ### Outlines -/

/-- Where a description starts. -/
inductive Start where
  | anyElement
  | ofTag (tag : String)
  | ofClass (name : String)
  | ofId (id : String)
  deriving DecidableEq, Repr

namespace Start

def composite : Start → Composite
  | anyElement => .anyElement
  | ofTag tag => .ofTag tag
  | ofClass name => .ofClass name
  | ofId id => .ofId id

/-- The query of the start in one grammar. Only a start by an id has a bare id. -/
def query? (s : Start) (g : Grammar) : Option Query :=
  s.composite.queries.find? fun q => q.grammar = g

end Start

/-- The steps of a description: a start, refined and continued with other descriptions. -/
inductive Outline where
  | start (origin : Start)
  | refine (outline : Outline) (refinement : Refinement)
  | append (outer inner : Outline)
  deriving DecidableEq, Repr

namespace Outline

/-- The outline followed in all grammars at once. -/
def target : Outline → Target
  | start s => .composite s.composite
  | refine o r => o.target.refine r
  | append o p => o.target.append p.target

/-- The outline followed in one grammar. -/
def alone (g : Grammar) : Outline → Target
  | start s => (s.query? g).elim .impossible .single
  | refine o r => (o.alone g).refine r
  | append o p => (o.alone g).append (p.alone g)

/-- The first evaluation in one grammar that is satisfiable, in the order of the grammars. -/
def preferred (o : Outline) : Target :=
  Target.firstSatisfiable (Grammar.inOrder.map fun g => o.alone g)

/-! ### The forms of the two evaluations -/

theorem isComposite_target (o : Outline) : o.target.IsComposite := by
  induction o with
  | start s => exact Target.isComposite_composite s.composite
  | refine o r ih => exact ih.refine r
  | append o p iho _ => exact iho.append p.target

theorem isSingle_alone (o : Outline) (g : Grammar) : (o.alone g).IsSingle := by
  induction o with
  | start s => exact Target.isSingle_elim (s.query? g)
  | refine o r ih => exact ih.refine r
  | append o p iho _ => exact iho.append (p.alone g)

/-- An evaluation never leaves its grammar. -/
theorem grammar_of_alone {o : Outline} {g : Grammar} {q : Query}
    (h : (o.alone g).query? = some q) : q.grammar = g := by
  induction o generalizing q with
  | start s =>
      have found : s.query? g = some q := by
        cases hs : s.query? g with
        | none => simp [alone, hs, Target.query?] at h
        | some p => simpa [alone, hs, Target.query?] using h
      simpa using List.find?_some found
  | refine o r ih =>
      rw [alone, Target.query?_refine, Option.bind_eq_some_iff] at h
      obtain ⟨p, hp, hr⟩ := h
      rw [Query.grammar_of_refine? hr, ih hp]
  | append o p iho _ =>
      rw [alone, Target.query?_append, Option.bind_eq_some_iff] at h
      obtain ⟨q₁, hq₁, h⟩ := h
      obtain ⟨q₂, -, hq⟩ := Option.bind_eq_some_iff.1 h
      rw [Query.grammar_of_append? hq, iho hq₁]

/-! ### The composite keeps what the evaluations end with -/

/-- A start has at most one query in each grammar, in the order of the grammars. -/
theorem queries_start (s : Start) :
    s.composite.queries = Grammar.inOrder.filterMap fun g => s.query? g := by
  cases s <;> rfl

theorem query?_alone_start (s : Start) (g : Grammar) :
    ((start s).alone g).query? = s.query? g := by
  rw [alone]
  cases s.query? g <;> rfl

/-- **The composite is its evaluations in one grammar**, those that are satisfiable, in the order of
the grammars. -/
theorem queries_target (o : Outline) :
    o.target.queries = Grammar.inOrder.filterMap fun g => (o.alone g).query? := by
  induction o with
  | start s =>
      simp only [query?_alone_start]
      exact queries_start s
  | refine o r ih =>
      simp only [target, alone, Target.queries_refine, ih, List.filterMap_filterMap,
        Target.query?_refine]
  | append o p iho ihp =>
      rw [target, Target.queries_append o.isComposite_target p.isComposite_target, iho, ihp,
        List.filterMap_filterMap]
      congr 1
      funext g
      rw [alone, Target.query?_append]
      cases hq : (o.alone g).query? with
      | none => rfl
      | some q =>
          -- The partner of `q` on the right is what the right side has in the grammar of `q`.
          have partner : (Composite.mk (Grammar.inOrder.filterMap fun g =>
              (p.alone g).query?)).partner? q = (p.alone g).query? := by
            rw [← grammar_of_alone hq]
            exact Grammar.find?_filterMap_inOrder (fun _ _ => grammar_of_alone) q.grammar
          simp only [Option.bind_some, Composite.join?, partner]

/-- In each grammar the composite keeps what the evaluation in that grammar ends with. -/
theorem filter_queries_target (o : Outline) (g : Grammar) :
    o.target.queries.filter (fun q => q.grammar = g) = (o.alone g).query?.toList := by
  rw [queries_target]
  exact Grammar.filter_filterMap_inOrder (fun _ _ => grammar_of_alone) g

theorem exists_query_iff {o : Outline} {g : Grammar} :
    (∃ q ∈ o.target.queries, q.grammar = g) ↔ (o.alone g).query?.isSome = true := by
  have kept := o.filter_queries_target g
  constructor
  · rintro ⟨q, mem, hq⟩
    have inFilter : q ∈ o.target.queries.filter (fun q => q.grammar = g) :=
      List.mem_filter.2 ⟨mem, decide_eq_true hq⟩
    rw [kept, Option.mem_toList] at inFilter
    exact Option.isSome_iff_exists.2 ⟨q, inFilter⟩
  · intro h
    obtain ⟨q, hq⟩ := Option.isSome_iff_exists.1 h
    have inFilter : q ∈ o.target.queries.filter (fun q => q.grammar = g) := by
      rw [kept, hq]
      exact List.mem_singleton_self q
    obtain ⟨mem, own⟩ := List.mem_filter.1 inFilter
    exact ⟨q, mem, of_decide_eq_true own⟩

/-- The composite and the preferred evaluation render the same query. -/
theorem head?_queries_target (o : Outline) :
    o.target.queries.head? = o.preferred.queries.head? := by
  have single : ∀ t ∈ Grammar.inOrder.map fun g => o.alone g, t.IsSingle := by
    intro t ht
    obtain ⟨g, -, rfl⟩ := List.mem_map.1 ht
    exact o.isSingle_alone g
  rw [queries_target, preferred, Target.queries_firstSatisfiable single, List.filterMap_map]
  cases h : (Grammar.inOrder.filterMap (Target.query? ∘ fun g => o.alone g)).head? with
  | none => exact h
  | some q => exact h

/-- Nothing is left exactly when every evaluation in one grammar has given up. -/
theorem queries_target_eq_nil_iff {o : Outline} :
    o.target.queries = [] ↔ ∀ g, o.alone g = .impossible := by
  rw [queries_target, List.filterMap_eq_nil_iff]
  constructor
  · intro h g
    exact (o.isSingle_alone g).eq_impossible_iff.2 (h g (Grammar.mem_inOrder g))
  · intro h g _
    exact (o.isSingle_alone g).eq_impossible_iff.1 (h g)

/-! ### The two evaluations agree -/

/-- **Following an outline with a composite is following it in each grammar by itself.** The
composite has a query in a grammar exactly when the evaluation in that grammar is satisfiable, and
then it has just one, the query of that evaluation. So it renders, in both forms, as the first
satisfiable evaluation in the order of the grammars, and fails to exactly when every one of them
has given up. -/
theorem target_agrees_with_alone (o : Outline) :
    (∀ q, o.target ≠ .single q) ∧
      (∀ g, (∃ q ∈ o.target.queries, q.grammar = g) ↔ (o.alone g).isSatisfiable = true) ∧
      (∀ g, (o.alone g).isSatisfiable = true →
        ∃ q, o.alone g = .single q ∧
          o.target.queries.filter (fun p => p.grammar = g) = [q]) ∧
      o.target.locator = o.preferred.locator ∧
      o.target.compact = o.preferred.compact ∧
      (o.target.locator = .error .noValidSpecification ↔ ∀ g, o.alone g = .impossible) ∧
      (o.target.compact = .error .noValidSpecification ↔ ∀ g, o.alone g = .impossible) := by
  have satisfiable : ∀ g, (o.alone g).isSatisfiable = (o.alone g).query?.isSome := by
    intro g
    exact (o.isSingle_alone g).isSatisfiable_eq
  refine ⟨o.isComposite_target, ?_, ?_, ?_, ?_, ?_, ?_⟩
  · intro g
    rw [satisfiable, exists_query_iff]
  · intro g h
    rw [satisfiable] at h
    obtain ⟨q, hq⟩ := Option.isSome_iff_exists.1 h
    refine ⟨q, ?_, ?_⟩
    · rw [(o.isSingle_alone g).eq_elim, hq]
      rfl
    · rw [filter_queries_target, hq]
      rfl
  · exact Target.locator_eq_of_head? o.head?_queries_target
  · rw [Target.compact, Target.compact, Target.locator_eq_of_head? o.head?_queries_target]
  · rw [Target.locator_eq_error_iff, queries_target_eq_nil_iff]
  · rw [Target.compact_eq_error_iff, queries_target_eq_nil_iff]

end Outline
end DomQuery
