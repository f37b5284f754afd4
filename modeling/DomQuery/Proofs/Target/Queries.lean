import DomQuery.Target

/-!
What a description keeps, seen as a list of queries.

* `queries_refine`, `queries_append`: what each step does to the list.
* `query?_refine`, `query?_append`: the same for a description in one grammar.
* `locator_of_queries`: rendering reads the first query of the list and nothing else.

The two forms of a description never mix: `append` gives up a description in one grammar next to
one in several. `IsSingle` and `IsComposite` say which form a description can still have, and every
step keeps them; a description that has been given up has both.
-/

namespace DomQuery

namespace Query

/-- Two queries can be joined when they are in one grammar and are not bare ids. -/
theorem append?_isSome_iff {q p : Query} :
    (q.append? p).isSome = true ↔ q.grammar = p.grammar ∧ q.grammar ≠ .byId := by
  cases q <;> cases p <;> simp [append?, grammar]

end Query

namespace Target

/-! ### The view -/

/-- The queries of a description, the preferred one first. -/
def queries : Target → List Query
  | single q => [q]
  | composite c => c.queries
  | impossible => []

/-- The query of a description in one grammar. -/
def query? : Target → Option Query
  | single q => some q
  | composite _ => none
  | impossible => none

/-- The description is in one grammar, or in none. -/
def IsSingle (t : Target) : Prop := ∀ c, t ≠ composite c

/-- The description is a composite, or in no grammar. -/
def IsComposite (t : Target) : Prop := ∀ q, t ≠ single q

/-- A description in one grammar is its query. -/
theorem IsSingle.eq_elim {t : Target} (ht : t.IsSingle) : t = t.query?.elim impossible single := by
  cases t with
  | single q => rfl
  | composite c => exact absurd rfl (ht c)
  | impossible => rfl

theorem IsSingle.isSatisfiable_eq {t : Target} (ht : t.IsSingle) :
    t.isSatisfiable = t.query?.isSome := by
  cases t with
  | single q => rfl
  | composite c => exact absurd rfl (ht c)
  | impossible => rfl

theorem IsSingle.eq_impossible_iff {t : Target} (ht : t.IsSingle) :
    t = impossible ↔ t.query? = none := by
  cases t with
  | single q => simp [query?]
  | composite c => exact absurd rfl (ht c)
  | impossible => simp [query?]

/-! ### Steps, by the forms of the descriptions -/

@[simp] theorem refine_single (q : Query) (r : Refinement) :
    (single q).refine r = (q.refine? r).elim impossible single := rfl

@[simp] theorem single_append_single (q p : Query) :
    (single q).append (single p) = (q.append? p).elim impossible single := rfl

@[simp] theorem composite_append_composite (c d : Composite) :
    (composite c).append (composite d) =
      if d.isSatisfiable then composite (c.append d) else impossible :=
  apply_ite Reported.result _ _ _

@[simp] theorem single_append_composite (q : Query) (d : Composite) :
    (single q).append (composite d) = impossible :=
  congrArg Reported.result (ite_self _)

@[simp] theorem composite_append_single (c : Composite) (p : Query) :
    (composite c).append (single p) = impossible := rfl

@[simp] theorem impossible_append (u : Target) : impossible.append u = impossible :=
  congrArg Reported.result (ite_self _)

@[simp] theorem append_impossible (t : Target) : t.append impossible = impossible := rfl

/-! ### Steps keep the form -/

theorem isSingle_elim (q : Option Query) : (q.elim impossible single).IsSingle := by
  cases q <;> exact fun c h => by cases h

theorem isSingle_impossible : impossible.IsSingle := fun c h => by cases h

theorem isComposite_composite (c : Composite) : (composite c).IsComposite := fun q h => by cases h

theorem isComposite_impossible : impossible.IsComposite := fun q h => by cases h

theorem IsSingle.refine {t : Target} (ht : t.IsSingle) (r : Refinement) :
    (t.refine r).IsSingle := by
  cases t with
  | single q => exact isSingle_elim (q.refine? r)
  | composite c => exact absurd rfl (ht c)
  | impossible => exact isSingle_impossible

theorem IsSingle.append {t : Target} (ht : t.IsSingle) (u : Target) : (t.append u).IsSingle := by
  cases t with
  | single q =>
      cases u with
      | single p => exact isSingle_elim (q.append? p)
      | composite d => simpa using isSingle_impossible
      | impossible => exact isSingle_impossible
  | composite c => exact absurd rfl (ht c)
  | impossible => simpa using isSingle_impossible

theorem IsComposite.refine {t : Target} (ht : t.IsComposite) (r : Refinement) :
    (t.refine r).IsComposite := by
  cases t with
  | single q => exact absurd rfl (ht q)
  | composite c => exact isComposite_composite (c.refine r)
  | impossible => exact isComposite_impossible

theorem IsComposite.append {t : Target} (ht : t.IsComposite) (u : Target) :
    (t.append u).IsComposite := by
  cases t with
  | single q => exact absurd rfl (ht q)
  | composite c =>
      cases u with
      | single p => exact isComposite_impossible
      | composite d =>
          rw [composite_append_composite]
          split
          · exact isComposite_composite (c.append d)
          · exact isComposite_impossible
      | impossible => exact isComposite_impossible
  | impossible => simpa using isComposite_impossible

/-! ### Steps on the list -/

/-- A refinement acts on every query alone, whatever the form of the description. -/
theorem queries_refine (t : Target) (r : Refinement) :
    (t.refine r).queries = t.queries.filterMap (·.refine? r) := by
  cases t with
  | single q => cases h : q.refine? r <;> simp [queries, h]
  | composite c => exact c.queries_refine r
  | impossible => rfl

/-- Of two composites, each query on the left is joined with its partner on the right. A right side
without queries gives up the description, which leaves no query either. -/
theorem queries_append {t u : Target} (ht : t.IsComposite) (hu : u.IsComposite) :
    (t.append u).queries = t.queries.filterMap (Composite.mk u.queries).join? := by
  have noPartner : ∀ q, (Composite.mk []).join? q = none := fun q => rfl
  cases t with
  | single q => exact absurd rfl (ht q)
  | impossible => simp [queries]
  | composite c =>
      cases u with
      | single p => exact absurd rfl (hu p)
      | impossible => simp [queries, noPartner]
      | composite d =>
          by_cases hd : d.isSatisfiable = true
          · simp [hd, queries, Composite.queries_append]
          · have hnil : d.queries = [] := by simpa [Composite.isSatisfiable_iff] using hd
            simp [hd, queries, hnil, noPartner]

theorem query?_refine (t : Target) (r : Refinement) :
    (t.refine r).query? = t.query?.bind (·.refine? r) := by
  cases t with
  | single q => cases h : q.refine? r <;> simp [query?, h]
  | composite c => rfl
  | impossible => rfl

theorem query?_append (t u : Target) :
    (t.append u).query? = t.query?.bind fun q => u.query?.bind q.append? := by
  cases t with
  | single q =>
      cases u with
      | single p => cases h : q.append? p <;> simp [query?, h]
      | composite d => simp [query?]
      | impossible => simp [query?]
  | composite c =>
      cases u with
      | single p => simp [query?]
      | composite d => by_cases hd : d.isSatisfiable = true <;> simp [query?, hd]
      | impossible => simp [query?]
  | impossible => simp [query?]

/-! ### The first of several descriptions -/

/-- The first description that some grammar still expresses. -/
def firstSatisfiable (ts : List Target) : Target := (ts.find? isSatisfiable).getD impossible

/-- Among descriptions in one grammar each, the first satisfiable one is the first that has a
query. -/
theorem queries_firstSatisfiable {ts : List Target} (hts : ∀ t ∈ ts, t.IsSingle) :
    (firstSatisfiable ts).queries = (ts.filterMap query?).head?.toList := by
  induction ts with
  | nil => rfl
  | cons t ts ih =>
      have rest := ih fun u hu => hts u (List.mem_cons_of_mem t hu)
      cases t with
      | single q => rfl
      | composite c => exact absurd rfl (hts _ List.mem_cons_self c)
      | impossible => exact rest

/-! ### Rendering -/

/-- The locator is that of the preferred query. -/
theorem locator_of_queries (t : Target) :
    t.locator = t.queries.head?.elim (.error .noValidSpecification) (.ok ·.locator) := by
  cases t with
  | single q => rfl
  | composite c => cases h : c.queries <;> simp [locator, resolve, queries, Composite.first?, h]
  | impossible => rfl

theorem locator_eq_of_head? {t u : Target} (h : t.queries.head? = u.queries.head?) :
    t.locator = u.locator := by
  rw [locator_of_queries, locator_of_queries, h]

theorem locator_eq_error_iff {t : Target} :
    t.locator = .error .noValidSpecification ↔ t.queries = [] := by
  rw [locator_of_queries]
  cases t.queries <;> simp

theorem compact_eq_error_iff {t : Target} :
    t.compact = .error .noValidSpecification ↔ t.queries = [] := by
  rw [← locator_eq_error_iff, compact]
  cases t.locator <;> simp [Except.map]

/-- The grammar a description renders in is that of its preferred query. -/
theorem exists_locator_iff {t : Target} {g : Grammar} :
    (∃ value, t.locator = .ok ⟨g, value⟩) ↔ t.queries.head?.map Query.grammar = some g := by
  rw [locator_of_queries]
  cases t.queries with
  | nil => simp
  | cons q qs =>
      simp only [List.head?_cons, Option.elim_some, Except.ok.injEq, Option.map_some,
        Option.some.injEq]
      constructor
      · rintro ⟨value, h⟩
        rw [← Query.grammar_locator, h]
      · rintro rfl
        exact ⟨q.locator.value, by rw [← Query.grammar_locator]⟩

end Target
end DomQuery
