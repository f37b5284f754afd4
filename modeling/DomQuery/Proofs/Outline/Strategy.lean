import DomQuery.Proofs.Outline

/-!
Which grammar an outline renders in.

A refinement is beyond selectors (`needsExpression`), beyond expressions (`needsSelector`), or
expressible in both. The grammar of the result depends on which of the two kinds occur anywhere in
the outline, and on nothing else: not on the order of the steps, not on their arguments, and not on
how deep they stand in an appended part. The exception is an outline that has only ever named an id.

* `refine?_isSome`: which refinements each grammar follows.
* `alone_isSome_iff`, `alone_byId_isSome_iff`: which outlines can be followed in one grammar.
* `renders_in_iff`: the grammar of the result is the first in which the outline can be followed.
* `renders_by_occurring_refinements`: the classification.
-/

namespace DomQuery

namespace Refinement

/-- Only an expression can state the refinement: a choice of classes, or what the text says. -/
def needsExpression : Refinement → Bool
  | qualify (.hasAnyClass _) => true
  | qualify (.textIs _) => true
  | qualify (.textContains _) => true
  | qualify .isNumeric => true
  | _ => false

/-- Only a selector can state the refinement: whether a control is checked. -/
def needsSelector : Refinement → Bool
  | qualify .isChecked => true
  | _ => false

def namesId : Refinement → Bool
  | qualify (.hasId _) => true
  | _ => false

theorem namesId_iff {r : Refinement} : r.namesId = true ↔ ∃ id, r = .qualify (.hasId id) := by
  unfold namesId
  split
  · rename_i id
    exact ⟨fun _ => ⟨id, rfl⟩, fun _ => rfl⟩
  · rename_i other
    simpa using other

theorem needsSelector_iff {r : Refinement} :
    r.needsSelector = true ↔ r = .qualify .isChecked := by
  unfold needsSelector
  split
  · simp
  · rename_i other
    simpa using other

/-- Whether a grammar can follow the refinement. -/
def fits : Grammar → Refinement → Bool
  | .byId, r => r.namesId
  | .css, r => !r.needsExpression
  | .xpath, r => !r.needsSelector

end Refinement

/-- Whether a query can follow a refinement depends on its grammar alone. -/
theorem Query.refine?_isSome (q : Query) (r : Refinement) :
    (q.refine? r).isSome = r.fits q.grammar := by
  cases q with
  | byId id =>
      cases r with
      | qualify condition => cases condition <;> rfl
      | descend move => rfl
  | css s =>
      cases r with
      | qualify condition => cases condition <;> rfl
      | descend move => rfl
  | xpath e =>
      cases r with
      | qualify condition => cases condition <;> rfl
      | descend move => rfl

namespace Grammar

/-! ### What comes before a grammar -/

theorem not_lt_byId (g : Grammar) : ¬ g < byId := Nat.not_lt_zero g.rank

theorem forall_lt_css {p : Grammar → Prop} : (∀ g, g < css → p g) ↔ p byId := by
  constructor
  · intro h
    exact h byId Nat.zero_lt_one
  · intro hId g before
    have first : g.rank < 1 := before
    cases g with
    | byId => exact hId
    | css => exact absurd first (Nat.lt_irrefl 1)
    | xpath => exact absurd first (by decide)

theorem forall_lt_xpath {p : Grammar → Prop} : (∀ g, g < xpath → p g) ↔ p byId ∧ p css := by
  constructor
  · intro h
    exact ⟨h byId Nat.zero_lt_two, h css Nat.one_lt_two⟩
  · rintro ⟨hId, hCss⟩ g before
    cases g with
    | byId => exact hId
    | css => exact hCss
    | xpath => exact absurd before (Nat.lt_irrefl 2)

theorem forall_iff {p : Grammar → Prop} : (∀ g, p g) ↔ p byId ∧ p css ∧ p xpath := by
  constructor
  · intro h
    exact ⟨h byId, h css, h xpath⟩
  · rintro ⟨hId, hCss, hXPath⟩ g
    cases g <;> assumption

/-- The first result in the order of the grammars is in `g` when `g` has one and no grammar before
it does. -/
theorem head?_filterMap_inOrder_iff {f : Grammar → Option Query}
    (hf : ∀ g q, f g = some q → q.grammar = g) {g : Grammar} :
    (inOrder.filterMap f).head?.map Query.grammar = some g ↔
      (f g).isSome = true ∧ ∀ h, h < g → f h = none := by
  cases hId : f byId with
  | some q =>
      have own : q.grammar = byId := hf byId q hId
      cases g <;> simp [inOrder, hId, own, not_lt_byId, forall_lt_css, forall_lt_xpath]
  | none =>
      cases hCss : f css with
      | some q =>
          have own : q.grammar = css := hf css q hCss
          cases g <;> simp [inOrder, hId, hCss, own, forall_lt_css, forall_lt_xpath]
      | none =>
          cases hXPath : f xpath with
          | some q =>
              have own : q.grammar = xpath := hf xpath q hXPath
              cases g <;> simp [inOrder, hId, hCss, hXPath, own, forall_lt_xpath]
          | none => cases g <;> simp [inOrder, hId, hCss, hXPath]

end Grammar

namespace Outline

/-! ### What occurs in an outline -/

/-- The refinements of an outline, those of its appended parts included. -/
def refinements : Outline → List Refinement
  | start _ => []
  | refine o r => o.refinements ++ [r]
  | append o p => o.refinements ++ p.refinements

/-- The outline starts at an id and has only named other ids since. -/
inductive IsBareId : Outline → Prop where
  | start (id : String) : IsBareId (.start (.ofId id))
  | rename {o : Outline} (h : IsBareId o) (id : String) :
      IsBareId (.refine o (.qualify (.hasId id)))

/-! ### Outlines that one grammar can follow -/

/-- A selector or an expression follows an outline when it follows every refinement in it. -/
theorem alone_isSome_iff {o : Outline} {g : Grammar} (hg : g ≠ .byId) :
    (o.alone g).query?.isSome = true ↔ ∀ r ∈ o.refinements, r.fits g = true := by
  induction o with
  | start s =>
      rw [query?_alone_start]
      cases g with
      | byId => exact absurd rfl hg
      | css => cases s <;> simp [refinements] <;> rfl
      | xpath => cases s <;> simp [refinements] <;> rfl
  | refine o r ih =>
      rw [alone, Target.query?_refine, refinements, List.forall_mem_append, ← ih,
        List.forall_mem_singleton]
      cases hq : (o.alone g).query? with
      | none => simp
      | some q => simp [Query.refine?_isSome, grammar_of_alone hq]
  | append o p iho ihp =>
      rw [alone, Target.query?_append, refinements, List.forall_mem_append, ← iho, ← ihp]
      cases hq : (o.alone g).query? with
      | none => simp
      | some q =>
          cases hp : (p.alone g).query? with
          | none => simp
          | some p' =>
              simp [Query.append?_isSome_iff, grammar_of_alone hq, grammar_of_alone hp, hg]

/-- A bare id follows nothing but another id, and is never joined. -/
theorem alone_byId_isSome_iff {o : Outline} :
    (o.alone .byId).query?.isSome = true ↔ o.IsBareId := by
  induction o with
  | start s =>
      rw [query?_alone_start]
      cases s with
      | ofId id => exact ⟨fun _ => .start id, fun _ => rfl⟩
      | anyElement => exact ⟨fun h => (by cases h), fun h => (by cases h)⟩
      | ofTag tag => exact ⟨fun h => (by cases h), fun h => (by cases h)⟩
      | ofClass name => exact ⟨fun h => (by cases h), fun h => (by cases h)⟩
  | refine o r ih =>
      rw [alone, Target.query?_refine]
      constructor
      · intro h
        cases hq : (o.alone .byId).query? with
        | none => simp [hq] at h
        | some q =>
            rw [hq, Option.bind_some, Query.refine?_isSome, grammar_of_alone hq] at h
            have bare : o.IsBareId := ih.1 (by rw [hq]; rfl)
            obtain ⟨id, rfl⟩ := Refinement.namesId_iff.1 h
            exact .rename bare id
      · intro h
        cases h with
        | rename bare id =>
            obtain ⟨q, hq⟩ := Option.isSome_iff_exists.1 (ih.2 bare)
            rw [hq, Option.bind_some, Query.refine?_isSome, grammar_of_alone hq]
            rfl
  | append o p _ _ =>
      rw [alone, Target.query?_append]
      constructor
      · intro h
        cases hq : (o.alone .byId).query? with
        | none => simp [hq] at h
        | some q =>
            cases hp : (p.alone .byId).query? with
            | none => simp [hq, hp] at h
            | some p' =>
                rw [hq, hp] at h
                exact absurd (grammar_of_alone hq) (Query.append?_isSome_iff.1 h).2
      · intro h
        cases h

/-- A selector follows an outline in which nothing needs an expression. -/
theorem alone_css_isSome_iff {o : Outline} :
    (o.alone .css).query?.isSome = true ↔ ∀ r ∈ o.refinements, r.needsExpression = false := by
  rw [alone_isSome_iff (by decide)]
  simp only [Refinement.fits, Bool.not_eq_true']

/-- An expression follows an outline in which nothing asks for a checked control. -/
theorem alone_xpath_isSome_iff {o : Outline} :
    (o.alone .xpath).query?.isSome = true ↔ .qualify .isChecked ∉ o.refinements := by
  rw [alone_isSome_iff (by decide)]
  simp only [Refinement.fits, Bool.not_eq_true', ← Bool.not_eq_true, Refinement.needsSelector_iff]
  constructor
  · intro h mem
    exact h _ mem rfl
  · rintro h r mem rfl
    exact h mem

/-- A bare id has only named ids. -/
theorem IsBareId.namesId_of_mem {o : Outline} (h : o.IsBareId) :
    ∀ r ∈ o.refinements, r.namesId = true := by
  induction h with
  | start id => simp [refinements]
  | rename bare id ih =>
      intro r hr
      rcases List.mem_append.1 hr with earlier | last
      · exact ih r earlier
      · rw [List.mem_singleton.1 last]
        rfl

/-- A bare id can be followed by a selector as well. -/
theorem IsBareId.needsExpression_eq_false {o : Outline} (h : o.IsBareId) :
    ∀ r ∈ o.refinements, r.needsExpression = false := by
  intro r mem
  obtain ⟨id, rfl⟩ := Refinement.namesId_iff.1 (h.namesId_of_mem r mem)
  rfl

/-! ### The grammar of the result -/

/-- An outline renders in the first grammar that can follow it. -/
theorem renders_in_iff {o : Outline} {g : Grammar} :
    (∃ value, o.target.locator = .ok ⟨g, value⟩) ↔
      (o.alone g).query?.isSome = true ∧ ∀ h, h < g → (o.alone h).query? = none := by
  rw [Target.exists_locator_iff, queries_target]
  exact Grammar.head?_filterMap_inOrder_iff fun _ _ => grammar_of_alone

/-! ### The classification -/

/-- **The grammar of the result is decided by which refinements occur.** A bare id renders as such.
Any other outline renders as a selector when nothing in it needs an expression, as an expression
when something needs one and nothing needs a selector, and not at all when both occur. -/
theorem renders_by_occurring_refinements (o : Outline) :
    ((∃ id, o.target.locator = .ok ⟨.byId, id⟩) ↔ o.IsBareId) ∧
      ((∃ selector, o.target.locator = .ok ⟨.css, selector⟩) ↔
        ¬ o.IsBareId ∧ ∀ r ∈ o.refinements, r.needsExpression = false) ∧
      ((∃ expression, o.target.locator = .ok ⟨.xpath, expression⟩) ↔
        (∃ r ∈ o.refinements, r.needsExpression = true) ∧
          .qualify .isChecked ∉ o.refinements) ∧
      (o.target.locator = .error .noValidSpecification ↔
        (∃ r ∈ o.refinements, r.needsExpression = true) ∧
          .qualify .isChecked ∈ o.refinements) := by
  have onlySelectors : (¬ ∀ r ∈ o.refinements, r.needsExpression = false) ↔
      ∃ r ∈ o.refinements, r.needsExpression = true := by simp
  have bareOrNot : (∃ r ∈ o.refinements, r.needsExpression = true) → ¬ o.IsBareId := by
    intro needs bare
    exact onlySelectors.2 needs bare.needsExpression_eq_false
  refine ⟨?_, ?_, ?_, ?_⟩
  · -- No grammar comes before the bare id.
    rw [renders_in_iff, alone_byId_isSome_iff]
    exact and_iff_left fun h before => absurd before h.not_lt_byId
  · rw [renders_in_iff, alone_css_isSome_iff, Grammar.forall_lt_css,
      ← Option.not_isSome_iff_eq_none, alone_byId_isSome_iff]
    exact and_comm
  · rw [renders_in_iff, alone_xpath_isSome_iff, Grammar.forall_lt_xpath,
      ← Option.not_isSome_iff_eq_none, ← Option.not_isSome_iff_eq_none, alone_byId_isSome_iff,
      alone_css_isSome_iff, onlySelectors]
    constructor
    · rintro ⟨unchecked, -, needs⟩
      exact ⟨needs, unchecked⟩
    · rintro ⟨needs, unchecked⟩
      exact ⟨unchecked, bareOrNot needs, needs⟩
  · rw [Target.locator_eq_error_iff, queries_target_eq_nil_iff, Grammar.forall_iff]
    simp only [(o.isSingle_alone _).eq_impossible_iff, ← Option.not_isSome_iff_eq_none,
      alone_byId_isSome_iff, alone_css_isSome_iff, alone_xpath_isSome_iff, onlySelectors,
      Decidable.not_not]
    constructor
    · rintro ⟨-, needs, checked⟩
      exact ⟨needs, checked⟩
    · rintro ⟨needs, checked⟩
      exact ⟨bareOrNot needs, needs, checked⟩

end Outline
end DomQuery
