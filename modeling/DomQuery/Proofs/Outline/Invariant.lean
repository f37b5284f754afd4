import DomQuery.Proofs.Outline

/-!
Invariants of the queries that an outline ends with.

A query of a refined outline comes from one query of the outline, and a query of an appended one
from a query of each side in the same grammar. So a fact that holds of the starts and that every
step keeps holds of each query of each outline (`QueryInvariant.holds`). The fact may speak of the
outline as well: an induction over outlines that counts or collects is one of these.

`SelectorInvariant` and `ExpressionInvariant` say the same for the queries in one grammar, with the
steps written out as that grammar takes them.
-/

namespace DomQuery

namespace Query

/-! ### Steps that end in a given grammar -/

theorem refine?_eq_some_css_iff {q : Query} {r : Refinement} {s : Css.Selector} :
    q.refine? r = some (css s) ↔ ∃ t, q = css t ∧ t.refine? r = some s := by
  constructor
  · intro h
    cases q with
    | byId id => cases grammar_of_refine? h
    | css t =>
        obtain ⟨s', step, same⟩ := Option.map_eq_some_iff.1 h
        cases same
        exact ⟨t, rfl, step⟩
    | xpath e => cases grammar_of_refine? h
  · rintro ⟨t, rfl, step⟩
    rw [refine?, step, Option.map_some]

theorem refine?_eq_some_xpath_iff {q : Query} {r : Refinement} {e : XPath.Expression} :
    q.refine? r = some (xpath e) ↔ ∃ f, q = xpath f ∧ f.refine? r = some e := by
  constructor
  · intro h
    cases q with
    | byId id => cases grammar_of_refine? h
    | css t => cases grammar_of_refine? h
    | xpath f =>
        obtain ⟨e', step, same⟩ := Option.map_eq_some_iff.1 h
        cases same
        exact ⟨f, rfl, step⟩
  · rintro ⟨f, rfl, step⟩
    rw [refine?, step, Option.map_some]

theorem append?_eq_some_css_iff {q p : Query} {s : Css.Selector} :
    q.append? p = some (css s) ↔ ∃ t u, q = css t ∧ p = css u ∧ s = t.append u := by
  cases q <;> cases p <;> simp [append?, eq_comm]

theorem append?_eq_some_xpath_iff {q p : Query} {e : XPath.Expression} :
    q.append? p = some (xpath e) ↔ ∃ f g, q = xpath f ∧ p = xpath g ∧ e = f.append g := by
  cases q <;> cases p <;> simp [append?, eq_comm]

end Query

/-! ### The queries of a start -/

namespace Start

/-- The selector of a start. -/
def selector : Start → Css.Selector
  | anyElement => .any
  | ofTag tag => .ofTag tag
  | ofClass name => Css.Selector.any.add (.className name)
  | ofId id =>
    Css.Selector.any.add
      (if Css.isPlainId id then .id id else .condition (Css.comparison "id" "=" id))

/-- The expression of a start. -/
def expression : Start → XPath.Expression
  | anyElement => .any
  | ofTag tag => .ofTag tag
  | ofClass name => ⟨XPath.Expression.any.text ++ ("[" ++ XPath.classTest name ++ "]")⟩
  | ofId id => ⟨XPath.Expression.any.text ++ ("[" ++ ("@id='" ++ id ++ "'") ++ "]")⟩

theorem queries_composite (s : Start) :
    s.composite.queries =
      (match s with
        | ofId id => [.byId id]
        | _ => []) ++ [.css s.selector, .xpath s.expression] := by
  cases s <;> rfl

theorem css_mem_queries_iff {s : Start} {selector : Css.Selector} :
    .css selector ∈ s.composite.queries ↔ selector = s.selector := by
  rw [queries_composite]
  cases s <;> simp

theorem xpath_mem_queries_iff {s : Start} {expression : XPath.Expression} :
    .xpath expression ∈ s.composite.queries ↔ expression = s.expression := by
  rw [queries_composite]
  cases s <;> simp

end Start

namespace Outline

/-! ### Where a query comes from -/

theorem mem_queries_refine {o : Outline} {r : Refinement} {q : Query} :
    q ∈ (o.refine r).target.queries ↔ ∃ p ∈ o.target.queries, p.refine? r = some q := by
  rw [target, Target.queries_refine, List.mem_filterMap]

theorem exists_of_mem_queries_append {o p : Outline} {q : Query}
    (h : q ∈ (o.append p).target.queries) :
    ∃ q₁ ∈ o.target.queries, ∃ q₂ ∈ p.target.queries, q₁.append? q₂ = some q := by
  rw [target, Target.queries_append o.isComposite_target p.isComposite_target,
    List.mem_filterMap] at h
  obtain ⟨q₁, mem₁, joined⟩ := h
  obtain ⟨q₂, partner, joined⟩ := Option.bind_eq_some_iff.1 joined
  exact ⟨q₁, mem₁, q₂, List.mem_of_find?_eq_some partner, joined⟩

/-! ### Invariants -/

/-- A fact of outlines and their queries that holds at the start and that every step keeps. -/
structure QueryInvariant (P : Outline → Query → Prop) : Prop where
  start : ∀ s, ∀ q ∈ s.composite.queries, P (.start s) q
  refine : ∀ {o q r p}, P o q → q.refine? r = some p → P (.refine o r) p
  append : ∀ {o p q₁ q₂ q}, P o q₁ → P p q₂ → q₁.append? q₂ = some q → P (.append o p) q

theorem QueryInvariant.holds {P : Outline → Query → Prop} (inv : QueryInvariant P) (o : Outline) :
    ∀ q ∈ o.target.queries, P o q := by
  induction o with
  | start s => exact inv.start s
  | refine o r ih =>
      intro q mem
      obtain ⟨p, before, step⟩ := mem_queries_refine.1 mem
      exact inv.refine (ih p before) step
  | append o p iho ihp =>
      intro q mem
      obtain ⟨q₁, mem₁, q₂, mem₂, joined⟩ := exists_of_mem_queries_append mem
      exact inv.append (iho q₁ mem₁) (ihp q₂ mem₂) joined

/-- An invariant of outlines and their selectors. -/
structure SelectorInvariant (P : Outline → Css.Selector → Prop) : Prop where
  start : ∀ origin, P (.start origin) origin.selector
  qualify : ∀ {o s q part}, P o s → Css.part? q = some part →
    P (.refine o (.qualify q)) (s.add part)
  descend : ∀ {o s} d, P o s → P (.refine o (.descend d)) (s.openNext (Css.openStep d))
  append : ∀ {o p s t}, P o s → P p t → P (.append o p) (s.append t)

theorem SelectorInvariant.holds {P : Outline → Css.Selector → Prop} (inv : SelectorInvariant P)
    {o : Outline} {s : Css.Selector} (h : .css s ∈ o.target.queries) : P o s := by
  -- The induction runs over queries of any grammar, about which nothing is said unless they are
  -- selectors.
  have general : QueryInvariant fun o q => ∀ s, q = .css s → P o s := by
    constructor
    · rintro origin q mem s rfl
      rw [Start.css_mem_queries_iff.1 mem]
      exact inv.start origin
    · rintro o q r p before step s rfl
      obtain ⟨t, same, refined⟩ := Query.refine?_eq_some_css_iff.1 step
      cases r with
      | qualify condition =>
          obtain ⟨part, hpart, rfl⟩ := Option.map_eq_some_iff.1 refined
          exact inv.qualify (before t same) hpart
      | descend move =>
          cases refined
          exact inv.descend move (before t same)
    · rintro o p q₁ q₂ q left right joined s rfl
      obtain ⟨t, u, same₁, same₂, rfl⟩ := Query.append?_eq_some_css_iff.1 joined
      exact inv.append (left t same₁) (right u same₂)
  exact general.holds o _ h s rfl

/-- An invariant of outlines and their expressions. -/
structure ExpressionInvariant (P : Outline → XPath.Expression → Prop) : Prop where
  start : ∀ origin, P (.start origin) origin.expression
  refine : ∀ {o e r suffix}, P o e → XPath.suffix? r = some suffix →
    P (.refine o r) ⟨e.text ++ suffix⟩
  append : ∀ {o p e f}, P o e → P p f → P (.append o p) (e.append f)

theorem ExpressionInvariant.holds {P : Outline → XPath.Expression → Prop}
    (inv : ExpressionInvariant P) {o : Outline} {e : XPath.Expression}
    (h : .xpath e ∈ o.target.queries) : P o e := by
  have general : QueryInvariant fun o q => ∀ e, q = .xpath e → P o e := by
    constructor
    · rintro origin q mem e rfl
      rw [Start.xpath_mem_queries_iff.1 mem]
      exact inv.start origin
    · rintro o q r p before step e rfl
      obtain ⟨f, same, refined⟩ := Query.refine?_eq_some_xpath_iff.1 step
      obtain ⟨suffix, hsuffix, rfl⟩ := XPath.Expression.refine?_eq_some_iff.1 refined
      exact inv.refine (before f same) hsuffix
    · rintro o p q₁ q₂ q left right joined e rfl
      obtain ⟨f, g, same₁, same₂, rfl⟩ := Query.append?_eq_some_xpath_iff.1 joined
      exact inv.append (left f same₁) (right g same₂)
  exact general.holds o _ h e rfl

end Outline
end DomQuery
