import DomQuery.Proofs.Locator.Reading
import DomQuery.Proofs.Outline.Invariant

/-!
Which outlines can be read back from their compact text.

Whatever the arguments of an outline are, its expression opens with two slashes: the start writes
them, and every step writes after them (`opensWith_expression`). So the expression shows its
grammar without a mark. A selector is marked, whatever it holds. Only an id can be taken for
something else, when it begins with a mark or like a path.

* `locate_rendered_outline`: when the compact text of an outline gives its locator back.
-/

namespace DomQuery

open Text

namespace Text

theorem opensWith_append {opening text : String} (h : opensWith opening text = true)
    (more : String) : opensWith opening (text ++ more) = true := by
  obtain ⟨rest, rfl⟩ := opensWith_iff.1 h
  exact opensWith_iff.2 ⟨rest ++ more, String.append_assoc⟩

end Text

namespace Outline

/-- The slashes of the start stay in front of all that is written later. -/
theorem expressionInvariant_opensWith :
    ExpressionInvariant fun _ e => opensWith "//" e.text = true := by
  have any : opensWith "//" XPath.Expression.any.text = true := opensWith_iff.2 ⟨"*", rfl⟩
  constructor
  · intro origin
    cases origin with
    | anyElement => exact any
    | ofTag tag => exact opensWith_iff.2 ⟨tag, rfl⟩
    | ofClass name => exact opensWith_append any _
    | ofId id => exact opensWith_append any _
  · intro o e r suffix before _
    exact opensWith_append before suffix
  · intro o p e f outer _
    exact opensWith_append outer f.text

/-- The expression of an outline opens with two slashes. -/
theorem opensWith_expression {o : Outline} {e : XPath.Expression}
    (h : .xpath e ∈ o.target.queries) : opensWith "//" e.text = true :=
  expressionInvariant_opensWith.holds h

end Outline

namespace Target

/-- What is rendered is a query that is left. -/
theorem exists_query_of_locator {t : Target} {l : Locator} (h : t.locator = .ok l) :
    ∃ q ∈ t.queries, q.locator = l := by
  rw [locator_of_queries] at h
  cases hq : t.queries with
  | nil => simp [hq] at h
  | cons q qs =>
      rw [hq] at h
      exact ⟨q, List.mem_cons_self, Except.ok.inj h⟩

end Target

namespace Outline

/-- Only an id can hide the grammar of an outline. -/
theorem showsGrammar_iff {o : Outline} {l : Locator} (h : o.target.locator = .ok l) :
    l.ShowsGrammar ↔ (l.grammar = .byId → Locator.IsBare l.value) := by
  obtain ⟨q, mem, rfl⟩ := Target.exists_query_of_locator h
  cases q with
  | byId id => exact ⟨fun bare _ => bare, fun bare => bare rfl⟩
  | css s => exact iff_of_true trivial (fun byId => by cases byId)
  | xpath e =>
      have path : Locator.opensPath e.text = true := by
        rw [Locator.opensPath, opensWith_expression mem, Bool.true_or]
      exact iff_of_true path (fun byId => by cases byId)

/-- **The compact text of an outline gives its locator back**, grammar and value, when the locator
is a selector or an expression. When it is an id, this holds exactly if the id begins with no mark
and not like a path. -/
theorem locate_rendered_outline {o : Outline} {text : String} (h : o.target.compact = .ok text) :
    ∃ l, o.target.locator = .ok l ∧ text = l.compact ∧
      (l.grammar ≠ .byId → locate text = .ok l) ∧
      (l.grammar = .byId → (locate text = .ok l ↔ Locator.IsBare l.value)) := by
  obtain ⟨l, rendered, rfl⟩ := Target.compact_eq_ok_iff.1 h
  have readBack : locate l.compact = .ok l ↔ (l.grammar = .byId → Locator.IsBare l.value) :=
    (locate_compact_iff l).trans (showsGrammar_iff rendered)
  refine ⟨l, rendered, rfl, ?_, ?_⟩
  · intro notId
    exact readBack.2 fun byId => absurd byId notId
  · intro byId
    rw [readBack]
    exact ⟨fun bare => bare byId, fun bare _ => bare⟩

/-- Neither a tag nor a text that looks like an opening stands in the way. -/
theorem locate_rendered_outline_marked_tag :
    ((start (.ofTag "css=a")).append
        ((start (.ofId "xpath=b")).refine (.qualify (.textIs "(//")))).target.compact =
        .ok "//css=a//*[@id='xpath=b'][text() = '(//']" ∧
      ∃ l, ((start (.ofTag "css=a")).append
          ((start (.ofId "xpath=b")).refine (.qualify (.textIs "(//")))).target.locator = .ok l ∧
        "//css=a//*[@id='xpath=b'][text() = '(//']" = l.compact ∧
        (l.grammar ≠ .byId →
          locate "//css=a//*[@id='xpath=b'][text() = '(//']" = .ok l) ∧
        (l.grammar = .byId →
          (locate "//css=a//*[@id='xpath=b'][text() = '(//']" = .ok l ↔
            Locator.IsBare l.value)) := by
  have rendered : ((start (.ofTag "css=a")).append
      ((start (.ofId "xpath=b")).refine (.qualify (.textIs "(//")))).target.compact =
      .ok "//css=a//*[@id='xpath=b'][text() = '(//']" := rfl
  exact ⟨rendered, locate_rendered_outline rendered⟩

end Outline
end DomQuery
