import DomQuery.Proofs.Css.StepCount
import DomQuery.Proofs.Outline.Invariant
import DomQuery.Proofs.XPath.StepCount

/-!
How many steps an outline takes in the two grammars.

An outline of which all arguments are letters names as many elements as its starts and moves say
(`elements`), and its expression shows one step for each of them. Its selector does too, up to one
difference: an appended description closes the selector, so a condition that comes next opens a step
of its own, where the expression qualifies the element it has reached. Such places are counted by
`reopenings`.

* `stepCount_selector`, `stepCount_expression`: the steps in each grammar.
* `stepCounts_differ_by_reopenings`: the two grammars take the same steps exactly when no condition
  comes right after an appended description.
-/

namespace DomQuery

open Text

namespace Start

/-- The texts that a start is given. -/
def arguments : Start → List String
  | anyElement => []
  | ofTag text | ofClass text | ofId text => [text]

theorem isPlain_selector {origin : Start} (letters : ∀ t ∈ origin.arguments, IsLetters t) :
    origin.selector.IsPlain := by
  have any : Css.Selector.any.IsPlain := by
    rintro step ⟨⟩
    exact Css.Step.isPlain_empty
  have given := fun t ht => Css.isInner_of_isLetters (letters t ht)
  cases origin with
  | anyElement => exact any
  | ofTag tag =>
      rintro step ⟨⟩
      exact Css.Step.isPlain_openStep (.inside tag) given
  | ofClass name => exact any.add (Css.isInner_part (q := .hasClass name) rfl given)
  | ofId id => exact any.add (Css.isInner_part (q := .hasId id) rfl given)

/-- A start is a selector with nothing but an open step. -/
theorem exists_selector_eq (origin : Start) : ∃ step, origin.selector = ⟨"", some step⟩ := by
  cases origin <;> exact ⟨_, rfl⟩

end Start

namespace Outline

/-! ### What an outline names -/

/-- The texts that an outline is given. -/
def arguments : Outline → List String
  | start origin => origin.arguments
  | refine o r => o.arguments ++ r.arguments
  | append o p => o.arguments ++ p.arguments

/-- How many elements an outline names, one inside the other. -/
def elements : Outline → Nat
  | start _ => 1
  | refine o r => o.elements + (if r.isDescent then 1 else 0)
  | append o p => o.elements + p.elements

/-- The last step appends a description. -/
def endsInAppend : Outline → Bool
  | append _ _ => true
  | _ => false

/-- How many conditions come right after an appended description, in the appended ones too. -/
def reopenings : Outline → Nat
  | start _ => 0
  | refine o r => o.reopenings + (if o.endsInAppend && !r.isDescent then 1 else 0)
  | append o p => o.reopenings + p.reopenings

/-- All arguments of the outline are letters. -/
def HasLetters (o : Outline) : Prop := ∀ t ∈ o.arguments, IsLetters t

instance (o : Outline) : Decidable o.HasLetters :=
  inferInstanceAs (Decidable (∀ t ∈ o.arguments, IsLetters t))

theorem hasLetters_refine_iff {o : Outline} {r : Refinement} :
    (o.refine r).HasLetters ↔ o.HasLetters ∧ ∀ t ∈ r.arguments, IsLetters t :=
  List.forall_mem_append

theorem hasLetters_append_iff {o p : Outline} :
    (o.append p).HasLetters ↔ o.HasLetters ∧ p.HasLetters :=
  List.forall_mem_append

/-! ### Selectors -/

/-- The selector shows the steps of its outline, and is closed after an appended description. -/
structure SelectorShows (o : Outline) (s : Css.Selector) : Prop where
  plain : s.IsPlain
  closed : s.current.isNone = o.endsInAppend
  count : Css.stepCount s.text = o.elements + o.reopenings

theorem SelectorShows.start {origin : Start} (letters : (start origin).HasLetters) :
    SelectorShows (start origin) origin.selector := by
  have plain := Start.isPlain_selector letters
  obtain ⟨step, opened⟩ := origin.exists_selector_eq
  rw [opened] at plain ⊢
  constructor
  · exact plain
  · rfl
  · rw [plain.stepCount_text]
    rfl

theorem SelectorShows.qualify {o : Outline} {s : Css.Selector} (h : SelectorShows o s)
    {q : Qualifier} {part : Css.Part} (hpart : Css.part? q = some part)
    (letters : ∀ t ∈ q.arguments, IsLetters t) :
    SelectorShows (o.refine (.qualify q)) (s.add part) := by
  have inner := Css.isInner_part hpart fun t ht => Css.isInner_of_isLetters (letters t ht)
  constructor
  · exact h.plain.add inner
  · rfl
  · rw [h.plain.stepCount_add inner, h.count, h.closed]
    simp [elements, reopenings, Refinement.isDescent, Nat.add_assoc]

theorem SelectorShows.descend {o : Outline} {s : Css.Selector} (h : SelectorShows o s)
    {move : Descent} (letters : ∀ t ∈ move.arguments, IsLetters t) :
    SelectorShows (o.refine (.descend move)) (s.openNext (Css.openStep move)) := by
  have plain := Css.Step.isPlain_openStep move fun t ht => Css.isInner_of_isLetters (letters t ht)
  constructor
  · exact s.isPlain_openNext plain
  · rfl
  · rw [Css.Selector.stepCount_openNext s plain, h.count]
    simp [elements, reopenings, Refinement.isDescent, Nat.add_right_comm]

theorem SelectorShows.append {o p : Outline} {s t : Css.Selector} (hs : SelectorShows o s)
    (ht : SelectorShows p t) : SelectorShows (o.append p) (s.append t) where
  plain := s.isPlain_append t
  closed := rfl
  count := by
    rw [Css.Selector.stepCount_append, hs.count, ht.count, elements, reopenings]
    omega

theorem selectorInvariant_shows :
    SelectorInvariant fun o s => o.HasLetters → SelectorShows o s where
  start _ letters := .start letters
  qualify before hpart letters :=
    have ⟨earlier, last⟩ := hasLetters_refine_iff.1 letters
    (before earlier).qualify hpart last
  descend _ before letters :=
    have ⟨earlier, last⟩ := hasLetters_refine_iff.1 letters
    (before earlier).descend last
  append outer inner letters :=
    have ⟨left, right⟩ := hasLetters_append_iff.1 letters
    (outer left).append (inner right)

/-- A selector has a step for each element, and one for each condition that had to open it. -/
theorem stepCount_selector {o : Outline} (letters : o.HasLetters) {s : Css.Selector}
    (h : .css s ∈ o.target.queries) : Css.stepCount s.text = o.elements + o.reopenings :=
  (selectorInvariant_shows.holds h letters).count

/-! ### Expressions -/

/-- The expression shows the elements of its outline. -/
structure ExpressionShows (o : Outline) (e : XPath.Expression) : Prop where
  piece : XPath.IsPiece e.text
  count : XPath.stepCount e.text = o.elements

theorem ExpressionShows.refine {o : Outline} {e : XPath.Expression} (h : ExpressionShows o e)
    {r : Refinement} {suffix : String} (hsuffix : XPath.suffix? r = some suffix)
    (letters : ∀ t ∈ r.arguments, IsLetters t) :
    ExpressionShows (o.refine r) ⟨e.text ++ suffix⟩ := by
  obtain ⟨piece, count⟩ := XPath.stepCount_suffix hsuffix letters
  constructor
  · exact h.piece.append piece
  · rw [XPath.stepCount_append h.piece piece, h.count, count]
    rfl

theorem ExpressionShows.append {o p : Outline} {e f : XPath.Expression}
    (he : ExpressionShows o e) (hf : ExpressionShows p f) :
    ExpressionShows (o.append p) (e.append f) where
  piece := he.piece.append hf.piece
  count := by
    rw [XPath.Expression.text_append, XPath.stepCount_append he.piece hf.piece, he.count, hf.count]
    rfl

theorem ExpressionShows.start {origin : Start} (letters : (start origin).HasLetters) :
    ExpressionShows (start origin) origin.expression := by
  have anyElement : ExpressionShows (.start .anyElement) .any := by
    obtain ⟨piece, count⟩ := XPath.stepCount_locationStep .anyInside nofun
    exact ⟨piece, count⟩
  cases origin with
  | anyElement => exact anyElement
  | ofTag tag =>
      obtain ⟨piece, count⟩ := XPath.stepCount_locationStep (.inside tag) letters
      exact ⟨piece, count⟩
  | ofClass name =>
      obtain ⟨piece, count⟩ :=
        anyElement.refine (r := .qualify (.hasClass name)) rfl letters
      exact ⟨piece, count⟩
  | ofId id =>
      obtain ⟨piece, count⟩ := anyElement.refine (r := .qualify (.hasId id)) rfl letters
      exact ⟨piece, count⟩

theorem expressionInvariant_shows :
    ExpressionInvariant fun o e => o.HasLetters → ExpressionShows o e where
  start _ letters := .start letters
  refine before hsuffix letters :=
    have ⟨earlier, last⟩ := hasLetters_refine_iff.1 letters
    (before earlier).refine hsuffix last
  append outer inner letters :=
    have ⟨left, right⟩ := hasLetters_append_iff.1 letters
    (outer left).append (inner right)

/-- An expression has a step for each element. -/
theorem stepCount_expression {o : Outline} (letters : o.HasLetters) {e : XPath.Expression}
    (h : .xpath e ∈ o.target.queries) : XPath.stepCount e.text = o.elements :=
  (expressionInvariant_shows.holds h letters).count

/-! ### The two grammars -/

/-- **The selector takes one step more than the expression for each condition that comes right after
an appended description.** So the two grammars take the same number of steps exactly when there is
no such condition. -/
theorem stepCounts_differ_by_reopenings {o : Outline} (letters : o.HasLetters)
    {s : Css.Selector} (hs : .css s ∈ o.target.queries) {e : XPath.Expression}
    (he : .xpath e ∈ o.target.queries) :
    Css.stepCount s.text = XPath.stepCount e.text + o.reopenings ∧
      (Css.stepCount s.text = XPath.stepCount e.text ↔ o.reopenings = 0) := by
  have differ : Css.stepCount s.text = XPath.stepCount e.text + o.reopenings := by
    rw [stepCount_selector letters hs, stepCount_expression letters he]
  constructor
  · exact differ
  · omega

/-- The links right inside the entries of a list: nothing but a move after what is appended. -/
def entryLinks : Outline :=
  ((start (.ofTag "ul")).append (start (.ofClass "entry"))).refine (.descend (.child "a"))

theorem stepCounts_differ_by_reopenings_entryLinks :
    entryLinks.HasLetters ∧
      .css ⟨"ul .entry", some (Css.openStep (.child "a"))⟩ ∈ entryLinks.target.queries ∧
      .xpath ⟨"//ul//*[contains(concat(' ', @class, ' '), ' entry ')]/a"⟩ ∈
        entryLinks.target.queries ∧
      Css.stepCount "ul .entry > a" =
        XPath.stepCount "//ul//*[contains(concat(' ', @class, ' '), ' entry ')]/a" := by
  have letters : entryLinks.HasLetters := by decide
  have hs : .css ⟨"ul .entry", some (Css.openStep (.child "a"))⟩ ∈ entryLinks.target.queries :=
    List.mem_cons_self
  have he : .xpath ⟨"//ul//*[contains(concat(' ', @class, ' '), ' entry ')]/a"⟩ ∈
      entryLinks.target.queries := List.mem_cons_of_mem _ List.mem_cons_self
  exact ⟨letters, hs, he, (stepCounts_differ_by_reopenings letters hs he).2.2 rfl⟩

/-- A condition right after an appended description. -/
def qualifiedAppend : Outline :=
  ((start (.ofTag "a")).append (start (.ofTag "b"))).refine (.qualify (.hasClass "c"))

/-- The class is a condition on the appended element in the expression, and a step of its own in the
selector. -/
theorem qualifiedAppend_steps_differ :
    qualifiedAppend.HasLetters ∧
      ∃ s e, qualifiedAppend.target.queries = [.css s, .xpath e] ∧
        s.text = "a b .c" ∧ e.text = "//a//b[contains(concat(' ', @class, ' '), ' c ')]" ∧
        Css.stepCount s.text = 3 ∧ XPath.stepCount e.text = 2 := by
  have letters : qualifiedAppend.HasLetters := by decide
  refine ⟨letters, ⟨"a b", some { classes := ["c"] }⟩,
    ⟨"//a//b[contains(concat(' ', @class, ' '), ' c ')]"⟩, rfl, rfl, rfl, ?_, ?_⟩
  · decide +kernel
  · decide +kernel

end Outline
end DomQuery
