import DomQuery.Proofs.XPath.Chain
import DomQuery.Proofs.XPath.Syntax

/-!
Which chains lead to a well-formed expression.

With letters for arguments every condition is written in one of the forms of `IsCondition`, except
the choice of a class from an empty list: it leaves its predicate empty, and no later step mends
that.

* `form_of_condition?`: the form of each condition.
* `Expression.isPath_of_refineAll?`: a chain without an empty choice continues a path with a path.
* `Expression.isPath_iff_no_empty_choice`: an empty choice is all that can go wrong.
-/

namespace DomQuery.XPath

open Text

/-! ### Forms of conditions -/

theorem isLiteral_of_isLetters {text : String} (h : IsLetters text) :
    IsLiteral ("'" ++ text ++ "'") := by
  refine ⟨text, ?_, rfl⟩
  intro mem
  cases h.2 '\'' mem

theorem isTest_comparison {name value : String} (hn : IsLetters name) (hv : IsLetters value) :
    IsTest ("@" ++ name ++ "='" ++ value ++ "'") := by
  have cut : "@" ++ name ++ "='" ++ value ++ "'" = "@" ++ name ++ "=" ++ ("'" ++ value ++ "'") := by
    simp [← String.toList_inj]
  rw [cut]
  exact .equal (.attr hn) (.inl rfl) (.inr (isLiteral_of_isLetters hv))

theorem isTest_classTest {name : String} (h : IsLetters name) : IsTest (classTest name) := by
  have cut : classTest name =
      "contains(" ++ ("concat(' ', @class, ' ')" ++ ", " ++ ("'" ++ (" " ++ name ++ " ") ++ "'")) ++
        ")" := by
    have opening : "contains(concat(' ', @class, ' '), ' " =
        "contains(" ++ ("concat(' ', @class, ' ')" ++ (", " ++ ("'" ++ " "))) := by decide
    have closing : " ')" = " " ++ ("'" ++ ")") := by decide
    unfold classTest
    rw [opening, closing]
    simp only [String.append_assoc]
  have literal : IsLiteral ("'" ++ (" " ++ name ++ " ") ++ "'") := by
    refine ⟨_, ?_, rfl⟩
    intro mem
    have inName : '\'' ∈ name.toList := by simpa using mem
    cases h.2 '\'' inName
  rw [cut]
  exact .contains .classWords (.inr rfl) literal

theorem isTest_emptiness : IsTest emptiness := IsTest.not .node

theorem isNumber_toString (n : Nat) : IsNumber (toString n) := by
  refine ⟨?_, .toString (fun _ digit => digit) n⟩
  intro empty
  have digits : (Nat.toDigits 10 n) = [] := by rw [← Nat.toList_repr]; exact congrArg _ empty
  exact Nat.toDigits_ne_nil digits

/-- A condition is written in one of the forms, if it is not a choice from nothing. -/
theorem form_of_condition? {q : Qualifier} {test : String} (h : condition? q = some test)
    (letters : ∀ t ∈ q.arguments, IsLetters t) (choice : q ≠ .hasAnyClass []) :
    IsNumber test ∨ IsChoice test := by
  have single : ∀ {t : String}, IsTest t → IsNumber t ∨ IsChoice t :=
    fun isTest => isTest.isCondition.form
  cases q with
  | hasId id =>
      cases h
      have hname : IsLetters "id" := by decide
      exact single (isTest_comparison hname (letters id List.mem_cons_self))
  | hasClass name =>
      cases h
      exact single (isTest_classTest (letters name List.mem_cons_self))
  | lacksClass name =>
      cases h
      exact single (.not (isTest_classTest (letters name List.mem_cons_self)))
  | hasAnyClass names =>
      cases h
      refine .inr ⟨names.map classTest, ?_, ?_, rfl⟩
      · rw [ne_eq, List.map_eq_nil_iff]
        rintro rfl
        exact choice rfl
      · intro t ht
        obtain ⟨name, mem, rfl⟩ := List.mem_map.1 ht
        exact isTest_classTest (letters name mem)
  | hasAttribute name =>
      cases h
      exact single (.attr (letters name List.mem_cons_self))
  | lacksAttribute name =>
      cases h
      exact single (.not (.attr (letters name List.mem_cons_self)))
  | attributeContains name part =>
      have hname := letters name List.mem_cons_self
      have hpart := letters part (List.mem_cons_of_mem name List.mem_cons_self)
      have cut : "contains(@" ++ name ++ ", '" ++ part ++ "')" =
          "contains(" ++ ("@" ++ name ++ ", " ++ ("'" ++ part ++ "'")) ++ ")" := by
        simp [← String.toList_inj]
      cases h
      rw [cut]
      exact single (.contains (.attr hname) (.inr rfl) (isLiteral_of_isLetters hpart))
  | attributeIs name value =>
      have hvalue := letters value (List.mem_cons_of_mem name List.mem_cons_self)
      cases h
      exact single (isTest_comparison (letters name List.mem_cons_self) hvalue)
  | textIs text =>
      have htext := letters text List.mem_cons_self
      have cut : "text() = '" ++ text ++ "'" = "text()" ++ " = " ++ ("'" ++ text ++ "'") := by
        simp [← String.toList_inj]
      cases h
      rw [if_neg htext.1, cut]
      exact single (.equal .text (.inr rfl) (.inr (isLiteral_of_isLetters htext)))
  | textContains part =>
      have hpart := letters part List.mem_cons_self
      have cut : "text()[contains(.,'" ++ part ++ "')]" =
          "text()[" ++ ("contains(" ++ ("." ++ "," ++ ("'" ++ part ++ "'")) ++ ")") ++ "]" := by
        simp [← String.toList_inj]
      cases h
      rw [cut]
      exact single (.text (.contains .self (.inl rfl) (isLiteral_of_isLetters hpart)))
  | isNumeric =>
      cases h
      exact single (.equal .number (.inl rfl) (.inl .self))
  | isEmpty =>
      cases h
      exact single isTest_emptiness
  | isNth position =>
      cases h
      exact .inl (isNumber_toString _)
  | isNthOfType position =>
      cases h
      exact .inl (isNumber_toString _)
  | isChecked => cases h

/-- A move writes a location step. -/
theorem isLocationStep_locationStep {move : Descent} (letters : ∀ t ∈ move.arguments, IsLetters t) :
    IsLocationStep (locationStep move) := by
  cases move with
  | anyInside => exact .element (.inr rfl) (.inl rfl)
  | inside tag => exact .element (.inr rfl) (.inr (letters tag List.mem_cons_self))
  | child tag => exact .element (.inl rfl) (.inr (letters tag List.mem_cons_self))

/-! ### Expressions -/

namespace Expression

/-- A step that is not an empty choice continues a path with a path. -/
theorem isPath_of_refine? {e f : Expression} {r : Refinement} (before : IsPath e.text)
    (h : e.refine? r = some f) (letters : ∀ t ∈ r.arguments, IsLetters t)
    (choice : r ≠ .qualify (.hasAnyClass [])) : IsPath f.text := by
  obtain ⟨suffix, hsuffix, rfl⟩ := refine?_eq_some_iff.1 h
  cases r with
  | qualify q =>
      obtain ⟨test, htest, rfl⟩ := Option.map_eq_some_iff.1 hsuffix
      have other : q ≠ .hasAnyClass [] := fun same => choice (congrArg Refinement.qualify same)
      exact before.predicate (.of_form (form_of_condition? htest letters other))
  | descend move =>
      cases hsuffix
      exact before.next (isLocationStep_locationStep letters)

/-- A chain without an empty choice continues a path with a path. -/
theorem isPath_of_refineAll? {e f : Expression} {rs : List Refinement} (before : IsPath e.text)
    (h : e.refineAll? rs = some f) (letters : ∀ r ∈ rs, ∀ t ∈ r.arguments, IsLetters t)
    (choice : .qualify (.hasAnyClass []) ∉ rs) : IsPath f.text := by
  induction rs generalizing e with
  | nil => cases h; exact before
  | cons r rs ih =>
      rw [refineAll?_cons, Option.bind_eq_some_iff] at h
      obtain ⟨g, step, rest⟩ := h
      rw [List.mem_cons, not_or] at choice
      have reached : IsPath g.text :=
        isPath_of_refine? before step (letters r List.mem_cons_self) (Ne.symm choice.1)
      exact ih reached rest (fun s hs => letters s (List.mem_cons_of_mem r hs)) choice.2

/-- No later step mends the empty brackets of an empty choice. -/
theorem not_isPath_of_empty_choice {e f : Expression} {rs : List Refinement}
    (before : IsPath e.text) (h : e.refineAll? rs = some f)
    (letters : ∀ r ∈ rs, ∀ t ∈ r.arguments, IsLetters t)
    (choice : .qualify (.hasAnyClass []) ∈ rs) : ¬IsPath f.text := by
  -- Up to the first empty choice all is well, and a reader stops there.
  obtain ⟨first, rest, rfl, other⟩ := List.eq_append_cons_of_mem choice
  rw [refineAll?_append, Option.bind_eq_some_iff] at h
  obtain ⟨g, reached, h⟩ := h
  have path : IsPath g.text :=
    isPath_of_refineAll? before reached (fun r hr => letters r (List.mem_append_left _ hr)) other
  have written : g.refine? (.qualify (.hasAnyClass [])) = some ⟨g.text ++ "[]"⟩ := rfl
  rw [refineAll?_cons, written, Option.bind_some, refineAll?_eq, Option.map_eq_some_iff] at h
  obtain ⟨suffix, -, rfl⟩ := h
  intro isPath
  exact not_isBalanced_of_empty_brackets path.isBalanced suffix isPath.isBalanced

/-- **Every expression is well formed, unless it has an empty choice.** From any element or from a
tag, each chain that expressions can follow and that is given letters leads to an expression. It is
a path, in which no predicate is empty, exactly when the chain has no choice of a class from an
empty list. -/
theorem isPath_iff_no_empty_choice {tag : Option String} {rs : List Refinement}
    (named : ∀ t ∈ tag, IsLetters t) (follows : ∀ r ∈ rs, r.needsSelector = false)
    (letters : ∀ r ∈ rs, ∀ t ∈ r.arguments, IsLetters t) :
    ∃ e, (tag.elim any ofTag).refineAll? rs = some e ∧
      (IsPath e.text ↔ .qualify (.hasAnyClass []) ∉ rs) := by
  have start : IsPath (tag.elim any ofTag).text := by
    cases tag with
    | none => exact .step (.element (.inr rfl) (.inl rfl))
    | some tag => exact .step (.element (.inr rfl) (.inr (named tag rfl)))
  obtain ⟨suffix, hsuffix⟩ := exists_suffixAll? follows
  have reached : (tag.elim any ofTag).refineAll? rs =
      some ⟨(tag.elim any ofTag).text ++ suffix⟩ := by
    rw [refineAll?_eq, hsuffix, Option.map_some]
  refine ⟨_, reached, ?_, isPath_of_refineAll? start reached letters⟩
  intro isPath choice
  exact not_isPath_of_empty_choice start reached letters choice isPath

/-- The cells of a numbered row that carry one of two marks and some text. -/
def markedCells : List Refinement :=
  [.descend (.inside "tr"), .qualify (.isNth 2), .descend (.child "td"),
    .qualify (.hasAnyClass ["due", "late"]), .qualify (.textContains "paid")]

theorem isPath_iff_no_empty_choice_markedCells :
    (∀ t ∈ some "table", IsLetters t) ∧ (∀ r ∈ markedCells, r.needsSelector = false) ∧
      (∀ r ∈ markedCells, ∀ t ∈ r.arguments, IsLetters t) ∧
      ∃ e, (ofTag "table").refineAll? markedCells = some e ∧ IsPath e.text := by
  have named : ∀ t ∈ some "table", IsLetters t := by decide
  have follows : ∀ r ∈ markedCells, r.needsSelector = false := by decide
  have letters : ∀ r ∈ markedCells, ∀ t ∈ r.arguments, IsLetters t := by decide
  obtain ⟨e, reached, isPath⟩ := isPath_iff_no_empty_choice named follows letters
  exact ⟨named, follows, letters, e, reached, isPath.2 (by decide)⟩

/-- A choice of a class from an empty list is written as empty brackets. -/
theorem empty_choice_written :
    any.refineAll? [.qualify (.hasAnyClass [])] = some ⟨"//*[]"⟩ ∧ ¬IsPath "//*[]" := by
  refine ⟨rfl, ?_⟩
  intro isPath
  cases isPath.isBalanced

end Expression
end DomQuery.XPath
