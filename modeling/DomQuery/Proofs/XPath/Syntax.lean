import DomQuery.Proofs.Text.Reader
import DomQuery.Proofs.XPath.StepCount

/-!
The syntax of the expressions that describe an element.

A path is a sequence of location steps, each with predicates in brackets. What may stand in a
predicate is a position or a test, or several tests joined with `or`. The part of the language given
here is what descriptions need of it: operands without arithmetic, comparisons for equality, two
functions, and a nested predicate on text.

A reader of an expression keeps track of the brackets and parentheses that are open, outside of
literals (`Reading`). It refuses brackets that are closed by a sign of the other kind, and brackets
with nothing in them.

* `IsTest.passes`: a test leaves the reader as deep inside as it was before.
* `IsPath.isBalanced`: a reader gets through a path and has nothing left to close.
-/

namespace DomQuery.XPath

open Text

/-! ### Brackets -/

/-- What a reader keeps in mind. -/
structure Reading where
  /-- The closing signs that are due, the next one first. -/
  due : List Char := []
  inLiteral : Bool := false
  /-- The last character opened a bracket. -/
  justOpened : Bool := false
  deriving DecidableEq, Repr

/-- Reads a character. A literal hides everything but its own end. -/
def Reading.next (r : Reading) (c : Char) : Option Reading :=
  if r.inLiteral then some { due := r.due, inLiteral := c ≠ '\'' }
  else if c = '\'' then some { due := r.due, inLiteral := true }
  else if c = '(' then some { due := ')' :: r.due }
  else if c = '[' then some { due := ']' :: r.due, justOpened := true }
  else if c = ')' ∨ c = ']' then
    if r.due.head? = some c ∧ ¬(c = ']' ∧ r.justOpened = true) then some { due := r.due.tail }
    else none
  else some { due := r.due }

/-- Brackets and parentheses are closed in the order in which they are opened, and no brackets are
empty. What stands in a literal does not count. -/
def IsBalanced (text : String) : Prop := scan Reading.next {} text = some {}

/-- A reader outside of a literal gets through the text and is as deep inside as before. Right after
an opening bracket it has found that the bracket is not empty. -/
def Passes (text : String) : Prop :=
  ∀ due justOpened, scan Reading.next ⟨due, false, justOpened⟩ text = some ⟨due, false, false⟩

/-- A character that does not change how deep inside a reader is. -/
def IsPlain (c : Char) : Prop := c ≠ '\'' ∧ c ≠ '(' ∧ c ≠ ')' ∧ c ≠ '[' ∧ c ≠ ']'

instance : DecidablePred IsPlain := fun _ => inferInstanceAs (Decidable (_ ∧ _))

namespace Passes

theorem ne_empty {text : String} (h : Passes text) : text ≠ "" := by
  rintro rfl
  cases h [] true

theorem isBalanced {text : String} (h : Passes text) : IsBalanced text := h [] false

theorem of_plain {text : String} (ne : text ≠ "") (h : MadeOf IsPlain text) : Passes text := by
  intro due justOpened
  have step : ∀ (justOpened : Bool) (c : Char), IsPlain c →
      Reading.next ⟨due, false, justOpened⟩ c = some ⟨due, false, false⟩ := by
    rintro justOpened c ⟨h₁, h₂, h₃, h₄, h₅⟩
    simp [Reading.next, h₁, h₂, h₃, h₄, h₅]
  obtain ⟨c, cs, cut⟩ := List.exists_cons_of_ne_nil (mt String.toList_eq_nil_iff.1 ne)
  rw [MadeOf, cut] at h
  -- The first character settles that an open bracket is not empty.
  rw [scan, cut, List.foldlM_cons, step justOpened c (h c List.mem_cons_self)]
  apply foldlM_of_forall
  intro d hd
  exact step false d (h d (List.mem_cons_of_mem c hd))

theorem append {s t : String} (hs : Passes s) (ht : Passes t) : Passes (s ++ t) := by
  intro due justOpened
  rw [scan_append, hs, Option.bind_some, ht]

/-- A text in parentheses, or in brackets. -/
theorem enclosed {opening closing : String} {c : Char} {fresh : Bool}
    (ho : ∀ due justOpened,
      scan Reading.next ⟨due, false, justOpened⟩ opening = some ⟨c :: due, false, fresh⟩)
    (hc : ∀ due, scan Reading.next ⟨c :: due, false, false⟩ closing = some ⟨due, false, false⟩)
    {text : String} (h : Passes text) : Passes (opening ++ text ++ closing) := by
  intro due justOpened
  rw [scan_append, scan_append, ho, Option.bind_some, h, Option.bind_some, hc]

end Passes

/-! ### Tests -/

/-- A quoted text, in which nothing is escaped. -/
def IsLiteral (text : String) : Prop :=
  ∃ inside : String, '\'' ∉ inside.toList ∧ text = "'" ++ inside ++ "'"

/-- What a test compares or looks into. -/
inductive IsOperand : String → Prop where
  | attr {name : String} (h : IsLetters name) : IsOperand ("@" ++ name)
  | self : IsOperand "."
  | text : IsOperand "text()"
  | number : IsOperand "number(.)"
  /-- The words of the class attribute, each between two spaces. -/
  | classWords : IsOperand "concat(' ', @class, ' ')"

inductive IsTest : String → Prop where
  | attr {name : String} (h : IsLetters name) : IsTest ("@" ++ name)
  | node : IsTest "node()"
  | equal {left sign right : String} (hl : IsOperand left) (hs : sign = "=" ∨ sign = " = ")
      (hr : IsOperand right ∨ IsLiteral right) : IsTest (left ++ sign ++ right)
  | contains {whole comma part : String} (hw : IsOperand whole) (hc : comma = "," ∨ comma = ", ")
      (hp : IsLiteral part) : IsTest ("contains(" ++ (whole ++ comma ++ part) ++ ")")
  | text {test : String} (h : IsTest test) : IsTest ("text()[" ++ test ++ "]")
  | not {test : String} (h : IsTest test) : IsTest ("not(" ++ test ++ ")")

theorem Passes.of_letters {sign name : String} (hs : MadeOf IsPlain sign) (hn : IsLetters name) :
    Passes (sign ++ name) := by
  apply of_plain
  · rw [ne_eq, String.append_eq_empty_iff]
    exact fun empty => hn.1 empty.2
  · refine hs.append (hn.2.mono fun c alpha => ?_)
    refine ⟨?_, ?_, ?_, ?_, ?_⟩ <;> rintro rfl <;> cases alpha

theorem IsLiteral.passes {text : String} (h : IsLiteral text) : Passes text := by
  obtain ⟨inside, closed, rfl⟩ := h
  intro due justOpened
  have opened : scan Reading.next ⟨due, false, justOpened⟩ "'" = some ⟨due, true, false⟩ := rfl
  have hidden : scan Reading.next ⟨due, true, false⟩ inside = some ⟨due, true, false⟩ := by
    apply foldlM_of_forall
    intro c hc
    have other : c ≠ '\'' := by
      rintro rfl
      exact closed hc
    simp [Reading.next, other]
  rw [scan_append, scan_append, opened, Option.bind_some, hidden,
    Option.bind_some]
  rfl

theorem IsOperand.passes {text : String} (h : IsOperand text) : Passes text := by
  cases h with
  | attr h => exact .of_letters (by decide) h
  | self => exact fun _ _ => rfl
  | text => exact fun _ _ => rfl
  | number => exact fun _ _ => rfl
  | classWords => exact fun _ _ => rfl

/-- A test leaves the reader as deep inside as it was before. -/
theorem IsTest.passes {text : String} (h : IsTest text) : Passes text := by
  induction h with
  | attr h => exact .of_letters (by decide) h
  | node => exact fun _ _ => rfl
  | @equal left sign right hl hs hr =>
      have between : Passes sign := by
        rcases hs with rfl | rfl <;> exact fun _ _ => rfl
      exact (hl.passes.append between).append (hr.elim IsOperand.passes IsLiteral.passes)
  | @contains whole comma part hw hc hp =>
      have between : Passes comma := by
        rcases hc with rfl | rfl <;> exact fun _ _ => rfl
      exact ((hw.passes.append between).append hp.passes).enclosed (fun _ _ => rfl) (fun _ => rfl)
  | text _ ih => exact ih.enclosed (fun _ _ => rfl) (fun _ => rfl)
  | not _ ih => exact ih.enclosed (fun _ _ => rfl) (fun _ => rfl)

/-! ### Predicates -/

/-- The digits of a position. -/
def IsNumber (text : String) : Prop := text ≠ "" ∧ MadeOf (fun c => c.isDigit = true) text

/-- One test, or several joined with `or`. -/
def IsChoice (text : String) : Prop :=
  ∃ tests : List String, tests ≠ [] ∧ (∀ t ∈ tests, IsTest t) ∧ text = " or ".intercalate tests

/-- What may stand in a predicate. -/
structure IsCondition (text : String) : Prop where
  ne_empty : text ≠ ""
  isBalanced : IsBalanced text
  form : IsNumber text ∨ IsChoice text

theorem IsNumber.passes {text : String} (h : IsNumber text) : Passes text := by
  refine Passes.of_plain h.1 (h.2.mono fun c digit => ?_)
  refine ⟨?_, ?_, ?_, ?_, ?_⟩ <;> rintro rfl <;> cases digit

theorem IsChoice.passes {text : String} (h : IsChoice text) : Passes text := by
  obtain ⟨tests, ne, isTest, rfl⟩ := h
  induction tests with
  | nil => exact absurd rfl ne
  | cons t tests ih =>
      have first := (isTest t List.mem_cons_self).passes
      by_cases last : tests = []
      · rwa [last, String.intercalate_singleton]
      · have or : Passes " or " := fun _ _ => rfl
        rw [String.intercalate_cons_of_ne_nil last]
        exact (first.append or).append (ih last fun u hu => isTest u (List.mem_cons_of_mem t hu))

theorem passes_of_form {text : String} (h : IsNumber text ∨ IsChoice text) : Passes text :=
  h.elim IsNumber.passes IsChoice.passes

/-- What has the form of a condition is not empty, and is balanced. -/
theorem IsCondition.of_form {text : String} (h : IsNumber text ∨ IsChoice text) :
    IsCondition text where
  ne_empty := (passes_of_form h).ne_empty
  isBalanced := (passes_of_form h).isBalanced
  form := h

theorem IsTest.isCondition {text : String} (h : IsTest text) : IsCondition text := by
  apply IsCondition.of_form
  exact .inr ⟨[text], by simp, by simpa using h, by rw [String.intercalate_singleton]⟩

/-! ### Paths -/

def IsSlashes (text : String) : Prop := text = "/" ∨ text = "//"

/-- Slashes, a name or a star, and predicates. -/
inductive IsLocationStep : String → Prop where
  | element {slashes name : String} (hs : IsSlashes slashes) (hn : IsName name) :
      IsLocationStep (slashes ++ name)
  | predicate {step condition : String} (h : IsLocationStep step) (hc : IsCondition condition) :
      IsLocationStep (step ++ ("[" ++ condition ++ "]"))

/-- Location steps, at least one. -/
inductive IsPath : String → Prop where
  | step {step : String} (h : IsLocationStep step) : IsPath step
  | next {path step : String} (h : IsPath path) (hs : IsLocationStep step) : IsPath (path ++ step)

/-- A predicate at the end of a path belongs to its last step. -/
theorem IsPath.predicate {path condition : String} (h : IsPath path) (hc : IsCondition condition) :
    IsPath (path ++ ("[" ++ condition ++ "]")) := by
  cases h with
  | step h => exact .step (h.predicate hc)
  | next h hs =>
      rw [String.append_assoc]
      exact .next h (hs.predicate hc)

theorem IsLocationStep.passes {text : String} (h : IsLocationStep text) : Passes text := by
  induction h with
  | @element slashes name hs hn =>
      have slashes : MadeOf IsPlain slashes := by
        rcases hs with rfl | rfl <;> decide
      rcases hn with rfl | letters
      · exact .of_plain (by simp [String.append_eq_empty_iff]) (slashes.append (by decide))
      · exact .of_letters slashes letters
  | predicate _ hc ih =>
      exact ih.append ((passes_of_form hc.form).enclosed (fun _ _ => rfl) (fun _ => rfl))

/-- A reader gets through a path and has nothing left to close. -/
theorem IsPath.isBalanced {text : String} (h : IsPath text) : IsBalanced text := by
  have passes : Passes text := by
    induction h with
    | step h => exact h.passes
    | next _ hs ih => exact ih.append hs.passes
  exact passes.isBalanced

/-- Empty brackets are refused wherever they come after a balanced text. -/
theorem not_isBalanced_of_empty_brackets {before : String} (h : IsBalanced before)
    (after : String) : ¬IsBalanced (before ++ "[]" ++ after) := by
  intro balanced
  have refused : scan Reading.next {} "[]" = none := rfl
  rw [IsBalanced, scan_append, scan_append, h, Option.bind_some,
    refused] at balanced
  cases balanced

end DomQuery.XPath
