import DomQuery.Refinement
import DomQuery.Text.Blank

/-!
The texts that a description is given, and what the texts written from them are made of.

What a grammar writes for a condition is put together from fixed texts, digits and the arguments.
So a class of characters that has all of these has every character written (`MadeOf.append`,
`MadeOf.join`, `MadeOf.intercalate`). Arguments of letters bring in nothing but letters.
-/

namespace DomQuery

/-! ### What a text is made of -/

namespace Text

/-- Every character of the text is in the class. -/
def MadeOf (p : Char → Prop) (text : String) : Prop := ∀ c ∈ text.toList, p c

instance (p : Char → Prop) [DecidablePred p] (text : String) : Decidable (MadeOf p text) :=
  List.decidableBAll p text.toList

namespace MadeOf

variable {p q : Char → Prop}

theorem mono (h : ∀ c, p c → q c) {text : String} (all : MadeOf p text) : MadeOf q text := by
  intro c hc
  exact h c (all c hc)

theorem empty : MadeOf p "" := by
  intro c hc
  cases hc

theorem append {s t : String} (hs : MadeOf p s) (ht : MadeOf p t) : MadeOf p (s ++ t) := by
  intro c hc
  rw [String.toList_append, List.mem_append] at hc
  rcases hc with left | right
  · exact hs c left
  · exact ht c right

/-- A text between two of the fixed texts of a syntax. -/
theorem between {fixed : List String} (all : ∀ t ∈ fixed, MadeOf p t)
    {opening text closing : String} (ho : opening ∈ fixed) (ht : MadeOf p text)
    (hc : closing ∈ fixed) :
    MadeOf p (opening ++ text ++ closing) := ((all opening ho).append ht).append (all closing hc)

theorem join {texts : List String} (h : ∀ t ∈ texts, MadeOf p t) :
    MadeOf p (String.join texts) := by
  intro c hc
  rw [String.toList_join, List.mem_flatMap] at hc
  obtain ⟨t, mem, hc⟩ := hc
  exact h t mem c hc

theorem intercalate {separator : String} (hs : MadeOf p separator) {texts : List String}
    (h : ∀ t ∈ texts, MadeOf p t) : MadeOf p (separator.intercalate texts) := by
  induction texts with
  | nil => exact empty
  | cons t texts ih =>
      have rest := ih fun u hu => h u (List.mem_cons_of_mem t hu)
      by_cases last : texts = []
      · rw [last, String.intercalate_singleton]
        exact h t List.mem_cons_self
      · rw [String.intercalate_cons_of_ne_nil last]
        exact ((h t List.mem_cons_self).append hs).append rest

/-- A number is made of digits. -/
theorem toString (h : ∀ c : Char, c.isDigit = true → p c) (n : Nat) : MadeOf p (toString n) := by
  intro c hc
  have digits : c ∈ Nat.toDigits 10 n := by rwa [← Nat.toList_repr]
  exact h c (Nat.isDigit_of_mem_toDigits (by decide) (by decide) digits)

end MadeOf

/-- The text is not empty and has ASCII letters only. -/
def IsLetters (text : String) : Prop := text ≠ "" ∧ MadeOf (fun c => c.isAlpha = true) text

instance (text : String) : Decidable (IsLetters text) :=
  inferInstanceAs (Decidable (_ ∧ _))

/-- An ASCII letter or digit, a hyphen or an underscore. -/
def IsIdentifierChar (c : Char) : Prop :=
  c.isAlpha = true ∨ c.isDigit = true ∨ c = '-' ∨ c = '_'

instance : DecidablePred IsIdentifierChar := fun c =>
  inferInstanceAs (Decidable (c.isAlpha = true ∨ c.isDigit = true ∨ c = '-' ∨ c = '_'))

/-- The text is not empty and has only such characters. -/
def IsIdentifier (text : String) : Prop := text ≠ "" ∧ MadeOf IsIdentifierChar text

instance (text : String) : Decidable (IsIdentifier text) :=
  inferInstanceAs (Decidable (_ ∧ _))

/-- A visible ASCII character is no blank. -/
theorem isBlank_eq_false_of_visible {c : Char} (low : 0x21 ≤ c.toNat) (high : c.toNat ≤ 0x7E) :
    isBlank c = false := by
  rw [← Bool.not_eq_true, isBlank, CharClass.contains_iff]
  simp only [blanks, List.mem_cons, List.not_mem_nil, or_false, exists_eq_or_imp, exists_eq_left]
  omega

theorem toNat_of_isAlpha {c : Char} (h : c.isAlpha = true) : 0x41 ≤ c.toNat ∧ c.toNat ≤ 0x7A := by
  rcases Bool.or_eq_true_iff.1 h with upper | lower
  · obtain ⟨low, high⟩ : 0x41 ≤ c.toNat ∧ c.toNat ≤ 0x5A := of_decide_eq_true upper
    omega
  · obtain ⟨low, high⟩ := Bool.and_eq_true_iff.1 lower
    have above : 0x61 ≤ c.toNat := of_decide_eq_true low
    have below : c.toNat ≤ 0x7A := of_decide_eq_true high
    omega

theorem toNat_of_isDigit {c : Char} (h : c.isDigit = true) : 0x30 ≤ c.toNat ∧ c.toNat ≤ 0x39 := by
  obtain ⟨low, high⟩ := Bool.and_eq_true_iff.1 h
  exact ⟨of_decide_eq_true low, of_decide_eq_true high⟩

end Text

/-! ### Arguments -/

/-- The texts that a condition is given. -/
def Qualifier.arguments : Qualifier → List String
  | hasId id => [id]
  | hasClass name | lacksClass name => [name]
  | hasAnyClass names => names
  | hasAttribute name | lacksAttribute name => [name]
  | attributeContains name part => [name, part]
  | attributeIs name value => [name, value]
  | textIs text => [text]
  | textContains part => [part]
  | isNumeric | isEmpty | isChecked | isNth _ | isNthOfType _ => []

/-- The texts that a move is given. -/
def Descent.arguments : Descent → List String
  | anyInside => []
  | inside tag | child tag => [tag]

/-- The texts that a step is given. -/
def Refinement.arguments : Refinement → List String
  | qualify condition => condition.arguments
  | descend move => move.arguments

end DomQuery
