import DomQuery.XPath.Expression
import DomQuery.Proofs.Refinement.Arguments
import DomQuery.Proofs.Text.Stretch

/-!
How many steps the text of an expression shows.

A step is a run of slashes (`stepCount`). Expressions are put together from pieces: location steps,
which begin with slashes, and predicates, which stand in brackets. A piece ends neither like the one
nor like the other begins, so no run goes over the border of two pieces (`stepCount_append`). When
the arguments are letters, a location step has one run and a predicate has none
(`stepCount_suffix`).
-/

namespace DomQuery

namespace Text

theorem head?_append {s : String} {c : Char} (h : s.toList.head? = some c) (t : String) :
    (s ++ t).toList.head? = some c := by
  rw [String.toList_append, List.head?_append, h]
  rfl

theorem getLast?_append (s : String) {t : String} {c : Char} (h : t.toList.getLast? = some c) :
    (s ++ t).toList.getLast? = some c := by
  rw [String.toList_append, List.getLast?_append, h]
  rfl

end Text

namespace XPath

open Text

/-! ### Pieces of an expression -/

/-- How many location steps a text shows. -/
def stepCount (text : String) : Nat := runs '/' text.toList

/-- A text that begins like a location step or a predicate, and does not end in the character that
either begins with. -/
structure IsPiece (text : String) : Prop where
  first : ∃ c, text.toList.head? = some c ∧ (c = '/' ∨ c = '[')
  last : ∃ c, text.toList.getLast? = some c ∧ c ≠ '/' ∧ c ≠ '['

theorem IsPiece.append {s t : String} (hs : IsPiece s) (ht : IsPiece t) : IsPiece (s ++ t) where
  first := by
    obtain ⟨c, first, opens⟩ := hs.first
    exact ⟨c, head?_append first t, opens⟩
  last := by
    obtain ⟨c, last, closes⟩ := ht.last
    exact ⟨c, getLast?_append s last, closes⟩

/-- A piece shows its own steps after another. -/
theorem stepCount_append {s t : String} (hs : IsPiece s) (ht : IsPiece t) :
    stepCount (s ++ t) = stepCount s + stepCount t := by
  obtain ⟨x, last, notSlash, notBracket⟩ := hs.last
  obtain ⟨y, first, opens⟩ := ht.first
  rw [stepCount, String.toList_append]
  apply runs_append
  intro x' hx y' hy same
  rw [last, Option.mem_some_iff] at hx
  rw [first, Option.mem_some_iff] at hy
  subst hx hy same
  rcases opens with slash | bracket
  · exact notSlash slash
  · exact notBracket bracket

/-! ### Location steps -/

theorem isPiece_of_slashes {slashes name : String} {c : Char} (hs : slashes.toList.head? = some '/')
    (hn : name.toList.getLast? = some c) (closes : c ≠ '/' ∧ c ≠ '[') :
    IsPiece (slashes ++ name) where
  first := ⟨'/', head?_append hs name, .inl rfl⟩
  last := ⟨c, getLast?_append slashes hn, closes⟩

/-- The end of a location step: any element, or those with a name. -/
def IsName (text : String) : Prop := text = "*" ∨ IsLetters text

theorem IsName.ends {name : String} (h : IsName name) :
    name.toList ≠ [] ∧ ∀ c ∈ name.toList, c ≠ '/' ∧ c ≠ '[' := by
  rcases h with rfl | letters
  · simp
  · constructor
    · rw [ne_eq, String.toList_eq_nil_iff]
      exact letters.1
    · intro c hc
      have alpha := letters.2 c hc
      constructor
      · rintro rfl
        cases alpha
      · rintro rfl
        cases alpha

/-- One or two slashes and a name are a piece with one step. -/
theorem stepCount_slashes_append {slashes name : String} (hs : slashes = "/" ∨ slashes = "//")
    (hn : IsName name) : IsPiece (slashes ++ name) ∧ stepCount (slashes ++ name) = 1 := by
  obtain ⟨ne, clear⟩ := hn.ends
  obtain ⟨c, last⟩ : ∃ c, name.toList.getLast? = some c :=
    Option.ne_none_iff_exists'.1 (by simpa using ne)
  have noSlash : stepCount name = 0 := runs_eq_zero fun mem => (clear '/' mem).1 rfl
  have border : ∀ x ∈ slashes.toList.getLast?, ∀ y ∈ name.toList.head?, x ≠ y := by
    intro x hx y hy
    have isSlash : x = '/' := by
      rcases hs with rfl | rfl <;> simpa [eq_comm] using hx
    rw [isSlash]
    exact (clear y (List.mem_of_mem_head? hy)).1.symm
  have one : stepCount slashes = 1 := by
    rcases hs with rfl | rfl <;> rfl
  constructor
  · apply isPiece_of_slashes _ last (clear c (List.mem_of_mem_getLast? last))
    rcases hs with rfl | rfl <;> rfl
  · rw [stepCount, String.toList_append, runs_append '/' border]
    change stepCount slashes + stepCount name = 1
    rw [one, noSlash]

theorem stepCount_locationStep (move : Descent) (letters : ∀ t ∈ move.arguments, IsLetters t) :
    IsPiece (locationStep move) ∧ stepCount (locationStep move) = 1 := by
  cases move with
  | anyInside => exact stepCount_slashes_append (.inr rfl) (.inl rfl)
  | inside tag => exact stepCount_slashes_append (.inr rfl) (.inr (letters tag List.mem_cons_self))
  | child tag => exact stepCount_slashes_append (.inl rfl) (.inr (letters tag List.mem_cons_self))

/-! ### Predicates -/

/-- The texts that the syntax of a predicate adds to what it is given. -/
def fixedTexts : List String :=
  ["[", "]", "@id='", "'", "contains(concat(' ', @class, ' '), ' ", " ')", "not(", ")", " or ",
   "@", "contains(@", ", '", "')", "='", emptiness, "text() = '", "text()[contains(.,'", "')]",
   "number(.)=."]

section Conditions

variable {p : Char → Prop} (fixed : ∀ t ∈ fixedTexts, MadeOf p t)

include fixed

theorem madeOf_classTest {name : String} (h : MadeOf p name) : MadeOf p (classTest name) :=
  MadeOf.between fixed (by simp [fixedTexts]) h (by simp [fixedTexts])

/-- A condition is made of what it is given, of digits and of fixed texts. -/
theorem madeOf_condition (digit : ∀ c : Char, c.isDigit = true → p c) {q : Qualifier}
    {test : String} (h : condition? q = some test) (given : ∀ t ∈ q.arguments, MadeOf p t) :
    MadeOf p test := by
  have between := @MadeOf.between p fixedTexts fixed
  have named : ∀ {name : String}, MadeOf p name → MadeOf p ("@" ++ name) := by
    intro name hn
    exact (fixed "@" (by simp [fixedTexts])).append hn
  cases q with
  | hasId id =>
      cases h
      exact between (by simp [fixedTexts]) (given id List.mem_cons_self) (by simp [fixedTexts])
  | hasClass name =>
      cases h
      exact madeOf_classTest fixed (given name List.mem_cons_self)
  | lacksClass name =>
      have hclass := madeOf_classTest fixed (given name List.mem_cons_self)
      cases h
      exact between (by simp [fixedTexts]) hclass (by simp [fixedTexts])
  | hasAnyClass names =>
      cases h
      apply MadeOf.intercalate (fixed " or " (by simp [fixedTexts]))
      intro t ht
      obtain ⟨name, mem, rfl⟩ := List.mem_map.1 ht
      exact madeOf_classTest fixed (given name mem)
  | hasAttribute name =>
      cases h
      exact named (given name List.mem_cons_self)
  | lacksAttribute name =>
      have hname := named (given name List.mem_cons_self)
      cases h
      exact between (by simp [fixedTexts]) hname (by simp [fixedTexts])
  | attributeContains name part =>
      have hpart := given part (List.mem_cons_of_mem name List.mem_cons_self)
      have opened : MadeOf p ("contains(@" ++ name ++ ", '") :=
        between (by simp [fixedTexts]) (given name List.mem_cons_self) (by simp [fixedTexts])
      cases h
      exact (opened.append hpart).append (fixed _ (by simp [fixedTexts]))
  | attributeIs name value =>
      have hvalue := given value (List.mem_cons_of_mem name List.mem_cons_self)
      have opened : MadeOf p ("@" ++ name ++ "='") :=
        between (by simp [fixedTexts]) (given name List.mem_cons_self) (by simp [fixedTexts])
      cases h
      exact (opened.append hvalue).append (fixed _ (by simp [fixedTexts]))
  | textIs text =>
      cases h
      by_cases empty : text = ""
      · rw [if_pos empty]
        exact fixed emptiness (by simp [fixedTexts])
      · rw [if_neg empty]
        exact between (by simp [fixedTexts]) (given text List.mem_cons_self) (by simp [fixedTexts])
  | textContains part =>
      cases h
      exact between (by simp [fixedTexts]) (given part List.mem_cons_self) (by simp [fixedTexts])
  | isNumeric =>
      cases h
      exact fixed "number(.)=." (by simp [fixedTexts])
  | isEmpty =>
      cases h
      exact fixed emptiness (by simp [fixedTexts])
  | isNth position =>
      cases h
      exact .toString digit _
  | isNthOfType position =>
      cases h
      exact .toString digit _
  | isChecked => cases h

end Conditions

/-- A condition on letters is written without a slash. -/
theorem slash_not_mem_condition {q : Qualifier} {test : String} (h : condition? q = some test)
    (letters : ∀ t ∈ q.arguments, IsLetters t) : '/' ∉ test.toList := by
  have fixed : ∀ t ∈ fixedTexts, MadeOf (· ≠ '/') t := by decide +kernel
  have digit : ∀ c : Char, c.isDigit = true → c ≠ '/' := by
    rintro c isDigit rfl
    cases isDigit
  have given : ∀ t ∈ q.arguments, MadeOf (· ≠ '/') t := by
    intro t ht c hc same
    rw [same] at hc
    cases (letters t ht).2 '/' hc
  intro mem
  exact madeOf_condition fixed digit h given '/' mem rfl

theorem isPiece_predicate (test : String) : IsPiece ("[" ++ test ++ "]") where
  first := ⟨'[', head?_append (head?_append rfl test) "]", .inr rfl⟩
  last := ⟨']', getLast?_append ("[" ++ test) rfl, by simp⟩

/-- A predicate shows no step. -/
theorem stepCount_predicate {test : String} (h : '/' ∉ test.toList) :
    stepCount ("[" ++ test ++ "]") = 0 := by
  apply runs_eq_zero
  simpa using h

/-! ### What a refinement writes -/

/-- A refinement with letters writes a piece, with one step if it moves on and none if it stays. -/
theorem stepCount_suffix {r : Refinement} {suffix : String} (h : suffix? r = some suffix)
    (letters : ∀ t ∈ r.arguments, IsLetters t) :
    IsPiece suffix ∧ stepCount suffix = if r.isDescent then 1 else 0 := by
  cases r with
  | qualify condition =>
      obtain ⟨test, htest, rfl⟩ := Option.map_eq_some_iff.1 h
      exact ⟨isPiece_predicate test, stepCount_predicate (slash_not_mem_condition htest letters)⟩
  | descend move =>
      cases h
      exact stepCount_locationStep move letters

end XPath
end DomQuery
