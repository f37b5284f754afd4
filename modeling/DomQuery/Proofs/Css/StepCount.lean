import DomQuery.Css.Selector
import DomQuery.Proofs.Refinement.Arguments
import DomQuery.Proofs.Text.Stretch

/-!
How many steps the text of a selector shows.

A step is a word of the selector other than the child combinator (`stepCount`). When the arguments
are letters, a step is written as one word, whatever its conditions are (`Step.IsPlain.words_body`),
and trimming takes no word away. So the text shows the finished steps and the open one, if there is
one (`Selector.IsPlain.stepCount_text`), and each operation has one equation: a move adds a step
(`stepCount_openNext`), a condition adds one only if it has to open it
(`Selector.IsPlain.stepCount_add`), and joined selectors show the steps of both
(`stepCount_append`).
-/

namespace DomQuery.Css

open Text

/-! ### Texts inside one step -/

/-- A character that can stand inside a step: neither a blank nor the child combinator. -/
def IsInner (c : Char) : Prop := isBlank c = false ∧ c ≠ '>'

instance : DecidablePred IsInner := fun c =>
  inferInstanceAs (Decidable (isBlank c = false ∧ c ≠ '>'))

theorem isInner_of_isAlpha {c : Char} (h : c.isAlpha = true) : IsInner c := by
  obtain ⟨low, high⟩ := toNat_of_isAlpha h
  constructor
  · exact isBlank_eq_false_of_visible (by omega) (by omega)
  · rintro rfl
    cases h

theorem isInner_of_isDigit {c : Char} (h : c.isDigit = true) : IsInner c := by
  obtain ⟨low, high⟩ := toNat_of_isDigit h
  constructor
  · exact isBlank_eq_false_of_visible (by omega) (by omega)
  · rintro rfl
    cases h

theorem isInner_of_isLetters {text : String} (h : IsLetters text) : MadeOf IsInner text :=
  h.2.mono fun _ => isInner_of_isAlpha

/-- The text of a part, as the step keeps it. -/
def Part.text : Part → String
  | id value => value
  | className name => name
  | pseudoClass text => text
  | condition text => text

/-- The texts that the syntax of a step adds to what it is given. -/
def fixedTexts : List String :=
  ["*", "#", ".", "[", "]", "=", "*=", "\"", "id", ":not(.", ")", ":not([", "])", ":empty",
   ":checked", ":nth-child(", ":nth-of-type("]

section Parts

variable {p : Char → Prop}

theorem madeOf_comparison {name operator value : String} (hn : MadeOf p name)
    (ho : MadeOf p operator) (quote : MadeOf p "\"") (hv : MadeOf p value) :
    MadeOf p (comparison name operator value) :=
  (((hn.append ho).append quote).append hv).append quote

/-- A part is made of what its condition is given, of digits and of fixed texts. -/
theorem madeOf_part (fixed : ∀ t ∈ fixedTexts, MadeOf p t)
    (digit : ∀ c : Char, c.isDigit = true → p c) {q : Qualifier} {part : Part}
    (h : part? q = some part) (given : ∀ t ∈ q.arguments, MadeOf p t) : MadeOf p part.text := by
  have between := @MadeOf.between p fixedTexts fixed
  have quote : MadeOf p "\"" := fixed _ (by simp [fixedTexts])
  cases q with
  | hasId id =>
      have hid := given id List.mem_cons_self
      have idName : MadeOf p "id" := fixed _ (by simp [fixedTexts])
      cases h
      by_cases plain : isPlainId id = true
      · rw [if_pos plain]
        exact hid
      · rw [if_neg plain]
        exact madeOf_comparison idName (fixed _ (by simp [fixedTexts])) quote hid
  | hasClass name =>
      cases h
      exact given name List.mem_cons_self
  | lacksClass name =>
      cases h
      exact between (by simp [fixedTexts]) (given name List.mem_cons_self) (by simp [fixedTexts])
  | hasAttribute name =>
      cases h
      exact given name List.mem_cons_self
  | lacksAttribute name =>
      cases h
      exact between (by simp [fixedTexts]) (given name List.mem_cons_self) (by simp [fixedTexts])
  | attributeContains name value =>
      have hvalue := given value (List.mem_cons_of_mem name List.mem_cons_self)
      cases h
      exact madeOf_comparison (given name List.mem_cons_self) (fixed _ (by simp [fixedTexts])) quote
        hvalue
  | attributeIs name value =>
      have hvalue := given value (List.mem_cons_of_mem name List.mem_cons_self)
      cases h
      exact madeOf_comparison (given name List.mem_cons_self) (fixed _ (by simp [fixedTexts])) quote
        hvalue
  | isEmpty =>
      cases h
      exact fixed ":empty" (by simp [fixedTexts])
  | isChecked =>
      cases h
      exact fixed ":checked" (by simp [fixedTexts])
  | isNth position =>
      cases h
      exact between (by simp [fixedTexts]) (.toString digit _) (by simp [fixedTexts])
  | isNthOfType position =>
      cases h
      exact between (by simp [fixedTexts]) (.toString digit _) (by simp [fixedTexts])
  | hasAnyClass names => cases h
  | textIs text => cases h
  | textContains text => cases h
  | isNumeric => cases h

end Parts

theorem isInner_fixedTexts : ∀ t ∈ fixedTexts, MadeOf IsInner t := by decide +kernel

/-- A condition on texts that stay inside a step is written inside it. -/
theorem isInner_part {q : Qualifier} {part : Part} (h : part? q = some part)
    (given : ∀ t ∈ q.arguments, MadeOf IsInner t) : MadeOf IsInner part.text :=
  madeOf_part isInner_fixedTexts (fun _ => isInner_of_isDigit) h given

/-! ### One step -/

namespace Step

/-- The texts that a step keeps. -/
def texts (s : Step) : List String :=
  s.tag.toList ++ s.id.toList ++ s.classes ++ s.pseudoClasses ++ s.conditions

theorem mem_texts {s : Step} {t : String} :
    t ∈ s.texts ↔ s.tag = some t ∨ s.id = some t ∨ t ∈ s.classes ∨ t ∈ s.pseudoClasses ∨
      t ∈ s.conditions := by
  simp [texts]

theorem mem_texts_of_mem_add {s : Step} {part : Part} {t : String} (h : t ∈ (s.add part).texts) :
    t ∈ s.texts ∨ t = part.text := by
  rw [mem_texts] at h ⊢
  cases part <;> simp only [add, Part.text, List.mem_append, List.mem_singleton,
    Option.some.injEq, eq_comm] at h ⊢ <;> tauto

/-- A step whose text is one word, with or without the child combinator before it. -/
structure IsPlain (s : Step) : Prop where
  combinator : s.combinator = " " ∨ s.combinator = ">"
  inner : ∀ t ∈ s.texts, MadeOf IsInner t

theorem isPlain_empty : IsPlain {} where
  combinator := .inl rfl
  inner := by simp [texts]

theorem IsPlain.add {s : Step} (h : s.IsPlain) {part : Part} (hpart : MadeOf IsInner part.text) :
    (s.add part).IsPlain where
  combinator := by rw [combinator_add]; exact h.combinator
  inner := by
    intro t ht
    rcases mem_texts_of_mem_add ht with before | rfl
    · exact h.inner t before
    · exact hpart

/-- The step that a move opens keeps the arguments of the move. -/
theorem texts_openStep (move : Descent) : (openStep move).texts = move.arguments := by
  cases move <;> rfl

theorem isPlain_openStep (move : Descent) (given : ∀ t ∈ move.arguments, MadeOf IsInner t) :
    (openStep move).IsPlain where
  combinator := by
    cases move with
    | anyInside | inside tag => exact .inl rfl
    | child tag => exact .inr rfl
  inner := by
    rw [texts_openStep]
    exact given

theorem body_ne_empty (s : Step) : s.body ≠ "" := by
  intro h
  rw [body, String.append_eq_empty_iff] at h
  by_cases empty : s.compound = ""
  · simp [empty] at h
  · exact empty (by simpa [empty] using h.1)

theorem IsPlain.madeOf_compound {s : Step} (h : s.IsPlain) : MadeOf IsInner s.compound := by
  have tag : MadeOf IsInner (s.tag.getD "") := by
    cases ht : s.tag with
    | none => exact .empty
    | some tag => exact h.inner tag (mem_texts.2 (by simp [ht]))
  have id : MadeOf IsInner ((s.id.map ("#" ++ ·)).getD "") := by
    cases hid : s.id with
    | none => exact .empty
    | some id =>
        have hash := isInner_fixedTexts "#" (by simp [fixedTexts])
        exact hash.append (h.inner id (mem_texts.2 (by simp [hid])))
  have classes : MadeOf IsInner (String.join (s.classes.map ("." ++ ·))) := by
    apply MadeOf.join
    intro t ht
    obtain ⟨name, mem, rfl⟩ := List.mem_map.1 ht
    have dot := isInner_fixedTexts "." (by simp [fixedTexts])
    exact dot.append (h.inner name (mem_texts.2 (by simp [mem])))
  have pseudoClasses : MadeOf IsInner (String.join s.pseudoClasses) := by
    apply MadeOf.join
    intro t mem
    exact h.inner t (mem_texts.2 (by simp [mem]))
  exact ((tag.append id).append classes).append pseudoClasses

theorem IsPlain.madeOf_body {s : Step} (h : s.IsPlain) : MadeOf IsInner s.body := by
  have conditions : MadeOf IsInner (String.join (s.conditions.map fun t => "[" ++ t ++ "]")) := by
    apply MadeOf.join
    intro t ht
    obtain ⟨condition, mem, rfl⟩ := List.mem_map.1 ht
    have inner := h.inner condition (mem_texts.2 (by simp [mem]))
    exact MadeOf.between isInner_fixedTexts (by simp [fixedTexts]) inner (by simp [fixedTexts])
  rw [body]
  apply MadeOf.append _ conditions
  by_cases empty : s.compound = ""
  · rw [if_pos empty]
    exact isInner_fixedTexts "*" (by simp [fixedTexts])
  · rw [if_neg empty]
    exact h.madeOf_compound

theorem IsPlain.body_ne_child {s : Step} (h : s.IsPlain) : s.body.toList ≠ ['>'] := by
  intro same
  have mem : '>' ∈ s.body.toList := by rw [same]; exact List.mem_singleton_self _
  exact (h.madeOf_body _ mem).2 rfl

/-- The conditions of a step do not break it into words. -/
theorem IsPlain.words_body {s : Step} (h : s.IsPlain) : words s.body.toList = [s.body.toList] := by
  apply words_of_forall
  · rw [ne_eq, String.toList_eq_nil_iff]
    exact s.body_ne_empty
  · intro c hc
    exact (h.madeOf_body c hc).1

end Step

/-! ### Selectors -/

/-- How many words of a text are steps of a selector: all but the child combinators. -/
def stepCount (text : String) : Nat := (words text.toList).countP (· ≠ ['>'])

theorem stepCount_append_space (s t : String) :
    stepCount (s ++ " " ++ t) = stepCount s + stepCount t := by
  rw [stepCount, words_append_space, List.countP_append]
  rfl

theorem stepCount_trim (s : String) : stepCount (trim s) = stepCount s := by
  rw [stepCount, toList_trim, words_trimChars]
  rfl

namespace Step

/-- The child combinator is a word of its own. -/
theorem IsPlain.words_render {s : Step} (h : s.IsPlain) :
    words s.render.toList = (if s.combinator = ">" then [['>']] else []) ++ [s.body.toList] := by
  have combinator : words s.combinator.toList = if s.combinator = ">" then [['>']] else [] := by
    rcases h.combinator with same | same <;> rw [same] <;> decide +kernel
  rw [render, toList_trim, words_trimChars, words_append_space, combinator, h.words_body]

/-- The text of a step shows one step. -/
theorem IsPlain.stepCount_render {s : Step} (h : s.IsPlain) : stepCount s.render = 1 := by
  have child : ([['>']] : List (List Char)).countP (· ≠ ['>']) = 0 := by decide
  rw [stepCount, h.words_render, List.countP_append, apply_ite (List.countP _), child]
  simp [h.body_ne_child]

end Step

namespace Selector

/-- Every condition and move so far was given letters, as far as the open step goes. -/
def IsPlain (s : Selector) : Prop := ∀ step ∈ s.current, step.IsPlain

theorem isPlain_append (s t : Selector) : (s.append t).IsPlain := by
  intro step h
  cases h

theorem isPlain_openNext (s : Selector) {step : Step} (h : step.IsPlain) :
    (s.openNext step).IsPlain := by
  intro step' h'
  cases h'
  exact h

theorem IsPlain.add {s : Selector} (h : s.IsPlain) {part : Part}
    (hpart : MadeOf IsInner part.text) : (s.add part).IsPlain := by
  intro step h'
  cases h'
  cases hs : s.current with
  | none => exact Step.isPlain_empty.add hpart
  | some step => exact (h step hs).add hpart

/-- The text of a selector shows its finished steps, and its open step if there is one. -/
theorem IsPlain.stepCount_text {s : Selector} (h : s.IsPlain) :
    stepCount s.text = stepCount s.finished + (if s.current.isSome then 1 else 0) := by
  rw [text]
  cases hs : s.current with
  | none => rfl
  | some step =>
      simp only [Option.isSome_some, if_true]
      rw [stepCount_trim, stepCount_append_space, (h step hs).stepCount_render]

theorem stepCount_append (s t : Selector) :
    stepCount (s.append t).text = stepCount s.text + stepCount t.text := by
  rw [text_append, stepCount_append_space]

theorem stepCount_openNext (s : Selector) {step : Step} (h : step.IsPlain) :
    stepCount (s.openNext step).text = stepCount s.text + 1 := by
  rw [(s.isPlain_openNext h).stepCount_text]
  rfl

/-- A condition adds a step to the text only if no step is open. -/
theorem IsPlain.stepCount_add {s : Selector} (h : s.IsPlain) {part : Part}
    (hpart : MadeOf IsInner part.text) :
    stepCount (s.add part).text = stepCount s.text + (if s.current.isNone then 1 else 0) := by
  -- An open step is shown before and after: conditions do not break its word.
  rw [(h.add hpart).stepCount_text, h.stepCount_text, finished_add]
  cases hs : s.current <;> simp [Selector.add]

end Selector
end DomQuery.Css
