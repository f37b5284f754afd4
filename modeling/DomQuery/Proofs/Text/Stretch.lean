import DomQuery.Proofs.Text.Trimmed
import Mathlib.Data.List.SplitBy

/-!
Stretches of a text: its words, and the runs of a character in it.

A word is a stretch between blanks, a run is a longest stretch of one character. Both can be read
off the two halves of a text, where the cut is right: words when a blank stands at the cut
(`words_append_blank`), runs when the characters on its two sides differ (`runs_append`). Trimming
takes no word away (`words_trimChars`), and joining trimmed texts adds none (`words_spaced`).
-/

namespace DomQuery.Text

/-! ### Words -/

/-- The longest stretches of a text without blanks. -/
def words (cs : List Char) : List (List Char) := (cs.splitOnP isBlank).filter (· ≠ [])

@[simp] theorem words_nil : words [] = [] := by
  simp [words, List.splitOnP_nil]

/-- A blank separates the words before it from those after it. -/
theorem words_append_blank {c : Char} (h : isBlank c = true) (cs ds : List Char) :
    words (cs ++ c :: ds) = words cs ++ words ds := by
  rw [words, List.splitOnP_append_cons cs ds h, List.filter_append]
  rfl

theorem words_append_space (s t : String) :
    words (s ++ " " ++ t).toList = words s.toList ++ words t.toList := by
  have cut : (s ++ " " ++ t).toList = s.toList ++ ' ' :: t.toList := by simp
  rw [cut, words_append_blank (by decide)]

theorem words_blanks_append {front : List Char} (h : ∀ c ∈ front, isBlank c = true)
    (cs : List Char) : words (front ++ cs) = words cs := by
  induction front with
  | nil => rfl
  | cons c front ih =>
      have rest := ih fun d hd => h d (List.mem_cons_of_mem c hd)
      have cut := words_append_blank (h c List.mem_cons_self) [] (front ++ cs)
      rw [List.nil_append, words_nil, List.nil_append, rest] at cut
      exact cut

theorem words_append_blanks (cs : List Char) {back : List Char}
    (h : ∀ c ∈ back, isBlank c = true) : words (cs ++ back) = words cs := by
  cases back with
  | nil => rw [List.append_nil]
  | cons c back =>
      have none : words back = [] := by
        have blanks := words_blanks_append (fun d hd => h d (List.mem_cons_of_mem c hd)) []
        rwa [List.append_nil, words_nil] at blanks
      rw [words_append_blank (h c List.mem_cons_self), none, List.append_nil]

/-- What trimming removes holds no word. -/
theorem words_trimChars (cs : List Char) : words (trimChars cs) = words cs := by
  obtain ⟨front, back, cut, hfront, hback⟩ := exists_append_trimChars cs
  conv_rhs => rw [cut, words_append_blanks _ hback, words_blanks_append hfront]

/-- Joining trimmed texts keeps their words. -/
theorem words_spaced {texts : List String} (h : ∀ t ∈ texts, IsTrimmed t.toList) :
    words (spaced texts).toList = texts.flatMap fun t => words t.toList := by
  induction texts using List.reverseRecOn with
  | nil => exact words_nil
  | append_singleton texts t ih =>
      have front : ∀ u ∈ texts, IsTrimmed u.toList := fun u hu => h u (List.mem_append_left _ hu)
      have last := h t (List.mem_append_right _ (List.mem_singleton_self t))
      rw [← spaced_cons_spaced, ← trim_append_space (isTrimmed_spaced front) last, toList_trim,
        words_trimChars, words_append_space, ih front, List.flatMap_append, List.flatMap_singleton]

/-- A text without blanks is one word, unless it is empty. -/
theorem words_of_forall {cs : List Char} (ne : cs ≠ []) (h : ∀ c ∈ cs, isBlank c = false) :
    words cs = [cs] := by
  rw [words, List.splitOnP_eq_singleton h]
  simp [ne]

/-! ### Runs -/

/-- How many longest stretches of the character a text has. -/
def runs (d : Char) (cs : List Char) : Nat :=
  (cs.splitBy (· == ·)).countP fun run => run.head? = some d

/-- No run goes over the border of two different characters. -/
theorem runs_append (d : Char) {cs ds : List Char}
    (h : ∀ x ∈ cs.getLast?, ∀ y ∈ ds.head?, x ≠ y) :
    runs d (cs ++ ds) = runs d cs + runs d ds := by
  have cut : (cs ++ ds).splitBy (· == ·) = cs.splitBy (· == ·) ++ ds.splitBy (· == ·) := by
    apply List.splitBy_append
    intro x hx y hy
    exact beq_eq_false_iff_ne.2 (h x hx y hy)
  rw [runs, cut, List.countP_append]
  rfl

theorem runs_eq_zero {d : Char} {cs : List Char} (h : d ∉ cs) : runs d cs = 0 := by
  rw [runs, List.countP_eq_zero]
  intro run mem isRun
  have first : d ∈ run := List.mem_of_mem_head? (of_decide_eq_true isRun)
  apply h
  rw [← List.flatten_splitBy (· == ·) cs]
  exact List.mem_flatten.2 ⟨run, mem, first⟩

end DomQuery.Text
