import DomQuery.Target

/-!
Which locators survive being written and read.

A compact text is read by its opening, in one of four ways (`ReadAs`). Writing puts a mark before a
selector and before nothing else. So a selector is always read back, an expression when it opens
like a path, and an id when it opens in none of the other three ways.

* `readAs_iff`: the four ways are exactly what reading does, and they exclude each other.
* `ofCompact_compact_iff`: which locators are read back.
* `locate_written_iff`: writing a compact text again loses its locator exactly when the text marks
  an expression that does not open like a path. The mark is not written again.
-/

namespace DomQuery

open Text

/-! ### Openings that exclude each other -/

namespace Text

theorem head?_of_opensWith {opening text : String} {c : Char}
    (first : opening.toList.head? = some c) (h : opensWith opening text = true) :
    text.toList.head? = some c := by
  obtain ⟨rest, rfl⟩ := opensWith_iff.1 h
  rw [String.toList_append, List.head?_append, first]
  rfl

/-- A text does not open in two ways that begin with different characters. -/
theorem opensWith_eq_false_of_head?_ne {opening other text : String} {c d : Char}
    (first : opening.toList.head? = some c) (second : other.toList.head? = some d) (ne : c ≠ d)
    (h : opensWith opening text = true) : opensWith other text = false := by
  rw [← Bool.not_eq_true]
  intro both
  have same := (head?_of_opensWith first h).symm.trans (head?_of_opensWith second both)
  exact ne (Option.some.inj same)

theorem after?_eq_none_iff {opening text : String} :
    after? opening text = none ↔ opensWith opening text = false := by
  rw [opensWith, Option.isSome_eq_false_iff, Option.isNone_iff_eq_none]

end Text

namespace Locator

/-! ### The four ways to read a text -/

/-- The openings that keep a text from being read as an id. -/
def openings : List String := [cssMark, xpathMark, "//", "(//"]

/-- The text opens in none of these ways. -/
def IsBare (text : String) : Prop := ∀ opening ∈ openings, opensWith opening text = false

theorem isBare_iff {text : String} :
    IsBare text ↔ opensWith cssMark text = false ∧ opensWith xpathMark text = false ∧
      opensPath text = false := by
  simp [IsBare, openings, opensPath]

/-- What a text is read as. A mark is no part of the locator; the opening of a path is. -/
inductive ReadAs (text : String) : Locator → Prop where
  | selector {rest : String} (marked : text = cssMark ++ rest) : ReadAs text ⟨.css, rest⟩
  | expression {rest : String} (marked : text = xpathMark ++ rest) : ReadAs text ⟨.xpath, rest⟩
  | path (opens : opensPath text = true) : ReadAs text ⟨.xpath, text⟩
  | id (bare : IsBare text) : ReadAs text ⟨.byId, text⟩

theorem opensWith_cssMark_xpathMark_append (rest : String) :
    opensWith cssMark (xpathMark ++ rest) = false := by
  have marked : opensWith xpathMark (xpathMark ++ rest) = true := opensWith_iff.2 ⟨rest, rfl⟩
  exact opensWith_eq_false_of_head?_ne (c := 'x') (d := 'c') rfl rfl (by decide) marked

/-- A path has no mark: neither mark begins with a slash or a parenthesis. -/
theorem unmarked_of_opensPath {text : String} (h : opensPath text = true) :
    opensWith cssMark text = false ∧ opensWith xpathMark text = false := by
  rw [opensPath, Bool.or_eq_true] at h
  rcases h with slashes | grouped
  · constructor
    · exact opensWith_eq_false_of_head?_ne (c := '/') (d := 'c') rfl rfl (by decide) slashes
    · exact opensWith_eq_false_of_head?_ne (c := '/') (d := 'x') rfl rfl (by decide) slashes
  · constructor
    · exact opensWith_eq_false_of_head?_ne (c := '(') (d := 'c') rfl rfl (by decide) grouped
    · exact opensWith_eq_false_of_head?_ne (c := '(') (d := 'x') rfl rfl (by decide) grouped

theorem ofCompact_of_unmarked {text : String} (css : opensWith cssMark text = false)
    (xpath : opensWith xpathMark text = false) :
    ofCompact text = ⟨if opensPath text then .xpath else .byId, text⟩ := by
  rw [ofCompact, after?_eq_none_iff.2 css, after?_eq_none_iff.2 xpath]

theorem ReadAs.ofCompact_eq {text : String} {l : Locator} (h : ReadAs text l) :
    ofCompact text = l := by
  cases h with
  | selector marked => rw [ofCompact, after?_eq_some_iff.2 marked]
  | @expression rest marked =>
      have noSelector : after? cssMark text = none := by
        rw [after?_eq_none_iff, marked]
        exact opensWith_cssMark_xpathMark_append rest
      rw [ofCompact, noSelector, after?_eq_some_iff.2 marked]
  | path opens =>
      obtain ⟨css, xpath⟩ := unmarked_of_opensPath opens
      rw [ofCompact_of_unmarked css xpath, if_pos opens]
  | id bare =>
      obtain ⟨css, xpath, path⟩ := isBare_iff.1 bare
      rw [ofCompact_of_unmarked css xpath, if_neg (by simp [path])]

theorem readAs_ofCompact (text : String) : ReadAs text (ofCompact text) := by
  have found : ∃ l, ReadAs text l := by
    by_cases css : opensWith cssMark text = true
    · obtain ⟨rest, marked⟩ := opensWith_iff.1 css
      exact ⟨_, .selector marked⟩
    by_cases xpath : opensWith xpathMark text = true
    · obtain ⟨rest, marked⟩ := opensWith_iff.1 xpath
      exact ⟨_, .expression marked⟩
    by_cases path : opensPath text = true
    · exact ⟨_, .path path⟩
    · have bare : IsBare text :=
        isBare_iff.2 ⟨eq_false_of_ne_true css, eq_false_of_ne_true xpath, eq_false_of_ne_true path⟩
      exact ⟨_, .id bare⟩
  obtain ⟨l, h⟩ := found
  rw [h.ofCompact_eq]
  exact h

/-- Every text is read in exactly one of the four ways. -/
theorem readAs_iff {text : String} {l : Locator} : ReadAs text l ↔ ofCompact text = l := by
  constructor
  · exact ReadAs.ofCompact_eq
  · rintro rfl
    exact readAs_ofCompact text

/-! ### Reading back what is written -/

/-- The grammar of the locator can be told from its compact text. -/
def ShowsGrammar (l : Locator) : Prop :=
  match l.grammar with
  | .byId => IsBare l.value
  | .css => True
  | .xpath => opensPath l.value = true

/-- An expression is shorter than the same expression with its mark. -/
theorem ne_xpathMark_append (expression : String) : expression ≠ xpathMark ++ expression := by
  intro same
  have lengths := congrArg String.length same
  have mark : xpathMark.length = 6 := rfl
  rw [String.length_append] at lengths
  omega

/-- **A locator is read back exactly when its compact text shows its grammar.** -/
theorem ofCompact_compact_iff (l : Locator) : ofCompact l.compact = l ↔ l.ShowsGrammar := by
  obtain ⟨grammar, value⟩ := l
  rw [← readAs_iff]
  cases grammar with
  | byId =>
      constructor
      · rintro ⟨⟩
        assumption
      · exact .id
  | css => exact iff_of_true (.selector rfl) trivial
  | xpath =>
      constructor
      · intro h
        cases h with
        | expression marked => exact absurd marked (ne_xpathMark_append value)
        | path opens => exact opens
      · exact .path

/-- What a text is read as shows its grammar unless the text needed its mark for an expression. -/
theorem ReadAs.showsGrammar_iff {text : String} {l : Locator} (h : ReadAs text l) :
    l.ShowsGrammar ↔ ∀ expression, text = xpathMark ++ expression →
      opensPath expression = true := by
  constructor
  · intro shown expression marked
    have same : l = ⟨.xpath, expression⟩ :=
      h.ofCompact_eq.symm.trans (ReadAs.expression marked).ofCompact_eq
    rw [same] at shown
    exact shown
  · intro opensMarked
    cases h with
    | selector => trivial
    | @expression rest marked => exact opensMarked rest marked
    | path opens => exact opens
    | id bare => exact bare

end Locator

/-! ### Descriptions made from a locator -/

namespace Target

/-- A description made from a locator renders as that locator. -/
theorem locator_ofLocator (l : Locator) : (ofLocator l).locator = .ok l := by
  obtain ⟨grammar, value⟩ := l
  cases grammar <;> rfl

theorem compact_eq_ok_iff {t : Target} {text : String} :
    t.compact = .ok text ↔ ∃ l, t.locator = .ok l ∧ text = l.compact := by
  rw [compact]
  cases t.locator <;> simp [Except.map, eq_comm]

end Target

theorem locate_eq (text : String) : locate text = .ok (Locator.ofCompact text) :=
  Target.locator_ofLocator (.ofCompact text)

/-- Reading what was written for a locator gives the locator back when it shows its grammar. -/
theorem locate_compact_iff (l : Locator) : locate l.compact = .ok l ↔ l.ShowsGrammar := by
  rw [locate_eq, Except.ok.injEq, Locator.ofCompact_compact_iff]

/-- **Writing a compact text again keeps its locator, unless the text marks an expression that does
not open like a path.** Nothing else is lost, and every text can be read and written. -/
theorem locate_written_iff (text : String) :
    ∃ written locator, (Target.ofCompact text).compact = .ok written ∧
      locate text = .ok locator ∧
      (locate written = .ok locator ↔
        ∀ expression, text = Locator.xpathMark ++ expression →
          Locator.opensPath expression = true) := by
  have read : locate text = .ok (Locator.ofCompact text) := locate_eq text
  have written : (Target.ofCompact text).compact = .ok (Locator.ofCompact text).compact :=
    Target.compact_eq_ok_iff.2 ⟨_, read, rfl⟩
  refine ⟨_, _, written, read, ?_⟩
  rw [locate_compact_iff]
  exact (Locator.readAs_ofCompact text).showsGrammar_iff

/-- A marked expression that does not open like a path is written without its mark, and then read
as an id. -/
theorem marked_expression_reread_as_id :
    (Target.ofCompact "xpath=foo").compact = .ok "foo" ∧
      locate "xpath=foo" = .ok ⟨.xpath, "foo"⟩ ∧ locate "foo" = .ok ⟨.byId, "foo"⟩ ∧
      locate "foo" ≠ locate "xpath=foo" := by
  have marked : locate "xpath=foo" = .ok ⟨.xpath, "foo"⟩ := rfl
  have written : locate "foo" = .ok ⟨.byId, "foo"⟩ := rfl
  refine ⟨rfl, marked, written, ?_⟩
  rw [marked, written]
  simp

end DomQuery
