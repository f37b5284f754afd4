import DomQuery.Proofs.Css.Places

/-!
Reading a compound selector back.

Each part of a step is written from a sign on: a hash sign, a dot, a colon or a bracket. The only
other signs in it come right after an opening parenthesis, as in `:not(.open)`. So a compound
selector that is cut before all signs but these falls into its tag and its parts
(`Step.IsReadable.pieces_body`), and the sign of a part says which place of the step it fills
(`Step.readPiece_written`).

* `Part.isReadable_of_part?`: each condition on names is written as such a part.
* `Step.IsReadable.read_body`: a step of such parts is read back, but for its combinator.
-/

namespace DomQuery.Css

open Text

/-! ### Pieces of a text -/

/-- The characters that begin a part. -/
def isSign (c : Char) : Bool := ['#', '.', ':', '['].contains c

/-- Whether a character belongs to the piece of the one before it. A sign begins another piece,
unless it is the first thing in parentheses. -/
def continues (before c : Char) : Bool := !isSign c || before == '('

/-- The text, cut wherever a piece begins. -/
def pieces (cs : List Char) : List (List Char) := cs.splitBy continues

/-- A character that neither begins a piece nor keeps the next one from beginning one. -/
def IsUnmarked (c : Char) : Prop := isSign c = false ∧ c ≠ '('

instance : DecidablePred IsUnmarked := fun c =>
  inferInstanceAs (Decidable (isSign c = false ∧ c ≠ '('))

theorem continues_of_isUnmarked {c : Char} (h : IsUnmarked c) (before : Char) :
    continues before c = true := by
  rw [continues, h.1]
  rfl

theorem isChain_append_unmarked {front cs : List Char}
    (hfront : front.IsChain fun a b => continues a b = true) (h : ∀ c ∈ cs, IsUnmarked c) :
    (front ++ cs).IsChain fun a b => continues a b = true := by
  rw [List.isChain_append]
  refine ⟨hfront, ?_, ?_⟩
  · apply List.Pairwise.isChain
    apply List.pairwise_of_forall_mem_list
    intro a _ b hb
    exact continues_of_isUnmarked (h b hb) a
  · intro a _ b hb
    exact continues_of_isUnmarked (h b (List.mem_of_mem_head? hb)) a

/-- What has no mark is one piece, unless it is empty. -/
theorem pieces_of_unmarked {cs : List Char} (ne : cs ≠ []) (h : ∀ c ∈ cs, IsUnmarked c) :
    pieces cs = [cs] :=
  List.splitBy_of_isChain ne (isChain_append_unmarked .nil h)

/-- A sign that does not come after an opening parenthesis begins another piece. -/
theorem pieces_append {front cs : List Char} (hfront : ∀ c ∈ front.getLast?, c ≠ '(')
    (h : ∀ c ∈ cs.head?, isSign c = true) : pieces (front ++ cs) = pieces front ++ pieces cs := by
  apply List.splitBy_append
  intro a ha b hb
  simp [continues, h b hb, hfront a ha]

/-! ### Parts -/

theorem isUnmarked_of_isIdentifierChar {c : Char} (h : IsIdentifierChar c) : IsUnmarked c := by
  constructor
  · rw [isSign, ← Bool.not_eq_true, List.contains_iff_mem]
    intro mem
    simp only [List.mem_cons, List.not_mem_nil, or_false] at mem
    rcases mem with rfl | rfl | rfl | rfl <;> exact absurd h (by decide)
  · rintro rfl
    exact absurd h (by decide)

theorem isUnmarked_of_isDigit {c : Char} (h : c.isDigit = true) : IsUnmarked c :=
  isUnmarked_of_isIdentifierChar (.inr (.inl h))

theorem isInner_of_isIdentifierChar {c : Char} (h : IsIdentifierChar c) : IsInner c := by
  rcases h with alpha | digit | rfl | rfl
  · exact isInner_of_isAlpha alpha
  · exact isInner_of_isDigit digit
  · decide
  · decide

namespace Part

/-- The part, as a compound selector shows it. -/
def written : Part → String
  | id value => "#" ++ value
  | className name => "." ++ name
  | pseudoClass text => text
  | condition text => "[" ++ text ++ "]"

/-- The sign that a part is written from. -/
def sign : Part → Char
  | id _ => '#'
  | className _ => '.'
  | pseudoClass _ => ':'
  | condition _ => '['

theorem isSign_sign (p : Part) : isSign p.sign = true := by
  cases p <;> rfl

/-- What a part begins with; it has all the signs of the part. -/
def openings : Part → List String
  | id _ => ["#"]
  | className _ => ["."]
  | pseudoClass _ => [":", ":not(.", ":not([", ":nth-child(", ":nth-of-type("]
  | condition _ => ["["]

theorem head?_of_mem_openings {p : Part} : ∀ o ∈ p.openings, o.toList.head? = some p.sign := by
  cases p <;> simp only [openings, sign] <;> decide

theorem isChain_of_mem_openings {p : Part} :
    ∀ o ∈ p.openings, o.toList.IsChain fun a b => continues a b = true := by
  cases p <;> simp only [openings] <;> decide

/-- The part goes on after one of its beginnings, with no further sign or parenthesis. -/
def IsReadable (p : Part) : Prop :=
  ∃ opening ∈ p.openings, ∃ rest, p.written = opening ++ rest ∧ rest ≠ "" ∧
    MadeOf IsUnmarked rest

namespace IsReadable

variable {p : Part}

theorem head?_written (h : p.IsReadable) : p.written.toList.head? = some p.sign := by
  obtain ⟨opening, mem, rest, cut, -⟩ := h
  rw [cut, String.toList_append, List.head?_append, head?_of_mem_openings opening mem]
  rfl

theorem getLast?_written (h : p.IsReadable) : ∀ c ∈ p.written.toList.getLast?, c ≠ '(' := by
  obtain ⟨opening, -, rest, cut, ne, unmarked⟩ := h
  have ne' : rest.toList ≠ [] := by simpa using ne
  intro c hc
  rw [cut, String.toList_append, List.getLast?_append, List.getLast?_eq_some_getLast ne',
    Option.some_or, Option.mem_some_iff] at hc
  exact (unmarked c (hc ▸ List.getLast_mem ne')).2

theorem pieces_written (h : p.IsReadable) : pieces p.written.toList = [p.written.toList] := by
  have ne : p.written.toList ≠ [] := by
    intro empty
    have opened := h.head?_written
    rw [empty] at opened
    cases opened
  obtain ⟨opening, mem, rest, cut, -, unmarked⟩ := h
  apply List.splitBy_of_isChain ne
  rw [cut, String.toList_append]
  exact isChain_append_unmarked (isChain_of_mem_openings opening mem) unmarked

end IsReadable

/-- Parts that are written side by side are told apart. -/
theorem pieces_parts {ps : List Part} (h : ∀ p ∈ ps, p.IsReadable) {front : List Char}
    (hfront : ∀ c ∈ front.getLast?, c ≠ '(') :
    pieces (front ++ ps.flatMap fun p => p.written.toList) =
      pieces front ++ ps.map fun p => p.written.toList := by
  induction ps generalizing front with
  | nil => simp
  | cons p ps ih =>
      have first := h p List.mem_cons_self
      have later := ih (fun q hq => h q (List.mem_cons_of_mem p hq)) first.getLast?_written
      have opened : ∀ c ∈ (p.written.toList ++ ps.flatMap fun p => p.written.toList).head?,
          isSign c = true := by
        rw [List.head?_append, first.head?_written]
        rintro c ⟨⟩
        exact p.isSign_sign
      rw [List.flatMap_cons, pieces_append hfront opened, later, first.pieces_written]
      rfl

/-- The texts that close a part. -/
def closings : List String := [")", "])", "]"]

theorem isReadable_between {p : Part} {opening text closing : String} (ho : opening ∈ p.openings)
    (cut : p.written = opening ++ text ++ closing) (ht : MadeOf IsUnmarked text)
    (hc : closing ∈ closings) : p.IsReadable := by
  have closed : ∀ c ∈ closings, c ≠ "" ∧ MadeOf IsUnmarked c := by decide
  obtain ⟨ne, unmarked⟩ := closed closing hc
  refine ⟨opening, ho, text ++ closing, ?_, ?_, ht.append unmarked⟩
  · rw [cut, String.append_assoc]
  · rw [ne_eq, String.append_eq_empty_iff]
    exact fun empty => ne empty.2

/-- A condition on names is written as a part that can be read back. -/
theorem isReadable_of_part? {q : Qualifier} {p : Part} (h : part? q = some p)
    (names : ∀ t ∈ q.arguments, IsIdentifier t) : p.IsReadable := by
  have unmarked : ∀ t ∈ q.arguments, MadeOf IsUnmarked t :=
    fun t ht => (names t ht).2.mono fun _ => isUnmarked_of_isIdentifierChar
  have numbers : ∀ n : Nat, MadeOf IsUnmarked (toString n) :=
    .toString fun _ => isUnmarked_of_isDigit
  have quote : MadeOf IsUnmarked "\"" := by decide
  cases q with
  | hasId id =>
      have hid := unmarked id List.mem_cons_self
      cases h
      by_cases plain : isPlainId id = true
      · rw [if_pos plain]
        exact ⟨"#", by simp [openings], id, rfl, (names id List.mem_cons_self).1, hid⟩
      · rw [if_neg plain]
        have test : MadeOf IsUnmarked (comparison "id" "=" id) :=
          madeOf_comparison (by decide) (by decide) quote hid
        exact isReadable_between (by simp [openings]) rfl test (by simp [closings])
  | hasClass name =>
      have hname := names name List.mem_cons_self
      cases h
      exact ⟨".", by simp [openings], name, rfl, hname.1, unmarked name List.mem_cons_self⟩
  | lacksClass name =>
      have hname := unmarked name List.mem_cons_self
      cases h
      exact isReadable_between (by simp [openings]) rfl hname (by simp [closings])
  | hasAttribute name =>
      have hname := unmarked name List.mem_cons_self
      cases h
      exact isReadable_between (by simp [openings]) rfl hname (by simp [closings])
  | lacksAttribute name =>
      have hname := unmarked name List.mem_cons_self
      cases h
      exact isReadable_between (by simp [openings]) rfl hname (by simp [closings])
  | attributeContains name value =>
      have hname := unmarked name List.mem_cons_self
      have hvalue := unmarked value (List.mem_cons_of_mem name List.mem_cons_self)
      cases h
      have test : MadeOf IsUnmarked (comparison name "*=" value) :=
        madeOf_comparison hname (by decide) quote hvalue
      exact isReadable_between (by simp [openings]) rfl test (by simp [closings])
  | attributeIs name value =>
      have hname := unmarked name List.mem_cons_self
      have hvalue := unmarked value (List.mem_cons_of_mem name List.mem_cons_self)
      cases h
      have test : MadeOf IsUnmarked (comparison name "=" value) :=
        madeOf_comparison hname (by decide) quote hvalue
      exact isReadable_between (by simp [openings]) rfl test (by simp [closings])
  | isEmpty =>
      cases h
      exact ⟨":", by simp [openings], "empty", by decide, by decide, by decide⟩
  | isChecked =>
      cases h
      exact ⟨":", by simp [openings], "checked", by decide, by decide, by decide⟩
  | isNth position =>
      cases h
      exact isReadable_between (by simp [openings]) rfl (numbers _) (by simp [closings])
  | isNthOfType position =>
      cases h
      exact isReadable_between (by simp [openings]) rfl (numbers _) (by simp [closings])
  | hasAnyClass names => cases h
  | textIs text => cases h
  | textContains part => cases h
  | isNumeric => cases h

end Part

/-! ### Steps -/

namespace Step

/-- The parts of the compound selector, attribute conditions apart. -/
def compoundParts (s : Step) : List Part :=
  s.id.toList.map Part.id ++ s.classes.map Part.className ++ s.pseudoClasses.map Part.pseudoClass

/-- All parts, in the order in which they are written. -/
def parts (s : Step) : List Part := s.compoundParts ++ s.conditions.map Part.condition

theorem mem_parts_of_mem_add {s : Step} {part p : Part} (h : p ∈ (s.add part).parts) :
    p ∈ s.parts ∨ p = part := by
  cases part <;> simp only [parts, compoundParts, add, List.map_append, List.map_cons, List.map_nil,
    Option.toList_some, List.mem_append, List.mem_singleton] at h ⊢ <;> tauto

theorem flatMap_textsAt {kind : String → Part} {place : Place}
    (h : ∀ t, (kind t).place = place ∧ (kind t).text = t) (other : Place) (texts : List String) :
    (texts.map kind).flatMap (Part.textsAt other) = if place = other then texts else [] := by
  by_cases same : place = other
  · simp [List.flatMap_map, Part.textsAt, h, same]
  · simp [List.flatMap_map, Part.textsAt, h, same, List.flatMap_eq_nil_iff]

/-- The parts of a step write in each place what is there. -/
theorem flatMap_textsAt_parts (s : Step) :
    s.parts.flatMap (Part.textsAt .id) = s.id.toList ∧
      s.parts.flatMap (Part.textsAt .classes) = s.classes ∧
      s.parts.flatMap (Part.textsAt .pseudoClasses) = s.pseudoClasses ∧
      s.parts.flatMap (Part.textsAt .conditions) = s.conditions := by
  have id := @flatMap_textsAt Part.id .id fun _ => ⟨rfl, rfl⟩
  have classes := @flatMap_textsAt Part.className .classes fun _ => ⟨rfl, rfl⟩
  have pseudoClasses := @flatMap_textsAt Part.pseudoClass .pseudoClasses fun _ => ⟨rfl, rfl⟩
  have conditions := @flatMap_textsAt Part.condition .conditions fun _ => ⟨rfl, rfl⟩
  simp [parts, compoundParts, List.flatMap_append, id, classes, pseudoClasses, conditions]

/-- What stands before the parts: the tag, or the star of a step with nothing but conditions. -/
def head (s : Step) : String := if s.compound = "" then "*" else s.tag.getD ""

theorem compound_eq (s : Step) :
    s.compound = s.tag.getD "" ++ String.join (s.compoundParts.map Part.written) := by
  cases hid : s.id <;>
    simp [compound, compoundParts, hid, Part.written, Function.comp_def, String.append_assoc]

theorem body_eq (s : Step) : s.body = s.head ++ String.join (s.parts.map Part.written) := by
  have conditions : s.conditions.map (fun text => "[" ++ text ++ "]") =
      (s.conditions.map Part.condition).map Part.written := by
    rw [List.map_map]
    rfl
  rw [body, head, parts, conditions, List.map_append, String.join_append, ← String.append_assoc]
  by_cases empty : s.compound = ""
  · -- Then there is neither a tag nor a part before the conditions.
    have none : String.join (s.compoundParts.map Part.written) = "" :=
      (String.append_eq_empty_iff.1 (s.compound_eq ▸ empty)).2
    rw [if_pos empty, if_pos empty, none, String.append_empty]
  · rw [if_neg empty, if_neg empty, ← compound_eq]

/-! ### Reading a step -/

/-- Adds what a piece says to what was read before it. -/
def readPiece (s : Step) : List Char → Step
  | '#' :: cs => s.add (.id (String.ofList cs))
  | '.' :: cs => s.add (.className (String.ofList cs))
  | ':' :: cs => s.add (.pseudoClass (String.ofList (':' :: cs)))
  | '[' :: cs => s.add (.condition (String.ofList cs.dropLast))
  | ['*'] => s
  | cs => { s with tag := some (String.ofList cs) }

/-- The step that a compound selector stands for. -/
def read (cs : List Char) : Step := (pieces cs).foldl readPiece {}

theorem readPiece_written {p : Part} (h : p.IsReadable) (s : Step) :
    s.readPiece p.written.toList = s.add p := by
  cases p with
  | id value => simp [readPiece, Part.written]
  | className name => simp [readPiece, Part.written]
  | pseudoClass text =>
      -- The colon belongs to the text that the step keeps.
      have opened : text.toList.head? = some ':' := h.head?_written
      obtain ⟨cs, cut⟩ := List.head?_eq_some_iff.1 opened
      rw [Part.written, cut, readPiece, ← cut, String.ofList_toList]
  | condition text => simp [readPiece, Part.written]

theorem readPiece_name {name : String} (h : IsIdentifier name) (s : Step) :
    s.readPiece name.toList = { s with tag := some name } := by
  have unsigned : ∀ c ∈ name.toList, isSign c = false :=
    fun c hc => (isUnmarked_of_isIdentifierChar (h.2 c hc)).1
  have unstarred : '*' ∉ name.toList := fun mem => absurd (h.2 '*' mem) (by decide)
  rw [readPiece.eq_def]
  split
  case h_5 cut => simp [cut] at unstarred
  case h_6 => rw [String.ofList_toList]
  all_goals
    rename_i cut
    simp [cut, isSign] at unsigned

/-- A step whose parts can be told apart in its text. -/
structure IsReadable (s : Step) : Prop extends IsPlain s where
  tag : ∀ t ∈ s.tag, IsIdentifier t
  parts : ∀ p ∈ s.parts, p.IsReadable

theorem toList_tag_openStep (move : Descent) : (openStep move).tag.toList = move.arguments := by
  cases move <;> rfl

theorem parts_openStep (move : Descent) : (openStep move).parts = [] := by
  cases move <;> rfl

theorem isReadable_openStep (move : Descent) (names : ∀ t ∈ move.arguments, IsIdentifier t) :
    (openStep move).IsReadable where
  toIsPlain :=
    isPlain_openStep move fun t ht => (names t ht).2.mono fun _ => isInner_of_isIdentifierChar
  tag := by
    intro t ht
    apply names
    rw [← toList_tag_openStep]
    exact Option.mem_toList.2 ht
  parts := by
    rw [parts_openStep]
    exact List.forall_mem_nil _

namespace IsReadable

variable {s : Step}

theorem add (h : s.IsReadable) {p : Part} (inner : MadeOf IsInner p.text) (hp : p.IsReadable) :
    (s.add p).IsReadable where
  toIsPlain := h.toIsPlain.add inner
  tag := by
    rw [tag_add]
    exact h.tag
  parts := by
    intro q hq
    rcases mem_parts_of_mem_add hq with before | rfl
    · exact h.parts q before
    · exact hp

/-- The head is the tag, the star or nothing, and is read as such. -/
theorem head_cases (h : s.IsReadable) :
    (∃ tag, s.tag = some tag ∧ IsIdentifier tag ∧ s.head = tag) ∨
      s.tag = none ∧ (s.head = "*" ∨ s.head = "") := by
  cases htag : s.tag with
  | none =>
      rw [head, htag]
      exact .inr ⟨rfl, ite_eq_or_eq _ _ _⟩
  | some tag =>
      have name := h.tag tag htag
      have shown : s.compound ≠ "" := by
        rw [compound_eq, htag, ne_eq, String.append_eq_empty_iff]
        exact fun empty => name.1 empty.1
      rw [head, if_neg shown, htag]
      exact .inl ⟨tag, rfl, name, rfl⟩

theorem isUnmarked_head (h : s.IsReadable) : MadeOf IsUnmarked s.head := by
  rcases h.head_cases with ⟨tag, -, name, same⟩ | ⟨-, same | same⟩ <;> rw [same]
  · exact name.2.mono fun _ => isUnmarked_of_isIdentifierChar
  · decide
  · decide

theorem read_head (h : s.IsReadable) : read s.head.toList = { tag := s.tag } := by
  rcases h.head_cases with ⟨tag, tagged, name, same⟩ | ⟨untagged, same | same⟩
  · have ne : tag.toList ≠ [] := by simpa using name.1
    have whole := pieces_of_unmarked ne fun c hc => isUnmarked_of_isIdentifierChar (name.2 c hc)
    rw [same, tagged, read, whole]
    exact readPiece_name name {}
  · rw [same, untagged]
    decide
  · rw [same, untagged]
    decide

theorem pieces_body (h : s.IsReadable) :
    pieces s.body.toList = pieces s.head.toList ++ s.parts.map fun p => p.written.toList := by
  have closed : ∀ c ∈ s.head.toList.getLast?, c ≠ '(' := by
    intro c hc
    exact (h.isUnmarked_head c (List.mem_of_mem_getLast? hc)).2
  have cut : s.body.toList = s.head.toList ++ s.parts.flatMap fun p => p.written.toList := by
    rw [body_eq, String.toList_append, String.toList_join, List.flatMap_map]
  rw [cut, Part.pieces_parts h.parts closed]

theorem foldl_readPiece {ps : List Part} (h : ∀ p ∈ ps, p.IsReadable) (s : Step) :
    (ps.map fun p => p.written.toList).foldl readPiece s = ps.foldl Step.add s := by
  induction ps generalizing s with
  | nil => rfl
  | cons p ps ih =>
      rw [List.map_cons, List.foldl_cons, readPiece_written (h p List.mem_cons_self)]
      exact ih (fun q hq => h q (List.mem_cons_of_mem p hq)) (s.add p)

/-- **A step is read back from its text**, but for its combinator, which stands before the text. -/
theorem read_body (h : s.IsReadable) : read s.body.toList = { s with combinator := " " } := by
  obtain ⟨ids, classes, pseudoClasses, conditions⟩ := s.flatMap_textsAt_parts
  calc
    read s.body.toList = (s.parts.map fun p => p.written.toList).foldl readPiece
        (read s.head.toList) := by rw [read, h.pieces_body, List.foldl_append, read]
    _ = s.parts.foldl Step.add { tag := s.tag } := by rw [h.read_head, foldl_readPiece h.parts]
    _ = { s with combinator := " " } := by
      rw [foldl_add, ids, classes, pseudoClasses, conditions]
      cases s.id <;> rfl

example : read "li.open:not([hidden])[lang]".toList =
    { tag := some "li", classes := ["open"], pseudoClasses := [":not([hidden])"],
      conditions := ["lang"] } := by decide +kernel

end IsReadable
end Step
end DomQuery.Css
