import DomQuery.Proofs.Css.Pieces

/-!
Reading a selector back.

The text of a selector shows all that was ever said in it, as long as it is said in names. Its words
are its steps, and a child combinator before a step that has one, so the steps can be read one by
one (`readSteps_words_render`). The last of them is the open step, and the others, rendered again,
are the finished text (`Selector.read`).

* `IsNamed.isReadable_stepsOf`: every step of a chain on names can be read back.
* `Selector.exists_read_text`: so can the selector after such a chain.
* `Selector.text_eq_iff`: two such selectors with the same text are the same.
-/

namespace DomQuery.Css

open Text

/-! ### Steps among words -/

/-- The steps that a list of words shows. -/
def readSteps : List (List Char) → List Step
  | [] => []
  | ['>'] :: word :: rest => { Step.read word with combinator := ">" } :: readSteps rest
  | word :: rest => Step.read word :: readSteps rest

theorem readSteps_words_render {s : Step} (h : s.IsReadable) (rest : List (List Char)) :
    readSteps (words s.render.toList ++ rest) = s :: readSteps rest := by
  rw [h.words_render]
  rcases h.combinator with inside | child
  · have whole : { s with combinator := " " } = s := by rw [← inside]
    rw [if_neg (by rw [inside]; decide), List.nil_append, List.singleton_append, readSteps,
      h.read_body, whole]
    intro word rest same
    exact absurd same h.body_ne_child
  · have whole : { s with combinator := ">" } = s := by rw [← child]
    rw [if_pos child, List.append_assoc, List.singleton_append, List.singleton_append, readSteps,
      h.read_body]
    exact congrArg (· :: _) whole

theorem readSteps_flatMap {steps : List Step} (h : ∀ s ∈ steps, s.IsReadable) :
    readSteps (steps.flatMap fun s => words s.render.toList) = steps := by
  induction steps with
  | nil => rfl
  | cons s steps ih =>
      rw [List.flatMap_cons, readSteps_words_render (h s List.mem_cons_self)]
      exact congrArg (s :: ·) (ih fun t ht => h t (List.mem_cons_of_mem s ht))

/-- The selector that a text shows. -/
def Selector.read (text : String) : Selector := ofSteps "" (readSteps (words text.toList))

/-- Steps that can be read back make a selector that can. -/
theorem Selector.read_text_ofSteps {steps : List Step} (ne : steps ≠ [])
    (h : ∀ s ∈ steps, s.IsReadable) : read (ofSteps "" steps).text = ofSteps "" steps := by
  have trimmed : ∀ t ∈ steps.map Step.render, IsTrimmed t.toList := by
    intro t ht
    obtain ⟨s, -, rfl⟩ := List.mem_map.1 ht
    exact s.isTrimmed_render
  rw [read, text_ofSteps isTrimmed_empty ne, spaced_empty_cons, words_spaced trimmed,
    List.flatMap_map, readSteps_flatMap h]

/-! ### Chains of names -/

/-- A chain that selectors can express, in which all that is given is a name. -/
structure IsNamed (tag : Option String) (rs : List Refinement) : Prop where
  follows : ∀ r ∈ rs, r.needsExpression = false
  tag : ∀ t ∈ tag, IsIdentifier t
  arguments : ∀ r ∈ rs, ∀ t ∈ r.arguments, IsIdentifier t

theorem IsNamed.tail {tag : Option String} {r : Refinement} {rs : List Refinement}
    (h : IsNamed tag (r :: rs)) : IsNamed tag rs where
  follows := fun s hs => h.follows s (List.mem_cons_of_mem r hs)
  tag := h.tag
  arguments := fun s hs => h.arguments s (List.mem_cons_of_mem r hs)

/-- Each step of such a chain can be read back. -/
theorem IsNamed.isReadable_stepsOf {tag : Option String} {rs : List Refinement}
    (h : IsNamed tag rs) {first : Step} (hfirst : first.IsReadable) :
    ∀ s ∈ stepsOf first (.ofChain rs), s.IsReadable := by
  induction rs generalizing first with
  | nil => exact List.forall_mem_singleton.2 hfirst
  | cons r rs ih =>
      have names := h.arguments r List.mem_cons_self
      cases r with
      | qualify q =>
          obtain ⟨part, hpart⟩ := exists_part? (h.follows _ List.mem_cons_self)
          have inner := isInner_part hpart fun t ht =>
            (names t ht).2.mono fun _ => isInner_of_isIdentifierChar
          rw [stepsOf_qualify hpart]
          exact ih h.tail (hfirst.add inner (Part.isReadable_of_part? hpart names))
      | descend move =>
          rw [stepsOf_descend, List.forall_mem_cons]
          exact ⟨hfirst, ih h.tail (Step.isReadable_openStep move names)⟩

namespace Selector

/-- A chain on names leads to a selector that can be read back from its text. -/
theorem exists_read_text {tag : Option String} {rs : List Refinement} (h : IsNamed tag rs) :
    ∃ s, (tag.elim any ofTag).refineAll? rs = some s ∧ read s.text = s := by
  have opened : ∃ first : Step, tag.elim any ofTag = ofSteps "" [first] ∧ first.IsReadable := by
    cases htag : tag with
    | none => exact ⟨{}, rfl, Step.isReadable_openStep .anyInside nofun⟩
    | some tag =>
        refine ⟨.ofTag tag, rfl, Step.isReadable_openStep (.inside tag) ?_⟩
        exact List.forall_mem_singleton.2 (h.tag tag htag)
  obtain ⟨first, start, readable⟩ := opened
  refine ⟨ofSteps "" (stepsOf first (.ofChain rs)), ?_, ?_⟩
  · rw [start]
    exact refineAll?_ofSteps isTrimmed_empty h.follows [] first
  · exact read_text_ofSteps (List.cons_ne_nil _ _) (h.isReadable_stepsOf readable)

/-- **The text determines the selector.** Two chains on names, each from any element or from a tag,
are followed to their ends. What they lead to is the same exactly when it has the same text: each of
the two selectors is what its text is read as. -/
theorem text_eq_iff {tag tag' : Option String} {rs rs' : List Refinement} (h : IsNamed tag rs)
    (h' : IsNamed tag' rs') :
    ∃ s t, (tag.elim any ofTag).refineAll? rs = some s ∧
      (tag'.elim any ofTag).refineAll? rs' = some t ∧
      (s = t ↔ s.text = t.text) ∧ read s.text = s ∧ read t.text = t := by
  obtain ⟨s, reachedS, readS⟩ := exists_read_text h
  obtain ⟨t, reachedT, readT⟩ := exists_read_text h'
  refine ⟨s, t, reachedS, reachedT, ⟨congrArg text, ?_⟩, readS, readT⟩
  intro same
  rw [← readS, same, readT]

/-- The second entry of the main list, if it is open and shown. -/
def secondEntry : List Refinement :=
  [.qualify (.hasId "main"), .descend (.child "li"), .qualify (.isNth 2),
   .qualify (.lacksAttribute "hidden"), .qualify (.attributeContains "data-kind" "v1"),
   .qualify (.hasClass "open")]

/-- The same entry, with what is said of it in another order. -/
def shownEntry : List Refinement :=
  [.qualify (.hasId "main"), .descend (.child "li"), .qualify (.hasClass "open"),
   .qualify (.attributeContains "data-kind" "v1"), .qualify (.isNth 2),
   .qualify (.lacksAttribute "hidden")]

/-- Both lead to the selector that their text is read as. -/
theorem text_eq_iff_entry :
    IsNamed (some "ul") secondEntry ∧ IsNamed (some "ul") shownEntry ∧
      ∃ s, (ofTag "ul").refineAll? secondEntry = some s ∧
        (ofTag "ul").refineAll? shownEntry = some s ∧
        s = read "ul#main > li.open:nth-child(2):not([hidden])[data-kind*=\"v1\"]" := by
  have second : IsNamed (some "ul") secondEntry := ⟨by decide, by decide, by decide⟩
  have shown : IsNamed (some "ul") shownEntry := ⟨by decide, by decide, by decide⟩
  obtain ⟨s, t, reachedS, reachedT, sameIff, readS, -⟩ := text_eq_iff second shown
  have texts : ∀ rs ∈ [secondEntry, shownEntry], ((ofTag "ul").refineAll? rs).map text =
      some "ul#main > li.open:nth-child(2):not([hidden])[data-kind*=\"v1\"]" := by decide +kernel
  have textS := texts secondEntry (by simp)
  have textT := texts shownEntry (by simp)
  rw [Option.elim_some] at reachedS reachedT
  rw [reachedS, Option.map_some, Option.some.injEq] at textS
  rw [reachedT, Option.map_some, Option.some.injEq] at textT
  have same : s = t := sameIff.2 (textS.trans textT.symm)
  refine ⟨second, shown, s, reachedS, same ▸ reachedT, ?_⟩
  rw [← textS, readS]

end Selector
end DomQuery.Css
