import DomQuery.Proofs.Css.Chain
import DomQuery.Proofs.Css.StepCount
import DomQuery.Proofs.Outline.RepeatedId

/-!
The order in which the conditions of one step are given.

A step has a place for each kind of part, and every condition that a selector can state fills one of
them (`place?`). The place of the id holds one text, which a later one replaces; the other places
hold lists, which grow at the end. So what a step becomes depends, for each place by itself, on the
texts written there (`Step.addAll_eq`), and not on how the conditions for different places are
mixed.

* `Step.addAll_eq_iff`: when two runs of conditions leave the same step.
* `qualified_eq_iff`: the same for any selector, also one that has no open step until a condition
  comes.
-/

namespace DomQuery.Css

/-! ### Places -/

/-- Where a step keeps a part. -/
inductive Place where
  | id
  | classes
  | pseudoClasses
  | conditions
  deriving DecidableEq, Repr

def Part.place : Part → Place
  | id _ => .id
  | className _ => .classes
  | pseudoClass _ => .pseudoClasses
  | condition _ => .conditions

/-- The place that a condition fills, if a selector can state it. An id that is not plain is a
condition on an attribute. -/
def place? : Qualifier → Option Place
  | .hasId id => some (if isPlainId id then .id else .conditions)
  | .hasClass _ => some .classes
  | .lacksClass _ | .lacksAttribute _ | .isEmpty | .isChecked | .isNth _ | .isNthOfType _ =>
    some .pseudoClasses
  | .hasAttribute _ | .attributeContains _ _ | .attributeIs _ _ => some .conditions
  | .hasAnyClass _ | .textIs _ | .textContains _ | .isNumeric => none

theorem place?_eq (q : Qualifier) : place? q = (part? q).map Part.place := by
  cases q with
  | hasId id => by_cases plain : isPlainId id = true <;> simp [place?, part?, Part.place, plain]
  | _ => rfl

/-- The texts that conditions write in a place, in the order of the conditions. -/
def textsAt (place : Place) (qs : List Qualifier) : List String :=
  (qs.filter fun q => place? q = some place).filterMap fun q => (part? q).map Part.text

theorem textsAt_append (place : Place) (qs rs : List Qualifier) :
    textsAt place (qs ++ rs) = textsAt place qs ++ textsAt place rs := by
  simp [textsAt]

/-- What one part writes in a place. -/
def Part.textsAt (place : Place) (p : Part) : List String :=
  if p.place = place then [p.text] else []

theorem textsAt_eq_flatMap (place : Place) (qs : List Qualifier) :
    textsAt place qs = (qs.filterMap part?).flatMap (Part.textsAt place) := by
  induction qs with
  | nil => rfl
  | cons q qs ih =>
      rw [← List.singleton_append, textsAt_append, ih, List.filterMap_append, List.flatMap_append]
      congr 1
      have filled := place?_eq q
      cases hq : part? q with
      | none => simp [textsAt, hq, filled]
      | some part => by_cases same : part.place = place <;>
          simp [textsAt, Part.textsAt, hq, filled, same]

/-- Two neighbours that fill different places can change places. -/
theorem textsAt_swap {p q : Qualifier} (apart : place? p ≠ place? q) (place : Place)
    (before after : List Qualifier) :
    textsAt place (before ++ p :: q :: after) = textsAt place (before ++ q :: p :: after) := by
  have pair : textsAt place [p, q] = textsAt place [q, p] := by
    by_cases hp : place? p = some place
    · have hq : place? q ≠ some place := fun hq => apart (hp.trans hq.symm)
      simp [textsAt, hp, hq]
    · simp [textsAt, hp, List.filter_cons]
  have cut : ∀ x y, before ++ x :: y :: after = before ++ [x, y] ++ after := by simp
  rw [cut, cut, textsAt_append, textsAt_append, textsAt_append, textsAt_append, pair]

/-! ### Steps -/

namespace Step

/-- A part is written in its place, over the text there or after it. -/
theorem add_eq (s : Step) (part : Part) :
    s.add part =
      { s with
        id := (part.textsAt .id).getLast?.or s.id
        classes := s.classes ++ part.textsAt .classes
        pseudoClasses := s.pseudoClasses ++ part.textsAt .pseudoClasses
        conditions := s.conditions ++ part.textsAt .conditions } := by
  cases part <;> simp [add, Part.textsAt, Part.place, Part.text]

/-- Each place gets the texts that are written there, whatever comes between them. -/
theorem foldl_add (ps : List Part) (s : Step) :
    ps.foldl add s =
      { s with
        id := (ps.flatMap (Part.textsAt .id)).getLast?.or s.id
        classes := s.classes ++ ps.flatMap (Part.textsAt .classes)
        pseudoClasses := s.pseudoClasses ++ ps.flatMap (Part.textsAt .pseudoClasses)
        conditions := s.conditions ++ ps.flatMap (Part.textsAt .conditions) } := by
  induction ps generalizing s with
  | nil => simp
  | cons p ps ih =>
      rw [List.foldl_cons, ih, add_eq]
      simp only [List.flatMap_cons, List.getLast?_append, Option.or_assoc, List.append_assoc]

theorem addAll_eq (s : Step) (qs : List Qualifier) :
    s.addAll qs =
      { s with
        id := (textsAt .id qs).getLast?.or s.id
        classes := s.classes ++ textsAt .classes qs
        pseudoClasses := s.pseudoClasses ++ textsAt .pseudoClasses qs
        conditions := s.conditions ++ textsAt .conditions qs } := by
  simp only [addAll, foldl_add, textsAt_eq_flatMap]

/-- Two runs of conditions leave the same step when they leave the same id and write the same texts
in every other place. -/
theorem addAll_eq_iff (s : Step) (qs rs : List Qualifier) :
    s.addAll qs = s.addAll rs ↔
      (textsAt .id qs).getLast?.or s.id = (textsAt .id rs).getLast?.or s.id ∧
        textsAt .classes qs = textsAt .classes rs ∧
        textsAt .pseudoClasses qs = textsAt .pseudoClasses rs ∧
        textsAt .conditions qs = textsAt .conditions rs := by
  rw [addAll_eq, addAll_eq]
  simp

theorem addAll_cons {q : Qualifier} {part : Part} (h : part? q = some part) (s : Step)
    (qs : List Qualifier) : s.addAll (q :: qs) = (s.add part).addAll qs := by
  simp [addAll, h]

/-- A condition shows in a step that says nothing yet. -/
theorem addAll_empty_eq_iff {qs : List Qualifier}
    (h : ∀ q ∈ qs, (Refinement.qualify q).needsExpression = false) :
    ({} : Step).addAll qs = {} ↔ qs = [] := by
  constructor
  · intro unchanged
    cases qs with
    | nil => rfl
    | cons q qs =>
        obtain ⟨part, hpart⟩ := exists_part? (h q List.mem_cons_self)
        rw [addAll_eq, Step.mk.injEq] at unchanged
        simp only [textsAt_eq_flatMap, List.filterMap_cons_some hpart,
          List.flatMap_cons] at unchanged
        cases part <;> simp [Part.textsAt, Part.place] at unchanged
  · rintro rfl
    rfl

end Step

/-! ### Selectors -/

namespace Selector

/-- A selector with the same finished text is the same when it has an open step just as well and
this step is the same. -/
theorem eq_iff_lastStep {s t : Selector} (h : s.finished = t.finished) :
    s = t ↔ s.current.isSome = t.current.isSome ∧ s.lastStep = t.lastStep := by
  obtain ⟨finished, current⟩ := s
  obtain ⟨finished', current'⟩ := t
  cases current <;> cases current' <;> simp_all [lastStep]

/-- Conditions open a step if none is open, and are added to the open step. -/
theorem exists_refineAll?_qualify {qs : List Qualifier}
    (h : ∀ q ∈ qs, (Refinement.qualify q).needsExpression = false) (s : Selector) :
    ∃ t, s.refineAll? (qs.map .qualify) = some t ∧ t.finished = s.finished ∧
      t.current.isSome = (s.current.isSome || !qs.isEmpty) ∧ t.lastStep = s.lastStep.addAll qs := by
  induction qs generalizing s with
  | nil => exact ⟨s, rfl, rfl, by simp, rfl⟩
  | cons q qs ih =>
      obtain ⟨part, hpart⟩ := exists_part? (h q List.mem_cons_self)
      obtain ⟨t, refined, finished, opened, last⟩ :=
        ih (fun r hr => h r (List.mem_cons_of_mem q hr)) (s.add part)
      refine ⟨t, ?_, finished, ?_, ?_⟩
      · rw [List.map_cons, refineAll?_qualify s hpart, refined]
      · rw [opened, add_eq]
        simp
      · rw [last, Step.addAll_cons hpart]
        rfl

/-- **The order of conditions for different places does not show.** Any two runs of conditions that
a selector can state lead from any selector to the same selector exactly when they leave the same
id, which is the last plain id given or else the one before, and write the same classes, the same
pseudo-classes and the same attribute conditions, each in the same order. So neighbours that fill
different places can change places. -/
theorem qualified_eq_iff (s : Selector) {qs rs : List Qualifier}
    (hq : ∀ q ∈ qs, (Refinement.qualify q).needsExpression = false)
    (hr : ∀ q ∈ rs, (Refinement.qualify q).needsExpression = false) :
    ∃ t u, s.refineAll? (qs.map .qualify) = some t ∧ s.refineAll? (rs.map .qualify) = some u ∧
      (t = u ↔
        (textsAt .id qs).getLast?.or s.lastStep.id = (textsAt .id rs).getLast?.or s.lastStep.id ∧
          textsAt .classes qs = textsAt .classes rs ∧
          textsAt .pseudoClasses qs = textsAt .pseudoClasses rs ∧
          textsAt .conditions qs = textsAt .conditions rs) ∧
      ∀ before p q after, qs = before ++ p :: q :: after → rs = before ++ q :: p :: after →
        place? p ≠ place? q → t = u := by
  obtain ⟨t, reachedT, finishedT, openedT, lastT⟩ := exists_refineAll?_qualify hq s
  obtain ⟨u, reachedU, finishedU, openedU, lastU⟩ := exists_refineAll?_qualify hr s
  -- Without an open step, a run of conditions opens one unless it is empty, and then it shows.
  have sameOpened : s.lastStep.addAll qs = s.lastStep.addAll rs →
      t.current.isSome = u.current.isSome := by
    intro same
    rw [openedT, openedU]
    cases hs : s.current with
    | some step => rfl
    | none =>
        rw [lastStep, hs, Option.getD_none] at same
        have bothEmpty : qs = [] ↔ rs = [] := by
          rw [← Step.addAll_empty_eq_iff hq, ← Step.addAll_empty_eq_iff hr, same]
        have emptyAlike : qs.isEmpty = rs.isEmpty := by
          rw [Bool.eq_iff_iff, List.isEmpty_iff, List.isEmpty_iff]
          exact bothEmpty
        rw [emptyAlike]
  have sameIff : t = u ↔ s.lastStep.addAll qs = s.lastStep.addAll rs := by
    rw [eq_iff_lastStep (finishedT.trans finishedU.symm), lastT, lastU]
    exact and_iff_right_of_imp sameOpened
  refine ⟨t, u, reachedT, reachedU, sameIff.trans (Step.addAll_eq_iff _ qs rs), ?_⟩
  rintro before p q after rfl rfl apart
  have swapped := fun place => textsAt_swap apart place before after
  rw [sameIff, Step.addAll_eq_iff]
  simp only [swapped, and_self]

/-- A numbered entry that is named twice. -/
def renamedEntry : List Qualifier := [.hasId "old", .hasClass "entry", .hasId "first", .isNth 2]

/-- The same entry, named once and described the other way round. -/
def namedEntry : List Qualifier := [.isNth 2, .hasId "first", .hasClass "entry"]

/-- Both descriptions open the same step after a selector that was given as text. -/
theorem qualified_eq_iff_entry :
    (∀ q ∈ renamedEntry, (Refinement.qualify q).needsExpression = false) ∧
      (∀ q ∈ namedEntry, (Refinement.qualify q).needsExpression = false) ∧
      ∃ t, (ofText "ul > li").refineAll? (renamedEntry.map .qualify) = some t ∧
        (ofText "ul > li").refineAll? (namedEntry.map .qualify) = some t ∧
        t.text = "ul > li #first.entry:nth-child(2)" := by
  have hq : ∀ q ∈ renamedEntry, (Refinement.qualify q).needsExpression = false := by decide
  have hr : ∀ q ∈ namedEntry, (Refinement.qualify q).needsExpression = false := by decide
  obtain ⟨t, u, reachedT, reachedU, sameIff, -⟩ := qualified_eq_iff (ofText "ul > li") hq hr
  have same : t = u := sameIff.2 (by decide)
  refine ⟨hq, hr, t, reachedT, same ▸ reachedU, ?_⟩
  have shown : ((ofText "ul > li").refineAll? (renamedEntry.map .qualify)).map text =
      some "ul > li #first.entry:nth-child(2)" := by decide +kernel
  rw [reachedT] at shown
  exact Option.some.inj shown

end Selector
end DomQuery.Css
