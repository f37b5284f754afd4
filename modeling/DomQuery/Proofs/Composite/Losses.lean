import DomQuery.Proofs.Composite.Pairing
import Mathlib.Data.List.Perm.Basic

/-!
What the steps of a composite report as lost.

A step makes of each query either another query or the event of its loss, and never both
(`Step.outcome`). Along a run a query goes from step to step until one cannot take it; that step
reports it, and the later ones no longer see it (`fate`). So every query that a run begins with is
either among those it ends with or in one of its events.

* `queries_run_eq`, `runEvents_perm`: a run ends with the queries that went through all of it, and
  reports each of the others once.
* `runEvents_append`: the events come in the order of the steps.
* `losses_reported_once`: these facts, and the grammars that are lost, counted.
-/

namespace DomQuery

/-- The grammar of the query that an event reports as lost. -/
def Event.lost? : Event → Option Grammar
  | dropped g _ => some g
  | unpaired g => some g
  | unrenderable _ => none

namespace Composite

/-! ### One query in one step -/

namespace Step

@[simp] theorem lost?_loss (s : Step) (q : Query) : (s.loss q).lost? = some q.grammar := by
  cases s <;> rfl

/-- A step keeps the grammar of a query in view: in the query it makes of it, or in the event. -/
theorem grammar_outcome (s : Step) (q : Query) :
    (s.outcome q).elim (some ·.grammar) Event.lost? = some q.grammar := by
  rw [outcome]
  cases h : s.follow? q with
  | none => exact s.lost?_loss q
  | some p => exact congrArg some (grammar_of_follow? h)

end Step

/-! ### One query in a run -/

/-- What becomes of a query in a run: the query that all the steps make of it, or the event of the
first step that cannot take it. -/
def fate : List Step → Query → Query ⊕ Event
  | [], q => .inl q
  | s :: steps, q => (s.outcome q).elim (fate steps) .inr

/-- The grammar of a query stays in view along a run. -/
theorem grammar_fate (steps : List Step) (q : Query) :
    (fate steps q).elim (some ·.grammar) Event.lost? = some q.grammar := by
  induction steps generalizing q with
  | nil => rfl
  | cons s steps ih =>
      have first := s.grammar_outcome q
      rw [fate]
      cases h : s.outcome q with
      | inl p =>
          rw [h] at first
          exact (ih p).trans first
      | inr e =>
          rw [h] at first
          exact first

/-! ### A run and its events -/

/-- The events of a run, one step after the other. -/
def runEvents : Composite → List Step → List Event
  | _, [] => []
  | c, s :: steps => c.stepEvents s ++ (c.step s).runEvents steps

theorem run_cons (c : Composite) (s : Step) (steps : List Step) :
    c.run (s :: steps) = (c.step s).run steps := rfl

theorem runEvents_append (c : Composite) (before after : List Step) :
    c.runEvents (before ++ after) = c.runEvents before ++ (c.run before).runEvents after := by
  induction before generalizing c with
  | nil => rfl
  | cons s before ih =>
      rw [List.cons_append, runEvents, runEvents, ih, run_cons, List.append_assoc]

/-- A run ends with the queries that went through all of its steps. -/
theorem queries_run_eq (c : Composite) (steps : List Step) :
    (c.run steps).queries = c.queries.filterMap fun q => (fate steps q).getLeft? := by
  induction steps generalizing c with
  | nil => exact (List.filterMap_some).symm
  | cons s steps ih =>
      rw [run_cons, ih, queries_step_eq_outcomes, List.filterMap_filterMap]
      congr 1
      funext q
      rw [fate]
      cases s.outcome q <;> rfl

/-- Results that come from one of two sources can be collected from one source after the other. -/
theorem filterMap_append_perm {α β : Type} {f g h : α → Option β}
    (split : ∀ a, (h a).toList = (f a).toList ++ (g a).toList) (as : List α) :
    (as.filterMap f ++ as.filterMap g).Perm (as.filterMap h) := by
  simp only [List.filterMap_eq_flatMap_toList, split]
  exact List.flatMap_append_perm as _ _

/-- A run reports each query that it loses once. -/
theorem runEvents_perm (c : Composite) (steps : List Step) :
    (c.runEvents steps).Perm (c.queries.filterMap fun q => (fate steps q).getRight?) := by
  induction steps generalizing c with
  | nil => simp [runEvents, fate]
  | cons s steps ih =>
      -- A query is lost in the first step, or goes on and is lost in a later one.
      have split : ∀ q, ((fate (s :: steps) q).getRight?).toList =
          ((s.outcome q).getRight?).toList ++
            ((s.outcome q).getLeft?.bind fun p => (fate steps p).getRight?).toList := by
        intro q
        rw [fate]
        cases s.outcome q <;> simp
      have later := ih (c.step s)
      rw [queries_step_eq_outcomes, List.filterMap_filterMap] at later
      rw [runEvents, stepEvents_eq_outcomes]
      exact (later.append_left _).trans (filterMap_append_perm split c.queries)

/-- The grammars that a run begins with are those that it ends with and those that it reports. -/
theorem grammars_perm (c : Composite) (steps : List Step) :
    c.grammars.Perm ((c.run steps).grammars ++ (c.runEvents steps).filterMap Event.lost?) := by
  have split : ∀ q : Query, (some q.grammar).toList =
      (((fate steps q).getLeft?.map Query.grammar)).toList ++
        ((fate steps q).getRight?.bind Event.lost?).toList := by
    intro q
    rw [← grammar_fate steps q]
    cases fate steps q <;> simp
  have left : (c.run steps).grammars =
      c.queries.filterMap fun q => (fate steps q).getLeft?.map Query.grammar := by
    rw [grammars, queries_run_eq, List.map_filterMap]
  have lost := (c.runEvents_perm steps).filterMap Event.lost?
  rw [List.filterMap_filterMap] at lost
  have all : c.queries.filterMap (fun q => some q.grammar) = c.grammars :=
    congrFun List.filterMap_eq_map' _
  rw [← all, left]
  exact (filterMap_append_perm split c.queries).symm.trans (lost.symm.append_left _)

/-- **Every lost query is reported once.** Counted with repetitions, the grammars of a composite are
those of the queries left after a run and those named in its events. A query that the run begins
with is left at its end, as the steps have made it, or is reported by the first step that cannot
take it, and by no other. The events come step by step, in a step in the order of the queries that
it still finds. Each of them shows the grammar of its query; a refinement traces the loss and shows
itself too, a join reports it for debugging. -/
theorem losses_reported_once (c : Composite) (steps : List Step) :
    c.grammars.Perm ((c.run steps).grammars ++ (c.runEvents steps).filterMap Event.lost?) ∧
      (c.run steps).queries = c.queries.filterMap (fun q => (fate steps q).getLeft?) ∧
      (c.runEvents steps).Perm (c.queries.filterMap fun q => (fate steps q).getRight?) ∧
      (∀ before s after, c.runEvents (before ++ s :: after) =
        c.runEvents before ++
          (((c.run before).queries.filter fun q => (s.follow? q).isNone).map s.loss ++
            ((c.run before).step s).runEvents after)) ∧
      ∀ q : Query,
        (∀ r, ((Step.refine r).loss q).texts =
          ["TRACE", "dropping variant", "kind=" ++ q.grammar.label, "refinement=" ++ r.label]) ∧
        ∀ d, ((Step.append d).loss q).texts =
          ["DEBUG", "no mergeable partner, dropping variant", "kind=" ++ q.grammar.label] := by
  refine ⟨c.grammars_perm steps, c.queries_run_eq steps, c.runEvents_perm steps, ?_, ?_⟩
  · intro before s after
    rw [runEvents_append, runEvents, stepEvents_eq]
  · intro q
    exact ⟨fun r => rfl, fun d => rfl⟩

/-- Two selectors and a bare id: the id is no partner of an id, and both selectors miss the text. -/
example : (Composite.mk [.byId "row", .css .any, .css (.ofTag "tr")]).runEvents
    [.append (ofId "cell"), .refine (.qualify .isNumeric), .refine (.qualify .isChecked)] =
      [.unpaired .byId, .dropped .css (.qualify .isNumeric),
        .dropped .css (.qualify .isNumeric)] := by
  decide

end Composite
end DomQuery
