import DomQuery.Proofs.Outline.Strategy

/-!
The expression of a chain of steps.

A step writes its text at the end of an expression and does not look at what stands there. So a
whole chain writes one text as well (`suffixAll?`, `Expression.refineAll?_eq`), and it makes no
difference whether that text is written before or after the expression is put behind another one.
-/

namespace DomQuery.XPath

/-- The text that a chain writes at the end of an expression, if XPath can express all of it. -/
def suffixAll? : List Refinement → Option String
  | [] => some ""
  | r :: rs => (suffix? r).bind fun suffix => (suffixAll? rs).map (suffix ++ ·)

/-- An expression can follow each step that does not need a selector. -/
theorem exists_suffix? {r : Refinement} (h : r.needsSelector = false) :
    ∃ suffix, suffix? r = some suffix := by
  have follows : ((Query.xpath .any).refine? r).isSome = true := by
    rw [Query.refine?_isSome]
    exact congrArg (!·) h
  obtain ⟨e, he⟩ := Option.isSome_iff_exists.1 follows
  obtain ⟨f, hf, -⟩ := Option.map_eq_some_iff.1 he
  obtain ⟨suffix, hsuffix, -⟩ := Expression.refine?_eq_some_iff.1 hf
  exact ⟨suffix, hsuffix⟩

theorem exists_suffixAll? {rs : List Refinement} (h : ∀ r ∈ rs, r.needsSelector = false) :
    ∃ suffix, suffixAll? rs = some suffix := by
  induction rs with
  | nil => exact ⟨"", rfl⟩
  | cons r rs ih =>
      obtain ⟨first, hfirst⟩ := exists_suffix? (h r List.mem_cons_self)
      obtain ⟨rest, hrest⟩ := ih fun s hs => h s (List.mem_cons_of_mem r hs)
      exact ⟨first ++ rest, by rw [suffixAll?, hfirst, Option.bind_some, hrest, Option.map_some]⟩

namespace Expression

/-- The expression after a chain, if XPath can express every step of it. -/
def refineAll? (e : Expression) (rs : List Refinement) : Option Expression := rs.foldlM refine? e

theorem refineAll?_cons (e : Expression) (r : Refinement) (rs : List Refinement) :
    e.refineAll? (r :: rs) = (e.refine? r).bind (·.refineAll? rs) := by
  rw [refineAll?, List.foldlM_cons]
  rfl

theorem refineAll?_append (e : Expression) (rs ss : List Refinement) :
    e.refineAll? (rs ++ ss) = (e.refineAll? rs).bind (·.refineAll? ss) := List.foldlM_append

/-- What a chain writes does not depend on the expression that it is written after. -/
theorem refineAll?_eq (e : Expression) (rs : List Refinement) :
    e.refineAll? rs = (suffixAll? rs).map fun suffix => ⟨e.text ++ suffix⟩ := by
  induction rs generalizing e with
  | nil => simp [refineAll?, suffixAll?]
  | cons r rs ih =>
      rw [refineAll?_cons, refine?, suffixAll?]
      cases suffix? r with
      | none => rfl
      | some suffix => simp [ih, Function.comp_def, String.append_assoc]

/-- A chain continues the second of two joined expressions as it does by itself. -/
theorem append_refineAll? (e f : Expression) (rs : List Refinement) :
    (e.append f).refineAll? rs = (f.refineAll? rs).map e.append := by
  rw [refineAll?_eq, refineAll?_eq, Option.map_map]
  simp [Function.comp_def, append, String.append_assoc]

end Expression
end DomQuery.XPath
