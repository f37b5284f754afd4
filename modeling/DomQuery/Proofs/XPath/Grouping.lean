import DomQuery.Proofs.Locator.Reading
import DomQuery.Proofs.Text.Reader
import DomQuery.Proofs.XPath.PathExpr
import DomQuery.Proofs.XPath.StepCount

/-!
Which expressions can be appended.

A path in parentheses can only begin an expression. A reader that counts the parentheses opened
outside of everything else (`Nesting`) finds none in a path and one in any other expression. So it
finds too many, or one in the wrong place, wherever parentheses are appended
(`not_isPathExpr_append`).

* `Nesting.scan_text`: what the reader finds in an expression.
* `appended_expression_iff`: an expression is continued by what is appended exactly when that is a
  path.
-/

namespace DomQuery.XPath

open Text

/-! ### The reader -/

/-- How deep inside brackets and parentheses a reader is, which quotation mark it waits for, and how
many parentheses have been opened outside of everything. -/
structure Nesting where
  depth : Nat := 0
  quote : Option Char := none
  groups : Nat := 0
  deriving DecidableEq, Repr

namespace Nesting

/-- Reads a character. A sign that closes nothing is not read. -/
def next (n : Nesting) (c : Char) : Option Nesting :=
  match n.quote with
  | some quote => some (if c = quote then { n with quote := none } else n)
  | none =>
    if c = '\'' ∨ c = '"' then some { n with quote := some c }
    else if c = '(' then
      some { n with
        depth := n.depth + 1
        groups := if n.depth = 0 then n.groups + 1 else n.groups }
    else if c = '[' then some { n with depth := n.depth + 1 }
    else if c = ')' ∨ c = ']' then
      if n.depth = 0 then none else some { n with depth := n.depth - 1 }
    else some n

theorem next_of_not_mem_signs {c : Char} (h : c ∉ signs) (depth groups : Nat) :
    next ⟨depth, none, groups⟩ c = some ⟨depth, none, groups⟩ := by
  simp only [signs, List.mem_cons, List.not_mem_nil, or_false, not_or] at h
  obtain ⟨h₁, h₂, h₃, h₄, h₅, h₆⟩ := h
  simp [next, h₁, h₂, h₃, h₄, h₅, h₆]

theorem nameChars_of_nameStarts {c : Char} (h : nameStarts.contains c = true) :
    nameChars.contains c = true := by
  obtain ⟨range, mem, within⟩ := CharClass.contains_iff.1 h
  exact CharClass.contains_iff.2 ⟨range, List.mem_append_left _ mem, within⟩

theorem not_mem_signs_of_nameChars {c : Char} (h : nameChars.contains c = true) : c ∉ signs := by
  have outside : signs.any nameChars.contains = false := by decide
  intro mem
  exact List.any_eq_false.1 outside c mem h

/-- Inside of something, a closed text has nothing to count. -/
theorem foldlM_next_of_isClosed {cs : List Char} (h : IsClosed cs) (depth groups : Nat) :
    cs.foldlM next ⟨depth + 1, none, groups⟩ = some ⟨depth + 1, none, groups⟩ := by
  induction h generalizing depth with
  | nil => rfl
  | cons hc _ ih =>
      rw [List.foldlM_cons, next_of_not_mem_signs hc]
      exact ih depth
  | @literal quote inside rest hq hi _ ih =>
      have opened : next ⟨depth + 1, none, groups⟩ quote =
          some ⟨depth + 1, some quote, groups⟩ := by
        simp [next, hq]
      have hidden : inside.foldlM next ⟨depth + 1, some quote, groups⟩ =
          some ⟨depth + 1, some quote, groups⟩ := by
        apply foldlM_of_forall
        intro c hc
        have other : c ≠ quote := by
          rintro rfl
          exact hi hc
        simp [next, other]
      have closed : next ⟨depth + 1, some quote, groups⟩ quote =
          some ⟨depth + 1, none, groups⟩ := by
        simp [next]
      simp only [List.foldlM_cons, List.foldlM_append, Option.bind_eq_bind, Option.bind_some,
        opened, hidden, closed, ih]
  | @nested opening closing inside rest ho _ _ ihInside ihRest =>
      have opened : next ⟨depth + 1, none, groups⟩ opening = some ⟨depth + 2, none, groups⟩ := by
        rcases ho with ⟨rfl, rfl⟩ | ⟨rfl, rfl⟩ <;> rfl
      have closed : next ⟨depth + 2, none, groups⟩ closing = some ⟨depth + 1, none, groups⟩ := by
        rcases ho with ⟨rfl, rfl⟩ | ⟨rfl, rfl⟩ <;> rfl
      simp only [List.foldlM_cons, List.foldlM_append, Option.bind_eq_bind, Option.bind_some,
        opened, ihInside, closed, ihRest]

/-! ### What it finds in expressions -/

/-- The reader comes out of the text as it went in. -/
def PassesOver (text : String) : Prop :=
  ∀ depth groups, scan next ⟨depth, none, groups⟩ text = some ⟨depth, none, groups⟩

namespace PassesOver

theorem of_forall {text : String} (h : ∀ c ∈ text.toList, c ∉ signs) : PassesOver text := by
  intro depth groups
  apply foldlM_of_forall
  intro c hc
  exact next_of_not_mem_signs (h c hc) depth groups

theorem append {s t : String} (hs : PassesOver s) (ht : PassesOver t) : PassesOver (s ++ t) := by
  intro depth groups
  rw [scan_append, hs, Option.bind_some, ht]

theorem join {texts : List String} (h : ∀ t ∈ texts, PassesOver t) :
    PassesOver (String.join texts) := by
  induction texts with
  | nil => exact fun _ _ => rfl
  | cons t texts ih =>
      rw [String.join_cons]
      exact (h t List.mem_cons_self).append (ih fun u hu => h u (List.mem_cons_of_mem t hu))

theorem bracketed (c : Condition) : PassesOver c.bracketed := by
  intro depth groups
  have inside : scan next ⟨depth + 1, none, groups⟩ c.text = some ⟨depth + 1, none, groups⟩ :=
    foldlM_next_of_isClosed c.isClosed depth groups
  have opened : scan next ⟨depth, none, groups⟩ "[" = some ⟨depth + 1, none, groups⟩ := rfl
  rw [Condition.bracketed, scan_append, scan_append, opened, Option.bind_some, inside]
  rfl

theorem bracketedAll (cs : List Condition) : PassesOver (bracketedAll cs) := by
  apply join
  intro t ht
  obtain ⟨c, -, rfl⟩ := List.mem_map.1 ht
  exact bracketed c

theorem name (n : Name) : PassesOver n.text := by
  apply of_forall
  intro c hc
  rw [Name.text, String.toList_ofList, List.mem_cons] at hc
  rcases hc with rfl | later
  · exact not_mem_signs_of_nameChars (nameChars_of_nameStarts n.first_starts)
  · exact not_mem_signs_of_nameChars (n.rest_continues c later)

theorem locationStep (s : LocationStep) : PassesOver s.text := by
  have separator : PassesOver s.separator.text := by
    cases s.separator <;> exact fun _ _ => rfl
  have test : PassesOver s.test.text := by
    cases s.test with
    | any => exact fun _ _ => rfl
    | named n => exact name n
  exact (separator.append test).append (bracketedAll s.conditions)

theorem locationPath (p : LocationPath) : PassesOver p.text := by
  refine (locationStep p.first).append (join ?_)
  intro t ht
  obtain ⟨s, -, rfl⟩ := List.mem_map.1 ht
  exact locationStep s

theorem onward (p : Option LocationPath) : PassesOver ((p.map LocationPath.text).getD "") := by
  cases p with
  | none => exact fun _ _ => rfl
  | some p => exact locationPath p

end PassesOver
end Nesting

/-- How many parentheses an expression opens outside of everything. -/
def PathExpr.groups : PathExpr → Nat
  | path _ => 0
  | grouped _ _ _ => 1

/-- The reader counts what an expression opens, and is outside of everything again after it. -/
theorem Nesting.scan_text (e : PathExpr) (groups : Nat) :
    scan next ⟨0, none, groups⟩ e.text = some ⟨0, none, groups + e.groups⟩ := by
  cases e with
  | path p => exact PassesOver.locationPath p 0 groups
  | grouped inside conditions onward =>
      have opened : scan next ⟨0, none, groups⟩ "(" = some ⟨1, none, groups + 1⟩ := rfl
      have closed : scan next ⟨1, none, groups + 1⟩ ")" = some ⟨0, none, groups + 1⟩ := rfl
      simp only [PathExpr.text, scan_append, Option.bind_some, opened, closed, PathExpr.groups,
        PassesOver.locationPath inside _ _, PassesOver.bracketedAll conditions _ _,
        PassesOver.onward onward _ _]

/-! ### How expressions begin -/

theorem LocationPath.head?_text (p : LocationPath) : p.text.toList.head? = some '/' := by
  have separator : p.first.separator.text.toList.head? = some '/' := by
    cases p.first.separator <;> rfl
  exact head?_append (head?_append (head?_append separator _) _) _

/-- Parentheses at the beginning show. -/
theorem PathExpr.head?_text (e : PathExpr) :
    e.text.toList.head? = some (if e.groups = 0 then '/' else '(') := by
  cases e with
  | path p => exact p.head?_text
  | grouped inside conditions onward =>
      have opened : "(".toList.head? = some '(' := rfl
      exact head?_append (head?_append (head?_append (head?_append opened _) _) _) _

theorem opensWith_slash_iff {text : String} :
    opensWith "/" text = true ↔ text.toList.head? = some '/' := by
  constructor
  · exact head?_of_opensWith rfl
  · intro opens
    obtain ⟨rest, cut⟩ := List.head?_eq_some_iff.1 opens
    exact opensWith_iff.2 ⟨String.ofList rest, by simp [← String.toList_inj, cut]⟩

/-- An expression is a path exactly when it begins with a slash. -/
theorem PathExpr.isLocationPath_iff (e : PathExpr) :
    IsLocationPath e.text ↔ opensWith "/" e.text = true := by
  rw [opensWith_slash_iff]
  constructor
  · rintro ⟨p, same⟩
    rw [← same]
    exact p.head?_text
  · intro opens
    cases e with
    | path p => exact ⟨p, rfl⟩
    | grouped inside conditions onward =>
        rw [head?_text] at opens
        cases opens

/-- What is in parentheses is never appended to an expression: it would stand behind it, and
parentheses can stand nowhere but at the beginning. -/
theorem not_isPathExpr_append (e : PathExpr) {f : PathExpr} (grouped : f.groups = 1) :
    ¬IsPathExpr (e.text ++ f.text) := by
  rintro ⟨k, same⟩
  have found := congrArg (scan Nesting.next ⟨0, none, 0⟩) same
  rw [scan_append, Nesting.scan_text, Nesting.scan_text, Option.bind_some, Nesting.scan_text,
    Option.some.injEq, Nesting.mk.injEq, grouped] at found
  have counted : k.groups = e.groups + 1 := by omega
  have begins : k.text.toList.head? = e.text.toList.head? := by
    rw [same, e.head?_text]
    exact head?_append e.head?_text _
  rw [PathExpr.head?_text, PathExpr.head?_text, counted] at begins
  cases e with
  | path p => cases begins
  | grouped inside conditions onward => cases k <;> cases counted

/-! ### Appending -/

/-- **Appending keeps expressions well formed exactly for paths.** When two texts are read as
expressions and both are well formed, appending the second description to the first writes the
second expression right after the first one, as it stands. The result is well formed exactly when
the second begins with a slash and so continues the path, which says that it is a path itself and
not in parentheses. -/
theorem appended_expression_iff {s t : String} {e f : Expression}
    (hs : Target.ofCompact s = .single (.xpath e)) (ht : Target.ofCompact t = .single (.xpath f))
    (he : IsPathExpr e.text) (hf : IsPathExpr f.text) :
    (Target.ofCompact s).compact = .ok e.text ∧ (Target.ofCompact t).compact = .ok f.text ∧
      ((Target.ofCompact s).append (Target.ofCompact t)).compact = .ok (e.text ++ f.text) ∧
      (IsPathExpr (e.text ++ f.text) ↔ opensWith "/" f.text = true) ∧
      (IsLocationPath f.text ↔ opensWith "/" f.text = true) := by
  obtain ⟨outer, houter⟩ := he
  obtain ⟨inner, hinner⟩ := hf
  have begins : IsLocationPath f.text ↔ opensWith "/" f.text = true := by
    rw [← hinner]
    exact inner.isLocationPath_iff
  rw [hs, ht]
  refine ⟨rfl, rfl, rfl, ?_, begins⟩
  rw [← begins]
  constructor
  · intro wellFormed
    cases inner with
    | path p => exact ⟨p, hinner⟩
    | grouped inside conditions onward =>
        rw [← houter, ← hinner] at wellFormed
        exact absurd wellFormed (not_isPathExpr_append outer rfl)
  · rintro ⟨p, hp⟩
    exact ⟨outer.continued p, by rw [outer.text_continued, houter, hp]⟩

/-- A step to elements anywhere inside, by a name of one letter. -/
def letterPath (c : Char) (h : nameStarts.contains c = true) : LocationPath :=
  ⟨⟨.inside, .named ⟨c, [], h, nofun⟩, []⟩, []⟩

/-- The first of some elements. -/
def firstOf (p : LocationPath) : PathExpr :=
  .grouped p [⟨"1", by decide, .cons (by decide) .nil⟩] none

/-- A path after the first of some elements. -/
theorem appended_expression_iff_insideFirst :
    Target.ofCompact "(//a)[1]" = .single (.xpath ⟨"(//a)[1]"⟩) ∧
      Target.ofCompact "xpath=//b" = .single (.xpath ⟨"//b"⟩) ∧
      IsPathExpr "(//a)[1]" ∧ IsPathExpr "//b" ∧ IsPathExpr "(//a)[1]//b" := by
  have hs : Target.ofCompact "(//a)[1]" = .single (.xpath ⟨"(//a)[1]"⟩) := by decide +kernel
  have ht : Target.ofCompact "xpath=//b" = .single (.xpath ⟨"//b"⟩) := by decide +kernel
  have he : IsPathExpr "(//a)[1]" := ⟨firstOf (letterPath 'a' (by decide)), by decide +kernel⟩
  have hf : IsPathExpr "//b" := ⟨.path (letterPath 'b' (by decide)), by decide +kernel⟩
  obtain ⟨-, -, -, wellFormed, -⟩ := appended_expression_iff hs ht he hf
  exact ⟨hs, ht, he, hf, wellFormed.2 (by decide +kernel)⟩

/-- The first of some elements, after a path: neither a path nor in parentheses. -/
theorem grouped_not_appended :
    Target.ofCompact "//a" = .single (.xpath ⟨"//a"⟩) ∧
      Target.ofCompact "(//b)[1]" = .single (.xpath ⟨"(//b)[1]"⟩) ∧
      IsPathExpr "//a" ∧ IsPathExpr "(//b)[1]" ∧
      ((Target.ofCompact "//a").append (Target.ofCompact "(//b)[1]")) =
        .single (.xpath ⟨"//a(//b)[1]"⟩) ∧
      ¬IsPathExpr "//a(//b)[1]" ∧ opensWith "/" "(//b)[1]" = false := by
  have houter : (PathExpr.path (letterPath 'a' (by decide))).text = "//a" := by decide +kernel
  have hinner : (firstOf (letterPath 'b' (by decide))).text = "(//b)[1]" := by decide +kernel
  refine ⟨by decide +kernel, by decide +kernel, ⟨_, houter⟩, ⟨_, hinner⟩, by decide +kernel, ?_,
    by decide +kernel⟩
  have refused := not_isPathExpr_append (.path (letterPath 'a' (by decide)))
    (f := firstOf (letterPath 'b' (by decide))) rfl
  rw [houter, hinner] at refused
  exact refused

end DomQuery.XPath
