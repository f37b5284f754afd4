import DomQuery.Proofs.Css.Places

/-!
How a selector names an id.

A selector can name an id after a hash sign, and then an identifier has to follow (`IsIdent`), or by
a condition on the attribute, whose value stands in quotes (`Demands`). The sign is used for the
plain ids. A hyphen may begin an identifier but cannot be all of it: `isPlainId` leaves this out,
and apart from the single hyphen the plain ids are the identifiers of letters, hyphens and
underscores (`isPlainId_iff`).

* `Step.namesByHash_iff`, `Step.namesByCondition_iff`: which of the two ways an id is named in.
* `named_by_identifier_iff`: an id is named in one of these ways exactly if it is not the single
  hyphen.
-/

namespace DomQuery.Css

open Text

/-! ### Identifiers -/

/-- A character that begins a name: an ASCII letter, an underscore, or anything beyond ASCII. -/
def BeginsName (c : Char) : Prop := c.isAlpha = true ∨ c = '_' ∨ 0x80 ≤ c.toNat

instance : DecidablePred BeginsName := fun c =>
  inferInstanceAs (Decidable (c.isAlpha = true ∨ c = '_' ∨ 0x80 ≤ c.toNat))

/-- A character inside a name, where digits and hyphens can stand too. -/
def IsNameChar (c : Char) : Prop := BeginsName c ∨ c.isDigit = true ∨ c = '-'

/-- The identifiers of CSS without escapes. One hyphen in front needs the beginning of a name after
it; two hyphens do not. -/
inductive IsIdent : List Char → Prop where
  | name {c : Char} {cs : List Char} (begins : BeginsName c) (rest : ∀ d ∈ cs, IsNameChar d) :
      IsIdent (c :: cs)
  | hyphen {c : Char} {cs : List Char} (begins : BeginsName c) (rest : ∀ d ∈ cs, IsNameChar d) :
      IsIdent ('-' :: c :: cs)
  | hyphens {cs : List Char} (rest : ∀ d ∈ cs, IsNameChar d) : IsIdent ('-' :: '-' :: cs)

theorem not_isIdent_hyphen : ¬ IsIdent ['-'] := by
  intro h
  cases h with
  | name begins _ => exact absurd begins (by decide)

/-- A character that a plain id can have. -/
def IsPlainIdChar (c : Char) : Prop := c.isAlpha = true ∨ c = '-' ∨ c = '_'

instance : DecidablePred IsPlainIdChar := fun c =>
  inferInstanceAs (Decidable (c.isAlpha = true ∨ c = '-' ∨ c = '_'))

theorem IsPlainIdChar.isNameChar {c : Char} (h : IsPlainIdChar c) : IsNameChar c := by
  rcases h with alpha | rfl | rfl
  · exact .inl (.inl alpha)
  · exact .inr (.inr rfl)
  · exact .inl (.inr (.inl rfl))

theorem IsPlainIdChar.eq_hyphen_or_beginsName {c : Char} (h : IsPlainIdChar c) :
    c = '-' ∨ BeginsName c := by
  rcases h with alpha | rfl | rfl
  · exact .inr (.inl alpha)
  · exact .inl rfl
  · exact .inr (.inr (.inl rfl))

/-- A text of such characters is an identifier unless it is empty or one hyphen. -/
theorem isIdent_or_eq_hyphen {cs : List Char} (ne : cs ≠ []) (h : ∀ c ∈ cs, IsPlainIdChar c) :
    IsIdent cs ∨ cs = ['-'] := by
  obtain ⟨c, cs, rfl⟩ := List.exists_cons_of_ne_nil ne
  obtain ⟨first, later⟩ := List.forall_mem_cons.1 h
  rcases first.eq_hyphen_or_beginsName with rfl | begins
  · cases cs with
    | nil => exact .inr rfl
    | cons d cs =>
        obtain ⟨second, rest⟩ := List.forall_mem_cons.1 later
        have names : ∀ e ∈ cs, IsNameChar e := fun e he => (rest e he).isNameChar
        rcases second.eq_hyphen_or_beginsName with rfl | begins
        · exact .inl (.hyphens names)
        · exact .inl (.hyphen begins names)
  · exact .inl (.name begins fun d hd => (later d hd).isNameChar)

theorem IsIdent.ne_nil {cs : List Char} (h : IsIdent cs) : cs ≠ [] := by
  cases h <;> exact List.cons_ne_nil _ _

theorem isPlainId_iff_madeOf {id : String} :
    isPlainId id = true ↔ id ≠ "" ∧ MadeOf IsPlainIdChar id := by
  simp [isPlainId, MadeOf, IsPlainIdChar, or_assoc]

/-- The plain ids are the identifiers of these characters, and the single hyphen. -/
theorem isPlainId_iff {id : String} :
    isPlainId id = true ↔ IsIdent id.toList ∧ MadeOf IsPlainIdChar id ∨ id = "-" := by
  rw [isPlainId_iff_madeOf]
  constructor
  · rintro ⟨ne, made⟩
    rcases isIdent_or_eq_hyphen (by simpa using ne) made with ident | single
    · exact .inl ⟨ident, made⟩
    · exact .inr (String.toList_inj.1 single)
  · rintro (⟨ident, made⟩ | rfl)
    · exact ⟨by simpa using ident.ne_nil, made⟩
    · refine ⟨by decide, ?_⟩
      intro c hc
      rw [List.mem_singleton.1 hc]
      exact .inr (.inl rfl)

theorem ne_hyphen_of_isIdent {id : String} (h : IsIdent id.toList) : id ≠ "-" := by
  rintro rfl
  exact not_isIdent_hyphen h

/-- The single hyphen is the one id of which being plain says the wrong thing. -/
theorem isPlainId_exact_iff {id : String} :
    (isPlainId id = true ↔ IsIdent id.toList ∧ MadeOf IsPlainIdChar id) ↔ id ≠ "-" := by
  constructor
  · intro exact same
    exact ne_hyphen_of_isIdent (exact.1 (isPlainId_iff.2 (.inr same))).1 same
  · intro other
    exact isPlainId_iff.trans (or_iff_left other)

/-! ### Quoted values -/

/-- A character that stands for itself between double quotes. A quote ends the text, a backslash
begins an escape, and a line may not end there; of the control characters none is counted in. -/
def IsVerbatim (c : Char) : Prop := c ≠ '"' ∧ c ≠ '\\' ∧ 0x20 ≤ c.toNat

instance : DecidablePred IsVerbatim := fun c =>
  inferInstanceAs (Decidable (c ≠ '"' ∧ c ≠ '\\' ∧ 0x20 ≤ c.toNat))

/-- Reads a quoted text from after its opening quote: the value, and what follows the closing quote.
Escapes and control characters are not read. -/
def quoted? : List Char → Option (List Char × List Char)
  | [] => none
  | c :: cs =>
    if c = '"' then some ([], cs)
    else if IsVerbatim c then (quoted? cs).map fun read => (c :: read.1, read.2)
    else none

theorem quoted?_append {value : List Char} (h : ∀ c ∈ value, IsVerbatim c) (rest : List Char) :
    quoted? (value ++ '"' :: rest) = some (value, rest) := by
  induction value with
  | nil => rfl
  | cons c value ih =>
      obtain ⟨verbatim, later⟩ := List.forall_mem_cons.1 h
      rw [List.cons_append, quoted?, if_neg verbatim.1, if_pos verbatim, ih later]
      rfl

/-- The condition, read as CSS reads it, says that the attribute has the value: an identifier, an
equals sign and a quoted text, which ends where the condition ends. -/
def Demands (condition name value : String) : Prop :=
  IsIdent name.toList ∧ ∃ text, condition.toList = name.toList ++ '=' :: '"' :: text ∧
    quoted? text = some (value.toList, [])

theorem demands_comparison {name value : String} (hname : IsIdent name.toList)
    (hvalue : MadeOf IsVerbatim value) : Demands (comparison name "=" value) name value := by
  refine ⟨hname, value.toList ++ ['"'], ?_, quoted?_append hvalue []⟩
  simp [comparison]

/-! ### Steps that name an id -/

namespace Step

/-- What the step writes after its id. -/
def details (s : Step) : String :=
  String.join (s.classes.map ("." ++ ·)) ++ String.join s.pseudoClasses ++
    String.join (s.conditions.map fun text => "[" ++ text ++ "]")

/-- The step `t` names the id after a hash sign, where it is an identifier, and is else as `s`. -/
structure NamesByHash (id : String) (s t : Step) : Prop where
  identifier : IsIdent id.toList
  only : t = { s with id := some id }
  written : t.body = s.tag.getD "" ++ ("#" ++ id) ++ s.details

/-- The step `t` names the id by one condition more than `s` has, at the end, and is else as `s`. -/
structure NamesByCondition (id condition : String) (s t : Step) : Prop where
  demands : Demands condition "id" id
  only : t = { s with conditions := s.conditions ++ [condition] }
  written : t.body = s.body ++ ("[" ++ condition ++ "]")

theorem body_add_id (s : Step) (id : String) :
    (s.add (.id id)).body = s.tag.getD "" ++ ("#" ++ id) ++ s.details := by
  have written : (s.add (.id id)).compound = s.tag.getD "" ++ ("#" ++ id) ++
      (String.join (s.classes.map ("." ++ ·)) ++ String.join s.pseudoClasses) := by
    rw [compound, add, String.append_assoc]
    rfl
  have ne : (s.add (.id id)).compound ≠ "" := by
    rw [written]
    simp
  rw [body, if_neg ne, written, details]
  simp only [String.append_assoc]
  rfl

theorem body_add_condition (s : Step) (condition : String) :
    (s.add (.condition condition)).body = s.body ++ ("[" ++ condition ++ "]") := by
  simp [body, compound, add, String.append_assoc]

theorem namesByHash_add {id : String} (h : IsIdent id.toList) (s : Step) :
    s.NamesByHash id (s.add (.id id)) := ⟨h, rfl, s.body_add_id id⟩

theorem namesByCondition_add {id : String} (h : MadeOf IsVerbatim id) (s : Step) :
    s.NamesByCondition id (comparison "id" "=" id)
      (s.add (.condition (comparison "id" "=" id))) := by
  have name : IsIdent "id".toList := by
    refine .name (.inl (by decide)) ?_
    intro c hc
    rw [List.mem_singleton.1 hc]
    exact .inl (.inl (by decide))
  exact ⟨demands_comparison name h, rfl, s.body_add_condition _⟩

/-- Naming an id adds a condition unless the id is plain. -/
theorem conditions_add_idPart (s : Step) (id : String) :
    (s.add (idPart id)).conditions =
      s.conditions ++ if isPlainId id then [] else [comparison "id" "=" id] := by
  by_cases plain : isPlainId id = true <;> simp [idPart, plain, add]

theorem namesByHash_iff (s : Step) {id : String} :
    s.NamesByHash id (s.add (idPart id)) ↔ IsIdent id.toList ∧ MadeOf IsPlainIdChar id := by
  constructor
  · intro hash
    have kept := (conditions_add_idPart s id).symm.trans (congrArg conditions hash.only)
    have plain : isPlainId id = true := by
      by_contra other
      simp [other] at kept
    exact (isPlainId_iff.1 plain).resolve_right (ne_hyphen_of_isIdent hash.identifier)
  · intro named
    rw [idPart, if_pos (isPlainId_iff.2 (.inl named))]
    exact namesByHash_add named.1 s

theorem namesByCondition_iff (s : Step) {id : String} (h : MadeOf IsVerbatim id) :
    (∃ condition, s.NamesByCondition id condition (s.add (idPart id))) ↔ isPlainId id = false := by
  constructor
  · rintro ⟨condition, named⟩
    have grown := (conditions_add_idPart s id).symm.trans (congrArg conditions named.only)
    cases plain : isPlainId id with
    | false => rfl
    | true => simp [plain] at grown
  · intro other
    refine ⟨comparison "id" "=" id, ?_⟩
    rw [idPart, if_neg (Bool.eq_false_iff.1 other)]
    exact namesByCondition_add h s

end Step

/-! ### Selectors that name an id -/

namespace Selector

/-- **An id is named after the hash sign only where it is an identifier, but for the single
hyphen.** A selector that is told an id, of characters that stand for themselves in quotes, adds to
its open step either the hash sign with the id, which then is an identifier, or a condition whose
quoted value is the id. This fails for the single hyphen and for no other id. The hash sign is used
for the identifiers of letters, hyphens and underscores; these are the plain ids, but again for the
single hyphen. -/
theorem named_by_identifier_iff (s : Selector) {id : String} (h : MadeOf IsVerbatim id) :
    ∃ step, s.refine? (.qualify (.hasId id)) = some ⟨s.finished, some step⟩ ∧
      (s.lastStep.NamesByHash id step ∨ (∃ condition, s.lastStep.NamesByCondition id condition step)
        ↔ id ≠ "-") ∧
      (s.lastStep.NamesByHash id step ↔ IsIdent id.toList ∧ MadeOf IsPlainIdChar id) ∧
      ((isPlainId id = true ↔ IsIdent id.toList ∧ MadeOf IsPlainIdChar id) ↔ id ≠ "-") := by
  refine ⟨s.lastStep.add (idPart id), rfl, ?_, s.lastStep.namesByHash_iff, isPlainId_exact_iff⟩
  rw [s.lastStep.namesByHash_iff, s.lastStep.namesByCondition_iff h]
  constructor
  · rintro (named | other) same
    · exact ne_hyphen_of_isIdent named.1 same
    · exact absurd (isPlainId_iff.2 (.inr same)) (Bool.eq_false_iff.1 other)
  · intro ne
    cases plain : isPlainId id with
    | false => exact .inr rfl
    | true => exact .inl ((isPlainId_iff.1 plain).resolve_right ne)

/-- A hyphen and a digit are no identifier: the id is named by a condition. -/
theorem named_by_identifier_iff_hyphenDigit :
    MadeOf IsVerbatim "-1" ∧
      ∃ step condition, (ofText "ul > li").refine? (.qualify (.hasId "-1")) =
          some ⟨"ul > li", some step⟩ ∧
        ({} : Step).NamesByCondition "-1" condition step ∧ step.body = "*[id=\"-1\"]" := by
  have verbatim : MadeOf IsVerbatim "-1" := by decide
  obtain ⟨step, refined, named, byHash, -⟩ := named_by_identifier_iff (ofText "ul > li") verbatim
  have digit : ¬ MadeOf IsPlainIdChar "-1" := by decide
  cases refined
  obtain ⟨condition, byCondition⟩ := (named.2 (by decide)).resolve_left
    fun hash => digit (byHash.1 hash).2
  exact ⟨verbatim, _, condition, rfl, byCondition, by decide +kernel⟩

/-- The single hyphen is taken for an id that can follow a hash sign, and it cannot. -/
theorem lone_hyphen_after_hash :
    MadeOf IsVerbatim "-" ∧ isPlainId "-" = true ∧ ¬ IsIdent "-".toList ∧
      any.refine? (.qualify (.hasId "-")) = some ⟨"", some { id := some "-" }⟩ ∧
      (⟨"", some { id := some "-" }⟩ : Selector).text = "#-" ∧
      ¬ any.lastStep.NamesByHash "-" { id := some "-" } ∧
      ¬ ∃ condition, any.lastStep.NamesByCondition "-" condition { id := some "-" } := by
  refine ⟨by decide, by decide, not_isIdent_hyphen, by decide, by decide +kernel, ?_, ?_⟩
  · intro hash
    exact not_isIdent_hyphen hash.identifier
  · rintro ⟨condition, named⟩
    cases named.only

end Selector
end DomQuery.Css
