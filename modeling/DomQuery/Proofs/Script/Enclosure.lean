import DomQuery.Proofs.Script.Frames
import DomQuery.Proofs.Script.Literal

/-!
What a script keeps of its locator.

A reader that knows nothing of escapes but that a backslash protects the character after it still
finds the end of a literal (`untilQuote`). It never stops inside a value, so a script falls apart
into its frame and its literal again (`splitLiteral?`), and frame and literal give the locator back.

None of this depends on the table of hidden characters. It is shown for every `HiddenClass`, that
is, for every class that has the two line ends outside ASCII.

* `untilQuote_encode`: the literal of a text ends at its own quote.
* `encode_injective`: no two texts have the same literal.
* `Probe.scriptWith_inj`: no two locators have the same script, of either kind.
* `scripts_sealed`: no value breaks out of its script, and a script belongs to one locator.
-/

namespace DomQuery.Script

open Text

/-! ### Classes of hidden characters -/

/-- The characters that end a line, which a literal has to be free of. -/
def lineEnds : List Char := ['\n', '\r', '\u2028', '\u2029']

/-- A class of characters that are written by their code points. The two line ends that have no
letter are among them. -/
structure HiddenClass where
  hidden : Char → Bool
  lineSeparator : hidden '\u2028' = true
  paragraphSeparator : hidden '\u2029' = true

/-- The tabulated class. -/
def HiddenClass.tabulated : HiddenClass where
  hidden := isHidden
  lineSeparator := by decide +kernel
  paragraphSeparator := by decide +kernel

theorem HiddenClass.not_mem_lineEnds_of_mem_escape (k : HiddenClass) {c d : Char}
    (h : d ∈ escape k.hidden c) : d ∉ lineEnds := by
  rcases escape_cases k.hidden c with ⟨letter, mem, form⟩ | ⟨-, -, form⟩ | ⟨unlettered, shown, form⟩
  · have letters : ∀ p ∈ letterEscapes, '\\' ∉ lineEnds ∧ p.2 ∉ lineEnds := by decide
    rw [form, List.mem_cons, List.mem_singleton] at h
    rcases h with rfl | rfl
    · exact (letters _ mem).1
    · exact (letters _ mem).2
  · have written : ∀ x ∈ ['\\', 'u', '\x7b', '\x7d'] ++ hexDigits, x ∉ lineEnds := by
      simp [hexDigits, lineEnds]
    rw [form] at h
    exact written d (mem_codePointEscape h)
  · rw [form, List.mem_singleton] at h
    subst h
    obtain ⟨-, -, -, notLine, notReturn, -⟩ := unlettered.ne
    intro isEnd
    simp only [lineEnds, List.mem_cons, List.not_mem_nil, or_false] at isEnd
    rcases isEnd with rfl | rfl | rfl | rfl
    · exact notLine rfl
    · exact notReturn rfl
    · rw [k.lineSeparator] at shown
      cases shown
    · rw [k.paragraphSeparator] at shown
      cases shown

/-- A literal stays on its line. -/
theorem HiddenClass.not_mem_lineEnds_of_mem_encode (k : HiddenClass) {cs : List Char} {d : Char}
    (h : d ∈ encode k.hidden cs) : d ∉ lineEnds := by
  obtain ⟨c, -, hc⟩ := List.mem_flatMap.1 h
  exact k.not_mem_lineEnds_of_mem_escape hc

/-! ### Finding the end of a literal -/

/-- The text up to the first quote that no backslash protects, and the text after that quote. The
flag tells whether the next character is protected. -/
def untilQuote : Bool → List Char → Option (List Char × List Char)
  | _, [] => none
  | true, c :: cs => (untilQuote false cs).map fun (body, after) => (c :: body, after)
  | false, c :: cs =>
    if c = '"' then some ([], cs)
    else (untilQuote (c = '\\') cs).map fun (body, after) => (c :: body, after)

/-- The text before the first quote, the text from there to the end of the literal, and the text
after the literal. -/
def splitLiteral? (script : String) : Option (List Char × List Char × List Char) :=
  (untilQuote false (script.toList.dropWhile (· ≠ '"')).tail).map fun (body, after) =>
    (script.toList.takeWhile (· ≠ '"'), body, after)

variable {hidden : Char → Bool}

/-- The reader passes over text without quotes and backslashes. -/
theorem untilQuote_append_of_plain {cs tail body after : List Char}
    (plain : ∀ c ∈ cs, c ≠ '"' ∧ c ≠ '\\') (h : untilQuote false tail = some (body, after)) :
    untilQuote false (cs ++ tail) = some (cs ++ body, after) := by
  induction cs with
  | nil => exact h
  | cons c cs ih =>
      obtain ⟨notQuote, notSlash⟩ := plain c List.mem_cons_self
      have rest := ih fun d hd => plain d (List.mem_cons_of_mem c hd)
      simp [untilQuote, notQuote, notSlash, rest]

/-- The reader passes over a backslash and the character it protects. -/
theorem untilQuote_slash_cons {c : Char} {tail body after : List Char}
    (h : untilQuote false tail = some (body, after)) :
    untilQuote false ('\\' :: c :: tail) = some ('\\' :: c :: body, after) := by
  simp [untilQuote, h]

/-- The reader passes over what is written for a character, whichever form it has. -/
theorem untilQuote_escape_append (c : Char) {tail body after : List Char}
    (h : untilQuote false tail = some (body, after)) :
    untilQuote false (escape hidden c ++ tail) = some (escape hidden c ++ body, after) := by
  rcases escape_cases hidden c with ⟨letter, -, form⟩ | ⟨-, -, form⟩ | ⟨unlettered, -, form⟩
  · rw [form]
    exact untilQuote_slash_cons h
  · have plain : ∀ d ∈ '\x7b' :: (Nat.toDigits 16 c.toNat ++ ['\x7d']), d ≠ '"' ∧ d ≠ '\\' := by
      intro d hd
      have all : ∀ x ∈ ['\x7b', '\x7d'] ++ hexDigits, x ≠ '"' ∧ x ≠ '\\' := by
        simp [hexDigits]
      simp only [List.mem_cons, List.mem_append, List.not_mem_nil, or_false] at hd
      rcases hd with rfl | digit | rfl
      · exact all _ (by decide)
      · exact all d (List.mem_append_right _ (mem_hexDigits_of_mem_toDigits digit))
      · exact all _ (by decide)
    have inBraces := untilQuote_append_of_plain plain h
    have text : ∀ x : List Char, codePointEscape c ++ x =
        '\\' :: 'u' :: ('\x7b' :: (Nat.toDigits 16 c.toNat ++ ['\x7d']) ++ x) := by
      intro x
      simp [codePointEscape]
    rw [form, text tail, text body]
    exact untilQuote_slash_cons inBraces
  · obtain ⟨notQuote, notSlash, -⟩ := unlettered.ne
    rw [form]
    apply untilQuote_append_of_plain _ h
    intro d hd
    rw [List.mem_singleton.1 hd]
    exact ⟨notQuote, notSlash⟩

/-- **The literal of a text ends at its own quote**, whatever the text and whatever follows. -/
theorem untilQuote_encode (cs after : List Char) :
    untilQuote false (encode hidden cs ++ '"' :: after) = some (encode hidden cs, after) := by
  induction cs with
  | nil => simp [untilQuote]
  | cons c cs ih =>
      rw [encode_cons, List.append_assoc]
      exact untilQuote_escape_append c ih

/-- A script falls apart into its frame and its literal. -/
theorem splitLiteral?_around {f : Frame} (hf : '"' ∉ f.before.toList) (value : String) :
    splitLiteral? (f.around (quoteWith hidden value)) =
      some (f.before.toList, encode hidden value.toList, f.after.toList) := by
  rw [splitLiteral?, takeWhile_around hf, dropWhile_around hf, List.tail_cons, untilQuote_encode]
  rfl

/-! ### Giving the locator back -/

/-- An escape is no beginning of another, so it can be cancelled from the front of a text. -/
theorem escape_append_inj {c d : Char} {cs ds : List Char}
    (h : escape hidden c ++ cs = escape hidden d ++ ds) : c = d ∧ cs = ds := by
  -- Where a zero always stands for NUL, every escape is read as its character.
  have read : ∀ (x : Char) (rest : List Char),
      unit? (fun left => some ('\x00', left)) (escape hidden x ++ rest) = some (x, rest) := by
    intro x rest
    rw [unit?_escape]
    split
    · rename_i nul
      rw [nul]
    · rfl
  have same := (read c cs).symm.trans ((congrArg _ h).trans (read d ds))
  rw [Option.some.injEq, Prod.mk.injEq] at same
  exact same

theorem encode_injective : Function.Injective (encode hidden) := by
  intro cs ds h
  induction cs generalizing ds with
  | nil =>
      cases ds with
      | nil => rfl
      | cons d ds => simp [escape_ne_nil] at h
  | cons c cs ih =>
      cases ds with
      | nil => simp [escape_ne_nil] at h
      | cons d ds =>
          rw [encode_cons, encode_cons] at h
          obtain ⟨rfl, rest⟩ := escape_append_inj h
          rw [ih rest]

theorem Probe.splitLiteral?_scriptWith (hidden : Char → Bool) (p : Probe) (l : Locator) :
    splitLiteral? (p.scriptWith hidden l) =
      some ((p.frame l.grammar).before.toList, encode hidden l.value.toList,
        (p.frame l.grammar).after.toList) :=
  splitLiteral?_around (p.quote_not_mem_frame l.grammar) l.value

/-- Two scripts are the same only if they ask the same of the same locator. -/
theorem Probe.scriptWith_inj {p q : Probe} {l m : Locator}
    (h : p.scriptWith hidden l = q.scriptWith hidden m) : p = q ∧ l = m := by
  have parts := congrArg splitLiteral? h
  rw [p.splitLiteral?_scriptWith, q.splitLiteral?_scriptWith, Option.some.injEq, Prod.mk.injEq,
    Prod.mk.injEq] at parts
  obtain ⟨before, body, after⟩ := parts
  have frame : p.frame l.grammar = q.frame m.grammar := by
    rw [Frame.mk.injEq]
    exact ⟨String.toList_inj.1 before, String.toList_inj.1 after⟩
  obtain ⟨rfl, grammar⟩ := Probe.frame_inj.1 frame
  have value : l.value = m.value := String.toList_inj.1 (encode_injective body)
  refine ⟨rfl, ?_⟩
  rw [Locator.mk.injEq]
  exact ⟨grammar, value⟩

/-! ### The scripts of a locator -/

/-- Scripts that no value breaks out of, and that belong to one locator each. -/
structure Sealed (hidden : Char → Bool) (script : Probe → Locator → String) : Prop where
  /-- The first quote is the one before the value, and the first quote after it that no backslash
  protects is the one before the end of the frame. -/
  encloses : ∀ p l, splitLiteral? (script p l) =
    some ((p.frame l.grammar).before.toList, encode hidden l.value.toList,
      (p.frame l.grammar).after.toList)
  /-- No line ends inside a literal. -/
  oneLine : ∀ l : Locator, ∀ c ∈ encode hidden l.value.toList, c ∉ lineEnds
  /-- A script for an element is never one for a count, and neither is shared by two locators. -/
  identifies : ∀ p q l m, script p l = script q m → p = q ∧ l = m

/-- **No value breaks out of its script, and a script belongs to one locator.** This holds for the
tabulated class of hidden characters, and for any other that has the two line ends. -/
theorem scripts_sealed :
    Sealed isHidden Probe.script ∧
      ∀ k : HiddenClass, Sealed k.hidden (Probe.scriptWith k.hidden) := by
  have general : ∀ k : HiddenClass, Sealed k.hidden (Probe.scriptWith k.hidden) := by
    intro k
    constructor
    · exact Probe.splitLiteral?_scriptWith k.hidden
    · intro l c hc
      exact k.not_mem_lineEnds_of_mem_encode hc
    · intro p q l m h
      exact Probe.scriptWith_inj h
  refine ⟨?_, general⟩
  rw [← Probe.scriptWith_isHidden]
  exact general HiddenClass.tabulated

end DomQuery.Script
