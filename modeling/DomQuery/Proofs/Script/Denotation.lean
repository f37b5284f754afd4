import DomQuery.Proofs.Script.Frames
import DomQuery.Proofs.Script.Literal

/-!
When the literal of a locator denotes its value.

Writer and script agree on every escape but one. A NUL is written as a backslash and a zero, and if
a digit of the value comes next, the script has the two together. Strict scripts refuse them
(`ZeroRule.strict`); others read an octal escape of up to three digits (`ZeroRule.octal`), which
swallows one or two characters of the value.

Both rules depart from NUL only before a class of digits, and then only ever take digits of that
class (`DepartsBefore`). Such digits are written as themselves, so what a rule takes is a piece of
the value, and the reading comes out shorter than the value (`length_le_of_reads`). This is why a
value with a NUL before a digit is never denoted, whatever follows.

* `reads_encode_iff`: the texts that are read as they were written.
* `script_denotes_value_iff`: the same for the two scripts of a locator.
* `nul_before_digit_misread`: a value that is lost.
-/

namespace DomQuery.Script

open Text

variable {zero : ZeroRule} {digit hidden : Char → Bool}

/-! ### The rules for a zero -/

namespace ZeroRule

/-- A zero stands for NUL; a decimal digit after it is an error. -/
def strict : ZeroRule := fun cs =>
  if cs.head?.any Char.isDigit then none else some ('\x00', cs)

def isOctalDigit (d : Char) : Bool := '0' ≤ d && d ≤ '7'

/-- A zero begins an octal escape, which takes up to two more octal digits. -/
def octal : ZeroRule := fun cs =>
  let digits := (cs.take 2).takeWhile isOctalDigit
  some (Char.ofNat (Nat.ofDigitChars 8 digits 0), cs.drop digits.length)

end ZeroRule

/-- The rule reads NUL except before a digit of the class, and takes nothing but such digits. -/
structure DepartsBefore (zero : ZeroRule) (digit : Char → Bool) : Prop where
  nul : ∀ {cs}, cs.head?.any digit = false → zero cs = some ('\x00', cs)
  takes : ∀ {cs c left}, cs.head?.any digit = true → zero cs = some (c, left) →
    ∃ taken, taken ≠ [] ∧ (∀ d ∈ taken, digit d = true) ∧ cs = taken ++ left

theorem strict_departsBefore : DepartsBefore ZeroRule.strict Char.isDigit where
  nul h := by simp [ZeroRule.strict, h]
  takes h read := by simp [ZeroRule.strict, h] at read

theorem octal_departsBefore : DepartsBefore ZeroRule.octal ZeroRule.isOctalDigit where
  nul {cs} h := by
    cases cs with
    | nil => rfl
    | cons d ds =>
        have notOctal : ZeroRule.isOctalDigit d = false := h
        simp [ZeroRule.octal, notOctal]
  takes {cs c left} h read := by
    simp only [ZeroRule.octal, Option.some.injEq, Prod.mk.injEq] at read
    refine ⟨(cs.take 2).takeWhile ZeroRule.isOctalDigit, ?_, ?_, ?_⟩
    · cases cs with
      | nil => simp at h
      | cons d ds =>
          have isOctal : ZeroRule.isOctalDigit d = true := h
          simp [isOctal]
    · intro d hd
      exact List.all_eq_true.1 List.all_takeWhile d hd
    · rw [← read.2]
      have front : (cs.take 2).takeWhile ZeroRule.isOctalDigit <+: cs :=
        (List.takeWhile_prefix _).trans (List.take_prefix 2 cs)
      exact List.prefix_iff_eq_append.1 front |>.symm

/-! ### Reading one written character -/

/-- No escape begins like the end of a literal. -/
theorem escape_append_ne_quote (c : Char) (tail rest : List Char) :
    escape hidden c ++ tail ≠ '"' :: rest := by
  rcases escape_cases hidden c with ⟨letter, -, form⟩ | ⟨-, -, form⟩ | ⟨unlettered, -, form⟩
  · simp [form]
  · simp [form, codePointEscape]
  · obtain ⟨notQuote, -⟩ := unlettered.ne
    simp [form, notQuote]

theorem reads_escape_iff {c : Char} {tail value rest : List Char} :
    Reads zero (escape hidden c ++ tail) value rest ↔
      ∃ d left v, (if c = '\x00' then zero tail else some (c, tail)) = some (d, left) ∧
        value = d :: v ∧ Reads zero left v rest := by
  rw [← unit?_escape hidden]
  constructor
  · intro h
    generalize written : escape hidden c ++ tail = cs at h
    cases h with
    | close => exact absurd written (escape_append_ne_quote c tail rest)
    | unit head tail => exact ⟨_, _, _, head, rfl, tail⟩
  · rintro ⟨d, left, v, head, rfl, tail⟩
    exact .unit head tail

theorem reads_escape_of_ne_nul {c : Char} (hc : c ≠ '\x00') {tail value rest : List Char} :
    Reads zero (escape hidden c ++ tail) value rest ↔
      ∃ v, value = c :: v ∧ Reads zero tail v rest := by
  rw [reads_escape_iff, if_neg hc]
  constructor
  · rintro ⟨d, left, v, head, rfl, tail⟩
    cases head
    exact ⟨v, rfl, tail⟩
  · rintro ⟨v, rfl, tail⟩
    exact ⟨c, _, v, rfl, rfl, tail⟩

theorem reads_escape_nul {tail value rest : List Char} :
    Reads zero (escape hidden '\x00' ++ tail) value rest ↔
      ∃ d left v, zero tail = some (d, left) ∧ value = d :: v ∧ Reads zero left v rest := by
  rw [reads_escape_iff, if_pos rfl]

/-! ### Digits after a zero -/

/-- A NUL of the text stands before a digit of the class. -/
def NulBefore (digit : Char → Bool) (cs : List Char) : Prop :=
  ∃ front d back, cs = front ++ '\x00' :: d :: back ∧ digit d = true

theorem nulBefore_cons {c : Char} {cs : List Char} :
    NulBefore digit (c :: cs) ↔
      (c = '\x00' ∧ cs.head?.any digit = true) ∨ NulBefore digit cs := by
  constructor
  · rintro ⟨front, d, back, split, hd⟩
    cases front with
    | nil =>
        rw [List.nil_append, List.cons.injEq] at split
        obtain ⟨rfl, rfl⟩ := split
        exact .inl ⟨rfl, hd⟩
    | cons e front =>
        rw [List.cons_append, List.cons.injEq] at split
        exact .inr ⟨front, d, back, split.2, hd⟩
  · rintro (⟨rfl, hd⟩ | ⟨front, d, back, rfl, hd⟩)
    · cases cs with
      | nil => simp at hd
      | cons d back => exact ⟨[], d, back, rfl, hd⟩
    · exact ⟨c :: front, d, back, rfl, hd⟩

theorem not_nulBefore_nil : ¬ NulBefore digit [] := by
  rintro ⟨front, d, back, split, -⟩
  simp at split

section Raw

variable (raw : ∀ d, digit d = true → escape hidden d = [d])
include raw

/-- What is escaped is no digit of the class. -/
theorem digit_eq_false_of_escaped {d : Char} (hd : escape hidden d ≠ [d]) : digit d = false := by
  cases h : digit d with
  | false => rfl
  | true => exact absurd (raw d h) hd

theorem digit_quote : digit '"' = false := by
  have form : escape hidden '"' = ['\\', '"'] := rfl
  exact digit_eq_false_of_escaped raw (by rw [form]; decide)

theorem digit_slash : digit '\\' = false := by
  have form : escape hidden '\\' = ['\\', '\\'] := rfl
  exact digit_eq_false_of_escaped raw (by rw [form]; decide)

/-- A digit comes next in the literal exactly when one comes next in the text. -/
theorem head?_encode_any (cs rest : List Char) :
    (encode hidden cs ++ '"' :: rest).head?.any digit = cs.head?.any digit := by
  cases cs with
  | nil => simp [digit_quote raw]
  | cons d ds =>
      rcases escape_cases hidden d with ⟨letter, -, form⟩ | ⟨-, -, form⟩ | ⟨-, -, form⟩
      · have escaped : digit d = false := digit_eq_false_of_escaped raw (by simp [form])
        simp [form, digit_slash raw, escaped]
      · have escaped : digit d = false :=
          digit_eq_false_of_escaped raw (by simp [form, codePointEscape])
        simp [form, codePointEscape, digit_slash raw, escaped]
      · simp [form]

/-- Digits in front of the rest of a literal are digits of the text. -/
theorem exists_append_of_digits {taken : List Char} (hd : ∀ d ∈ taken, digit d = true)
    {cs rest left : List Char} (h : encode hidden cs ++ '"' :: rest = taken ++ left) :
    ∃ ds, cs = taken ++ ds ∧ left = encode hidden ds ++ '"' :: rest := by
  induction taken generalizing cs with
  | nil => exact ⟨cs, rfl, h.symm⟩
  | cons d taken ih =>
      have isDigit : digit d = true := hd d List.mem_cons_self
      have next : cs.head?.any digit = true := by
        rw [← head?_encode_any raw cs rest, h]
        exact isDigit
      cases cs with
      | nil => simp at next
      | cons e cs =>
          rw [encode_cons, raw e next, List.append_assoc, List.singleton_append, List.cons_append,
            List.cons.injEq] at h
          obtain ⟨rfl, h⟩ := h
          obtain ⟨ds, rfl, hleft⟩ := ih (fun x hx => hd x (List.mem_cons_of_mem e hx)) h
          exact ⟨ds, rfl, hleft⟩

/-! ### Reading a whole text -/

/-- **What is read is never longer than the text, and shorter if a NUL stands before a digit.** The
induction is on the length of the text, since a rule may take several digits at once. -/
theorem length_le_of_reads (departs : DepartsBefore zero digit) {cs rest value left : List Char}
    (h : Reads zero (encode hidden cs ++ '"' :: rest) value left) :
    value.length ≤ cs.length ∧ (NulBefore digit cs → value.length < cs.length) := by
  induction n : cs.length using Nat.strongRecOn generalizing cs value with
  | ind n ih =>
      subst n
      cases cs with
      | nil =>
          cases h with
          | close => exact ⟨Nat.le_refl 0, fun before => absurd before not_nulBefore_nil⟩
          | unit head _ => simp [unit?] at head
      | cons c cs =>
          rw [encode_cons, List.append_assoc] at h
          by_cases hc : c = '\x00'
          · subst hc
            obtain ⟨d, left', v, head, rfl, tail⟩ := reads_escape_nul.1 h
            cases next : cs.head?.any digit with
            | false =>
                rw [departs.nul ((head?_encode_any raw cs rest).trans next)] at head
                cases head
                obtain ⟨le, lt⟩ := ih cs.length (Nat.lt_succ_self cs.length) tail rfl
                constructor
                · exact Nat.succ_le_succ le
                · intro before
                  rcases nulBefore_cons.1 before with ⟨-, here⟩ | later
                  · rw [next] at here
                    cases here
                  · exact Nat.succ_lt_succ (lt later)
            | true =>
                obtain ⟨taken, nonempty, digits, split⟩ :=
                  departs.takes ((head?_encode_any raw cs rest).trans next) head
                obtain ⟨ds, rfl, rfl⟩ := exists_append_of_digits raw digits split
                have some : 0 < taken.length := List.length_pos_iff.2 nonempty
                have total : (taken ++ ds).length = taken.length + ds.length := List.length_append
                obtain ⟨le, -⟩ := ih ds.length (by simp only [List.length_cons]; omega) tail rfl
                simp only [List.length_cons]
                omega
          · obtain ⟨v, rfl, tail⟩ := (reads_escape_of_ne_nul hc).1 h
            obtain ⟨le, lt⟩ := ih cs.length (Nat.lt_succ_self cs.length) tail rfl
            constructor
            · exact Nat.succ_le_succ le
            · intro before
              rcases nulBefore_cons.1 before with ⟨here, -⟩ | later
              · exact absurd here hc
              · exact Nat.succ_lt_succ (lt later)

/-- A text without a NUL before a digit is read as it was written. -/
theorem reads_encode (departs : DepartsBefore zero digit) {cs : List Char} (rest : List Char)
    (h : ¬ NulBefore digit cs) : Reads zero (encode hidden cs ++ '"' :: rest) cs rest := by
  induction cs with
  | nil => exact .close rest
  | cons c cs ih =>
      rw [nulBefore_cons, not_or] at h
      obtain ⟨notHere, notLater⟩ := h
      have tail := ih notLater
      rw [encode_cons, List.append_assoc]
      by_cases hc : c = '\x00'
      · subst hc
        have noDigit : cs.head?.any digit = false := by simpa using notHere
        rw [← head?_encode_any raw cs rest] at noDigit
        exact reads_escape_nul.2 ⟨_, _, _, departs.nul noDigit, rfl, tail⟩
      · exact (reads_escape_of_ne_nul hc).2 ⟨_, rfl, tail⟩

/-- **The texts that are read as they were written** are those without a NUL before a digit. -/
theorem reads_encode_iff (departs : DepartsBefore zero digit) (cs rest : List Char) :
    (∃ left, Reads zero (encode hidden cs ++ '"' :: rest) cs left) ↔ ¬ NulBefore digit cs := by
  constructor
  · rintro ⟨left, h⟩ before
    exact Nat.lt_irrefl _ ((length_le_of_reads raw departs h).2 before)
  · intro h
    exact ⟨rest, reads_encode raw departs rest h⟩

end Raw

/-! ### The scripts of a locator -/

/-- Digits are written as themselves. -/
theorem escape_of_isDigit {d : Char} (h : d.isDigit = true) : escape isHidden d = [d] := by
  have bounds : 48 ≤ d.toNat ∧ d.toNat ≤ 57 := by
    simpa [Char.isDigit, UInt32.le_iff_toNat_le] using h
  rcases escape_cases isHidden d with ⟨letter, mem, -⟩ | ⟨-, hidden, -⟩ | ⟨-, -, form⟩
  · have noDigit : ∀ p ∈ letterEscapes, p.1.isDigit = false := by decide
    rw [noDigit _ mem] at h
    cases h
  · rw [isHidden_of_ascii (by omega)] at hidden
    cases hidden
  · exact form

theorem isDigit_of_isOctalDigit {d : Char} (h : ZeroRule.isOctalDigit d = true) :
    d.isDigit = true := by
  simp only [ZeroRule.isOctalDigit, Bool.and_eq_true, decide_eq_true_eq, Char.le_def] at h
  simp only [Char.isDigit, Bool.and_eq_true, decide_eq_true_eq]
  exact ⟨h.1, UInt32.le_trans h.2 (by decide)⟩

/-- A literal in a frame without quotes is the first literal of the script. -/
theorem denotes_around_iff {f : Frame} (hf : '"' ∉ f.before.toList) {value v : String} :
    Denotes zero (f.around (quote value)) v ↔
      ∃ left, Reads zero (encode isHidden value.toList ++ '"' :: f.after.toList) v.toList left := by
  have fromQuote : (f.around (quote value)).toList.dropWhile (· ≠ '"') =
      '"' :: (encode isHidden value.toList ++ '"' :: f.after.toList) := dropWhile_around hf value
  constructor
  · rintro ⟨body, left, hbody, reads⟩
    rw [fromQuote, List.cons.injEq] at hbody
    obtain ⟨-, rfl⟩ := hbody
    exact ⟨left, reads⟩
  · rintro ⟨left, reads⟩
    exact ⟨_, left, fromQuote, reads⟩

/-- The first literal of the script denotes the value and nothing else. -/
def DenotesOnly (zero : ZeroRule) (script value : String) : Prop :=
  ∀ v, Denotes zero script v ↔ v = value

theorem denotesOnly_around_iff (departs : DepartsBefore zero digit)
    (digits : ∀ d, digit d = true → d.isDigit = true) {f : Frame} (hf : '"' ∉ f.before.toList)
    {value : String} :
    DenotesOnly zero (f.around (quote value)) value ↔ ¬ NulBefore digit value.toList := by
  rw [DenotesOnly, denotes_exactly_iff, denotes_around_iff hf]
  exact reads_encode_iff (fun d hd => escape_of_isDigit (digits d hd)) departs value.toList _

/-- **When a script carries the value of its locator.** In a strict script the literal denotes the
value, and nothing else, exactly when no NUL in the value stands before a decimal digit. In a script
that admits octal escapes the same holds with octal digits. -/
theorem script_denotes_value_iff (l : Locator) :
    (DenotesOnly .strict l.elementScript l.value ↔ ¬ NulBefore Char.isDigit l.value.toList) ∧
      (DenotesOnly .strict l.countScript l.value ↔ ¬ NulBefore Char.isDigit l.value.toList) ∧
      (DenotesOnly .octal l.elementScript l.value ↔
        ¬ NulBefore ZeroRule.isOctalDigit l.value.toList) ∧
      (DenotesOnly .octal l.countScript l.value ↔
        ¬ NulBefore ZeroRule.isOctalDigit l.value.toList) := by
  have element := Probe.element.quote_not_mem_frame l.grammar
  have count := Probe.count.quote_not_mem_frame l.grammar
  exact ⟨denotesOnly_around_iff strict_departsBefore (fun _ h => h) element,
    denotesOnly_around_iff strict_departsBefore (fun _ h => h) count,
    denotesOnly_around_iff octal_departsBefore (fun _ => isDigit_of_isOctalDigit) element,
    denotesOnly_around_iff octal_departsBefore (fun _ => isDigit_of_isOctalDigit) count⟩

/-- The value of a NUL and a one is lost: a strict script has no such literal, and any other script
reads the character with code point 1. -/
theorem nul_before_digit_misread :
    (∀ v, ¬ Denotes .strict (Locator.elementScript ⟨.css, "\x001"⟩) v) ∧
      Denotes .octal (Locator.elementScript ⟨.css, "\x001"⟩) "\x01" := by
  have literal : (Locator.elementScript ⟨.css, "\x001"⟩).toList.dropWhile (· ≠ '"') =
      '"' :: ['\\', '0', '1', '"', ')'] := by decide +kernel
  constructor
  · rintro v ⟨body, rest, hbody, reads⟩
    rw [literal, List.cons.injEq] at hbody
    obtain ⟨-, rfl⟩ := hbody
    generalize v.toList = w at reads
    cases reads with
    | unit head _ => simp [unit?, escaped?, ZeroRule.strict] at head
  · exact ⟨_, [')'], literal, .unit rfl (.close [')'])⟩

end DomQuery.Script
