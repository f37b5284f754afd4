import DomQuery.Proofs.Text.Escape

/-!
What a script reads in the literal of a locator.

A script reads its literals by a grammar of its own. It takes every escape for the character that
was written, with one exception: a zero after a backslash is the character NUL only as long as no
digit follows. What it is otherwise is the script's `ZeroRule`: an error in strict scripts, and the
start of an octal escape in the others.

* `Reads.unique`: a text is read in one way only.
* `unit?_escape`: an escape is read as the character it was written for, apart from a NUL.
-/

namespace DomQuery.Script

open Text

/-! ### Code points -/

/-- The value of a hexadecimal digit, in either case. -/
def hexDigit? (d : Char) : Option Nat :=
  if '0' ≤ d ∧ d ≤ '9' then some (d.toNat - '0'.toNat)
  else if 'a' ≤ d ∧ d ≤ 'f' then some (d.toNat - 'a'.toNat + 10)
  else if 'A' ≤ d ∧ d ≤ 'F' then some (d.toNat - 'A'.toNat + 10)
  else none

/-- The number that hexadecimal digits stand for, after the number read so far. -/
def hexNumber? : Nat → List Char → Option Nat
  | n, [] => some n
  | n, d :: ds => (hexDigit? d).bind fun k => hexNumber? (16 * n + k) ds

/-- The character with the code point. Surrogates have none. -/
def codePoint? (digits : List Char) : Option Char :=
  if digits = [] then none
  else (hexNumber? 0 digits).bind fun n => if n.isValidChar then some (Char.ofNat n) else none

theorem hexNumber?_append (n : Nat) (ds es : List Char) :
    hexNumber? n (ds ++ es) = (hexNumber? n ds).bind fun m => hexNumber? m es := by
  induction ds generalizing n with
  | nil => rfl
  | cons d ds ih =>
      cases h : hexDigit? d with
      | none => simp [hexNumber?, h]
      | some k => simp [hexNumber?, h, ih]

theorem hexDigit?_digitChar {k : Nat} (hk : k < 16) : hexDigit? (Nat.digitChar k) = some k := by
  have all : ∀ k < 16, hexDigit? (Nat.digitChar k) = some k := by decide
  exact all k hk

/-- A number is read back from its digits. -/
theorem hexNumber?_toDigits (n : Nat) : hexNumber? 0 (Nat.toDigits 16 n) = some n := by
  induction n using Nat.strongRecOn with
  | ind n ih =>
      rw [Nat.toDigits_eq_if (by decide)]
      split
      · rename_i small
        simp [hexNumber?, hexDigit?_digitChar small]
      · rename_i large
        have last : hexDigit? (Nat.digitChar (n % 16)) = some (n % 16) :=
          hexDigit?_digitChar (Nat.mod_lt n (by decide))
        rw [hexNumber?_append, ih (n / 16) (Nat.div_lt_self (by omega) (by decide))]
        simp only [Option.bind_some, hexNumber?, last, Option.some.injEq]
        omega

theorem codePoint?_toDigits (c : Char) : codePoint? (Nat.toDigits 16 c.toNat) = some c := by
  have valid : c.toNat.isValidChar := c.valid
  simp [codePoint?, hexNumber?_toDigits, valid]

/-! ### The grammar of a literal -/

/-- What a script takes a zero after a backslash for, given the text that follows it: a character
and the text that is left. -/
abbrev ZeroRule := List Char → Option (Char × List Char)

/-- The other letters that stand for a character after a backslash. -/
def letters : List (Char × Char) :=
  [('"', '"'), ('\\', '\\'), ('t', '\t'), ('n', '\n'), ('r', '\r')]

/-- A code point in braces, after the letter `u`. -/
def braced? : List Char → Option (Char × List Char)
  | [] => none
  | c :: cs =>
    if c = '\x7b' then
      match cs.dropWhile (· ≠ '\x7d') with
      | [] => none
      | _ :: rest => (codePoint? (cs.takeWhile (· ≠ '\x7d'))).map (·, rest)
    else none

def escaped? (zero : ZeroRule) : List Char → Option (Char × List Char)
  | [] => none
  | c :: cs =>
    if c = '0' then zero cs
    else if c = 'u' then braced? cs
    else (letters.lookup c).map (·, cs)

/-- The first character of what a literal denotes, and the text after it. A quote and the two line
ends are no part of a literal. -/
def unit? (zero : ZeroRule) : List Char → Option (Char × List Char)
  | [] => none
  | c :: cs =>
    if c = '\\' then escaped? zero cs
    else if c = '"' ∨ c = '\n' ∨ c = '\r' then none
    else some (c, cs)

/-- `Reads zero cs value rest`: from the text `cs` after an opening quote, `value` is read up to the
closing quote, and `rest` is left. -/
inductive Reads (zero : ZeroRule) : List Char → List Char → List Char → Prop where
  | close (rest : List Char) : Reads zero ('"' :: rest) [] rest
  | unit {cs left value rest : List Char} {c : Char} (head : unit? zero cs = some (c, left))
      (tail : Reads zero left value rest) : Reads zero cs (c :: value) rest

/-- The first literal of the script denotes the value. -/
def Denotes (zero : ZeroRule) (script value : String) : Prop :=
  ∃ body rest, script.toList.dropWhile (· ≠ '"') = '"' :: body ∧
    Reads zero body value.toList rest

/-- A text is read in one way only. -/
theorem Reads.unique {zero : ZeroRule} {cs v w r s : List Char} (hv : Reads zero cs v r)
    (hw : Reads zero cs w s) : v = w := by
  induction hv generalizing w with
  | close rest =>
      cases hw with
      | close => rfl
      | unit head _ => simp [unit?] at head
  | unit head _ ih =>
      cases hw with
      | close => simp [unit?] at head
      | unit head' tail' =>
          rw [head, Option.some.injEq, Prod.mk.injEq] at head'
          obtain ⟨rfl, rfl⟩ := head'
          rw [ih tail']

theorem Denotes.unique {zero : ZeroRule} {script v w : String} (hv : Denotes zero script v)
    (hw : Denotes zero script w) : v = w := by
  obtain ⟨body, r, hbody, readsV⟩ := hv
  obtain ⟨body', s, hbody', readsW⟩ := hw
  rw [hbody, List.cons.injEq] at hbody'
  obtain ⟨-, rfl⟩ := hbody'
  exact String.toList_inj.1 (readsV.unique readsW)

/-- What is denoted at all is denoted exactly. -/
theorem denotes_exactly_iff {zero : ZeroRule} {script value : String} :
    (∀ v, Denotes zero script v ↔ v = value) ↔ Denotes zero script value := by
  constructor
  · intro h
    exact (h value).2 rfl
  · intro h v
    constructor
    · intro hv
      exact hv.unique h
    · rintro rfl
      exact h

/-! ### Reading an escape -/

theorem braced?_toDigits (c : Char) (rest : List Char) :
    braced? ('\x7b' :: Nat.toDigits 16 c.toNat ++ '\x7d' :: rest) = some (c, rest) := by
  have noBrace : ∀ d ∈ Nat.toDigits 16 c.toNat, decide (d ≠ '\x7d') = true := by
    intro d hd
    have all : ∀ d ∈ hexDigits, d ≠ '\x7d' := by simp [hexDigits]
    exact decide_eq_true (all d (mem_hexDigits_of_mem_toDigits hd))
  simp only [List.cons_append, braced?, if_true, List.dropWhile_append_of_pos noBrace,
    List.takeWhile_append_of_pos noBrace]
  simp [codePoint?_toDigits]

/-- **Every escape is read as the character it was written for**, except that a NUL is left to the
rule of the script. -/
theorem unit?_escape (hidden : Char → Bool) (zero : ZeroRule) (c : Char) (rest : List Char) :
    unit? zero (escape hidden c ++ rest) =
      if c = '\x00' then zero rest else some (c, rest) := by
  rcases escape_cases hidden c with
    ⟨letter, mem, form⟩ | ⟨unlettered, -, form⟩ | ⟨unlettered, -, form⟩
  · rw [form]
    simp only [letterEscapes, List.mem_cons, Prod.mk.injEq, List.not_mem_nil, or_false] at mem
    rcases mem with ⟨rfl, rfl⟩ | ⟨rfl, rfl⟩ | ⟨rfl, rfl⟩ | ⟨rfl, rfl⟩ | ⟨rfl, rfl⟩ | ⟨rfl, rfl⟩
    all_goals rfl
  · obtain ⟨-, -, -, -, -, notNul⟩ := unlettered.ne
    rw [form, codePointEscape, if_neg notNul, ← braced?_toDigits c rest]
    simp [unit?, escaped?]
  · obtain ⟨notQuote, notSlash, -, notLine, notReturn, notNul⟩ := unlettered.ne
    simp [form, unit?, notNul, notSlash, notQuote, notLine, notReturn]

end DomQuery.Script
