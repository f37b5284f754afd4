import DomQuery.Text.Quoted

/-!
How a character can be written inside a literal.

* `escape_cases`: every escape has one of three forms, and the character decides which. All that is
  said of literals elsewhere goes through these cases.
* `mem_codePointEscape`: the characters that a code point is written with.
* `isHidden_of_ascii`: the printable ASCII characters are not hidden.
-/

namespace DomQuery.Text

/-! ### Digits -/

/-- A digit of a number in base `b` is written with one of the first `b` digit characters. -/
theorem exists_digitChar_of_mem_toDigits {b n : Nat} (hb : 1 < b) {d : Char}
    (h : d ∈ Nat.toDigits b n) : ∃ k < b, d = Nat.digitChar k := by
  induction n using Nat.strongRecOn with
  | ind n ih =>
      rw [Nat.toDigits_eq_if hb] at h
      split at h
      · rename_i small
        exact ⟨n, small, List.mem_singleton.1 h⟩
      · rename_i large
        rcases List.mem_append.1 h with front | last
        · exact ih (n / b) (Nat.div_lt_self (by omega) hb) front
        · exact ⟨n % b, Nat.mod_lt n (by omega), List.mem_singleton.1 last⟩

/-- The sixteen hexadecimal digits, as they are written. -/
def hexDigits : List Char :=
  ['0', '1', '2', '3', '4', '5', '6', '7', '8', '9', 'a', 'b', 'c', 'd', 'e', 'f']

theorem mem_hexDigits_of_mem_toDigits {n : Nat} {d : Char} (h : d ∈ Nat.toDigits 16 n) :
    d ∈ hexDigits := by
  obtain ⟨k, hk, rfl⟩ := exists_digitChar_of_mem_toDigits (by decide) h
  have all : ∀ k < 16, Nat.digitChar k ∈ hexDigits := by decide
  exact all k hk

/-! ### Forms of an escape -/

variable {hidden : Char → Bool}

/-- The character is not written with a letter. -/
def Unlettered (c : Char) : Prop := ∀ p ∈ letterEscapes, c ≠ p.1

theorem Unlettered.ne {c : Char} (hc : Unlettered c) :
    c ≠ '"' ∧ c ≠ '\\' ∧ c ≠ '\t' ∧ c ≠ '\n' ∧ c ≠ '\r' ∧ c ≠ '\x00' := by
  simpa [Unlettered, letterEscapes] using hc

/-- A character has a letter, or has none and is hidden, or has none and stands for itself. -/
theorem escape_cases (hidden : Char → Bool) (c : Char) :
    (∃ letter, (c, letter) ∈ letterEscapes ∧ escape hidden c = ['\\', letter]) ∨
      (Unlettered c ∧ hidden c = true ∧ escape hidden c = codePointEscape c) ∨
      (Unlettered c ∧ hidden c = false ∧ escape hidden c = [c]) := by
  cases h : letterEscapes.lookup c with
  | some letter =>
      obtain ⟨front, back, split, -⟩ := List.lookup_eq_some_iff.1 h
      refine .inl ⟨letter, ?_, by simp [escape, h]⟩
      rw [split]
      exact List.mem_append_right front List.mem_cons_self
  | none =>
      have unlettered : Unlettered c := by
        intro p mem
        simpa using List.lookup_eq_none_iff.1 h p mem
      cases hc : hidden c with
      | true => exact .inr (.inl ⟨unlettered, rfl, by simp [escape, h, hc]⟩)
      | false => exact .inr (.inr ⟨unlettered, rfl, by simp [escape, h, hc]⟩)

/-- A code point is written with a backslash, the letter `u`, braces and hexadecimal digits. -/
theorem mem_codePointEscape {c d : Char} (h : d ∈ codePointEscape c) :
    d ∈ ['\\', 'u', '\x7b', '\x7d'] ++ hexDigits := by
  rw [codePointEscape, List.append_assoc, List.mem_append, List.mem_append] at h
  rcases h with opening | digit | closing
  · exact List.mem_append_left hexDigits (List.mem_append_left ['\x7d'] opening)
  · exact List.mem_append_right _ (mem_hexDigits_of_mem_toDigits digit)
  · exact List.mem_append_left hexDigits (List.mem_append_right ['\\', 'u', '\x7b'] closing)

/-! ### The tabulated class -/

/-- No range of the class holds a printable ASCII character. -/
def CharClass.BeyondAscii (k : CharClass) : Prop := ∀ r ∈ k.ranges, r.2 < 0x20 ∨ 0x7E < r.1

instance (k : CharClass) : Decidable k.BeyondAscii :=
  inferInstanceAs (Decidable (∀ r ∈ k.ranges, _))

theorem CharClass.BeyondAscii.contains_eq_false {k : CharClass} (hk : k.BeyondAscii) {c : Char}
    (hc : 0x20 ≤ c.toNat ∧ c.toNat ≤ 0x7E) : k.contains c = false := by
  rw [← Bool.not_eq_true, CharClass.contains_iff]
  rintro ⟨r, mem, low, high⟩
  rcases hk r mem with below | above <;> omega

theorem isHidden_of_ascii {c : Char} (hc : 0x20 ≤ c.toNat ∧ c.toNat ≤ 0x7E) :
    isHidden c = false := by
  have h₁ : unprintable.BeyondAscii := by decide +kernel
  have h₂ : extenders.BeyondAscii := by decide +kernel
  have h₃ : ignorables.BeyondAscii := by decide +kernel
  simp [isHidden, h₁.contains_eq_false hc, h₂.contains_eq_false hc, h₃.contains_eq_false hc]

end DomQuery.Text
