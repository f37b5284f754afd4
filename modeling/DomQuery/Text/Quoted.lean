import DomQuery.Text.Hidden

/-!
Texts as double-quoted literals.

A character is written in one of three ways: six of them as a backslash and a letter, a hidden
one by its code point in braces, any other as itself. Which characters count as hidden is a
parameter of `escape` and `encode`; `quote` takes the tabulated class. Main statement:
`escape_ne_nil`, no character is lost.
-/

namespace DomQuery.Text

/-! ### One character -/

/-- The characters written as a backslash and a letter, with their letters. -/
def letterEscapes : List (Char × Char) :=
  [('"', '"'), ('\\', '\\'), ('\t', 't'), ('\n', 'n'), ('\r', 'r'), ('\x00', '0')]

/-- A code point in braces, in lower-case hexadecimal without leading zeros. -/
def codePointEscape (c : Char) : List Char :=
  ['\\', 'u', '\x7b'] ++ Nat.toDigits 16 c.toNat ++ ['\x7d']

/-- A character as it is written inside a literal. -/
def escape (hidden : Char → Bool) (c : Char) : List Char :=
  match letterEscapes.lookup c with
  | some letter => ['\\', letter]
  | none => if hidden c then codePointEscape c else [c]

theorem escape_ne_nil (hidden : Char → Bool) (c : Char) : escape hidden c ≠ [] := by
  unfold escape codePointEscape
  split
  · simp
  · split <;> simp

/-! ### A whole text -/

/-- A text as it is written inside a literal. -/
def encode (hidden : Char → Bool) (cs : List Char) : List Char := cs.flatMap (escape hidden)

@[simp] theorem encode_nil (hidden : Char → Bool) : encode hidden [] = [] := rfl

@[simp] theorem encode_cons (hidden : Char → Bool) (c : Char) (cs : List Char) :
    encode hidden (c :: cs) = escape hidden c ++ encode hidden cs := rfl

/-- The literal of a text, for a chosen class of hidden characters. -/
def quoteWith (hidden : Char → Bool) (s : String) : String :=
  "\"" ++ String.ofList (encode hidden s.toList) ++ "\""

/-- The literal of a text. -/
def quote (s : String) : String := quoteWith isHidden s

theorem toList_quoteWith (hidden : Char → Bool) (s : String) :
    (quoteWith hidden s).toList = '"' :: encode hidden s.toList ++ ['"'] := by
  simp [quoteWith]

end DomQuery.Text
