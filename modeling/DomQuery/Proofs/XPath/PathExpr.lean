import DomQuery.Text.CharClass

/-!
Expressions as they may be given.

An expression is a path, or a path in parentheses, which conditions may narrow and a path may
continue. Names are those of XML, and a condition is any text, not empty, in which brackets,
parentheses and quotation marks are closed.

Expressions are syntax trees with a text. So the path at the end of an expression is put there by a
function on trees (`PathExpr.continued`), and `PathExpr.text_continued` says that it only writes the
path after the expression.
-/

namespace DomQuery.XPath

open Text

/-! ### Names -/

/-- The characters a name may begin with. -/
def nameStarts : CharClass where
  ranges :=
    [(0x3A, 0x3A), (0x41, 0x5A), (0x5F, 0x5F), (0x61, 0x7A), (0xC0, 0xD6), (0xD8, 0xF6),
     (0xF8, 0x2FF), (0x370, 0x37D), (0x37F, 0x1FFF), (0x200C, 0x200D), (0x2070, 0x218F),
     (0x2C00, 0x2FEF), (0x3001, 0xD7FF), (0xF900, 0xFDCF), (0xFDF0, 0xFFFD), (0x10000, 0xEFFFF)]

/-- The characters a name may go on with: hyphens, dots, digits and combining marks as well. -/
def nameChars : CharClass where
  ranges :=
    nameStarts.ranges ++
      [(0x2D, 0x2E), (0x30, 0x39), (0xB7, 0xB7), (0x300, 0x36F), (0x203F, 0x2040)]

/-- A name of an element. -/
structure Name where
  first : Char
  rest : List Char
  first_starts : nameStarts.contains first = true
  rest_continues : ∀ c ∈ rest, nameChars.contains c = true

def Name.text (n : Name) : String := String.ofList (n.first :: n.rest)

/-! ### Conditions -/

/-- The characters that open or close something. -/
def signs : List Char := ['\'', '"', '(', ')', '[', ']']

/-- Brackets, parentheses and quotation marks are closed in the order in which they are opened. What
stands between quotation marks does not count. -/
inductive IsClosed : List Char → Prop where
  | nil : IsClosed []
  | cons {c : Char} {rest : List Char} (hc : c ∉ signs) (hr : IsClosed rest) : IsClosed (c :: rest)
  | literal {quote : Char} {inside rest : List Char} (hq : quote = '\'' ∨ quote = '"')
      (hi : quote ∉ inside) (hr : IsClosed rest) : IsClosed (quote :: (inside ++ quote :: rest))
  | nested {opening closing : Char} {inside rest : List Char}
      (ho : opening = '(' ∧ closing = ')' ∨ opening = '[' ∧ closing = ']') (hi : IsClosed inside)
      (hr : IsClosed rest) : IsClosed (opening :: (inside ++ closing :: rest))

/-- What stands in brackets. -/
structure Condition where
  text : String
  ne_empty : text ≠ ""
  isClosed : IsClosed text.toList

def Condition.bracketed (c : Condition) : String := "[" ++ c.text ++ "]"

/-! ### Paths and expressions -/

/-- A step goes to children, or to anything inside. -/
inductive Separator where
  | child
  | inside
  deriving DecidableEq, Repr

def Separator.text : Separator → String
  | child => "/"
  | inside => "//"

inductive NodeTest where
  | any
  | named (name : Name)

def NodeTest.text : NodeTest → String
  | any => "*"
  | named name => name.text

structure LocationStep where
  separator : Separator
  test : NodeTest
  conditions : List Condition

/-- Location steps, at least one. -/
structure LocationPath where
  first : LocationStep
  rest : List LocationStep

/-- A path, or a path in parentheses with what follows it. -/
inductive PathExpr where
  | path (path : LocationPath)
  | grouped (inside : LocationPath) (conditions : List Condition) (onward : Option LocationPath)

def bracketedAll (cs : List Condition) : String := String.join (cs.map Condition.bracketed)

def LocationStep.text (s : LocationStep) : String :=
  s.separator.text ++ s.test.text ++ bracketedAll s.conditions

namespace LocationPath

def text (p : LocationPath) : String :=
  p.first.text ++ String.join (p.rest.map LocationStep.text)

def append (p q : LocationPath) : LocationPath := ⟨p.first, p.rest ++ q.first :: q.rest⟩

theorem text_append (p q : LocationPath) : (p.append q).text = p.text ++ q.text := by
  simp [append, text, String.join_append, String.append_assoc]

end LocationPath

namespace PathExpr

def text : PathExpr → String
  | path p => p.text
  | grouped inside conditions onward =>
    "(" ++ inside.text ++ ")" ++ bracketedAll conditions ++ (onward.map LocationPath.text).getD ""

/-- The expression with a path after it. -/
def continued : PathExpr → LocationPath → PathExpr
  | path p, q => path (p.append q)
  | grouped inside conditions none, q => grouped inside conditions (some q)
  | grouped inside conditions (some p), q => grouped inside conditions (some (p.append q))

theorem text_continued (e : PathExpr) (q : LocationPath) :
    (e.continued q).text = e.text ++ q.text := by
  cases e with
  | path p => exact p.text_append q
  | grouped inside conditions onward =>
      cases onward with
      | none => simp [continued, text]
      | some p => simp [continued, text, LocationPath.text_append, String.append_assoc]

end PathExpr

/-- The text of a path. -/
def IsLocationPath (text : String) : Prop := ∃ p : LocationPath, p.text = text

/-- The text of an expression. -/
def IsPathExpr (text : String) : Prop := ∃ e : PathExpr, e.text = text

end DomQuery.XPath
