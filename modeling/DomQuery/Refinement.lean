/-!
The steps by which the description of an element grows.

A step either says more about the element reached so far (`Qualifier`) or moves on to an element
inside it (`Descent`). Steps are plain values: a list of them is a recorded description, which can
be stored and applied again.
-/

namespace DomQuery

/-- A condition on the element reached so far. Positions count from 1. -/
inductive Qualifier where
  | hasId (id : String)
  | hasClass (name : String)
  | lacksClass (name : String)
  | hasAnyClass (names : List String)
  | hasAttribute (name : String)
  | lacksAttribute (name : String)
  | attributeContains (name part : String)
  | attributeIs (name value : String)
  | textIs (text : String)
  | textContains (part : String)
  /-- The content reads as a number. -/
  | isNumeric
  | isEmpty
  | isChecked
  /-- The position among all siblings. -/
  | isNth (position : UInt32)
  /-- The position among the siblings with the same tag. -/
  | isNthOfType (position : UInt32)
  deriving DecidableEq, Repr

/-- A move to an element inside the one reached so far. -/
inductive Descent where
  | anyInside
  | inside (tag : String)
  | child (tag : String)
  deriving DecidableEq, Repr

/-- One step of a description. -/
inductive Refinement where
  | qualify (condition : Qualifier)
  | descend (move : Descent)
  deriving DecidableEq, Repr

namespace Refinement

instance : Coe Qualifier Refinement := ⟨qualify⟩
instance : Coe Descent Refinement := ⟨descend⟩

/-- Whether the step leaves the element reached so far. -/
def isDescent : Refinement → Bool
  | qualify _ => false
  | descend _ => true

/-- The steps to an element inside that has the id. -/
def insideWithId (id : String) : List Refinement := [Descent.anyInside, Qualifier.hasId id]

/-- The steps to an element inside that has the class. -/
def insideWithClass (name : String) : List Refinement :=
  [Descent.anyInside, Qualifier.hasClass name]

end Refinement
end DomQuery
