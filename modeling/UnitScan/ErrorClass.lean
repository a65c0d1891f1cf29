/-!
# Error classes

The errors of the library form a tree of classes. A handler for a class also handles the
classes below it.
-/

namespace UnitScan

/-- The classes of errors. -/
inductive ErrorClass
  /-- Any error of the library. -/
  | general
  /-- Something in a text could not be read. -/
  | lexical
  /-- More lexical errors were found than are kept. -/
  | tooManyErrors
  /-- A stream of tokens stopped before its end. -/
  | tokenStream
  /-- A setting has no meaning. -/
  | configuration
  /-- The settings of a policy contradict each other. -/
  | policy
  deriving DecidableEq, Repr

namespace ErrorClass

/-- All classes. -/
def all : List ErrorClass := [general, lexical, tooManyErrors, tokenStream, configuration, policy]

/-- The class right above a class. -/
def parent? : ErrorClass → Option ErrorClass
  | general => none
  | lexical | tokenStream | configuration => some general
  | tooManyErrors => some lexical
  | policy => some configuration

/-- How far a class is below the class of all errors. -/
def depth : ErrorClass → Nat
  | general => 0
  | lexical | tokenStream | configuration => 1
  | tooManyErrors | policy => 2

theorem depth_parent?_lt {c d : ErrorClass} (h : c.parent? = some d) : d.depth < c.depth := by
  cases c <;> cases h <;> decide

/-- A class and the classes above it, nearest first. -/
def ancestors (c : ErrorClass) : List ErrorClass :=
  match _h : c.parent? with
  | none => [c]
  | some d => c :: d.ancestors
termination_by c.depth
decreasing_by exact depth_parent?_lt _h

/-- Whether a class is another one or below it. -/
def isA (c d : ErrorClass) : Bool := c.ancestors.contains d

end ErrorClass

end UnitScan
