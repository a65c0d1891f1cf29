import UnitScan.Character.Numeric
import UnitScan.Operator
import UnitScan.Text.Layout
import UnitScan.Text.Quoted

/-!
# Policies

A policy fixes what varies between dialects of definitions files: which symbols belong to
identifiers, what opens a comment, which characters are blanks, and whether a backslash joins
a line to the next one. Letters always belong to identifiers, and digits always continue them.

`Policy.Settings` are the choices as they are made, and `Settings.fault?` is the first thing
that is wrong with them. A `Policy` is made of settings without a fault.

## Implementation notes

The checks are made in a fixed order, and only the first fault is reported. A comment marker
that may start an identifier is no fault as long as it cannot continue one, and a blank may be
an operator, a digit or a letter; the scanner skips blanks and comments before it looks at
anything else.
-/

namespace UnitScan

namespace Policy

/-- The choices that a policy is made of. -/
structure Settings where
  /-- The characters besides the letters that start an identifier. -/
  starters : String := "_%'\"$"
  /-- The characters besides letters and digits that continue an identifier. -/
  joiners : String := "_%'\"$."
  /-- What opens a comment, which runs to the end of its line. -/
  comment : Option String := some "#"
  /-- Whether a backslash before a newline is skipped together with the newline. -/
  continuation : Bool := true
  /-- The characters that are skipped between tokens. -/
  blanks : String := " \t\r"
  deriving DecidableEq, Repr

/-- What can be wrong with the settings of a policy. -/
inductive Fault
  /-- The newline is among the blanks. -/
  | newlineIsBlank
  /-- The comment marker is not one character. -/
  | commentNotSingle (comment : String)
  /-- Operators are used in identifiers or as the comment marker. -/
  | operatorReused (chars : List Char)
  /-- Blanks are used in identifiers or as the comment marker. -/
  | blankReused (chars : List Char)
  /-- A digit starts identifiers. -/
  | digitStartsIdent
  /-- The comment marker continues identifiers. -/
  | commentContinuesIdent (comment : String)
  deriving DecidableEq, Repr

/-- What a fault is reported as. -/
def Fault.message : Fault → String
  | newlineIsBlank => "newline is significant and cannot be whitespace"
  | commentNotSingle comment =>
    "comment marker must be a single character, got " ++ Text.quoted comment
  | operatorReused chars =>
    "characters " ++ Text.quoted (String.ofList chars) ++
      " are operators and cannot be identifier or comment characters"
  | blankReused chars =>
    "whitespace characters " ++ Text.quoted (String.ofList chars) ++ " cannot be reused"
  | digitStartsIdent => "digits start numbers and cannot start identifiers"
  | commentContinuesIdent comment =>
    "comment marker " ++ Text.quoted comment ++ " is also an identifier character"

namespace Settings

/-- The characters of the comment marker. -/
def commentChars (s : Settings) : List Char := s.comment.elim [] String.toList

/-- The characters that the settings give a meaning in identifiers or comments. -/
def special (s : Settings) : List Char :=
  s.starters.toList ++ s.joiners.toList ++ s.commentChars

/-- The special characters with a property, each once, in ascending order. -/
def clashes (s : Settings) (property : Char → Bool) : List Char :=
  (s.special.filter property).eraseDups.mergeSort

/-- The newline must not be a blank. -/
def newlineFault? (s : Settings) : Option Fault :=
  if '\n' ∈ s.blanks.toList then some .newlineIsBlank else none

/-- A comment marker must be one character. -/
def commentFault? (s : Settings) : Option Fault :=
  s.comment.bind fun m => if m.length = 1 then none else some (.commentNotSingle m)

/-- No special character may be an operator. -/
def operatorFault? (s : Settings) : Option Fault :=
  if s.special.any Operator.isChar then some (.operatorReused (s.clashes Operator.isChar))
  else none

/-- Whether a character ends a line or is skipped between tokens. -/
def separates (s : Settings) (c : Char) : Bool := c = '\n' || s.blanks.toList.contains c

/-- No special character may be a blank or the newline. -/
def blankFault? (s : Settings) : Option Fault :=
  if s.special.any s.separates then some (.blankReused (s.clashes s.separates)) else none

/-- No digit may start an identifier. -/
def digitFault? (s : Settings) : Option Fault :=
  if s.starters.toList.any Character.isDigit then some .digitStartsIdent else none

/-- Whether a character continues an identifier or is a numeral. -/
def reservedFromComment (s : Settings) (c : Char) : Bool :=
  Character.isAlphanumeric c || s.joiners.toList.contains c

/-- The comment marker must not continue an identifier. -/
def markerFault? (s : Settings) : Option Fault :=
  s.comment.bind fun m =>
    if m.toList.any s.reservedFromComment then some (.commentContinuesIdent m) else none

/-- The first fault of the settings, if they have one. -/
def fault? (s : Settings) : Option Fault :=
  s.newlineFault?.or <| s.commentFault?.or <| s.operatorFault?.or <| s.blankFault?.or <|
    s.digitFault?.or s.markerFault?

end Settings

end Policy

/-- The choices of a policy, free of faults. -/
structure Policy where
  settings : Policy.Settings
  faultless : settings.fault? = none

namespace Policy

/-- The policy of the settings, unless they have a fault. -/
def Settings.accept (s : Settings) : Except Fault Policy :=
  match h : s.fault? with
  | none => .ok ⟨s, h⟩
  | some fault => .error fault

/-- The policy of standard definitions files. -/
def standard : Policy := ⟨{}, by decide⟩

theorem Settings.accept_eq_ok_iff {s : Settings} {p : Policy} :
    s.accept = .ok p ↔ p.settings = s := by
  unfold Settings.accept
  split
  · constructor
    · intro h
      cases h
      rfl
    · rintro rfl
      rfl
  · next fault h =>
    constructor
    · intro hok
      cases hok
    · rintro rfl
      rw [p.faultless] at h
      cases h

theorem Settings.accept_eq_error_iff {s : Settings} {fault : Fault} :
    s.accept = .error fault ↔ s.fault? = some fault := by
  unfold Settings.accept
  split <;> simp_all

/-! ### Classes of characters -/

/-- The character that opens a comment, if there are comments. -/
def marker (p : Policy) : Option Char := p.settings.commentChars.head?

/-- Whether a character may start an identifier. -/
def startsIdent (p : Policy) (c : Char) : Bool :=
  Character.isLetter c || p.settings.starters.toList.contains c

/-- Whether a character may continue an identifier. -/
def continuesIdent (p : Policy) (c : Char) : Bool :=
  Character.isLetter c || Character.isDigit c || p.settings.joiners.toList.contains c

/-- Whether a character is skipped between tokens. -/
def isBlank (p : Policy) (c : Char) : Bool := p.settings.blanks.toList.contains c

/-! ### Classes of texts

The classes extend to texts. A text of one character is in a class exactly when its character
is. A longer one is in it when all its characters are letters, or all of them digits, or when
it stands as it is among the extra characters, as the empty text always does.
-/

/-- Whether a text is not empty and has a property throughout. -/
def allOf (property : Char → Bool) (text : List Char) : Bool :=
  !text.isEmpty && text.all property

/-- Whether a text may start an identifier. -/
def startsIdentText (p : Policy) (text : List Char) : Bool :=
  allOf Character.isLetter text || Text.occursIn text p.settings.starters.toList

/-- Whether a text may continue an identifier. -/
def continuesIdentText (p : Policy) (text : List Char) : Bool :=
  allOf Character.isLetter text || allOf Character.isDigit text ||
    Text.occursIn text p.settings.joiners.toList

/-- Whether a text stands among the blanks. -/
def isBlankText (p : Policy) (text : List Char) : Bool :=
  Text.occursIn text p.settings.blanks.toList

theorem startsIdentText_singleton (p : Policy) (c : Char) :
    p.startsIdentText [c] = p.startsIdent c := by
  simp [startsIdentText, startsIdent, allOf, Text.occursIn_singleton]

theorem continuesIdentText_singleton (p : Policy) (c : Char) :
    p.continuesIdentText [c] = p.continuesIdent c := by
  simp [continuesIdentText, continuesIdent, allOf, Text.occursIn_singleton]

theorem isBlankText_singleton (p : Policy) (c : Char) :
    p.isBlankText [c] = p.isBlank c :=
  Text.occursIn_singleton c _

end Policy

end UnitScan
