/-!
# Terminal escape codes

A terminal escape code is an escape character, an opening bracket, a run of parameter
characters, a run of intermediate characters and one final character. The three kinds are
disjoint ranges of ASCII, so a text begins with at most one code, and a code that is cut short
is ordinary text. A command takes the codes out of a text before it prints it, in one pass: two
pieces that meet where a code was taken out may form a new one, which stays.

## Implementation notes

What counts as a code is up to the terminal library that prints the texts. This is the general form
of a control sequence. The codes that set colours are narrower: their parameters are digits, `;` and
`?`, nothing stands between these and the end, and they end in a letter. No result about printed
texts depends on the difference; what they use is `FiltersLines`.
-/

namespace UnitScan.Text

/-- Whether a character is a parameter of an escape code: a digit or one of `:;<=>?`. -/
def isCodeParameter (c : Char) : Bool := '0' ≤ c && c ≤ '?'

/-- Whether a character may stand between the parameters and the end of an escape code: a space
or one of the fifteen marks after it. -/
def isCodeIntermediate (c : Char) : Bool := ' ' ≤ c && c ≤ '/'

/-- Whether a character ends an escape code: an ASCII letter or a mark from `@` to `~`. -/
def isCodeFinal (c : Char) : Bool := '@' ≤ c && c ≤ '~'

/-- What follows the escape code that a text begins with, if it begins with one. -/
def afterEscapeCode? : List Char → Option (List Char)
  | '\x1b' :: '[' :: body =>
    match (body.dropWhile isCodeParameter).dropWhile isCodeIntermediate with
    | last :: rest => if isCodeFinal last then some rest else none
    | [] => none
  | _ => none

theorem length_afterEscapeCode?_lt {text rest : List Char}
    (h : afterEscapeCode? text = some rest) : rest.length < text.length := by
  unfold afterEscapeCode? at h
  split at h
  · next body =>
    have hle := ((List.dropWhile_suffix (l := body.dropWhile isCodeParameter)
      isCodeIntermediate).trans (List.dropWhile_suffix isCodeParameter)).length_le
    split at h
    · next last tail heq =>
      rw [heq] at hle
      split at h
      · cases h
        simp only [List.length_cons] at hle ⊢
        omega
      · cases h
    · cases h
  · cases h

/-- A text without its escape codes, removed from the left. -/
def withoutEscapeCodes (text : List Char) : List Char :=
  match _h : afterEscapeCode? text with
  | some rest => withoutEscapeCodes rest
  | none =>
    match text with
    | [] => []
    | c :: rest => c :: withoutEscapeCodes rest
termination_by text.length
decreasing_by
  · exact length_afterEscapeCode?_lt _h
  · simp

end UnitScan.Text
