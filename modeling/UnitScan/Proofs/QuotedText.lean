import UnitScan.Text.Quoted
import Mathlib.Algebra.Group.Nat.Defs
import Mathlib.Logic.Function.Basic

/-!
# Quoted text is read back

Different texts have different quoted forms, and a quoted form stands on one line. The quotes
tell which quote the text was put between. From there on `readChar` takes the characters off one by
one: the letter behind a backslash says how many digits belong to the escape.
-/

namespace UnitScan.Text

/-! ### Hexadecimal digits -/

/-- The value of a lower-case hexadecimal digit. -/
def hexDigitValue (c : Char) : Nat := if c.toNat < 58 then c.toNat - 48 else c.toNat - 87

/-- The number that a run of hexadecimal digits writes. -/
def hexValue (digits : List Char) : Nat :=
  digits.foldl (fun value digit => 16 * value + hexDigitValue digit) 0

theorem hexDigitValue_hexDigit : ∀ d < 16, hexDigitValue (hexDigit d) = d := by decide

theorem hexDigit_ne_newline : ∀ d < 16, hexDigit d ≠ '\n' := by decide

theorem hexValue_append_singleton (digits : List Char) (digit : Char) :
    hexValue (digits ++ [digit]) = 16 * hexValue digits + hexDigitValue digit := by
  rw [hexValue, List.foldl_append]
  rfl

@[simp] theorem length_hexDigits (width n : Nat) : (hexDigits width n).length = width := by
  induction width generalizing n with
  | zero => rfl
  | succ width ih => rw [hexDigits, List.length_append, ih, List.length_singleton]

theorem hexValue_hexDigits (width n : Nat) : hexValue (hexDigits width n) = n % 16 ^ width := by
  induction width generalizing n with
  | zero => exact (Nat.mod_one n).symm
  | succ width ih =>
      rw [hexDigits, hexValue_append_singleton, ih,
        hexDigitValue_hexDigit _ (Nat.mod_lt n (by decide)), Nat.pow_succ', Nat.mod_mul,
        Nat.add_comm]

theorem newline_notMem_hexDigits (width n : Nat) : '\n' ∉ hexDigits width n := by
  induction width generalizing n with
  | zero => exact List.not_mem_nil
  | succ width ih =>
      rw [hexDigits, List.mem_append, List.mem_singleton]
      rintro (hmem | hlast)
      · exact ih _ hmem
      · exact hexDigit_ne_newline _ (Nat.mod_lt n (by decide)) hlast.symm

/-! ### One character -/

/-- The number of digits that belong to an escape with a given letter, if it is a code point. -/
def codeWidth? (letter : Char) : Option Nat :=
  if letter = 'x' then some 2 else if letter = 'u' then some 4
  else if letter = 'U' then some 8 else none

/-- The character of an escape without digits. -/
def escapedChar (letter : Char) : Char :=
  if letter = 't' then '\t' else if letter = 'n' then '\n'
  else if letter = 'r' then '\r' else letter

/-- The character whose form stands at the front of a text, and what follows the form. -/
def readChar : List Char → Option (Char × List Char)
  | [] => none
  | c :: rest =>
    if c = '\\' then rest.head?.map fun letter =>
      match codeWidth? letter with
      | some width => (Char.ofNat (hexValue (rest.tail.take width)), rest.tail.drop width)
      | none => (escapedChar letter, rest.tail)
    else some (c, rest)

/-- How a character is written inside quotes: as itself, by a letter that stands for it, or by its
code point. -/
inductive QuotedForm : Char → List Char → Prop
  | itself {c : Char} (hslash : c ≠ '\\') (hnewline : c ≠ '\n') : QuotedForm c [c]
  | escape {letter : Char} (hletter : codeWidth? letter = none) (hnewline : letter ≠ '\n') :
      QuotedForm (escapedChar letter) ['\\', letter]
  | code {c letter : Char} {width : Nat} (hletter : codeWidth? letter = some width)
      (hwidth : c.toNat < 16 ^ width) :
      QuotedForm c ('\\' :: letter :: hexDigits width c.toNat)

namespace QuotedForm

variable {c : Char} {form : List Char}

/-- A form determines its character, whatever follows it. -/
theorem readChar_append (h : QuotedForm c form) (rest : List Char) :
    readChar (form ++ rest) = some (c, rest) := by
  cases h with
  | itself hslash => exact if_neg hslash
  | escape hletter =>
      simp only [readChar, List.cons_append, List.nil_append, if_pos, List.head?_cons,
        List.tail_cons, Option.map_some, hletter]
  | @code _ _ width hletter hwidth =>
      have htake : (hexDigits width c.toNat ++ rest).take width = hexDigits width c.toNat :=
        List.take_left' (length_hexDigits width c.toNat)
      have hdrop : (hexDigits width c.toNat ++ rest).drop width = rest :=
        List.drop_left' (length_hexDigits width c.toNat)
      simp only [readChar, List.cons_append, if_pos, List.head?_cons, List.tail_cons,
        Option.map_some, hletter, htake, hdrop, hexValue_hexDigits, Nat.mod_eq_of_lt hwidth,
        Char.ofNat_toNat]

theorem newline_notMem (h : QuotedForm c form) : '\n' ∉ form := by
  have hslash : '\n' ≠ '\\' := by decide
  cases h with
  | itself _ hnewline =>
      exact fun hmem => hnewline (List.mem_singleton.mp hmem).symm
  | escape _ hnewline =>
      exact List.not_mem_cons_of_ne_of_not_mem hslash
        fun hmem => hnewline (List.mem_singleton.mp hmem).symm
  | code hletter =>
      apply List.not_mem_cons_of_ne_of_not_mem hslash
      apply List.not_mem_cons_of_ne_of_not_mem
      · rintro rfl
        cases hletter
      · exact newline_notMem_hexDigits _ _

end QuotedForm

theorem quotedForm_codeEscape (c : Char) : QuotedForm c (codeEscape c) := by
  have hvalid : c.toNat < 0x110000 := by
    rcases c.valid with h | h
    · exact Nat.lt_trans h (by decide)
    · exact h.2
  unfold codeEscape
  split
  · next hbyte => exact QuotedForm.code rfl hbyte
  split
  · next hplane => exact QuotedForm.code rfl hplane
  · exact QuotedForm.code rfl (Nat.lt_trans hvalid (by decide))

/-- The two characters that a text can be put between. -/
def IsQuote (c : Char) : Prop := c = '\x27' ∨ c = '"'

theorem isQuote_quoteFor (text : List Char) : IsQuote (quoteFor text) := by
  unfold quoteFor
  split
  · exact Or.inr rfl
  · exact Or.inl rfl

section Quote

variable {quote : Char}

theorem quotedForm_quotedChar (hquote : IsQuote quote) (c : Char) :
    QuotedForm c (quotedChar quote c) := by
  have hescape : ∀ letter, codeWidth? letter = none → letter ≠ '\n' → escapedChar letter = c →
      QuotedForm c ['\\', letter] := by
    rintro letter hletter hnewline rfl
    exact QuotedForm.escape hletter hnewline
  unfold quotedChar
  split
  · next hself =>
    rcases hself with rfl | rfl
    · rcases hquote with rfl | rfl
      · exact hescape '\x27' rfl (by decide) rfl
      · exact hescape '"' rfl (by decide) rfl
    · exact hescape '\\' rfl (by decide) rfl
  split
  · next htab => exact hescape 't' rfl (by decide) htab.symm
  split
  · next hnewline => exact hescape 'n' rfl (by decide) hnewline.symm
  split
  · next hreturn => exact hescape 'r' rfl (by decide) hreturn.symm
  split
  · next hself _ hnewline _ _ => exact QuotedForm.itself (mt Or.inr hself) hnewline
  · exact quotedForm_codeEscape c

/-- The forms of the characters of a text, one after the other, determine the text. -/
theorem flatMap_quotedChar_injective (hquote : IsQuote quote) :
    Function.Injective (List.flatMap (quotedChar quote)) := by
  intro s
  induction s with
  | nil =>
      intro t h
      cases t with
      | nil => rfl
      | cons d t =>
          have hread := congrArg readChar h
          rw [List.flatMap_cons, (quotedForm_quotedChar hquote _).readChar_append] at hread
          cases hread
  | cons c s ih =>
      intro t h
      have hread := congrArg readChar h
      rw [List.flatMap_cons, (quotedForm_quotedChar hquote _).readChar_append] at hread
      cases t with
      | nil => cases hread
      | cons d t =>
          rw [List.flatMap_cons, (quotedForm_quotedChar hquote _).readChar_append] at hread
          obtain ⟨hchar, hrest⟩ := Prod.mk.inj (Option.some.inj hread)
          rw [hchar, ih hrest]

end Quote

/-! ### A whole text -/

/-- Texts with the same quoted form are equal. -/
theorem quotedChars_injective : Function.Injective quotedChars := by
  intro s t h
  have hquote : quoteFor s = quoteFor t := (List.cons.inj h).1
  have htail := (List.cons.inj h).2
  rw [hquote] at htail
  exact flatMap_quotedChar_injective (isQuote_quoteFor t) (List.append_cancel_right htail)

/-- A quoted text stands on one line. -/
theorem newline_notMem_quotedChars (text : List Char) : '\n' ∉ quotedChars text := by
  have hquote := isQuote_quoteFor text
  have hne : '\n' ≠ quoteFor text := by
    rcases hquote with h | h <;> rw [h] <;> decide
  simp only [quotedChars, List.cons_append, List.mem_cons, List.mem_append, List.mem_flatMap,
    List.not_mem_nil, or_false, hne, false_or]
  rintro ⟨c, -, hmem⟩
  exact (quotedForm_quotedChar hquote c).newline_notMem hmem

theorem getLast?_quotedChars (text : List Char) :
    (quotedChars text).getLast? = some (quoteFor text) := List.getLast?_concat

theorem quoted_injective : Function.Injective quoted := by
  intro s t h
  exact String.toList_injective (quotedChars_injective (String.ofList_injective h))

theorem quoted_ne_empty (text : String) : quoted text ≠ "" := by
  intro h
  have hchars := congrArg String.toList h
  rw [quoted, String.toList_ofList] at hchars
  cases hchars

end UnitScan.Text
