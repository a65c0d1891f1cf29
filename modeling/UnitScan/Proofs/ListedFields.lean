import UnitScan.Proofs.DecimalText
import UnitScan.Proofs.QuotedText
import UnitScan.Proofs.RenderingRoundTrip
import UnitScan.Proofs.TokenImage
import UnitScan.Token.Listing

/-!
# The fields of a listed token

A listed token shows its position, its kind and its payload. Each of them can be told from its
text: positions and kinds always, payloads once the kind is known. No letter stands in a position,
and a kind is written in nothing but capital letters, so their characters also tell the two apart.
-/

namespace UnitScan

/-! ### Visible characters -/

theorem Character.isBlank_of_visible {c : Char} (h : 32 < c.toNat ∧ c.toNat < 127) :
    isBlank c = false := by
  have hcodes : ∀ n < 127, 32 < n → blankRanges.covers n = false := by decide
  exact hcodes c.toNat h.2 h.1

theorem Character.isUpper_iff_toNat {c : Char} :
    c.isUpper = true ↔ 'A'.toNat ≤ c.toNat ∧ c.toNat ≤ 'Z'.toNat :=
  decide_eq_true_iff

theorem Character.isBlank_of_isUpper {c : Char} (h : c.isUpper = true) : isBlank c = false := by
  obtain ⟨hge, hle⟩ := isUpper_iff_toNat.mp h
  exact isBlank_of_visible ⟨Nat.lt_of_lt_of_le (by decide) hge, Nat.lt_of_le_of_lt hle (by decide)⟩

theorem Character.isBlank_of_isDigit {c : Char} (h : c.isDigit = true) : isBlank c = false := by
  obtain ⟨hge, hle⟩ := Char.isDigit_iff_toNat.mp h
  exact isBlank_of_visible ⟨Nat.lt_of_lt_of_le (by decide) hge, Nat.lt_of_le_of_lt hle (by decide)⟩

/-! ### Positions -/

namespace Position

/-- Whether a character may stand in the text of a position. -/
def inText (c : Char) : Bool := inInteger c || c = ':'

theorem toList_text (pos : Position) :
    pos.text.toList = (toString pos.line).toList ++ ':' :: (toString pos.column).toList := by
  rw [text, String.toList_append, String.toList_append, List.append_assoc]
  rfl

theorem inText_of_mem_text (pos : Position) : ∀ c ∈ pos.text.toList, inText c = true := by
  intro c hc
  rw [toList_text, List.mem_append, List.mem_cons] at hc
  rcases hc with hline | rfl | hcolumn
  · rw [inText, inInteger_of_mem_toString _ c hline, Bool.true_or]
  · rfl
  · rw [inText, inInteger_of_mem_toString _ c hcolumn, Bool.true_or]

/-- No capital letter stands in the text of a position. -/
theorem inText_of_isUpper {c : Char} (h : c.isUpper = true) : inText c = false := by
  have hbounds := Character.isUpper_iff_toNat.mp h
  have hdigit : c.isDigit = false := by
    rw [Bool.eq_false_iff]
    intro hdigit
    exact absurd (Nat.le_trans hbounds.1 (Char.isDigit_iff_toNat.mp hdigit).2) (by decide)
  have hsigns : c ≠ '-' ∧ c ≠ ':' := by
    constructor <;> (rintro rfl; cases h)
  simp [inText, inInteger, hdigit, hsigns]

/-- The text of a position determines the position. -/
theorem text_injective : Function.Injective text := by
  intro s t h
  have hchars := congrArg String.toList h
  rw [toList_text, toList_text] at hchars
  obtain ⟨hline, hrest⟩ := run_append_inj (inInteger_of_mem_toString s.line) (by rintro c ⟨⟩; rfl)
    (inInteger_of_mem_toString t.line) (by rintro c ⟨⟩; rfl) hchars
  have hcolumn := (List.cons.inj hrest).2
  obtain ⟨l, c⟩ := s
  rw [Position.mk.injEq]
  exact ⟨toString_int_injective (String.toList_injective hline),
    toString_int_injective (String.toList_injective hcolumn)⟩

end Position

/-! ### Kinds -/

namespace Token.Kind

/-- A kind is found by its name. -/
theorem ofName?_name (k : Kind) : ofName? k.name = some k := by
  cases k with
  | operator o => cases o <;> decide
  | _ => decide

theorem name_injective : Function.Injective name := by
  intro k l h
  have hfound := ofName?_name k
  rw [h, ofName?_name] at hfound
  exact (Option.some.inj hfound).symm

/-- The name of a kind is written in capital letters. -/
theorem isUpper_of_mem_name (k : Kind) : ∀ c ∈ k.name.toList, c.isUpper = true := by
  apply List.all_eq_true.mp
  cases k with
  | operator o => cases o <;> decide
  | _ => decide

/-- The name of a kind is narrower than its column. -/
theorem length_name (k : Kind) :
    0 < k.name.toList.length ∧ k.name.toList.length < kindWidth := by
  cases k with
  | operator o => cases o <;> decide
  | _ => decide

end Token.Kind

/-! ### Payloads -/

namespace NumberText

/-- A character of a number is a digit, the point, the mark or a sign of an exponent. -/
def inText (c : Char) : Bool := c.isDigit || ['.', 'e', '+', '-'].contains c

theorem isBlank_of_inText {c : Char} (h : inText c = true) : Character.isBlank c = false := by
  rw [inText, Bool.or_eq_true] at h
  rcases h with hdigit | hmem
  · exact Character.isBlank_of_isDigit hdigit
  · simp only [List.contains_cons, List.contains_nil, Bool.or_false, Bool.or_eq_true,
      beq_iff_eq] at hmem
    rcases hmem with rfl | rfl | rfl | rfl <;> decide

theorem inText_of_isDigits {digits : List Char} (h : Numeral.IsDigits digits) :
    ∀ c ∈ digits, inText c = true := by
  intro c hc
  rw [inText, h.2 c hc, Bool.true_or]

theorem IsExponent.inText_of_mem {text : List Char} (h : IsExponent text) :
    ∀ c ∈ text, inText c = true := by
  obtain ⟨sign, digits, hsign, hdigits, rfl⟩ := h
  intro c hc
  rcases List.mem_append.mp hc with hc | hc
  · rcases hsign with rfl | rfl | rfl
    · cases hc
    · rw [List.mem_singleton.mp hc]; rfl
    · rw [List.mem_singleton.mp hc]; rfl
  · exact inText_of_isDigits hdigits c hc

namespace WellFormed

variable {n m : NumberText}

theorem inText_of_mem_text (h : n.WellFormed) : ∀ c ∈ n.text.toList, inText c = true := by
  obtain ⟨integer, fraction, exponent⟩ := n
  intro c hc
  simp only [text, String.toList_append, List.mem_append] at hc
  rcases hc with (hc | hc) | hc
  · exact inText_of_isDigits h.integer c hc
  · cases fraction with
    | none => cases hc
    | some f =>
        rcases List.mem_append.mp (String.toList_append ▸ hc) with hc | hc
        · rw [List.mem_singleton.mp hc]; rfl
        · exact inText_of_isDigits (h.fraction f rfl) c hc
  · cases exponent with
    | none => cases hc
    | some e =>
        rcases List.mem_append.mp (String.toList_append ▸ hc) with hc | hc
        · rw [List.mem_singleton.mp hc]; rfl
        · exact (h.exponent e rfl).inText_of_mem c hc

theorem text_ne_empty (h : n.WellFormed) : n.text ≠ "" := by
  intro hempty
  have hchars : n.text.toList = [] := by rw [hempty]; rfl
  rw [text, String.toList_append, String.toList_append, List.append_assoc] at hchars
  exact h.integer.1 (List.append_eq_nil_iff.mp hchars).1

/-- The text of a well formed number determines its parts. -/
theorem eq_of_text_eq (hn : n.WellFormed) (hm : m.WellFormed) (h : n.text = m.text) : n = m := by
  obtain ⟨a, ha, -, hna⟩ := hn.exists_numeral
  obtain ⟨b, hb, -, hmb⟩ := hm.exists_numeral
  have hspelling : a.marked.spelling = b.marked.spelling := by
    rw [← a.toList_text_numberText, ← b.toList_text_numberText, hna, hmb, h]
  have hmarked := Numeral.eq_of_spelling_eq ha.marked hb.marked hspelling
  rw [← hna, ← hmb, ← a.numberText_marked, ← b.numberText_marked, hmarked]

end WellFormed

end NumberText

namespace Token

/-- What stands for the payload of a token in its line. Only a number is listed as it is written. -/
inductive Lists (t : Token) : String → Prop
  | nothing (kind : t.kind ≠ .number) (payload : t.payload = .none) : Lists t ""
  | text {s : String} (kind : t.kind ≠ .number) (payload : t.payload = .text s) :
      Lists t (Text.quoted s)
  | number {n : NumberText} (kind : t.kind = .number) (payload : t.payload = .number n)
      (parts : n.WellFormed) : Lists t n.text

variable {p q : Policy} {t u : Token} {listed : String}

theorem WellFormed.lists (h : t.WellFormed p) : t.Lists t.listedPayload := by
  cases h with
  | newline => exact Lists.nothing Kind.noConfusion rfl
  | operator => exact Lists.nothing Kind.noConfusion rfl
  | ident => exact Lists.text Kind.noConfusion rfl
  | number parts => exact Lists.number rfl rfl parts
  | error => exact Lists.text Kind.noConfusion rfl

theorem Lists.isBlank_of_getLast? (h : t.Lists listed) :
    ∀ c ∈ listed.toList.getLast?, Character.isBlank c = false := by
  intro c hc
  cases h with
  | nothing => cases hc
  | @text s =>
      rw [Text.quoted, String.toList_ofList, Text.getLast?_quotedChars] at hc
      rw [← Option.some.inj hc]
      rcases Text.isQuote_quoteFor s.toList with hquote | hquote <;> rw [hquote] <;> rfl
  | number _ _ parts =>
      exact NumberText.isBlank_of_inText (parts.inText_of_mem_text c (List.mem_of_getLast? hc))

theorem Lists.newline_notMem (h : t.Lists listed) : '\n' ∉ listed.toList := by
  intro hmem
  cases h with
  | nothing => cases hmem
  | @text s =>
      rw [Text.quoted, String.toList_ofList] at hmem
      exact Text.newline_notMem_quotedChars s.toList hmem
  | number _ _ parts => exact absurd (parts.inText_of_mem_text _ hmem) (by decide)

/-- Once the kind is known, what is listed determines the payload. -/
theorem Lists.payload_eq {listed' : String} (ht : t.Lists listed) (hu : u.Lists listed')
    (hkind : t.kind = u.kind) (h : listed = listed') : t.payload = u.payload := by
  cases ht with
  | nothing _ ht =>
      cases hu with
      | nothing _ hu => rw [ht, hu]
      | text => exact absurd h.symm (Text.quoted_ne_empty _)
      | number _ _ parts => exact absurd h.symm parts.text_ne_empty
  | text hnumber ht =>
      cases hu with
      | nothing => exact absurd h (Text.quoted_ne_empty _)
      | text _ hu => rw [ht, hu, Text.quoted_injective h]
      | number hk => exact absurd (hkind.trans hk) hnumber
  | number hnumber ht parts =>
      cases hu with
      | nothing => exact absurd h parts.text_ne_empty
      | text hk => exact absurd (hkind.symm.trans hnumber) hk
      | number _ hu parts' => rw [ht, hu, parts.eq_of_text_eq parts' h]

end Token

end UnitScan
