import UnitScan.Proofs.ListedFields

/-!
# Listings lose nothing

The listing of the tokens of a text has one line for each token, and the tokens can be told from
it: their kinds, their payloads and their positions.

## Implementation notes

A line has no separators. A position that is wider than its column runs into the kind, and a line
without a payload is cut behind the kind. So a line is taken apart by the characters of its fields
and not by its columns: the position ends before the first space or letter, and the kind ends
before the first character that is no capital letter.
-/

namespace UnitScan

/-! ### Trimming -/

namespace Text

/-- Nothing is trimmed from a text that does not end in a blank. -/
theorem trimRight_of_getLast? {text : List Char}
    (h : ∀ c ∈ text.getLast?, Character.isBlank c = false) : trimRight text = text := by
  rw [← List.head?_reverse] at h
  rw [trimRight, dropWhile_of_stop h, List.reverse_reverse]

/-- Spaces at the end of a text are trimmed. -/
theorem trimRight_append_replicate (text : List Char) (n : Nat) :
    trimRight (text ++ List.replicate n ' ') = trimRight text := by
  have hspaces : ∀ c ∈ List.replicate n ' ', Character.isBlank c = true := by
    intro c hc
    rw [List.eq_of_mem_replicate hc]
    rfl
  rw [trimRight, List.reverse_append, List.reverse_replicate,
    List.dropWhile_append_of_pos hspaces, trimRight]

end Text

namespace Token

variable {p q : Policy} {t u : Token}

/-! ### Lines -/

/-- What follows the kind in the line of a token. -/
def listedTail (t : Token) : List Char :=
  if t.listedPayload = "" then []
  else List.replicate (kindWidth - t.kind.name.toList.length) ' ' ++ t.listedPayload.toList

/-- The name of the kind ends where the payload begins. -/
theorem isUpper_of_head?_listedTail (t : Token) :
    ∀ c ∈ t.listedTail.head?, c.isUpper = false := by
  intro c hc
  have hspaces : kindWidth - t.kind.name.toList.length ≠ 0 :=
    Nat.sub_ne_zero_of_lt t.kind.length_name.2
  unfold listedTail at hc
  split at hc
  · cases hc
  · rw [List.head?_append, List.head?_replicate, if_neg hspaces] at hc
    cases hc
    rfl

/-- The position ends where the spaces or the name of the kind begin. -/
theorem inText_of_head?_rest (t : Token) (n : Nat) :
    ∀ c ∈ (List.replicate n ' ' ++ (t.kind.name.toList ++ t.listedTail)).head?,
      Position.inText c = false := by
  intro c hc
  cases n with
  | zero =>
      have hname := List.ne_nil_of_length_pos t.kind.length_name.1
      rw [List.replicate_zero, List.nil_append, List.head?_append_of_ne_nil _ hname] at hc
      exact Position.inText_of_isUpper (t.kind.isUpper_of_mem_name c (List.mem_of_mem_head? hc))
  | succ n =>
      cases hc
      rfl

/-- Once the kind is known, what is left of the payload determines what is listed. -/
theorem listedPayload_eq_of_listedTail_eq (hkind : t.kind = u.kind)
    (h : t.listedTail = u.listedTail) : t.listedPayload = u.listedPayload := by
  unfold listedTail at h
  rw [hkind] at h
  split at h
  · next ht =>
    split at h
    · next hu => rw [ht, hu]
    · next hu =>
      exact absurd (List.append_eq_nil_iff.mp h.symm).2 (mt String.toList_eq_nil_iff.mp hu)
  · next ht =>
    split at h
    · exact absurd (List.append_eq_nil_iff.mp h).2 (mt String.toList_eq_nil_iff.mp ht)
    · exact String.toList_injective (List.append_cancel_left h)

/-- The line of a token: its position up to the width, its kind, and what is left of its payload. -/
theorem toList_listingLine (h : t.WellFormed p) :
    t.listingLine.toList =
      Text.padRight positionWidth t.position.text.toList ++
        (t.kind.name.toList ++ t.listedTail) := by
  rw [listingLine, String.toList_ofList, listedTail]
  split
  · next hempty =>
    have hname := List.ne_nil_of_length_pos t.kind.length_name.1
    have hvisible : ∀ c ∈ t.kind.name.toList.getLast?, Character.isBlank c = false := by
      intro c hc
      have hupper := t.kind.isUpper_of_mem_name c (List.mem_of_getLast? hc)
      exact Character.isBlank_of_isUpper hupper
    rw [hempty, Text.padRight.eq_def kindWidth, List.append_nil, String.toList_empty,
      List.append_nil, ← List.append_assoc, Text.trimRight_append_replicate]
    apply Text.trimRight_of_getLast?
    rwa [List.getLast?_append_of_ne_nil _ hname]
  · next hlisted =>
    rw [Text.padRight.eq_def kindWidth, List.append_assoc, List.append_assoc]
    apply Text.trimRight_of_getLast?
    rw [← List.append_assoc, ← List.append_assoc, List.getLast?_append_of_ne_nil]
    · exact h.lists.isBlank_of_getLast?
    · exact mt String.toList_eq_nil_iff.mp hlisted

/-- A wide position runs into the kind. -/
example : (⟨.ident, .text "m", ⟨10000, 10000⟩⟩ : Token).listingLine =
    "10000:10000IDENT     'm'" := by decide +kernel

/-- The line of a token determines the token. -/
theorem eq_of_listingLine_eq (ht : t.WellFormed p) (hu : u.WellFormed q)
    (h : t.listingLine = u.listingLine) : t = u := by
  have hline := congrArg String.toList h
  rw [toList_listingLine ht, toList_listingLine hu, Text.padRight, Text.padRight,
    List.append_assoc, List.append_assoc] at hline
  obtain ⟨hposition, hrest⟩ :=
    run_append_inj t.position.inText_of_mem_text (t.inText_of_head?_rest _)
      u.position.inText_of_mem_text (u.inText_of_head?_rest _) hline
  rw [hposition] at hrest
  obtain ⟨hname, htail⟩ :=
    run_append_inj t.kind.isUpper_of_mem_name t.isUpper_of_head?_listedTail
      u.kind.isUpper_of_mem_name u.isUpper_of_head?_listedTail (List.append_cancel_left hrest)
  have hkind : t.kind = u.kind := Kind.name_injective (String.toList_injective hname)
  have hpayload : t.payload = u.payload :=
    ht.lists.payload_eq hu.lists hkind (listedPayload_eq_of_listedTail_eq hkind htail)
  have hpos : t.position = u.position :=
    Position.text_injective (String.toList_injective hposition)
  rw [Token.mk.injEq]
  exact ⟨hkind, hpayload, hpos⟩

theorem newline_notMem_listingLine (h : t.WellFormed p) : '\n' ∉ t.listingLine.toList := by
  have hspaces : ∀ n, '\n' ∉ List.replicate n ' ' := by
    intro n hmem
    cases List.eq_of_mem_replicate hmem
  have htail : '\n' ∉ t.listedTail := by
    unfold listedTail
    split
    · exact List.not_mem_nil
    · rw [List.mem_append, not_or]
      exact ⟨hspaces _, h.lists.newline_notMem⟩
  rw [toList_listingLine h, Text.padRight]
  simp only [List.mem_append, not_or]
  refine ⟨⟨?_, hspaces _⟩, ?_, htail⟩
  · intro hmem
    cases t.position.inText_of_mem_text _ hmem
  · intro hmem
    cases t.kind.isUpper_of_mem_name _ hmem

theorem listingLine_ne_empty (h : t.WellFormed p) : t.listingLine.toList ≠ [] := by
  have hname := List.ne_nil_of_length_pos t.kind.length_name.1
  rw [toList_listingLine h]
  simp [hname]

/-! ### Listings -/

/-- The lines of a listing are the lines of its tokens. -/
theorem lines_listing {tokens : List Token} (hne : tokens ≠ [])
    (h : ∀ t ∈ tokens, t.WellFormed p) :
    Text.lines (listing tokens).toList = tokens.map fun t => t.listingLine.toList := by
  have hlines : ∀ line ∈ tokens.map fun t => t.listingLine.toList, '\n' ∉ line := by
    intro line hline
    obtain ⟨t, ht, rfl⟩ := List.mem_map.mp hline
    exact newline_notMem_listingLine (h t ht)
  rw [listing, String.toList_intercalate, List.map_map]
  exact List.splitOn_intercalate '\n' hlines (mt List.map_eq_nil_iff.mp hne)

theorem listing_ne_empty {tokens : List Token} (hne : tokens ≠ [])
    (h : ∀ t ∈ tokens, t.WellFormed p) : (listing tokens).toList ≠ [] := by
  intro hempty
  have hlines := lines_listing hne h
  cases tokens with
  | nil => exact hne rfl
  | cons t later =>
      rw [hempty] at hlines
      have hline : [] = t.listingLine.toList := (List.cons.inj hlines).1
      exact listingLine_ne_empty (h t List.mem_cons_self) hline.symm

theorem eq_of_map_listingLine_eq {ts us : List Token} (hts : ∀ t ∈ ts, t.WellFormed p)
    (hus : ∀ u ∈ us, u.WellFormed q)
    (h : (ts.map fun t => t.listingLine.toList) = us.map fun u => u.listingLine.toList) :
    ts = us := by
  induction ts generalizing us with
  | nil => exact (List.map_eq_nil_iff.mp h.symm).symm
  | cons t ts ih =>
      cases us with
      | nil => cases h
      | cons u us =>
          obtain ⟨hline, hlater⟩ := List.cons.inj h
          have htoken : t = u :=
            eq_of_listingLine_eq (hts t List.mem_cons_self) (hus u List.mem_cons_self)
              (String.toList_injective hline)
          have htokens : ts = us :=
            ih (fun t ht => hts t (List.mem_cons_of_mem _ ht))
              (fun u hu => hus u (List.mem_cons_of_mem _ hu)) hlater
          rw [htoken, htokens]

/-- Well formed tokens are determined by their listing, even when their policies differ. -/
theorem eq_of_listing_eq {ts us : List Token} (hts : ∀ t ∈ ts, t.WellFormed p)
    (hus : ∀ u ∈ us, u.WellFormed q) (h : listing ts = listing us) : ts = us := by
  by_cases ht : ts = []
  · by_cases hu : us = []
    · rw [ht, hu]
    · rw [ht] at h
      exact absurd (h ▸ rfl) (listing_ne_empty hu hus)
  · by_cases hu : us = []
    · rw [hu] at h
      exact absurd (h ▸ rfl) (listing_ne_empty ht hts)
    · apply eq_of_map_listingLine_eq hts hus
      rw [← lines_listing ht hts, ← lines_listing hu hus, h]

end Token

/-- The listing of the tokens of a text loses nothing: texts that are listed alike have the same
tokens at the same positions, whatever their policies. A listing that is not empty has exactly one
line for each token. -/
theorem tokens_eq_of_listing_eq (p q : Policy) (text text' : List Char) :
    (Token.listing (tokens p text) = Token.listing (tokens q text') →
        tokens p text = tokens q text') ∧
      (tokens p text ≠ [] →
        (Text.lines (Token.listing (tokens p text)).toList).length = (tokens p text).length) := by
  have hwf : ∀ t ∈ tokens p text, t.WellFormed p := fun t ht => wellFormed_of_mem_tokens ht
  have hwf' : ∀ t ∈ tokens q text', t.WellFormed q := fun t ht => wellFormed_of_mem_tokens ht
  refine ⟨Token.eq_of_listing_eq hwf hwf', ?_⟩
  intro hne
  rw [Token.lines_listing hne hwf, List.length_map]

/-- A comment and spaces of the same width, under two policies. -/
theorem tokens_eq_of_listing_eq_comment :
    ∃ p : Policy, p.settings.comment = none ∧
      Token.listing (tokens .standard "ft # foot\n12".toList) =
        Token.listing (tokens p "ft       \n12".toList) ∧
      tokens .standard "ft # foot\n12".toList = tokens p "ft       \n12".toList ∧
      (Text.lines (Token.listing (tokens .standard "ft # foot\n12".toList)).toList).length = 3 := by
  have hlisting : Token.listing (tokens .standard "ft # foot\n12".toList) =
      Token.listing (tokens ⟨{ comment := none }, by decide⟩ "ft       \n12".toList) := by
    decide +kernel
  have hne : tokens .standard "ft # foot\n12".toList ≠ [] := by decide +kernel
  have hlength : (tokens .standard "ft # foot\n12".toList).length = 3 := by decide +kernel
  obtain ⟨htokens, hlines⟩ := tokens_eq_of_listing_eq .standard ⟨{ comment := none }, by decide⟩
    "ft # foot\n12".toList "ft       \n12".toList
  exact ⟨_, rfl, hlisting, htokens hlisting, (hlines hne).trans hlength⟩

end UnitScan
