import DocStubs.Descriptor
import DocStubs.Proofs.Text.Cut

/-!
# Where leading documentation is looked for

Documentation opens a module if one of its first lines starts with the mark. A line ends with a
line feed, or with a carriage return and a line feed, and a line feed at the very end begins no
further line. None of this shows at the start of a line: the mark holds neither character, and
where no line begins there is no mark either. So the answer can be read from the text without
lines, from what stands at its start and right after its first line feeds, and nothing behind the
last of these places matters.

## Main definitions

* `textLines` — the lines of a text
* `opensWithin` — whether one of so many first lines starts with the mark

## Main results

* `opensWithin_succ_iff` — the places where the mark may stand, one line after the other
* `opensWithin_append` — what comes after the lines that are looked at does not matter
* `leading_doc_at_line_starts` — all of it for the lines that are searched
-/

namespace DocStubs

variable {chars first rest : List Char} {count : Nat}

/-! ### Lines -/

/-- The lines of a text, without what ends them. A carriage return belongs to the end of its line
only if a line feed follows. -/
def textLines : List Char → List (List Char)
  | [] => []
  | c :: rest =>
    if c = '\n' then [] :: textLines rest
    else if c = '\r' ∧ rest.head? = some '\n' then textLines rest
    else
      match textLines rest with
      | line :: lines => (c :: line) :: lines
      | [] => [[c]]

/-- A line without the carriage return at its end. -/
def withoutReturn (line : List Char) : List Char :=
  if line.getLast? = some '\r' then line.dropLast else line

theorem textLines_of_not_mem (h : '\n' ∉ chars) (hne : chars ≠ []) : textLines chars = [chars] := by
  induction chars with
  | nil => exact absurd rfl hne
  | cons c rest ih =>
    rw [List.mem_cons, not_or] at h
    have hhead : rest.head? ≠ some '\n' := fun hhead => h.2 (List.mem_of_head? hhead)
    rw [textLines, if_neg (Ne.symm h.1), if_neg fun hreturn => hhead hreturn.2]
    by_cases hrest : rest = []
    · simp [hrest, textLines]
    · rw [ih h.2 hrest]

/-- A line feed ends a line, and so does a carriage return right before it. -/
theorem textLines_append_cons (h : '\n' ∉ first) (rest : List Char) :
    textLines (first ++ '\n' :: rest) = withoutReturn first :: textLines rest := by
  induction first with
  | nil => simp [textLines, withoutReturn]
  | cons c first ih =>
    rw [List.mem_cons, not_or] at h
    rw [List.cons_append, textLines, if_neg (Ne.symm h.1), ih h.2]
    by_cases hfirst : first = []
    · subst hfirst
      by_cases hreturn : c = '\r'
      · simp [hreturn, withoutReturn]
      · simp [hreturn, withoutReturn]
    · have hhead : (first ++ '\n' :: rest).head? ≠ some '\n' := by
        rw [List.head?_append, List.head?_eq_some_head hfirst, Option.some_or]
        exact fun hhead => h.2 (Option.some.inj hhead ▸ List.head_mem hfirst)
      have hwithout : withoutReturn (c :: first) = c :: withoutReturn first := by
        rw [withoutReturn, withoutReturn, List.getLast?_cons_of_ne_nil hfirst,
          List.dropLast_cons_of_ne_nil hfirst]
        exact (apply_ite (c :: ·) _ _ _).symm
      rw [if_neg fun hreturn => hhead hreturn.2, hwithout]

/-! ### The mark at the start of a line -/

/-- What opens documentation. -/
def docMark : List Char := ['"', '"', '"']

/-- Whether one of so many first lines starts with the mark. -/
def opensWithin (count : Nat) (chars : List Char) : Bool :=
  ((Cut.piecesOf '\n' chars).take count).any (docMark.isPrefixOf ·)

/-- The mark ends before any character that it does not hold. -/
theorem isPrefixOf_append_cons {c : Char} (h : c ∉ docMark) (line rest : List Char) :
    docMark.isPrefixOf (line ++ c :: rest) = docMark.isPrefixOf line := by
  rw [Bool.eq_iff_iff, List.isPrefixOf_iff_prefix, List.isPrefixOf_iff_prefix]
  generalize docMark = mark at h
  induction mark generalizing line with
  | nil => simp
  | cons m mark ih =>
    rw [List.mem_cons, not_or] at h
    cases line with
    | nil => simp [Ne.symm h.1]
    | cons d line => rw [List.cons_append, List.cons_prefix_cons, List.cons_prefix_cons,
        ih line h.2]

theorem isPrefixOf_withoutReturn (line : List Char) :
    docMark.isPrefixOf (withoutReturn line) = docMark.isPrefixOf line := by
  rw [withoutReturn]
  split
  · rename_i hlast
    obtain ⟨start, rfl⟩ := List.getLast?_eq_some_iff.mp hlast
    rw [List.dropLast_concat, isPrefixOf_append_cons (by decide)]
  · rfl

theorem opensWithin_of_not_mem (h : '\n' ∉ chars) (count : Nat) :
    opensWithin (count + 1) chars = docMark.isPrefixOf chars := by
  simp [opensWithin, Cut.piecesOf_of_not_mem h]

/-- After a line feed one line less is looked at. -/
theorem opensWithin_append_cons (h : '\n' ∉ first) (count : Nat) (rest : List Char) :
    opensWithin (count + 1) (first ++ '\n' :: rest) =
      (docMark.isPrefixOf first || opensWithin count rest) := by
  simp [opensWithin, Cut.piecesOf_append_cons, Cut.piecesOf_of_not_mem h]

/-- The mark stands at the start, or in what follows the first line feed. -/
theorem opensWithin_succ_iff :
    opensWithin (count + 1) chars = true ↔
      docMark <+: chars ∨
        ∃ first rest, '\n' ∉ first ∧ chars = first ++ '\n' :: rest ∧
          opensWithin count rest = true := by
  rw [← List.isPrefixOf_iff_prefix]
  obtain ⟨first, hfirst, rfl | ⟨after, rfl⟩⟩ := Cut.exists_first '\n' chars
  · rw [opensWithin_of_not_mem hfirst]
    refine ⟨Or.inl, ?_⟩
    rintro (hmark | ⟨line, rest, -, rfl, -⟩)
    · exact hmark
    · simp at hfirst
  · rw [opensWithin_append_cons hfirst, isPrefixOf_append_cons (by decide), Bool.or_eq_true]
    refine or_congr_right ⟨fun hrest => ⟨first, after, hfirst, rfl, hrest⟩, ?_⟩
    rintro ⟨line, rest, hline, hchars, hrest⟩
    -- What stands before the first line feed is determined by the text.
    have hsame := congrArg (Cut.piecesOf '\n') hchars
    rw [opensWithin] at hrest ⊢
    simp only [Cut.piecesOf_append_cons, Cut.piecesOf_of_not_mem hfirst,
      Cut.piecesOf_of_not_mem hline, List.singleton_append, List.cons.injEq] at hsame
    rw [hsame.2]
    exact hrest

/-- Lines start with the mark where pieces between line feeds do. -/
theorem any_take_textLines (count : Nat) (chars : List Char) :
    ((textLines chars).take count).any (docMark.isPrefixOf ·) = opensWithin count chars := by
  induction count generalizing chars with
  | zero => simp [opensWithin]
  | succ count ih =>
    obtain ⟨first, hfirst, rfl | ⟨after, rfl⟩⟩ := Cut.exists_first '\n' chars
    · rw [opensWithin_of_not_mem hfirst]
      by_cases hempty : chars = []
      · simp [hempty, textLines, docMark]
      · simp [textLines_of_not_mem hfirst hempty]
    · rw [opensWithin_append_cons hfirst, textLines_append_cons hfirst, List.take_succ_cons,
        List.any_cons, ih, isPrefixOf_withoutReturn]

/-- What comes after the lines that are looked at does not matter. -/
theorem opensWithin_append (h : count ≤ chars.count '\n') (rest other : List Char) :
    opensWithin count (chars ++ rest) = opensWithin count (chars ++ other) := by
  induction count generalizing chars with
  | zero => simp [opensWithin]
  | succ count ih =>
    obtain ⟨first, hfirst, rfl | ⟨after, rfl⟩⟩ := Cut.exists_first '\n' chars
    · rw [List.count_eq_zero.mpr hfirst] at h
      omega
    · have hafter : count ≤ after.count '\n' := by
        rw [List.count_append, List.count_eq_zero.mpr hfirst, List.count_cons_self] at h
        omega
      rw [List.append_assoc, List.append_assoc, List.cons_append, List.cons_append,
        opensWithin_append_cons hfirst, opensWithin_append_cons hfirst, ih hafter]

/-! ### Leading documentation -/

theorem hasLeadingDoc_eq (text : String) :
    hasLeadingDoc text = opensWithin probedLines text.toList := rfl

/-- The places where the mark may stand, for texts. -/
theorem opensWithin_toList_succ_iff {text : String} :
    opensWithin (count + 1) text.toList = true ↔
      (∃ rest, text = "\"\"\"" ++ rest) ∨
        ∃ first rest, '\n' ∉ first.toList ∧ text = first ++ "\n" ++ rest ∧
          opensWithin count rest.toList = true := by
  rw [opensWithin_succ_iff]
  refine or_congr ⟨?_, ?_⟩ ⟨?_, ?_⟩
  · rintro ⟨rest, hrest⟩
    exact ⟨String.ofList rest, String.toList_inj.mp (by simpa [docMark] using hrest.symm)⟩
  · rintro ⟨rest, rfl⟩
    exact ⟨rest.toList, by simp [docMark]⟩
  · rintro ⟨first, rest, hfirst, htext, hrest⟩
    exact ⟨String.ofList first, String.ofList rest, by simpa using hfirst,
      String.toList_inj.mp (by simpa using htext), by simpa using hrest⟩
  · rintro ⟨first, rest, hfirst, rfl, hrest⟩
    exact ⟨first.toList, rest.toList, hfirst, by simp, hrest⟩

theorem opensWithin_mark (count : Nat) (rest : String) :
    opensWithin (count + 1) ("\"\"\"" ++ rest).toList = true :=
  opensWithin_toList_succ_iff.mpr (Or.inl ⟨rest, rfl⟩)

/-- Documentation is seen in a text if the mark stands at its start, right after its first line feed
or right after its second one. That is as much as to say that one of its first three lines starts
with the mark, with a carriage return before a line feed taken for a part of the line's end, and
whatever comes after the third line feed makes no difference. -/
theorem leading_doc_at_line_starts (text : String) :
    (hasLeadingDoc text = true ↔
      (∃ rest, text = "\"\"\"" ++ rest) ∨
      (∃ first rest, '\n' ∉ first.toList ∧ text = first ++ "\n" ++ "\"\"\"" ++ rest) ∨
      ∃ first second rest, '\n' ∉ first.toList ∧ '\n' ∉ second.toList ∧
        text = first ++ "\n" ++ second ++ "\n" ++ "\"\"\"" ++ rest) ∧
    (hasLeadingDoc text = true ↔
      ∃ line ∈ (textLines text.toList).take 3, "\"\"\"".toList <+: line) ∧
    ∀ start rest other : String, 3 ≤ start.toList.count '\n' → text = start ++ rest →
      hasLeadingDoc (start ++ other) = hasLeadingDoc text := by
  refine ⟨?_, ?_, ?_⟩
  · rw [hasLeadingDoc_eq, probedLines, opensWithin_toList_succ_iff]
    refine or_congr_right ⟨?_, ?_⟩
    · rintro ⟨first, after, hfirst, rfl, hafter⟩
      rcases opensWithin_toList_succ_iff.mp hafter with
        ⟨rest, rfl⟩ | ⟨second, last, hsecond, rfl, h⟩
      · exact Or.inl ⟨first, rest, hfirst, by simp only [String.append_assoc]⟩
      · rcases opensWithin_toList_succ_iff.mp h with ⟨rest, rfl⟩ | ⟨_, _, _, _, hnone⟩
        · exact Or.inr ⟨first, second, rest, hfirst, hsecond, by simp only [String.append_assoc]⟩
        · cases hnone
    · rintro (⟨first, rest, hfirst, rfl⟩ | ⟨first, second, rest, hfirst, hsecond, rfl⟩)
      · refine ⟨first, "\"\"\"" ++ rest, hfirst, by simp only [String.append_assoc], ?_⟩
        exact opensWithin_mark 1 rest
      · refine ⟨first, second ++ "\n" ++ ("\"\"\"" ++ rest), hfirst,
          by simp only [String.append_assoc], ?_⟩
        have hmark := opensWithin_mark 0 rest
        exact opensWithin_toList_succ_iff.mpr (Or.inr ⟨second, _, hsecond, rfl, hmark⟩)
  · rw [hasLeadingDoc_eq, ← any_take_textLines, List.any_eq_true]
    simp only [List.isPrefixOf_iff_prefix]
    rfl
  · rintro start rest other hcount rfl
    rw [hasLeadingDoc_eq, hasLeadingDoc_eq, String.toList_append, String.toList_append]
    exact opensWithin_append hcount _ _

theorem late_mark_is_not_seen :
    3 ≤ "# one\r\n\r\n# three\n".toList.count '\n' ∧
    hasLeadingDoc ("# one\r\n\r\n# three\n" ++ "\"\"\"Late.\"\"\"\n") = false := by
  have hcount : 3 ≤ "# one\r\n\r\n# three\n".toList.count '\n' := by decide
  have hshort : hasLeadingDoc ("# one\r\n\r\n# three\n" ++ "") = false := by decide
  obtain ⟨-, -, hsame⟩ := leading_doc_at_line_starts ("# one\r\n\r\n# three\n" ++ "")
  exact ⟨hcount, (hsame _ "" _ hcount rfl).trans hshort⟩

end DocStubs
