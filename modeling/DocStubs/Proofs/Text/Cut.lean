import DocStubs.Text.Cut

/-!
# Pieces of a text

A separator between two texts separates their pieces, and no piece holds it. Everything that is
later said about the names along a path, or the segments of a dotted name, goes through these
facts and never through the recursion of `Cut.piecesOf`.

## Main results

* `Cut.piecesOf_append_cons` — the pieces on both sides of a separator
* `Cut.not_mem_of_mem_piecesOf` — no piece holds the separator
* `Cut.firstOf?_append_cons`, `Cut.lastOf?_eq_some_iff` — what stands on both sides of the first and
  of the last separator
* `Cut.before_eq_of_last_eq` — the last separator is determined by the text
-/

namespace DocStubs

namespace Cut

variable {separator : Char}

theorem piecesOf_ne_nil (separator : Char) (chars : List Char) : piecesOf separator chars ≠ [] := by
  cases chars with
  | nil => simp [piecesOf]
  | cons c rest =>
    rw [piecesOf]
    split
    · simp
    · split <;> simp

theorem piecesOf_of_not_mem {chars : List Char} (h : separator ∉ chars) :
    piecesOf separator chars = [chars] := by
  induction chars with
  | nil => rfl
  | cons c rest ih =>
    rw [List.mem_cons, not_or] at h
    rw [piecesOf, if_neg (Ne.symm h.1), ih h.2]

/-- A separator between two texts separates their pieces. -/
theorem piecesOf_append_cons (before after : List Char) :
    piecesOf separator (before ++ separator :: after) =
      piecesOf separator before ++ piecesOf separator after := by
  induction before with
  | nil => simp [piecesOf]
  | cons c rest ih =>
    rw [List.cons_append, piecesOf, piecesOf, ih]
    split
    · simp
    · cases h : piecesOf separator rest with
      | nil => exact absurd h (piecesOf_ne_nil separator rest)
      | cons piece pieces => simp

theorem not_mem_of_mem_piecesOf {chars piece : List Char} (h : piece ∈ piecesOf separator chars) :
    separator ∉ piece := by
  induction chars generalizing piece with
  | nil =>
    rw [piecesOf, List.mem_singleton] at h
    simp [h]
  | cons c rest ih =>
    rw [piecesOf] at h
    split at h
    · rcases List.mem_cons.mp h with rfl | h
      · simp
      · exact ih h
    · rename_i hc
      cases hp : piecesOf separator rest with
      | nil => exact absurd hp (piecesOf_ne_nil separator rest)
      | cons first pieces =>
        rw [hp] at h ih
        rcases List.mem_cons.mp h with rfl | h
        · rw [List.mem_cons, not_or]
          exact ⟨Ne.symm hc, ih List.mem_cons_self⟩
        · exact ih (List.mem_cons_of_mem _ h)

/-- Every text ends in a part without the separator, which is all of it or stands after the last
separator. -/
theorem exists_last (separator : Char) (chars : List Char) :
    ∃ last, separator ∉ last ∧ (chars = last ∨ ∃ before, chars = before ++ separator :: last) := by
  induction chars with
  | nil => exact ⟨[], by simp, Or.inl rfl⟩
  | cons c rest ih =>
    obtain ⟨last, hlast, rfl | ⟨before, rfl⟩⟩ := ih
    · by_cases hc : c = separator
      · exact ⟨rest, hlast, Or.inr ⟨[], by simp [hc]⟩⟩
      · exact ⟨c :: rest, by simp [Ne.symm hc, hlast], Or.inl rfl⟩
    · exact ⟨last, hlast, Or.inr ⟨c :: before, rfl⟩⟩

/-- Every text starts with a part without the separator, which is all of it or stands before the
first separator. -/
theorem exists_first (separator : Char) (chars : List Char) :
    ∃ first, separator ∉ first ∧
      (chars = first ∨ ∃ after, chars = first ++ separator :: after) := by
  induction chars with
  | nil => exact ⟨[], by simp, Or.inl rfl⟩
  | cons c rest ih =>
    by_cases hc : c = separator
    · exact ⟨[], by simp, Or.inr ⟨rest, by simp [hc]⟩⟩
    · obtain ⟨first, hfirst, rfl | ⟨after, rfl⟩⟩ := ih
      · exact ⟨c :: rest, by simp [Ne.symm hc, hfirst], Or.inl rfl⟩
      · exact ⟨c :: first, by simp [Ne.symm hc, hfirst], Or.inr ⟨after, rfl⟩⟩

/-! ### Both sides of a separator -/

theorem firstOf?_eq_some {chars before after : List Char}
    (h : firstOf? separator chars = some (before, after)) :
    chars = before ++ separator :: after := by
  induction chars generalizing before with
  | nil => cases h
  | cons c rest ih =>
    rw [firstOf?] at h
    split at h
    · rename_i hc
      cases h
      rw [hc, List.nil_append]
    · obtain ⟨⟨before', after'⟩, hrest, hsame⟩ := Option.map_eq_some_iff.mp h
      cases hsame
      rw [ih hrest, List.cons_append]

theorem firstOf?_eq_none {chars : List Char} (h : firstOf? separator chars = none) :
    separator ∉ chars := by
  induction chars with
  | nil => exact List.not_mem_nil
  | cons c rest ih =>
    rw [firstOf?] at h
    split at h
    · cases h
    · rename_i hc
      rw [List.mem_cons, not_or]
      exact ⟨Ne.symm hc, ih (Option.map_eq_none_iff.mp h)⟩

theorem firstOf?_append_cons {before after : List Char} (h : separator ∉ before) :
    firstOf? separator (before ++ separator :: after) = some (before, after) := by
  induction before with
  | nil => rw [List.nil_append, firstOf?, if_pos rfl]
  | cons c rest ih =>
    rw [List.mem_cons, not_or] at h
    rw [List.cons_append, firstOf?, if_neg (Ne.symm h.1), ih h.2]
    rfl

/-- The first separator has none before it. -/
theorem not_mem_of_firstOf? {chars before after : List Char}
    (h : firstOf? separator chars = some (before, after)) :
    separator ∉ before := by
  obtain ⟨first, hfirst, hchars | ⟨rest, hchars⟩⟩ := exists_first separator chars
  · have hmem : separator ∈ chars := by simp [firstOf?_eq_some h]
    rw [hchars] at hmem
    exact absurd hmem hfirst
  · rw [hchars, firstOf?_append_cons hfirst] at h
    cases h
    exact hfirst

theorem lastOf?_eq_some_iff {chars before after : List Char} :
    lastOf? separator chars = some (before, after) ↔
      chars = before ++ separator :: after ∧ separator ∉ after := by
  rw [lastOf?, Option.map_eq_some_iff]
  constructor
  · rintro ⟨⟨last, first⟩, hsome, hparts⟩
    obtain ⟨rfl, rfl⟩ : first.reverse = before ∧ last.reverse = after := by simpa using hparts
    refine ⟨?_, by simpa using not_mem_of_firstOf? hsome⟩
    rw [← List.reverse_inj, firstOf?_eq_some hsome]
    simp
  · rintro ⟨rfl, hafter⟩
    refine ⟨(after.reverse, before.reverse), ?_, by simp⟩
    have hreverse : (before ++ separator :: after).reverse =
        after.reverse ++ separator :: before.reverse := by simp
    rw [hreverse, firstOf?_append_cons (by simpa using hafter)]

/-- What stands before the last separator of a list is determined by the list. -/
theorem before_eq_of_last_eq {α : Type} {separator : α} {before before' last last' : List α}
    (h : separator ∉ last) (h' : separator ∉ last')
    (heq : before ++ separator :: last = before' ++ separator :: last') : before = before' := by
  rcases List.append_eq_append_iff.mp heq with ⟨more, rfl, hmore⟩ | ⟨more, rfl, hmore⟩
  · cases more with
    | nil => simp
    | cons c more =>
      obtain ⟨rfl, rfl⟩ : separator = c ∧ last = more ++ separator :: last' := by
        simpa using hmore
      simp at h
  · cases more with
    | nil => simp
    | cons c more =>
      obtain ⟨rfl, rfl⟩ : separator = c ∧ last' = more ++ separator :: last := by
        simpa using hmore
      simp at h'

end Cut

end DocStubs
