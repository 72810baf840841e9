import DocStubs.Text.Letter
import DocStubs.Proofs.Files.Path

/-!
# Identifiers

The characters of an identifier come after the slash in the order of characters, and so also after
the dot. This is all that matters about them here: an identifier is a name in a directory and a
segment of a dotted name, and if each of two identifiers is followed by nothing or by a dot, the
order of the longer texts is that of the identifiers.

## Main results

* `slash_lt_of_mem_identifier` — the characters of an identifier come after the slash
* `append_lt_append` — what follows identifiers does not change their order
-/

namespace DocStubs

/-! ### The characters of identifiers -/

theorem slash_lt_of_isAlphabetic {c : Char} (h : isAlphabetic c = true) : '/'.toNat < c.toNat := by
  have hslash : '/'.toNat = 47 := rfl
  rw [isAlphabetic] at h
  split at h
  · rcases Bool.or_eq_true_iff.mp h with hupper | hlower
    · have hle : 65 ≤ c.toNat := (of_decide_eq_true hupper).1
      omega
    · have hle : 97 ≤ c.toNat := of_decide_eq_true (Bool.and_eq_true_iff.mp hlower).1
      omega
  · omega

theorem slash_lt_of_isNumeric {c : Char} (h : isNumeric c = true) : '/'.toNat < c.toNat := by
  have hslash : '/'.toNat = 47 := rfl
  rw [isNumeric] at h
  split at h
  · simp only [Char.isDigit, Bool.and_eq_true, decide_eq_true_eq, ge_iff_le,
      UInt32.le_iff_toNat_le] at h
    change 48 ≤ c.toNat ∧ c.toNat ≤ 57 at h
    omega
  · omega

variable {text : String}

/-- The characters of an identifier come after the slash. -/
theorem slash_lt_of_mem_identifier (h : isIdentifier text = true) {c : Char}
    (hc : c ∈ text.toList) : '/'.toNat < c.toNat := by
  have hunderscore : ∀ c : Char, c = '_' → '/'.toNat < c.toNat := by
    rintro c rfl
    decide
  rw [isIdentifier] at h
  split at h
  · cases h
  · rename_i first rest htext
    rw [htext] at hc
    simp only [Bool.and_eq_true, Bool.or_eq_true, decide_eq_true_eq, List.all_eq_true,
      isAlphanumeric] at h
    obtain ⟨hfirst, hrest⟩ := h
    rcases List.mem_cons.mp hc with rfl | hc
    · rcases hfirst with hfirst | hfirst
      · exact slash_lt_of_isAlphabetic hfirst
      · exact hunderscore _ hfirst
    · rcases hrest c hc with (hletter | hnumber) | hunder
      · exact slash_lt_of_isAlphabetic hletter
      · exact slash_lt_of_isNumeric hnumber
      · exact hunderscore _ hunder

theorem identifier_ne_empty (h : isIdentifier text = true) : text ≠ "" := by
  rintro rfl
  cases h

theorem dot_not_mem_identifier (h : isIdentifier text = true) : '.' ∉ text.toList := fun hdot =>
  absurd (slash_lt_of_mem_identifier h hdot) (by decide)

/-- An identifier is a name in a directory. -/
theorem isName_of_isIdentifier (h : isIdentifier text = true) : Path.IsName text := by
  refine ⟨identifier_ne_empty h, fun hslash => ?_, ?_, ?_⟩
  · exact absurd (slash_lt_of_mem_identifier h hslash) (Nat.lt_irrefl _)
  · rintro rfl
    cases h
  · rintro rfl
    cases h

/-! ### The order of identifiers -/

/-- What follows a text is nothing, or starts with a dot. -/
def IsTail (tail : List Char) : Prop := tail = [] ∨ ∃ rest, tail = '.' :: rest

/-- If identifiers are followed by nothing or by a dot, their order is that of the longer texts. -/
theorem append_lt_append {first second tail tail' : List Char}
    (hsecond : ∀ c ∈ second, '/'.toNat < c.toNat) (htail : IsTail tail)
    (h : first < second) : first ++ tail < second ++ tail' := by
  induction first generalizing second with
  | nil =>
    cases second with
    | nil => exact absurd h (List.lt_irrefl [])
    | cons c rest =>
      rcases htail with rfl | ⟨tail, rfl⟩
      · exact List.nil_lt_cons c _
      · have hdot : '.' < c := by
          have hc := hsecond c List.mem_cons_self
          have hslash : '/'.toNat = 47 := rfl
          rw [Char.lt_def, UInt32.lt_iff_toNat_lt]
          show 46 < c.toNat
          omega
        exact List.cons_lt_cons_iff.mpr (Or.inl hdot)
  | cons c rest ih =>
    cases second with
    | nil => exact absurd h (List.not_lt_nil _)
    | cons d rest' =>
      rw [List.cons_append, List.cons_append, List.cons_lt_cons_iff]
      rcases List.cons_lt_cons_iff.mp h with hlt | ⟨rfl, hrest⟩
      · exact Or.inl hlt
      · exact Or.inr ⟨rfl, ih (fun e he => hsecond e (List.mem_cons_of_mem _ he)) hrest⟩

end DocStubs
