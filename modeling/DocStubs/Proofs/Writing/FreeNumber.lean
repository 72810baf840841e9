import DocStubs.Writing
import DocStubs.Proofs.Files.Reach
import Mathlib.Data.List.Nodup
import Mathlib.Data.List.Perm.Subperm

/-!
# The number of a backup

Numbers are tried only up to that of the entries of a tree. The paths that differ in their number
only lead to different names in one directory, and a directory has not more names than the tree
has entries, so the number that is found is always free.

## Main results

* `FileTree.hasPath_freeNumber` — nothing is at the next free number
* `FileTree.freeNumber_congr` — which number is free depends on the numbers that are taken only
-/

namespace DocStubs

/-! ### Numbered paths -/

theorem toString_nat_injective : Function.Injective (toString : Nat → String) := by
  intro m n h
  have hdigits : Nat.toDigits 10 m = Nat.toDigits 10 n := by
    rw [← Nat.toList_repr, ← Nat.toList_repr]
    exact congrArg String.toList h
  have hvalue := congrArg (Nat.ofDigitChars 10 · 0) hdigits
  simpa only [Nat.ofDigitChars_ten_toDigits] using hvalue

theorem not_mem_toString_nat (n : Nat) {c : Char} (hc : c.isDigit = false) :
    c ∉ (toString n).toList := by
  intro h
  have hmem : c ∈ Nat.toDigits 10 n := by rwa [← Nat.toList_repr]
  rw [Nat.isDigit_of_mem_toDigits (by decide) (by decide) hmem] at hc
  cases hc

theorem toString_nat_ne_empty (n : Nat) : toString n ≠ "" := Nat.repr_ne_empty

namespace Path

/-- A number at the end of a path lengthens its last name. -/
theorem names_append_number (path : String) :
    ∃ before last, ∀ number : Nat,
      names (path ++ toString number) = before ++ [last ++ toString number] := by
  obtain ⟨before, last, h⟩ := names_append path
  exact ⟨before, last, fun number =>
    h _ (not_mem_toString_nat number rfl) (toString_nat_ne_empty number)⟩

theorem isAbsolute_append_number (path : String) (number : Nat) :
    isAbsolute (path ++ toString number) = isAbsolute path := by
  by_cases hpath : path = ""
  · have hslash : (toString number).toList.head? ≠ some '/' := fun h =>
      not_mem_toString_nat number rfl (List.mem_of_head? h)
    rw [hpath, String.empty_append, isAbsolute, isAbsolute, decide_eq_false hslash]
    rfl
  · exact isAbsolute_append hpath _

/-- A name that ends in a number is none of the dots. -/
theorem append_number_ne {dots : String} (hdots : ∀ c ∈ dots.toList, c.isDigit = false)
    (last : String) (number : Nat) : last ++ toString number ≠ dots := by
  intro h
  obtain ⟨c, hc⟩ := List.exists_mem_of_ne_nil _
    (fun hnil => toString_nat_ne_empty number (String.toList_eq_nil_iff.mp hnil))
  have hmem : c ∈ dots.toList := by
    rw [← h, String.toList_append]
    exact List.mem_append_right _ hc
  exact not_mem_toString_nat number (hdots c hmem) hc

end Path

namespace FileTree

variable {tree : FileTree}

/-- The paths that differ in a number only and lead to something lead to different names in one
directory. -/
theorem exists_numbered_places {start : Nat} (path : String)
    (h : tree.hasPath (path ++ toString start) = true) :
    ∃ place : Nat → Place, Function.Injective place ∧ ∀ number : Nat,
      tree.hasPath (path ++ toString number) = true →
        place number ≠ [] ∧ (tree.node? (place number)).isSome = true := by
  obtain ⟨before, last, hnames⟩ := Path.names_append_number path
  -- All these paths start alike and have the same names before their last one.
  have hleads : ∀ number : Nat, tree.hasPath (path ++ toString number) = true →
      ∃ directory left, Enters tree linkLimit (tree.origin path) before directory left ∧
        (tree.node? (directory ++ [last ++ toString number])).isSome = true := by
    intro number hpath
    obtain ⟨place, node, hlookup⟩ := hasPath_iff.mp hpath
    have hleads := (lookup_eq_ok_iff.mp hlookup).2
    have horigin : tree.origin (path ++ toString number) = tree.origin path :=
      tree.origin_congr (Path.isAbsolute_append_number path number)
    rw [hnames, horigin, leads_append_iff (by simp)] at hleads
    obtain ⟨directory, left, henters, hlast⟩ := hleads
    exact ⟨directory, left, henters,
      hlast.isSome_node? (Path.append_number_ne (by simp) last number)
        (Path.append_number_ne (by simp) last number)⟩
  obtain ⟨directory, left, henters, -⟩ := hleads start h
  refine ⟨fun number => directory ++ [last ++ toString number], ?_, fun number hpath => ?_⟩
  · intro m n hmn
    have hname : last ++ toString m = last ++ toString n := by simpa using hmn
    exact toString_nat_injective ((String.append_right_inj last).mp hname)
  · obtain ⟨other, left', henters', hsome⟩ := hleads number hpath
    rw [← henters.unique henters'] at hsome
    exact ⟨by simp, hsome⟩

/-- Not all numbers up to that of the entries are taken. -/
theorem exists_free_number (tree : FileTree) (path : String) :
    ∃ number ≤ tree.entries.length, tree.hasPath (path ++ toString number) = false := by
  by_contra hall
  have htaken : ∀ number ≤ tree.entries.length,
      tree.hasPath (path ++ toString number) = true := by
    intro number hnumber
    by_contra hfree
    exact hall ⟨number, hnumber, Bool.eq_false_iff.mpr hfree⟩
  obtain ⟨place, hinj, hplace⟩ := exists_numbered_places path (htaken 0 (Nat.zero_le _))
  have hsub : (List.range (tree.entries.length + 1)).map place ⊆ tree.entries.map (·.1) := by
    intro taken htaken'
    obtain ⟨number, hnumber, rfl⟩ := List.mem_map.mp htaken'
    obtain ⟨hne, hsome⟩ :=
      hplace number (htaken number (Nat.le_of_lt_succ (List.mem_range.mp hnumber)))
    obtain ⟨node, hnode⟩ := Option.isSome_iff_exists.mp hsome
    exact List.mem_map.mpr ⟨_, mem_of_node? hnode hne, rfl⟩
  have hlength := (List.subperm_of_subset (List.nodup_range.map hinj) hsub).length_le
  rw [List.length_map, List.length_map, List.length_range] at hlength
  exact Nat.not_succ_le_self _ hlength

/-- Nothing is at the next free number. -/
theorem hasPath_freeNumber (tree : FileTree) (mark path : String) :
    tree.hasPath (backupPath mark path (tree.freeNumber mark path)) = false := by
  rw [freeNumber]
  cases hfind : (List.range tree.entries.length).find? fun number =>
      !tree.hasPath (backupPath mark path number) with
  | some number =>
    have hfree := List.find?_some hfind
    rwa [Bool.not_eq_true'] at hfree
  | none =>
    obtain ⟨number, hle, hfree⟩ := tree.exists_free_number (path ++ mark)
    rcases Nat.lt_or_eq_of_le hle with hlt | rfl
    · have htaken := List.find?_eq_none.mp hfind number (List.mem_range.mpr hlt)
      rw [backupPath, hfree] at htaken
      exact absurd rfl htaken
    · exact hfree

/-- Something is at every number before the next free one. -/
theorem hasPath_of_lt_freeNumber {mark path : String} {number : Nat}
    (h : number < tree.freeNumber mark path) :
    tree.hasPath (backupPath mark path number) = true := by
  rw [freeNumber] at h
  cases hfind : (List.range tree.entries.length).find? fun number =>
      !tree.hasPath (backupPath mark path number) with
  | some first =>
    rw [hfind, Option.getD_some] at h
    simpa using (List.find?_range_eq_some.mp hfind).2.2 number h
  | none =>
    rw [hfind, Option.getD_none] at h
    simpa using List.find?_range_eq_none.mp hfind number h

/-- The next free number is the same in trees that have the same numbers taken. -/
theorem freeNumber_congr {before after : FileTree} {mark path : String}
    (h : ∀ number, after.hasPath (backupPath mark path number) =
      before.hasPath (backupPath mark path number)) :
    after.freeNumber mark path = before.freeNumber mark path := by
  refine Nat.le_antisymm (Nat.le_of_not_lt fun hlt => ?_) (Nat.le_of_not_lt fun hlt => ?_)
  · have htaken := hasPath_of_lt_freeNumber hlt
    rw [h, hasPath_freeNumber] at htaken
    cases htaken
  · have htaken := hasPath_of_lt_freeNumber hlt
    rw [← h, hasPath_freeNumber] at htaken
    cases htaken

end FileTree

end DocStubs
