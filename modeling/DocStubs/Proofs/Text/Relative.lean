import DocStubs.Proofs.Text.Dotted

/-!
# Relative imports

A relative import climbs from the importing name and goes down to its target. All that the dots
decide is which segments of the importing name are left, and one dot more at a name that is one
segment longer leaves the same ones. A package counts as if it were a module inside itself, so the
two kinds of importing names differ by one such step only.

## Main definitions

* `Name.outer?` — what is left of the segments of a name after climbing

## Main results

* `Name.outer?_concat` — climbing one segment more from a name that is one segment longer
* `Name.relative_imports` — what a relative import means
-/

namespace DocStubs

namespace Name

/-- The segments that are left after climbing, if any are. -/
def outer? (parts : List String) (climbed : Nat) : Option (List String) :=
  if parts.length ≤ climbed then none else some (parts.take (parts.length - climbed))

/-- A name with a target below it, which may be empty. -/
def down (base target : String) : String := if target = "" then base else child base target

/-- A relative import goes down to its target from what is left of the importing name. -/
theorem resolve?_eq (importer : String) (isPackage : Bool) (level : Nat) (target : String) :
    resolve? importer isPackage level target =
      if level = 0 then none
      else (outer? (segments importer) (climb isPackage level)).map
        fun parts => down (ofSegments parts) target := by
  rw [resolve?, outer?]
  by_cases hlevel : level = 0
  · simp [hlevel]
  · by_cases hparts : (segments importer).length ≤ climb isPackage level
    · simp [hlevel, hparts]
    · by_cases htarget : target = ""
      · simp [hlevel, hparts, htarget, down]
      · simp [hlevel, hparts, htarget, down]

theorem outer?_eq_none_iff {parts : List String} {climbed : Nat} :
    outer? parts climbed = none ↔ parts.length ≤ climbed := by
  rw [outer?]
  split
  · simpa
  · rename_i hclimbed
    simpa using hclimbed

/-- Climbing one segment more from a name that is one segment longer leaves the same segments. -/
theorem outer?_concat (parts : List String) (leaf : String) (climbed : Nat) :
    outer? (parts ++ [leaf]) (climbed + 1) = outer? parts climbed := by
  rw [outer?, outer?, List.length_append, List.length_singleton]
  split
  · rw [if_pos (by omega)]
  · rw [if_neg (by omega), List.take_append_of_le_length (by omega), Nat.add_sub_add_right]

/-- A package imports as a module inside it does. -/
theorem resolve?_package (package : String) {leaf : String} (hleaf : '.' ∉ leaf.toList)
    (level : Nat) (target : String) :
    resolve? package true (level + 1) target =
      resolve? (child package leaf) false (level + 1) target := by
  have hclimb : climb true (level + 1) = level := rfl
  have hclimb' : climb false (level + 1) = level + 1 := rfl
  rw [resolve?_eq, resolve?_eq, segments_child package hleaf, hclimb, hclimb', outer?_concat]

/-- One dot more leads out of a package. -/
theorem resolve?_child (package : String) {leaf : String} (hleaf : '.' ∉ leaf.toList)
    (level : Nat) (target : String) :
    resolve? (child package leaf) false (level + 2) target =
      resolve? package false (level + 1) target := by
  have hclimb : climb false (level + 2) = level + 1 + 1 := rfl
  have hclimb' : climb false (level + 1) = level + 1 := rfl
  rw [resolve?_eq, resolve?_eq, segments_child package hleaf, hclimb, hclimb', outer?_concat,
    if_neg (Nat.succ_ne_zero _), if_neg (Nat.succ_ne_zero _)]

/-- What a relative import means, for every importing name with its segments: nothing without dots
or if it climbs as many segments as there are, and else the segments that are left with the target
below them. So a package imports as a module inside it does, and a module inside a package, with one
dot more, as a module of the name of the package does. -/
theorem relative_imports (importer : String) (level : Nat) (target : String) :
    let parts := segments importer
    (parts ≠ [] ∧ (∀ part ∈ parts, '.' ∉ part.toList) ∧ ".".intercalate parts = importer) ∧
    (∀ isPackage : Bool,
      let climbed := if isPackage then level - 1 else level
      (resolve? importer isPackage level target = none ↔ level = 0 ∨ parts.length ≤ climbed) ∧
      (level ≠ 0 → climbed < parts.length →
        resolve? importer isPackage level target =
          some (".".intercalate (parts.take (parts.length - climbed)) ++
            if target = "" then "" else "." ++ target))) ∧
    ∀ leaf : String, '.' ∉ leaf.toList → 1 ≤ level →
      resolve? importer true level target =
        resolve? (importer ++ "." ++ leaf) false level target ∧
      resolve? (importer ++ "." ++ leaf) false (level + 1) target =
        resolve? importer false level target := by
  intro parts
  refine ⟨⟨segments_ne_nil importer, fun _ => dot_not_mem_of_mem_segments,
    ofSegments_segments importer⟩, fun isPackage => ?_, fun leaf hleaf hlevel => ?_⟩
  · intro climbed
    refine ⟨?_, fun hlevel hclimbed => ?_⟩
    · rw [resolve?_eq]
      by_cases hlevel : level = 0
      · simp [hlevel]
      · rw [if_neg hlevel, Option.map_eq_none_iff, outer?_eq_none_iff, or_iff_right hlevel]
        rfl
    · have houter : outer? parts (climb isPackage level) =
          some (parts.take (parts.length - climbed)) := if_neg (Nat.not_le.mpr hclimbed)
      rw [resolve?_eq, if_neg hlevel, houter, Option.map_some, down, ofSegments]
      split
      · rw [String.append_empty]
      · rw [child, String.append_assoc]
  · obtain ⟨dots, rfl⟩ := Nat.exists_eq_add_of_le' hlevel
    exact ⟨resolve?_package importer hleaf dots target, resolve?_child importer hleaf dots target⟩

theorem relative_imports_of_nested_module :
    '.' ∉ "leaf".toList ∧
    resolve? "demo.sub" true 2 "util" = resolve? "demo.sub.leaf" false 2 "util" ∧
    resolve? "demo.sub.leaf" false 2 "util" = some "demo.util" := by
  have hleaf : '.' ∉ "leaf".toList := by decide
  have hlevel : (2 : Nat) ≠ 0 := by decide
  obtain ⟨-, -, hsame⟩ := relative_imports "demo.sub" 2 "util"
  obtain ⟨-, hmodule, -⟩ := relative_imports "demo.sub.leaf" 2 "util"
  refine ⟨hleaf, (hsame "leaf" hleaf (by decide)).1, ?_⟩
  rw [(hmodule false).2 hlevel (by decide)]
  decide

end Name

end DocStubs
