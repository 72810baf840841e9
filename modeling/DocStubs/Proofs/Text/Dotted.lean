import DocStubs.Name
import DocStubs.Proofs.Text.Cut

/-!
# Dotted names and their segments

A name and the list of its segments are two views of the same thing: going from one to the other
and back changes nothing, as long as the segments hold no dots. A name is inside a package if its
segments start with those of the package.

## Main definitions

* `Name.Within` — a name of something in a package

## Main results

* `Name.ofSegments_segments`, `Name.segments_ofSegments` — the two views
* `Name.segments_child` — the segments of a name inside a package
-/

namespace DocStubs

namespace Name

theorem segments_ne_nil (name : String) : segments name ≠ [] := by
  intro h
  exact Cut.piecesOf_ne_nil '.' name.toList (List.map_eq_nil_iff.mp h)

theorem dot_not_mem_of_mem_segments {name segment : String} (h : segment ∈ segments name) :
    '.' ∉ segment.toList := by
  obtain ⟨piece, hpiece, rfl⟩ := List.mem_map.mp h
  rw [String.toList_ofList]
  exact Cut.not_mem_of_mem_piecesOf hpiece

theorem segments_append_dot (before after : String) :
    segments (before ++ "." ++ after) = segments before ++ segments after := by
  simp [segments, Cut.pieces, Cut.piecesOf_append_cons]

theorem segments_of_no_dot {segment : String} (h : '.' ∉ segment.toList) :
    segments segment = [segment] := by
  simp [segments, Cut.pieces, Cut.piecesOf_of_not_mem h]

theorem segments_child (package : String) {leaf : String} (h : '.' ∉ leaf.toList) :
    segments (child package leaf) = segments package ++ [leaf] := by
  rw [child, segments_append_dot, segments_of_no_dot h]

theorem segments_ofSegments {parts : List String} (hne : parts ≠ [])
    (h : ∀ part ∈ parts, '.' ∉ part.toList) : segments (ofSegments parts) = parts := by
  rw [ofSegments]
  induction parts with
  | nil => exact absurd rfl hne
  | cons part rest ih =>
    have hpart := h part List.mem_cons_self
    by_cases hrest : rest = []
    · subst hrest
      rw [String.intercalate_singleton, segments_of_no_dot hpart]
    · rw [String.intercalate_cons_of_ne_nil hrest, segments_append_dot, segments_of_no_dot hpart,
        ih hrest fun other hother => h other (List.mem_cons_of_mem _ hother)]
      rfl

theorem ofSegments_segments (name : String) : ofSegments (segments name) = name := by
  obtain ⟨chars, rfl⟩ : ∃ chars, name = String.ofList chars := ⟨name.toList, by simp⟩
  induction h : chars.length using Nat.strongRecOn generalizing chars with
  | ind length ih =>
    obtain ⟨first, hfirst, rfl | ⟨after, rfl⟩⟩ := Cut.exists_first '.' chars
    · rw [segments_of_no_dot (by simpa using hfirst), ofSegments, String.intercalate_singleton]
    · have hsplit : String.ofList (first ++ '.' :: after) =
          String.ofList first ++ "." ++ String.ofList after := String.toList_inj.mp (by simp)
      have hafter := ih after.length (by rw [← h, List.length_append, List.length_cons]; omega)
        after rfl
      rw [hsplit, segments_append_dot, segments_of_no_dot (by simpa using hfirst), ofSegments,
        List.singleton_append, String.intercalate_cons_of_ne_nil (segments_ne_nil _), ← ofSegments,
        hafter]

theorem child_injective {package leaf leaf' : String}
    (h : child package leaf = child package leaf') : leaf = leaf' := by
  rw [child] at h
  exact (String.append_right_inj _).mp h

/-! ### Names below the outermost package -/

theorem relative_of_no_dot {name : String} (h : '.' ∉ name.toList) : relative name = "" := by
  rw [relative, Cut.first?]
  cases hfirst : Cut.firstOf? '.' name.toList with
  | none => rfl
  | some parts =>
    rw [Cut.firstOf?_eq_some hfirst] at h
    simp at h

/-- Below the outermost package is what follows the first dot. -/
theorem relative_of_dot {name : String} {first rest : List Char} (h : '.' ∉ first)
    (hname : name.toList = first ++ '.' :: rest) : relative name = String.ofList rest := by
  rw [relative, Cut.first?, hname, Cut.firstOf?_append_cons h]
  rfl

/-- A name that goes on has at least as much below its outermost package. -/
theorem length_relative_le {name other : String} (h : name.toList <+: other.toList) :
    (relative name).length ≤ (relative other).length := by
  obtain ⟨more, hmore⟩ := h
  obtain ⟨first, hfirst, hname | ⟨rest, hname⟩⟩ := Cut.exists_first '.' name.toList
  · rw [← hname] at hfirst
    rw [relative_of_no_dot hfirst]
    exact Nat.zero_le _
  · have hother : other.toList = first ++ '.' :: (rest ++ more) := by
      rw [← hmore, hname, List.append_assoc, List.cons_append]
    rw [relative_of_dot hfirst hname, relative_of_dot hfirst hother]
    simp

/-! ### Names inside packages -/

/-- A name is that of a package or of something in it, however deep. -/
def Within (package name : String) : Prop := segments package <+: segments name

theorem Within.refl (package : String) : Within package package := List.prefix_refl _

theorem Within.of_child {package leaf name : String} (h : Within (child package leaf) name) :
    Within package name := by
  refine List.IsPrefix.trans ?_ h
  rw [child, segments_append_dot]
  exact List.prefix_append _ _

theorem within_child (package leaf : String) : Within package (child package leaf) :=
  (Within.refl _).of_child

/-- A package is not inside what it holds. -/
theorem not_within_child (package leaf : String) : ¬ Within (child package leaf) package := by
  intro h
  have hlength := h.length_le
  have hleaf := List.length_pos_iff.mpr (segments_ne_nil leaf)
  rw [child, segments_append_dot, List.length_append] at hlength
  omega

/-- A name is inside at most one of the things that a package holds. -/
theorem leaf_eq_of_within {package leaf leaf' name : String} (hleaf : '.' ∉ leaf.toList)
    (hleaf' : '.' ∉ leaf'.toList) (h : Within (child package leaf) name)
    (h' : Within (child package leaf') name) : leaf = leaf' := by
  rw [Within] at h h'
  rw [segments_child package hleaf] at h
  rw [segments_child package hleaf'] at h'
  have hsame := (List.prefix_of_prefix_length_le h h' (by simp)).eq_of_length (by simp)
  simpa using hsame

end Name

end DocStubs
