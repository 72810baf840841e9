import DocStubs.Name
import DocStubs.Registry
import Mathlib.Data.List.Nodup

/-!
# Registries as ordered tables

A registry keeps its entries in the order of the names, each name once, whatever the order in
which they were registered. The names that start with one text stand together in that order, so
the part of the table where the modules of a package are looked for holds all of them.

## Main definitions

* `Registry.Ordered` — entries in the order of the names
* `Registry.ofListing` — the registry of listed modules

## Main results

* `Registry.perm_ofListing` — the entries of a registry are those that were registered
* `Registry.mem_childrenOf` — what is directly inside a package
-/

namespace DocStubs

namespace Registry

variable {registry : Registry} {name package start : String} {module : Registered}
  {entries listing : List (String × Registered)} {entry : String × Registered}

/-! ### Registering -/

/-- Entries in the order of the names, each name once. -/
def Ordered (registry : Registry) : Prop :=
  registry.entries.Pairwise fun entry other => entry.1 < other.1

/-- The registry of listed modules, registered one after the other. -/
def ofListing (listing : List (String × Registered)) : Registry :=
  listing.foldl (fun registry entry => registry.insert entry.1 entry.2) {}

theorem eq_or_mem_of_mem_insertInto (h : entry ∈ insertInto name module entries) :
    entry = (name, module) ∨ entry ∈ entries := by
  induction entries with
  | nil => exact Or.inl (List.mem_singleton.mp h)
  | cons first rest ih =>
    rw [insertInto] at h
    split at h
    · exact List.mem_cons.mp h
    · split at h
      · exact (List.mem_cons.mp h).imp_right (List.mem_cons_of_mem _)
      · rcases List.mem_cons.mp h with rfl | h
        · exact Or.inr List.mem_cons_self
        · exact (ih h).imp_right (List.mem_cons_of_mem _)

theorem pairwise_insertInto (h : entries.Pairwise fun entry other => entry.1 < other.1) :
    (insertInto name module entries).Pairwise fun entry other => entry.1 < other.1 := by
  induction entries with
  | nil => exact List.pairwise_singleton _ _
  | cons first rest ih =>
    obtain ⟨hfirst, hrest⟩ := List.pairwise_cons.mp h
    rw [insertInto]
    split
    · rename_i hlt
      refine List.Pairwise.cons (fun entry hentry => ?_) h
      rcases List.mem_cons.mp hentry with rfl | hentry
      · exact hlt
      · exact String.lt_trans hlt (hfirst entry hentry)
    · rename_i hlt
      split
      · rename_i hsame
        exact List.Pairwise.cons (fun entry hentry => hsame ▸ hfirst entry hentry) hrest
      · rename_i hne
        refine List.Pairwise.cons (fun entry hentry => ?_) (ih hrest)
        rcases eq_or_mem_of_mem_insertInto hentry with rfl | hentry
        · exact Std.lt_of_le_of_ne (String.not_lt.mp hlt) (Ne.symm hne)
        · exact hfirst entry hentry

theorem perm_insertInto (h : ∀ entry ∈ entries, entry.1 ≠ name) :
    (insertInto name module entries).Perm ((name, module) :: entries) := by
  induction entries with
  | nil => exact List.Perm.refl _
  | cons first rest ih =>
    have hne := h first List.mem_cons_self
    rw [insertInto, if_neg (Ne.symm hne)]
    split
    · exact List.Perm.refl _
    · have hrest := ih fun entry hentry => h entry (List.mem_cons_of_mem _ hentry)
      exact (hrest.cons first).trans (List.Perm.swap _ _ _)

theorem Ordered.insert (h : registry.Ordered) (name : String) (module : Registered) :
    (registry.insert name module).Ordered :=
  pairwise_insertInto h

theorem ordered_ofListing (listing : List (String × Registered)) : (ofListing listing).Ordered := by
  have hempty : Ordered {} := List.Pairwise.nil
  rw [ofListing]
  generalize ({} : Registry) = registry at hempty
  induction listing generalizing registry with
  | nil => exact hempty
  | cons entry rest ih => exact ih _ (hempty.insert entry.1 entry.2)

theorem perm_foldl_insert (h : ((registry.entries ++ listing).map (·.1)).Nodup) :
    (listing.foldl (fun registry entry => registry.insert entry.1 entry.2) registry).entries.Perm
      (registry.entries ++ listing) := by
  induction listing generalizing registry with
  | nil => rw [List.append_nil]; exact List.Perm.refl _
  | cons entry rest ih =>
    have hnew : ∀ other ∈ registry.entries, other.1 ≠ entry.1 := by
      rw [List.map_append, List.nodup_append] at h
      intro other hother
      exact h.2.2 _ (List.mem_map_of_mem hother) _ (List.mem_map_of_mem List.mem_cons_self)
    have hinsert : ((registry.insert entry.1 entry.2).entries ++ rest).Perm
        (registry.entries ++ entry :: rest) :=
      ((perm_insertInto hnew).append_right rest).trans List.perm_middle.symm
    exact (ih ((hinsert.map (·.1)).nodup_iff.mpr h)).trans hinsert

/-- The entries of a registry are those that were registered, in whatever order. -/
theorem perm_ofListing (h : (listing.map (·.1)).Nodup) : (ofListing listing).entries.Perm listing :=
  perm_foldl_insert h

/-- Whatever the order in which modules are registered, the same registry comes out. -/
theorem Ordered.ofListing_eq {listing : List (String × Registered)} (h : registry.Ordered)
    (hlisting : listing.Perm registry.entries) : ofListing listing = registry := by
  have hnames : (listing.map (·.1)).Nodup := by
    rw [(hlisting.map (·.1)).nodup_iff]
    exact List.pairwise_map.mpr (h.imp fun hlt => Std.ne_of_lt hlt)
  have hentries : (ofListing listing).entries = registry.entries := by
    refine ((perm_ofListing hnames).trans hlisting).eq_of_pairwise (fun _ _ _ _ hlt hgt => ?_)
      (ordered_ofListing listing) h
    exact absurd hgt (String.lt_asymm hlt)
  cases hregistry : ofListing listing
  rw [hregistry] at hentries
  exact congrArg Registry.mk hentries

theorem Ordered.get?_of_mem (h : registry.Ordered) (hmem : (name, module) ∈ registry.entries) :
    registry.get? name = some module := by
  have hdistinct : (registry.entries.map (·.1)).Nodup :=
    List.pairwise_map.mpr (h.imp fun hlt => Std.ne_of_lt hlt)
  rw [get?]
  cases hfind : registry.entries.find? (·.1 = name) with
  | none =>
    have hnone := List.find?_eq_none.mp hfind _ hmem
    simp at hnone
  | some entry =>
    have hname := List.find?_some hfind
    rw [decide_eq_true_eq] at hname
    rw [List.inj_on_of_nodup_map hdistinct (List.mem_of_find?_eq_some hfind) hmem hname]
    rfl

/-! ### Names that start with one text -/

theorem startsWith_iff {text : String} :
    startsWith start text = true ↔ ∃ rest, text = start ++ rest := by
  rw [startsWith]
  rw [List.isPrefixOf_iff_prefix]
  constructor
  · rintro ⟨rest, hrest⟩
    refine ⟨String.ofList rest, String.toList_inj.mp ?_⟩
    rw [String.toList_append, String.toList_ofList, hrest]
  · rintro ⟨rest, rfl⟩
    rw [String.toList_append]
    exact List.prefix_append _ _

/-- A text that comes after a start but does not have it comes after all that have it. -/
theorem append_lt_of_not_prefix {before text : List Char} (hle : ¬ text < before)
    (h : ¬ before <+: text) (rest : List Char) : before ++ rest < text := by
  induction before generalizing text with
  | nil => exact absurd List.nil_prefix h
  | cons c before ih =>
    cases text with
    | nil => exact absurd (List.nil_lt_cons c before) hle
    | cons d text =>
      rw [List.cons_lt_cons_iff, not_or, not_and] at hle
      rw [List.cons_append, List.cons_lt_cons_iff]
      by_cases hsame : c = d
      · subst hsame
        refine Or.inr ⟨rfl, ih (hle.2 rfl) fun hprefix => h ?_⟩
        exact List.cons_prefix_cons.mpr ⟨rfl, hprefix⟩
      · exact Or.inl (Std.lt_of_le_of_ne (Char.not_lt.mp hle.1) hsame)

theorem not_lt_of_startsWith {text : String} (h : startsWith start text = true) :
    ¬ text < start := by
  obtain ⟨rest, rfl⟩ := startsWith_iff.mp h
  rw [String.lt_iff, String.toList_append]
  exact List.le_append_left

theorem takeWhile_startsWith (h : entries.Pairwise fun entry other => entry.1 < other.1)
    (hstart : ∀ entry ∈ entries, ¬ entry.1 < start) :
    entries.takeWhile (startsWith start ·.1) = entries.filter (startsWith start ·.1) := by
  induction entries with
  | nil => rfl
  | cons first rest ih =>
    obtain ⟨hfirst, hrest⟩ := List.pairwise_cons.mp h
    cases hhas : startsWith start first.1 with
    | true =>
      simp only [List.takeWhile_cons, List.filter_cons, hhas, if_true]
      rw [ih hrest fun entry hentry => hstart entry (List.mem_cons_of_mem _ hentry)]
    | false =>
      -- All that follows comes after this entry, and so after the names with that start.
      have hnone : ∀ entry ∈ rest, ¬ startsWith start entry.1 = true := by
        intro entry hentry hentrystart
        obtain ⟨tail, htail⟩ := startsWith_iff.mp hentrystart
        have hlt : start.toList ++ tail.toList < first.1.toList := by
          refine append_lt_of_not_prefix ?_ ?_ _
          · exact fun hlt => hstart first List.mem_cons_self (String.lt_iff.mpr hlt)
          · rw [← List.isPrefixOf_iff_prefix]
            exact ne_true_of_eq_false hhas
        have hback := hfirst entry hentry
        rw [htail, String.lt_iff, String.toList_append] at hback
        exact List.lt_irrefl _ (List.lt_trans hlt hback)
      simp only [List.takeWhile_cons, List.filter_cons, hhas, Bool.false_eq_true, if_false]
      exact (List.filter_eq_nil_iff.mpr hnone).symm

/-- The names that start with one text stand together. -/
theorem takeWhile_dropWhile (h : entries.Pairwise fun entry other => entry.1 < other.1) :
    (entries.dropWhile (·.1 < start)).takeWhile (startsWith start ·.1) =
      entries.filter (startsWith start ·.1) := by
  induction entries with
  | nil => rfl
  | cons first rest ih =>
    obtain ⟨hfirst, hrest⟩ := List.pairwise_cons.mp h
    by_cases hlt : first.1 < start
    · have hnot : ¬ startsWith start first.1 = true := fun hhas => not_lt_of_startsWith hhas hlt
      simp only [List.dropWhile_cons, List.filter_cons, hlt, hnot, decide_true, if_true]
      exact ih hrest
    · rw [List.dropWhile_cons_of_neg (by simpa using hlt)]
      refine takeWhile_startsWith h fun entry hentry hentrylt => ?_
      rcases List.mem_cons.mp hentry with rfl | hentry
      · exact hlt hentrylt
      · exact hlt (String.lt_trans (hfirst entry hentry) hentrylt)

/-! ### What is directly inside a package -/

theorem Ordered.childrenOf_eq (h : registry.Ordered) (package : String) :
    registry.childrenOf package = (registry.entries.filter (startsWith (package ++ ".") ·.1)).filter
      fun (name, _) => !(name.toList.drop (package ++ ".").length).contains '.' := by
  rw [childrenOf]
  dsimp only
  rw [takeWhile_dropWhile h]

theorem Ordered.pairwise_childrenOf (h : registry.Ordered) (package : String) :
    (registry.childrenOf package).Pairwise fun entry other => entry.1 < other.1 := by
  rw [h.childrenOf_eq]
  exact (List.Pairwise.filter _ h).filter _

/-- Directly inside a package are the names that are one segment longer. -/
theorem Ordered.mem_childrenOf (h : registry.Ordered) :
    entry ∈ registry.childrenOf package ↔
      entry ∈ registry.entries ∧ ∃ leaf, entry.1 = Name.child package leaf ∧ '.' ∉ leaf.toList := by
  rw [h.childrenOf_eq, List.mem_filter, List.mem_filter, startsWith_iff, and_assoc]
  refine and_congr_right fun _ => ?_
  obtain ⟨name, module⟩ := entry
  dsimp only
  have hdrop : ∀ leaf : String, name = package ++ "." ++ leaf →
      name.toList.drop (package ++ ".").length = leaf.toList := by
    intro leaf hleaf
    rw [hleaf, String.toList_append, ← String.length_toList, List.drop_left]
  constructor
  · rintro ⟨⟨leaf, hleaf⟩, hdot⟩
    refine ⟨leaf, hleaf, ?_⟩
    rw [hdrop leaf hleaf] at hdot
    simpa using hdot
  · rintro ⟨leaf, hleaf, hdot⟩
    refine ⟨⟨leaf, hleaf⟩, ?_⟩
    rw [hdrop leaf hleaf]
    simpa using hdot

end Registry

end DocStubs
