import DocStubs.Proofs.Source.Termination
import Mathlib.Data.List.Perm.Subperm
import Mathlib.Data.Nat.Basic

/-!
# Walks through a registry

A walk through a registry goes from a package to the names that are one segment longer, and from
there on where these are packages. What it finds can be said without a walk: a module is found if
every name between it and the root is registered as a package. Names may be anything here; a name
may hold characters that come before a dot, so that what is below a package need not stand together
in the table, and segments may be empty.

The walk has a bound on its depth, at which it would stop without a word. `Walks` says what a walk
does without one, and both have the same answer. For all names that a walk goes through are
registered, whether or not a module is below them in the end, and they grow by a segment each, so
there are not more of them on any way than entries: the bound is never met.

## Main definitions

* `Registry.IsPackage`, `Registry.IsModule` — what a name is registered as
* `Registry.Finds` — the modules that are below a package
* `Registry.Passes` — ways over registered names
* `Registry.walk` — a walk, as a list of names

## Main results

* `Registry.mem_walk` — what a walk finds
* `Registry.pairwise_walk` — a walk goes in the order of the segments
* `Registry.Passes.length_le` — no way is longer than the number of entries
* `Source.walks_iff_leaves` — a walk without a bound has one answer, that of `leaves`
* `Source.exact_walk_of_registry` — walks and analyses of a registry
-/

namespace DocStubs

/-! ### Names below a package -/

namespace Name

variable {root part : String} {parts : List String}

/-- The name that is some segments longer than another one. -/
def extend (root : String) (parts : List String) : String := parts.foldl child root

theorem extend_cons (root part : String) (parts : List String) :
    extend root (part :: parts) = extend (child root part) parts := rfl

theorem segments_extend (root : String) (h : ∀ part ∈ parts, '.' ∉ part.toList) :
    segments (extend root parts) = segments root ++ parts := by
  induction parts generalizing root with
  | nil => exact (List.append_nil _).symm
  | cons part rest ih =>
    rw [extend_cons, ih _ fun other hother => h other (List.mem_cons_of_mem _ hother),
      segments_child root (h part List.mem_cons_self), List.append_assoc, List.singleton_append]

/-- Names that are below different names of one package are in the order of these. -/
theorem segments_lt_of_within {leaf leaf' name name' : String} (hleaf : '.' ∉ leaf.toList)
    (hleaf' : '.' ∉ leaf'.toList) (h : Within (child root leaf) name)
    (h' : Within (child root leaf') name') (hlt : leaf < leaf') :
    segments name < segments name' := by
  obtain ⟨rest, hrest⟩ := h
  obtain ⟨rest', hrest'⟩ := h'
  rw [segments_child root hleaf] at hrest
  rw [segments_child root hleaf'] at hrest'
  rw [← hrest, ← hrest', List.append_assoc, List.append_assoc]
  exact List.append_left_lt (List.cons_lt_cons_iff.mpr (Or.inl hlt))

theorem lt_of_child_lt {leaf leaf' : String} (h : child root leaf < child root leaf') :
    leaf < leaf' := by
  by_contra hnot
  by_cases hsame : leaf' = leaf
  · subst hsame
    exact String.lt_irrefl _ h
  · have hgt : leaf' < leaf := Std.lt_of_le_of_ne (String.not_lt.mp hnot) hsame
    unfold child at h
    rw [String.lt_iff, String.toList_append, String.toList_append (t := leaf')] at h
    exact List.lt_irrefl _ (List.lt_trans h (List.append_left_lt (String.lt_iff.mp hgt)))

end Name

namespace Registry

open Name

variable {registry : Registry} {isExcluded : String → Bool} {depth : Nat}
  {root package name : String} {parts : List String}

/-! ### What is below a package -/

/-- A name is registered as a package. -/
def IsPackage (registry : Registry) (name : String) : Prop :=
  ∃ module, registry.get? name = some module ∧ module.isPackage = true

/-- A name is registered as a module. -/
def IsModule (registry : Registry) (name : String) : Prop :=
  ∃ module, registry.get? name = some module ∧ module.isPackage = false

/-- Segments lead from a package to a module: each name on the way is registered as a package. -/
structure LeadsTo (registry : Registry) (root : String) (parts : List String) : Prop where
  ne_nil : parts ≠ []
  no_dots : ∀ part ∈ parts, '.' ∉ part.toList
  packages : ∀ length, 1 ≤ length → length < parts.length →
    registry.IsPackage (extend root (parts.take length))
  module : registry.IsModule (extend root parts)

/-- A module that is not excluded is below a package. -/
def Finds (registry : Registry) (isExcluded : String → Bool) (root name : String) : Prop :=
  isExcluded name = false ∧ ∃ parts, registry.LeadsTo root parts ∧ name = extend root parts

theorem leadsTo_singleton {part : String} :
    registry.LeadsTo root [part] ↔
      '.' ∉ part.toList ∧ registry.IsModule (child root part) := by
  constructor
  · intro h
    exact ⟨h.no_dots part List.mem_cons_self, h.module⟩
  · rintro ⟨hdot, hmodule⟩
    refine ⟨List.cons_ne_nil _ _, by simpa using hdot, fun length hpos hlt => ?_, hmodule⟩
    rw [List.length_singleton] at hlt
    omega

/-- Segments lead on from the first name if that is a package. -/
theorem leadsTo_cons {part : String} (h : parts ≠ []) :
    registry.LeadsTo root (part :: parts) ↔
      '.' ∉ part.toList ∧ registry.IsPackage (child root part) ∧
        registry.LeadsTo (child root part) parts := by
  have hpos := List.length_pos_iff.mpr h
  constructor
  · intro hleads
    refine ⟨hleads.no_dots part List.mem_cons_self, ?_, h,
      fun other hother => hleads.no_dots other (List.mem_cons_of_mem _ hother), ?_,
      hleads.module⟩
    · exact hleads.packages 1 le_rfl (by rw [List.length_cons]; omega)
    · intro length hlength hlt
      exact hleads.packages (length + 1) (by omega) (by rw [List.length_cons]; omega)
  · rintro ⟨hdot, hpackage, hleads⟩
    refine ⟨List.cons_ne_nil _ _, List.forall_mem_cons.mpr ⟨hdot, hleads.no_dots⟩, ?_,
      hleads.module⟩
    intro length hlength hlt
    obtain ⟨before, rfl⟩ := Nat.exists_eq_add_of_le' hlength
    cases before with
    | zero => exact hpackage
    | succ before =>
      rw [List.length_cons] at hlt
      exact hleads.packages (before + 1) (by omega) (by omega)

/-! ### The order of what is listed -/

theorem mem_childrenOf_iff (h : registry.Ordered) {entry : String × Registered} :
    entry ∈ registry.childrenOf package ↔
      registry.get? entry.1 = some entry.2 ∧
        ∃ leaf, entry.1 = child package leaf ∧ '.' ∉ leaf.toList := by
  rw [h.mem_childrenOf]
  refine and_congr_left fun _ => ⟨fun hmem => h.get?_of_mem hmem, fun hget => ?_⟩
  rw [get?, Option.map_eq_some_iff] at hget
  obtain ⟨found, hfind, hmodule⟩ := hget
  have hname : found.1 = entry.1 := by simpa using List.find?_some hfind
  obtain rfl : found = entry := Prod.ext hname hmodule
  exact List.mem_of_find?_eq_some hfind

/-! ### A walk -/

/-- What a walk finds in one entry, given what it finds inside packages. -/
def visited (isExcluded : String → Bool) (inside : String → List String)
    (entry : String × Registered) : List String :=
  if entry.2.isPackage then inside entry.1
  else if isExcluded entry.1 then [] else [entry.1]

/-- The modules below a package, up to a depth of nesting. -/
def walk (registry : Registry) (isExcluded : String → Bool) : Nat → String → List String
  | 0, _ => []
  | depth + 1, package =>
    (registry.childrenOf package).flatMap (visited isExcluded (walk registry isExcluded depth))

theorem mem_visited {inside : String → List String} {entry : String × Registered} :
    name ∈ visited isExcluded inside entry ↔
      entry.2.isPackage = true ∧ name ∈ inside entry.1 ∨
        entry.2.isPackage = false ∧ isExcluded name = false ∧ name = entry.1 := by
  rw [visited]
  cases entry.2.isPackage with
  | true => simp
  | false =>
    rw [if_neg Bool.false_ne_true]
    split
    · rename_i hexcluded
      simp only [List.not_mem_nil, reduceCtorEq, false_and, true_and, false_or, false_iff]
      rintro ⟨hkept, rfl⟩
      rw [hexcluded] at hkept
      cases hkept
    · rename_i hkept
      simp only [List.mem_singleton, reduceCtorEq, false_and, true_and, false_or]
      constructor
      · rintro rfl
        exact ⟨by simpa using hkept, rfl⟩
      · exact And.right

/-- A walk finds what is below a package, as deep as it goes. -/
theorem mem_walk (h : registry.Ordered) :
    name ∈ registry.walk isExcluded depth package ↔
      isExcluded name = false ∧ ∃ parts, parts.length ≤ depth ∧
        registry.LeadsTo package parts ∧ name = extend package parts := by
  induction depth generalizing package with
  | zero =>
    simp only [walk, List.not_mem_nil, false_iff]
    rintro ⟨-, parts, hlength, hleads, -⟩
    exact hleads.ne_nil (List.length_eq_zero_iff.mp (Nat.le_zero.mp hlength))
  | succ depth ih =>
    rw [walk, List.mem_flatMap]
    constructor
    · rintro ⟨entry, hentry, hname⟩
      obtain ⟨hget, leaf, hleaf, hdot⟩ := (mem_childrenOf_iff h).mp hentry
      rcases mem_visited.mp hname with ⟨hpackage, hname⟩ | ⟨hmodule, hkept, rfl⟩
      · obtain ⟨hkept, parts, hlength, hleads, rfl⟩ := ih.mp hname
        rw [hleaf] at hget hleads hkept ⊢
        refine ⟨hkept, leaf :: parts, Nat.succ_le_succ hlength, ?_, rfl⟩
        exact (leadsTo_cons hleads.ne_nil).mpr ⟨hdot, ⟨_, hget, hpackage⟩, hleads⟩
      · refine ⟨hkept, [leaf], by simp, ?_, hleaf⟩
        rw [hleaf] at hget
        exact leadsTo_singleton.mpr ⟨hdot, _, hget, hmodule⟩
    · rintro ⟨hkept, parts, hlength, hleads, rfl⟩
      cases parts with
      | nil => exact absurd rfl hleads.ne_nil
      | cons leaf rest =>
        by_cases hrest : rest = []
        · subst hrest
          obtain ⟨hdot, module, hget, hmodule⟩ := leadsTo_singleton.mp hleads
          refine ⟨(child package leaf, module), (mem_childrenOf_iff h).mpr
            ⟨hget, leaf, rfl, hdot⟩, mem_visited.mpr (Or.inr ⟨hmodule, hkept, rfl⟩)⟩
        · obtain ⟨hdot, ⟨module, hget, hpackage⟩, honward⟩ := (leadsTo_cons hrest).mp hleads
          refine ⟨(child package leaf, module), (mem_childrenOf_iff h).mpr
            ⟨hget, leaf, rfl, hdot⟩, mem_visited.mpr (Or.inl ⟨hpackage, ih.mpr ?_⟩)⟩
          exact ⟨hkept, rest, Nat.le_of_succ_le_succ hlength, honward, rfl⟩

/-- A walk goes in the order of the segments. -/
theorem pairwise_walk (h : registry.Ordered) :
    (registry.walk isExcluded depth package).Pairwise
      fun name other => segments name < segments other := by
  induction depth generalizing package with
  | zero => exact List.Pairwise.nil
  | succ depth ih =>
    rw [walk, List.pairwise_flatMap]
    refine ⟨fun entry _ => ?_, ?_⟩
    · rw [visited]
      split
      · exact ih
      · split
        · exact List.Pairwise.nil
        · exact List.pairwise_singleton _ _
    · -- What is found in two entries is below them, and the entries are in order.
      have hwithin : ∀ entry ∈ registry.childrenOf package, ∀ name ∈ visited isExcluded
          (registry.walk isExcluded depth) entry, Within entry.1 name := by
        intro entry hentry name hname
        rcases mem_visited.mp hname with ⟨-, hname⟩ | ⟨-, -, rfl⟩
        · obtain ⟨-, parts, -, hleads, rfl⟩ := (mem_walk h).mp hname
          rw [Within, segments_extend _ hleads.no_dots]
          exact List.prefix_append _ _
        · exact Within.refl _
      refine (h.pairwise_childrenOf package).imp_of_mem ?_
      intro entry other hentry hother hlt name hname name' hname'
      obtain ⟨-, leaf, hleaf, hdot⟩ := (mem_childrenOf_iff h).mp hentry
      obtain ⟨-, leaf', hleaf', hdot'⟩ := (mem_childrenOf_iff h).mp hother
      have hbelow := hwithin entry hentry name hname
      have hbelow' := hwithin other hother name' hname'
      rw [hleaf] at hbelow hlt
      rw [hleaf'] at hbelow' hlt
      exact segments_lt_of_within hdot hdot' hbelow hbelow' (lt_of_child_lt hlt)

/-! ### The bound on the depth -/

/-- Segments pass names that are registered, on from a name that need not be. -/
structure Passes (registry : Registry) (root : String) (parts : List String) : Prop where
  no_dots : ∀ part ∈ parts, '.' ∉ part.toList
  registered : ∀ length, 1 ≤ length → length ≤ parts.length →
    extend root (parts.take length) ∈ registry.entries.map (·.1)

theorem mem_names_of_get? {module : Registered} (h : registry.get? name = some module) :
    name ∈ registry.entries.map (·.1) := by
  obtain ⟨entry, hfind, -⟩ := Option.map_eq_some_iff.mp h
  have hname : entry.1 = name := by simpa using List.find?_some hfind
  exact List.mem_map.mpr ⟨entry, List.mem_of_find?_eq_some hfind, hname⟩

theorem LeadsTo.passes (h : registry.LeadsTo root parts) : registry.Passes root parts := by
  refine ⟨h.no_dots, fun length hpos hle => ?_⟩
  rcases Nat.lt_or_eq_of_le hle with hlt | rfl
  · obtain ⟨module, hget, -⟩ := h.packages length hpos hlt
    exact mem_names_of_get? hget
  · obtain ⟨module, hget, -⟩ := h.module
    rw [List.take_length]
    exact mem_names_of_get? hget

theorem Passes.nil : registry.Passes root [] :=
  ⟨nofun, fun length hpos hle => absurd hpos (by rw [Nat.le_zero.mp hle]; decide)⟩

theorem Passes.cons {leaf : String} (hdot : '.' ∉ leaf.toList)
    (hleaf : child root leaf ∈ registry.entries.map (·.1))
    (h : registry.Passes (child root leaf) parts) : registry.Passes root (leaf :: parts) := by
  refine ⟨List.forall_mem_cons.mpr ⟨hdot, h.no_dots⟩, fun length hpos hle => ?_⟩
  obtain ⟨before, rfl⟩ := Nat.exists_eq_add_of_le' hpos
  rw [List.take_succ_cons, extend_cons]
  cases before with
  | zero => exact hleaf
  | succ before => exact h.registered (before + 1) (by omega) (Nat.le_of_succ_le_succ hle)

/-- There are not more names on a way than entries. -/
theorem Passes.length_le (h : registry.Passes root parts) :
    parts.length ≤ registry.entries.length := by
  -- Each name on the way has a number of segments of its own.
  let way := (List.range parts.length).map fun length => extend root (parts.take (length + 1))
  have hdistinct : way.Nodup := by
    refine List.Nodup.map_on (fun length hlength other hother hsame => ?_) List.nodup_range
    have htake : ∀ length, ∀ part ∈ parts.take length, '.' ∉ part.toList :=
      fun length part hpart => h.no_dots part (List.mem_of_mem_take hpart)
    have hsegments := congrArg (fun name => (segments name).length) hsame
    rw [segments_extend root (htake _), segments_extend root (htake _), List.length_append,
      List.length_append, List.length_take, List.length_take] at hsegments
    rw [List.mem_range] at hlength hother
    omega
  have hsub : way ⊆ registry.entries.map (·.1) := by
    intro name hname
    obtain ⟨length, hlength, rfl⟩ := List.mem_map.mp hname
    exact h.registered (length + 1) (by omega) (List.mem_range.mp hlength)
  have hlength := (List.subperm_of_subset hdistinct hsub).length_le
  rwa [List.length_map, List.length_map, List.length_range] at hlength

/-- A walk finds all that is below a package if it may go as deep as there are entries. -/
theorem mem_walk_iff_finds (h : registry.Ordered) (hdepth : registry.entries.length ≤ depth) :
    name ∈ registry.walk isExcluded depth root ↔ registry.Finds isExcluded root name := by
  rw [mem_walk h]
  refine and_congr_right fun _ => exists_congr fun parts => ?_
  exact ⟨And.right, fun hleads => ⟨hleads.1.passes.length_le.trans hdepth, hleads⟩⟩

/-- To go deeper than there are entries finds nothing more. -/
theorem walk_eq_of_le (h : registry.Ordered) {depth' : Nat}
    (hdepth : registry.entries.length ≤ depth) (hdepth' : registry.entries.length ≤ depth') :
    registry.walk isExcluded depth root = registry.walk isExcluded depth' root := by
  have hne {name other : String} (hlt : segments name < segments other) : name ≠ other := by
    rintro rfl
    exact List.lt_irrefl _ hlt
  refine List.Perm.eq_of_pairwise (fun name other _ _ hlt hgt => ?_) (pairwise_walk h)
    (pairwise_walk h) ?_
  · exact absurd (List.lt_trans hlt hgt) (List.lt_irrefl _)
  · refine (List.perm_ext_iff_of_nodup ((pairwise_walk h).imp hne)
      ((pairwise_walk h).imp hne)).mpr fun name => ?_
    rw [mem_walk_iff_finds h hdepth, mem_walk_iff_finds h hdepth']

end Registry

namespace Source

open Query

variable {tree : FileTree} {isExcluded : String → Bool} {registry : Registry}
  {package root name : String}

/-! ### Questions to a registry -/

/-- A registry lists only what is registered as a package. -/
theorem exec_children_eq_ok_iff :
    (exec (children package) tree (.ofRegistry registry)).1.isOk = true ↔
      registry.IsPackage package := by
  constructor
  · intro h
    cases hget : registry.get? package with
    | none =>
      have hfails : (exec (children package) tree (.ofRegistry registry)).1 =
          .error (.cannotImport package (.missing package)) := by
        rw [children, exec_bind_of_ok _ (exec_get tree _)]
        dsimp only
        rw [registered, hget]
        rfl
      rw [hfails] at h
      cases h
    | some module =>
      refine ⟨module, hget, ?_⟩
      by_contra hmodule
      have hfails : (exec (children package) tree (.ofRegistry registry)).1 =
          .error (.cannotImport package (.notPackage package)) := by
        have hregistered : exec (registered registry package) tree (.ofRegistry registry) =
            (.ok module, .ofRegistry registry) := by
          rw [registered, hget]
          rfl
        rw [children, exec_bind_of_ok _ (exec_get tree _)]
        dsimp only
        rw [exec_bind_of_ok _ hregistered, if_neg hmodule]
        rfl
      rw [hfails] at h
      cases h
  · rintro ⟨module, hget, hpackage⟩
    rw [exec_children_ofRegistry hget hpackage tree]
    rfl

/-- A walk through a registry gives the list of names. -/
theorem exec_leavesTo_ofRegistry (h : registry.Ordered) (hpackage : registry.IsPackage package)
    (depth : Nat) :
    exec (leavesTo isExcluded depth package) tree (.ofRegistry registry) =
      (.ok (registry.walk isExcluded depth package), .ofRegistry registry) := by
  induction depth generalizing package with
  | zero => rfl
  | succ depth ih =>
    obtain ⟨module, hget, hisPackage⟩ := hpackage
    have hentry : ∀ entry ∈ registry.childrenOf package,
        exec (((fun child : Child =>
          if child.isPackage then leavesTo isExcluded depth child.name
          else return if isExcluded child.name then [] else [child.name]) ∘ asChild) entry)
            tree (.ofRegistry registry) =
          (.ok (Registry.visited isExcluded (registry.walk isExcluded depth) entry),
            .ofRegistry registry) := by
      intro entry hentry
      obtain ⟨hentryget, -⟩ := (Registry.mem_childrenOf_iff h).mp hentry
      rw [Function.comp_apply, Registry.visited]
      cases hinner : entry.2.isPackage with
      | true =>
        rw [if_pos (show (asChild entry).isPackage = true from hinner), if_pos rfl]
        exact ih ⟨_, hentryget, hinner⟩
      | false =>
        rw [if_neg (by simp [asChild, hinner]), if_neg Bool.false_ne_true]
        rfl
    rw [leavesTo, exec_bind_of_ok _ (exec_children_ofRegistry hget hisPackage tree),
      List.mapM_map, exec_bind_of_ok _ (exec_mapM_of_ok hentry), exec_pure, Registry.walk,
      List.flatMap_def]

/-- What is no package is not listed. -/
theorem exec_children_of_not_package (hpackage : ¬ registry.IsPackage package) :
    ∃ fault after, exec (children package) tree (.ofRegistry registry) = (.error fault, after) := by
  rw [← @exec_children_eq_ok_iff tree registry package] at hpackage
  cases hexec : exec (children package) tree (.ofRegistry registry) with
  | mk answer after =>
    rw [hexec] at hpackage
    cases answer with
    | ok found => exact absurd rfl hpackage
    | error fault => exact ⟨fault, after, rfl⟩

/-- What a walk through a registry answers, with the bound on its depth that it has. -/
theorem exec_leaves_ofRegistry (h : registry.Ordered) (hpackage : registry.IsPackage root) :
    exec (leaves isExcluded root) tree (.ofRegistry registry) =
      (.ok (registry.walk isExcluded (registry.entries.length + 1) root),
        .ofRegistry registry) := by
  rw [leaves, exec_bind_of_ok _ (exec_get tree _)]
  exact exec_leavesTo_ofRegistry h hpackage _

/-- A walk from what is not listed fails. -/
theorem exec_leaves_of_refused {fault : Error} {after : Source}
    (h : exec (children root) tree (.ofRegistry registry) = (.error fault, after)) :
    exec (leaves isExcluded root) tree (.ofRegistry registry) = (.error fault, after) := by
  rw [leaves, exec_bind_of_ok _ (exec_get tree _)]
  exact exec_leavesTo_of_refused h (Nat.succ_pos _)

/-! ### Walks without a bound -/

/-- A walk through entries of a registry gives the list of names, if the walks inside packages
do. -/
theorem walks_entries {entries : List (String × Registered)} {inside : String → List String}
    (hpackages : ∀ entry ∈ entries, entry.2.isPackage = true → registry.IsPackage entry.1)
    (hinside : ∀ entry ∈ entries, entry.2.isPackage = true →
      Walks tree isExcluded ((registry.childrenOf entry.1).map asChild) (.ofRegistry registry)
        (.ok (inside entry.1)) (.ofRegistry registry)) :
    Walks tree isExcluded (entries.map asChild) (.ofRegistry registry)
      (.ok (entries.flatMap (Registry.visited isExcluded inside))) (.ofRegistry registry) := by
  induction entries with
  | nil => exact .done
  | cons entry rest ih =>
    obtain ⟨hpackage, hpackages⟩ := List.forall_mem_cons.mp hpackages
    obtain ⟨hentry, hinside⟩ := List.forall_mem_cons.mp hinside
    have honward := ih hpackages hinside
    rw [List.map_cons, List.flatMap_cons, Registry.visited]
    cases hisPackage : entry.2.isPackage with
    | true =>
      obtain ⟨module, hget, hmodule⟩ := hpackage hisPackage
      have hlisted : exec (children (asChild entry).name) tree (.ofRegistry registry) = _ :=
        exec_children_ofRegistry hget hmodule tree
      have hchild : (asChild entry).isPackage = true := hisPackage
      have hwalks := Walks.package hchild hlisted (hentry hisPackage) honward
      rw [if_pos rfl]
      exact hwalks
    | false =>
      have hchild : (asChild entry).isPackage = false := hisPackage
      have hwalks := Walks.module hchild honward
      rw [if_neg Bool.false_ne_true]
      exact hwalks

/-- A walk through what is inside a package gives the list of names that a walk to a depth finds, if
registered names do not lead on to that depth. -/
theorem walks_ofRegistry (h : registry.Ordered) {depth : Nat}
    (hdepth : ∀ parts, registry.Passes package parts → parts.length < depth) :
    Walks tree isExcluded ((registry.childrenOf package).map asChild) (.ofRegistry registry)
      (.ok (registry.walk isExcluded depth package)) (.ofRegistry registry) := by
  induction depth generalizing package with
  | zero => exact absurd (hdepth [] .nil) (Nat.not_lt_zero _)
  | succ depth ih =>
    rw [Registry.walk]
    refine walks_entries (fun entry hentry hisPackage => ?_) fun entry hentry _ => ih ?_
    · exact ⟨_, ((Registry.mem_childrenOf_iff h).mp hentry).1, hisPackage⟩
    · intro parts hparts
      obtain ⟨hget, leaf, hleaf, hdot⟩ := (Registry.mem_childrenOf_iff h).mp hentry
      rw [hleaf] at hget hparts
      exact Nat.lt_of_succ_lt_succ
        (hdepth (leaf :: parts) (.cons hdot (Registry.mem_names_of_get? hget) hparts))

/-- A walk without a bound has one answer, which is that of `leaves`. -/
theorem walks_iff_leaves (h : registry.Ordered) (isExcluded : String → Bool) (root : String)
    (tree : FileTree) (answer : Except Error (List String)) (after : Source) :
    Walks tree isExcluded [{ name := root, isPackage := true }] (.ofRegistry registry) answer
        after ↔
      exec (leaves isExcluded root) tree (.ofRegistry registry) = (answer, after) := by
  have hwalks : ∃ answer after,
      Walks tree isExcluded [{ name := root, isPackage := true }] (.ofRegistry registry) answer
        after ∧
      exec (leaves isExcluded root) tree (.ofRegistry registry) = (answer, after) := by
    have hroot : ({ name := root, isPackage := true } : Child).isPackage = true := rfl
    by_cases hpackage : registry.IsPackage root
    · refine ⟨_, _, ?_, exec_leaves_ofRegistry h hpackage⟩
      obtain ⟨module, hget, hmodule⟩ := hpackage
      have hinside := @walks_ofRegistry tree isExcluded registry root h
        (registry.entries.length + 1) fun parts hparts => Nat.lt_succ_of_le hparts.length_le
      have hwalks := Walks.package hroot (exec_children_ofRegistry hget hmodule tree) hinside .done
      rw [Except.map, List.append_nil] at hwalks
      exact hwalks
    · obtain ⟨fault, after, hrefused⟩ := @exec_children_of_not_package tree registry root hpackage
      exact ⟨_, _, .unlisted hroot hrefused, exec_leaves_of_refused hrefused⟩
  obtain ⟨answer', after', hwalks, hleaves⟩ := hwalks
  rw [hleaves]
  constructor
  · intro hother
    obtain ⟨rfl, rfl⟩ := hwalks.unique hother
    rfl
  · intro heq
    cases heq
    exact hwalks

/-! ### What a walk finds is loaded -/

theorem exec_load_of_finds (h : registry.Finds isExcluded root name) :
    exec (load name) tree (.ofRegistry registry) =
      (.ok
        { name, symbols := ((registry.get? name).getD {}).symbols
          source := ((registry.get? name).getD {}).source },
        .ofRegistry registry) := by
  obtain ⟨-, parts, hleads, rfl⟩ := h
  obtain ⟨module, hget, -⟩ := hleads.module
  rw [exec_load_ofRegistry, hget]
  rfl

/-- The analysis of a package in a registry has a descriptor for each module that is found. -/
theorem exec_analyze_ofRegistry (h : registry.Ordered) (hpackage : registry.IsPackage root)
    (order : MemberOrder) :
    exec (analyze isExcluded order root) tree (.ofRegistry registry) =
      (.ok
        { package := root
          modules := (registry.walk isExcluded (registry.entries.length + 1) root).map
            fun name => descriptorOf order (name, (registry.get? name).getD {}) },
        .ofRegistry registry) := by
  have hdescribe : ∀ name ∈ registry.walk isExcluded (registry.entries.length + 1) root,
      exec (describe order name) tree (.ofRegistry registry) =
        (.ok (descriptorOf order (name, (registry.get? name).getD {})),
          .ofRegistry registry) := by
    intro name hname
    have hfinds := (Registry.mem_walk_iff_finds h (Nat.le_succ _)).mp hname
    rw [describe, exec_bind_of_ok _ (exec_load_of_finds hfinds)]
    rfl
  rw [analyze, exec_bind_of_ok _ (exec_leaves_ofRegistry h hpackage),
    exec_bind_of_ok _ (exec_mapM_of_ok hdescribe)]
  rfl

/-- A walk through a registry, whatever was registered in whatever order. It succeeds if the root
is registered as a package. It then finds, in the order of the segments and each name once, the
modules that are not excluded and to which registered packages lead from the root; all of them can
be loaded, and a walk that may go deeper finds no more. It answers what a walk without any bound on
its depth answers, which has one answer and no other. And an analysis fails only if the root is not
registered as a package. -/
theorem exact_walk_of_registry (listing : List (String × Registered)) (isExcluded : String → Bool)
    (order : MemberOrder) (root : String) (tree : FileTree) :
    let registry := Registry.ofListing listing
    let walk := (exec (leaves isExcluded root) tree (.ofRegistry registry)).1
    (walk.isOk = true ↔ registry.IsPackage root) ∧
      (∀ names, walk = .ok names →
        names.Pairwise (fun name other => Name.segments name < Name.segments other) ∧
        (∀ name, name ∈ names ↔ registry.Finds isExcluded root name) ∧
        (∀ name ∈ names, (exec (load name) tree (.ofRegistry registry)).1.isOk = true) ∧
        ∀ depth, registry.entries.length < depth →
          (exec (leavesTo isExcluded depth root) tree (.ofRegistry registry)).1 = .ok names) ∧
      (∀ answer after,
        Walks tree isExcluded [{ name := root, isPackage := true }] (.ofRegistry registry) answer
          after ↔
        exec (leaves isExcluded root) tree (.ofRegistry registry) = (answer, after)) ∧
      ((exec (analyze isExcluded order root) tree (.ofRegistry registry)).1.isOk = true ↔
        registry.IsPackage root) := by
  intro registry walk
  have hordered : registry.Ordered := Registry.ordered_ofListing listing
  have hwalks := walks_iff_leaves hordered isExcluded root tree
  by_cases hpackage : registry.IsPackage root
  · have hwalk : walk = .ok (registry.walk isExcluded (registry.entries.length + 1) root) :=
      congrArg Prod.fst (exec_leaves_ofRegistry hordered hpackage)
    have hfinds : ∀ name, name ∈ registry.walk isExcluded (registry.entries.length + 1) root ↔
        registry.Finds isExcluded root name :=
      fun name => Registry.mem_walk_iff_finds hordered (Nat.le_succ _)
    refine ⟨iff_of_true (by rw [hwalk]; rfl) hpackage, fun names hnames => ?_, hwalks, ?_⟩
    · obtain rfl := Except.ok.inj (hwalk.symm.trans hnames)
      refine ⟨Registry.pairwise_walk hordered, hfinds, fun name hname => ?_,
        fun depth hdepth => ?_⟩
      · rw [exec_load_of_finds ((hfinds name).mp hname)]
        rfl
      · rw [exec_leavesTo_ofRegistry hordered hpackage,
          Registry.walk_eq_of_le hordered (Nat.le_of_lt hdepth) (Nat.le_succ _)]
    · rw [exec_analyze_ofRegistry hordered hpackage]
      exact iff_of_true rfl hpackage
  · obtain ⟨fault, after, hrefused⟩ := @exec_children_of_not_package tree registry root hpackage
    have hfails : exec (leaves isExcluded root) tree (.ofRegistry registry) =
        (.error fault, after) := exec_leaves_of_refused hrefused
    have hwalk : walk = .error fault := congrArg Prod.fst hfails
    refine ⟨iff_of_false (by rw [hwalk]; exact Bool.false_ne_true) hpackage, fun names hnames => ?_,
      hwalks, ?_⟩
    · rw [hwalk] at hnames
      cases hnames
    · rw [analyze, exec_bind_of_error _ hfails]
      exact iff_of_false Bool.false_ne_true hpackage

end Source

end DocStubs
