import DocStubs.Proofs.Source.Inventory

/-!
# Names of modules are distinct

A walk finds each module once. What is directly inside a package has distinct names of one segment
more, because a directory is listed with the first item of each name only and a registry holds a
name once; and a name is inside at most one of these. So no two of the modules below a package are
named alike, and all their names go on with a dot after that of the package.

## Main definitions

* `Source.Opened` — a source as it can come about
* `Source.Below` — distinct names inside a package

## Main results

* `Source.below_of_leavesTo` — what a walk finds
* `Source.below_of_analyze` — what an analysis describes
-/

namespace DocStubs

namespace Source

open Query

variable {tree : FileTree} {before after source : Source} {package : String}
  {isExcluded : String → Bool} {names : List String}

/-- A source as it can come about: packages with whatever is remembered of them, or a registry
with whatever was registered in it. -/
inductive Opened : Source → Prop
  | packages (packages : Packages) : Opened (.ofPackages packages)
  | registry (listing : List (String × Registered)) :
      Opened (.ofRegistry (Registry.ofListing listing))

/-- Distinct names that go on with a dot after the name of a package. -/
structure Below (package : String) (names : List String) : Prop where
  distinct : names.Nodup
  inside : ∀ name ∈ names, ∃ rest, name = Name.child package rest

theorem Below.within (h : Below package names) {name : String} (hname : name ∈ names) :
    Name.Within package name := by
  obtain ⟨rest, rfl⟩ := h.inside name hname
  exact Name.within_child package rest

/-! ### What is directly inside a package -/

/-- What is listed in a package has distinct names of one segment more. -/
theorem leaves_of_children {found : List Child} (hbefore : before.Opened)
    (h : exec (children package) tree before = (.ok found, after)) :
    after.Opened ∧ (found.map (·.name)).Nodup ∧
      ∀ child ∈ found, ∃ leaf, child.name = Name.child package leaf ∧ '.' ∉ leaf.toList := by
  cases hbefore with
  | registry listing =>
    obtain ⟨rfl, rfl⟩ := exec_children_ofRegistry_eq_ok h
    have hordered := Registry.ordered_ofListing listing
    refine ⟨.registry listing, ?_, fun child hchild => ?_⟩
    · rw [List.map_map]
      refine List.pairwise_map.mpr ((hordered.pairwise_childrenOf package).imp fun hlt => ?_)
      exact Std.ne_of_lt hlt
    · obtain ⟨entry, hentry, rfl⟩ := List.mem_map.mp hchild
      exact (hordered.mem_childrenOf.mp hentry).2
  | packages packages =>
    rw [exec_children_ofPackages] at h
    obtain ⟨hanswer, rfl⟩ := Prod.mk.inj h
    obtain ⟨directory, listed, middle, -, hlisted, rfl, -⟩ :=
      Packages.exec_children_eq_ok (Prod.ext hanswer rfl)
    refine ⟨.packages _, ?_, fun child hchild => ?_⟩
    · rw [List.map_map]
      refine List.pairwise_map.mpr ((FileTree.pairwise_importables hlisted).imp fun hlt hsame => ?_)
      exact Std.ne_of_lt hlt (Name.child_injective hsame)
    · obtain ⟨item, hitem, rfl⟩ := List.mem_map.mp hchild
      exact ⟨item.1, rfl, dot_not_mem_identifier (FileTree.isIdentifier_of_mem hlisted hitem)⟩

/-! ### Walks -/

/-- What a walk finds in one child of a package. -/
inductive FoundIn (child : Child) : List String → Prop
  | nothing : FoundIn child []
  | module : FoundIn child [child.name]
  | package {names : List String} (below : Below child.name names) : FoundIn child names

theorem FoundIn.nodup {child : Child} (h : FoundIn child names) : names.Nodup := by
  cases h with
  | nothing => exact List.nodup_nil
  | module => exact List.nodup_singleton _
  | package below => exact below.distinct

theorem FoundIn.within {child : Child} (h : FoundIn child names) {name : String}
    (hname : name ∈ names) : Name.Within child.name name := by
  cases h with
  | nothing => cases hname
  | module =>
    rw [List.mem_singleton.mp hname]
    exact Name.Within.refl _
  | package below => exact below.within hname

/-- What is found in a child goes on after the name of the package that holds it. -/
theorem FoundIn.inside {child : Child} {leaf : String} (h : FoundIn child names)
    (hleaf : child.name = Name.child package leaf) {name : String} (hname : name ∈ names) :
    ∃ rest, name = Name.child package rest := by
  cases h with
  | nothing => cases hname
  | module => exact ⟨leaf, (List.mem_singleton.mp hname).trans hleaf⟩
  | package below =>
    obtain ⟨rest, rfl⟩ := below.inside name hname
    refine ⟨Name.child leaf rest, ?_⟩
    rw [hleaf]
    simp only [Name.child, String.append_assoc]

/-- What is found in distinct children is distinct: a name is inside at most one of them. -/
theorem below_flatten {found : List Child} {parts : List (List String)}
    (hnodup : (found.map (·.name)).Nodup)
    (hleaves : ∀ child ∈ found, ∃ leaf, child.name = Name.child package leaf ∧ '.' ∉ leaf.toList)
    (h : List.Forall₂ FoundIn found parts) : Below package parts.flatten := by
  induction h with
  | nil => exact ⟨List.nodup_nil, List.forall_mem_nil _⟩
  | @cons child part rest parts hpart hparts ih =>
    rw [List.map_cons, List.nodup_cons] at hnodup
    obtain ⟨⟨leaf, hleaf, hdot⟩, hrest⟩ := List.forall_mem_cons.mp hleaves
    obtain ⟨hdistinct, hinside⟩ := ih hnodup.2 hrest
    rw [List.flatten_cons]
    refine ⟨List.nodup_append.mpr ⟨hpart.nodup, hdistinct, ?_⟩, fun name hname => ?_⟩
    · rintro name hname _ hname' rfl
      obtain ⟨other, hother, hmem⟩ := List.mem_flatten.mp hname'
      obtain ⟨child', hchild', hfound⟩ := FileTree.exists_mem_of_forall₂ hparts.flip hother
      obtain ⟨leaf', hleaf', hdot'⟩ := hrest child' hchild'
      have hwithin := hpart.within hname
      have hwithin' := FoundIn.within hfound hmem
      rw [hleaf] at hwithin
      rw [hleaf'] at hwithin'
      obtain rfl := Name.leaf_eq_of_within hdot hdot' hwithin hwithin'
      refine hnodup.1 (List.mem_map.mpr ⟨child', hchild', ?_⟩)
      rw [hleaf, hleaf']
    · rcases List.mem_append.mp hname with hname | hname
      · exact hpart.inside hleaf hname
      · exact hinside name hname

theorem below_of_leavesTo {depth : Nat} (hbefore : before.Opened)
    (h : exec (leavesTo isExcluded depth package) tree before = (.ok names, after)) :
    after.Opened ∧ Below package names := by
  induction depth generalizing package before after names with
  | zero =>
    cases h
    exact ⟨hbefore, List.nodup_nil, List.forall_mem_nil _⟩
  | succ depth ih =>
    rw [leavesTo] at h
    obtain ⟨found, middle, hfound, h⟩ := exec_bind_eq_ok h
    obtain ⟨parts, last, hparts, h⟩ := exec_bind_eq_ok h
    cases h
    obtain ⟨hmiddle, hnodup, hleaves⟩ := leaves_of_children hbefore hfound
    have hvisit : ∀ child ∈ found, ∀ {before : Source} {answer after}, before.Opened →
        exec (if child.isPackage then leavesTo isExcluded depth child.name
          else return if isExcluded child.name then [] else [child.name]) tree before =
            (.ok answer, after) →
        after.Opened ∧ FoundIn child answer := by
      intro child _ before answer after hbefore hanswer
      split at hanswer
      · obtain ⟨hafter, hbelow⟩ := ih hbefore hanswer
        exact ⟨hafter, .package hbelow⟩
      · cases hanswer
        refine ⟨hbefore, ?_⟩
        split
        · exact .nothing
        · exact .module
    obtain ⟨hafter, hforall⟩ := forall₂_of_exec_mapM Opened FoundIn hvisit hmiddle hparts
    exact ⟨hafter, below_flatten hnodup hleaves hforall⟩

/-- The modules that an analysis describes have distinct names inside the package. -/
theorem below_of_analyze {order : MemberOrder} {analysis : Analysis} (hsource : source.Opened)
    (h : (exec (analyze isExcluded order package) tree source).1 = .ok analysis) :
    Below package (analysis.modules.map (·.name)) := by
  obtain ⟨names, middle, hnames, h⟩ := exec_bind_eq_ok (Prod.ext h rfl)
  obtain ⟨modules, last, hmodules, h⟩ := exec_bind_eq_ok h
  cases h
  have hsame : names = modules.map (·.name) := by
    have hforall := (forall₂_of_exec_mapM (fun _ => True)
      (fun name (module : Descriptor) => name = module.name)
      (fun _ _ _ _ _ _ hmodule => ⟨trivial, (name_of_describe hmodule).symm⟩) trivial hmodules).2
    exact List.forall₂_eq_eq_eq ▸ (List.forall₂_map_right_iff.mpr hforall)
  dsimp only
  rw [← hsame]
  exact (below_of_leavesTo hsource hnames).2

end Source

end DocStubs
