import DocStubs.Proofs.Source.RegistryWalk
import DocStubs.Proofs.Text.ByteOrder

/-!
# What a registry lists

The modules of a package are looked for in one stretch of the table: from the name of the package
and a dot on, as long as names start with it. Names may hold characters that come before the dot,
and then what is below a package is not all in one stretch with the package itself. It is in one
stretch after the dot, though, so the scan finds what a look at every registered name would find:
the names that are in the package if their last segment is taken away.

What is registered under a name is what was registered there last.

## Main definitions

* `Registry.latest?` — what was registered last under a name

## Main results

* `Registry.get?_ofListing` — what is registered under a name
* `Name.parent?_eq_some_iff` — a name and its last segment
* `Source.children_of_registry_are_filtered` — the scan is a filter of the table
-/

namespace DocStubs

/-! ### The last segment of a name -/

namespace Name

/-- The last segment of a name is what follows its last dot. -/
theorem parent?_eq_some_iff {name package leaf : String} :
    parent? name = some (package, leaf) ↔ name = child package leaf ∧ '.' ∉ leaf.toList := by
  rw [parent?, Cut.last?, Option.map_eq_some_iff]
  constructor
  · rintro ⟨⟨before, after⟩, hlast, hparts⟩
    obtain ⟨rfl, rfl⟩ : String.ofList before = package ∧ String.ofList after = leaf := by
      simpa using hparts
    obtain ⟨hname, hafter⟩ := Cut.lastOf?_eq_some_iff.mp hlast
    refine ⟨String.toList_inj.mp ?_, by simpa using hafter⟩
    simp [child, hname]
  · rintro ⟨rfl, hleaf⟩
    refine ⟨(package.toList, leaf.toList), Cut.lastOf?_eq_some_iff.mpr ⟨?_, hleaf⟩, by simp⟩
    simp [child]

/-- A name is directly in a package. -/
def isIn (package name : String) : Bool := (parent? name).any (·.1 = package)

theorem isIn_iff {package name : String} :
    isIn package name = true ↔ ∃ leaf, name = child package leaf ∧ '.' ∉ leaf.toList := by
  rw [isIn, Option.any_eq_true]
  constructor
  · rintro ⟨⟨_, leaf⟩, hparent, hpackage⟩
    obtain rfl := of_decide_eq_true hpackage
    exact ⟨leaf, parent?_eq_some_iff.mp hparent⟩
  · rintro ⟨leaf, hname⟩
    exact ⟨(package, leaf), parent?_eq_some_iff.mpr hname, decide_eq_true rfl⟩

end Name

/-! ### What is registered -/

namespace Registry

variable {registry : Registry}

/-- What was registered last under a name. -/
def latest? (listing : List (String × Registered)) (name : String) : Option Registered :=
  (listing.reverse.find? (·.1 = name)).map (·.2)

theorem find?_insertInto (name other : String) (module : Registered)
    (entries : List (String × Registered)) :
    (insertInto name module entries).find? (·.1 = other) =
      if other = name then some (name, module) else entries.find? (·.1 = other) := by
  induction entries with
  | nil =>
    by_cases h : other = name
    · simp [insertInto, h]
    · simp [insertInto, h, Ne.symm h]
  | cons first rest ih =>
    rw [insertInto]
    split
    · by_cases h : other = name
      · simp [h]
      · simp [h, Ne.symm h]
    · split
      · rename_i hsame
        by_cases h : other = name
        · simp [h]
        · simp [h, ← hsame, Ne.symm h]
      · rename_i hne
        rw [List.find?_cons, List.find?_cons, ih]
        by_cases h : other = name
        · simp [h, Ne.symm hne]
        · simp [h]

theorem get?_insert (registry : Registry) (name other : String) (module : Registered) :
    (registry.insert name module).get? other =
      if other = name then some module else registry.get? other := by
  rw [get?, insert, find?_insertInto]
  split
  · rfl
  · rfl

/-- What is registered under a name is what was registered there last. -/
theorem get?_ofListing (listing : List (String × Registered)) (name : String) :
    (ofListing listing).get? name = latest? listing name := by
  induction listing using List.reverseRecOn with
  | nil => rfl
  | append_singleton listing entry ih =>
    have hinsert : ofListing (listing ++ [entry]) = (ofListing listing).insert entry.1 entry.2 := by
      rw [ofListing, List.foldl_append]
      rfl
    rw [hinsert, get?_insert, ih, latest?, latest?, List.reverse_append, List.reverse_singleton,
      List.singleton_append, List.find?_cons]
    by_cases h : name = entry.1
    · simp [h]
    · simp [h, Ne.symm h]

/-- The stretch of the table where the modules of a package are looked for holds all of them. -/
theorem Ordered.childrenOf_eq_filter (h : registry.Ordered) (package : String) :
    registry.childrenOf package = registry.entries.filter (Name.isIn package ·.1) := by
  rw [h.childrenOf_eq, List.filter_filter]
  refine List.filter_congr fun entry hentry => ?_
  have hmem := @Ordered.mem_childrenOf registry package entry h
  rw [h.childrenOf_eq, List.filter_filter, List.mem_filter, and_congr_right_iff] at hmem
  rw [Bool.eq_iff_iff, Name.isIn_iff]
  exact hmem hentry

end Registry

/-! ### What is listed -/

namespace Source

open Query

/-- What a registry lists for a package, whatever was registered in whatever order. It is a filter
of the whole table, in the order of bytes and each name once: the registered names that are one
segment longer, with what was registered last under each. -/
theorem children_of_registry_are_filtered (listing : List (String × Registered)) {package : String}
    (h : (Registry.ofListing listing).IsPackage package) (tree : FileTree) :
    let registry := Registry.ofListing listing
    ∃ found,
      exec (children package) tree (.ofRegistry registry) = (.ok found, .ofRegistry registry) ∧
      found = (registry.entries.filter (Name.isIn package ·.1)).map asChild ∧
      (found.map (·.name)).Pairwise Bytewise ∧
      ∀ child, child ∈ found ↔ ∃ leaf module, '.' ∉ leaf.toList ∧
        child = { name := package ++ "." ++ leaf, isPackage := module.isPackage } ∧
        Registry.latest? listing (package ++ "." ++ leaf) = some module := by
  intro registry
  have hordered : registry.Ordered := Registry.ordered_ofListing listing
  obtain ⟨module, hget, hpackage⟩ := h
  refine ⟨_, exec_children_ofRegistry hget hpackage tree,
    by rw [hordered.childrenOf_eq_filter], ?_, fun child => ?_⟩
  · rw [List.map_map, List.pairwise_map]
    exact (hordered.pairwise_childrenOf package).imp bytewise_iff_lt.mpr
  · rw [List.mem_map]
    constructor
    · rintro ⟨entry, hentry, rfl⟩
      obtain ⟨hregistered, leaf, hname, hleaf⟩ := (Registry.mem_childrenOf_iff hordered).mp hentry
      refine ⟨leaf, entry.2, hleaf, ?_, ?_⟩
      · rw [asChild, hname]
        rfl
      · rw [← Registry.get?_ofListing]
        rwa [hname] at hregistered
    · rintro ⟨leaf, module, hleaf, rfl, hlatest⟩
      refine ⟨(package ++ "." ++ leaf, module), ?_, rfl⟩
      refine (Registry.mem_childrenOf_iff hordered).mpr ⟨?_, leaf, rfl, hleaf⟩
      rwa [← Registry.get?_ofListing] at hlatest

/-- Names around those that are in the package `demo`. -/
def crowd : List (String × Registered) :=
  [("demo0", {}), ("demo.a.b", {}), ("demo", { isPackage := true }), ("demo-x", {}),
    ("demo.", { isPackage := true }), ("demo.é", {}), ("demo.a", { isPackage := true }),
    ("demo.a", {})]

theorem children_among_crowd :
    (Registry.ofListing crowd).IsPackage "demo" ∧
    (exec (children "demo") {} (.ofRegistry (Registry.ofListing crowd))).1 =
      .ok [⟨"demo.", true⟩, ⟨"demo.a", false⟩, ⟨"demo.é", false⟩] := by
  have hpackage : (Registry.ofListing crowd).IsPackage "demo" :=
    ⟨{ isPackage := true }, by decide +kernel, rfl⟩
  obtain ⟨found, hexec, hfound, -⟩ := children_of_registry_are_filtered crowd hpackage {}
  refine ⟨hpackage, ?_⟩
  rw [hexec, hfound]
  decide +kernel

end Source

end DocStubs
