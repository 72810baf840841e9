import DocStubs.Proofs.Packages.Listing
import DocStubs.Proofs.Query
import DocStubs.Proofs.Text.Dotted

/-!
# Packages that remember

What packages answer is said here without a memory first: where a name is, what is inside a
package and what a module holds are functions of the file tree and the search paths. A memory is
`Sound` if it holds nothing else than these functions give; then every question is answered as if
nothing were remembered, also if the answer is a failure.

Finding a name and loading a module keep a memory sound. Listing a package does so only if listing
and searching agree on all it lists.

## Main definitions

* `Packages.locationOf`, `Packages.childrenOf`, `Packages.loadedFrom` — answers without a memory
* `Packages.Sound` — a memory that holds only what would be found

## Main results

* `Packages.exec_locate`, `Packages.exec_children`, `Packages.exec_load` — with a sound memory,
  questions are answered as without one
-/

namespace DocStubs

namespace Packages

open Query

variable {tree : FileTree} {packages : Packages} {paths : List String} {name : String}
  {location : Location}

/-! ### Answers without a memory -/

/-- The answer for what was found for a name. -/
def settled (name : String) : Option Location → Except Error Location
  | some location => .ok location
  | none => .error (.cannotImport name (.missing name))

/-- What is found for the last segment of a name, given where the package that holds it is. -/
def foundFor (tree : FileTree) (paths : List String) (leaf : String) (outer : List String)
    (holder : Except Error Location) : Except Error (Option Location) :=
  if outer.isEmpty then .ok (paths.findSome? (tree.find? · leaf))
  else
    match holder with
    | .ok (.package directory) => .ok (tree.find? directory leaf)
    | .ok _ =>
      .error (.cannotImport (Name.ofSegments (leaf :: outer).reverse)
        (.parentNotPackage (Name.ofSegments outer.reverse)))
    | .error error => .error error

/-- Where a name is, given by its segments from the last one to the first one. -/
def locationOf (tree : FileTree) (paths : List String) : List String → Except Error Location
  | [] => .error (.cannotImport "" (.missing ""))
  | leaf :: outer => do
    settled (Name.ofSegments (leaf :: outer).reverse)
      (← foundFor tree paths leaf outer (locationOf tree paths outer))

/-- Where a name is. -/
def locationOfName (tree : FileTree) (paths : List String) (name : String) :
    Except Error Location :=
  locationOf tree paths (Name.segments name).reverse

/-- The outline and the text of a module, or the failure to import it. -/
@[irreducible] def outlined (tree : FileTree) (path name : String) :
    Except Error (Code.Outline × String) :=
  (tree.outline path name).mapError (.cannotImport name ·)

/-- What is listed in the directory of a package. -/
def listedIn (tree : FileTree) (package directory : String) :
    Except Error (List (String × Location)) :=
  match outlined tree (Path.join directory initFile) package with
  | .ok _ => (tree.importables directory).mapError (.cannotImport package <| .unlisted ·)
  | .error error => .error error

theorem listedIn_eq_ok {package directory : String} {found : List (String × Location)}
    (h : listedIn tree package directory = .ok found) :
    (outlined tree (Path.join directory initFile) package).isOk = true ∧
      tree.importables directory = .ok found := by
  rw [listedIn] at h
  cases hinit : outlined tree (Path.join directory initFile) package with
  | error error =>
    rw [hinit] at h
    cases h
  | ok _ =>
    rw [hinit] at h
    cases hfound : tree.importables directory with
    | error fault =>
      rw [hfound] at h
      cases h
    | ok _ =>
      rw [hfound] at h
      cases h
      exact ⟨rfl, rfl⟩

theorem dot_not_mem_of_listed {package directory : String} {found : List (String × Location)}
    (h : listedIn tree package directory = .ok found) {item : String × Location}
    (hitem : item ∈ found) : '.' ∉ item.1.toList :=
  dot_not_mem_identifier (FileTree.isIdentifier_of_mem (listedIn_eq_ok h).2 hitem)

theorem pairwise_listed {package directory : String} {found : List (String × Location)}
    (h : listedIn tree package directory = .ok found) :
    found.Pairwise fun item other => item.1 < other.1 :=
  FileTree.pairwise_importables (listedIn_eq_ok h).2

/-- A listed item of a package as a child. -/
def childOf (package : String) (item : String × Location) : Child :=
  { name := Name.child package item.1, isPackage := item.2.isPackage }

/-- What is directly inside a package. -/
def childrenOf (tree : FileTree) (paths : List String) (package : String) :
    Except Error (List Child) :=
  match locationOfName tree paths package with
  | .ok (.package directory) => (listedIn tree package directory).map (·.map (childOf package))
  | .ok _ => .error (.cannotImport package (.notPackage package))
  | .error error => .error error

/-- What a module at a location holds. -/
def loadedFrom (tree : FileTree) (name : String) : Location → Except Error Loaded
  | .source path =>
    (outlined tree path name).map fun (outline, text) =>
      { name, symbols := outline.symbols, source := some text }
  | .package _ => .error (.cannotImport name (.notModule name))
  | .compiled path =>
    let stub := Path.withFileName path (Name.leaf name ++ ".pyi")
    if tree.hasFile stub then
      (outlined tree stub name).map fun (outline, _) =>
        { name, symbols := outline.symbols.map fun symbol => { symbol with declaredIn := none } }
    else .ok { name }

/-- What a module holds. -/
def loadedOf (tree : FileTree) (paths : List String) (name : String) : Except Error Loaded :=
  match locationOfName tree paths name with
  | .ok location => loadedFrom tree name location
  | .error error => .error error

/-! ### What is remembered -/

/-- The remembered location of a name. -/
def location? (packages : Packages) (name : String) : Option Location :=
  (packages.located.find? (·.1 = name)).map (·.2)

/-- The memory with one more location. -/
def withLocation (packages : Packages) (name : String) (location : Location) : Packages :=
  { packages with located := (name, location) :: packages.located.filter (·.1 ≠ name) }

/-- The memory with one more package whose `__init__.py` was read. -/
def withOpened (packages : Packages) (package : String) : Packages :=
  { packages with opened := package :: packages.opened }

theorem location?_withLocation (packages : Packages) (name other : String) (location : Location) :
    (packages.withLocation name location).location? other =
      if other = name then some location else packages.location? other := by
  unfold location? withLocation
  by_cases h : other = name
  · simp [h]
  · have hfilter : (packages.located.filter (·.1 ≠ name)).find? (·.1 = other) =
        packages.located.find? (·.1 = other) := by
      rw [List.find?_filter]
      congr 1
      funext item
      by_cases hitem : item.1 = other
      · simp [hitem, h]
      · simp [hitem]
    rw [List.find?_cons_of_neg (by simpa using Ne.symm h), hfilter, if_neg h]

theorem exec_remembered? (name : String) (tree : FileTree) (packages : Packages) :
    exec (remembered? name) tree packages = (.ok (packages.location? name), packages) := rfl

theorem exec_ask {α : Type} (question : FileTree → α) (tree : FileTree) (packages : Packages) :
    exec (ask question) tree packages = (.ok (question tree), packages) := rfl

theorem exec_outline (path name : String) (tree : FileTree) (packages : Packages) :
    exec (outline path name) tree packages = (outlined tree path name, packages) := by
  rw [outline, outlined]
  rw [exec_bind_of_ok _ (exec_ask _ tree packages)]
  cases tree.outline path name <;> rfl

/-! ### Sound memories -/

/-- An `__init__.py` that was read can be read again. -/
def Reopens (tree : FileTree) (paths : List String) (packages : Packages) : Prop :=
  ∀ ⦃package directory⦄, package ∈ packages.opened →
    locationOfName tree paths package = .ok (.package directory) →
    (outlined tree (Path.join directory initFile) package).isOk = true

theorem Reopens.withOpened {package directory : String} (h : Reopens tree paths packages)
    (hlocation : locationOfName tree paths package = .ok (.package directory))
    (hinit : (outlined tree (Path.join directory initFile) package).isOk = true) :
    Reopens tree paths (packages.withOpened package) := by
  intro other directory' hmem hother
  rcases List.mem_cons.mp hmem with rfl | hmem
  · rw [hlocation] at hother
    cases hother
    exact hinit
  · exact h hmem hother

/-- A memory that holds only what would be found without it. -/
structure Sound (tree : FileTree) (paths : List String) (packages : Packages) : Prop where
  searchPaths : packages.searchPaths = paths
  located : ∀ {name location}, packages.location? name = some location →
    locationOfName tree paths name = .ok location
  reopens : Reopens tree paths packages

namespace Sound

/-- Nothing is remembered at first. -/
theorem fresh (tree : FileTree) (paths : List String) :
    Sound tree paths { searchPaths := paths } :=
  ⟨rfl, (fun h => nomatch h), (fun _ _ h => nomatch h)⟩

theorem withLocation (h : Sound tree paths packages)
    (hlocation : locationOfName tree paths name = .ok location) :
    Sound tree paths (packages.withLocation name location) := by
  refine ⟨h.searchPaths, fun {other found} hfound => ?_, h.reopens⟩
  rw [location?_withLocation] at hfound
  split at hfound
  · rename_i hsame
    cases hfound
    rw [hsame, hlocation]
  · exact h.located hfound

end Sound

/-! ### Finding names -/

/-- Remembers what was found for a name, or refuses to import it. -/
def settle (name : String) : Option Location → PackageQuery Location
  | some location => do
    remember name location
    return location
  | none => refuse name (.missing name)

/-- Looks for the last segment of a name in the package that holds it. -/
def seek (leaf : String) (outer : List String) : PackageQuery (Option Location) :=
  if outer.isEmpty then do
    let paths := (← get).searchPaths
    ask fun tree => paths.findSome? (tree.find? · leaf)
  else do
    match ← locateSegments outer with
    | .package directory => ask (·.find? directory leaf)
    | _ =>
      refuse (Name.ofSegments (leaf :: outer).reverse)
        (.parentNotPackage (Name.ofSegments outer.reverse))

/-- A name that is not remembered is looked for and then remembered. -/
theorem locateSegments_cons (leaf : String) (outer : List String) :
    locateSegments (leaf :: outer) =
      (do
        match ← remembered? (Name.ofSegments (leaf :: outer).reverse) with
        | some location => return location
        | none => settle (Name.ofSegments (leaf :: outer).reverse) (← seek leaf outer)) := by
  rw [locateSegments, seek]
  refine bind_congr fun memory => ?_
  cases memory with
  | some location => rfl
  | none =>
    dsimp only
    split
    · simp only [bind_assoc]
      refine bind_congr fun packages => bind_congr fun found => ?_
      cases found <;> rfl
    · simp only [bind_assoc]
      refine bind_congr fun location => ?_
      cases location with
      | package directory => exact bind_congr fun found => by cases found <;> rfl
      | source path | compiled path => rfl

theorem exec_settle (h : Sound tree paths packages) {found : Option Location}
    (hname : locationOfName tree paths name = settled name found) :
    ∃ after, exec (settle name found) tree packages = (settled name found, after) ∧
      Sound tree paths after := by
  cases found with
  | none => exact ⟨packages, rfl, h⟩
  | some location => exact ⟨_, rfl, h.withLocation hname⟩

theorem exec_seek (h : Sound tree paths packages) (leaf : String) {outer : List String}
    (houter : ∃ after, exec (locateSegments outer) tree packages =
      (locationOf tree paths outer, after) ∧ Sound tree paths after) :
    ∃ after, exec (seek leaf outer) tree packages =
        (foundFor tree paths leaf outer (locationOf tree paths outer), after) ∧
      Sound tree paths after := by
  unfold seek foundFor
  split
  · refine ⟨packages, ?_, h⟩
    rw [exec_bind_of_ok _ (exec_get tree packages), exec_ask, h.searchPaths]
  · obtain ⟨after, hexec, hsound⟩ := houter
    refine ⟨after, ?_, hsound⟩
    cases hlocation : locationOf tree paths outer with
    | error error =>
      rw [hlocation] at hexec
      rw [exec_bind_of_error _ hexec]
    | ok location =>
      rw [hlocation] at hexec
      rw [exec_bind_of_ok _ hexec]
      cases location <;> rfl

/-- With a sound memory, a name is found where it would be found without one. -/
theorem exec_locateSegments (h : Sound tree paths packages) {parts : List String}
    (hparts : ∀ part ∈ parts, '.' ∉ part.toList) :
    ∃ after, exec (locateSegments parts) tree packages = (locationOf tree paths parts, after) ∧
      Sound tree paths after := by
  induction parts generalizing packages with
  | nil => exact ⟨packages, rfl, h⟩
  | cons leaf outer ih =>
    have hsegments : Name.segments (Name.ofSegments (leaf :: outer).reverse) =
        (leaf :: outer).reverse := by
      refine Name.segments_ofSegments (by simp) fun part hpart => ?_
      exact hparts part (List.mem_reverse.mp hpart)
    have hname : locationOfName tree paths (Name.ofSegments (leaf :: outer).reverse) =
        locationOf tree paths (leaf :: outer) := by
      rw [locationOfName, hsegments, List.reverse_reverse]
    rw [locateSegments_cons, exec_bind_of_ok _ (exec_remembered? _ tree packages)]
    cases hmemory : packages.location? (Name.ofSegments (leaf :: outer).reverse) with
    | some location =>
      refine ⟨packages, ?_, h⟩
      rw [← hname, h.located hmemory]
      rfl
    | none =>
      obtain ⟨middle, hseek, hmiddle⟩ := exec_seek h leaf
        (ih h fun part hpart => hparts part (List.mem_cons_of_mem _ hpart))
      rw [locationOf] at hname ⊢
      cases hfound : foundFor tree paths leaf outer (locationOf tree paths outer) with
      | error error =>
        rw [hfound] at hseek
        exact ⟨middle, exec_bind_of_error _ hseek, hmiddle⟩
      | ok found =>
        rw [hfound] at hseek hname
        obtain ⟨after, hsettle, hafter⟩ := exec_settle hmiddle hname
        exact ⟨after, (exec_bind_of_ok _ hseek).trans hsettle, hafter⟩

theorem exec_locate (h : Sound tree paths packages) (name : String) :
    ∃ after, exec (locate name) tree packages = (locationOfName tree paths name, after) ∧
      Sound tree paths after :=
  exec_locateSegments h fun _ hpart =>
    Name.dot_not_mem_of_mem_segments (List.mem_reverse.mp hpart)

/-- A remembered name is not looked for. -/
theorem exec_locate_of_remembered (h : packages.location? name = some location)
    (tree : FileTree) : exec (locate name) tree packages = (.ok location, packages) := by
  rw [locate]
  obtain ⟨leaf, outer, hparts⟩ := List.exists_cons_of_ne_nil
    (fun hnil => Name.segments_ne_nil name (List.reverse_eq_nil_iff.mp hnil))
  have hname : Name.ofSegments (leaf :: outer).reverse = name := by
    rw [← hparts, List.reverse_reverse, Name.ofSegments_segments]
  rw [hparts, locateSegments_cons, hname, exec_bind_of_ok _ (exec_remembered? _ tree packages), h]
  rfl

/-! ### Listing packages -/

variable {package directory : String} {found : List (String × Location)}

/-- The memory after a package was listed. -/
def rememberAll (package : String) (found : List (String × Location)) (packages : Packages) :
    Packages :=
  found.foldl (fun memory item => memory.withLocation (Name.child package item.1) item.2) packages

theorem opened_rememberAll (package : String) (found : List (String × Location))
    (packages : Packages) : (packages.rememberAll package found).opened = packages.opened := by
  induction found generalizing packages with
  | nil => rfl
  | cons item rest ih => exact ih _

theorem location?_rememberAll_of_ne (hne : ∀ item ∈ found, name ≠ Name.child package item.1) :
    (packages.rememberAll package found).location? name = packages.location? name := by
  induction found generalizing packages with
  | nil => rfl
  | cons item rest ih =>
    refine (ih fun other hother => hne other (List.mem_cons_of_mem _ hother)).trans ?_
    rw [location?_withLocation, if_neg (hne item List.mem_cons_self)]

/-- What was listed is remembered as it was listed. -/
theorem location?_rememberAll (hlisted : found.Pairwise fun item other => item.1 < other.1)
    {item : String × Location} (hitem : item ∈ found) :
    (packages.rememberAll package found).location? (Name.child package item.1) = some item.2 := by
  induction found generalizing packages with
  | nil => cases hitem
  | cons first rest ih =>
    rw [List.pairwise_cons] at hlisted
    rcases List.mem_cons.mp hitem with rfl | hitem
    · have hrest : ∀ other ∈ rest, Name.child package item.1 ≠ Name.child package other.1 :=
        fun other hother hsame =>
          Std.ne_of_lt (hlisted.1 other hother) (Name.child_injective hsame)
      refine (location?_rememberAll_of_ne hrest).trans ?_
      rw [location?_withLocation, if_pos rfl]
    · exact ih hlisted.2 hitem

/-- The memory after the `__init__.py` of a package was read. -/
def entered (package : String) (packages : Packages) : Packages :=
  if packages.opened.contains package then packages else packages.withOpened package

theorem searchPaths_entered (package : String) (packages : Packages) :
    (packages.entered package).searchPaths = packages.searchPaths := by
  rw [entered]
  split <;> rfl

theorem location?_entered (package name : String) (packages : Packages) :
    (packages.entered package).location? name = packages.location? name := by
  rw [entered]
  split <;> rfl

/-- Reading the `__init__.py` of a package, if what was read once can be read again. -/
theorem exec_enter (hopened : package ∈ packages.opened →
      (outlined tree (Path.join directory initFile) package).isOk = true) :
    exec (enter package directory) tree packages =
      match outlined tree (Path.join directory initFile) package with
      | .ok _ => (.ok (), packages.entered package)
      | .error error => (.error error, packages) := by
  rw [enter, entered]
  rw [exec_bind_of_ok _ (exec_get tree packages)]
  cases hcontains : packages.opened.contains package with
  | true =>
    have hok := hopened (List.contains_iff_mem.mp hcontains)
    cases hinit : outlined tree (Path.join directory initFile) package with
    | ok _ => rfl
    | error error =>
      rw [hinit] at hok
      cases hok
  | false =>
    rw [if_neg Bool.false_ne_true, if_neg Bool.false_ne_true, exec_bind, exec_discard, exec_bind,
      exec_outline]
    cases outlined tree (Path.join directory initFile) package <;> rfl

theorem exec_enter_eq_ok {directory : String} {after : Packages}
    (h : exec (enter package directory) tree packages = (.ok (), after)) :
    after = packages.entered package := by
  rw [enter] at h
  rw [exec_bind_of_ok _ (exec_get tree packages)] at h
  rw [entered]
  split at h
  · rename_i hopened
    cases h
    rw [if_pos hopened]
  · rename_i hopened
    rw [if_neg hopened]
    rw [exec_bind, exec_discard, exec_bind, exec_outline] at h
    cases hread : outlined tree (Path.join directory initFile) package with
    | error error =>
      rw [hread] at h
      cases h
    | ok read =>
      rw [hread] at h
      cases h
      rfl

theorem exec_mapM_remember (package : String) (found : List (String × Location))
    (tree : FileTree) (packages : Packages) :
    exec (found.mapM fun (leaf, location) => do
        let name := Name.child package leaf
        remember name location
        return { name, isPackage := location.isPackage }) tree packages =
      (.ok (found.map (childOf package)), packages.rememberAll package found) := by
  induction found generalizing packages with
  | nil => rfl
  | cons item rest ih =>
    have hitem : exec (do
        remember (Name.child package item.1) item.2
        return childOf package item) tree packages =
        (.ok (childOf package item), packages.withLocation (Name.child package item.1) item.2) :=
      rfl
    rw [List.mapM_cons]
    refine (exec_bind_of_ok _ hitem).trans ?_
    rw [exec_bind_of_ok _ (ih _)]
    rfl

/-- What listing a package answers and remembers, once the package is found. -/
theorem exec_children_of_locate {middle : Packages}
    (hlocate : exec (locate package) tree packages = (.ok (.package directory), middle))
    (hopened : package ∈ middle.opened →
      (outlined tree (Path.join directory initFile) package).isOk = true) :
    exec (children package) tree packages =
      match listedIn tree package directory with
      | .ok found => (.ok (found.map (childOf package)),
          (middle.entered package).rememberAll package found)
      | .error error => (.error error,
          if (outlined tree (Path.join directory initFile) package).isOk then
            middle.entered package
          else middle) := by
  rw [children, listedIn]
  rw [exec_bind_of_ok _ hlocate]
  dsimp only
  rw [exec_bind, exec_enter hopened]
  cases outlined tree (Path.join directory initFile) package with
  | error error => rfl
  | ok _ =>
    dsimp only
    rw [exec_bind_of_ok _ (exec_ask _ tree _)]
    cases tree.importables directory with
    | error fault => rfl
    | ok found => exact exec_mapM_remember package found tree _

/-- What it means that a package is listed, whatever is remembered. -/
theorem exec_children_eq_ok {found : List Child} {after : Packages}
    (h : exec (children package) tree packages = (.ok found, after)) :
    ∃ directory listed middle,
      exec (locate package) tree packages = (.ok (.package directory), middle) ∧
      tree.importables directory = .ok listed ∧ found = listed.map (childOf package) ∧
      after = (middle.entered package).rememberAll package listed := by
  obtain ⟨location, middle, hlocate, h⟩ := exec_bind_eq_ok h
  cases location with
  | source path | compiled path => cases h
  | package directory =>
    obtain ⟨_, entered, henter, h⟩ := exec_bind_eq_ok h
    obtain rfl := exec_enter_eq_ok henter
    rw [exec_bind_of_ok _ (exec_ask _ tree _)] at h
    cases hlisted : tree.importables directory with
    | error fault =>
      rw [hlisted] at h
      cases h
    | ok listed =>
      rw [hlisted] at h
      obtain ⟨hfound, rfl⟩ := Prod.mk.inj ((exec_mapM_remember package listed tree _).symm.trans h)
      exact ⟨directory, listed, middle, hlocate, hlisted, (Except.ok.inj hfound).symm, rfl⟩

/-! ### Listing and loading with a sound memory -/

theorem Reopens.entered (h : Reopens tree paths packages)
    (hlocation : locationOfName tree paths package = .ok (.package directory))
    (hinit : (outlined tree (Path.join directory initFile) package).isOk = true) :
    Reopens tree paths (packages.entered package) := by
  rw [Packages.entered]
  split
  · exact h
  · exact h.withOpened hlocation hinit

theorem Sound.entered (h : Sound tree paths packages)
    (hlocation : locationOfName tree paths package = .ok (.package directory))
    (hinit : (outlined tree (Path.join directory initFile) package).isOk = true) :
    Sound tree paths (packages.entered package) := by
  refine ⟨?_, fun {name location} hfound => ?_, h.reopens.entered hlocation hinit⟩
  · rw [searchPaths_entered, h.searchPaths]
  · rw [location?_entered] at hfound
    exact h.located hfound

theorem Sound.rememberAll (h : Sound tree paths packages)
    (hfound : ∀ item ∈ found, locationOfName tree paths (Name.child package item.1) = .ok item.2) :
    Sound tree paths (packages.rememberAll package found) := by
  induction found generalizing packages with
  | nil => exact h
  | cons item rest ih =>
    exact ih (h.withLocation (hfound item List.mem_cons_self)) fun other hother =>
      hfound other (List.mem_cons_of_mem _ hother)

/-- A name inside a package is what is found in its directory. -/
theorem locationOfName_child {leaf : String}
    (hlocation : locationOfName tree paths package = .ok (.package directory))
    (hleaf : '.' ∉ leaf.toList) :
    locationOfName tree paths (Name.child package leaf) =
      settled (Name.child package leaf) (tree.find? directory leaf) := by
  have hsegments := Name.segments_child package hleaf
  have hname : Name.ofSegments (leaf :: (Name.segments package).reverse).reverse =
      Name.child package leaf := by
    rw [List.reverse_cons, List.reverse_reverse, ← hsegments, Name.ofSegments_segments]
  have hempty : (Name.segments package).reverse.isEmpty = false := by
    simp [Name.segments_ne_nil]
  rw [locationOfName] at hlocation ⊢
  rw [hsegments, List.reverse_append, List.reverse_singleton, List.singleton_append, locationOf,
    hname, hlocation]
  simp only [foundFor, hempty, Bool.false_eq_true, if_false]
  generalize tree.find? directory leaf = found
  rfl

/-- With a sound memory, a package is listed as without one. -/
theorem exec_children (h : Sound tree paths packages) (package : String) :
    ∃ after, exec (children package) tree packages = (childrenOf tree paths package, after) ∧
      ((∀ directory found, locationOfName tree paths package = .ok (.package directory) →
          listedIn tree package directory = .ok found →
          ∀ item ∈ found, locationOfName tree paths (Name.child package item.1) = .ok item.2) →
        Sound tree paths after) := by
  obtain ⟨middle, hlocate, hmiddle⟩ := exec_locate h package
  rw [childrenOf]
  cases hlocation : locationOfName tree paths package with
  | error error =>
    rw [hlocation] at hlocate
    exact ⟨middle, exec_bind_of_error _ hlocate, fun _ => hmiddle⟩
  | ok location =>
    rw [hlocation] at hlocate
    cases location with
    | source path | compiled path =>
      exact ⟨middle, exec_bind_of_ok _ hlocate, fun _ => hmiddle⟩
    | package directory =>
      have hopened : package ∈ middle.opened →
          (outlined tree (Path.join directory initFile) package).isOk = true :=
        fun hmem => hmiddle.reopens hmem hlocation
      rw [exec_children_of_locate hlocate hopened]
      dsimp only
      cases hlisted : listedIn tree package directory with
      | error error =>
        refine ⟨_, rfl, fun _ => ?_⟩
        split
        · rename_i hinit
          exact hmiddle.entered hlocation hinit
        · exact hmiddle
      | ok found =>
        refine ⟨_, rfl, fun hfound => ?_⟩
        exact (hmiddle.entered hlocation (listedIn_eq_ok hlisted).1).rememberAll
          (hfound directory found rfl hlisted)

theorem exec_load_of_locate {middle : Packages}
    (hlocate : exec (locate name) tree packages = (.ok location, middle)) :
    exec (load name) tree packages = (loadedFrom tree name location, middle) := by
  rw [load]
  rw [exec_bind_of_ok _ hlocate]
  cases location with
  | package directory => rfl
  | source path =>
    dsimp only [loadedFrom]
    rw [exec_bind, exec_outline]
    cases outlined tree path name <;> rfl
  | compiled path =>
    dsimp only [loadedFrom]
    rw [exec_bind_of_ok _ (exec_ask _ tree middle)]
    split
    · rw [exec_bind, exec_outline]
      cases outlined tree _ name <;> rfl
    · rfl

/-- With a sound memory, a module is loaded as without one. -/
theorem exec_load (h : Sound tree paths packages) (name : String) :
    ∃ after, exec (load name) tree packages = (loadedOf tree paths name, after) ∧
      Sound tree paths after := by
  obtain ⟨middle, hlocate, hmiddle⟩ := exec_locate h name
  refine ⟨middle, ?_, hmiddle⟩
  rw [loadedOf]
  cases hlocation : locationOfName tree paths name with
  | error error =>
    rw [hlocation] at hlocate
    exact exec_bind_of_error _ hlocate
  | ok location =>
    rw [hlocation] at hlocate
    exact exec_load_of_locate hlocate

end Packages

end DocStubs
