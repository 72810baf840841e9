import DocStubs.Proofs.Source.Inventory

/-!
# Excluding modules

An exclusion is a filter on what a walk finds and on what an analysis describes, and it has no
other effect. For the walk that holds because packages are walked whatever their names are, so the
same questions are asked with an exclusion and without one. For the analysis it is less clear,
since fewer modules are loaded and loading may change what a source remembers. It does not change
it here: a walk remembers where all modules are that it finds, excluded or not, and to load a
module that is remembered leaves the source as it is.

## Main definitions

* `Source.Knows` — a source does not have to search for a name

## Main results

* `Source.leaves_eq_filter` — a walk with an exclusion is a filtered walk
* `Source.knows_of_leaves` — a walk leaves a source that knows what it found
* `Source.exclusion_filters` — what an exclusion does to walks and analyses
-/

namespace DocStubs

/-! ### Names that are remembered -/

namespace Packages

open Query

variable {tree : FileTree} {before after packages : Packages} {package name : String}

/-- The location of a name is remembered. -/
def Knows (packages : Packages) (name : String) : Prop := (packages.location? name).isSome = true

theorem Knows.withLocation (h : packages.Knows name) (other : String) (location : Location) :
    (packages.withLocation other location).Knows name := by
  rw [Knows, location?_withLocation]
  split
  · rfl
  · exact h

theorem Knows.rememberAll (h : packages.Knows name) (package : String)
    (found : List (String × Location)) : (packages.rememberAll package found).Knows name := by
  induction found generalizing packages with
  | nil => exact h
  | cons item rest ih => exact ih (h.withLocation _ _)

theorem Knows.entered (h : packages.Knows name) (package : String) :
    (packages.entered package).Knows name := by
  rw [Knows, location?_entered]
  exact h

/-- To find a name is to remember more and to forget nothing. -/
theorem Knows.locateSegments {parts : List String} {location : Location}
    (h : before.Knows name)
    (hexec : exec (locateSegments parts) tree before = (.ok location, after)) :
    after.Knows name := by
  induction parts generalizing before after location with
  | nil => cases hexec
  | cons leaf outer ih =>
    rw [locateSegments_cons, exec_bind_of_ok _ (exec_remembered? _ tree before)] at hexec
    split at hexec
    · cases hexec
      exact h
    · obtain ⟨found, middle, hseek, hsettle⟩ := exec_bind_eq_ok hexec
      have hmiddle : middle.Knows name := by
        rw [seek] at hseek
        split at hseek
        · rw [exec_bind_of_ok _ (exec_get tree before), exec_ask] at hseek
          obtain rfl : before = middle := congrArg Prod.snd hseek
          exact h
        · obtain ⟨holder, holding, hholder, hseek⟩ := exec_bind_eq_ok hseek
          cases holder with
          | source path | compiled path => cases hseek
          | package directory =>
            rw [exec_ask] at hseek
            obtain rfl : holding = middle := congrArg Prod.snd hseek
            exact ih h hholder
      cases found with
      | none => cases hsettle
      | some location =>
        cases hsettle
        exact hmiddle.withLocation _ _

theorem Knows.children {found : List Child} (h : before.Knows name)
    (hexec : exec (children package) tree before = (.ok found, after)) : after.Knows name := by
  obtain ⟨directory, listed, middle, hlocate, -, -, rfl⟩ := exec_children_eq_ok hexec
  exact ((h.locateSegments hlocate).entered package).rememberAll package listed

/-- What is listed in a package is remembered. -/
theorem knows_of_children {found : List Child} {child : Child}
    (hexec : exec (children package) tree before = (.ok found, after)) (hchild : child ∈ found) :
    after.Knows child.name := by
  obtain ⟨directory, listed, middle, -, hlisted, rfl, rfl⟩ := exec_children_eq_ok hexec
  obtain ⟨item, hitem, rfl⟩ := List.mem_map.mp hchild
  have hlocation : ((middle.entered package).rememberAll package listed).location?
      (Name.child package item.1) = some item.2 :=
    location?_rememberAll (FileTree.pairwise_importables hlisted) hitem
  exact Option.isSome_of_eq_some hlocation

/-- A package whose `__init__.py` was read is listed without reading it again. -/
theorem exec_children_of_opened {directory : String} {listed : List (String × Location)}
    (hlocation : packages.location? package = some (.package directory))
    (hopened : packages.opened.contains package = true)
    (hlisted : tree.importables directory = .ok listed) :
    exec (children package) tree packages =
      (.ok (listed.map (childOf package)), packages.rememberAll package listed) := by
  have henter : exec (enter package directory) tree packages = (.ok (), packages) := by
    rw [enter, exec_bind_of_ok _ (exec_get tree packages), hopened]
    rfl
  rw [children, exec_bind_of_ok _ (exec_locate_of_remembered hlocation tree)]
  dsimp only
  rw [exec_bind_of_ok _ henter, exec_bind_of_ok _ (exec_ask _ tree packages), hlisted]
  exact exec_mapM_remember package listed tree packages

/-- To load a module whose location is remembered changes nothing. -/
theorem exec_load_of_knows (h : packages.Knows name) (tree : FileTree) :
    (exec (load name) tree packages).2 = packages := by
  obtain ⟨location, hlocation⟩ := Option.isSome_iff_exists.mp h
  rw [exec_load_of_locate (exec_locate_of_remembered hlocation tree)]

end Packages

namespace Source

open Query

variable {tree : FileTree} {before after source : Source} {package name : String}
  {isExcluded : String → Bool}

/-- A source does not have to search for a name: its location is remembered, or there are no
locations. -/
def Knows (source : Source) (name : String) : Prop :=
  match source with
  | ofPackages packages => packages.Knows name
  | ofRegistry _ => True

/-- One source knows all that another one knows. -/
def Learns (before after : Source) : Prop := ∀ name, before.Knows name → after.Knows name

/-- Listing a package adds what is listed to what a source knows. -/
theorem learns_of_children {found : List Child}
    (h : exec (children package) tree before = (.ok found, after)) :
    before.Learns after ∧ ∀ child ∈ found, after.Knows child.name := by
  cases before with
  | ofRegistry registry =>
    obtain ⟨-, rfl⟩ := exec_children_ofRegistry_eq_ok h
    exact ⟨fun _ _ => trivial, fun _ _ => trivial⟩
  | ofPackages packages =>
    rw [exec_children_ofPackages] at h
    obtain ⟨hwhole, rfl⟩ := Prod.mk.inj h
    have hexec : exec (Packages.children package) tree packages =
        (.ok found, (exec (Packages.children package) tree packages).2) := Prod.ext hwhole rfl
    exact ⟨fun _ hname => Packages.Knows.children hname hexec,
      fun _ hchild => Packages.knows_of_children hexec hchild⟩

/-- A walk leaves a source that knows what it found. -/
theorem learns_of_leavesTo {depth : Nat} {names : List String}
    (h : exec (leavesTo isExcluded depth package) tree before = (.ok names, after)) :
    before.Learns after ∧ ∀ name ∈ names, after.Knows name := by
  induction depth generalizing package before after names with
  | zero =>
    cases h
    exact ⟨fun _ hname => hname, List.forall_mem_nil _⟩
  | succ depth ih =>
    rw [leavesTo] at h
    obtain ⟨found, middle, hfound, h⟩ := exec_bind_eq_ok h
    obtain ⟨inside, last, hinside, h⟩ := exec_bind_eq_ok h
    cases h
    obtain ⟨hlisted, hchildren⟩ := learns_of_children hfound
    -- A module is found without a further question, so that it was listed has to count for it.
    have hvisit : ∀ child ∈ found, ∀ {source : Source} {answer after}, middle.Learns source →
        exec (if child.isPackage then leavesTo isExcluded depth child.name
          else return if isExcluded child.name then [] else [child.name]) tree source =
            (.ok answer, after) →
        source.Learns after ∧ ∀ name ∈ answer, after.Knows name := by
      intro child hchild source answer after hsource hwhole
      split at hwhole
      · exact ih hwhole
      · cases hwhole
        refine ⟨fun _ hname => hname, fun name hname => ?_⟩
        split at hname
        · cases hname
        · rw [List.mem_singleton.mp hname]
          exact hsource _ (hchildren child hchild)
    obtain ⟨hafter, hnames⟩ := forall_of_exec_mapM_of_grows Learns
      (fun answer source => ∀ name ∈ answer, source.Knows name)
      (fun _ _ hname => hname) (fun hfirst hsecond name hname => hsecond name (hfirst name hname))
      (fun hgrows hgood name hname => hgrows name (hgood name hname)) hvisit
      (fun _ hname => hname) hinside
    refine ⟨fun name hname => hafter name (hlisted name hname), fun name hname => ?_⟩
    obtain ⟨part, hpart, hname⟩ := List.mem_flatten.mp hname
    exact hnames part hpart name hname

theorem knows_of_leaves {names : List String}
    (h : exec (leaves isExcluded package) tree before = (.ok names, after)) :
    ∀ name ∈ names, after.Knows name :=
  (learns_of_leavesTo h).2

theorem exec_load_of_knows (h : source.Knows name) (tree : FileTree) :
    (exec (load name) tree source).2 = source := by
  cases source with
  | ofRegistry registry => rw [exec_load_ofRegistry]
  | ofPackages packages =>
    rw [exec_load_ofPackages, Packages.exec_load_of_knows h tree]

/-! ### Walks -/

theorem leavesTo_eq_filter (isExcluded : String → Bool) (depth : Nat) (package : String) :
    leavesTo isExcluded depth package =
      List.filter (!isExcluded ·) <$> leavesTo (fun _ => false) depth package := by
  induction depth generalizing package with
  | zero =>
    rw [leavesTo, leavesTo]
    rw [map_pure]
    rfl
  | succ depth ih =>
    have hvisit : (fun child : Child =>
        if child.isPackage then leavesTo isExcluded depth child.name
        else return if isExcluded child.name then [] else [child.name]) =
        fun child : Child => List.filter (!isExcluded ·) <$>
          if child.isPackage then leavesTo (fun _ => false) depth child.name
          else return if false then [] else [child.name] := by
      funext child
      split
      · exact ih child.name
      · rw [map_pure, if_neg Bool.false_ne_true, List.filter_singleton]
        cases isExcluded child.name <;> rfl
    rw [leavesTo, leavesTo]
    rw [hvisit, map_bind]
    refine bind_congr fun found => ?_
    rw [mapM_map_result]
    simp only [map_eq_pure_bind, bind_assoc, pure_bind, List.filter_flatten]

/-- A walk with an exclusion is the walk without one, with what it finds filtered. -/
theorem leaves_eq_filter (isExcluded : String → Bool) (package : String) :
    leaves isExcluded package =
      List.filter (!isExcluded ·) <$> leaves (fun _ => false) package := by
  rw [leaves, leaves, map_bind]
  exact bind_congr fun source => leavesTo_eq_filter isExcluded source.depth package

theorem exec_leaves_filter {names : List String}
    (h : exec (leaves (fun _ => false) package) tree before = (.ok names, after)) :
    exec (leaves isExcluded package) tree before =
      (.ok (names.filter (!isExcluded ·)), after) := by
  rw [leaves_eq_filter, exec_map, h]
  rfl

/-! ### Analyses -/

/-- The descriptor of a module that a source is asked for alone. -/
def described (tree : FileTree) (source : Source) (order : MemberOrder) (name : String) :
    Except Error Descriptor :=
  (exec (load name) tree source).1.map (Descriptor.ofLoaded order)

theorem exec_describe (order : MemberOrder) (name : String) (tree : FileTree) (source : Source) :
    exec (describe order name) tree source =
      (described tree source order name, (exec (load name) tree source).2) := by
  rw [describe, ← map_eq_pure_bind, exec_map]
  rfl

theorem name_of_described {order : MemberOrder} {module : Descriptor}
    (h : described tree source order name = .ok module) : module.name = name := by
  obtain ⟨loaded, hload, rfl⟩ := exists_of_map_eq_ok h
  exact name_of_load (Prod.ext hload rfl)

theorem isOk_described (tree : FileTree) (source : Source) (order : MemberOrder) (name : String) :
    (described tree source order name).isOk = (exec (load name) tree source).1.isOk :=
  isOk_map _ _

/-- After a walk modules are loaded as if each was the only one. -/
theorem exec_analyze_of_leaves {names : List String} (order : MemberOrder)
    (h : exec (leaves isExcluded package) tree before = (.ok names, after)) :
    exec (analyze isExcluded order package) tree before =
      ((names.mapM (described tree after order)).map ({ package, modules := · }), after) := by
  have hsteady : ∀ name ∈ names, (exec (describe order name) tree after).2 = after := by
    intro name hname
    rw [exec_describe]
    exact exec_load_of_knows (knows_of_leaves h name hname) tree
  rw [analyze, exec_bind_of_ok _ h, ← map_eq_pure_bind, exec_map, exec_mapM_of_steady hsteady]
  simp only [exec_describe]

/-- An analysis that succeeds without an exclusion succeeds with it. -/
theorem exec_analyze_filter {order : MemberOrder} {analysis : Analysis}
    (h : (exec (analyze (fun _ => false) order package) tree source).1 = .ok analysis) :
    (exec (analyze isExcluded order package) tree source).1 =
      .ok { analysis with modules := analysis.modules.filter (!isExcluded ·.name) } := by
  obtain ⟨names, after, hnames, -⟩ := exec_bind_eq_ok (Prod.ext h rfl)
  rw [exec_analyze_of_leaves order hnames] at h
  obtain ⟨modules, hmodules, rfl⟩ := exists_of_map_eq_ok h
  rw [exec_analyze_of_leaves order (exec_leaves_filter hnames)]
  have hkept : ∀ name module, described tree after order name = .ok module →
      (!isExcluded module.name) = !isExcluded name := by
    intro name module hmodule
    rw [name_of_described hmodule]
  rw [mapM_filter_eq_ok hkept hmodules]
  rfl

/-- What is excluded need not be loaded. -/
theorem isOk_analyze_iff (isExcluded : String → Bool) (order : MemberOrder) (package : String)
    (tree : FileTree) (source : Source) :
    (exec (analyze isExcluded order package) tree source).1.isOk = true ↔
      ∃ names, (exec (leaves (fun _ => false) package) tree source).1 = .ok names ∧
        ∀ name ∈ names, isExcluded name = false →
          (exec (load name) tree
            (exec (leaves (fun _ => false) package) tree source).2).1.isOk = true := by
  cases hwhole : exec (leaves (fun _ => false) package) tree source with
  | mk walk after =>
    cases walk with
    | error error =>
      have hfails : exec (leaves isExcluded package) tree source = (.error error, after) := by
        rw [leaves_eq_filter, exec_map, hwhole]
        rfl
      rw [analyze, exec_bind_of_error _ hfails]
      refine iff_of_false Bool.false_ne_true ?_
      rintro ⟨names, hnames, -⟩
      cases hnames
    | ok names =>
      rw [exec_analyze_of_leaves order (exec_leaves_filter hwhole), isOk_map, isOk_mapM_iff]
      simp only [isOk_described, List.mem_filter, Bool.not_eq_true', and_imp, Except.ok.injEq,
        exists_eq_left']

/-- An exclusion filters, and has no other effect, whatever a source is and remembers. A walk finds
what it finds without the exclusion, apart from the excluded names, and fails as it fails without
it. An analysis that succeeds without the exclusion succeeds with it, and describes the modules
that are not excluded as before. With the exclusion it succeeds exactly if the walk does and all
modules that are not excluded can be loaded after it. -/
theorem exclusion_filters (isExcluded : String → Bool) (order : MemberOrder) (package : String)
    (tree : FileTree) (source : Source) :
    let whole := exec (leaves (fun _ => false) package) tree source
    exec (leaves isExcluded package) tree source =
        (whole.1.map (List.filter (!isExcluded ·)), whole.2) ∧
      (∀ analysis, (exec (analyze (fun _ => false) order package) tree source).1 = .ok analysis →
        (exec (analyze isExcluded order package) tree source).1 =
          .ok { analysis with modules := analysis.modules.filter (!isExcluded ·.name) }) ∧
      ((exec (analyze isExcluded order package) tree source).1.isOk = true ↔
        ∃ names, whole.1 = .ok names ∧
          ∀ name ∈ names, isExcluded name = false →
            (exec (load name) tree whole.2).1.isOk = true) := by
  intro whole
  refine ⟨?_, fun _ => exec_analyze_filter, isOk_analyze_iff isExcluded order package tree source⟩
  rw [leaves_eq_filter, exec_map]

/-! ### A module that cannot be read -/

/-- A package with a compiled module and a module whose text cannot be read. -/
def unreadableTree : FileTree :=
  { entries :=
      [(["p"], .directory), (["p", "__init__.py"], .file ByteArray.empty),
        (["p", "a.so"], .file ByteArray.empty), (["p", "b.py"], .file ⟨#[0xff]⟩)] }

/-- What is remembered of that package after its `__init__.py` was read. -/
def enteredPackages : Packages :=
  { searchPaths := ["."], located := [("p", .package "./p")], opened := ["p"] }

/-- What can be imported from that package. -/
def unreadableModules : List (String × Location) :=
  [("a", .compiled "./p/a.so"), ("b", .source "./p/b.py")]

theorem importables_unreadableTree :
    unreadableTree.importables "./p" = .ok unreadableModules := by
  have hstart : unreadableTree.start? "./p" = .ok (some ⟨["p"], "./p"⟩) := by decide +kernel
  have hnames : unreadableTree.namesIn ["p"] = ["__init__.py", "a.so", "b.py"] := by
    have hsorted : ["__init__.py", "a.so", "b.py"].Pairwise fun a b => decide (a ≤ b) = true := by
      decide +kernel
    exact List.mergeSort_of_pairwise hsorted
  rw [FileTree.importables, FileTree.scan, hstart]
  show Except.map _ ((unreadableTree.namesIn ["p"]).mapM _) = _
  rw [hnames]
  decide +kernel

/-- The source after a walk through that package. -/
def walkedPackages : Source := .ofPackages (enteredPackages.rememberAll "p" unreadableModules)

theorem exec_leaves_unreadableTree :
    exec (leaves (fun _ => false) "p") unreadableTree (.ofPackages enteredPackages) =
      (.ok ["p.a", "p.b"], walkedPackages) := by
  have hchildren : exec (children "p") unreadableTree (.ofPackages enteredPackages) =
      (.ok (unreadableModules.map (Packages.childOf "p")), walkedPackages) := by
    rw [exec_children_ofPackages, Packages.exec_children_of_opened (by decide +kernel)
      (by decide +kernel) importables_unreadableTree]
    rfl
  rw [leaves, exec_bind_of_ok _ (exec_get _ _)]
  show exec (leavesTo _ (4095 + 1) "p") _ _ = _
  rw [leavesTo, exec_bind_of_ok _ hchildren]
  decide +kernel

/-- A module that cannot be read makes an analysis fail, and it does not if it is excluded. -/
theorem unreadable_module_excluded :
    (exec (analyze (fun _ => false) .alphabetical "p") unreadableTree
        (.ofPackages enteredPackages)).1.isOk = false ∧
      (exec (analyze (· = "p.b") .alphabetical "p") unreadableTree
        (.ofPackages enteredPackages)).1.isOk = true := by
  obtain ⟨-, -, hall⟩ := exclusion_filters (fun _ => false) .alphabetical "p" unreadableTree
    (.ofPackages enteredPackages)
  obtain ⟨-, -, hsome⟩ := exclusion_filters (fun name => name = "p.b") .alphabetical "p"
    unreadableTree (.ofPackages enteredPackages)
  rw [exec_leaves_unreadableTree] at hall hsome
  constructor
  · refine Bool.eq_false_iff.mpr fun h => ?_
    obtain ⟨names, hnames, hloads⟩ := hall.mp h
    obtain rfl := Except.ok.inj hnames
    exact absurd (hloads "p.b" (by decide +kernel) rfl) (by decide +kernel)
  · exact hsome.mpr ⟨_, rfl, by decide +kernel⟩

end Source

end DocStubs
