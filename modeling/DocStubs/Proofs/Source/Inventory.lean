import DocStubs.Proofs.Packages.Memory
import DocStubs.Proofs.Registry

/-!
# Taking inventory

An inventory of a source lists the packages that a walk goes into and the modules that it does not
leave out, with what was loaded for each module, in the form in which they can be registered. The
analysis of a package is a function of its inventory, whatever the source is: nothing else that a
walk sees has an effect on the descriptors.

## Main definitions

* `Source.surveyTo` — the packages and modules that a walk meets
* `Source.inventory` — what a walk meets, with what is loaded for it
* `Source.analysisOf` — the analysis that an inventory gives

## Main results

* `Source.analyze_eq` — an analysis takes an inventory and needs nothing else
* `Source.slash_not_mem_of_analyze` — modules of packages have names without slashes
-/

namespace DocStubs

namespace Source

open Query

variable {tree : FileTree} {source : Source} {name : String}

/-! ### Definitions -/

/-- What a walk meets in one child of a package, given what it meets inside packages. -/
def visit (isExcluded : String → Bool) (inside : String → SourceQuery (List Child))
    (child : Child) : SourceQuery (List Child) :=
  if child.isPackage then inside child.name
  else return if isExcluded child.name then [] else [child]

/-- The package that a walk starts in, the packages below it that the walk goes into and the
modules that it does not leave out, in the order in which they are met. -/
def surveyTo (isExcluded : String → Bool) : Nat → String → SourceQuery (List Child)
  | 0, _ => return []
  | depth + 1, package => do
    let met ← (← children package).mapM (visit isExcluded (surveyTo isExcluded depth))
    return { name := package, isPackage := true } :: met.flatten

/-- What is registered for a package or module: a package as such, and a module with the symbols
and the text that are loaded for it. -/
def registration (child : Child) : SourceQuery (String × Registered) := do
  if child.isPackage then return (child.name, { isPackage := true })
  else
    let loaded ← load child.name
    return (child.name, { symbols := loaded.symbols, source := loaded.source })

/-- All that a walk meets, as it is registered. -/
def inventory (isExcluded : String → Bool) (package : String) :
    SourceQuery (List (String × Registered)) := do
  let met ← surveyTo isExcluded (← get).depth package
  met.mapM registration

/-- A registered package or module as it is listed. -/
def asChild (entry : String × Registered) : Child :=
  { name := entry.1, isPackage := entry.2.isPackage }

/-- The descriptor of a registered module. -/
def descriptorOf (order : MemberOrder) (entry : String × Registered) : Descriptor :=
  Descriptor.ofLoaded order
    { name := entry.1, symbols := entry.2.symbols, source := entry.2.source }

/-- The descriptors of the modules in an inventory. -/
def descriptorsOf (order : MemberOrder) (entries : List (String × Registered)) :
    List Descriptor :=
  (entries.filter (!·.2.isPackage)).map (descriptorOf order)

/-- The analysis that an inventory gives. -/
def analysisOf (order : MemberOrder) (package : String) (entries : List (String × Registered)) :
    Analysis :=
  { package, modules := descriptorsOf order entries }

/-! ### Walks and surveys -/

/-- The names of the modules that a walk meets. -/
def moduleNames (met : List Child) : List String := (met.filter (!·.isPackage)).map (·.name)

theorem moduleNames_cons_flatten (package : String) (met : List (List Child)) :
    moduleNames ({ name := package, isPackage := true } :: met.flatten) =
      (met.map moduleNames).flatten := by
  rw [moduleNames]
  rw [List.filter_cons_of_neg (by simp), List.filter_flatten, List.map_flatten, List.map_map]
  rfl

theorem mapM_map_result {m : Type → Type} [Monad m] [LawfulMonad m] {α β γ : Type} (f : α → m β)
    (g : β → γ) (items : List α) :
    items.mapM (fun item => g <$> f item) = List.map g <$> items.mapM f := by
  induction items with
  | nil => simp
  | cons item rest ih => simp [ih]

/-- A walk gives the modules of a survey. -/
theorem leavesTo_eq (isExcluded : String → Bool) (depth : Nat) (package : String) :
    leavesTo isExcluded depth package = moduleNames <$> surveyTo isExcluded depth package := by
  induction depth generalizing package with
  | zero =>
    rw [leavesTo, surveyTo]
    rw [map_pure]
    rfl
  | succ depth ih =>
    have hvisit : (fun child : Child =>
        if child.isPackage then leavesTo isExcluded depth child.name
        else return if isExcluded child.name then [] else [child.name]) =
        fun child => moduleNames <$> visit isExcluded (surveyTo isExcluded depth) child := by
      funext child
      rw [visit]
      split
      · exact ih child.name
      · rename_i hmodule
        rw [map_pure]
        split
        · rfl
        · simp [moduleNames, hmodule]
    rw [leavesTo, surveyTo]
    rw [hvisit, map_bind]
    refine bind_congr fun found => ?_
    rw [mapM_map_result]
    simp only [map_eq_pure_bind, bind_assoc, pure_bind]
    refine bind_congr fun met => ?_
    rw [moduleNames_cons_flatten]

/-! ### Questions to packages -/

theorem exec_askPackages {α : Type} (packages : Packages) (query : PackageQuery α)
    (tree : FileTree) (source : Source) :
    exec (askPackages packages query) tree source =
      ((exec query tree packages).1, .ofPackages (exec query tree packages).2) := by
  rcases hexec : exec query tree packages with ⟨answer, after⟩
  have hrun : (query tree).run packages = (answer, after) := hexec
  simp only [exec, askPackages, ReaderT.run, hrun]
  cases answer <;> rfl

theorem exec_children_ofPackages (package : String) (tree : FileTree) (packages : Packages) :
    exec (children package) tree (.ofPackages packages) =
      ((exec (Packages.children package) tree packages).1,
        .ofPackages (exec (Packages.children package) tree packages).2) := by
  rw [children]
  rw [exec_bind_of_ok _ (exec_get tree _)]
  exact exec_askPackages packages _ tree _

theorem exec_load_ofPackages (name : String) (tree : FileTree) (packages : Packages) :
    exec (load name) tree (.ofPackages packages) =
      ((exec (Packages.load name) tree packages).1,
        .ofPackages (exec (Packages.load name) tree packages).2) := by
  rw [load]
  rw [exec_bind_of_ok _ (exec_get tree _)]
  exact exec_askPackages packages _ tree _

/-! ### Questions to registries -/

theorem exec_children_ofRegistry {registry : Registry} {package : String} {module : Registered}
    (h : registry.get? package = some module) (hpackage : module.isPackage = true)
    (tree : FileTree) :
    exec (children package) tree (.ofRegistry registry) =
      (.ok ((registry.childrenOf package).map asChild), .ofRegistry registry) := by
  have hregistered : exec (registered registry package) tree (.ofRegistry registry) =
      (.ok module, .ofRegistry registry) := by
    rw [registered]
    rw [h]
    rfl
  rw [children]
  rw [exec_bind_of_ok _ (exec_get tree _)]
  refine (exec_bind_of_ok _ hregistered).trans ?_
  rw [if_pos hpackage]
  rfl

/-- What it means that a package of a registry is listed. -/
theorem exec_children_ofRegistry_eq_ok {registry : Registry} {package : String}
    {found : List Child} {after : Source}
    (h : exec (children package) tree (.ofRegistry registry) = (.ok found, after)) :
    found = (registry.childrenOf package).map asChild ∧ after = .ofRegistry registry := by
  rw [children] at h
  rw [exec_bind_of_ok _ (exec_get tree _)] at h
  obtain ⟨module, middle, hmodule, h⟩ := exec_bind_eq_ok h
  have hmiddle : middle = .ofRegistry registry := by
    rw [registered] at hmodule
    split at hmodule <;> cases hmodule
    rfl
  subst hmiddle
  split at h <;> cases h
  exact ⟨rfl, rfl⟩

theorem exec_load_ofRegistry {registry : Registry} (name : String) (tree : FileTree) :
    exec (load name) tree (.ofRegistry registry) =
      (match registry.get? name with
        | some module => .ok { name, symbols := module.symbols, source := module.source }
        | none => .error (.cannotImport name (.missing name)), .ofRegistry registry) := by
  rw [load]
  rw [exec_bind_of_ok _ (exec_get tree _)]
  dsimp only
  rw [registered]
  cases registry.get? name <;> rfl

/-! ### Analyses and inventories -/

/-- A module is loaded under the name that was asked for. -/
theorem name_of_loadedFrom {location : Location} {loaded : Loaded}
    (h : Packages.loadedFrom tree name location = .ok loaded) : loaded.name = name := by
  cases location with
  | package directory => cases h
  | source path =>
    obtain ⟨read, -, rfl⟩ := exists_of_map_eq_ok h
    rfl
  | compiled path =>
    dsimp only [Packages.loadedFrom] at h
    split at h
    · obtain ⟨read, -, rfl⟩ := exists_of_map_eq_ok h
      rfl
    · cases h
      rfl

theorem name_of_load {loaded : Loaded} {after : Source}
    (h : exec (load name) tree source = (.ok loaded, after)) : loaded.name = name := by
  cases source with
  | ofRegistry registry =>
    rw [exec_load_ofRegistry] at h
    cases hget : registry.get? name <;> rw [hget] at h <;> cases h
    rfl
  | ofPackages packages =>
    rw [exec_load_ofPackages] at h
    cases hlocate : exec (Packages.locate name) tree packages with
    | mk answer middle =>
      cases answer with
      | error error =>
        have hload : exec (Packages.load name) tree packages = (.error error, middle) :=
          exec_bind_of_error _ hlocate
        rw [hload] at h
        cases h
      | ok location =>
        rw [Packages.exec_load_of_locate hlocate] at h
        exact name_of_loadedFrom (congrArg Prod.fst h)

theorem name_of_describe {order : MemberOrder} {module : Descriptor} {after : Source}
    (h : exec (describe order name) tree source = (.ok module, after)) : module.name = name := by
  obtain ⟨loaded, middle, hloaded, h⟩ := exec_bind_eq_ok h
  cases h
  exact name_of_load hloaded

theorem load_map_name (name : String) :
    (fun loaded : Loaded => { loaded with name }) <$> load name = load name := by
  refine Query.ext fun tree source => ?_
  rw [map_eq_pure_bind, exec_bind]
  cases hload : exec (load name) tree source with
  | mk answer after =>
    cases answer with
    | error error => rfl
    | ok loaded =>
      have hname := name_of_load hload
      subst hname
      rfl

/-- Loading modules one after the other is what an inventory does, apart from packages. -/
theorem mapM_describe_eq (order : MemberOrder) (met : List Child) :
    (moduleNames met).mapM (describe order) = descriptorsOf order <$> met.mapM registration := by
  induction met with
  | nil => rfl
  | cons child rest ih =>
    rw [List.mapM_cons]
    cases hpackage : child.isPackage with
    | true =>
      have hnames : moduleNames (child :: rest) = moduleNames rest := by
        simp [moduleNames, hpackage]
      have hregistration : registration child = pure (child.name, { isPackage := true }) := by
        simp [registration, hpackage]
      rw [hnames, hregistration, ih]
      simp only [pure_bind, map_eq_pure_bind, bind_assoc]
      rfl
    | false =>
      have hnames : moduleNames (child :: rest) = child.name :: moduleNames rest := by
        simp [moduleNames, hpackage]
      have hregistration : registration child = (fun loaded : Loaded =>
          (child.name, ({ symbols := loaded.symbols, source := loaded.source } : Registered))) <$>
          load child.name := by
        simp [registration, hpackage]
      rw [hnames, List.mapM_cons, hregistration, ih, describe, ← load_map_name child.name]
      simp [descriptorsOf, descriptorOf]

/-- An analysis takes an inventory and needs nothing else. -/
theorem analyze_eq (isExcluded : String → Bool) (order : MemberOrder) (package : String) :
    analyze isExcluded order package =
      analysisOf order package <$> inventory isExcluded package := by
  rw [analyze, leaves, inventory]
  simp only [leavesTo_eq, map_bind, bind_map_left, bind_assoc, mapM_describe_eq]
  refine bind_congr fun source => bind_congr fun met => ?_
  simp only [map_eq_pure_bind]
  rfl

/-! ### Names of modules in packages -/

variable {isExcluded : String → Bool} {order : MemberOrder} {package : String}

/-- A source is made of packages, whatever is remembered of them. -/
def IsPackages (source : Source) : Prop := ∃ packages, source = .ofPackages packages

theorem slash_not_mem_child {leaf : String} (hpackage : '/' ∉ package.toList)
    (hleaf : isIdentifier leaf = true) : '/' ∉ (Name.child package leaf).toList := by
  have hslash := (isName_of_isIdentifier hleaf).no_slash
  simp [Name.child, hpackage, hslash]

/-- What is listed in a package is named by identifiers. -/
theorem slash_not_mem_of_children {packages : Packages} {found : List Child} {after : Packages}
    (hpackage : '/' ∉ package.toList)
    (h : exec (Packages.children package) tree packages = (.ok found, after)) :
    ∀ child ∈ found, '/' ∉ child.name.toList := by
  obtain ⟨directory, listed, -, -, hlisted, rfl, -⟩ := Packages.exec_children_eq_ok h
  intro child hchild
  obtain ⟨item, hitem, rfl⟩ := List.mem_map.mp hchild
  exact slash_not_mem_child hpackage (FileTree.isIdentifier_of_mem hlisted hitem)

/-- The modules that are found in packages have names without slashes if the outermost package
has. -/
theorem slash_not_mem_of_leavesTo {depth : Nat} {packages : Packages} {names : List String}
    {after : Source} (hpackage : '/' ∉ package.toList)
    (h : exec (leavesTo isExcluded depth package) tree (.ofPackages packages) =
      (.ok names, after)) :
    after.IsPackages ∧ ∀ name ∈ names, '/' ∉ name.toList := by
  induction depth generalizing package packages names after with
  | zero =>
    cases h
    exact ⟨⟨packages, rfl⟩, List.forall_mem_nil _⟩
  | succ depth ih =>
    rw [leavesTo] at h
    obtain ⟨found, middle, hfound, h⟩ := exec_bind_eq_ok h
    rw [exec_children_ofPackages] at hfound
    obtain ⟨hchildren, rfl⟩ := Prod.mk.inj hfound
    have hslash := slash_not_mem_of_children hpackage (Prod.ext hchildren rfl)
    obtain ⟨inside, last, hinside, h⟩ := exec_bind_eq_ok h
    cases h
    have hvisit : ∀ child ∈ found, ∀ {before : Source} {answer after}, before.IsPackages →
        exec (if child.isPackage then leavesTo isExcluded depth child.name
          else return if isExcluded child.name then [] else [child.name]) tree before =
            (.ok answer, after) →
        after.IsPackages ∧ ∀ name ∈ answer, '/' ∉ name.toList := by
      rintro child hchild _ answer after ⟨packages, rfl⟩ hanswer
      split at hanswer
      · exact ih (hslash child hchild) hanswer
      · cases hanswer
        refine ⟨⟨packages, rfl⟩, fun name hname => ?_⟩
        split at hname
        · cases hname
        · rw [List.mem_singleton.mp hname]
          exact hslash child hchild
    obtain ⟨hafter, hnames⟩ := forall_of_exec_mapM IsPackages _ hvisit ⟨_, rfl⟩ hinside
    refine ⟨hafter, fun name hname => ?_⟩
    obtain ⟨part, hpart, hname⟩ := List.mem_flatten.mp hname
    exact hnames part hpart name hname

theorem slash_not_mem_of_analyze {packages : Packages} {analysis : Analysis}
    (hpackage : '/' ∉ package.toList)
    (h : (exec (analyze isExcluded order package) tree (.ofPackages packages)).1 =
      .ok analysis) :
    ∀ module ∈ analysis.modules, '/' ∉ module.name.toList := by
  obtain ⟨names, middle, hnames, h⟩ := exec_bind_eq_ok (Prod.ext h rfl)
  obtain ⟨modules, last, hmodules, h⟩ := exec_bind_eq_ok h
  cases h
  have hslash := (slash_not_mem_of_leavesTo hpackage hnames).2
  refine (forall_of_exec_mapM (fun _ => True) _ ?_ trivial hmodules).2
  intro name hname before module after _ hmodule
  refine ⟨trivial, ?_⟩
  rw [name_of_describe hmodule]
  exact hslash name hname

end Source

end DocStubs
