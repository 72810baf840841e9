import DocStubs.Proofs.Source.Inventory

/-!
# Surveys of packages

What a walk through packages meets depends on the file tree only, and not on what is remembered:
below a package that was listed, everything is where the listing said. `surveyFrom` says what is
met and where without a memory, and `exec_surveyTo` says that a walk meets just that. After the
walk the location of each module that was met is remembered, so that each is loaded from where it
was listed.

A walk meets each name once. The names it meets inside two things of one package are different,
and to walk through one of them does not change what is remembered of the other.

## Main definitions

* `Source.surveyFrom` — what a walk meets, and where
* `Source.Walked` — what is remembered after a walk

## Main results

* `Source.nodup_survey` — a walk meets each name once
* `Source.exec_surveyTo` — what a walk through packages answers and remembers
-/

namespace DocStubs

namespace Source

open Query

variable {tree : FileTree} {paths : List String} {isExcluded : String → Bool} {depth : Nat}
  {package directory : String} {found : List (String × Location)} {item : String × Location}
  {met : List (Child × Location)} {branches : List (List (Child × Location))}

/-! ### What is met -/

/-- What is met in a listed item of a package, given what is met inside packages. -/
def branch (isExcluded : String → Bool)
    (inside : String → String → Except Error (List (Child × Location))) (package : String)
    (item : String × Location) : Except Error (List (Child × Location)) :=
  match item.2 with
  | .package directory => inside (Name.child package item.1) directory
  | location =>
    let child := Packages.childOf package item
    .ok (if isExcluded child.name then [] else [(child, location)])

/-- What a walk meets in a package in a given directory, and where it is. -/
def surveyFrom (tree : FileTree) (isExcluded : String → Bool) :
    Nat → String → String → Except Error (List (Child × Location))
  | 0, _, _ => .ok []
  | depth + 1, package, directory => do
    let found ← Packages.listedIn tree package directory
    let met ← found.mapM (branch isExcluded (surveyFrom tree isExcluded depth) package)
    return ({ name := package, isPackage := true }, .package directory) :: met.flatten

/-- What is met in the items of a listing, one after the other. -/
def Branches (tree : FileTree) (isExcluded : String → Bool) (depth : Nat) (package : String) :
    List (String × Location) → List (List (Child × Location)) → Prop :=
  List.Forall₂ fun item inner =>
    branch isExcluded (surveyFrom tree isExcluded depth) package item = .ok inner

theorem surveyFrom_of_listed (h : Packages.listedIn tree package directory = .ok found) :
    surveyFrom tree isExcluded (depth + 1) package directory =
      (found.mapM (branch isExcluded (surveyFrom tree isExcluded depth) package)).map
        fun branches =>
          ({ name := package, isPackage := true }, .package directory) :: branches.flatten := by
  rw [surveyFrom, h]
  rfl

theorem surveyFrom_eq_ok
    (h : surveyFrom tree isExcluded (depth + 1) package directory = .ok met) :
    ∃ found branches, Packages.listedIn tree package directory = .ok found ∧
      Branches tree isExcluded depth package found branches ∧
      met = ({ name := package, isPackage := true }, .package directory) :: branches.flatten := by
  rw [surveyFrom] at h
  obtain ⟨found, hlisted, h⟩ := exists_of_bind_eq_ok h
  obtain ⟨branches, hbranches, h⟩ := exists_of_bind_eq_ok h
  cases h
  exact ⟨found, branches, hlisted, forall₂_of_mapM_eq_ok hbranches, rfl⟩

theorem exists_branch_of_mem (h : Branches tree isExcluded depth package found branches)
    {inside : Child × Location} (hmem : inside ∈ branches.flatten) :
    ∃ item inner, item ∈ found ∧ inner ∈ branches ∧
      branch isExcluded (surveyFrom tree isExcluded depth) package item = .ok inner ∧
      inside ∈ inner := by
  obtain ⟨inner, hinner, hinside⟩ := List.mem_flatten.mp hmem
  obtain ⟨item, hitem, hbranch⟩ := FileTree.exists_mem_of_forall₂ h.flip hinner
  exact ⟨item, inner, hitem, hinner, hbranch, hinside⟩

/-- In an item of a listing there is nothing to meet, or the item itself is met. -/
theorem branch_cases {inner : List (Child × Location)}
    (h : branch isExcluded (surveyFrom tree isExcluded depth) package item = .ok inner) :
    inner = [] ∨ (Packages.childOf package item, item.2) ∈ inner := by
  obtain ⟨leaf, location⟩ := item
  rw [branch] at h
  cases location with
  | package inside =>
    cases depth with
    | zero =>
      cases h
      exact Or.inl rfl
    | succ depth =>
      obtain ⟨found, branches, -, -, rfl⟩ := surveyFrom_eq_ok h
      exact Or.inr List.mem_cons_self
  | source path | compiled path =>
    cases h
    split
    · exact Or.inl rfl
    · exact Or.inr (List.mem_singleton.mpr rfl)

/-! ### Names that are met -/

/-- All that is met in an item is inside it, if all that is met in packages is inside these. -/
theorem within_of_mem_branch {inner : List (Child × Location)}
    (hinside : ∀ {package directory met},
      surveyFrom tree isExcluded depth package directory = .ok met →
      ∀ item ∈ met, Name.Within package item.1.name)
    (h : branch isExcluded (surveyFrom tree isExcluded depth) package item = .ok inner) :
    ∀ other ∈ inner, Name.Within (Name.child package item.1) other.1.name := by
  obtain ⟨leaf, location⟩ := item
  rw [branch] at h
  cases location with
  | package inside => exact hinside h
  | source path | compiled path =>
    cases h
    split
    · exact fun _ hother => nomatch hother
    · intro other hother
      rw [List.mem_singleton.mp hother]
      exact Name.Within.refl _

/-- All that is met in a package is inside it. -/
theorem within_of_mem_survey
    (h : surveyFrom tree isExcluded depth package directory = .ok met) :
    ∀ item ∈ met, Name.Within package item.1.name := by
  induction depth generalizing package directory met with
  | zero =>
    cases h
    exact fun _ hitem => nomatch hitem
  | succ depth ih =>
    obtain ⟨found, branches, -, hbranches, rfl⟩ := surveyFrom_eq_ok h
    intro item hitem
    rcases List.mem_cons.mp hitem with rfl | hitem
    · exact Name.Within.refl _
    · obtain ⟨listed, inner, -, -, hbranch, hitem⟩ := exists_branch_of_mem hbranches hitem
      exact (within_of_mem_branch ih hbranch item hitem).of_child

/-- A walk meets each name once in the items of a listing. -/
theorem nodup_branches (hbranches : Branches tree isExcluded depth package found branches)
    (hsorted : found.Pairwise fun item other => item.1 < other.1)
    (hdot : ∀ item ∈ found, '.' ∉ item.1.toList)
    (hinside : ∀ {package directory met},
      surveyFrom tree isExcluded depth package directory = .ok met →
      (met.map (·.1.name)).Nodup) :
    (branches.flatten.map (·.1.name)).Nodup := by
  induction hbranches with
  | nil => exact List.nodup_nil
  | @cons item inner rest branches hbranch hrest ih =>
    obtain ⟨hfirst, hsorted⟩ := List.pairwise_cons.mp hsorted
    rw [List.flatten_cons, List.map_append, List.nodup_append]
    refine ⟨?_, ih hsorted fun other hother => hdot other (List.mem_cons_of_mem _ hother), ?_⟩
    · obtain ⟨leaf, location⟩ := item
      rw [branch] at hbranch
      cases location with
      | package inside => exact hinside hbranch
      | source path | compiled path =>
        cases hbranch
        split
        · exact List.nodup_nil
        · exact List.nodup_singleton _
    · -- A name inside two things of one package would make them the same.
      intro name hname name' hname' hsame
      obtain ⟨met, hmet, rfl⟩ := List.mem_map.mp hname
      obtain ⟨met', hmet', rfl⟩ := List.mem_map.mp hname'
      obtain ⟨other, inner', hother, -, hbranch', hmet'⟩ := exists_branch_of_mem hrest hmet'
      have hwithin := within_of_mem_branch within_of_mem_survey hbranch met hmet
      have hwithin' := within_of_mem_branch within_of_mem_survey hbranch' met' hmet'
      rw [← hsame] at hwithin'
      refine Std.ne_of_lt (hfirst other hother) ?_
      exact Name.leaf_eq_of_within (hdot item List.mem_cons_self)
        (hdot other (List.mem_cons_of_mem _ hother)) hwithin hwithin'

/-- A walk meets each name once. -/
theorem nodup_survey (h : surveyFrom tree isExcluded depth package directory = .ok met) :
    (met.map (·.1.name)).Nodup := by
  induction depth generalizing package directory met with
  | zero =>
    cases h
    exact List.nodup_nil
  | succ depth ih =>
    obtain ⟨found, branches, hlisted, hbranches, rfl⟩ := surveyFrom_eq_ok h
    rw [List.map_cons, List.nodup_cons]
    refine ⟨fun hmem => ?_, nodup_branches hbranches (Packages.pairwise_listed hlisted)
      (fun item hitem => Packages.dot_not_mem_of_listed hlisted hitem) ih⟩
    obtain ⟨inside, hinside, hname⟩ := List.mem_map.mp hmem
    obtain ⟨item, inner, -, -, hbranch, hinside⟩ := exists_branch_of_mem hbranches hinside
    have hwithin := within_of_mem_branch within_of_mem_survey hbranch inside hinside
    rw [hname] at hwithin
    exact Name.not_within_child package item.1 hwithin

/-! ### What is remembered -/

/-- What is remembered after a walk: nothing has changed but the locations of names inside what was
walked through, and the modules that were met are where they were met. -/
structure Walked (tree : FileTree) (paths : List String) (inside : String → Prop)
    (answer : Except Error (List (Child × Location))) (before after : Packages) : Prop where
  reopens : Packages.Reopens tree paths after
  outside : ∀ {name}, ¬ inside name → after.location? name = before.location? name
  held : ∀ {met}, answer = .ok met → ∀ item ∈ met, item.1.isPackage = false →
    after.location? item.1.name = some item.2

namespace Walked

variable {inside inside' : String → Prop} {answer : Except Error (List (Child × Location))}
  {before middle after : Packages}

theorem mono (h : Walked tree paths inside answer before after)
    (himp : ∀ name, inside name → inside' name) : Walked tree paths inside' answer before after :=
  ⟨h.reopens, fun hname => h.outside fun hinside => hname (himp _ hinside), h.held⟩

/-- A walk that failed and remembered only packages. -/
theorem of_error {error : Error} (hreopens : Packages.Reopens tree paths after)
    (houtside : ∀ {name}, ¬ inside name → after.location? name = before.location? name) :
    Walked tree paths inside (.error error) before after :=
  ⟨hreopens, houtside, fun h => nomatch h⟩

/-- A second walk that stays away from what the first one met. -/
theorem append (h : Walked tree paths inside (.ok met) before middle)
    (h' : Walked tree paths inside' answer middle after)
    (hdisjoint : ∀ item ∈ met, ¬ inside' item.1.name) :
    Walked tree paths (fun name => inside name ∨ inside' name) (answer.map (met ++ ·)) before
      after := by
  refine ⟨h'.reopens, fun hname => ?_, fun {all} hall item hitem hmodule => ?_⟩
  · rw [not_or] at hname
    rw [h'.outside hname.2, h.outside hname.1]
  · cases answer with
    | error error => cases hall
    | ok met' =>
      cases hall
      rcases List.mem_append.mp hitem with hitem | hitem
      · rw [h'.outside (hdisjoint item hitem)]
        exact h.held rfl item hitem hmodule
      · exact h'.held rfl item hitem hmodule

end Walked

/-! ### Walks through packages -/

/-- What a walk through packages answers and remembers, once the package is found. -/
def Surveys (tree : FileTree) (paths : List String) (isExcluded : String → Bool) (depth : Nat)
    (package directory : String) (before middle : Packages) : Prop :=
  ∃ after, exec (surveyTo isExcluded depth package) tree (.ofPackages before) =
      ((surveyFrom tree isExcluded depth package directory).map (·.map (·.1)),
        .ofPackages after) ∧
    Walked tree paths (Name.Within package) (surveyFrom tree isExcluded depth package directory)
      middle after

theorem visit_of_module {inside : String → SourceQuery (List Child)} {child : Child}
    (h : child.isPackage = false) :
    visit isExcluded inside child = pure (if isExcluded child.name then [] else [child]) := by
  rw [visit]
  rw [h, if_neg Bool.false_ne_true]

/-- What a walk answers and remembers in one listed item. -/
theorem exec_visit {before : Packages} (hreopens : Packages.Reopens tree paths before)
    (hremembered : before.location? (Name.child package item.1) = some item.2)
    (hinside : ∀ inside, item.2 = .package inside →
      Surveys tree paths isExcluded depth (Name.child package item.1) inside before before) :
    ∃ after, exec (visit isExcluded (surveyTo isExcluded depth) (Packages.childOf package item))
        tree (.ofPackages before) =
        ((branch isExcluded (surveyFrom tree isExcluded depth) package item).map (·.map (·.1)),
          .ofPackages after) ∧
      Walked tree paths (Name.Within (Name.child package item.1))
        (branch isExcluded (surveyFrom tree isExcluded depth) package item) before after := by
  obtain ⟨leaf, location⟩ := item
  cases location with
  | package inside => exact hinside inside rfl
  | source path | compiled path =>
    refine ⟨before, ?_, hreopens, fun _ => rfl, fun hmet item hitem _ => ?_⟩
    · rw [visit_of_module rfl, exec_pure, branch]
      dsimp only
      split <;> rfl
    · cases hmet
      split at hitem
      · cases hitem
      · rw [List.mem_singleton.mp hitem]
        exact hremembered

/-- What a walk answers and remembers in the items of a listing. -/
theorem exec_visits {before : Packages} (hreopens : Packages.Reopens tree paths before)
    (hsorted : found.Pairwise fun item other => item.1 < other.1)
    (hdot : ∀ item ∈ found, '.' ∉ item.1.toList)
    (hremembered : ∀ item ∈ found, before.location? (Name.child package item.1) = some item.2)
    (hinside : ∀ item ∈ found, ∀ inside, item.2 = .package inside → ∀ {before},
      before.location? (Name.child package item.1) = some item.2 →
      Packages.Reopens tree paths before →
      Surveys tree paths isExcluded depth (Name.child package item.1) inside before before) :
    ∃ after, exec ((found.map (Packages.childOf package)).mapM
        (visit isExcluded (surveyTo isExcluded depth))) tree (.ofPackages before) =
        ((found.mapM (branch isExcluded (surveyFrom tree isExcluded depth) package)).map
          (·.map (·.map (·.1))), .ofPackages after) ∧
      Walked tree paths (fun name => ∃ item ∈ found, Name.Within (Name.child package item.1) name)
        ((found.mapM (branch isExcluded (surveyFrom tree isExcluded depth) package)).map
          (·.flatten)) before after := by
  induction found generalizing before with
  | nil =>
    refine ⟨before, rfl, hreopens, fun _ => rfl, fun hmet item hitem => ?_⟩
    cases hmet
    cases hitem
  | cons item rest ih =>
    obtain ⟨hfirst, hsorted⟩ := List.pairwise_cons.mp hsorted
    have hitem := hremembered item List.mem_cons_self
    obtain ⟨middle, hvisit, hmiddle⟩ := exec_visit hreopens hitem fun inside hlocation =>
      hinside item List.mem_cons_self inside hlocation hitem hreopens
    rw [List.map_cons, List.mapM_cons, List.mapM_cons]
    cases hbranch : branch isExcluded (surveyFrom tree isExcluded depth) package item with
    | error error =>
      rw [hbranch] at hvisit hmiddle
      refine ⟨middle, exec_bind_of_error _ hvisit, ?_⟩
      exact hmiddle.mono fun name hname => ⟨item, List.mem_cons_self, hname⟩
    | ok inner =>
      rw [hbranch] at hvisit hmiddle
      -- The walk through one item has not touched the others.
      have hapart : ∀ other ∈ rest, ∀ name, Name.Within (Name.child package item.1) name →
          ¬ Name.Within (Name.child package other.1) name := by
        intro other hother name hname hname'
        refine Std.ne_of_lt (hfirst other hother) ?_
        exact Name.leaf_eq_of_within (hdot item List.mem_cons_self)
          (hdot other (List.mem_cons_of_mem _ hother)) hname hname'
      obtain ⟨after, hvisits, hafter⟩ := ih hmiddle.reopens hsorted
        (fun other hother => hdot other (List.mem_cons_of_mem _ hother))
        (fun other hother => by
          rw [hmiddle.outside fun hname => hapart other hother _ hname (Name.Within.refl _)]
          exact hremembered other (List.mem_cons_of_mem _ hother))
        (fun other hother => hinside other (List.mem_cons_of_mem _ hother))
      have happend := hmiddle.append hafter fun met hmet ⟨other, hother, hname⟩ =>
        hapart other hother _
          (within_of_mem_branch within_of_mem_survey hbranch met hmet) hname
      refine ⟨after, ?_, ?_⟩
      · refine (exec_bind_of_ok _ hvisit).trans ?_
        rw [exec_bind, hvisits]
        cases rest.mapM (branch isExcluded (surveyFrom tree isExcluded depth) package) <;> rfl
      · have hanswer : ((rest.mapM
            (branch isExcluded (surveyFrom tree isExcluded depth) package)).map
            (·.flatten)).map (inner ++ ·) = (do
              let y ← Except.ok inner
              let ys ← rest.mapM (branch isExcluded (surveyFrom tree isExcluded depth) package)
              pure (y :: ys) : Except Error _).map (·.flatten) := by
          cases rest.mapM (branch isExcluded (surveyFrom tree isExcluded depth) package) <;> rfl
        rw [← hanswer]
        refine happend.mono fun name hname => ?_
        rcases hname with hname | ⟨other, hother, hname⟩
        · exact ⟨item, List.mem_cons_self, hname⟩
        · exact ⟨other, List.mem_cons_of_mem _ hother, hname⟩

/-- A listed package is where a search for its name finds it. -/
theorem locationOfName_of_listed_package
    (hpackage : Packages.locationOfName tree paths package = .ok (.package directory))
    (hlisted : Packages.listedIn tree package directory = .ok found) (hitem : item ∈ found)
    {inside : String} (hinside : item.2 = .package inside) :
    Packages.locationOfName tree paths (Name.child package item.1) = .ok (.package inside) := by
  obtain ⟨leaf, location⟩ := item
  cases hinside
  have hfind := FileTree.find?_of_mem (Packages.listedIn_eq_ok hlisted).2 hitem trivial
  rw [Packages.locationOfName_child hpackage (Packages.dot_not_mem_of_listed hlisted hitem), hfind]
  rfl

/-- One level of a walk: the package is listed, and then its items are walked through. -/
theorem surveys_succ {before middle : Packages}
    (hlocate : exec (Packages.locate package) tree before = (.ok (.package directory), middle))
    (hpackage : Packages.locationOfName tree paths package = .ok (.package directory))
    (hreopens : Packages.Reopens tree paths middle)
    (hinside : ∀ {package directory before},
      Packages.locationOfName tree paths package = .ok (.package directory) →
      before.location? package = some (.package directory) →
      Packages.Reopens tree paths before →
      Surveys tree paths isExcluded depth package directory before before) :
    Surveys tree paths isExcluded (depth + 1) package directory before middle := by
  have hchildren := Packages.exec_children_of_locate hlocate fun hmem => hreopens hmem hpackage
  rw [Surveys, surveyTo]
  rw [exec_bind, exec_children_ofPackages]
  cases hlisted : Packages.listedIn tree package directory with
  | error error =>
    rw [hlisted] at hchildren
    dsimp only at hchildren
    rw [hchildren, surveyFrom, hlisted]
    refine ⟨_, rfl, Walked.of_error ?_ fun _ => ?_⟩
    · dsimp only
      split
      · rename_i hinit
        exact hreopens.entered hpackage hinit
      · exact hreopens
    · dsimp only
      split
      · exact Packages.location?_entered _ _ _
      · rfl
  | ok found =>
    rw [hlisted] at hchildren
    rw [hchildren, surveyFrom_of_listed hlisted]
    obtain ⟨hinit, -⟩ := Packages.listedIn_eq_ok hlisted
    have hsorted := Packages.pairwise_listed hlisted
    have hentered : Packages.Reopens tree paths
        ((middle.entered package).rememberAll package found) := by
      have hopened := hreopens.entered hpackage hinit
      rw [Packages.Reopens] at hopened ⊢
      rwa [Packages.opened_rememberAll]
    obtain ⟨after, hvisits, hafter⟩ := exec_visits hentered hsorted
      (fun item hitem => Packages.dot_not_mem_of_listed hlisted hitem)
      (fun item hitem => Packages.location?_rememberAll hsorted hitem)
      (fun item hitem inside hlocation before hremembered hbefore =>
        hinside (locationOfName_of_listed_package hpackage hlisted hitem hlocation)
          (hlocation ▸ hremembered) hbefore)
    refine ⟨after, ?_, hafter.reopens, fun {name} hname => ?_,
      fun {met} hmet item hitem hmodule => ?_⟩
    · dsimp only
      rw [exec_bind, hvisits]
      cases found.mapM (branch isExcluded (surveyFrom tree isExcluded depth) package) with
      | error error => rfl
      | ok branches => simp [Except.map, exec_pure, List.map_flatten]
    · rw [hafter.outside, Packages.location?_rememberAll_of_ne, Packages.location?_entered]
      · rintro item - rfl
        exact hname (Name.within_child package item.1)
      · rintro ⟨item, -, hwithin⟩
        exact hname hwithin.of_child
    · obtain ⟨branches, hbranches, rfl⟩ := exists_of_map_eq_ok hmet
      rcases List.mem_cons.mp hitem with rfl | hitem
      · cases hmodule
      · exact hafter.held (by rw [hbranches]; rfl) item hitem hmodule

/-- A walk through a package that is remembered. -/
theorem surveys_of_remembered {before : Packages}
    (hpackage : Packages.locationOfName tree paths package = .ok (.package directory))
    (hremembered : before.location? package = some (.package directory))
    (hreopens : Packages.Reopens tree paths before) :
    Surveys tree paths isExcluded depth package directory before before := by
  induction depth generalizing package directory before with
  | zero =>
    refine ⟨before, rfl, hreopens, fun _ => rfl, fun hmet item hitem => ?_⟩
    cases hmet
    cases hitem
  | succ depth ih =>
    exact surveys_succ (Packages.exec_locate_of_remembered hremembered tree) hpackage hreopens ih

/-! ### Inventories of packages -/

/-- What is registered for something that was met, given where it was met. -/
def registeredFrom (tree : FileTree) (item : Child × Location) :
    Except Error (String × Registered) :=
  if item.1.isPackage then .ok (item.1.name, { isPackage := true })
  else
    (Packages.loadedFrom tree item.1.name item.2).map fun loaded =>
      (item.1.name, { symbols := loaded.symbols, source := loaded.source })

/-- A package is registered without symbols, and everything under its own name. -/
theorem registeredFrom_eq_ok {item : Child × Location} {entry : String × Registered}
    (h : registeredFrom tree item = .ok entry) :
    asChild entry = item.1 ∧ (entry.2.isPackage = true → entry.2 = { isPackage := true }) := by
  obtain ⟨⟨name, isPackage⟩, location⟩ := item
  rw [registeredFrom] at h
  cases isPackage with
  | true =>
    cases h
    exact ⟨rfl, fun _ => rfl⟩
  | false =>
    dsimp only at h
    rw [if_neg Bool.false_ne_true] at h
    obtain ⟨loaded, -, rfl⟩ := exists_of_map_eq_ok h
    exact ⟨rfl, (fun hpackage => nomatch hpackage)⟩

/-- After a walk, everything that was met is loaded from where it was met. -/
theorem exec_mapM_registration {packages : Packages}
    (h : ∀ item ∈ met, item.1.isPackage = false →
      packages.location? item.1.name = some item.2) :
    exec ((met.map (·.1)).mapM registration) tree (.ofPackages packages) =
      (met.mapM (registeredFrom tree), .ofPackages packages) := by
  induction met with
  | nil => rfl
  | cons item rest ih =>
    have hitem : exec (registration item.1) tree (.ofPackages packages) =
        (registeredFrom tree item, .ofPackages packages) := by
      rw [registration, registeredFrom]
      cases hpackage : item.1.isPackage with
      | true => rfl
      | false =>
        rw [if_neg Bool.false_ne_true, if_neg Bool.false_ne_true, exec_bind, exec_load_ofPackages,
          Packages.exec_load_of_locate
            (Packages.exec_locate_of_remembered (h item List.mem_cons_self hpackage) tree)]
        cases Packages.loadedFrom tree item.1.name item.2 <;> rfl
    rw [List.map_cons, List.mapM_cons, List.mapM_cons, exec_bind, hitem]
    cases registeredFrom tree item with
    | error error => rfl
    | ok entry =>
      dsimp only
      rw [exec_bind, ih fun other hother => h other (List.mem_cons_of_mem _ hother)]
      cases rest.mapM (registeredFrom tree) <;> rfl

/-- A walk that is not refused starts in a package. -/
theorem exists_directory_of_survey {root : String} {children : List Child} {after : Source}
    (h : exec (surveyTo isExcluded (depth + 1) root) tree (.ofPackages { searchPaths := paths }) =
      (.ok children, after)) :
    ∃ directory, Packages.locationOfName tree paths root = .ok (.package directory) := by
  obtain ⟨listed, middle, hlisted, -⟩ := exec_bind_eq_ok h
  obtain ⟨_, hchildren, -⟩ := Packages.exec_children (Packages.Sound.fresh tree paths) root
  rw [exec_children_ofPackages, hchildren] at hlisted
  have hok : Packages.childrenOf tree paths root = .ok listed := congrArg Prod.fst hlisted
  rw [Packages.childrenOf] at hok
  cases hlocation : Packages.locationOfName tree paths root with
  | error error =>
    rw [hlocation] at hok
    cases hok
  | ok location =>
    rw [hlocation] at hok
    cases location with
    | package directory => exact ⟨directory, rfl⟩
    | source path | compiled path => cases hok

/-- An inventory of packages is what a walk meets, with what is loaded from where it is met. -/
theorem inventory_eq_ok {root : String} {entries : List (String × Registered)}
    (h : (exec (inventory isExcluded root) tree (.ofPackages { searchPaths := paths })).1 =
      .ok entries) :
    ∃ depth directory met, surveyFrom tree isExcluded (depth + 1) root directory = .ok met ∧
      met.mapM (registeredFrom tree) = .ok entries := by
  obtain ⟨depth, hdepth⟩ : ∃ depth, pathLimit = depth + 1 := ⟨_, rfl⟩
  have hinventory : exec (inventory isExcluded root) tree (.ofPackages { searchPaths := paths }) =
      exec (surveyTo isExcluded (depth + 1) root >>= fun met => met.mapM registration) tree
        (.ofPackages { searchPaths := paths }) := by
    rw [inventory]
    rw [exec_bind_of_ok _ (exec_get tree _), ← hdepth]
    rfl
  obtain ⟨children, walked, hwalk, hregistrations⟩ :=
    exec_bind_eq_ok (hinventory.symm.trans (Prod.ext h rfl))
  obtain ⟨directory, hroot⟩ := exists_directory_of_survey hwalk
  obtain ⟨middle, hlocate, hmiddle⟩ := Packages.exec_locate (Packages.Sound.fresh tree paths) root
  rw [hroot] at hlocate
  obtain ⟨after, hsurvey, hafter⟩ :=
    surveys_succ hlocate hroot hmiddle.reopens surveys_of_remembered
  obtain ⟨hanswer, rfl⟩ := Prod.mk.inj (hsurvey.symm.trans hwalk)
  obtain ⟨met, hmet, rfl⟩ := exists_of_map_eq_ok hanswer
  rw [exec_mapM_registration (hafter.held hmet)] at hregistrations
  exact ⟨depth, directory, met, hmet, congrArg Prod.fst hregistrations⟩

end Source

end DocStubs
