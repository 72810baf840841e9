import DocStubs.Proofs.Files.Depth
import DocStubs.Proofs.Source.Inventory

/-!
# Walks end

A walk goes into every package it meets, and a package may be a link back to one that is around it.
Each time around gives new names, so no check for names that were met before would stop the walk.
`Walks` says what a walk does without any bound on its depth, and the bound of `leavesTo` is shown
never to be met: each package that is met has a file below the directory of the package around it,
and `FileTree.Nests` bounds how often that can be.

That what is met below a directory is really looked for below it depends on the memory. A package is
looked up by its name, which may be remembered from before, and what a walk through one package
remembers must not change where the next one is. `Pending` is the invariant for that, and `Ends`
carries it from item to item.

## Main definitions

* `Source.Walks` — what a walk answers, without a bound on its depth
* `Source.Pending` — the listed items that a walk has not come to yet
* `Source.Ends` — a walk comes to an end, and a bound on its depth is never met

## Main results

* `Source.Walks.unique` — a walk answers one thing only
* `Source.Pending.ends` — a walk ends if packages are nested no deeper than a bound
* `Source.walk_ends` — every walk through packages ends
-/

namespace DocStubs

/-! ### Failures -/

namespace Query

variable {σ α β : Type}

/-- A question fails only to import a name. -/
def OnlyRefuses (query : Query σ α) : Prop :=
  ∀ tree before error after, exec query tree before = (.error error, after) →
    ∃ name fault, error = .cannotImport name fault

theorem onlyRefuses_of_ok {query : Query σ α}
    (h : ∀ tree before, ∃ value after, exec query tree before = (.ok value, after)) :
    OnlyRefuses query := by
  intro tree before error after herror
  obtain ⟨value, after', hok⟩ := h tree before
  rw [hok] at herror
  cases herror

theorem onlyRefuses_pure (value : α) : OnlyRefuses (pure value : Query σ α) :=
  onlyRefuses_of_ok fun tree before => ⟨value, before, exec_pure value tree before⟩

theorem onlyRefuses_get : OnlyRefuses (get : Query σ σ) :=
  onlyRefuses_of_ok fun tree before => ⟨before, before, exec_get tree before⟩

theorem onlyRefuses_throw (name : String) (fault : ImportFault) :
    OnlyRefuses (throw (.cannotImport name fault) : Query σ α) := by
  intro tree before error after herror
  cases herror
  exact ⟨name, fault, rfl⟩

theorem OnlyRefuses.bind {query : Query σ α} {next : α → Query σ β} (h : OnlyRefuses query)
    (hnext : ∀ value, OnlyRefuses (next value)) : OnlyRefuses (query >>= next) := by
  intro tree before error after herror
  cases hfirst : exec query tree before with
  | mk answer middle =>
    cases answer with
    | error other =>
      rw [exec_bind_of_error next hfirst] at herror
      cases herror
      exact h tree before error after hfirst
    | ok value =>
      rw [exec_bind_of_ok next hfirst] at herror
      exact hnext value tree middle error after herror

end Query

namespace Packages

open Query

theorem onlyRefuses_ask {α : Type} (question : FileTree → α) : OnlyRefuses (ask question) :=
  onlyRefuses_of_ok fun tree packages => ⟨_, _, exec_ask question tree packages⟩

theorem onlyRefuses_seek (leaf : String) {outer : List String}
    (h : OnlyRefuses (locateSegments outer)) : OnlyRefuses (seek leaf outer) := by
  rw [seek]
  split
  · exact .bind onlyRefuses_get fun _ => onlyRefuses_ask _
  · refine .bind h fun location => ?_
    cases location with
    | package directory => exact onlyRefuses_ask _
    | source path | compiled path => exact onlyRefuses_throw _ _

theorem onlyRefuses_settle (name : String) (found : Option Location) :
    OnlyRefuses (settle name found) := by
  cases found with
  | none => exact onlyRefuses_throw _ _
  | some location => exact onlyRefuses_of_ok fun tree packages => ⟨_, _, rfl⟩

theorem onlyRefuses_locateSegments (parts : List String) :
    OnlyRefuses (locateSegments parts) := by
  induction parts with
  | nil => exact onlyRefuses_throw _ _
  | cons leaf outer ih =>
    rw [locateSegments_cons]
    refine .bind (onlyRefuses_of_ok fun tree packages => ⟨_, _, exec_remembered? _ tree packages⟩)
      fun memory => ?_
    cases memory with
    | some location => exact onlyRefuses_pure location
    | none => exact .bind (onlyRefuses_seek leaf ih) fun found => onlyRefuses_settle _ found

theorem onlyRefuses_outline (path name : String) : OnlyRefuses (outline path name) := by
  refine .bind (onlyRefuses_ask _) fun found => ?_
  cases found with
  | ok read => exact onlyRefuses_pure read
  | error fault => exact onlyRefuses_throw _ _

theorem onlyRefuses_enter (package directory : String) :
    OnlyRefuses (enter package directory) := by
  refine .bind onlyRefuses_get fun packages => ?_
  split
  · exact onlyRefuses_pure ()
  · have hdiscard : discard (outline (Path.join directory initFile) package) =
        (outline (Path.join directory initFile) package >>= fun _ => pure ()) :=
      Query.ext fun tree state => exec_discard _ tree state
    rw [hdiscard]
    exact .bind (.bind (onlyRefuses_outline _ _) fun _ => onlyRefuses_pure ())
      fun _ => onlyRefuses_of_ok fun tree packages => ⟨_, _, rfl⟩

theorem onlyRefuses_children (package : String) : OnlyRefuses (children package) := by
  refine .bind (onlyRefuses_locateSegments _) fun location => ?_
  cases location with
  | source path | compiled path => exact onlyRefuses_throw _ _
  | package directory =>
    refine .bind (onlyRefuses_enter _ _) fun _ => .bind (onlyRefuses_ask _) fun listed => ?_
    cases listed with
    | error fault => exact onlyRefuses_throw _ _
    | ok found =>
      exact onlyRefuses_of_ok fun tree packages =>
        ⟨_, _, exec_mapM_remember package found tree packages⟩

end Packages

namespace Source

open Query

variable {tree : FileTree} {isExcluded : String → Bool} {bound depth : Nat}
  {name root : String} {child : Child} {children rest : List Child}
  {found : List (String × Location)} {item : String × Location}

/-! ### What a walk does -/

/-- What a walk answers for a list of modules and packages: the modules that are not excluded, with
what is inside each package in its place. There is no bound on how deep packages are nested. -/
inductive Walks (tree : FileTree) (isExcluded : String → Bool) :
    List Child → Source → Except Error (List String) → Source → Prop
  | done {source : Source} : Walks tree isExcluded [] source (.ok []) source
  | module {child : Child} {rest before answer after} (isModule : child.isPackage = false)
      (onward : Walks tree isExcluded rest before answer after) :
      Walks tree isExcluded (child :: rest) before
        (answer.map ((if isExcluded child.name then [] else [child.name]) ++ ·)) after
  /-- A package that cannot be listed ends the walk. -/
  | unlisted {child : Child} {rest before error after} (isPackage : child.isPackage = true)
      (refused : exec (Source.children child.name) tree before = (.error error, after)) :
      Walks tree isExcluded (child :: rest) before (.error error) after
  /-- What ends the walk inside a package ends all of it. -/
  | failed {child : Child} {rest found before middle error after}
      (isPackage : child.isPackage = true)
      (listed : exec (Source.children child.name) tree before = (.ok found, middle))
      (inside : Walks tree isExcluded found middle (.error error) after) :
      Walks tree isExcluded (child :: rest) before (.error error) after
  | package {child : Child} {rest found names before middle last answer after}
      (isPackage : child.isPackage = true)
      (listed : exec (Source.children child.name) tree before = (.ok found, middle))
      (inside : Walks tree isExcluded found middle (.ok names) last)
      (onward : Walks tree isExcluded rest last answer after) :
      Walks tree isExcluded (child :: rest) before (answer.map (names ++ ·)) after

/-- A walk answers one thing only. -/
theorem Walks.unique {before after after' : Source} {answer answer' : Except Error (List String)}
    (h : Walks tree isExcluded children before answer after)
    (h' : Walks tree isExcluded children before answer' after') :
    answer' = answer ∧ after' = after := by
  induction h generalizing answer' after' with
  | done =>
    cases h'
    exact ⟨rfl, rfl⟩
  | module isModule onward ih =>
    cases h' with
    | module _ onward' =>
      obtain ⟨rfl, rfl⟩ := ih onward'
      exact ⟨rfl, rfl⟩
    | unlisted isPackage | failed isPackage | package isPackage =>
      rw [isModule] at isPackage
      cases isPackage
  | unlisted isPackage refused =>
    cases h' with
    | module isModule =>
      rw [isPackage] at isModule
      cases isModule
    | unlisted _ refused' =>
      cases refused.symm.trans refused'
      exact ⟨rfl, rfl⟩
    | failed _ listed' | package _ listed' => cases refused.symm.trans listed'
  | failed isPackage listed inside ih =>
    cases h' with
    | module isModule =>
      rw [isPackage] at isModule
      cases isModule
    | unlisted _ refused' => cases listed.symm.trans refused'
    | failed _ listed' inside' =>
      cases listed.symm.trans listed'
      exact ih inside'
    | package _ listed' inside' =>
      cases listed.symm.trans listed'
      cases (ih inside').1
  | package isPackage listed inside onward ihInside ihOnward =>
    cases h' with
    | module isModule =>
      rw [isPackage] at isModule
      cases isModule
    | unlisted _ refused' => cases listed.symm.trans refused'
    | failed _ listed' inside' =>
      cases listed.symm.trans listed'
      cases (ihInside inside').1
    | package _ listed' inside' onward' =>
      cases listed.symm.trans listed'
      obtain ⟨hnames, rfl⟩ := ihInside inside'
      cases hnames
      obtain ⟨rfl, rfl⟩ := ihOnward onward'
      exact ⟨rfl, rfl⟩

/-- What is inside a package is listed, or a name cannot be imported. -/
theorem onlyRefuses_children (package : String) : OnlyRefuses (Source.children package) := by
  intro tree before error after herror
  cases before with
  | ofPackages packages =>
    rw [exec_children_ofPackages] at herror
    obtain ⟨hanswer, -⟩ := Prod.mk.inj herror
    exact Packages.onlyRefuses_children package tree packages error _ (Prod.ext hanswer rfl)
  | ofRegistry registry =>
    rw [Source.children, exec_bind_of_ok _ (exec_get tree _)] at herror
    have hregistered : OnlyRefuses (registered registry package) := by
      rw [registered]
      split
      · exact onlyRefuses_pure _
      · exact onlyRefuses_throw _ _
    refine OnlyRefuses.bind hregistered (fun module => ?_) tree _ error after herror
    split
    · exact onlyRefuses_pure _
    · exact onlyRefuses_throw _ _

/-- A walk answers with a list, or a name cannot be imported. -/
theorem Walks.list_or_failure {before after : Source} {answer : Except Error (List String)}
    (h : Walks tree isExcluded children before answer after) :
    (∃ names, answer = .ok names) ∨ ∃ name fault, answer = .error (.cannotImport name fault) := by
  induction h with
  | done => exact Or.inl ⟨[], rfl⟩
  | module isModule onward ih | package isPackage listed inside onward _ ih =>
    obtain ⟨names, rfl⟩ | ⟨name, fault, rfl⟩ := ih
    · exact Or.inl ⟨_, rfl⟩
    · exact Or.inr ⟨name, fault, rfl⟩
  | unlisted isPackage refused =>
    obtain ⟨name, fault, rfl⟩ := onlyRefuses_children _ _ _ _ _ refused
    exact Or.inr ⟨name, fault, rfl⟩
  | failed isPackage listed inside ih => exact ih

/-! ### Walks to a depth -/

/-- The modules in a list of modules and packages, up to a depth of nesting. -/
def visits (isExcluded : String → Bool) (depth : Nat) (children : List Child) :
    SourceQuery (List String) := do
  let found ← children.mapM fun child =>
    if child.isPackage then leavesTo isExcluded depth child.name
    else return if isExcluded child.name then [] else [child.name]
  return found.flatten

theorem leavesTo_succ (isExcluded : String → Bool) (depth : Nat) (package : String) :
    leavesTo isExcluded (depth + 1) package =
      Source.children package >>= visits isExcluded depth := rfl

theorem exec_leavesTo_of_refused {before after : Source} {error : Error}
    (h : exec (Source.children name) tree before = (.error error, after)) (hdepth : 0 < depth) :
    exec (leavesTo isExcluded depth name) tree before = (.error error, after) := by
  obtain ⟨depth, rfl⟩ := Nat.exists_eq_add_of_le' hdepth
  rw [leavesTo_succ, exec_bind_of_error _ h]

/-- A bound that is never met inside a package gives one for the package. -/
theorem exec_leavesTo_of_listed {before middle : Source}
    {result : Except Error (List String) × Source}
    (h : exec (Source.children name) tree before = (.ok children, middle))
    (hvisits : ∀ depth, bound ≤ depth →
      exec (visits isExcluded depth children) tree middle = result)
    (hdepth : bound < depth) : exec (leavesTo isExcluded depth name) tree before = result := by
  obtain ⟨depth, rfl⟩ := Nat.exists_eq_add_of_le' (Nat.zero_lt_of_lt hdepth)
  rw [leavesTo_succ, exec_bind_of_ok _ h]
  exact hvisits depth (Nat.le_of_lt_succ hdepth)

theorem visits_cons (isExcluded : String → Bool) (depth : Nat) (child : Child)
    (rest : List Child) :
    visits isExcluded depth (child :: rest) =
      (if child.isPackage then leavesTo isExcluded depth child.name
        else pure (if isExcluded child.name then [] else [child.name])) >>=
      fun names => (names ++ ·) <$> visits isExcluded depth rest := by
  rw [visits, List.mapM_cons]
  simp only [visits, bind_assoc, pure_bind, map_bind, map_pure, List.flatten_cons]

theorem visits_singleton (isExcluded : String → Bool) (depth : Nat) (name : String) :
    visits isExcluded depth [{ name, isPackage := true }] = leavesTo isExcluded depth name := by
  have hnil : visits isExcluded depth [] = pure [] := rfl
  rw [visits_cons, if_pos rfl, hnil]
  simp only [map_pure, List.append_nil, bind_pure]

theorem exec_visits_of_module {before after : Source} {answer : Except Error (List String)}
    (hmodule : child.isPackage = false)
    (h : exec (visits isExcluded depth rest) tree before = (answer, after)) :
    exec (visits isExcluded depth (child :: rest)) tree before =
      (answer.map ((if isExcluded child.name then [] else [child.name]) ++ ·), after) := by
  rw [visits_cons, hmodule, if_neg Bool.false_ne_true, pure_bind, exec_map, h]

theorem exec_visits_of_package {before middle after : Source} {names : List String}
    {answer : Except Error (List String)} (hpackage : child.isPackage = true)
    (hinside : exec (leavesTo isExcluded depth child.name) tree before = (.ok names, middle))
    (h : exec (visits isExcluded depth rest) tree middle = (answer, after)) :
    exec (visits isExcluded depth (child :: rest)) tree before =
      (answer.map (names ++ ·), after) := by
  rw [visits_cons, hpackage, if_pos rfl, exec_bind_of_ok _ hinside, exec_map, h]

theorem exec_visits_of_error {before after : Source} {error : Error}
    (hpackage : child.isPackage = true)
    (hinside : exec (leavesTo isExcluded depth child.name) tree before = (.error error, after)) :
    exec (visits isExcluded depth (child :: rest)) tree before = (.error error, after) := by
  rw [visits_cons, hpackage, if_pos rfl, exec_bind_of_error _ hinside]

/-! ### Ends of walks -/

/-- Nothing that is remembered of names outside has changed. -/
def Untouched (inside : String → Prop) (before after : Packages) : Prop :=
  ∀ name, ¬ inside name → after.location? name = before.location? name

/-- A walk comes to an end. It changes nothing that is remembered outside of what it walks through,
unless it fails, and a bound on its depth that is not below a given one is never met. -/
def Ends (tree : FileTree) (isExcluded : String → Bool) (bound : Nat) (inside : String → Prop)
    (children : List Child) (before : Packages) : Prop :=
  ∃ answer after, Walks tree isExcluded children (.ofPackages before) answer (.ofPackages after) ∧
    (∀ names, answer = .ok names → Untouched inside before after) ∧
    ∀ depth, bound ≤ depth → exec (visits isExcluded depth children) tree (.ofPackages before) =
      (answer, .ofPackages after)

namespace Ends

variable {inside inside' : String → Prop} {before : Packages}

theorem mono (h : Ends tree isExcluded bound inside children before)
    (himp : ∀ name, inside name → inside' name) :
    Ends tree isExcluded bound inside' children before := by
  obtain ⟨answer, after, hwalks, houtside, hdepth⟩ := h
  exact ⟨answer, after, hwalks,
    fun names hok name hname => houtside names hok name fun hinside => hname (himp name hinside),
    hdepth⟩

theorem done : Ends tree isExcluded bound inside [] before :=
  ⟨.ok [], before, .done, fun _ _ _ _ => rfl, fun _ _ => rfl⟩

theorem module (hmodule : child.isPackage = false)
    (h : Ends tree isExcluded bound inside rest before) :
    Ends tree isExcluded bound inside (child :: rest) before := by
  obtain ⟨answer, after, hwalks, houtside, hdepth⟩ := h
  refine ⟨_, after, .module hmodule hwalks, fun names hok => ?_, fun depth hle =>
    exec_visits_of_module hmodule (hdepth depth hle)⟩
  obtain ⟨others, hothers, -⟩ := exists_of_map_eq_ok hok
  exact houtside others hothers

/-- A walk through a package and what comes after it takes one level more than the walk through
what is inside the package. -/
theorem package (hpackage : child.isPackage = true)
    (hinside : ∀ {found middle},
      exec (Packages.children child.name) tree before = (.ok found, middle) →
      Untouched inside before middle ∧ Ends tree isExcluded bound inside found middle)
    (hrest : ∀ {after}, Untouched inside before after →
      Ends tree isExcluded (bound + 1) inside' rest after) :
    Ends tree isExcluded (bound + 1) (fun name => inside name ∨ inside' name) (child :: rest)
      before := by
  have hchildren := exec_children_ofPackages child.name tree before
  cases hlisted : exec (Packages.children child.name) tree before with
  | mk listed middle =>
  rw [hlisted] at hchildren
  cases listed with
  | error error =>
    exact ⟨.error error, middle, .unlisted hpackage hchildren, fun _ hok => (nomatch hok),
      fun depth hle => exec_visits_of_error hpackage
        (exec_leavesTo_of_refused hchildren (Nat.zero_lt_of_lt hle))⟩
  | ok found =>
    obtain ⟨hmiddle, answer, last, hwalks, houtside, hdepth⟩ := hinside hlisted
    cases answer with
    | error error =>
      exact ⟨.error error, last, .failed hpackage hchildren hwalks, fun _ hok => (nomatch hok),
        fun depth hle => exec_visits_of_error hpackage
          (exec_leavesTo_of_listed hchildren hdepth hle)⟩
    | ok names =>
      have hlast : Untouched inside before last := fun name hname =>
        (houtside names rfl name hname).trans (hmiddle name hname)
      obtain ⟨answer, after, hrestWalks, hrestOutside, hrestDepth⟩ := hrest hlast
      refine ⟨_, after, .package hpackage hchildren hwalks hrestWalks,
        fun names hok name hname => ?_, fun depth hle => exec_visits_of_package hpackage
          (exec_leavesTo_of_listed hchildren hdepth hle) (hrestDepth depth hle)⟩
      obtain ⟨others, hothers, -⟩ := exists_of_map_eq_ok hok
      rw [not_or] at hname
      exact (hrestOutside others hothers name hname.2).trans (hlast name hname.1)

end Ends

/-! ### Items that are still to be visited -/

/-- The listed items of a package that a walk has not come to yet: each is remembered where it was
listed, and packages are nested in it no deeper than a bound. -/
structure Pending (tree : FileTree) (bound : Nat) (package : String)
    (found : List (String × Location)) (memory : Packages) : Prop where
  sorted : found.Pairwise fun item other => item.1 < other.1
  no_dots : ∀ item ∈ found, '.' ∉ item.1.toList
  remembered : ∀ item ∈ found, memory.location? (Name.child package item.1) = some item.2
  nests : ∀ item ∈ found, ∀ directory, item.2 = .package directory → tree.Nests bound directory

namespace Pending

variable {package directory : String} {before after : Packages}

/-- After a package was listed, all its items are still to be visited. -/
theorem of_importables (hnests : tree.Nests (bound + 1) directory)
    (hlisted : tree.importables directory = .ok found) (package : String) (memory : Packages) :
    Pending tree bound package found (memory.rememberAll package found) := by
  have hsorted := FileTree.pairwise_importables hlisted
  have hident : ∀ item ∈ found, isIdentifier item.1 = true :=
    fun item hitem => FileTree.isIdentifier_of_mem hlisted hitem
  refine ⟨hsorted, fun item hitem => dot_not_mem_identifier (hident item hitem),
    fun item hitem => Packages.location?_rememberAll hsorted hitem, ?_⟩
  rintro ⟨leaf, _⟩ hitem inner rfl
  rcases FileTree.location_of_mem hlisted hitem with ⟨hinner, hfile⟩ | hsource | ⟨path, hcompiled⟩
  · cases hinner
    exact hnests.inside (isName_of_isIdentifier (hident _ hitem)) hfile
  · cases hsource
  · cases hcompiled

/-- A walk through one item leaves the others where they were listed. -/
theorem tail (h : Pending tree bound package (item :: found) before)
    (houtside : Untouched (Name.Within (Name.child package item.1)) before after) :
    Pending tree bound package found after := by
  obtain ⟨hfirst, hsorted⟩ := List.pairwise_cons.mp h.sorted
  obtain ⟨hdot, hdots⟩ := List.forall_mem_cons.mp h.no_dots
  refine ⟨hsorted, hdots, fun other hother => ?_,
    fun other hother => h.nests other (List.mem_cons_of_mem _ hother)⟩
  rw [houtside _ fun hwithin => ?_]
  · exact h.remembered other (List.mem_cons_of_mem _ hother)
  · exact Std.ne_of_lt (hfirst other hother)
      (Name.leaf_eq_of_within hdot (hdots other hother) hwithin (Name.Within.refl _))

/-- A package that is remembered is listed from where it is remembered, and nothing outside of it is
remembered anew. -/
theorem of_children {listed : List Child} (hnests : tree.Nests (bound + 1) directory)
    (hremembered : before.location? package = some (.package directory))
    (h : exec (Packages.children package) tree before = (.ok listed, after)) :
    Untouched (Name.Within package) before after ∧
      ∃ found, listed = found.map (Packages.childOf package) ∧
        Pending tree bound package found after := by
  obtain ⟨directory', found, middle, hlocate, hlisted, rfl, rfl⟩ := Packages.exec_children_eq_ok h
  cases (Packages.exec_locate_of_remembered hremembered tree).symm.trans hlocate
  refine ⟨fun name hname => ?_, found, rfl, of_importables hnests hlisted package _⟩
  rw [Packages.location?_rememberAll_of_ne, Packages.location?_entered]
  rintro item - rfl
  exact hname (Name.within_child package item.1)

/-- A walk ends if packages are nested no deeper than a bound. -/
theorem ends (h : Pending tree bound package found before) :
    Ends tree isExcluded bound (Name.Within package) (found.map (Packages.childOf package))
      before := by
  -- What is inside a package has a smaller bound, and what comes after it fewer items.
  induction bound using Nat.strongRecOn generalizing package found before with
  | ind bound ihBound =>
  induction found generalizing before with
  | nil => exact .done
  | cons item rest ih =>
    obtain ⟨leaf, location⟩ := item
    cases location with
    | source path | compiled path => exact .module rfl (ih (h.tail fun _ _ => rfl))
    | package directory =>
      have hnests := h.nests _ List.mem_cons_self directory rfl
      obtain ⟨fewer, rfl⟩ := Nat.exists_eq_add_of_le' hnests.pos
      have hremembered := h.remembered _ List.mem_cons_self
      refine (Ends.package rfl (fun hlisted => ?_) fun houtside => ih (h.tail houtside)).mono ?_
      · obtain ⟨houtside, found, rfl, hpending⟩ := of_children hnests hremembered hlisted
        exact ⟨houtside, ihBound fewer (Nat.lt_succ_self _) hpending⟩
      · rintro name (hwithin | hwithin)
        · exact hwithin.of_child
        · exact hwithin

end Pending

/-! ### Walks from a package -/

/-- A walk from any package ends if packages are nested no deeper than a bound below any
directory. -/
theorem exists_walk (hnests : ∀ directory, tree.Nests bound directory) (root : String)
    (packages : Packages) :
    ∃ answer after,
      Walks tree isExcluded [{ name := root, isPackage := true }] (.ofPackages packages) answer
        after ∧
      ∀ depth, bound ≤ depth →
        exec (leavesTo isExcluded depth root) tree (.ofPackages packages) = (answer, after) := by
  obtain ⟨fewer, rfl⟩ := Nat.exists_eq_add_of_le' (hnests "").pos
  -- Nothing comes after the package, so it does not matter what the walk remembers.
  have hends : Ends tree isExcluded (fewer + 1) (fun _ => True ∨ True)
      [{ name := root, isPackage := true }] packages := by
    refine Ends.package rfl (fun hchildren => ?_) fun _ => .done
    obtain ⟨directory, found, middle, -, hlisted, rfl, rfl⟩ :=
      Packages.exec_children_eq_ok hchildren
    refine ⟨fun name hname => absurd trivial hname, ?_⟩
    exact (Pending.of_importables (hnests directory) hlisted root _).ends.mono fun _ _ => trivial
  obtain ⟨answer, after, hwalks, -, hdepth⟩ := hends
  refine ⟨answer, .ofPackages after, hwalks, fun depth hle => ?_⟩
  rw [← hdepth depth hle, visits_singleton]

/-- Every walk through packages ends, with a list or because a name cannot be imported, whatever
links there are and whatever is remembered. Its answer is that of `leaves`, and it goes no deeper
than the links that a lookup follows and the height of the tree allow. -/
theorem walk_ends (tree : FileTree) (isExcluded : String → Bool) (packages : Packages)
    (root : String) :
    ∃ answer after,
      (∀ answer' after', Walks tree isExcluded [{ name := root, isPackage := true }]
        (.ofPackages packages) answer' after' ↔ answer' = answer ∧ after' = after) ∧
      ((∃ names, answer = .ok names) ∨ ∃ name fault, answer = .error (.cannotImport name fault)) ∧
      exec (leaves isExcluded root) tree (.ofPackages packages) = (answer, after) ∧
      ∀ depth, (linkLimit + 1) * (tree.height + 1) ≤ depth →
        exec (leavesTo isExcluded depth root) tree (.ofPackages packages) = (answer, after) := by
  obtain ⟨answer, after, hwalks, hdepth⟩ := exists_walk tree.nests_of_links root packages
  obtain ⟨answer', after', hwalks', hdepth'⟩ := exists_walk tree.nests_of_pathLimit root packages
  obtain ⟨rfl, rfl⟩ := hwalks.unique hwalks'
  refine ⟨answer', after', fun answer'' after'' => ⟨hwalks.unique, ?_⟩, hwalks.list_or_failure,
    ?_, hdepth⟩
  · rintro ⟨rfl, rfl⟩
    exact hwalks
  · rw [leaves, exec_bind_of_ok _ (exec_get tree _)]
    exact hdepth' pathLimit (Nat.le_refl _)

end Source

end DocStubs
