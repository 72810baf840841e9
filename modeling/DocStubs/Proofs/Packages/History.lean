import DocStubs.Proofs.Packages.Memory

/-!
# Answers and earlier questions

Packages remember where names are, and listing a package remembers what it lists. Whether that
changes later answers is a question about the file tree alone: it does not exactly if listing and
searching agree on all that can be listed (`Unambiguous`).

If they agree, every memory that questions can leave behind is sound, whether they were answered
or failed. If they do not agree on some module, to list its package and then to load it gives
another answer than to load it at once.

## Main definitions

* `Packages.Call`, `Packages.memoryAfter` — questions, and what is remembered after them
* `Packages.Unambiguous` — listing and searching agree

## Main results

* `Packages.answers_of_history_iff` — when answers do not depend on earlier questions
-/

namespace DocStubs

namespace Packages

open Query

variable {tree : FileTree} {packages : Packages} {paths : List String}
  {package directory : String} {found : List (String × Location)} {item : String × Location}

/-! ### Earlier questions -/

/-- A question that packages are asked. -/
inductive Call where
  | children (package : String)
  | load (name : String)

/-- What is remembered after a question, answered or not. -/
def Call.memory (tree : FileTree) (packages : Packages) : Call → Packages
  | children package => (exec (Packages.children package) tree packages).2
  | load name => (exec (Packages.load name) tree packages).2

/-- What is remembered after questions, if nothing was remembered before them. -/
def memoryAfter (tree : FileTree) (paths : List String) (calls : List Call) : Packages :=
  calls.foldl (Call.memory tree) { searchPaths := paths }

/-- Whatever can be listed, a search for it alone finds the same. -/
def Unambiguous (tree : FileTree) (paths : List String) : Prop :=
  ∀ package directory found, locationOfName tree paths package = .ok (.package directory) →
    listedIn tree package directory = .ok found →
    ∀ item ∈ found, tree.Agrees directory item.1 item.2

/-! ### If listing and searching agree -/

/-- A listed item has the location that a search for its name finds. -/
theorem locationOfName_of_listed (h : Unambiguous tree paths)
    (hpackage : locationOfName tree paths package = .ok (.package directory))
    (hlisted : listedIn tree package directory = .ok found) (hitem : item ∈ found) :
    locationOfName tree paths (Name.child package item.1) = .ok item.2 := by
  have hfind := FileTree.find?_of_mem (listedIn_eq_ok hlisted).2 hitem
    (h package directory found hpackage hlisted item hitem)
  rw [locationOfName_child hpackage (dot_not_mem_of_listed hlisted hitem), hfind]
  rfl

/-- One question keeps a memory sound. -/
theorem Sound.call (hsound : Sound tree paths packages) (h : Unambiguous tree paths)
    (call : Call) : Sound tree paths (call.memory tree packages) := by
  cases call with
  | children package =>
    obtain ⟨after, hexec, hafter⟩ := exec_children hsound package
    rw [Call.memory, hexec]
    exact hafter fun directory found hpackage hlisted item hitem =>
      locationOfName_of_listed h hpackage hlisted hitem
  | load name =>
    obtain ⟨after, hexec, hafter⟩ := exec_load hsound name
    rw [Call.memory, hexec]
    exact hafter

theorem Sound.memoryAfter (h : Unambiguous tree paths) (calls : List Call) :
    Sound tree paths (memoryAfter tree paths calls) := by
  rw [Packages.memoryAfter]
  have hfresh := Sound.fresh tree paths
  generalize ({ searchPaths := paths } : Packages) = packages at hfresh
  induction calls generalizing packages with
  | nil => exact hfresh
  | cons call rest ih => exact ih _ (hfresh.call h call)

/-! ### If they do not agree -/

/-- What is read for a compiled module is never the source beside it. -/
theorem withFileName_ne_join (path directory leaf leaf' : String) :
    Path.withFileName path (leaf ++ ".pyi") ≠ Path.join directory (leaf' ++ ".py") := by
  intro h
  obtain ⟨before, hstub⟩ :=
    Path.exists_join_eq_append ((Path.parent? path).getD "") (leaf ++ ".pyi")
  obtain ⟨before', hsource⟩ := Path.exists_join_eq_append directory (leaf' ++ ".py")
  rw [Path.withFileName, hstub, hsource] at h
  have hlast := congrArg (fun text : String => text.toList.getLast?) h
  simp at hlast

/-- Which file a failure to read a module is about. -/
def faultPath? : ImportFault → Option String
  | .unreadable path _ => some path
  | .malformed path _ => some path
  | _ => none

theorem faultPath?_of_outline {path name : String} {fault : ImportFault}
    (h : tree.outline path name = .error fault) : faultPath? fault = some path := by
  revert h
  fun_cases FileTree.outline tree path name with
  | case1 fault hread =>
    rintro ⟨⟩
    rfl
  | case2 text hread outline hparse =>
    intro h
    cases h
  | case3 text hread fault hparse =>
    rintro ⟨⟩
    rfl

theorem outlined_eq_error {path name : String} {error : Error}
    (h : outlined tree path name = .error error) :
    ∃ fault, error = .cannotImport name fault ∧ faultPath? fault = some path := by
  rw [outlined] at h
  cases houtline : tree.outline path name with
  | ok read =>
    rw [houtline] at h
    cases h
  | error fault =>
    rw [houtline] at h
    cases h
    exact ⟨fault, rfl, faultPath?_of_outline houtline⟩

/-- The failure to find a name is not one to read a module. -/
theorem loadedFrom_source_ne_missing (tree : FileTree) (path name : String) :
    loadedFrom tree name (.source path) ≠ .error (.cannotImport name (.missing name)) := by
  intro h
  dsimp only [loadedFrom] at h
  cases hsource : outlined tree path name with
  | ok read =>
    rw [hsource] at h
    cases h
  | error error =>
    rw [hsource] at h
    obtain ⟨fault, rfl, hfault⟩ := outlined_eq_error hsource
    cases h
    cases hfault

/-- A module is loaded with a text from a source and without one from a compiled module, and a
failure is about different files. -/
theorem loadedFrom_source_ne_compiled (tree : FileTree) (name directory leaf path : String) :
    loadedFrom tree name (.source (Path.join directory (leaf ++ ".py"))) ≠
      loadedFrom tree name (.compiled path) := by
  intro h
  dsimp only [loadedFrom] at h
  cases hsource : outlined tree (Path.join directory (leaf ++ ".py")) name with
  | ok read =>
    have htext := congrArg (Except.map Loaded.source) h
    rw [hsource] at htext
    split at htext
    · cases hstub : outlined tree (Path.withFileName path (Name.leaf name ++ ".pyi")) name <;>
      · rw [hstub] at htext
        cases htext
    · cases htext
  | error error =>
    rw [hsource] at h
    split at h
    · cases hstub : outlined tree (Path.withFileName path (Name.leaf name ++ ".pyi")) name with
      | ok read =>
        rw [hstub] at h
        cases h
      | error error' =>
        rw [hstub] at h
        obtain ⟨fault, rfl, hfault⟩ := outlined_eq_error hsource
        obtain ⟨fault', rfl, hfault'⟩ := outlined_eq_error hstub
        cases h
        rw [hfault] at hfault'
        exact withFileName_ne_join path directory _ leaf (Option.some.inj hfault').symm
    · cases h

/-- The answer about a module whose package was listed before is about the listed file. -/
theorem load_after_children
    (hpackage : locationOfName tree paths package = .ok (.package directory))
    (hlisted : listedIn tree package directory = .ok found) (hitem : item ∈ found) :
    (exec (load (Name.child package item.1)) tree
        (memoryAfter tree paths [.children package])).1 =
      loadedFrom tree (Name.child package item.1) item.2 := by
  have hfresh := Sound.fresh tree paths
  obtain ⟨middle, hlocate, hmiddle⟩ := exec_locate hfresh package
  rw [hpackage] at hlocate
  have hchildren := exec_children_of_locate hlocate fun hmem => hmiddle.reopens hmem hpackage
  rw [hlisted] at hchildren
  have hremembered : (memoryAfter tree paths [.children package]).location?
      (Name.child package item.1) = some item.2 := by
    show (exec (children package) tree { searchPaths := paths }).2.location? _ = _
    rw [hchildren]
    exact location?_rememberAll (pairwise_listed hlisted) hitem
  rw [exec_load_of_locate (exec_locate_of_remembered hremembered tree)]

/-- A module inside a package is loaded from where a search in its directory finds it. -/
theorem loadedOf_child {leaf : String} {found : Option Location}
    (hpackage : locationOfName tree paths package = .ok (.package directory))
    (hleaf : '.' ∉ leaf.toList) (hfind : tree.find? directory leaf = found) :
    loadedOf tree paths (Name.child package leaf) =
      match found with
      | some location => loadedFrom tree (Name.child package leaf) location
      | none => .error (.cannotImport (Name.child package leaf)
          (.missing (Name.child package leaf))) := by
  have hlocation := locationOfName_child hpackage hleaf
  rw [hfind] at hlocation
  rw [loadedOf, hlocation]
  cases found <;> rfl

/-- If listing a package does not change what is loaded, listing and searching agree. -/
theorem agrees_of_load_eq
    (hpackage : locationOfName tree paths package = .ok (.package directory))
    (hlisted : listedIn tree package directory = .ok found) (hitem : item ∈ found)
    (hload : loadedFrom tree (Name.child package item.1) item.2 =
      loadedOf tree paths (Name.child package item.1)) :
    tree.Agrees directory item.1 item.2 := by
  obtain ⟨leaf, location⟩ := item
  obtain ⟨-, himportables⟩ := listedIn_eq_ok hlisted
  have hleaf := dot_not_mem_of_listed hlisted hitem
  cases location with
  | package inner => trivial
  | source path =>
    by_cases hfile : tree.hasFile path = true
    · exact hfile
    · have hfind := FileTree.find?_of_mem_source himportables hitem (eq_false_of_ne_true hfile)
      rw [loadedOf_child hpackage hleaf hfind] at hload
      exact absurd hload (loadedFrom_source_ne_missing tree path _)
  | compiled path =>
    by_cases hfile : tree.hasFile (Path.join directory (leaf ++ ".py")) = true
    · have hfind := FileTree.find?_of_mem_compiled himportables hitem hfile
      rw [loadedOf_child hpackage hleaf hfind] at hload
      exact absurd hload.symm (loadedFrom_source_ne_compiled tree _ directory leaf path)
    · exact eq_false_of_ne_true hfile

/-! ### When answers do not depend on earlier questions -/

/-- Answers do not depend on earlier questions exactly if each listed source is a file and no
source stands beside a listed compiled module, in all packages that can be found and listed. -/
theorem answers_of_history_iff (tree : FileTree) (paths : List String) :
    (∀ (calls : List Call) (name : String),
      (exec (load name) tree (memoryAfter tree paths calls)).1 =
          (exec (load name) tree { searchPaths := paths }).1 ∧
        (exec (children name) tree (memoryAfter tree paths calls)).1 =
          (exec (children name) tree { searchPaths := paths }).1) ↔
      Unambiguous tree paths := by
  have hfresh := Sound.fresh tree paths
  constructor
  · intro h package directory found hpackage hlisted item hitem
    obtain ⟨hload, -⟩ := h [.children package] (Name.child package item.1)
    obtain ⟨_, hexec, -⟩ := exec_load hfresh (Name.child package item.1)
    rw [load_after_children hpackage hlisted hitem, hexec] at hload
    exact agrees_of_load_eq hpackage hlisted hitem hload
  · intro h calls name
    have hsound := Sound.memoryAfter h calls
    constructor
    · obtain ⟨_, hexec, -⟩ := exec_load hsound name
      obtain ⟨_, hexec', -⟩ := exec_load hfresh name
      rw [hexec, hexec']
    · obtain ⟨_, hexec, -⟩ := exec_children hsound name
      obtain ⟨_, hexec', -⟩ := exec_children hfresh name
      rw [hexec, hexec']

end Packages

end DocStubs
