import DocStubs.Proofs.Config
import DocStubs.Proofs.Generate.Clash
import DocStubs.Proofs.Source.Inventory

/-!
# Runs that stay inside the output directory

All pages are meant to go below the output directory, but nothing checks that they do: a path is
accepted if it does not start at the root, and such a path may still lead out by two dots. So may
the extension and the mark of backups, which are not checked for slashes at all.

In trees without links it can be told from the paths alone what a run may change. A page is written
to the place of its path. A directory is made at most at the places that a path passes, its end
included, and a copy of a directory is made at the place of its path and below. A run stays inside
the output directory if the paths it uses do; missing directories on the way to the output
directory are made as well.

## Main definitions

* `FileTree.Passes` — the places on the way along a path
* `FileTree.Encloses` — a path does not lead out of a directory
* `FileTree.Confined` — all that has changed is inside a directory, or on the way to it
* `Config.StaysInside` — the paths that a run uses do not lead out of the output directory

## Main results

* `Disk.confined_generate` — a run whose paths stay inside changes nothing outside
* `Config.staysInside_of_plain` — settings with which no path leads out
-/

namespace DocStubs

open Relation

/-! ### Places on the way -/

/-- Names that do not turn back lead to a place below. -/
theorem Path.isPrefix_resolve (here : Place) {names : List String} (h : ".." ∉ names) :
    here <+: resolve here names := by
  induction names generalizing here with
  | nil => exact List.prefix_rfl
  | cons name rest ih =>
    obtain ⟨hname, hrest⟩ : ".." ≠ name ∧ ".." ∉ rest := by simpa using h
    rw [resolve]
    split
    · exact ih here hrest
    · rw [if_neg (Ne.symm hname)]
      exact (List.prefix_append here [name]).trans (ih _ hrest)

namespace FileTree

variable {tree before now after : FileTree} {source path parent directory : String}
  {place : Place} {node : Node}

/-- A path passes the places that its first names lead to, the last of them that of the path. -/
def Passes (tree : FileTree) (path : String) (place : Place) : Prop :=
  ∃ names, names <+: Path.names path ∧ Path.resolve (tree.origin path) names = place

theorem passes_placeOf (tree : FileTree) (path : String) : tree.Passes path (tree.placeOf path) :=
  ⟨_, List.prefix_rfl, rfl⟩

/-- What the parent of a path passes, the path passes. -/
theorem Passes.of_parent (hparent : Path.parent? path = some parent) (hne : parent ≠ "")
    (h : tree.Passes parent place) : tree.Passes path place := by
  obtain ⟨-, habsolute, before, last, after, hnames, -⟩ := Path.names_of_parent? hparent
  obtain ⟨names, hbegins, rfl⟩ := h
  refine ⟨names, hnames ▸ hbegins.trans (List.prefix_append _ _), ?_⟩
  rw [tree.origin_congr (habsolute.resolve_left hne)]

/-- A path below a directory passes what the path of the directory passes, and then what its own
names lead to. -/
theorem Passes.of_join (habs : Path.isAbsolute path = false)
    (h : tree.Passes (Path.join directory path) place) :
    tree.Passes directory place ∨
      ∃ names, names <+: Path.names path ∧ Path.resolve (tree.placeOf directory) names = place := by
  obtain ⟨names, hbegins, rfl⟩ := h
  rw [origin_join tree directory habs]
  rw [Path.names_join directory habs] at hbegins
  rcases List.prefix_or_prefix_of_prefix hbegins (List.prefix_append _ _) with hshort | ⟨more, rfl⟩
  · exact Or.inl ⟨names, hshort, rfl⟩
  · exact Or.inr ⟨more, (List.prefix_append_right_inj _).mp hbegins,
      (Path.resolve_append _ _ _).symm⟩

/-- All that a path passes is inside the directory of another path, or on the way to it. -/
def WayInside (tree : FileTree) (source path : String) : Prop :=
  ∀ place, tree.Passes path place → tree.placeOf source <+: place ∨ tree.Passes source place

/-- A path does not lead out of the directory of another one. -/
structure Encloses (tree : FileTree) (source path : String) : Prop where
  way : tree.WayInside source path
  placeOf : tree.placeOf source <+: tree.placeOf path

theorem Encloses.refl (tree : FileTree) (source : String) : tree.Encloses source source :=
  ⟨fun _ => Or.inr, List.prefix_rfl⟩

/-- A path that is put after one that does not lead out does not lead out if it never turns
back. -/
theorem Encloses.join (h : tree.Encloses source directory) (habs : Path.isAbsolute path = false)
    (hnames : ".." ∉ Path.names path) : tree.Encloses source (Path.join directory path) := by
  refine ⟨fun place hpasses => ?_, ?_⟩
  · rcases hpasses.of_join habs with hpasses | ⟨names, hbegins, rfl⟩
    · exact h.way place hpasses
    · have hnames' : ".." ∉ names := fun hmem => hnames (hbegins.mem hmem)
      exact Or.inl (h.placeOf.trans (Path.isPrefix_resolve _ hnames'))
  · rw [placeOf_join tree directory habs]
    exact h.placeOf.trans (Path.isPrefix_resolve _ hnames)

/-! ### Changes inside a directory -/

/-- All that has changed is inside the directory of a path, but for directories that were missing
on the way to it. -/
def Confined (source : String) (before after : FileTree) : Prop :=
  ∀ place, after.node? place ≠ before.node? place →
    before.placeOf source <+: place ∨
      before.Passes source place ∧ before.node? place = none ∧
        after.node? place = some .directory

theorem Confined.refl (source : String) (tree : FileTree) : Confined source tree tree :=
  fun _ hchanged => absurd rfl hchanged

/-- Something is put inside. -/
theorem Confined.put (h : Confined source before now) (hplace : place ≠ [])
    (hinside : before.placeOf source <+: place) : Confined source before (now.put place node) := by
  intro other hchanged
  rw [node?_put hplace] at hchanged ⊢
  split at hchanged
  · rename_i hother
    exact Or.inl (hother ▸ hinside)
  · rename_i hother
    rw [if_neg hother]
    exact h other hchanged

/-- A directory is made inside, or on the way. -/
theorem Confined.put_directory (h : Confined source before now) (hgrows : before.Grows now)
    (hplace : place ≠ []) (hnone : now.node? place = none)
    (hway : before.placeOf source <+: place ∨ before.Passes source place) :
    Confined source before (now.put place .directory) := by
  rcases hway with hinside | hpasses
  · exact h.put hplace hinside
  intro other hchanged
  rw [node?_put hplace] at hchanged ⊢
  split at hchanged
  · rename_i hother
    subst hother
    rw [if_pos rfl]
    refine Or.inr ⟨hpasses, ?_, rfl⟩
    cases hbefore : before.node? other with
    | none => rfl
    | some old =>
      obtain ⟨new, hnew, -⟩ := hgrows.node? hbefore
      rw [hnone] at hnew
      cases hnew
  · rename_i hother
    rw [if_neg hother]
    exact h other hchanged

end FileTree

namespace Disk

open FileTree

variable {source path target mark : String} {before : FileTree} {names : List String}

/-! ### Actions that stay inside -/

/-- A tree has changed step by step, and only inside a directory or on the way to it. -/
structure Stays (source : String) (before now : FileTree) : Prop where
  evolves : before.Evolves now
  confined : Confined source before now

theorem stays_tryDirectory (hfree : before.LinkFree) (h : before.WayInside source path) :
    (tryDirectory path).Keeps (Stays source before) := by
  intro now _ hnow
  cases hexec : (tryDirectory path).exec now with
  | mk answer after =>
    rcases exec_tryDirectory_cases hexec with ⟨directory, name, -, hlookup, rfl⟩ | ⟨rfl, -⟩
    · have hgrows := hnow.evolves.grows
      have hplace : directory ++ [name] = before.placeOf path := by
        rw [← hgrows.placeOf_eq]
        exact (hfree.evolves hnow.evolves).place_eq_placeOf hlookup
      refine ⟨hnow.evolves.tail (Or.inl ⟨path, directory, name, hlookup, rfl⟩),
        hnow.confined.put_directory hgrows (by simp)
          (lookup_eq_ok_iff.mp hlookup).2.node?_eq_none ?_⟩
      rw [hplace]
      exact h _ (before.passes_placeOf path)
    · exact hnow

/-- The directories before a path are those that the path passes. -/
theorem stays_makeDirectoriesFrom (hfree : before.LinkFree) (fuel : Nat)
    (h : path = "" ∨ before.WayInside source path) :
    (makeDirectoriesFrom fuel path).Keeps (Stays source before) := by
  induction fuel generalizing path with
  | zero => exact Respects.pure _
  | succ fuel ih =>
    rw [makeDirectoriesFrom]
    split
    · exact Respects.pure _
    · rename_i hpath
      have hway := h.resolve_left (by simpa using hpath)
      refine (stays_tryDirectory hfree hway).bind fun missing => ?_
      split
      · split
        · rename_i parent hparent
          have hway' : parent = "" ∨ before.WayInside source parent :=
            or_iff_not_imp_left.mpr fun hne place hpasses =>
              hway place (hpasses.of_parent hparent hne)
          refine (ih hway').bind fun _ => (stays_tryDirectory hfree hway).bind fun missing => ?_
          split
          · exact Respects.throw _
          · exact Respects.pure _
        · exact Respects.throw _
      · exact Respects.pure _

theorem stays_makeDirectories (hfree : before.LinkFree) (h : before.WayInside source path) :
    (makeDirectories path).Keeps (Stays source before) :=
  stays_makeDirectoriesFrom hfree _ (Or.inr h)

theorem Stays.put {now : FileTree} {place : Place} (h : Stays source before now)
    (hfree : before.LinkFree) (hdest : now.Destination path place)
    (hinside : before.placeOf source <+: before.placeOf path) (content : ByteArray) :
    Stays source before (now.put place (.file content)) := by
  refine ⟨h.evolves.trans (hdest.evolves content), h.confined.put hdest.ne_nil ?_⟩
  rw [(hfree.evolves h.evolves).destination_eq hdest, h.evolves.grows.placeOf_eq]
  exact hinside

theorem stays_write (hfree : before.LinkFree)
    (h : before.placeOf source <+: before.placeOf path) (content : ByteArray) :
    (write path content).Keeps (Stays source before) := by
  intro now _ hnow
  cases hexec : (write path content).exec now with
  | mk answer after =>
    rcases exec_write_cases hexec with ⟨place, -, hdest, rfl⟩ | ⟨-, rfl, -⟩
    · exact hnow.put hfree hdest h content
    · exact hnow

/-- What a copy of a directory is made of goes below the path of the copy. -/
theorem encloses_copyTarget (h : before.Encloses source target)
    (hnames : ∀ name ∈ names, Path.IsName name) :
    before.Encloses source (copyTarget target names) := by
  refine h.join (Path.isAbsolute_intercalate hnames) ?_
  rw [Path.names_intercalate hnames]
  exact fun hmem => (hnames _ hmem).ne_dots rfl

theorem stays_copyEntry (hwell : before.WellFormed) (hfree : before.LinkFree)
    (h : before.Encloses source target) (depth : Nat) (ancestors : List Ancestor)
    (hnames : ∀ name ∈ names, Path.IsName name) (path : String) (node : Node) :
    (copyEntry target depth ancestors names path node).Keeps (Stays source before) := by
  induction depth generalizing ancestors names path node with
  | zero => exact Respects.throw _
  | succ depth ih =>
    have htarget := encloses_copyTarget h hnames
    rw [copyEntry]
    refine ((Respects.ask? _).onFault _).bind fun entry => ?_
    split
    · refine ((Respects.ask? _).onFault _).bind fun reached => ?_
      refine Keeps.ask_bind fun now hnow => Keeps.ask_bind fun _ _ => ?_
      refine ((stays_makeDirectories hfree htarget.way).onFault _).bind fun _ => ?_
      refine Respects.forM fun item hitem => ?_
      obtain ⟨name, hname, rfl⟩ := List.mem_map.mp hitem
      exact ih _ (isName_append hnames
        (isName_of_mem_namesIn (hnow.evolves.wellFormed hwell) hname)) _ _
    · refine (Respects.copy fun content => ?_).onFault _
      exact stays_write hfree htarget.placeOf content
    · exact Respects.pure _

theorem stays_copyTree (hwell : before.WellFormed) (hfree : before.LinkFree)
    (h : before.Encloses source target) (path : String) :
    (copyTree path target).Keeps (Stays source before) :=
  ((Respects.ask? _).onFault _).bind fun _ =>
    stays_copyEntry hwell hfree h _ _ (List.forall_mem_nil _) _ _

/-- A page and its backup are written inside. -/
theorem stays_writeArtifact {artifact : Artifact} (hwell : before.WellFormed)
    (hfree : before.LinkFree) (hpage : before.placeOf source <+: before.placeOf artifact.path)
    (hbackup : ∀ number, before.Encloses source (backupPath mark artifact.path number)) :
    (writeArtifact mark artifact).Keeps (Stays source before) := by
  intro now _ hnow
  cases hexec : (writeArtifact mark artifact).exec now with
  | mk answer after =>
    cases wrote_writeArtifact hexec with
    | refused fault => exact hnow
    | fresh free there => exact hnow.put hfree there hpage _
    | replaced policy there copied =>
      exact (hnow.put hfree copied (hbackup _).placeOf _).put hfree
        (destination_put_backup there copied) hpage _
    | halted fault policy there => exact (stays_copyTree hwell hfree (hbackup _) _).exec hnow

end Disk

/-! ### Runs -/

/-- The paths that a run uses do not lead out of the output directory: neither do those of its
directories, nor those of its pages and of all their backups. -/
structure Config.StaysInside (config : Config) (analysis : Analysis) (tree : FileTree) : Prop where
  directories : ∀ directory, config.makes directory = true →
    tree.Encloses config.output.source (config.output.directory directory)
  pages : ∀ path ∈ config.pagePaths analysis,
    tree.placeOf config.output.source <+: tree.placeOf path
  backups : ∀ path ∈ config.pagePaths analysis, ∀ number,
    tree.Encloses config.output.source (backupPath config.output.backupMark path number)

namespace Disk

open FileTree

variable {config : Config} {analysis : Analysis} {before : FileTree}

theorem stays_makePageDirectories (hfree : before.LinkFree)
    (h : config.StaysInside analysis before) :
    (makePageDirectories config).Keeps (Stays config.output.source before) := by
  have hensure (directory : PageDirectory) :
      (ensureIf (config.makes directory) (config.output.directory directory)).Keeps
        (Stays config.output.source before) := by
    rw [ensureIf]
    split
    · rename_i hmakes
      exact (stays_makeDirectories hfree (h.directories directory hmakes).way).onFault _
    · exact Respects.pure _
  rw [makePageDirectories_eq]
  exact (hensure .api).bind fun _ => (hensure .doc).bind fun _ => hensure .root

theorem stays_perform {pages : List Planned} (hwell : before.WellFormed) (hfree : before.LinkFree)
    (h : config.StaysInside analysis before)
    (hpages : ∀ page ∈ pages, page.artifact.path ∈ config.pagePaths analysis) (report : Report) :
    (perform config report pages).Keeps (Stays config.output.source before) := by
  induction pages generalizing report with
  | nil => exact Respects.pure _
  | cons page rest ih =>
    intro now _ hnow
    have hpath := hpages page List.mem_cons_self
    have hpage := (stays_writeArtifact hwell hfree (h.pages _ hpath) (h.backups _ hpath)).exec hnow
    rw [exec_perform_cons]
    cases hexec : (writeArtifact config.output.backupMark page.artifact).exec now with
    | mk answer middle =>
      rw [hexec] at hpage
      cases answer with
      | ok copied =>
        exact (ih (fun other hother => hpages other (List.mem_cons_of_mem _ hother)) _).exec hpage
      | error fault => exact hpage

/-- A run whose paths stay inside the output directory changes nothing outside, whether it succeeds
or fails. -/
theorem confined_generate (hwell : before.WellFormed) (hfree : before.LinkFree)
    (h : config.StaysInside analysis before) :
    Confined config.output.source before ((generate config analysis).exec before).2 := by
  have hfind : (findHandWritten config).Keeps (Stays config.output.source before) :=
    Respects.of_unchanged fun tree => by
      obtain ⟨answer, hanswer⟩ := exec_findHandWritten config tree
      rw [hanswer]
  have hgenerate : (generate config analysis).Keeps (Stays config.output.source before) := by
    rw [generate_eq_perform]
    refine hfind.bind fun handWritten => (stays_makePageDirectories hfree h).bind fun _ => ?_
    refine stays_perform hwell hfree h (fun page hpage => ?_) _
    rw [← config.map_path_plan analysis handWritten]
    exact List.mem_map_of_mem hpage
  exact (hgenerate.exec ⟨ReflTransGen.refl, Confined.refl _ before⟩).confined

end Disk

/-! ### Settings with which no path leads out -/

namespace Path

/-- The name of a numbered backup. -/
theorem isName_append_number {name mark : String} (hname : '/' ∉ name.toList)
    (hmark : '/' ∉ mark.toList) (number : Nat) : IsName (name ++ mark ++ toString number) := by
  refine ⟨by simp, ?_, append_number_ne (by simp) _ number, append_number_ne (by simp) _ number⟩
  simp only [String.toList_append, List.mem_append, not_or]
  exact ⟨⟨hname, hmark⟩, not_mem_toString_nat number rfl⟩

end Path

namespace Config

open FileTree

variable {config : Config} {analysis : Analysis}

/-- Paths that do not turn back, an extension and a mark without slashes. -/
structure Plain (config : Config) : Prop where
  api : ".." ∉ Path.names config.output.apipath
  doc : ".." ∉ Path.names config.output.docpath
  extension : '/' ∉ config.output.extension.toList
  mark : '/' ∉ config.output.backupMark.toList

/-- The paths of a configuration that is accepted do not start at the root. -/
theorem isAbsolute_of_check (h : config.check = .ok ()) :
    Path.isAbsolute config.output.apipath = false ∧
      Path.isAbsolute config.output.docpath = false := by
  obtain ⟨-, hvalid⟩ := valid_of_check h
  exact ⟨(of_checkPath hvalid.apipath).2, (of_checkPath hvalid.docpath).2⟩

theorem staysInside_of_plain (tree : FileTree) (hcheck : config.check = .ok ())
    (hplain : config.Plain)
    (hnames : ∀ module ∈ analysis.modules, '/' ∉ module.name.toList) :
    config.StaysInside analysis tree := by
  obtain ⟨hapi, hdoc⟩ := isAbsolute_of_check hcheck
  have hsource := Encloses.refl tree config.output.source
  have hdirectory (directory : PageDirectory) :
      tree.Encloses config.output.source (config.output.directory directory) := by
    cases directory with
    | api => exact hsource.join hapi hplain.api
    | doc => exact hsource.join hdoc hplain.doc
    | root => exact hsource
  have hname {directory : PageDirectory} {name : String} (h : Path.IsName name) :
      tree.Encloses config.output.source
        (Path.join (config.output.directory directory) name) := by
    refine (hdirectory directory).join h.isAbsolute_eq_false ?_
    rw [h.names_eq, List.mem_singleton]
    exact Ne.symm h.ne_dots
  have hpage {path : String} (h : path ∈ config.pagePaths analysis) :
      ∃ directory file, Path.IsName file ∧
        path = Path.join (config.output.directory directory) file := by
    obtain ⟨page, hpage, rfl⟩ := List.mem_map.mp h
    obtain ⟨directory, file, hsits⟩ := exists_sits_of_mem_plan hpage
    exact ⟨directory, file, hsits.isName hplain.extension hnames, hsits.path_eq⟩
  refine ⟨fun directory _ => hdirectory directory, fun path hpath => ?_,
    fun path hpath number => ?_⟩
  · obtain ⟨directory, file, hfile, rfl⟩ := hpage hpath
    exact (hname hfile).placeOf
  · obtain ⟨directory, file, hfile, rfl⟩ := hpage hpath
    rw [backupPath, String.append_assoc, ← Path.join_append _ hfile.ne_empty,
      ← String.append_assoc]
    exact hname (Path.isName_append_number hfile.no_slash hplain.mark number)

end Config

namespace Disk

open FileTree

variable {config : Config} {analysis : Analysis} {before after : FileTree}

/-! ### What runs change -/

/-- A run changes nothing outside the output directory, apart from directories that were missing on
the way to it, if the paths that it uses do not lead out; it may succeed or fail. They do not lead
out if the configuration is accepted and plain and the modules are those of a package whose name
has no slash. -/
theorem generate_stays_inside {answer : Except Error Report} (hwell : before.WellFormed)
    (hfree : before.LinkFree) (h : (generate config analysis).exec before = (answer, after)) :
    (config.StaysInside analysis before → Confined config.output.source before after) ∧
      (config.check = .ok () → config.Plain →
        (∃ isExcluded order root tree packages, '/' ∉ root.toList ∧
          (Query.exec (Source.analyze isExcluded order root) tree (.ofPackages packages)).1 =
            .ok analysis) →
        Confined config.output.source before after) := by
  have hconfined (hinside : config.StaysInside analysis before) :
      Confined config.output.source before after := by
    have hrun := confined_generate hwell hfree hinside
    rwa [h] at hrun
  refine ⟨hconfined, fun hcheck hplain hanalysis => hconfined ?_⟩
  obtain ⟨isExcluded, order, root, tree, packages, hroot, hanalysis⟩ := hanalysis
  exact Config.staysInside_of_plain before hcheck hplain
    (Source.slash_not_mem_of_analyze hroot hanalysis)

/-- A tree with a package that holds no modules. -/
def packagedTree : FileTree :=
  { entries := [(["p"], .directory), (["p", "__init__.py"], .file ByteArray.empty)] }

/-- What is remembered of that package once it was listed. -/
def listedPackage : Packages :=
  { searchPaths := ["."], located := [("p", .package "./p")], opened := ["p"] }

theorem default_paths_stay_inside :
    packagedTree.WellFormed ∧ packagedTree.LinkFree ∧ Config.check {} = .ok () ∧
      ((generate {} { package := "p" }).exec packagedTree).2.node? ["source", "generated", "api"] =
        some .directory ∧
      Confined "source" packagedTree ((generate {} { package := "p" }).exec packagedTree).2 := by
  have hwell : packagedTree.WellFormed := by decide +kernel
  have hfree : packagedTree.LinkFree := by decide +kernel
  have hcheck : Config.check {} = .ok () := by decide +kernel
  have hplain : Config.Plain {} :=
    ⟨by decide +kernel, by decide +kernel, by decide +kernel, by decide +kernel⟩
  have hanalysis : (Query.exec (Source.analyze (fun _ => false) .alphabetical "p") packagedTree
      (.ofPackages listedPackage)).1 = .ok { package := "p" } := by
    decide +kernel
  refine ⟨hwell, hfree, hcheck, by decide +kernel, ?_⟩
  exact (generate_stays_inside hwell hfree (Prod.eta _).symm).2 hcheck hplain
    ⟨_, _, "p", _, _, by decide +kernel, hanalysis⟩

/-- Pages in a directory beside the output directory. -/
def climbingOutput : Config := { output := { source := "s", apipath := "../x" } }

/-- A configuration is accepted though one of its paths leads out of the output directory, and a
page is written there. -/
theorem climbing_path_leads_out :
    climbingOutput.check = .ok () ∧ packagedTree.WellFormed ∧ packagedTree.LinkFree ∧
      (Query.exec (Source.analyze (fun _ => false) .alphabetical "p") packagedTree
        (.ofPackages listedPackage)).1 = .ok { package := "p" } ∧
      ¬Confined "s" packagedTree
        ((generate climbingOutput { package := "p" }).exec packagedTree).2 := by
  refine ⟨by decide +kernel, by decide +kernel, by decide +kernel, by decide +kernel, fun h => ?_⟩
  have hplace : packagedTree.placeOf "s" = ["s"] := by decide +kernel
  have hchanged : ((generate climbingOutput { package := "p" }).exec packagedTree).2.node?
      ["x", "index.rst"] ≠ packagedTree.node? ["x", "index.rst"] := by
    decide +kernel
  have hfile : ((generate climbingOutput { package := "p" }).exec packagedTree).2.node?
      ["x", "index.rst"] ≠ some .directory := by
    decide +kernel
  rcases h _ hchanged with hinside | ⟨-, -, hdirectory⟩
  · rw [hplace] at hinside
    simp at hinside
  · exact hfile hdirectory

end Disk

end DocStubs
