import DocStubs.Proofs.Config
import DocStubs.Proofs.Files.LinkFree
import DocStubs.Proofs.Generate.Failure
import DocStubs.Proofs.Page

/-!
# Links of indices

An index links pages by file names without an extension, relative to the directory that the index
is in. The entries are collected apart from the paths of the pages, and the index of the output
directory is made from the configured paths as they are spelled. So it takes a proof that no link
leads nowhere. The pages that a run links are those it has written and the index of hand-written
pages, and the latter is still there at the end because a run removes no file.

A configured path may end in a slash. The link then has two slashes in a row where the path of the
page has one. This makes no difference for where the link leads, but the path that follows it is
longer by one byte and may be too long to be looked up as it is spelled. `FileTree.NamesFile` is
therefore about the names along a path.

## Main definitions

* `FileTree.NamesFile` — the names along a path lead to a file
* `Index`, `Config.indices` — what each index of a run links
* `Output.linkPath` — where a link leads

## Main results

* `Config.filter_index_plan` — the indices among the pages of a plan
* `Disk.links_lead_to_files` — every link of an index leads to a file
-/

namespace DocStubs

/-! ### Where links lead -/

namespace Output

/-- The path that a link leads to from a directory. -/
def linkPath (output : Output) (directory link : String) : String :=
  Path.join directory (link ++ "." ++ output.extension)

theorem linkPath_index (output : Output) (directory sub : String) :
    output.linkPath directory (sub ++ "/index") =
      Path.join directory (sub ++ "/" ++ output.indexFile) := by
  refine congrArg (Path.join directory) (String.toList_inj.mp ?_)
  simp [indexFile]

theorem indexFile_ne_empty (output : Output) : output.indexFile ≠ "" := by simp [indexFile]

theorem isAbsolute_indexFile (output : Output) : Path.isAbsolute output.indexFile = false :=
  Path.isAbsolute_append (by decide) output.extension

end Output

namespace FileTree

variable {tree : FileTree} {path base sub : String} {output : Output}

/-- The names along a path lead to a file. -/
def NamesFile (tree : FileTree) (path : String) : Prop :=
  ∃ place content, Leads tree .reach linkLimit (Path.endsInSlash path) (tree.origin path)
    (Path.names path) (.node place (.file content))

theorem hasFile_iff_namesFile : tree.hasFile path = true ↔ Usable path ∧ tree.NamesFile path := by
  simp only [hasFile_iff, lookup_eq_ok_iff, NamesFile, exists_and_left]

/-- A link to the index of a directory leads to that index. -/
theorem namesFile_linkPath_iff (hsub : sub ≠ "" ∧ Path.isAbsolute sub = false) :
    tree.NamesFile (output.linkPath base (sub ++ "/index")) ↔
      tree.NamesFile (output.indexPath (Path.join base sub)) := by
  have hfile := output.indexFile_ne_empty
  have hplain := output.isAbsolute_indexFile
  have hne : sub ++ "/" ++ output.indexFile ≠ "" := by simp
  have hrelative : Path.isAbsolute (sub ++ "/" ++ output.indexFile) = false := by
    rw [String.append_assoc, Path.isAbsolute_append hsub.1, hsub.2]
  rw [Output.linkPath_index, Output.indexPath, NamesFile, NamesFile,
    Path.endsInSlash_join base hne, Path.endsInSlash_append _ hfile,
    Path.endsInSlash_join _ hfile, origin_join tree base hrelative,
    origin_join tree (Path.join base sub) hplain, origin_join tree base hsub.2,
    Path.names_join base hrelative, Path.names_append_slash, Path.names_join _ hplain,
    Path.names_join base hsub.2, List.append_assoc]

/-- The path that a link to an index leads to can be looked up if that of the index can be, unless
it is too long. -/
theorem usable_linkPath (hsub : sub ≠ "" ∧ Path.isAbsolute sub = false)
    (h : Usable (output.indexPath (Path.join base sub)))
    (hshort : (output.linkPath base (sub ++ "/index")).utf8ByteSize < pathLimit) :
    Usable (output.linkPath base (sub ++ "/index")) := by
  have hrelative : Path.isAbsolute (sub ++ "/" ++ output.indexFile) = false := by
    rw [String.append_assoc, Path.isAbsolute_append hsub.1, hsub.2]
  have hnul := h.no_nul
  rw [Output.linkPath_index] at hshort ⊢
  refine ⟨?_, ?_, hshort⟩
  · obtain ⟨before, hbefore⟩ := Path.exists_join_eq_append base (sub ++ "/" ++ output.indexFile)
    simp [hbefore]
  · rw [Output.indexPath, Path.mem_toList_join (by decide) _ output.isAbsolute_indexFile,
      Path.mem_toList_join (by decide) _ hsub.2] at hnul
    rw [Path.mem_toList_join (by decide) _ hrelative]
    simpa [or_assoc] using hnul

/-- A link leads to a file: the names along its path do, and the path does, unless it is too long
to be looked up. -/
structure LinksFile (tree : FileTree) (path : String) : Prop where
  names : tree.NamesFile path
  found : path.utf8ByteSize < pathLimit → tree.hasFile path = true

theorem LinksFile.of_hasFile (h : tree.hasFile path = true) : tree.LinksFile path :=
  ⟨(hasFile_iff_namesFile.mp h).2, fun _ => h⟩

theorem LinksFile.of_index (hsub : sub ≠ "" ∧ Path.isAbsolute sub = false)
    (h : tree.hasFile (output.indexPath (Path.join base sub)) = true) :
    tree.LinksFile (output.linkPath base (sub ++ "/index")) := by
  obtain ⟨husable, hnames⟩ := hasFile_iff_namesFile.mp h
  have hlink := (namesFile_linkPath_iff hsub).mpr hnames
  exact ⟨hlink, fun hshort =>
    hasFile_iff_namesFile.mpr ⟨usable_linkPath hsub husable hshort, hlink⟩⟩

end FileTree

/-! ### What indices link -/

/-- An index with what it links. -/
structure Index where
  page : Planned
  /-- The directory that the index is in, where its links start. -/
  directory : String
  /-- The links, in order. -/
  links : List String

namespace Config

variable {config : Config} {analysis : Analysis} {handWritten : Bool} {index : Index}

/-- The links of the index of the output directory: to the index of each kind of page that is
there. -/
def rootLinks (config : Config) (handWritten : Bool) : List String :=
  ([config.output.apipath] ++
    (if config.generation.writeDoc then [config.output.docpath] else []) ++
    (if handWritten then [config.output.writtenpath] else [])).map (· ++ "/index")

/-- The index of the pages that list members. -/
def linkedApi (config : Config) (analysis : Analysis) : Index :=
  { page := config.apiIndex analysis.modules
    directory := config.output.apiDirectory
    links := analysis.modules.map (·.stem) }

/-- The index of the pages that show documentation. -/
def linkedDoc (config : Config) (analysis : Analysis) : Index :=
  { page := config.docIndex (analysis.modules.filter (·.hasDoc))
    directory := config.output.docDirectory
    links := (analysis.modules.filter (·.hasDoc)).map (·.stem) }

/-- The index of the output directory. -/
def linkedRoot (config : Config) (analysis : Analysis) (handWritten : Bool) : Index :=
  { page := config.indexPage config.output.source
      (Page.root (Disk.rootIndex config analysis handWritten)) .backup
    directory := config.output.source
    links := config.rootLinks handWritten }

/-- The indices of a run, in the order they are written. -/
def indices (config : Config) (analysis : Analysis) (handWritten : Bool) : List Index :=
  (if config.generation.writeApi then [config.linkedApi analysis] else []) ++
    (if config.generation.writeDoc then [config.linkedDoc analysis] else []) ++
    (if config.generation.writeIndex then [config.linkedRoot analysis handWritten] else [])

theorem mem_indices :
    index ∈ config.indices analysis handWritten ↔
      (config.generation.writeApi = true ∧ index = config.linkedApi analysis ∨
        config.generation.writeDoc = true ∧ index = config.linkedDoc analysis) ∨
      config.generation.writeIndex = true ∧ index = config.linkedRoot analysis handWritten := by
  simp only [indices, List.mem_append, List.mem_ite_nil_right, List.mem_singleton]

theorem apiPage_path (config : Config) (module : Descriptor) :
    (config.apiPage module).artifact.path =
      config.output.linkPath config.output.apiDirectory module.stem := by
  rw [apiPage, Output.pagePath, Output.linkPath]

theorem docPage_path (config : Config) (module : Descriptor) :
    (config.docPage module).artifact.path =
      config.output.linkPath config.output.docDirectory module.stem := by
  rw [docPage, Output.pagePath, Output.linkPath]

/-- The indices among the pages of a plan. -/
theorem filter_index_plan (config : Config) (analysis : Analysis) (handWritten : Bool) :
    (config.plan analysis handWritten).filter (·.kind = .index) =
      (config.indices analysis handWritten).map (·.page) := by
  have hmodules : (analysis.modules.flatMap config.modulePages).filter (·.kind = .index) = [] := by
    refine List.filter_eq_nil_iff.mpr fun page hpage => ?_
    obtain ⟨module, -, hmodule⟩ := List.mem_flatMap.mp hpage
    obtain ⟨-, rfl⟩ | ⟨-, rfl⟩ := mem_modulePages.mp hmodule <;>
      simp [apiPage, docPage]
  rw [plan, List.filter_append, hmodules, List.nil_append, indexPages, indices]
  cases config.generation.writeApi <;> cases config.generation.writeDoc <;>
    cases config.generation.writeIndex <;>
    simp [indexPage, linkedApi, linkedDoc, linkedRoot, apiIndex, docIndex, indexed]

theorem mem_plan_of_mem_modulePages {module : Descriptor} {page : Planned}
    (hmodule : module ∈ analysis.modules) (hpage : page ∈ config.modulePages module) :
    page ∈ config.plan analysis handWritten :=
  List.mem_append_left _ (List.mem_flatMap.mpr ⟨module, hmodule, hpage⟩)

theorem page_mem_plan (h : index ∈ config.indices analysis handWritten) :
    index.page ∈ config.plan analysis handWritten := by
  have hpage : index.page ∈ (config.indices analysis handWritten).map (·.page) :=
    List.mem_map_of_mem h
  rw [← filter_index_plan] at hpage
  exact List.mem_of_mem_filter hpage

theorem apiIndex_mem_plan (h : config.generation.writeApi = true) :
    config.apiIndex analysis.modules ∈ config.plan analysis handWritten :=
  page_mem_plan (mem_indices.mpr (Or.inl (Or.inl ⟨h, rfl⟩)))

theorem docIndex_mem_plan (h : config.generation.writeDoc = true) :
    config.docIndex (analysis.modules.filter (·.hasDoc)) ∈ config.plan analysis handWritten :=
  page_mem_plan (mem_indices.mpr (Or.inl (Or.inr ⟨h, rfl⟩)))

theorem path_of_mem_indices (h : index ∈ config.indices analysis handWritten) :
    index.page.artifact.path = config.output.indexPath index.directory := by
  obtain (⟨-, rfl⟩ | ⟨-, rfl⟩) | ⟨-, rfl⟩ := mem_indices.mp h <;>
    simp only [linkedApi, linkedDoc, linkedRoot, apiIndex, docIndex, indexPage_path]

/-- The links of the page that links the indices are those of the index. -/
theorem links_rootIndex (hcheck : config.check = .ok ()) (analysis : Analysis)
    (handWritten : Bool) :
    (Disk.rootIndex config analysis handWritten).links = config.rootLinks handWritten := by
  obtain ⟨-, houtput⟩ := valid_of_check hcheck
  have hgiven {path : String} (hpath : path ≠ "") : Page.given (some path) = some path := by
    simp [Page.given, hpath]
  have hnone : Page.given none = none := rfl
  have hdoc := hgiven (of_checkPath houtput.docpath).1
  have hwritten := hgiven (of_checkPath houtput.writtenpath).1
  rw [RootIndex.links, Disk.rootIndex, rootLinks]
  cases config.generation.writeDoc <;> cases handWritten <;> simp [hnone, hdoc, hwritten]

/-- The links of an index are read from its text, if each of them is on one line. -/
theorem entries_of_mem_indices (hcheck : config.check = .ok ())
    (h : index ∈ config.indices analysis handWritten) (hpackage : Page.OneLine analysis.package)
    (hlinks : ∀ link ∈ index.links, Page.OneLine link) :
    Page.entries index.page.artifact.content = index.links := by
  have hentry (modules : List Descriptor) :
      modules.map Contents.entry = (modules.map (·.stem)).map (Page.indent ++ ·) :=
    List.map_map.symm
  obtain (⟨-, rfl⟩ | ⟨-, rfl⟩) | ⟨-, rfl⟩ := mem_indices.mp h
  · dsimp only [linkedApi] at hlinks ⊢
    rw [apiIndex, indexPage_content, hentry, Page.entries_apiIndex hlinks]
  · dsimp only [linkedDoc] at hlinks ⊢
    rw [docIndex, indexPage_content, hentry, Page.entries_docIndex hlinks]
  · have hroot := links_rootIndex hcheck analysis handWritten
    dsimp only [linkedRoot] at hlinks ⊢
    rw [← hroot] at hlinks ⊢
    rw [indexPage_content, Page.entries_root hpackage hlinks]

end Config

namespace Disk

open FileTree

variable {config : Config} {analysis : Analysis} {handWritten : Bool} {before after : FileTree}
  {report : Report}

/-! ### A run -/

theorem hasFile_of_exec_perform {start : FileTree} {pages : List Planned} {page : Planned}
    (h : (perform config {} pages).exec start = (.ok report, after)) (hpage : page ∈ pages) :
    after.hasFile page.artifact.path = true := by
  obtain ⟨step, hstep, hsame⟩ := exists_step_of_mem hpage
  rw [← hsame]
  exact hasFile_iff.mpr ((performed_of_exec h).lookup_page hstep)

/-- Where the links of an index lead, if all planned pages are written and the indices that are
linked without being planned are there. -/
theorem linksFile_of_mem_indices (hcheck : config.check = .ok ())
    (hpages : ∀ page ∈ config.plan analysis handWritten, after.hasFile page.artifact.path = true)
    (hapi : after.hasFile (config.output.indexPath config.output.apiDirectory) = true)
    (hwritten : handWritten = true →
      after.hasFile (config.output.indexPath config.output.writtenDirectory) = true)
    {index : Index} (hindex : index ∈ config.indices analysis handWritten) {link : String}
    (hlink : link ∈ index.links) :
    after.LinksFile (config.output.linkPath index.directory link) := by
  obtain ⟨-, houtput⟩ := Config.valid_of_check hcheck
  obtain (⟨hmakes, rfl⟩ | ⟨hmakes, rfl⟩) | ⟨-, rfl⟩ := Config.mem_indices.mp hindex
  · obtain ⟨module, hmodule, rfl⟩ := List.mem_map.mp hlink
    have hpage : config.apiPage module ∈ config.modulePages module :=
      Config.mem_modulePages.mpr (Or.inl ⟨hmakes, rfl⟩)
    have hfile := hpages _ (Config.mem_plan_of_mem_modulePages hmodule hpage)
    rw [Config.apiPage_path] at hfile
    exact .of_hasFile hfile
  · obtain ⟨module, hmodule, rfl⟩ := List.mem_map.mp hlink
    obtain ⟨hmodule, hdoc⟩ := List.mem_filter.mp hmodule
    have hpage : config.docPage module ∈ config.modulePages module :=
      Config.mem_modulePages.mpr (Or.inr ⟨by simp [hmakes, hdoc], rfl⟩)
    have hfile := hpages _ (Config.mem_plan_of_mem_modulePages hmodule hpage)
    rw [Config.docPage_path] at hfile
    exact .of_hasFile hfile
  · obtain ⟨sub, hsub, rfl⟩ := List.mem_map.mp hlink
    simp only [List.mem_append, List.mem_ite_nil_right, List.mem_singleton] at hsub
    obtain (rfl | ⟨hdoc, rfl⟩) | ⟨hhand, rfl⟩ := hsub
    · exact .of_index (Config.of_checkPath houtput.apipath) hapi
    · have hindex := hpages _ (Config.docIndex_mem_plan hdoc)
      rw [Config.docIndex, Config.indexPage_path] at hindex
      exact .of_index (Config.of_checkPath houtput.docpath) hindex
    · exact .of_index (Config.of_checkPath houtput.writtenpath) (hwritten hhand)

/-- No link of a run leads nowhere. The pages that a successful run has written are files in the
end, and so is what the indices among them link: the pages of the modules, the indices of these
pages, and the index of hand-written pages exactly if something was at their directory before the
run. The index of the pages that list members is linked in any case, so it has to be there if the
run does not write it. -/
theorem links_lead_to_files (hcheck : config.check = .ok ())
    (hapi : config.generation.writeApi = true ∨
      before.hasFile (config.output.indexPath config.output.apiDirectory) = true)
    (h : (generate config analysis).exec before = (.ok report, after)) :
    let handWritten :=
      config.generation.writeIndex && before.hasPath config.output.writtenDirectory
    let indices := config.indices analysis handWritten
    report.written = (config.plan analysis handWritten).map (·.artifact.path) ∧
      (∀ path ∈ report.written, after.hasFile path = true) ∧
      (config.plan analysis handWritten).filter (·.kind = .index) = indices.map (·.page) ∧
      ∀ index ∈ indices,
        index.page.artifact.path = config.output.indexPath index.directory ∧
        (Page.OneLine analysis.package → (∀ link ∈ index.links, Page.OneLine link) →
          Page.entries index.page.artifact.content = index.links) ∧
        ∀ link ∈ index.links, after.LinksFile (config.output.linkPath index.directory link) := by
  intro written indices
  obtain ⟨handWritten, start, hfound, hmake, hperform⟩ := exec_generate_eq_ok h
  obtain ⟨hhand, hwritten⟩ := of_findHandWritten hfound
  obtain rfl : handWritten = written := hhand
  have hgrows := ((evolves_generate config analysis).of_exec h).grows
  have hpages (page : Planned) (hpage : page ∈ config.plan analysis written) :
      after.hasFile page.artifact.path = true := hasFile_of_exec_perform hperform hpage
  have hindex : after.hasFile (config.output.indexPath config.output.apiDirectory) = true := by
    rcases hapi with hwrites | hthere
    · have hpage := hpages _ (Config.apiIndex_mem_plan hwrites)
      rwa [Config.apiIndex, Config.indexPage_path] at hpage
    · exact hgrows.hasFile hthere
  have hreport : report.written = (config.plan analysis written).map (·.artifact.path) := by
    simpa using (report_of_exec hperform).1
  refine ⟨hreport, fun path hpath => ?_, config.filter_index_plan analysis written,
    fun index hmem => ⟨Config.path_of_mem_indices hmem,
      Config.entries_of_mem_indices hcheck hmem, fun link hlink => ?_⟩⟩
  · rw [hreport] at hpath
    obtain ⟨page, hpage, rfl⟩ := List.mem_map.mp hpath
    exact hpages page hpage
  · exact linksFile_of_mem_indices hcheck hpages hindex
      (fun hhand => hgrows.hasFile (hwritten hhand)) hmem hlink

/-- A run that links an index it does not write, below a path that ends in a slash. -/
def linkingOutput : Config :=
  { output := { source := "s", apipath := "a/", writtenpath := "w" }
    generation := { writeApi := false, writeDoc := true, writeIndex := true } }

/-- A tree with that index and one of hand-written pages. -/
def linkedIndices : FileTree :=
  { entries := [(["s"], .directory), (["s", "a"], .directory), (["s", "w"], .directory),
      (["s", "a", "index.rst"], .file "old".toUTF8),
      (["s", "w", "index.rst"], .file "mine".toUTF8)] }

theorem linked_indices_are_there :
    linkingOutput.check = .ok () ∧
      linkedIndices.hasFile
        (linkingOutput.output.indexPath linkingOutput.output.apiDirectory) = true ∧
      ∃ report after,
        (generate linkingOutput documented).exec linkedIndices = (.ok report, after) ∧
        report.written = ["s/generated/doc/__autodoc_module__p.a.rst",
          "s/generated/doc/index.rst", "s/index.rst"] ∧
        ∀ path ∈ ["s/generated/doc/__autodoc_module__p.a.rst", "s/a//index.rst",
          "s/generated/doc/index.rst", "s/w/index.rst"], after.hasFile path = true := by
  have hcheck : linkingOutput.check = .ok () := by decide +kernel
  have hthere : linkedIndices.hasFile
      (linkingOutput.output.indexPath linkingOutput.output.apiDirectory) = true := by
    decide +kernel
  have hok : ((generate linkingOutput documented).exec linkedIndices).1.isOk = true := by
    decide +kernel
  refine ⟨hcheck, hthere, ?_⟩
  cases hexec : (generate linkingOutput documented).exec linkedIndices with
  | mk answer after =>
    rw [hexec] at hok
    cases answer with
    | error fault => cases hok
    | ok report =>
      obtain ⟨hwritten, -, -, hindices⟩ := links_lead_to_files hcheck (Or.inr hthere) hexec
      have hhand : (linkingOutput.generation.writeIndex &&
          linkedIndices.hasPath linkingOutput.output.writtenDirectory) = true := by
        decide +kernel
      rw [hhand] at hwritten hindices
      refine ⟨report, after, rfl, hwritten.trans (by decide +kernel), fun path hpath => ?_⟩
      have hpaths : (linkingOutput.indices documented true).flatMap
          (fun index => index.links.map (linkingOutput.output.linkPath index.directory)) =
            ["s/generated/doc/__autodoc_module__p.a.rst", "s/a//index.rst",
              "s/generated/doc/index.rst", "s/w/index.rst"] := by
        decide +kernel
      have hshort : path.utf8ByteSize < pathLimit := by
        revert path
        decide +kernel
      rw [← hpaths] at hpath
      obtain ⟨index, hindex, hmem⟩ := List.mem_flatMap.mp hpath
      obtain ⟨link, hlink, rfl⟩ := List.mem_map.mp hmem
      exact ((hindices index hindex).2.2 link hlink).found hshort

end Disk

end DocStubs
