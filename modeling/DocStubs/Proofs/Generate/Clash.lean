import DocStubs.Proofs.Files.LinkFree
import DocStubs.Proofs.Generate.Failure

/-!
# Pages that clash

The index of the output directory says that hand-written pages are never overwritten, and a run
should not overwrite its own pages either. Nothing checks this: a configuration is accepted also
if its directories are the same or inside one another. In trees without links it can be told
beforehand what happens, because every path then has one place only. A run leaves its pages and
the hand-written ones intact exactly if no two of its pages clash, that is, have the same place but
not the same text, and if none of them has the place of a hand-written file with another text.

It is enough that the directories are apart, and with the paths that are given by default they
are, wherever the output directory is.

## Main definitions

* `Config.Intact` — what a run should leave intact
* `Config.ClashFree` — nothing that is planned clashes
* `Config.Apart` — the directories of a configuration do not overlap

## Main results

* `Disk.intact_iff_clashFree` — when pages stay intact
* `Config.clashFree_of_apart`, `Config.apart_of_default_paths` — directories that are apart
-/

namespace DocStubs

open Relation

/-- A place is below the directory that a path leads to. -/
def FileTree.Below (tree : FileTree) (path : String) (place : Place) : Prop :=
  ∃ directory, tree.lookup .reach path = .ok (.node directory .directory) ∧
    directory <+: place ∧ directory ≠ place

namespace Config

/-- What a run should leave intact: every page holds its own text, and every hand-written file
what it held before. -/
structure Intact (config : Config) (planned : List Planned) (before after : FileTree) : Prop where
  pages : ∀ page ∈ planned, after.read page.artifact.path = .ok page.artifact.content.toUTF8
  handWritten : ∀ place content, before.Below config.output.writtenDirectory place →
    before.node? place = some (.file content) → after.node? place = some (.file content)

/-- No two pages have one place but different texts, and no page has the place of a hand-written
file with another text. -/
structure ClashFree (config : Config) (planned : List Planned) (tree : FileTree) : Prop where
  pages : ∀ page ∈ planned, ∀ other ∈ planned,
    tree.placeOf page.artifact.path = tree.placeOf other.artifact.path →
    page.artifact.content = other.artifact.content
  handWritten : ∀ page ∈ planned, ∀ content,
    tree.Below config.output.writtenDirectory (tree.placeOf page.artifact.path) →
    tree.node? (tree.placeOf page.artifact.path) = some (.file content) →
    page.artifact.content.toUTF8 = content

end Config

namespace Disk

open FileTree

variable {config : Config} {report report' : Report} {pages : List Planned} {page : Planned}
  {before start after : FileTree}

/-! ### Where pages are -/

/-- A page that is written is at the place of its path. -/
theorem lookup_page (hfree : before.LinkFree)
    (h : (perform config report pages).exec before = (.ok report', after)) (hpage : page ∈ pages) :
    ∃ content, after.lookup .reach page.artifact.path =
      .ok (.node (before.placeOf page.artifact.path) (.file content)) := by
  obtain ⟨step, hstep, hsame⟩ := exists_step_of_mem hpage
  have hperformed := performed_of_exec h
  obtain ⟨place, content, hlookup⟩ := hperformed.lookup_page hstep
  rw [hsame] at hlookup
  have hplace := (hfree.evolves hperformed.evolves).place_eq hlookup
  rw [hperformed.evolves.grows.placeOf_eq] at hplace
  exact ⟨content, hplace ▸ hlookup⟩

theorem denotes_page (hfree : before.LinkFree)
    (h : (perform config report pages).exec before = (.ok report', after)) (hpage : page ∈ pages)
    (place : Place) :
    after.denotes page.artifact.path place =
      decide (before.placeOf page.artifact.path = place) := by
  obtain ⟨content, hlookup⟩ := lookup_page hfree h hpage
  exact denotes_of_lookup hlookup place

/-- What is read under the path of a page is what is at its place. -/
theorem read_page_eq_ok_iff (hfree : before.LinkFree)
    (h : (perform config report pages).exec before = (.ok report', after)) (hpage : page ∈ pages)
    {content : ByteArray} :
    after.read page.artifact.path = .ok content ↔
      after.node? (before.placeOf page.artifact.path) = some (.file content) := by
  obtain ⟨last, hlookup⟩ := lookup_page hfree h hpage
  have hread : after.read page.artifact.path = .ok last := read_eq_ok_iff.mpr ⟨_, hlookup⟩
  rw [hread, node?_of_lookup_file hlookup]
  simp

/-- A page holds the text of a page that has the same place. -/
theorem exists_page_of_read (hfree : before.LinkFree)
    (h : (perform config report pages).exec before = (.ok report', after)) (hpage : page ∈ pages) :
    ∃ last ∈ pages,
      before.placeOf last.artifact.path = before.placeOf page.artifact.path ∧
      after.read page.artifact.path = .ok last.artifact.content.toUTF8 := by
  obtain ⟨artifact, hlast, hread⟩ := read_of_exec_perform h hpage
  have hmem : artifact ∈ pages.map (·.artifact) :=
    List.mem_reverse.mp (List.mem_of_find?_eq_some hlast)
  obtain ⟨last, hlastMem, rfl⟩ := List.mem_map.mp hmem
  refine ⟨last, hlastMem, ?_, hread⟩
  obtain ⟨content, hlookup⟩ := lookup_page hfree h hpage
  have hsame := List.find?_some hlast
  rw [sameFile_of_lookup hlookup, denotes_page hfree h hlastMem] at hsame
  exact of_decide_eq_true hsame

/-! ### When pages stay intact -/

/-- Pages that are written one after the other, after directories were made for them, stay intact
exactly if they do not clash. -/
theorem intact_iff_of_exec_perform (hfree : before.LinkFree)
    (hmakes : ReflTransGen MakesDirectory before start)
    (h : (perform config report pages).exec start = (.ok report', after)) :
    config.Intact pages before after ↔ config.ClashFree pages before := by
  have hextends := extendsBy_of_makesDirectories hmakes
  have hfree' : start.LinkFree := hfree.evolves (evolves_of_makesDirectories hmakes)
  have hplaces : start.placeOf = before.placeOf := funext hextends.grows.placeOf_eq
  have hread {page : Planned} (hpage : page ∈ pages) {content : ByteArray} :
      after.read page.artifact.path = .ok content ↔
        after.node? (before.placeOf page.artifact.path) = some (.file content) := by
    rw [read_page_eq_ok_iff hfree' h hpage, hplaces]
  constructor
  · intro hintact
    refine ⟨fun page hpage other hother hplace => ?_, fun page hpage content hbelow hnode => ?_⟩
    · have hfirst := (hread hpage).mp (hintact.pages page hpage)
      have hsecond := (hread hother).mp (hintact.pages other hother)
      rw [hplace, hsecond] at hfirst
      simp only [Option.some.injEq, Node.file.injEq] at hfirst
      exact (String.toByteArray_inj.mp hfirst).symm
    · have hown := (hread hpage).mp (hintact.pages page hpage)
      rw [hintact.handWritten _ content hbelow hnode] at hown
      simp only [Option.some.injEq, Node.file.injEq] at hown
      exact hown.symm
  · intro hclash
    have hpages : ∀ page ∈ pages,
        after.read page.artifact.path = .ok page.artifact.content.toUTF8 := by
      intro page hpage
      obtain ⟨last, hlast, hplace, hlastRead⟩ := exists_page_of_read hfree' h hpage
      rw [hplaces] at hplace
      rw [hlastRead, hclash.pages last hlast page hpage hplace]
    refine ⟨hpages, fun place content hbelow hnode => ?_⟩
    by_cases hpage : ∃ page ∈ pages, before.placeOf page.artifact.path = place
    · obtain ⟨page, hmem, rfl⟩ := hpage
      rw [← hclash.handWritten page hmem content hbelow hnode]
      exact (hread hmem).mp (hpages page hmem)
    · refine (performed_of_exec h).node?_of_not_denotes (hextends.kept hnode) fun step hstep => ?_
      obtain ⟨page, hmem, hartifact⟩ := exists_page_of_mem hstep
      rw [← hartifact, denotes_page hfree' h hmem, hplaces, decide_eq_false_iff_not]
      exact fun hplace => hpage ⟨page, hmem, hplace⟩

end Disk

/-! ### Directories that are apart -/

theorem Descriptor.stem_eq (module : Descriptor) :
    module.stem = "__autodoc_module__" ++ module.name := rfl

theorem Descriptor.name_of_stem_eq {module other : Descriptor} (h : module.stem = other.stem) :
    module.name = other.name :=
  (String.append_right_inj _).mp h

/-- The directories that pages are written to. -/
inductive PageDirectory where
  | api
  | doc
  | root
  deriving DecidableEq, Repr, Inhabited

/-- The path of a directory for pages. -/
def Output.directory (output : Output) : PageDirectory → String
  | .api => output.apiDirectory
  | .doc => output.docDirectory
  | .root => output.source

/-- Whether a run makes a directory. -/
def Config.makes (config : Config) : PageDirectory → Bool
  | .api => config.generation.writeApi
  | .doc => config.generation.writeDoc
  | .root => config.generation.writeIndex

namespace Config

open FileTree

variable {config : Config} {analysis : Analysis} {handWritten : Bool} {tree : FileTree}
  {directory : PageDirectory} {file : String} {page other : Planned}

/-- The directories for pages are different ones, and none of them is that of the hand-written
pages or below it. -/
structure Apart (config : Config) (tree : FileTree) : Prop where
  directories : ∀ first second, tree.placeOf (config.output.directory first) =
    tree.placeOf (config.output.directory second) → first = second
  handWritten : ∀ directory, ¬tree.placeOf config.output.writtenDirectory <+:
    tree.placeOf (config.output.directory directory)

/-- The directory and the file name of a planned page. -/
inductive Sits (config : Config) (analysis : Analysis) (handWritten : Bool) :
    PageDirectory → String → Planned → Prop
  | api {module : Descriptor} (given : module ∈ analysis.modules) :
      Sits config analysis handWritten .api (module.stem ++ "." ++ config.output.extension)
        (config.apiPage module)
  | doc {module : Descriptor} (given : module ∈ analysis.modules) :
      Sits config analysis handWritten .doc (module.stem ++ "." ++ config.output.extension)
        (config.docPage module)
  | apiIndex : Sits config analysis handWritten .api config.output.indexFile
      (config.apiIndex analysis.modules)
  | docIndex : Sits config analysis handWritten .doc config.output.indexFile
      (config.docIndex (analysis.modules.filter (·.hasDoc)))
  | root : Sits config analysis handWritten .root config.output.indexFile
      (config.indexPage config.output.source
        (Page.root (Disk.rootIndex config analysis handWritten)) .backup)

theorem exists_sits_of_mem_plan (h : page ∈ config.plan analysis handWritten) :
    ∃ directory file, config.Sits analysis handWritten directory file page := by
  simp only [plan, indexPages, List.mem_append, List.mem_flatMap, mem_modulePages,
    List.mem_ite_nil_right, List.mem_singleton] at h
  rcases h with ⟨module, hmodule, ⟨-, rfl⟩ | ⟨-, rfl⟩⟩ | (⟨-, rfl⟩ | ⟨-, rfl⟩) | ⟨-, rfl⟩
  · exact ⟨_, _, .api hmodule⟩
  · exact ⟨_, _, .doc hmodule⟩
  · exact ⟨_, _, .apiIndex⟩
  · exact ⟨_, _, .docIndex⟩
  · exact ⟨_, _, .root⟩

theorem Sits.path_eq (h : config.Sits analysis handWritten directory file page) :
    page.artifact.path = Path.join (config.output.directory directory) file := by
  cases h <;> rfl

theorem Sits.isName (h : config.Sits analysis handWritten directory file page)
    (hext : '/' ∉ config.output.extension.toList)
    (hnames : ∀ module ∈ analysis.modules, '/' ∉ module.name.toList) : Path.IsName file := by
  have hindex : Path.IsName config.output.indexFile :=
    Path.isName_append (by simp : "index.".toList.head? = some 'i') (by decide) (by simp) hext
  have hmodule {module : Descriptor} (given : module ∈ analysis.modules) :
      Path.IsName (module.stem ++ "." ++ config.output.extension) := by
    rw [Descriptor.stem_eq, String.append_assoc, String.append_assoc]
    refine Path.isName_append (by simp : "__autodoc_module__".toList.head? = some '_') (by decide)
      (by simp) ?_
    simp [hnames module given, hext]
  cases h with
  | api given | doc given => exact hmodule given
  | apiIndex | docIndex | root => exact hindex

/-- Pages of different modules have different file names. -/
theorem name_of_file_eq {module other : Descriptor} {ending : String}
    (h : module.stem ++ "." ++ ending = other.stem ++ "." ++ ending) :
    module.name = other.name :=
  Descriptor.name_of_stem_eq
    ((String.append_left_inj _).mp ((String.append_left_inj _).mp h))

/-- No page of a module has the file name of an index. -/
theorem file_ne_indexFile (module : Descriptor) (output : Output) :
    module.stem ++ "." ++ output.extension ≠ output.indexFile := by
  intro h
  have hhead := congrArg (fun text => text.toList.head?) h
  rw [Descriptor.stem_eq, Output.indexFile] at hhead
  simp at hhead

/-- If modules have different names, a directory and a file name belong to one page only. -/
theorem Sits.content_eq (hdistinct : (analysis.modules.map (·.name)).Nodup)
    (h : config.Sits analysis handWritten directory file page)
    (h' : config.Sits analysis handWritten directory file other) :
    page.artifact.content = other.artifact.content := by
  generalize hfile : file = file' at h'
  cases h with
  | api given =>
    cases h' with
    | api given' =>
      rw [List.inj_on_of_nodup_map hdistinct given given' (name_of_file_eq hfile)]
    | apiIndex => exact absurd hfile (file_ne_indexFile _ _)
  | doc given =>
    cases h' with
    | doc given' =>
      rw [List.inj_on_of_nodup_map hdistinct given given' (name_of_file_eq hfile)]
    | docIndex => exact absurd hfile (file_ne_indexFile _ _)
  | apiIndex =>
    cases h' with
    | api given' => exact absurd hfile.symm (file_ne_indexFile _ _)
    | apiIndex => rfl
  | docIndex =>
    cases h' with
    | doc given' => exact absurd hfile.symm (file_ne_indexFile _ _)
    | docIndex => rfl
  | root =>
    cases h'
    rfl

/-- Nothing clashes if the directories are apart and the modules have different names without
slashes. -/
theorem clashFree_of_apart (hfree : tree.LinkFree) (hapart : config.Apart tree)
    (hext : '/' ∉ config.output.extension.toList)
    (hnames : ∀ module ∈ analysis.modules, '/' ∉ module.name.toList)
    (hdistinct : (analysis.modules.map (·.name)).Nodup) :
    config.ClashFree (config.plan analysis handWritten) tree := by
  have hplace {directory : PageDirectory} {file : String} {page : Planned}
      (h : config.Sits analysis handWritten directory file page) :
      tree.placeOf page.artifact.path =
        tree.placeOf (config.output.directory directory) ++ [file] := by
    have hname := h.isName hext hnames
    rw [h.path_eq]
    exact placeOf_join_of_names tree _ hname.isAbsolute_eq_false hname.names_eq
      (by simpa using ⟨hname.ne_dot, hname.ne_dots⟩)
  refine ⟨fun page hpage other hother hsame => ?_, fun page hpage content hbelow hnode => ?_⟩
  · obtain ⟨directory, file, hsits⟩ := exists_sits_of_mem_plan hpage
    obtain ⟨directory', file', hsits'⟩ := exists_sits_of_mem_plan hother
    rw [hplace hsits, hplace hsits'] at hsame
    obtain ⟨hdirectory, hfile⟩ := List.append_inj' hsame rfl
    obtain rfl := hapart.directories _ _ hdirectory
    obtain rfl : file = file' := by simpa using hfile
    exact hsits.content_eq hdistinct hsits'
  · -- What is below the hand-written directory is not in a directory for pages.
    obtain ⟨directory, file, hsits⟩ := exists_sits_of_mem_plan hpage
    obtain ⟨written, hlookup, hle, hne⟩ := hbelow
    rw [hfree.place_eq hlookup, hplace hsits] at hle hne
    rcases List.prefix_concat_iff.mp hle with heq | hle
    · exact absurd heq hne
    · exact absurd hle (hapart.handWritten directory)

/-- With the paths that are given by default, the directories are apart wherever the output
directory is. -/
theorem apart_of_default_paths (tree : FileTree) (hapi : config.output.apipath = "generated/api")
    (hdoc : config.output.docpath = "generated/doc")
    (hwritten : config.output.writtenpath = "written") : config.Apart tree := by
  have hapi : tree.placeOf config.output.apiDirectory =
      tree.placeOf config.output.source ++ ["generated", "api"] := by
    rw [Output.apiDirectory, hapi]
    exact placeOf_join_of_names tree _ (by decide +kernel) (by decide +kernel) (by simp)
  have hdoc : tree.placeOf config.output.docDirectory =
      tree.placeOf config.output.source ++ ["generated", "doc"] := by
    rw [Output.docDirectory, hdoc]
    exact placeOf_join_of_names tree _ (by decide +kernel) (by decide +kernel) (by simp)
  have hwritten : tree.placeOf config.output.writtenDirectory =
      tree.placeOf config.output.source ++ ["written"] := by
    rw [Output.writtenDirectory, hwritten]
    exact placeOf_join_of_names tree _ (by decide +kernel) (by decide +kernel) (by simp)
  refine ⟨fun first second hsame => ?_, fun directory hle => ?_⟩
  · cases first <;> cases second <;> simp_all [Output.directory]
  · rw [hwritten] at hle
    cases directory with
    | api => simp [Output.directory, hapi, List.prefix_append_right_inj] at hle
    | doc => simp [Output.directory, hdoc, List.prefix_append_right_inj] at hle
    | root =>
      have hlength := hle.length_le
      simp only [Output.directory, List.length_append, List.length_singleton] at hlength
      omega

end Config

namespace Disk

open FileTree

variable {config : Config} {analysis : Analysis} {report : Report} {before after : FileTree}

/-! ### What a run leaves intact -/

/-- A successful run leaves its pages and the hand-written files intact exactly if nothing that it
plans clashes. So it does if the directories are apart and the modules have different names that
can be part of a file name. -/
theorem intact_iff_clashFree (hfree : before.LinkFree)
    (h : (generate config analysis).exec before = (.ok report, after)) :
    ∃ handWritten, (findHandWritten config).exec before = (.ok handWritten, before) ∧
      report.written = (config.plan analysis handWritten).map (·.artifact.path) ∧
      (config.Intact (config.plan analysis handWritten) before after ↔
        config.ClashFree (config.plan analysis handWritten) before) ∧
      (config.Apart before → '/' ∉ config.output.extension.toList →
        (∀ module ∈ analysis.modules, '/' ∉ module.name.toList) →
        (analysis.modules.map (·.name)).Nodup →
        config.Intact (config.plan analysis handWritten) before after) := by
  obtain ⟨handWritten, start, hfound, hmake, hperform⟩ := exec_generate_eq_ok h
  have hmakes := (respects_makePageDirectories config).of_exec hmake
  have hiff := intact_iff_of_exec_perform hfree hmakes hperform
  refine ⟨handWritten, hfound, ?_, hiff, fun hapart hext hnames hdistinct => ?_⟩
  · simpa using (report_of_exec hperform).1
  · exact hiff.mpr (Config.clashFree_of_apart hfree hapart hext hnames hdistinct)

/-- A run that makes all pages, with hand-written ones in a directory of their own. -/
def separateOutput : Config :=
  { output := { source := "s" }, generation := { writeDoc := true, writeIndex := true } }

/-- A tree with an index of hand-written pages. -/
def handWrittenTree : FileTree :=
  { entries := [(["s"], .directory), (["s", "written"], .directory),
      (["s", "written", "index.rst"], .file "mine".toUTF8)] }

theorem separate_index_kept :
    handWrittenTree.LinkFree ∧ ∃ report after,
      (generate separateOutput documented).exec handWrittenTree = (.ok report, after) ∧
      after.node? ["s", "written", "index.rst"] = some (.file "mine".toUTF8) := by
  have hfree : handWrittenTree.LinkFree := by decide +kernel
  have hok : ((generate separateOutput documented).exec handWrittenTree).1.isOk = true := by
    decide +kernel
  refine ⟨hfree, ?_⟩
  cases hexec : (generate separateOutput documented).exec handWrittenTree with
  | mk answer after =>
    rw [hexec] at hok
    cases answer with
    | error fault => cases hok
    | ok report =>
      obtain ⟨handWritten, -, -, -, hintact⟩ := intact_iff_clashFree hfree hexec
      have hbelow : handWrittenTree.Below separateOutput.output.writtenDirectory
          ["s", "written", "index.rst"] :=
        ⟨["s", "written"], by decide +kernel, by simp, by simp⟩
      have hkept := (hintact (Config.apart_of_default_paths _ rfl rfl rfl) (by decide +kernel)
        (by decide +kernel) (by decide +kernel)).handWritten _ _ hbelow rfl
      exact ⟨report, after, rfl, hkept⟩

/-- A configuration with hand-written pages in the output directory itself. -/
def overlappingOutput : Config :=
  { discovery := { manifest := some "m.json" }
    output := { source := "s", writtenpath := "." }
    generation := { writeApi := false, writeIndex := true } }

/-- A tree with a manifest and a hand-written index in the output directory. -/
def overlappedTree : FileTree :=
  { entries := [(["m.json"],
        .file "\x7b\"modules\": \x7b\"p\": \x7b\"package\": true\x7d\x7d\x7d".toUTF8),
      (["s"], .directory), (["s", "index.rst"], .file "mine".toUTF8)] }

/-- A configuration is accepted though its directories overlap, and the hand-written index is
overwritten. -/
theorem overlapping_index_overwritten :
    overlappingOutput.check = .ok () ∧ overlappedTree.LinkFree ∧
      Source.analysis overlappedTree overlappingOutput "p" = .ok { package := "p" } ∧
      overlappedTree.Below overlappingOutput.output.writtenDirectory ["s", "index.rst"] ∧
      overlappedTree.node? ["s", "index.rst"] = some (.file "mine".toUTF8) ∧
      ∃ report after,
        (generate overlappingOutput { package := "p" }).exec overlappedTree = (.ok report, after) ∧
        after.node? ["s", "index.rst"] ≠ some (.file "mine".toUTF8) := by
  have hwritten : overlappedTree.lookup .reach overlappingOutput.output.writtenDirectory =
      .ok (.node ["s"] .directory) := by
    decide +kernel
  have hok : ((generate overlappingOutput { package := "p" }).exec overlappedTree).1.isOk =
      true := by
    decide +kernel
  have hlost : ((generate overlappingOutput { package := "p" }).exec overlappedTree).2.node?
      ["s", "index.rst"] ≠ some (.file "mine".toUTF8) := by
    decide +kernel
  refine ⟨by decide +kernel, by decide +kernel, by decide +kernel,
    ⟨["s"], hwritten, by simp, by simp⟩, rfl, ?_⟩
  cases hexec : (generate overlappingOutput { package := "p" }).exec overlappedTree with
  | mk answer after =>
    rw [hexec] at hok hlost
    cases answer with
    | error fault => cases hok
    | ok report => exact ⟨report, after, rfl, hlost⟩

end Disk

end DocStubs
