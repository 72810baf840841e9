import DocStubs.Proofs.Generate.Outcome

/-!
# Runs that fail

A run that fails after it has made its directories has written the first pages of its plan, has
failed to write the next one, and has not begun with any other. Nothing is undone, so this is also
what an index has to be judged by: it is written after the pages that it lists, and stays if the
run fails later.

The index of the output directory is an exception by design. It links the index of the pages that
list members whether these are made or not, and hand-written pages are nothing that a run writes.

## Main definitions

* `Error.isEarly` — errors that come before anything is written
* `Disk.Failed` — what the error about a page that is not written says
* `Config.ListsOnly` — an index lists only given pages

## Main results

* `Disk.exec_perform_eq_error` — a plan is performed up to the page that fails
* `Disk.unchanged_of_isEarly` — an early error leaves the tree as it is
* `Config.listsOnly_of_plan` — an index lists only what is planned before it
* `Disk.generate_writes_prefix` — where a run stops
-/

namespace DocStubs

/-- Errors that come before anything is written: in what a run is told, in what it reads, and in
what it finds to be missing. -/
def Error.isEarly : Error → Bool
  | .configFormat | .config _ | .pattern | .manifestFormat | .cannotImport _ _
  | .handWrittenIndex _ _ => true
  | .file _ | .collision _ | .backupSource _ | .walk _ | .code _ => false

namespace Disk

open FileTree

variable {ε ε' α β : Type} {mark path : String} {artifact : Artifact}
  {before middle after : FileTree} {fault : Error}

/-! ### The failures of an action -/

/-- Every failure of an action is of some kind. -/
def FailsWith (kind : ε → Prop) (action : Disk ε α) : Prop :=
  ∀ tree fault, (action.exec tree).1 = .error fault → kind fault

namespace FailsWith

variable {kind : ε → Prop}

theorem pure (value : α) : (pure value : Disk ε α).FailsWith kind := by
  intro tree fault h
  cases h

theorem bind {action : Disk ε α} {next : α → Disk ε β} (h : action.FailsWith kind)
    (hnext : ∀ value, (next value).FailsWith kind) : (action >>= next).FailsWith kind := by
  intro tree fault hfault
  cases hexec : action.exec tree with
  | mk answer middle =>
    cases answer with
    | ok value =>
      rw [exec_bind_of_ok next hexec] at hfault
      exact hnext value middle fault hfault
    | error first =>
      rw [exec_bind_of_error next hexec] at hfault
      cases hfault
      exact h tree fault (by rw [hexec])

theorem onFault {view : ε' → ε} (hview : ∀ fault, kind (view fault)) (action : Disk ε' α) :
    (onFault view action).FailsWith kind := by
  intro tree fault h
  rw [exec_onFault] at h
  cases hanswer : (action.exec tree).1 with
  | ok value =>
    rw [hanswer] at h
    cases h
  | error first =>
    rw [hanswer] at h
    cases h
    exact hview first

end FailsWith

/-- Directories fail to be made because of files only. -/
theorem failsWith_makePageDirectories (config : Config) :
    (makePageDirectories config).FailsWith fun fault => fault.isEarly = false := by
  have hensure (asked : Bool) (directory : String) :
      (ensureIf asked directory).FailsWith fun fault => fault.isEarly = false := by
    cases asked with
    | true =>
      show (onFault Error.file (makeDirectories directory)).FailsWith _
      refine FailsWith.onFault (fun fault => ?_) _
      rfl
    | false => exact FailsWith.pure _
  rw [makePageDirectories_eq]
  exact (hensure _ _).bind fun _ => (hensure _ _).bind fun _ => hensure _ _

/-! ### A page that is not written -/

/-- What the error about a page that is not written says. Only errors of files may come after a
change. -/
inductive Failed (path : String) (before : FileTree) : Error → FileTree → Prop
  | collision (there : before.hasPath path = true) :
      Failed path before (.collision path) before
  | backupSource (there : before.hasPath path = true) :
      Failed path before (.backupSource path) before
  | file {after : FileTree} (fault : FileFault) : Failed path before (.file fault) after
  | walk {after : FileTree} (fault : WalkFault) : Failed path before (.walk fault) after

theorem Failed.isEarly_eq_false (h : Failed path before fault after) : fault.isEarly = false := by
  cases h <;> rfl

/-- If a path is named by the error itself, it is that of the page, and nothing was done. -/
theorem Failed.refused (h : Failed path before fault after) {named : String}
    (hnamed : fault = .collision named ∨ fault = .backupSource named) :
    named = path ∧ before.hasPath named = true ∧ after = before := by
  cases h with
  | collision there =>
    obtain rfl : path = named := by simpa using hnamed
    exact ⟨rfl, there, rfl⟩
  | backupSource there =>
    obtain rfl : path = named := by simpa using hnamed
    exact ⟨rfl, there, rfl⟩
  | file fault => simp at hnamed
  | walk fault => simp at hnamed

theorem failed_of_exec_onFault_file {action : Disk FileFault α} {next : α → Disk Error β}
    (hnext : ∀ value tree, ((next value).exec tree).1.isOk = true)
    (h : (onFault Error.file action >>= next).exec middle = (.error fault, after)) :
    Failed path before fault after := by
  rw [exec_bind, exec_onFault] at h
  cases hexec : action.exec middle with
  | mk answer last =>
    rw [hexec] at h
    cases answer with
    | ok value =>
      have hok := hnext value last
      dsimp only [Except.mapError] at h
      rw [h] at hok
      cases hok
    | error first =>
      cases h
      exact .file first

theorem failed_backup (hpath : before.hasPath path = true)
    (h : (backup mark path).exec before = (.error fault, after)) :
    Failed path before fault after := by
  rw [backup, exec_bind_of_ok _ (exec_get before)] at h
  split at h
  · exact failed_of_exec_onFault_file (fun _ _ => rfl) h
  · split at h
    · rw [exec_bind, exec_onFault] at h
      cases hexec : (copyTree path (backupPath mark path (before.freeNumber mark path))).exec
          before with
      | mk answer last =>
        rw [hexec] at h
        cases answer with
        | ok _ => cases h
        | error first =>
          cases h
          cases first with
          | inl fault => exact .file fault
          | inr fault => exact .walk fault
    · cases h
      exact .backupSource hpath

theorem failed_writeArtifact
    (h : (writeArtifact mark artifact).exec before = (.error fault, after)) :
    Failed artifact.path before fault after := by
  rw [exec_writeArtifact] at h
  split at h
  · rename_i hpath
    split at h
    · cases h
      exact .collision hpath
    · cases hexec : (backup mark artifact.path).exec before with
      | mk answer middle =>
        rw [hexec] at h
        cases answer with
        | ok target => exact failed_of_exec_onFault_file (fun _ _ => rfl) h
        | error first =>
          cases h
          exact failed_backup hpath hexec
  · exact failed_of_exec_onFault_file (fun _ _ => rfl) h

theorem read_of_hasDirectory (h : before.hasDirectory path = true) :
    before.read path = .error .isDirectory := by
  obtain ⟨place, hlookup⟩ := hasDirectory_iff.mp h
  rw [FileTree.read, nodeAt_eq_ok_iff.mpr ⟨place, hlookup⟩]

/-- A page that is not written cannot be read afterwards, unless what is read was there before. -/
theorem Wrote.read_of_error (h : Wrote mark artifact before (.error fault) after) :
    after.read artifact.path = before.read artifact.path := by
  cases h with
  | refused => rfl
  | halted _ policy there =>
    have hgrows := (evolves_copyTree artifact.path (backupTarget mark before artifact.path)
      before (Or.inl trivial)).grows
    rw [read_of_hasDirectory there, read_of_hasDirectory (Grows.hasDirectory hgrows there)]

/-! ### A plan that is not performed to its end -/

variable {config : Config} {analysis : Analysis} {report : Report} {pages : List Planned}
  {handWritten : Bool} {start : FileTree}

/-- A plan is performed up to the page that fails, and no further. -/
theorem exec_perform_eq_error
    (h : (perform config report pages).exec before = (.error fault, after)) :
    ∃ written page rest report' middle, pages = written ++ page :: rest ∧
      (perform config report written).exec before = (.ok report', middle) ∧
      (writeArtifact config.output.backupMark page.artifact).exec middle =
        (.error fault, after) := by
  induction pages generalizing report before with
  | nil => cases h
  | cons page rest ih =>
    rw [exec_perform_cons] at h
    cases hexec : (writeArtifact config.output.backupMark page.artifact).exec before with
    | mk answer middle =>
      rw [hexec] at h
      cases answer with
      | error first =>
        cases h
        exact ⟨[], page, rest, report, before, rfl, rfl, hexec⟩
      | ok copied =>
        obtain ⟨written, next, later, report', last, rfl, hwritten, hnext⟩ := ih h
        refine ⟨page :: written, next, later, report', last, rfl, ?_, hnext⟩
        rw [exec_perform_cons, hexec]
        exact hwritten

theorem failsWith_perform (config : Config) (report : Report) (pages : List Planned) :
    (perform config report pages).FailsWith fun fault => fault.isEarly = false := by
  intro tree fault h
  cases hexec : (perform config report pages).exec tree with
  | mk answer after =>
    rw [hexec] at h
    cases h
    obtain ⟨written, page, rest, report', middle, -, -, hpage⟩ := exec_perform_eq_error hexec
    exact (failed_writeArtifact hpage).isEarly_eq_false

/-- What a run does after it has made its directories is performing its plan. -/
theorem exec_generate_of_start (hfound : (findHandWritten config).exec before =
      (.ok handWritten, before))
    (hmake : (makePageDirectories config).exec before = (.ok (), start)) :
    (generate config analysis).exec before =
      (perform config {} (config.plan analysis handWritten)).exec start := by
  rw [generate_eq_perform, exec_bind_of_ok _ hfound, exec_bind_of_ok _ hmake]

/-- A run that fails early leaves the tree as it is: only looking for hand-written pages fails so,
and that comes first. -/
theorem unchanged_of_isEarly (h : (generate config analysis).exec before = (.error fault, after))
    (hearly : fault.isEarly = true) : after = before := by
  obtain ⟨found, hfound⟩ := exec_findHandWritten config before
  have hlater (handWritten : Bool) :
      (makePageDirectories config >>= fun _ =>
        perform config {} (config.plan analysis handWritten)).FailsWith
          fun fault => fault.isEarly = false :=
    (failsWith_makePageDirectories config).bind fun _ => failsWith_perform _ _ _
  rw [generate_eq_perform] at h
  cases found with
  | error first =>
    rw [exec_bind_of_error _ hfound] at h
    cases h
    rfl
  | ok handWritten =>
    rw [exec_bind_of_ok _ hfound] at h
    have hlate : fault.isEarly = false := hlater handWritten before fault (by rw [h])
    rw [hearly] at hlate
    cases hlate

/-- Hand-written pages are found if something is at their directory, and there is an index of them
then. -/
theorem of_findHandWritten {handWritten : Bool}
    (h : (findHandWritten config).exec before = (.ok handWritten, before)) :
    handWritten =
        (config.generation.writeIndex && before.hasPath config.output.writtenDirectory) ∧
      (handWritten = true →
        before.hasFile (config.output.indexPath config.output.writtenDirectory) = true) := by
  rw [findHandWritten] at h
  split at h
  · rename_i hindex
    rw [exec_ask?, FileTree.hasHandWritten] at h
    simp only [Prod.mk.injEq, and_true] at h
    split at h
    · rename_i hfree
      cases h
      exact ⟨by simpa using fun _ => hfree, fun hhand => by cases hhand⟩
    · rename_i hthere
      split at h
      · rename_i hfile
        cases h
        exact ⟨by simpa [hindex] using hthere, fun _ => hfile⟩
      · cases h
  · rename_i hindex
    cases h
    exact ⟨by simp [hindex], fun hhand => by cases hhand⟩

/-- There is an index of hand-written pages if these are found. -/
theorem hasFile_of_findHandWritten
    (h : (findHandWritten config).exec before = (.ok true, before)) :
    before.hasFile (config.output.indexPath config.output.writtenDirectory) = true :=
  (of_findHandWritten h).2 rfl

end Disk

/-! ### What indices list -/

namespace Config

variable {config : Config} {analysis : Analysis} {handWritten : Bool} {index : Planned}
  {earlier later : List Planned}

/-- The index of the pages that list the members of modules. -/
def apiIndex (config : Config) (modules : List Descriptor) : Planned :=
  config.indexPage config.output.apiDirectory (Page.apiIndex (modules.map Contents.entry))
    config.pagePolicy

/-- The index of the pages that show the documentation of modules. -/
def docIndex (config : Config) (modules : List Descriptor) : Planned :=
  config.indexPage config.output.docDirectory (Page.docIndex (modules.map Contents.entry))
    config.pagePolicy

/-- An index lists only given pages, hand-written ones aside. The index of the output directory
may also link the pages that list members if these are not made. -/
inductive ListsOnly (config : Config) (handWritten : Bool) (pages : List Planned) : Planned → Prop
  | api {modules : List Descriptor} (given : ∀ module ∈ modules, config.apiPage module ∈ pages) :
      ListsOnly config handWritten pages (config.apiIndex modules)
  | doc {modules : List Descriptor} (given : ∀ module ∈ modules, config.docPage module ∈ pages) :
      ListsOnly config handWritten pages (config.docIndex modules)
  | root {package : String}
      (api : config.generation.writeApi = true → ∃ modules, config.apiIndex modules ∈ pages)
      (doc : config.generation.writeDoc = true → ∃ modules, config.docIndex modules ∈ pages) :
      ListsOnly config handWritten pages
        (config.indexPage config.output.source
          (Page.root
            { package
              apipath := config.output.apipath
              docpath := if config.generation.writeDoc then some config.output.docpath else none
              writtenpath := if handWritten then some config.output.writtenpath else none })
          .backup)

/-- The last part of a list begins after the others, or the element is in these. -/
theorem split_append {xs ys : List Planned} (h : xs ++ ys = earlier ++ index :: later) :
    (∃ between, xs = earlier ++ index :: between) ∨ index ∈ ys ∧ xs ⊆ earlier := by
  rcases List.append_eq_append_iff.mp h with ⟨between, rfl, hys⟩ | ⟨between, rfl, hys⟩
  · exact Or.inr ⟨by simp [hys], by simp⟩
  · cases between with
    | nil =>
      rw [List.nil_append] at hys
      exact Or.inr ⟨by simp [← hys], by simp⟩
    | cons first rest =>
      simp only [List.cons_append, List.cons.injEq] at hys
      rw [hys.1]
      exact Or.inl ⟨rest, rfl⟩

theorem mem_modulePages {page : Planned} {module : Descriptor} :
    page ∈ config.modulePages module ↔
      config.generation.writeApi = true ∧ page = config.apiPage module ∨
        (config.generation.writeDoc && module.hasDoc) = true ∧ page = config.docPage module := by
  rw [modulePages, List.mem_append, List.mem_ite_nil_right, List.mem_ite_nil_right,
    List.mem_singleton, List.mem_singleton]

/-- An index lists only what is planned before it. -/
theorem listsOnly_of_plan
    (h : config.plan analysis handWritten = earlier ++ index :: later)
    (hindex : index.kind = .index) : config.ListsOnly handWritten earlier index := by
  rw [plan, indexPages, ← List.append_assoc, ← List.append_assoc] at h
  -- The index is in one of four parts, and what is before its part is before it.
  rcases split_append h with ⟨between, h⟩ | ⟨hmem, hbefore⟩
  · rcases split_append h with ⟨between, h⟩ | ⟨hmem, hbefore⟩
    · rcases split_append h with ⟨between, h⟩ | ⟨hmem, hbefore⟩
      · have hpage : index ∈ analysis.modules.flatMap config.modulePages := by simp [h]
        obtain ⟨module, -, hmodule⟩ := List.mem_flatMap.mp hpage
        obtain ⟨-, rfl⟩ | ⟨-, rfl⟩ := mem_modulePages.mp hmodule
        · cases hindex
        · cases hindex
      · rw [List.mem_ite_nil_right, List.mem_singleton] at hmem
        obtain ⟨hapi, rfl⟩ := hmem
        refine ListsOnly.api fun module hmodule => hbefore ?_
        exact List.mem_flatMap.mpr ⟨module, hmodule, mem_modulePages.mpr (Or.inl ⟨hapi, rfl⟩)⟩
    · rw [List.mem_ite_nil_right, List.mem_singleton] at hmem
      obtain ⟨hdoc, rfl⟩ := hmem
      refine ListsOnly.doc fun module hmodule => hbefore (List.mem_append_left _ ?_)
      obtain ⟨hmodule, hhas⟩ := List.mem_filter.mp hmodule
      have hboth : (config.generation.writeDoc && module.hasDoc) = true := by simp [hdoc, hhas]
      exact List.mem_flatMap.mpr ⟨module, hmodule, mem_modulePages.mpr (Or.inr ⟨hboth, rfl⟩)⟩
  · rw [List.mem_ite_nil_right, List.mem_singleton] at hmem
    obtain ⟨-, rfl⟩ := hmem
    refine ListsOnly.root (fun hapi => ⟨analysis.modules, hbefore ?_⟩) fun hdoc =>
      ⟨analysis.modules.filter (·.hasDoc), hbefore ?_⟩
    · simp [hapi, apiIndex, indexed]
    · simp [hdoc, docIndex, indexed]

end Config

namespace Disk

open FileTree

variable {config : Config} {analysis : Analysis} {handWritten : Bool}
  {before start after : FileTree}

/-! ### Where a run stops -/

/-- A run that has made its directories writes pages from the beginning of its plan, and all of
them if it succeeds. If it fails, it fails to write the next page and does no more; if the error
names a path, this is the path of that page, something was there, and the failure changes nothing.
An index that is written, also by a run that fails later, lists only pages that are written
before it. -/
theorem generate_writes_prefix {answer : Except Error Report}
    (hfound : (findHandWritten config).exec before = (.ok handWritten, before))
    (hmake : (makePageDirectories config).exec before = (.ok (), start))
    (h : (generate config analysis).exec before = (answer, after)) :
    ∃ written left report middle, config.plan analysis handWritten = written ++ left ∧
      (perform config {} written).exec start = (.ok report, middle) ∧
      report.written = written.map (·.artifact.path) ∧
      (∀ page ∈ written, ∃ last, (written.map (·.artifact)).reverse.find?
          (fun other => middle.sameFile page.artifact.path other.path) = some last ∧
        middle.read page.artifact.path = .ok last.content.toUTF8) ∧
      (∀ earlier index later, written = earlier ++ index :: later → index.kind = .index →
        config.ListsOnly handWritten earlier index) ∧
      (handWritten = true →
        before.hasFile (config.output.indexPath config.output.writtenDirectory) = true) ∧
      match answer with
      | .ok total => left = [] ∧ total = report ∧ after = middle
      | .error fault => ∃ page later, left = page :: later ∧
          (writeArtifact config.output.backupMark page.artifact).exec middle =
            (.error fault, after) ∧
          after.read page.artifact.path = middle.read page.artifact.path ∧
          ∀ path, fault = .collision path ∨ fault = .backupSource path →
            path = page.artifact.path ∧ middle.hasPath path = true ∧ after = middle := by
  have hhand : handWritten = true →
      before.hasFile (config.output.indexPath config.output.writtenDirectory) = true := by
    rintro rfl
    exact hasFile_of_findHandWritten hfound
  rw [exec_generate_of_start hfound hmake] at h
  cases answer with
  | ok total =>
    refine ⟨config.plan analysis handWritten, [], total, after, by simp, h, ?_,
      fun page hpage => read_of_exec_perform h hpage, fun _ _ _ => Config.listsOnly_of_plan, hhand,
      rfl, rfl, rfl⟩
    simpa using (report_of_exec h).1
  | error fault =>
    obtain ⟨written, page, later, report, middle, hplan, hwritten, hpage⟩ :=
      exec_perform_eq_error h
    refine ⟨written, page :: later, report, middle, hplan, hwritten, ?_,
      fun page hpage => read_of_exec_perform hwritten hpage, ?_, hhand, page, later, rfl, hpage,
      (wrote_writeArtifact hpage).read_of_error, fun path hpath =>
        (failed_writeArtifact hpage).refused hpath⟩
    · simpa using (report_of_exec hwritten).1
    · rintro earlier index rest rfl hindex
      rw [List.append_assoc, List.cons_append] at hplan
      exact Config.listsOnly_of_plan hplan hindex

/-- A package with two modules. -/
def twoModules : Analysis := { package := "p", modules := [{ name := "p.a" }, { name := "p.b" }] }

/-- Pages in an output directory of their own. -/
def apiOnly : Config := { output := { source := "s" } }

/-- A tree in which a file is in the way of the page of the second module. -/
def occupiedTree : FileTree :=
  { entries := [(["s"], .directory), (["s", "generated"], .directory),
      (["s", "generated", "api"], .directory),
      (["s", "generated", "api", "__autodoc_module__p.b.rst"], .file "mine".toUTF8)] }

theorem collision_at_second_page :
    ∃ written page later report middle,
      apiOnly.plan twoModules false = written ++ page :: later ∧
      (perform apiOnly {} written).exec occupiedTree = (.ok report, middle) ∧
      page.artifact.path = "s/generated/api/__autodoc_module__p.b.rst" ∧
      middle.hasPath "s/generated/api/__autodoc_module__p.b.rst" = true ∧
      (generate apiOnly twoModules).exec occupiedTree =
        (.error (.collision "s/generated/api/__autodoc_module__p.b.rst"), middle) := by
  have hfound : (findHandWritten apiOnly).exec occupiedTree = (.ok false, occupiedTree) := rfl
  have hmake : (makePageDirectories apiOnly).exec occupiedTree = (.ok (), occupiedTree) := by
    decide +kernel
  have hfault : ((generate apiOnly twoModules).exec occupiedTree).1 =
      .error (.collision "s/generated/api/__autodoc_module__p.b.rst") := by
    decide +kernel
  cases hexec : (generate apiOnly twoModules).exec occupiedTree with
  | mk answer after =>
    rw [hexec] at hfault
    obtain rfl : answer = _ := hfault
    obtain ⟨written, left, report, middle, hplan, hwritten, -, -, -, -, page, later, rfl, -, -,
      hrefused⟩ := generate_writes_prefix hfound hmake hexec
    obtain ⟨hpath, hthere, rfl⟩ := hrefused _ (Or.inl rfl)
    exact ⟨written, page, later, report, after, hplan, hwritten, hpath.symm, hthere, rfl⟩

/-- The index of the output directory links the pages that list members also if these are not
made, so not every page that it lists is there. -/
theorem root_links_missing_index :
    ∃ report after text, (generate (indexOnly ".bak") { package := "p" }).exec {} =
        (.ok report, after) ∧
      report.written = ["s/index.rst"] ∧ after.readText "s/index.rst" = .ok text ∧
      "   generated/api/index" ∈ Cut.pieces '\n' text ∧
      after.hasPath "s/generated/api/index.rst" = false := by
  refine ⟨{ indexPages := 1, written := ["s/index.rst"] },
    ((generate (indexOnly ".bak") { package := "p" }).exec {}).2,
    Page.root { package := "p", apipath := "generated/api" }, Prod.ext ?_ rfl, rfl, ?_, ?_, ?_⟩
  all_goals decide +kernel

end Disk

end DocStubs
