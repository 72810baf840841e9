import DocStubs.Generate
import DocStubs.Proofs.Files.Disk

/-!
# The plan of a run

A run decides before it writes anything which pages it will write: its plan follows from the
configuration, the analysis and whether there are hand-written pages. That the run then writes the
indices from entries which it collects on the way is a matter of order only.

## Main definitions

* `Config.plan` — the pages of a run, in the order they are written
* `Disk.perform` — writes planned pages one after the other

## Main results

* `Disk.generate_eq_perform` — a run writes its plan
-/

namespace DocStubs

/-! ### Planned pages -/

/-- What a page is for. -/
inductive PageKind where
  /-- It lists the members of a module. -/
  | api
  /-- It shows the documentation of a module. -/
  | doc
  /-- It links other pages. -/
  | index
  deriving DecidableEq, Repr, Inhabited

/-- A page of a plan. -/
structure Planned where
  kind : PageKind
  artifact : Artifact
  deriving DecidableEq, Repr, Inhabited

namespace Report

/-- Counts a page. -/
def count (report : Report) : PageKind → Report
  | .api => report.countApi
  | .doc => report.countDoc
  | .index => report.countIndex

end Report

namespace Config

/-- The page that lists the members of a module. -/
def apiPage (config : Config) (module : Descriptor) : Planned :=
  { kind := .api
    artifact :=
      { path := config.output.pagePath config.output.apiDirectory module
        content := Page.api module
        policy := config.pagePolicy } }

/-- The page that shows the documentation of a module. -/
def docPage (config : Config) (module : Descriptor) : Planned :=
  { kind := .doc
    artifact :=
      { path := config.output.pagePath config.output.docDirectory module
        content := Page.doc module
        policy := config.pagePolicy } }

/-- The index of a directory. -/
def indexPage (config : Config) (directory content : String) (policy : Policy) : Planned :=
  { kind := .index
    artifact := { path := config.output.indexPath directory, content, policy } }

@[simp] theorem indexPage_path (config : Config) (directory content : String) (policy : Policy) :
    (config.indexPage directory content policy).artifact.path =
      config.output.indexPath directory := by
  rw [indexPage]

@[simp] theorem indexPage_content (config : Config) (directory content : String)
    (policy : Policy) : (config.indexPage directory content policy).artifact.content = content :=
  rfl

/-- The pages of a module. -/
def modulePages (config : Config) (module : Descriptor) : List Planned :=
  (if config.generation.writeApi then [config.apiPage module] else []) ++
    (if config.generation.writeDoc && module.hasDoc then [config.docPage module] else [])

/-- The indices with given entries. -/
def indexPages (config : Config) (analysis : Analysis) (handWritten : Bool)
    (contents : Contents) : List Planned :=
  (if config.generation.writeApi then
    [config.indexPage config.output.apiDirectory (Page.apiIndex contents.api) config.pagePolicy]
    else []) ++
  (if config.generation.writeDoc then
    [config.indexPage config.output.docDirectory (Page.docIndex contents.doc) config.pagePolicy]
    else []) ++
  (if config.generation.writeIndex then
    [config.indexPage config.output.source
      (Page.root (Disk.rootIndex config analysis handWritten)) .backup]
    else [])

/-- The entries of the indices: all modules in one, those with documentation in the other. -/
def indexed (analysis : Analysis) : Contents :=
  { api := analysis.modules.map Contents.entry
    doc := (analysis.modules.filter (·.hasDoc)).map Contents.entry }

/-- The pages of a run, in the order they are written. -/
def plan (config : Config) (analysis : Analysis) (handWritten : Bool) : List Planned :=
  analysis.modules.flatMap config.modulePages ++
    config.indexPages analysis handWritten (indexed analysis)

/-- The entries that are collected for a module. -/
def collect (config : Config) (contents : Contents) (module : Descriptor) : Contents :=
  { api := contents.api ++ if config.generation.writeApi then [Contents.entry module] else []
    doc := contents.doc ++
      if config.generation.writeDoc && module.hasDoc then [Contents.entry module] else [] }

end Config

namespace Disk

/-- Writes a planned page and counts it. -/
def performPage (config : Config) (report : Report) (page : Planned) : Disk Error Report := do
  let report ← emit config report page.artifact
  return report.count page.kind

/-- Writes planned pages one after the other. -/
def perform (config : Config) (report : Report) (pages : List Planned) : Disk Error Report :=
  pages.foldlM (performPage config) report

/-- Whether there are hand-written pages, if the index that links the others is asked for. -/
def findHandWritten (config : Config) : Disk Error Bool :=
  if config.generation.writeIndex then
    ask? (·.hasHandWritten config.output.writtenDirectory config.output.indexFile)
  else pure false

/-! ### A run and its plan -/

variable {config : Config}

theorem writeModule_eq (progress : Progress) (module : Descriptor) :
    writeModule config progress module = do
      let report ← perform config progress.report (config.modulePages module)
      return { report, contents := config.collect progress.contents module } := by
  rw [writeModule, Config.modulePages, Config.collect, perform]
  cases config.generation.writeApi <;> cases config.generation.writeDoc && module.hasDoc <;>
    simp [writeApi, writeDoc, performPage, Config.apiPage, Config.docPage, Report.count,
      Contents.addApi, Contents.addDoc]

theorem foldlM_writeModule_eq (progress : Progress) (modules : List Descriptor) :
    modules.foldlM (writeModule config) progress = do
      let report ← perform config progress.report (modules.flatMap config.modulePages)
      return { report, contents := modules.foldl config.collect progress.contents } := by
  induction modules generalizing progress with
  | nil => simp [perform]
  | cons module rest ih =>
    rw [List.foldlM_cons, writeModule_eq, List.flatMap_cons, perform, perform,
      List.foldlM_append]
    simp only [bind_assoc, pure_bind, ih, perform, List.foldl_cons]

theorem foldl_collect (contents : Contents) (modules : List Descriptor) :
    modules.foldl config.collect contents =
      { api := contents.api ++
          if config.generation.writeApi then modules.map Contents.entry else []
        doc := contents.doc ++
          if config.generation.writeDoc then (modules.filter (·.hasDoc)).map Contents.entry
          else [] } := by
  induction modules generalizing contents with
  | nil => simp
  | cons module rest ih =>
    rw [List.foldl_cons, ih, Config.collect]
    cases config.generation.writeApi <;> cases config.generation.writeDoc <;>
      cases hdoc : module.hasDoc <;> simp [hdoc]

theorem writeIndices_eq (analysis : Analysis) (handWritten : Bool) (progress : Progress) :
    writeIndices config analysis handWritten progress =
      perform config progress.report
        (config.indexPages analysis handWritten progress.contents) := by
  rw [writeIndices, Config.indexPages, perform]
  cases config.generation.writeApi <;> cases config.generation.writeDoc <;>
    cases config.generation.writeIndex <;>
    simp [writeIndex, performPage, Config.indexPage, Report.count]

/-- The entries that are collected are those of the plan, as far as an index shows them. -/
theorem indexPages_collect (analysis : Analysis) (handWritten : Bool) :
    config.indexPages analysis handWritten (analysis.modules.foldl config.collect {}) =
      config.indexPages analysis handWritten (Config.indexed analysis) := by
  rw [foldl_collect]
  unfold Config.indexPages Config.indexed
  cases config.generation.writeApi <;> cases config.generation.writeDoc <;> simp

/-- A run makes its directories and writes its plan. -/
theorem generate_eq_perform (config : Config) (analysis : Analysis) :
    generate config analysis =
      (do
        let handWritten ← findHandWritten config
        makePageDirectories config
        perform config {} (config.plan analysis handWritten)) := by
  unfold generate findHandWritten Config.plan
  simp only [foldlM_writeModule_eq, writeIndices_eq, indexPages_collect, perform,
    List.foldlM_append, bind_assoc, pure_bind]
  split <;> rfl

end Disk

end DocStubs
