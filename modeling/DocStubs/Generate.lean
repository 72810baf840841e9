import DocStubs.Page
import DocStubs.Source
import DocStubs.Writing

/-!
# Generating pages

A run first makes sure that hand-written pages have an index, then makes directories, then writes
the pages of the modules one by one, and last the indices. The first failure ends the run, and
what is written by then stays.

## Main definitions

* `Output.apiDirectory`, `Output.docDirectory`, `Output.writtenDirectory` — where pages go
* `Report` — what a run has written
* `Disk.generate` — a run
-/

namespace DocStubs

namespace Output

/-- The directory of the pages that list members. -/
def apiDirectory (output : Output) : String := Path.join output.source output.apipath

/-- The directory of the pages that show documentation. -/
def docDirectory (output : Output) : String := Path.join output.source output.docpath

/-- The directory of the hand-written pages. -/
def writtenDirectory (output : Output) : String := Path.join output.source output.writtenpath

/-- The file name of an index. -/
def indexFile (output : Output) : String := "index." ++ output.extension

/-- The path of the index of a directory. -/
def indexPath (output : Output) (directory : String) : String :=
  Path.join directory output.indexFile

/-- The path of a page of a module in a directory. -/
def pagePath (output : Output) (directory : String) (module : Descriptor) : String :=
  Path.join directory (module.stem ++ "." ++ output.extension)

end Output

/-- What a run has written. -/
structure Report where
  apiPages : Nat := 0
  docPages : Nat := 0
  indexPages : Nat := 0
  /-- The paths of all pages, in the order they were written. -/
  written : List String := []
  /-- The paths of all backups, in the order they were made. -/
  backups : List String := []
  deriving DecidableEq, Repr, Inhabited

namespace Report

/-- Adds a page with the backup that was made for it. -/
def add (report : Report) (path : String) (backup : Option String) : Report :=
  { report with
    written := report.written ++ [path]
    backups := report.backups ++ backup.toList }

/-- Counts a page that lists members. -/
def countApi (report : Report) : Report := { report with apiPages := report.apiPages + 1 }

/-- Counts a page that shows documentation. -/
def countDoc (report : Report) : Report := { report with docPages := report.docPages + 1 }

/-- Counts an index. -/
def countIndex (report : Report) : Report := { report with indexPages := report.indexPages + 1 }

/-- A line about a run. -/
def summary (report : Report) : String :=
  "Generated " ++ toString report.apiPages ++ " API pages, " ++ toString report.docPages ++
    " doc pages, " ++ toString report.indexPages ++ " index pages, " ++
    toString report.backups.length ++ " backups"

end Report

/-- A run between two pages: what it has written, and the entries of the indices so far. -/
structure Progress where
  report : Report := {}
  contents : Contents := {}
  deriving DecidableEq, Repr, Inhabited

namespace Config

/-- What happens to something that is in the way of a page. -/
def pagePolicy (config : Config) : Policy :=
  if config.generation.overwrite then .backup else .reject

end Config

namespace Disk

/-- Writes a page. -/
def emit (config : Config) (report : Report) (artifact : Artifact) : Disk Error Report := do
  let copied ← writeArtifact config.output.backupMark artifact
  return report.add artifact.path copied

/-- Makes the directories of the pages that are asked for. -/
def makePageDirectories (config : Config) : Disk Error Unit := do
  if config.generation.writeApi then ensureDirectory config.output.apiDirectory
  if config.generation.writeDoc then ensureDirectory config.output.docDirectory
  if config.generation.writeIndex then ensureDirectory config.output.source

/-- Writes the page that lists the members of a module. -/
def writeApi (config : Config) (progress : Progress) (module : Descriptor) :
    Disk Error Progress := do
  let report ← emit config progress.report
    { path := config.output.pagePath config.output.apiDirectory module
      content := Page.api module
      policy := config.pagePolicy }
  return { report := report.countApi, contents := progress.contents.addApi module }

/-- Writes the page that shows the documentation of a module. -/
def writeDoc (config : Config) (progress : Progress) (module : Descriptor) :
    Disk Error Progress := do
  let report ← emit config progress.report
    { path := config.output.pagePath config.output.docDirectory module
      content := Page.doc module
      policy := config.pagePolicy }
  return { report := report.countDoc, contents := progress.contents.addDoc module }

/-- Writes the pages of a module. -/
def writeModule (config : Config) (progress : Progress) (module : Descriptor) :
    Disk Error Progress := do
  let progress ←
    if config.generation.writeApi then writeApi config progress module else pure progress
  if config.generation.writeDoc && module.hasDoc then writeDoc config progress module
  else return progress

/-- Writes an index. -/
def writeIndex (config : Config) (report : Report) (directory content : String)
    (policy : Policy) : Disk Error Report := do
  let report ← emit config report
    { path := config.output.indexPath directory, content, policy }
  return report.countIndex

/-- The index that links the others. -/
def rootIndex (config : Config) (analysis : Analysis) (handWritten : Bool) : RootIndex :=
  { package := analysis.package
    apipath := config.output.apipath
    docpath := if config.generation.writeDoc then some config.output.docpath else none
    writtenpath := if handWritten then some config.output.writtenpath else none }

/-- Writes the indices. What is in the way of the index that links the others is always backed
up. -/
def writeIndices (config : Config) (analysis : Analysis) (handWritten : Bool)
    (progress : Progress) : Disk Error Report := do
  let report := progress.report
  let report ←
    if config.generation.writeApi then
      writeIndex config report config.output.apiDirectory
        (Page.apiIndex progress.contents.api) config.pagePolicy
    else pure report
  let report ←
    if config.generation.writeDoc then
      writeIndex config report config.output.docDirectory
        (Page.docIndex progress.contents.doc) config.pagePolicy
    else pure report
  if config.generation.writeIndex then
    writeIndex config report config.output.source
      (Page.root (rootIndex config analysis handWritten)) .backup
  else return report

/-- Writes all pages that are asked for. -/
def generate (config : Config) (analysis : Analysis) : Disk Error Report := do
  let handWritten ←
    if config.generation.writeIndex then
      ask? (·.hasHandWritten config.output.writtenDirectory config.output.indexFile)
    else pure false
  makePageDirectories config
  let progress ← analysis.modules.foldlM (writeModule config) {}
  writeIndices config analysis handWritten progress

end Disk

end DocStubs
