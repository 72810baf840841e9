import DocStubs.Proofs.Generate.Plan
import DocStubs.Proofs.Writing.Artifact

/-!
# Runs lose no content

Whatever a run does, it takes one step at a time, so every file stays a file. Its content is
another matter: a page replaces what is in its way, and only the backup keeps that. Content can be
lost in a single way. If a directory is in the way of a page, its copy may go to a directory that
was there already, but only with a mark that climbs; and the run then fails, because the directory
stays in the way.

## Main definitions

* `Disk.Harmless` — a run with a mark that does not climb, or without a directory in its way

## Main results

* `Disk.preserves_generate` — a harmless run loses no content
* `Disk.content_of_harmless_runs` — and neither do any number of them
-/

namespace DocStubs

open Relation

/-- The paths of the pages of a run. -/
def Config.pagePaths (config : Config) (analysis : Analysis) : List String :=
  (config.plan analysis false).map (·.artifact.path)

/-- What the pages are called does not depend on hand-written pages. -/
theorem Config.map_path_plan (config : Config) (analysis : Analysis) (handWritten : Bool) :
    (config.plan analysis handWritten).map (·.artifact.path) = config.pagePaths analysis := by
  unfold pagePaths plan indexPages
  cases config.generation.writeIndex <;> simp [indexPage]

namespace Disk

open FileTree

variable {config : Config} {analysis : Analysis} {before after : FileTree}

/-! ### One page after the other -/

theorem exec_perform_cons (report : Report) (page : Planned) (rest : List Planned)
    (tree : FileTree) :
    (perform config report (page :: rest)).exec tree =
      match (writeArtifact config.output.backupMark page.artifact).exec tree with
      | (.ok copied, after) =>
        (perform config ((report.add page.artifact.path copied).count page.kind) rest).exec after
      | (.error fault, after) => (.error fault, after) := by
  rw [perform]
  rw [List.foldlM_cons, performPage, emit, bind_assoc, bind_assoc, exec_bind]
  rcases (writeArtifact config.output.backupMark page.artifact).exec tree with
    ⟨_ | copied, after⟩ <;> rfl

theorem evolves_perform (config : Config) (report : Report) (pages : List Planned) :
    (perform config report pages).Respects True Evolves := by
  induction pages generalizing report with
  | nil => exact Respects.pure _
  | cons page rest ih =>
    intro tree _
    rw [exec_perform_cons]
    cases hexec : (writeArtifact config.output.backupMark page.artifact).exec tree with
    | mk answer middle =>
      have hpage := (wrote_writeArtifact hexec).evolves
      cases answer with
      | ok copied => exact hpage.trans (ih _ middle (Or.inl trivial))
      | error fault => exact hpage

/-- No content is lost while pages are written, unless a directory is in the way of one. -/
theorem preserves_perform {report : Report} {pages : List Planned} {answer : Except Error Report}
    (hwell : before.WellFormed) (h : (perform config report pages).exec before = (answer, after))
    (hsafe : Path.climbs config.output.backupMark = false ∨ answer.isOk = true ∨
      ∀ page ∈ pages, after.hasDirectory page.artifact.path = false) :
    before.Preserves after := by
  induction pages generalizing report before with
  | nil =>
    cases h
    exact Preserves.refl _
  | cons page rest ih =>
    rw [exec_perform_cons] at h
    cases hexec : (writeArtifact config.output.backupMark page.artifact).exec before with
    | mk copied middle =>
      have hwrote := wrote_writeArtifact hexec
      rw [hexec] at h
      cases copied with
      | ok copied =>
        have hpage := hwrote.preserves hwell (Or.inr hwrote.hasDirectory_eq_false)
        refine hpage.trans (ih (hwrote.evolves.wellFormed hwell) h ?_)
        exact hsafe.imp id (Or.imp id fun hrest other hother =>
          hrest other (List.mem_cons_of_mem _ hother))
      | error fault =>
        cases h
        refine hwrote.preserves hwell (hsafe.imp id fun hrest => ?_)
        rcases hrest with hok | hrest
        · cases hok
        · exact hrest page List.mem_cons_self

/-! ### A run -/

/-- Makes a directory if it is asked for. -/
def ensureIf (asked : Bool) (directory : String) : Disk Error Unit :=
  if asked then ensureDirectory directory else pure ()

theorem makePageDirectories_eq (config : Config) :
    makePageDirectories config =
      (do
        ensureIf config.generation.writeApi config.output.apiDirectory
        ensureIf config.generation.writeDoc config.output.docDirectory
        ensureIf config.generation.writeIndex config.output.source) := by
  rw [makePageDirectories, ensureIf]
  cases config.generation.writeApi <;> cases config.generation.writeDoc <;> rfl

theorem respects_ensureIf (asked : Bool) (directory : String) :
    (ensureIf asked directory).Respects True (ReflTransGen MakesDirectory) := by
  cases asked with
  | true => exact (respects_makeDirectories directory).onFault _
  | false => exact Respects.pure _

theorem respects_makePageDirectories (config : Config) :
    (makePageDirectories config).Respects True (ReflTransGen MakesDirectory) := by
  rw [makePageDirectories_eq]
  exact (respects_ensureIf _ _).bind fun _ =>
    (respects_ensureIf _ _).bind fun _ => respects_ensureIf _ _

theorem exec_findHandWritten (config : Config) (tree : FileTree) :
    ∃ answer, (findHandWritten config).exec tree = (answer, tree) := by
  rw [findHandWritten]
  split
  · exact ⟨_, exec_ask? _ tree⟩
  · exact ⟨_, rfl⟩

/-- What a run does: it fails before it writes, having at most made directories, or it writes its
plan. -/
theorem exec_generate_cases {answer : Except Error Report}
    (h : (generate config analysis).exec before = (answer, after)) :
    (ReflTransGen MakesDirectory before after ∧ ∃ fault, answer = .error fault) ∨
      ∃ handWritten start, (findHandWritten config).exec before = (.ok handWritten, before) ∧
        (makePageDirectories config).exec before = (.ok (), start) ∧
        (perform config {} (config.plan analysis handWritten)).exec start = (answer, after) := by
  rw [generate_eq_perform] at h
  obtain ⟨found, hfound⟩ := exec_findHandWritten config before
  cases found with
  | error fault =>
    rw [exec_bind_of_error _ hfound] at h
    cases h
    exact Or.inl ⟨ReflTransGen.refl, fault, rfl⟩
  | ok handWritten =>
    rw [exec_bind_of_ok _ hfound] at h
    cases hexec : (makePageDirectories config).exec before with
    | mk made start =>
      cases made with
      | error fault =>
        rw [exec_bind_of_error _ hexec] at h
        cases h
        exact Or.inl ⟨(respects_makePageDirectories config).of_exec hexec, fault, rfl⟩
      | ok _ =>
        rw [exec_bind_of_ok _ hexec] at h
        exact Or.inr ⟨handWritten, start, hfound, rfl, h⟩

theorem evolves_generate (config : Config) (analysis : Analysis) :
    (generate config analysis).Respects True Evolves := by
  intro tree _
  cases hexec : (generate config analysis).exec tree with
  | mk answer after =>
    rcases exec_generate_cases hexec with ⟨hmakes, -⟩ | ⟨handWritten, start, -, hmake, hperform⟩
    · exact evolves_of_makesDirectories hmakes
    · have hmakes := (respects_makePageDirectories config).of_exec hmake
      exact (evolves_of_makesDirectories hmakes).trans ((evolves_perform _ _ _).of_exec hperform)

/-! ### Runs that lose nothing -/

/-- A run that cannot lose content: its mark does not climb, or it succeeds, or it leaves no
directory in the way of its pages. -/
def Harmless (config : Config) (analysis : Analysis) (tree : FileTree) : Prop :=
  Path.climbs config.output.backupMark = false ∨
    ((generate config analysis).exec tree).1.isOk = true ∨
    ∀ path ∈ config.pagePaths analysis,
      ((generate config analysis).exec tree).2.hasDirectory path = false

theorem preserves_generate (hwell : before.WellFormed) (hsafe : Harmless config analysis before) :
    before.Preserves ((generate config analysis).exec before).2 := by
  rw [Harmless] at hsafe
  cases hexec : (generate config analysis).exec before with
  | mk answer after =>
    rw [hexec] at hsafe
    rcases exec_generate_cases hexec with ⟨hmakes, -⟩ | ⟨handWritten, start, -, hmake, hperform⟩
    · exact (extendsBy_of_makesDirectories hmakes).preserves
    · have hmakes := (respects_makePageDirectories config).of_exec hmake
      have hstart := (evolves_of_makesDirectories hmakes).wellFormed hwell
      refine (extendsBy_of_makesDirectories hmakes).preserves.trans
        (preserves_perform hstart hperform (hsafe.imp id (Or.imp id fun hpaths page hpage => ?_)))
      refine hpaths _ ?_
      rw [← config.map_path_plan analysis handWritten]
      exact List.mem_map_of_mem hpage

/-- A harmless run leads from a tree to another one. -/
def HarmlessRun (before after : FileTree) : Prop :=
  ∃ config analysis, Harmless config analysis before ∧
    after = ((generate config analysis).exec before).2

theorem preserves_of_harmlessRuns (hwell : before.WellFormed)
    (h : ReflTransGen HarmlessRun before after) : after.WellFormed ∧ before.Preserves after := by
  induction h with
  | refl => exact ⟨hwell, Preserves.refl before⟩
  | tail _ hrun ih =>
    obtain ⟨hwell', hpreserves⟩ := ih
    obtain ⟨config, analysis, hsafe, rfl⟩ := hrun
    exact ⟨(evolves_generate config analysis _ (Or.inl trivial)).wellFormed hwell',
      hpreserves.trans (preserves_generate hwell' hsafe)⟩

/-- After any number of harmless runs, successful or not, every path to a file leads to a file,
every file is a file where it was, and what a file held some file holds. -/
theorem content_of_harmless_runs (hwell : before.WellFormed)
    (h : ReflTransGen HarmlessRun before after) :
    (∀ path, before.hasFile path = true → after.hasFile path = true) ∧
      (∀ place content, before.node? place = some (.file content) →
        ∃ content', after.node? place = some (.file content')) ∧
      ∀ content, (∃ place, before.node? place = some (.file content)) →
        ∃ place, after.node? place = some (.file content) := by
  obtain ⟨-, hpreserves⟩ := preserves_of_harmlessRuns hwell h
  refine ⟨fun path hpath => hpreserves.grows.hasFile hpath,
    fun place content hplace => hpreserves.grows.file hplace, ?_⟩
  rintro content ⟨place, hplace⟩
  exact hpreserves.content hplace

/-- A tree in which the index is a link to a file elsewhere. -/
def linkedTree : FileTree :=
  { entries := [(["page"], .file "mine".toUTF8), (["s"], .directory),
      (["s", "index.rst"], .link "../page"), (["s", "index.rst.bak0"], .link "nowhere")] }

/-- A run that writes the index only. -/
def indexOnly (mark : String) : Config :=
  { output := { source := "s", backupMark := mark }
    generation := { writeApi := false, writeDoc := false, writeIndex := true } }

/-- What the link led to is kept through two runs. -/
theorem content_behind_link :
    linkedTree.WellFormed ∧ Path.climbs ".bak" = false ∧
      ∃ place, ((generate (indexOnly ".bak") { package := "q" }).exec
        ((generate (indexOnly ".bak") { package := "p" }).exec linkedTree).2).2.node? place =
          some (.file "mine".toUTF8) := by
  have hwell : linkedTree.WellFormed := by decide +kernel
  have hclimbs : Path.climbs ".bak" = false := by decide +kernel
  have hrun : ∀ package tree,
      HarmlessRun tree ((generate (indexOnly ".bak") { package }).exec tree).2 :=
    fun package tree => ⟨_, _, Or.inl hclimbs, rfl⟩
  have hruns := (ReflTransGen.single (hrun "p" linkedTree)).tail (hrun "q" _)
  exact ⟨hwell, hclimbs, (content_of_harmless_runs hwell hruns).2.2 _ ⟨["page"], rfl⟩⟩

/-- A tree in which a directory is in the way of the index. -/
def blockedTree : FileTree :=
  { entries := [(["s"], .directory), (["s", "index.rst"], .directory),
      (["s", "index.rst", "f"], .file "mine".toUTF8), (["s", "x0"], .directory),
      (["s", "x0", "f"], .file "old".toUTF8)] }

/-- A run with a mark that climbs, and with a directory in its way, can lose content: nothing is at
`s/index.rst.new/../x0` until `s/index.rst.new` is made, and then a directory is there. -/
theorem content_lost_by_climbing_mark :
    blockedTree.WellFormed ∧ blockedTree.node? ["s", "x0", "f"] = some (.file "old".toUTF8) ∧
      ∀ place, ((generate (indexOnly ".new/../x") { package := "p" }).exec
        blockedTree).2.node? place ≠ some (.file "old".toUTF8) := by
  refine ⟨by decide +kernel, rfl, fun place hplace => ?_⟩
  have hne : place ≠ [] := by
    rintro rfl
    cases hplace
  have hgone : ∀ entry ∈ ((generate (indexOnly ".new/../x") { package := "p" }).exec
      blockedTree).2.entries, entry.2 ≠ .file "old".toUTF8 := by
    decide +kernel
  exact hgone _ (mem_of_node? hplace hne) rfl

end Disk

end DocStubs
