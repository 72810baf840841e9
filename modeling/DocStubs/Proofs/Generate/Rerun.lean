import DocStubs.Proofs.Generate.Clash
import DocStubs.Proofs.Writing.Numbered

/-!
# Running again

A run that is repeated with the same analysis, and that may overwrite, finds each of its pages in
place. It writes the same text over each of them and before that copies it to the next free number,
so all that it does is to add one backup for each page. This needs two things that are not a
matter of course. Backups have longer names than pages and may be too long for the file system. And
a backup may come to be where hand-written pages are looked for, so that the run after it takes it
for their directory and fails.

## Main definitions

* `Config.overwriting` — a configuration for running again
* `Disk.InPlace`, `Disk.Settled` — pages hold their own texts, and directories are there
* `Disk.BackedUp` — pages got a backup each, and nothing else has changed
* `Disk.rerun` — the tree after a number of further runs

## Main results

* `Disk.InPlace.exec_perform`, `Disk.InPlace.fits_of_exec_perform` — pages that are in place get
  backups, and this succeeds exactly if the backups keep to the limits
* `Disk.Settled.rerun` — pages stay in place through any number of further runs
* `Disk.reruns_add_backups` — what each further run does
-/

namespace DocStubs

open Relation

/-- The configuration for running again: what is in the way of a page is backed up and replaced. -/
def Config.overwriting (config : Config) : Config :=
  { config with generation := { config.generation with overwrite := true } }

/-- A planned page that replaces what is in its way. -/
def Planned.overwriting (page : Planned) : Planned :=
  { page with artifact := { page.artifact with policy := .backup } }

namespace Config

variable {config : Config} {analysis : Analysis} {handWritten : Bool} {page : Planned}

@[simp] theorem output_overwriting (config : Config) :
    config.overwriting.output = config.output := rfl

@[simp] theorem writeApi_overwriting (config : Config) :
    config.overwriting.generation.writeApi = config.generation.writeApi := rfl

@[simp] theorem writeDoc_overwriting (config : Config) :
    config.overwriting.generation.writeDoc = config.generation.writeDoc := rfl

@[simp] theorem writeIndex_overwriting (config : Config) :
    config.overwriting.generation.writeIndex = config.generation.writeIndex := rfl

@[simp] theorem pagePolicy_overwriting (config : Config) :
    config.overwriting.pagePolicy = .backup := rfl

theorem modulePages_overwriting (config : Config) (module : Descriptor) :
    config.overwriting.modulePages module =
      (config.modulePages module).map Planned.overwriting := by
  have hapi : config.overwriting.apiPage module = (config.apiPage module).overwriting := by
    simp [apiPage, Planned.overwriting]
  have hdoc : config.overwriting.docPage module = (config.docPage module).overwriting := by
    simp [docPage, Planned.overwriting]
  simp only [modulePages, hapi, hdoc, writeApi_overwriting, writeDoc_overwriting, List.map_append,
    apply_ite (List.map Planned.overwriting), List.map_cons, List.map_nil]

theorem indexPages_overwriting (config : Config) (analysis : Analysis) (handWritten : Bool)
    (contents : Contents) :
    config.overwriting.indexPages analysis handWritten contents =
      (config.indexPages analysis handWritten contents).map Planned.overwriting := by
  have hroot : Disk.rootIndex config.overwriting analysis handWritten =
      Disk.rootIndex config analysis handWritten := rfl
  have hindex (directory content : String) (policy : Policy) :
      config.overwriting.indexPage directory content .backup =
        (config.indexPage directory content policy).overwriting := by
    simp [indexPage, Planned.overwriting]
  simp only [indexPages, hroot, output_overwriting, pagePolicy_overwriting, writeApi_overwriting,
    writeDoc_overwriting, writeIndex_overwriting, List.map_append,
    apply_ite (List.map Planned.overwriting), List.map_cons, List.map_nil, ← hindex]
  rfl

/-- The same pages are planned, but all of them replace what is in their way. -/
theorem plan_overwriting (config : Config) (analysis : Analysis) (handWritten : Bool) :
    config.overwriting.plan analysis handWritten =
      (config.plan analysis handWritten).map Planned.overwriting := by
  have hmodules : config.overwriting.modulePages =
      fun module => (config.modulePages module).map Planned.overwriting :=
    funext (modulePages_overwriting config)
  rw [plan, plan, List.map_append, List.map_flatMap, indexPages_overwriting, hmodules]

theorem pagePaths_overwriting (config : Config) (analysis : Analysis) :
    config.overwriting.pagePaths analysis = config.pagePaths analysis := by
  rw [pagePaths, pagePaths, plan_overwriting, List.map_map]
  rfl

/-- All pages end in a dot and the extension. -/
theorem exists_start_of_mem_plan (h : page ∈ config.plan analysis handWritten) :
    ∃ start, page.artifact.path = start ++ ("." ++ config.output.extension) := by
  obtain ⟨directory, file, hsits⟩ := exists_sits_of_mem_plan h
  obtain ⟨before, hjoin⟩ := Path.exists_join_eq_append (config.output.directory directory) file
  have hfile : ∃ stem, file = stem ++ ("." ++ config.output.extension) := by
    cases hsits with
    | api given | doc given => exact ⟨_, String.append_assoc⟩
    | apiIndex | docIndex | root => exact ⟨"index", by rw [← String.append_assoc]; rfl⟩
  obtain ⟨stem, rfl⟩ := hfile
  exact ⟨before ++ stem, by rw [hsits.path_eq, hjoin, String.append_assoc]⟩

end Config

namespace Disk

open FileTree

variable {config : Config} {analysis : Analysis} {report : Report} {pages : List Planned}
  {mark ending path : String} {before now next after : FileTree}

/-! ### Pages that are in place -/

/-- Pages hold their own texts, and no two of them are the same file. -/
structure InPlace (pages : List Planned) (tree : FileTree) : Prop where
  linkFree : tree.LinkFree
  read : ∀ page ∈ pages, tree.read page.artifact.path = .ok page.artifact.content.toUTF8
  apart : pages.Pairwise fun page other =>
    tree.placeOf page.artifact.path ≠ tree.placeOf other.artifact.path

/-- Pages are in place once they were written, if they are different files. -/
theorem inPlace_of_exec_perform {report' : Report} (hfree : before.LinkFree)
    (h : (perform config report pages).exec before = (.ok report', after))
    (hdistinct : pages.Pairwise fun page other =>
      after.sameFile page.artifact.path other.artifact.path = false) : InPlace pages after := by
  have hevolves := (evolves_perform _ _ _).of_exec h
  have hapart : pages.Pairwise fun page other =>
      before.placeOf page.artifact.path ≠ before.placeOf other.artifact.path := by
    refine hdistinct.imp_of_mem fun {page other} hpage hother hsame => ?_
    obtain ⟨content, hlookup⟩ := lookup_page hfree h hpage
    rw [sameFile_of_lookup hlookup, denotes_page hfree h hother, decide_eq_false_iff_not] at hsame
    exact Ne.symm hsame
  refine ⟨hfree.evolves hevolves, fun page hpage => ?_, ?_⟩
  · -- What a page holds is the text of a page in the same place, and there is no other.
    obtain ⟨last, hlast, hsame, hread⟩ := exists_page_of_read hfree h hpage
    rw [hread, List.inj_on_of_nodup_map (List.pairwise_map.mpr hapart) hlast hpage hsame]
  · simpa only [hevolves.grows.placeOf_eq] using hapart

theorem InPlace.overwriting (h : InPlace pages now) :
    InPlace (pages.map Planned.overwriting) now := by
  refine ⟨h.linkFree, fun page hpage => ?_, List.pairwise_map.mpr h.apart⟩
  obtain ⟨other, hother, rfl⟩ := List.mem_map.mp hpage
  exact h.read other hother

/-- Pages stay in place while files are left as they are. -/
theorem InPlace.kept (h : InPlace pages now) (hevolves : now.Evolves next)
    (hread : ∀ path content, now.read path = .ok content → next.read path = .ok content) :
    InPlace pages next := by
  refine ⟨h.linkFree.evolves hevolves, fun page hpage => hread _ _ (h.read page hpage), ?_⟩
  simpa only [hevolves.grows.placeOf_eq] using h.apart

/-- Pages that replace what is in their way, whose paths end alike and with a dot in the ending,
and a mark that keeps backups beside them. -/
structure Renewable (mark ending : String) (pages : List Planned) : Prop where
  mark : '/' ∉ mark.toList
  dot : '.' ∈ ending.toList
  ending : ∀ page ∈ pages, ∃ start, page.artifact.path = start ++ ending
  policy : ∀ page ∈ pages, page.artifact.policy = .backup

theorem Renewable.tail {page : Planned} (h : Renewable mark ending (page :: pages)) :
    Renewable mark ending pages :=
  ⟨h.mark, h.dot, fun other hother => h.ending other (List.mem_cons_of_mem _ hother),
    fun other hother => h.policy other (List.mem_cons_of_mem _ hother)⟩

theorem InPlace.endsInSlash {page : Planned} (h : InPlace pages now) (hpage : page ∈ pages) :
    Path.endsInSlash page.artifact.path = false := by
  obtain ⟨place, hlookup⟩ := read_eq_ok_iff.mp (h.read page hpage)
  exact endsInSlash_of_lookup_file hlookup

/-- Backups of pages in different places do not meet. -/
theorem InPlace.placeOf_backupPath_ne {page other : Planned} (h : InPlace pages now)
    (hrenew : Renewable mark ending pages) (hpage : page ∈ pages) (hother : other ∈ pages)
    (hne : now.placeOf page.artifact.path ≠ now.placeOf other.artifact.path)
    (number number' : Nat) :
    now.placeOf (backupPath mark page.artifact.path number) ≠
      now.placeOf (backupPath mark other.artifact.path number') := by
  intro hmeet
  have hslash := h.endsInSlash hpage
  have hslash' := h.endsInSlash hother
  obtain ⟨start, hstart⟩ := hrenew.ending page hpage
  obtain ⟨start', hstart'⟩ := hrenew.ending other hother
  rw [hstart] at hmeet hslash hne
  rw [hstart'] at hmeet hslash' hne
  exact hne (placeOf_eq_of_backups_meet hrenew.dot hrenew.mark hslash hslash' hmeet)

/-- So their backups are different files. -/
theorem InPlace.nodup_backups (h : InPlace pages now) (hrenew : Renewable mark ending pages) :
    (pages.map fun page => backupTarget mark now page.artifact.path).Nodup := by
  refine List.pairwise_map.mpr (h.apart.imp_of_mem fun {page other} hpage hother hne heq => ?_)
  exact h.placeOf_backupPath_ne hrenew hpage hother hne _ _ (congrArg now.placeOf heq)

/-- Pages got a backup each, and nothing else has changed. -/
structure BackedUp (mark : String) (pages : List Planned) (now next : FileTree) : Prop where
  evolves : now.Evolves next
  kept : ∀ place node, now.node? place = some node → next.node? place = some node
  backups : ∀ page ∈ pages, next.read (backupTarget mark now page.artifact.path) =
    .ok page.artifact.content.toUTF8
  others : ∀ place,
    (∀ page ∈ pages, now.placeOf (backupTarget mark now page.artifact.path) ≠ place) →
    next.node? place = now.node? place

namespace BackedUp

theorem nil (mark : String) (now : FileTree) : BackedUp mark [] now now :=
  ⟨ReflTransGen.refl, fun _ _ => id, nofun, fun _ _ => rfl⟩

theorem read (h : BackedUp mark pages now next) {content : ByteArray}
    (hread : now.read path = .ok content) : next.read path = .ok content := by
  obtain ⟨place, hlookup⟩ := read_eq_ok_iff.mp hread
  exact (Destination.of_lookup hlookup).read h.evolves.grows
    (h.kept _ _ (node?_of_lookup_file hlookup))

/-- A place that no backup leads to is as it was. -/
theorem node?_of_not_denotes {place : Place} (h : BackedUp mark pages now next)
    (hfree : now.LinkFree) (hplace : ∀ page ∈ pages,
      next.denotes (backupTarget mark now page.artifact.path) place = false) :
    next.node? place = now.node? place := by
  refine h.others place fun page hpage hsame => ?_
  obtain ⟨other, hlookup⟩ := read_eq_ok_iff.mp (h.backups page hpage)
  have hother := (hfree.evolves h.evolves).place_eq hlookup
  have hdenotes := hplace page hpage
  rw [denotes_of_lookup hlookup, hother, h.evolves.grows.placeOf_eq, decide_eq_false_iff_not]
    at hdenotes
  exact hdenotes hsame

/-- A page gets its backup before the others, whose backups go where they would have gone. -/
theorem cons {page : Planned} {middle : FileTree}
    (hadds : AddsFile (now.placeOf (backupTarget mark now page.artifact.path))
      page.artifact.content.toUTF8 now middle)
    (hread : middle.read (backupTarget mark now page.artifact.path) =
      .ok page.artifact.content.toUTF8)
    (hsame : ∀ other ∈ pages, backupTarget mark middle other.artifact.path =
      backupTarget mark now other.artifact.path)
    (h : BackedUp mark pages middle next) : BackedUp mark (page :: pages) now next := by
  refine ⟨hadds.evolves.trans h.evolves, fun place node hnode => h.kept _ _ (hadds.kept hnode),
    fun other hother => ?_, fun place hplace => ?_⟩
  · rcases List.mem_cons.mp hother with rfl | hother
    · exact h.read hread
    · rw [← hsame other hother]
      exact h.backups other hother
  · obtain ⟨hpage, hpages⟩ := List.forall_mem_cons.mp hplace
    rw [h.others place fun other hother => ?_, hadds.node?, if_neg hpage.symm]
    rw [hsame other hother, hadds.evolves.grows.placeOf_eq]
    exact hpages other hother

end BackedUp

/-- The first of the pages that are in place gets its backup. The others stay in place, and their
backups go where they would have gone. -/
theorem InPlace.exec_writeArtifact {page : Planned} (h : InPlace (page :: pages) now)
    (hrenew : Renewable mark ending (page :: pages))
    (hfits : Fits (backupTarget mark now page.artifact.path)) :
    ∃ middle, (writeArtifact mark page.artifact).exec now =
        (.ok (some (backupTarget mark now page.artifact.path)), middle) ∧
      AddsFile (now.placeOf (backupTarget mark now page.artifact.path))
        page.artifact.content.toUTF8 now middle ∧
      middle.read (backupTarget mark now page.artifact.path) =
        .ok page.artifact.content.toUTF8 ∧
      (∀ other ∈ pages, backupTarget mark middle other.artifact.path =
        backupTarget mark now other.artifact.path) ∧
      InPlace pages middle := by
  have hne : ending ≠ "" := by
    rintro rfl
    simpa using hrenew.dot
  obtain ⟨hapart, hrest⟩ := List.pairwise_cons.mp h.apart
  obtain ⟨start, hstart⟩ := hrenew.ending page List.mem_cons_self
  obtain ⟨middle, hexec, hadds, hbackup⟩ := exec_writeArtifact_again h.linkFree hne hrenew.mark
    hstart (hrenew.policy page List.mem_cons_self) (h.read page List.mem_cons_self) hfits
  have htail : InPlace pages now :=
    ⟨h.linkFree, fun other hother => h.read other (List.mem_cons_of_mem _ hother), hrest⟩
  refine ⟨middle, hexec, hadds, hbackup, fun other hother => ?_,
    htail.kept hadds.evolves fun _ _ => hadds.read⟩
  exact backupTarget_of_addsFile h.linkFree hadds (h.placeOf_backupPath_ne hrenew
    List.mem_cons_self (List.mem_cons_of_mem _ hother) (hapart other hother))

/-- If pages are in place, writing them again adds their backups only. It succeeds if all of these
keep to the limits. -/
theorem InPlace.exec_perform (hplace : InPlace pages now)
    (hrenew : Renewable config.output.backupMark ending pages)
    (hfits : ∀ page ∈ pages,
      Fits (backupTarget config.output.backupMark now page.artifact.path)) (report : Report) :
    ∃ report' next, (perform config report pages).exec now = (.ok report', next) ∧
      report'.backups = report.backups ++
        pages.map (fun page => backupTarget config.output.backupMark now page.artifact.path) ∧
      BackedUp config.output.backupMark pages now next := by
  induction pages generalizing report now with
  | nil => exact ⟨report, now, rfl, (List.append_nil _).symm, .nil _ now⟩
  | cons page rest ih =>
    obtain ⟨middle, hexec, hadds, hbackup, hsame, hplace'⟩ := hplace.exec_writeArtifact hrenew
      (hfits page List.mem_cons_self)
    obtain ⟨report', next, hperform, hbackups, hbacked⟩ := ih hplace' hrenew.tail
      (fun other hother => hsame other hother ▸ hfits other (List.mem_cons_of_mem _ hother))
      ((report.add page.artifact.path
        (some (backupTarget config.output.backupMark now page.artifact.path))).count page.kind)
    refine ⟨report', next, ?_, ?_, .cons hadds hbackup hsame hbacked⟩
    · rw [exec_perform_cons, hexec]
      exact hperform
    · rw [hbackups, List.map_congr_left hsame]
      cases page.kind <;> simp [Report.count, Report.countApi, Report.countDoc,
        Report.countIndex, Report.add]

/-- It succeeds only then. -/
theorem InPlace.fits_of_exec_perform {report' : Report} (hplace : InPlace pages now)
    (hrenew : Renewable config.output.backupMark ending pages)
    (h : (perform config report pages).exec now = (.ok report', next)) :
    ∀ page ∈ pages, Fits (backupTarget config.output.backupMark now page.artifact.path) := by
  induction pages generalizing report now with
  | nil => exact List.forall_mem_nil _
  | cons page rest ih =>
    obtain ⟨middle, hwrote, hmiddle, hrest⟩ := exec_perform_cons_eq_ok h
    obtain ⟨place, hlookup⟩ := read_eq_ok_iff.mp (hplace.read page List.mem_cons_self)
    have hthere : now.hasPath page.artifact.path = true := hasPath_iff.mpr ⟨_, _, hlookup⟩
    have hfits : Fits (backupTarget config.output.backupMark now page.artifact.path) := by
      obtain ⟨-, -, -, ⟨hfree, -⟩ | ⟨other, old, -, -, hcopied, -⟩⟩ := hwrote.node?_cases
      · rw [hthere] at hfree
        cases hfree
      · exact hplace.linkFree.fits_of_destination hcopied
    obtain ⟨middle', hexec, -, -, hsame, hplace'⟩ := hplace.exec_writeArtifact hrenew hfits
    obtain rfl : middle = middle' := hmiddle.trans (congrArg Prod.snd hexec)
    refine List.forall_mem_cons.mpr ⟨hfits, fun other hother => ?_⟩
    rw [← hsame other hother]
    exact ih hplace' hrenew.tail hrest other hother

/-! ### Directories that are there -/

/-- Nothing is made where a directory is. -/
theorem exec_makeDirectories_of_hasDirectory (hfree : now.LinkFree)
    (h : path = "" ∨ now.hasDirectory path = true) :
    (makeDirectories path).exec now = (.ok (), now) := by
  rw [makeDirectories, makeDirectoriesFrom]
  rcases h with rfl | h
  · rfl
  obtain ⟨place, hlookup⟩ := hasDirectory_iff.mp h
  have hmake : (makeDirectory path).exec now = (.error .alreadyExists, now) := by
    rw [makeDirectory]
    rw [exec_bind, exec_ask?, hfree.lookup_make hlookup]
    rfl
  have htry : (tryDirectory path).exec now = (.ok false, now) := by
    rw [tryDirectory]
    rw [exec_tryCatch, exec_bind_of_error _ hmake]
    dsimp only
    rw [if_neg (by decide), exec_bind_of_ok _ (exec_ask _ _), if_pos h]
    rfl
  split
  · rfl
  · rw [exec_bind_of_ok _ htry]
    rfl

/-- A directory that was made is there. -/
theorem hasDirectory_of_exec_makeDirectories
    (h : (makeDirectories path).exec before = (.ok (), after)) :
    path = "" ∨ after.hasDirectory path = true := by
  by_cases hpath : path = ""
  · exact Or.inl hpath
  have htried : ∃ middle, (tryDirectory path).exec middle = (.ok false, after) := by
    rcases exec_makeDirectoriesFrom_succ hpath h with htry | ⟨_, middle, -, -, -, htry⟩
    · exact ⟨before, htry⟩
    · exact ⟨middle, htry⟩
  obtain ⟨middle, htry⟩ := htried
  obtain ⟨husable, _, found, left, -, henters, -⟩ := exec_tryDirectory_eq_false htry
  have hgrows := (evolves_of_makesDirectories ((respects_tryDirectory path).of_exec htry)).grows
  rw [← hgrows.origin_eq] at henters
  exact Or.inr (hasDirectory_iff.mpr
    ⟨found.place, lookup_eq_ok_iff.mpr ⟨husable, henters.leads _⟩⟩)

/-- The directories that a run makes are there. -/
def HasDirectories (config : Config) (tree : FileTree) : Prop :=
  ∀ directory, config.makes directory = true → config.output.directory directory = "" ∨
    tree.hasDirectory (config.output.directory directory) = true

theorem HasDirectories.grows (h : HasDirectories config now) (hgrows : now.Grows next) :
    HasDirectories config next :=
  fun directory hmakes => (h directory hmakes).imp_right (Grows.hasDirectory hgrows)

/-- The directories of a run are there once they were made. -/
theorem hasDirectories_of_exec (h : (makePageDirectories config).exec before = (.ok (), after)) :
    HasDirectories config after := by
  intro directory hmakes
  have hensure {directory : PageDirectory} {before after : FileTree}
      (hmakes : config.makes directory = true)
      (h : (ensureIf (config.makes directory) (config.output.directory directory)).exec before =
        (.ok (), after)) :
      config.output.directory directory = "" ∨
        after.hasDirectory (config.output.directory directory) = true := by
    rw [ensureIf, if_pos hmakes, ensureDirectory] at h
    exact hasDirectory_of_exec_makeDirectories (exec_eq_ok_of_onFault h)
  have hgrows {asked : Bool} {path : String} {before after : FileTree}
      (h : (ensureIf asked path).exec before = (.ok (), after)) : before.Grows after :=
    (evolves_of_makesDirectories ((respects_ensureIf asked path).of_exec h)).grows
  rw [makePageDirectories_eq] at h
  obtain ⟨_, first, hapi, h⟩ := exec_bind_eq_ok h
  obtain ⟨_, second, hdoc, hroot⟩ := exec_bind_eq_ok h
  cases directory with
  | api =>
    exact (hensure hmakes hapi).imp_right
      (Grows.hasDirectory ((hgrows hdoc).trans (hgrows hroot)))
  | doc => exact (hensure hmakes hdoc).imp_right (Grows.hasDirectory (hgrows hroot))
  | root => exact hensure hmakes hroot

/-- Nothing is made if the directories of a run are there. -/
theorem HasDirectories.exec_makePageDirectories (h : HasDirectories config now)
    (hfree : now.LinkFree) : (makePageDirectories config).exec now = (.ok (), now) := by
  have hensure (directory : PageDirectory) :
      (ensureIf (config.makes directory) (config.output.directory directory)).exec now =
        (.ok (), now) := by
    rw [ensureIf]
    split
    · rename_i hmakes
      rw [ensureDirectory, exec_onFault,
        exec_makeDirectories_of_hasDirectory hfree (h directory hmakes)]
      rfl
    · rfl
  rw [makePageDirectories_eq]
  exact (exec_bind_of_ok _ (hensure .api)).trans
    ((exec_bind_of_ok _ (hensure .doc)).trans (hensure .root))

/-! ### Hand-written pages -/

/-- The answer to whether there are hand-written pages stays the same while a tree grows, unless
their directory comes to be. -/
theorem hasHandWritten_of_grows {directory index : String} {handWritten : Bool}
    (hgrows : before.Grows now)
    (hwritten : before.hasPath directory = true ∨ now.hasPath directory = false)
    (h : before.hasHandWritten directory index = .ok handWritten) :
    now.hasHandWritten directory index = .ok handWritten := by
  cases hbefore : before.hasPath directory with
  | false =>
    have hnow : now.hasPath directory = false := by simpa [hbefore] using hwritten
    obtain rfl : false = handWritten := by simpa [hasHandWritten, hbefore] using h
    simp [hasHandWritten, hnow]
  | true =>
    obtain ⟨hfile, rfl⟩ : before.hasFile (Path.join directory index) = true ∧
        true = handWritten := by
      simpa [hasHandWritten, hbefore, apply_ite, ite_eq_iff] using h
    simp [hasHandWritten, hgrows.hasPath hbefore, hgrows.hasFile hfile]

theorem exec_findHandWritten_of_grows {handWritten : Bool} (hgrows : before.Grows now)
    (hwritten : config.generation.writeIndex = true →
      before.hasPath config.output.writtenDirectory = true ∨
        now.hasPath config.output.writtenDirectory = false)
    (h : (findHandWritten config).exec before = (.ok handWritten, before)) :
    (findHandWritten config).exec now = (.ok handWritten, now) := by
  rw [findHandWritten] at h ⊢
  split at h
  · rename_i hindex
    rw [exec_ask?] at h
    rw [if_pos hindex, exec_ask?,
      hasHandWritten_of_grows hgrows (hwritten hindex) (congrArg Prod.fst h)]
  · rename_i hindex
    cases h
    rw [if_neg hindex]
    rfl

/-! ### Running again -/

theorem renewable_plan_overwriting {handWritten : Bool}
    (hmark : '/' ∉ config.output.backupMark.toList) :
    Renewable config.output.backupMark ("." ++ config.output.extension)
      (config.overwriting.plan analysis handWritten) := by
  refine ⟨hmark, by simp, fun page hpage => ?_, fun page hpage => ?_⟩
  · exact @Config.exists_start_of_mem_plan config.overwriting _ _ _ hpage
  · rw [Config.plan_overwriting] at hpage
    obtain ⟨other, -, rfl⟩ := List.mem_map.mp hpage
    rfl

/-- A run that may overwrite would find its pages and directories in place. -/
structure Settled (config : Config) (analysis : Analysis) (handWritten : Bool)
    (tree : FileTree) : Prop where
  renewable : Renewable config.output.backupMark ("." ++ config.output.extension)
    (config.plan analysis handWritten)
  inPlace : InPlace (config.plan analysis handWritten) tree
  directories : HasDirectories config tree

/-- Directories and pages of a run are in place after it if the pages are different files. -/
theorem settled_of_exec {handWritten : Bool} {start : FileTree} (hfree : before.LinkFree)
    (hmark : '/' ∉ config.output.backupMark.toList)
    (hmake : (makePageDirectories config).exec before = (.ok (), start))
    (hperform : (perform config {} (config.plan analysis handWritten)).exec start =
      (.ok report, after))
    (hdistinct : report.written.Pairwise fun path other => after.sameFile path other = false) :
    Settled config.overwriting analysis handWritten after := by
  have hmakes := evolves_of_makesDirectories ((respects_makePageDirectories config).of_exec hmake)
  have hevolves := (evolves_perform _ _ _).of_exec hperform
  have hwritten : report.written =
      (config.plan analysis handWritten).map (·.artifact.path) := by
    simpa using (report_of_exec hperform).1
  rw [hwritten, List.pairwise_map] at hdistinct
  refine ⟨renewable_plan_overwriting hmark, ?_,
    (hasDirectories_of_exec hmake).grows hevolves.grows⟩
  rw [Config.plan_overwriting]
  exact (inPlace_of_exec_perform (hfree.evolves hmakes) hperform hdistinct).overwriting

namespace Settled

variable {handWritten : Bool}

theorem exec_generate_eq (h : Settled config analysis handWritten now)
    (hfound : (findHandWritten config).exec now = (.ok handWritten, now)) :
    (generate config analysis).exec now =
      (perform config {} (config.plan analysis handWritten)).exec now :=
  exec_generate_of_start hfound (h.directories.exec_makePageDirectories h.inPlace.linkFree)

/-- A run that finds its pages in place adds a backup for each page only. It succeeds if all of
these keep to the limits. -/
theorem exec_generate (h : Settled config analysis handWritten now)
    (hfound : (findHandWritten config).exec now = (.ok handWritten, now))
    (hfits : ∀ path ∈ config.pagePaths analysis,
      Fits (backupTarget config.output.backupMark now path)) :
    ∃ report next, (generate config analysis).exec now = (.ok report, next) ∧
      report.written = config.pagePaths analysis ∧
      report.backups =
        (config.pagePaths analysis).map (backupTarget config.output.backupMark now) ∧
      BackedUp config.output.backupMark (config.plan analysis handWritten) now next := by
  have hpaths := config.map_path_plan analysis handWritten
  obtain ⟨report, next, hperform, hbackups, hbacked⟩ := h.inPlace.exec_perform h.renewable
    (fun page hpage => hfits _ (hpaths ▸ List.mem_map_of_mem hpage)) {}
  refine ⟨report, next, (h.exec_generate_eq hfound).trans hperform, ?_, ?_, hbacked⟩
  · rw [(report_of_exec hperform).1, hpaths]
    rfl
  · rw [hbackups, ← hpaths, List.map_map]
    rfl

/-- It succeeds only then. -/
theorem fits_of_exec_generate (h : Settled config analysis handWritten now)
    (hfound : (findHandWritten config).exec now = (.ok handWritten, now))
    (hexec : (generate config analysis).exec now = (.ok report, next)) :
    ∀ path ∈ config.pagePaths analysis,
      Fits (backupTarget config.output.backupMark now path) := by
  intro path hpath
  rw [← config.map_path_plan analysis handWritten] at hpath
  obtain ⟨page, hpage, rfl⟩ := List.mem_map.mp hpath
  rw [h.exec_generate_eq hfound] at hexec
  exact h.inPlace.fits_of_exec_perform h.renewable hexec page hpage

end Settled

/-- The tree after a number of runs. -/
def rerun (config : Config) (analysis : Analysis) : Nat → FileTree → FileTree
  | 0, tree => tree
  | count + 1, tree => ((generate config analysis).exec (rerun config analysis count tree)).2

theorem evolves_rerun (config : Config) (analysis : Analysis) (count : Nat) (tree : FileTree) :
    tree.Evolves (rerun config analysis count tree) := by
  induction count with
  | zero => exact ReflTransGen.refl
  | succ count ih => exact ih.trans (evolves_generate config analysis _ (Or.inl trivial))

/-- Pages stay in place through any number of runs. -/
theorem Settled.rerun {handWritten : Bool} {count : Nat}
    (h : Settled config analysis handWritten now)
    (hfound : ∀ i < count, (findHandWritten config).exec (rerun config analysis i now) =
      (.ok handWritten, rerun config analysis i now))
    (hfits : ∀ i < count, ∀ path ∈ config.pagePaths analysis,
      Fits (backupTarget config.output.backupMark (rerun config analysis i now) path)) :
    Settled config analysis handWritten (rerun config analysis count now) := by
  induction count with
  | zero => exact h
  | succ count ih =>
    have hsettled := ih (fun i hi => hfound i (Nat.lt_succ_of_lt hi))
      fun i hi => hfits i (Nat.lt_succ_of_lt hi)
    obtain ⟨report, next, hexec, -, -, hbacked⟩ := hsettled.exec_generate
      (hfound count (Nat.lt_succ_self count)) (hfits count (Nat.lt_succ_self count))
    rw [Disk.rerun, hexec]
    exact ⟨hsettled.renewable, hsettled.inPlace.kept hbacked.evolves fun _ _ => hbacked.read,
      hsettled.directories.grows hbacked.evolves.grows⟩

/-- A run has succeeded, and its pages are different files. Then every further run that may
overwrite succeeds as well: it writes the same pages, all of which hold what they held, it makes
one backup of each of them, which holds the same, and it changes nothing else. What is needed is
that the backups keep to the limits, and that the directory of hand-written pages, if it was not
there at first, has not come to be. -/
theorem reruns_add_backups {count : Nat} (hfree : before.LinkFree)
    (hmark : '/' ∉ config.output.backupMark.toList)
    (h : (generate config analysis).exec before = (.ok report, after))
    (hdistinct : report.written.Pairwise fun path other => after.sameFile path other = false)
    (hwritten : config.generation.writeIndex = true →
      before.hasPath config.output.writtenDirectory = true ∨
        ∀ i ≤ count, (rerun config.overwriting analysis i after).hasPath
          config.output.writtenDirectory = false)
    (hfits : ∀ i ≤ count, ∀ path ∈ report.written, Fits (backupTarget config.output.backupMark
      (rerun config.overwriting analysis i after) path)) :
    let now := rerun config.overwriting analysis count after
    let next := rerun config.overwriting analysis (count + 1) after
    let backupOf := backupTarget config.output.backupMark now
    ∃ report', (generate config.overwriting analysis).exec now = (.ok report', next) ∧
      report'.written = report.written ∧
      report'.backups = report.written.map backupOf ∧ report'.backups.Nodup ∧
      (∀ path ∈ report.written, ∃ content, after.read path = .ok content ∧
        now.read path = .ok content ∧ next.read path = .ok content ∧
        next.read (backupOf path) = .ok content) ∧
      ∀ place, (∀ target ∈ report'.backups, next.denotes target place = false) →
        next.node? place = now.node? place := by
  intro now next backupOf
  obtain ⟨handWritten, start, hfound, hmake, hperform⟩ := exec_generate_eq_ok h
  have hpaths : report.written = config.overwriting.pagePaths analysis := by
    rw [Config.pagePaths_overwriting, ← config.map_path_plan analysis handWritten]
    simpa using (report_of_exec hperform).1
  have hplan := config.overwriting.map_path_plan analysis handWritten
  rw [hpaths] at hfits
  have hsettled := settled_of_exec hfree hmark hmake hperform hdistinct
  have hgrows (i : Nat) : before.Grows (rerun config.overwriting analysis i after) :=
    ((evolves_generate config analysis).of_exec h).grows.trans (evolves_rerun _ _ i after).grows
  have hfound' (i : Nat) (hi : i ≤ count) :=
    exec_findHandWritten_of_grows (hgrows i) (fun hindex => (hwritten hindex).imp_right (· i hi))
      hfound
  have hnow := hsettled.rerun (fun i hi => hfound' i hi.le) fun i hi => hfits i hi.le
  obtain ⟨report', after', hexec, hwritten', hbackups, hbacked⟩ :=
    hnow.exec_generate (hfound' count le_rfl) (hfits count le_rfl)
  obtain rfl : after' = next := (congrArg Prod.snd hexec).symm
  refine ⟨report', hexec, hwritten'.trans hpaths.symm, ?_, ?_, fun path hpath => ?_,
    fun place hplace => hbacked.node?_of_not_denotes hnow.inPlace.linkFree fun page hpage => ?_⟩
  · rw [hbackups, hpaths]
    rfl
  · have hnodup := hnow.inPlace.nodup_backups hnow.renewable
    rwa [hbackups, ← hplan, List.map_map]
  · rw [hpaths, ← hplan] at hpath
    obtain ⟨page, hpage, rfl⟩ := List.mem_map.mp hpath
    exact ⟨_, hsettled.inPlace.read page hpage, hnow.inPlace.read page hpage,
      hbacked.read (hnow.inPlace.read page hpage), hbacked.backups page hpage⟩
  · refine hplace _ ?_
    rw [hbackups, ← hplan, List.map_map]
    exact List.mem_map_of_mem hpage

/-- A run that writes two indices. -/
def bothIndices : Config := { output := { source := "s" }, generation := { writeIndex := true } }

/-- What it reports. -/
def bothReport : Report :=
  { indexPages := 2, written := ["s/generated/api/index.rst", "s/index.rst"] }

/-- The tree that it leaves behind. -/
def indexedTree : FileTree := ((generate bothIndices { package := "p" }).exec {}).2

theorem second_rerun_adds_backups :
    ∃ report, (generate bothIndices.overwriting { package := "p" }).exec
        (rerun bothIndices.overwriting { package := "p" } 1 indexedTree) =
      (.ok report, rerun bothIndices.overwriting { package := "p" } 2 indexedTree) ∧
      report.written = ["s/generated/api/index.rst", "s/index.rst"] ∧
      report.backups = ["s/generated/api/index.rst.bak1", "s/index.rst.bak1"] := by
  have hfirst : ((generate bothIndices { package := "p" }).exec {}).1 = .ok bothReport := by
    decide +kernel
  have hrun : (generate bothIndices { package := "p" }).exec {} = (.ok bothReport, indexedTree) :=
    Prod.ext hfirst (by rw [indexedTree])
  have hdistinct : bothReport.written.Pairwise fun path other =>
      indexedTree.sameFile path other = false := by
    decide +kernel
  have hwritten : ∀ i ≤ 1, (rerun bothIndices.overwriting { package := "p" } i
      indexedTree).hasPath "s/written" = false := by
    decide +kernel
  have hfits : ∀ i ≤ 1, ∀ path ∈ bothReport.written, Fits (backupTarget ".bak"
      (rerun bothIndices.overwriting { package := "p" } i indexedTree) path) := by
    decide +kernel
  have hbackup : bothReport.written.map (backupTarget ".bak" (rerun bothIndices.overwriting
      { package := "p" } 1 indexedTree)) =
        ["s/generated/api/index.rst.bak1", "s/index.rst.bak1"] := by
    decide +kernel
  obtain ⟨report, hexec, hpaths, hbackups, -⟩ := reruns_add_backups (by decide +kernel)
    (by decide +kernel) hrun hdistinct (fun _ => Or.inr hwritten) hfits
  exact ⟨report, hexec, hpaths, hbackups.trans hbackup⟩

/-- A run that writes the index only, with a mark that leaves no room for backups. -/
def longMarked : Config := indexOnly (String.ofList (List.replicate 255 'b'))

/-- A run that looks for hand-written pages where the first backup of the index goes. -/
def backupAsWritten : Config :=
  { output := { source := "s", writtenpath := "index.rst.bak0" }
    generation := { writeApi := false, writeIndex := true } }

/-- A further run may fail though the first one has succeeded. The second run fails if backups are
too long, and the third one if the backup that the second one has made is taken for the directory of
hand-written pages. -/
theorem further_run_fails :
    ({} : FileTree).LinkFree ∧
    (longMarked.check = .ok () ∧ '/' ∉ longMarked.output.backupMark.toList ∧
      ((generate longMarked { package := "p" }).exec {}).1 =
        .ok { indexPages := 1, written := ["s/index.rst"] } ∧
      ((generate longMarked { package := "p" }).exec {}).2.hasPath
        longMarked.output.writtenDirectory = false ∧
      ((generate longMarked.overwriting { package := "p" }).exec
        ((generate longMarked { package := "p" }).exec {}).2).1.isOk = false) ∧
    (backupAsWritten.check = .ok () ∧ '/' ∉ backupAsWritten.output.backupMark.toList ∧
      ((generate backupAsWritten { package := "p" }).exec {}).1 =
        .ok { indexPages := 1, written := ["s/index.rst"] } ∧
      ((generate backupAsWritten { package := "p" }).exec {}).2.hasPath
        backupAsWritten.output.writtenDirectory = false ∧
      ((generate backupAsWritten.overwriting { package := "p" }).exec
        (rerun backupAsWritten.overwriting { package := "p" } 1
          ((generate backupAsWritten { package := "p" }).exec {}).2)).1.isOk = false) := by
  have hmark : '/' ∉ longMarked.output.backupMark.toList := by
    show '/' ∉ (String.ofList (List.replicate 255 'b')).toList
    rw [String.toList_ofList]
    exact fun hmem => absurd (List.eq_of_mem_replicate hmem) (by decide)
  have hfirst : ((generate longMarked { package := "p" }).exec {}).1 =
      .ok { indexPages := 1, written := ["s/index.rst"] } := by
    decide +kernel
  have hwritten : ((generate longMarked { package := "p" }).exec {}).2.hasPath
      longMarked.output.writtenDirectory = false := by
    decide +kernel
  have hfree : ({} : FileTree).LinkFree := by decide +kernel
  refine ⟨hfree, ⟨by decide +kernel, hmark, hfirst, hwritten, ?_⟩, by decide +kernel,
    by decide +kernel, by decide +kernel, by decide +kernel, by decide +kernel⟩
  cases hrun : (generate longMarked { package := "p" }).exec {} with
  | mk answer after =>
    rw [hrun] at hfirst hwritten
    obtain rfl : answer = _ := hfirst
    obtain ⟨handWritten, start, hfound, hmake, hperform⟩ := exec_generate_eq_ok hrun
    have hsettled := settled_of_exec hfree hmark hmake hperform
      (List.pairwise_singleton _ _)
    have hgrows := ((evolves_generate _ _).of_exec hrun).grows
    have hfound' := exec_findHandWritten_of_grows hgrows (fun _ => Or.inr hwritten) hfound
    cases hexec : (generate longMarked.overwriting { package := "p" }).exec after with
    | mk answer next =>
      cases answer with
      | error fault => rfl
      | ok report =>
        have hfits := hsettled.fits_of_exec_generate hfound' hexec "s/index.rst" (by decide +kernel)
        have hsize : ¬longMarked.output.backupMark.utf8ByteSize < nameLimit := by decide +kernel
        exact absurd (hfits.utf8ByteSize_lt hmark) hsize

end Disk

end DocStubs
