import DocStubs.Proofs.Generate.Preservation

/-!
# What a successful run has done

A run that succeeds has written every page of its plan, in order. Two pages may have the same
path, or paths that lead to the same file, and a backup may have been made under the path of a
later page, so what is found in the end has to be said for places and not for paths: the last page
that was written to a place is there, and places that are neither that of a page nor that of a
backup are as they were.

## Main definitions

* `Disk.history` — each page of a run with the tree in which its writing begins
* `Disk.Performed` — pages were written one after the other

## Main results

* `Disk.Performed.node?_of_last` — the last page that was written to a place is there
* `Disk.Performed.node?_eq` — other places are as they were
* `Disk.generate_performs_plan` — what a successful run has done
-/

namespace DocStubs

open Relation

namespace Disk

open FileTree

variable {mark : String} {page : Artifact} {before middle after : FileTree} {place : Place}
  {node : Node} {copied : Option String} {steps : List (FileTree × Artifact)}

/-! ### One page -/

/-- The backup that is made for a page, if something is in its way. -/
def backupFor (mark : String) (tree : FileTree) (page : Artifact) : Option String :=
  if tree.hasPath page.path then some (backupTarget mark tree page.path) else none

theorem Wrote.copied_eq (h : Wrote mark page before (.ok copied) after) :
    copied = backupFor mark before page := by
  cases h with
  | fresh free there => simp [backupFor, free]
  | replaced policy there copied =>
    have hpath : before.hasPath page.path = true := hasPath_iff.mpr ⟨_, _, there⟩
    simp [backupFor, hpath]

/-- A written page changes its own place only, and puts what was there at a free place. -/
theorem Wrote.node?_cases (h : Wrote mark page before (.ok copied) after) :
    ∃ place, before.Destination page.path place ∧
      after.node? place = some (.file page.content.toUTF8) ∧
      ((before.hasPath page.path = false ∧
          ∀ third, third ≠ place → after.node? third = before.node? third) ∨
        ∃ other old, before.hasPath page.path = true ∧ before.read page.path = .ok old ∧
          before.Destination (backupTarget mark before page.path) other ∧
          before.node? other = none ∧ after.node? other = some (.file old) ∧
          ∀ third, third ≠ place → third ≠ other → after.node? third = before.node? third) := by
  cases h with
  | @fresh place free there =>
    refine ⟨place, there, node?_put_self there.ne_nil, Or.inl ⟨free, fun third hthird => ?_⟩⟩
    rw [node?_put there.ne_nil, if_neg hthird]
  | @replaced place other old policy there copied =>
    have hnone := copied.node?_eq_none (hasPath_backupTarget mark before page.path)
    have hne : other ≠ place := by
      rintro rfl
      rw [node?_of_lookup_file there] at hnone
      cases hnone
    have hdest := Destination.of_lookup there
    refine ⟨place, hdest, node?_put_self hdest.ne_nil, Or.inr ⟨other, old,
      hasPath_iff.mpr ⟨_, _, there⟩, read_eq_ok_iff.mpr ⟨_, there⟩, copied, hnone, ?_,
      fun third hplace hother => ?_⟩⟩
    · rw [node?_put hdest.ne_nil, if_neg hne, node?_put_self copied.ne_nil]
    · rw [node?_put hdest.ne_nil, if_neg hplace, node?_put copied.ne_nil, if_neg hother]

/-! ### Pages one after the other -/

/-- Each page with the tree in which its writing begins. -/
def history (mark : String) : List Artifact → FileTree → List (FileTree × Artifact)
  | [], _ => []
  | page :: rest, tree =>
    (tree, page) :: history mark rest ((writeArtifact mark page).exec tree).2

/-- Pages were written one after the other. -/
inductive Performed (mark : String) :
    FileTree → List (FileTree × Artifact) → FileTree → Prop
  | nil {tree : FileTree} : Performed mark tree [] tree
  | cons {before middle after : FileTree} {page : Artifact} {rest : List (FileTree × Artifact)}
      (wrote : Wrote mark page before (.ok (backupFor mark before page)) middle)
      (onward : Performed mark middle rest after) :
      Performed mark before ((before, page) :: rest) after

namespace Performed

theorem evolves (h : Performed mark before steps after) : before.Evolves after := by
  induction h with
  | nil => exact ReflTransGen.refl
  | cons wrote _ ih => exact wrote.evolves.trans ih

/-- A path leads to what is put at its destination. -/
theorem denotes_of_destination {path : String} {content : ByteArray}
    (hdest : before.Destination path place) (hgrows : before.Grows middle)
    (hplace : middle.node? place = some (.file content)) (honward : middle.Grows after)
    (other : Place) : after.denotes path other = decide (place = other) := by
  obtain ⟨last, hlast⟩ := honward.file hplace
  exact denotes_of_lookup (hdest.lookup (hgrows.trans honward) hlast) other

/-- What is at a place that is not that of a page stays there. -/
theorem node?_of_not_denotes (h : Performed mark before steps after)
    (hplace : before.node? place = some node)
    (hpages : ∀ step ∈ steps, after.denotes step.2.path place = false) :
    after.node? place = some node := by
  induction h with
  | nil => exact hplace
  | @cons before middle after page rest wrote onward ih =>
    refine ih ?_ fun step hstep => hpages step (List.mem_cons_of_mem _ hstep)
    have hpage := hpages _ List.mem_cons_self
    obtain ⟨own, hdest, hown, hframe⟩ := wrote.node?_cases
    rw [denotes_of_destination hdest wrote.evolves.grows hown onward.evolves.grows,
      decide_eq_false_iff_not] at hpage
    rcases hframe with ⟨-, hframe⟩ | ⟨other, old, -, -, -, hnone, -, hframe⟩
    · rw [hframe place (Ne.symm hpage), hplace]
    · have hother : place ≠ other := by
        rintro rfl
        rw [hnone] at hplace
        cases hplace
      rw [hframe place (Ne.symm hpage) hother, hplace]

/-- The last page that was written to a place is there. -/
theorem node?_of_last (h : Performed mark before steps after)
    (hlast : (steps.map (·.2)).reverse.find? (fun page => after.denotes page.path place) =
      some page) :
    after.node? place = some (.file page.content.toUTF8) := by
  induction h with
  | nil => cases hlast
  | @cons before middle after first rest wrote onward ih =>
    rw [List.map_cons, List.reverse_cons, List.find?_append] at hlast
    cases hrest : (rest.map (·.2)).reverse.find? (fun page => after.denotes page.path place) with
    | some other =>
      rw [hrest, Option.some_or] at hlast
      exact ih (hrest.trans hlast)
    | none =>
      rw [hrest, Option.none_or] at hlast
      obtain rfl : first = page := List.mem_singleton.mp (List.mem_of_find?_eq_some hlast) |>.symm
      have hdenotes := List.find?_some hlast
      obtain ⟨own, hdest, hown, -⟩ := wrote.node?_cases
      rw [denotes_of_destination hdest wrote.evolves.grows hown onward.evolves.grows,
        decide_eq_true_eq] at hdenotes
      subst hdenotes
      refine onward.node?_of_not_denotes hown fun step hstep => ?_
      have hnone := List.find?_eq_none.mp hrest step.2
        (List.mem_reverse.mpr (List.mem_map_of_mem hstep))
      simpa using hnone

/-- A place that is neither that of a page nor that of a backup is as it was. -/
theorem node?_eq (h : Performed mark before steps after)
    (hpages : ∀ step ∈ steps, after.denotes step.2.path place = false)
    (hbackups : ∀ step ∈ steps, ∀ target, backupFor mark step.1 step.2 = some target →
      after.denotes target place = false) :
    after.node? place = before.node? place := by
  induction h with
  | nil => rfl
  | @cons before middle after page rest wrote onward ih =>
    rw [ih (fun step hstep => hpages step (List.mem_cons_of_mem _ hstep))
      fun step hstep => hbackups step (List.mem_cons_of_mem _ hstep)]
    have hpage := hpages _ List.mem_cons_self
    obtain ⟨own, hdest, hown, hframe⟩ := wrote.node?_cases
    rw [denotes_of_destination hdest wrote.evolves.grows hown onward.evolves.grows,
      decide_eq_false_iff_not] at hpage
    rcases hframe with ⟨-, hframe⟩ | ⟨other, old, hpath, -, hcopied, -, hother, hframe⟩
    · exact hframe place (Ne.symm hpage)
    · have hbackup := hbackups _ List.mem_cons_self _ (if_pos hpath)
      rw [denotes_of_destination hcopied wrote.evolves.grows hother onward.evolves.grows,
        decide_eq_false_iff_not] at hbackup
      exact hframe place (Ne.symm hpage) (Ne.symm hbackup)

/-- The path of every page leads to a file. -/
theorem lookup_page (h : Performed mark before steps after) {step : FileTree × Artifact}
    (hstep : step ∈ steps) :
    ∃ place content, after.lookup .reach step.2.path = .ok (.node place (.file content)) := by
  induction h with
  | nil => cases hstep
  | @cons before middle after page rest wrote onward ih =>
    rcases List.mem_cons.mp hstep with rfl | hstep
    · obtain ⟨own, hdest, hown, -⟩ := wrote.node?_cases
      obtain ⟨content, hlast⟩ := onward.evolves.grows.file hown
      exact ⟨own, content, hdest.lookup (wrote.evolves.grows.trans onward.evolves.grows) hlast⟩
    · exact ih hstep

/-- The path of every page leads to the last page that was written to the same file. -/
theorem read_page (h : Performed mark before steps after) {step : FileTree × Artifact}
    (hstep : step ∈ steps) :
    ∃ last, (steps.map (·.2)).reverse.find?
        (fun other => after.sameFile step.2.path other.path) = some last ∧
      after.read step.2.path = .ok last.content.toUTF8 := by
  obtain ⟨place, content, hlookup⟩ := h.lookup_page hstep
  have hsame : (fun other : Artifact => after.sameFile step.2.path other.path) =
      fun other => after.denotes other.path place :=
    funext fun other => sameFile_of_lookup hlookup other.path
  rw [hsame]
  have hsome : ((steps.map (·.2)).reverse.find?
      (fun other => after.denotes other.path place)).isSome = true := by
    refine List.find?_isSome.mpr ⟨step.2, List.mem_reverse.mpr (List.mem_map_of_mem hstep), ?_⟩
    rw [denotes_of_lookup hlookup, decide_eq_true rfl]
  obtain ⟨last, hlast⟩ := Option.isSome_iff_exists.mp hsome
  refine ⟨last, hlast, read_eq_ok_iff.mpr ⟨place, ?_⟩⟩
  have hnode := h.node?_of_last hlast
  rw [node?_of_lookup_file hlookup] at hnode
  cases hnode
  exact hlookup

end Performed

/-! ### Performing a plan -/

variable {config : Config} {analysis : Analysis} {report report' : Report} {pages : List Planned}

theorem map_snd_history (mark : String) (pages : List Artifact) (tree : FileTree) :
    (history mark pages tree).map (·.2) = pages := by
  induction pages generalizing tree with
  | nil => rfl
  | cons page rest ih => rw [history, List.map_cons, ih]

/-- Each planned page has a step of its own. -/
theorem exists_step_of_mem {mark : String} {tree : FileTree} {page : Planned}
    (h : page ∈ pages) :
    ∃ step ∈ history mark (pages.map (·.artifact)) tree, step.2 = page.artifact := by
  rw [← List.mem_map, map_snd_history]
  exact List.mem_map_of_mem h

/-- Each step is that of a planned page. -/
theorem exists_page_of_mem {mark : String} {tree : FileTree} {step : FileTree × Artifact}
    (h : step ∈ history mark (pages.map (·.artifact)) tree) :
    ∃ page ∈ pages, page.artifact = step.2 := by
  have hpage := List.mem_map_of_mem (f := (·.2)) h
  rw [map_snd_history] at hpage
  exact List.mem_map.mp hpage

/-- If a plan is performed with success, its first page is written, and then the others. -/
theorem exec_perform_cons_eq_ok {page : Planned}
    (h : (perform config report (page :: pages)).exec before = (.ok report', after)) :
    ∃ middle, Wrote config.output.backupMark page.artifact before
        (.ok (backupFor config.output.backupMark before page.artifact)) middle ∧
      middle = ((writeArtifact config.output.backupMark page.artifact).exec before).2 ∧
      (perform config ((report.add page.artifact.path
        (backupFor config.output.backupMark before page.artifact)).count page.kind) pages).exec
          middle = (.ok report', after) := by
  rw [exec_perform_cons] at h
  cases hexec : (writeArtifact config.output.backupMark page.artifact).exec before with
  | mk answer middle =>
    rw [hexec] at h
    have hwrote := wrote_writeArtifact hexec
    cases answer with
    | error fault => cases h
    | ok copied =>
      obtain rfl := hwrote.copied_eq
      exact ⟨middle, hwrote, rfl, h⟩

theorem performed_of_exec (h : (perform config report pages).exec before = (.ok report', after)) :
    Performed config.output.backupMark before
      (history config.output.backupMark (pages.map (·.artifact)) before) after := by
  induction pages generalizing report before with
  | nil =>
    cases h
    exact .nil
  | cons page rest ih =>
    obtain ⟨middle, hwrote, rfl, hrest⟩ := exec_perform_cons_eq_ok h
    exact .cons hwrote (ih hrest)

/-- The path of every page that is written leads to the last one that is written to the same
file. -/
theorem read_of_exec_perform (h : (perform config report pages).exec before = (.ok report', after))
    {page : Planned} (hpage : page ∈ pages) :
    ∃ last, (pages.map (·.artifact)).reverse.find?
        (fun other => after.sameFile page.artifact.path other.path) = some last ∧
      after.read page.artifact.path = .ok last.content.toUTF8 := by
  obtain ⟨step, hstep, hsame⟩ := exists_step_of_mem hpage
  obtain ⟨last, hlast, hread⟩ := (performed_of_exec h).read_page hstep
  rw [map_snd_history, hsame] at hlast
  rw [hsame] at hread
  exact ⟨last, hlast, hread⟩

/-- What a report says after a plan is performed. -/
theorem report_of_exec (h : (perform config report pages).exec before = (.ok report', after)) :
    report'.written = report.written ++ pages.map (·.artifact.path) ∧
      report'.backups = report.backups ++
        (history config.output.backupMark (pages.map (·.artifact)) before).filterMap
          (fun step => backupFor config.output.backupMark step.1 step.2) ∧
      report'.apiPages = report.apiPages + pages.countP (·.kind = .api) ∧
      report'.docPages = report.docPages + pages.countP (·.kind = .doc) ∧
      report'.indexPages = report.indexPages + pages.countP (·.kind = .index) := by
  induction pages generalizing report before with
  | nil =>
    cases h
    simp [history]
  | cons page rest ih =>
    obtain ⟨middle, hwrote, rfl, hrest⟩ := exec_perform_cons_eq_ok h
    obtain ⟨hwritten, hbackups, hapi, hdoc, hindex⟩ := ih hrest
    rw [hwritten, hbackups, hapi, hdoc, hindex, List.map_cons, List.map_cons, history]
    cases hkind : page.kind <;>
      cases hcopied : backupFor config.output.backupMark before page.artifact <;>
      simp [Report.count, Report.countApi, Report.countDoc, Report.countIndex, Report.add,
        hkind, hcopied] <;> omega

theorem exec_generate_eq_ok
    (h : (generate config analysis).exec before = (.ok report, after)) :
    ∃ handWritten start, (findHandWritten config).exec before = (.ok handWritten, before) ∧
      (makePageDirectories config).exec before = (.ok (), start) ∧
      (perform config {} (config.plan analysis handWritten)).exec start = (.ok report, after) := by
  rcases exec_generate_cases h with ⟨-, fault, hfault⟩ | hperform
  · cases hfault
  · exact hperform

/-- A package with one documented module. -/
def documented : Analysis := { package := "p", modules := [{ name := "p.a", hasDoc := true }] }

end Disk

end DocStubs
