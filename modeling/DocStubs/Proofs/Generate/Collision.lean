import DocStubs.Proofs.Config
import DocStubs.Proofs.Generate.Clash
import DocStubs.Proofs.Generate.Failure
import DocStubs.Proofs.Source.Distinct

/-!
# Pages of one run do not collide

A page is refused if something is at its path. If the directory of the pages is empty when the
first page is written, that something would have to be an earlier page of the same run, and there
is none: the modules of an analysis have distinct names, so their pages have distinct file names.
That a file name may hold slashes and dots, because the name of a module or the extension does,
makes no difference. What comes before the first slash would have to be a directory, and a run
makes no directories where its pages are.

It is less clear that the directory is empty at that time. If nothing is at its path, making it
makes an empty one, as long as the path does not turn back from a name that is not there yet. The
path `s/index.rst/..` does: it leads nowhere at first, and once `s/index.rst` was made for it, it
leads to `s`, which holds `index.rst`.

## Main definitions

* `FileTree.HasEmpty` — a path leads to an empty directory
* `FileTree.LeadsOn` — a path turns back only among names that are there
* `Disk.MakesEmpty` — a directory is empty once it was made
* `Disk.Filled` — a directory holds pages that were written and nothing else

## Main results

* `Disk.makesEmpty_of_leadsOn` — when a directory is empty once it was made
* `Disk.Filled.perform` — a run keeps to its pages
* `Disk.pages_never_collide` — a run is not refused because of its own pages
-/

namespace DocStubs

/-! ### File names -/

namespace Path

variable {file : String}

/-- A text that starts with a name that is not made of dots. -/
def OpensName (file : String) : Prop :=
  ∃ first, file.toList.head? = some first ∧ first ≠ '/' ∧ first ≠ '.'

theorem OpensName.append {start : String} (h : OpensName start) (rest : String) :
    OpensName (start ++ rest) := by
  obtain ⟨first, hfirst, hslash, hdot⟩ := h
  refine ⟨first, ?_, hslash, hdot⟩
  rw [String.toList_append, List.head?_append, hfirst]
  rfl

theorem OpensName.isAbsolute_eq_false (h : OpensName file) : isAbsolute file = false := by
  obtain ⟨first, hfirst, hslash, -⟩ := h
  simp [isAbsolute, hfirst, hslash]

theorem OpensName.ne_empty (h : OpensName file) : file ≠ "" := by
  rintro rfl
  obtain ⟨first, hfirst, -⟩ := h
  cases hfirst

/-- A path without names is made of slashes. -/
theorem endsInSlash_of_names_eq_nil (h : names file = []) (hne : file ≠ "") :
    endsInSlash file = true := by
  obtain ⟨last, hlast, hfile⟩ := Cut.exists_last '/' file.toList
  have hempty : last = [] := by
    by_contra hlastne
    have hname : names (String.ofList last) = [String.ofList last] :=
      names_of_no_slash (by simpa using hlastne) (by simpa using hlast)
    rcases hfile with hall | ⟨inner, hinner⟩
    · obtain rfl : file = String.ofList last := String.toList_inj.mp (by simpa using hall)
      rw [hname] at h
      cases h
    · obtain rfl : file = String.ofList inner ++ "/" ++ String.ofList last :=
        String.toList_inj.mp (by simpa using hinner)
      rw [names_append_slash, hname] at h
      simp at h
  subst hempty
  rcases hfile with hall | ⟨inner, hinner⟩
  · exact absurd (String.toList_eq_nil_iff.mp hall) hne
  · simp [endsInSlash, hinner]

/-- The first name of a text is all of it, unless there is a slash in it. -/
theorem OpensName.exists_names (h : OpensName file) :
    ∃ first rest, names file = first :: rest ∧ first ≠ "." ∧ first ≠ ".." ∧
      (rest = [] → endsInSlash file = false → first = file) := by
  obtain ⟨char, hchar, hslash, hdot⟩ := h
  obtain ⟨first, hfirst, hfile⟩ := Cut.exists_first '/' file.toList
  have hhead : first.head? = some char := by
    rcases hfile with hall | ⟨after, hafter⟩
    · rw [← hall, hchar]
    · cases first with
      | nil =>
        rw [hafter] at hchar
        exact absurd (Option.some.inj hchar).symm hslash
      | cons other rest => rw [← hchar, hafter]; rfl
  have hne : String.ofList first ≠ "" := by
    intro hempty
    rw [String.ofList_eq_empty_iff.mp hempty] at hhead
    cases hhead
  have hname : names (String.ofList first) = [String.ofList first] :=
    names_of_no_slash hne (by simpa using hfirst)
  have hdots : String.ofList first ≠ "." ∧ String.ofList first ≠ ".." := by
    constructor <;>
    · intro hsame
      have hchars := congrArg String.toList hsame
      rw [String.toList_ofList] at hchars
      rw [hchars] at hhead
      exact hdot (Option.some.inj hhead).symm
  rcases hfile with hall | ⟨after, hafter⟩
  · obtain rfl : file = String.ofList first := String.toList_inj.mp (by simpa using hall)
    exact ⟨_, [], hname, hdots.1, hdots.2, fun _ _ => rfl⟩
  · obtain rfl : file = String.ofList first ++ "/" ++ String.ofList after :=
      String.toList_inj.mp (by simpa using hafter)
    refine ⟨_, names (String.ofList after), ?_, hdots.1, hdots.2, fun hnil hends => ?_⟩
    · rw [names_append_slash, hname, List.singleton_append]
    · -- Only slashes are left, so the text ends in one.
      have hslashes : endsInSlash (String.ofList first ++ "/" ++ String.ofList after) = true := by
        by_cases hempty : String.ofList after = ""
        · rw [hempty, String.append_empty]
          exact endsInSlash_append _ (by decide)
        · rw [endsInSlash_append _ hempty]
          exact endsInSlash_of_names_eq_nil hnil hempty
      rw [hslashes] at hends
      cases hends

end Path

/-! ### Empty directories -/

namespace FileTree

/-- A path leads to a directory that holds nothing. -/
def HasEmpty (tree : FileTree) (path : String) : Prop :=
  ∃ place, tree.lookup .reach path = .ok (.node place .directory) ∧ tree.HoldsNothing place

/-- A path turns back only among the names that are there: it goes on without turning back from
some directory that its first names lead to. -/
def LeadsOn (tree : FileTree) (path : String) : Prop :=
  ∃ known onward place, Path.names path = known ++ onward ∧
    tree.follow .reach linkLimit false (tree.origin path) known = .ok (.node place .directory) ∧
    ".." ∉ onward

end FileTree

namespace Disk

open FileTree

variable {before middle after now : FileTree} {path directory file : String} {place : Place}

/-- If a directory is made, it is empty. -/
def MakesEmpty (before : FileTree) (path : String) : Prop :=
  ∀ after, (makeDirectories path).exec before = (.ok (), after) → after.HasEmpty path

/-- What the directory that a path leads to is once it was made, if the path turns back only among
names that are there. -/
theorem lookup_of_makeDirectories {known onward : List String} {start : Place}
    (hwell : before.WellFormed) (hpath : path ≠ "")
    (hnames : Path.names path = known ++ onward)
    (hknown : before.follow .reach linkLimit false (before.origin path) known =
      .ok (.node start .directory))
    (honward : ".." ∉ onward) (h : (makeDirectories path).exec before = (.ok (), after)) :
    ∃ place, after.lookup .reach path = .ok (.node place .directory) ∧
      (after = before ∨ before.node? place = none ∧ after.HoldsNothing place) := by
  obtain ⟨left, henters⟩ := (follow_eq_ok_iff.mp hknown).enters
  obtain ⟨husable, place, left', hplace, hnew⟩ :=
    enters_makeDirectoriesFrom (Nat.lt_succ_self _) hwell hnames henters honward h
  have hgrows :=
    (evolves_of_makesDirectories ((respects_makeDirectories path).of_exec h)).grows
  rw [← hgrows.origin_eq] at hplace
  exact ⟨place, lookup_eq_ok_iff.mpr ⟨husable.resolve_left hpath, hplace.leads _⟩, hnew⟩

/-- An empty directory that is there stays so. -/
theorem makesEmpty_of_hasEmpty (hwell : before.WellFormed) (h : before.HasEmpty path) :
    MakesEmpty before path := by
  intro after hmake
  obtain ⟨place, hlookup, hempty⟩ := h
  obtain ⟨husable, hleads⟩ := lookup_eq_ok_iff.mp hlookup
  obtain ⟨left, henters⟩ := hleads.enters
  obtain ⟨place', hlookup', hnew⟩ := lookup_of_makeDirectories hwell husable.ne_empty
    (List.append_nil _).symm (follow_of_leads (henters.leads false)) List.not_mem_nil hmake
  have hgrows :=
    (evolves_of_makesDirectories ((respects_makeDirectories path).of_exec hmake)).grows
  obtain ⟨node, hnode, -⟩ := hgrows.lookup hlookup
  rw [hlookup'] at hnode
  cases hnode
  rcases hnew with rfl | ⟨hnone, -⟩
  · exact ⟨_, hlookup, hempty⟩
  · rw [hwell.landed hlookup] at hnone
    cases hnone

/-- A directory that is not there yet is empty once it was made. -/
theorem makesEmpty_of_leadsOn (hwell : before.WellFormed) (hpath : path ≠ "")
    (hmissing : before.hasPath path = false) (h : before.LeadsOn path) :
    MakesEmpty before path := by
  intro after hmake
  obtain ⟨known, onward, start, hnames, hknown, honward⟩ := h
  obtain ⟨place, hlookup, hnew⟩ :=
    lookup_of_makeDirectories hwell hpath hnames hknown honward hmake
  rcases hnew with rfl | ⟨-, hempty⟩
  · have hthere : after.hasPath path = true := hasPath_iff.mpr ⟨place, _, hlookup⟩
    rw [hmissing] at hthere
    cases hthere
  · exact ⟨place, hlookup, hempty⟩

/-! ### A directory with pages -/

/-- A path leads to a directory that holds files of given names and nothing else. -/
structure Filled (directory : String) (place : Place) (files : List String) (tree : FileTree) :
    Prop where
  enters : ∃ left,
    Enters tree linkLimit (tree.origin directory) (Path.names directory) place left
  holds : ∀ name node, tree.node? (place ++ [name]) = some node →
    node.isFile = true ∧ name ∈ files

variable {files : List String}

theorem Filled.of_hasEmpty (h : now.HasEmpty directory) :
    ∃ place, Filled directory place [] now := by
  obtain ⟨place, hlookup, hempty⟩ := h
  refine ⟨place, (lookup_eq_ok_iff.mp hlookup).2.enters, fun name node hnode => ?_⟩
  rw [hempty] at hnode
  cases hnode

/-- Where a path in such a directory leads: to one of the files, or to a name that is free. A path
that is written, and a path to a file, holds no slash after the directory. -/
theorem Filled.of_lookup (h : Filled directory place files now) (hfile : Path.OpensName file)
    {purpose : Purpose} (hpurpose : purpose ≠ .make) {found : Found}
    (hlookup : now.lookup purpose (Path.join directory file) = .ok found) :
    (file ∈ files ∧ ∃ content, found = .node (place ++ [file]) (.file content)) ∨
      ∃ name, found = .missing place name ∧ (purpose = .write → name = file) := by
  have hrelative := hfile.isAbsolute_eq_false
  obtain ⟨first, rest, hnames, hdot, hdots, hwhole⟩ := hfile.exists_names
  obtain ⟨-, hleads⟩ := lookup_eq_ok_iff.mp hlookup
  rw [Path.endsInSlash_join directory hfile.ne_empty, origin_join now directory hrelative,
    Path.names_join directory hrelative, hnames, leads_append_iff (List.cons_ne_nil _ _)] at hleads
  obtain ⟨entered, left, henters, hleads⟩ := hleads
  obtain ⟨left', hplace⟩ := h.enters
  rw [← hplace.unique henters] at hleads
  cases hleads with
  | dot => exact absurd rfl hdot
  | dots => exact absurd rfl hdots
  | missing ordinary free =>
    refine Or.inr ⟨first, rfl, fun hwrite => hwhole rfl ?_⟩
    exact Bool.eq_false_iff.mpr fun hslash => ordinary.writable ⟨rfl, hslash, hwrite⟩
  | directory ordinary there => cases (h.holds _ _ there).1
  | link ordinary there => cases (h.holds _ _ there).1
  | through ordinary there => cases (h.holds _ _ there).1
  | @leaf _ _ _ _ node ordinary there not_directory not_link finishes =>
    obtain ⟨hisFile, hmem⟩ := h.holds _ _ there
    obtain rfl : first = file :=
      hwhole rfl (Bool.eq_false_iff.mpr fun hslash => hpurpose (finishes hslash))
    cases node with
    | file content => exact Or.inl ⟨hmem, content, rfl⟩
    | directory | link _ | special => cases hisFile

/-- Nothing is in the way of a further page. -/
theorem Filled.hasPath_eq_false (h : Filled directory place files now)
    (hfile : Path.OpensName file) (hnew : file ∉ files) :
    now.hasPath (Path.join directory file) = false := by
  refine Bool.eq_false_iff.mpr fun hpath => ?_
  obtain ⟨there, node, hlookup⟩ := hasPath_iff.mp hpath
  rcases h.of_lookup hfile (by decide) hlookup with ⟨hmem, -⟩ | ⟨name, hmissing, -⟩
  · exact hnew hmem
  · cases hmissing

theorem Filled.put (h : Filled directory place files now) (file : String) (content : ByteArray)
    (hgrows : now.Grows (now.put (place ++ [file]) (.file content))) :
    Filled directory place (file :: files) (now.put (place ++ [file]) (.file content)) := by
  refine ⟨?_, fun name node hnode => ?_⟩
  · obtain ⟨left, henters⟩ := h.enters
    rw [hgrows.origin_eq]
    exact ⟨left, henters.grows hgrows⟩
  · rw [node?_put (by simp)] at hnode
    split at hnode
    · rename_i hsame
      cases hnode
      exact ⟨rfl, by simpa using Or.inl hsame⟩
    · obtain ⟨hisFile, hmem⟩ := h.holds name node hnode
      exact ⟨hisFile, List.mem_cons_of_mem _ hmem⟩

/-- A page that is written is one more file in the directory. -/
theorem Filled.wrote {mark : String} {artifact : Artifact} {copied : Option String}
    (h : Filled directory place files before) (hfile : Path.OpensName file) (hnew : file ∉ files)
    (hpath : artifact.path = Path.join directory file)
    (hwrote : Wrote mark artifact before (.ok copied) after) :
    Filled directory place (file :: files) after := by
  have hfree := h.hasPath_eq_false hfile hnew
  rw [← hpath] at hfree
  cases hwrote with
  | replaced policy there copied =>
    rw [hasPath_iff.mpr ⟨_, _, there⟩] at hfree
    cases hfree
  | @fresh place' free there =>
    have hplace : place' = place ++ [file] := by
      rcases there with ⟨old, hlookup⟩ | ⟨directory', name, hlookup, rfl⟩
      · rw [hasPath_iff.mpr ⟨_, _, lookup_reach_of_write hlookup⟩] at hfree
        cases hfree
      · rw [hpath] at hlookup
        rcases h.of_lookup hfile (by decide) hlookup with ⟨hmem, -⟩ | ⟨name', hmissing, hname⟩
        · exact absurd hmem hnew
        · cases hmissing
          rw [hname rfl]
    subst hplace
    exact h.put file _ (there.grows _)

/-! ### A run -/

variable {config : Config} {analysis : Analysis} {report report' : Report} {pages : List Planned}

/-- A run that succeeds leaves its pages in their directory, and nothing else. -/
theorem Filled.perform {done : List String} (h : Filled directory place done before)
    (hpages : pages.map (·.artifact.path) = files.map (Path.join directory))
    (hopens : ∀ file ∈ files, Path.OpensName file) (hnodup : files.Nodup)
    (hdone : ∀ file ∈ files, file ∉ done)
    (hexec : (perform config report pages).exec before = (.ok report', after)) :
    Filled directory place (files.reverse ++ done) after := by
  induction pages generalizing files done report before with
  | nil =>
    obtain rfl := List.map_eq_nil_iff.mp hpages.symm
    cases hexec
    exact h
  | cons page rest ih =>
    obtain ⟨file, files, rfl, hpath, hrest⟩ := List.map_eq_cons_iff.mp hpages.symm
    obtain ⟨middle, hwrote, -, hexec⟩ := exec_perform_cons_eq_ok hexec
    obtain ⟨hfile, hopens⟩ := List.forall_mem_cons.mp hopens
    obtain ⟨hfresh, hdone⟩ := List.forall_mem_cons.mp hdone
    obtain ⟨hfirst, hnodup⟩ := List.nodup_cons.mp hnodup
    have hmiddle := h.wrote hfile hfresh hpath.symm hwrote
    have hnext := ih hmiddle hrest.symm hopens hnodup (fun other hother hmem => ?_) hexec
    · simpa using hnext
    · rcases List.mem_cons.mp hmem with rfl | hmem
      · exact hfirst hother
      · exact hdone other hother hmem

/-- A run whose pages have distinct file names in one directory is not refused because of them. -/
theorem Filled.perform_ne_collision (h : Filled directory place [] before)
    (hpages : pages.map (·.artifact.path) = files.map (Path.join directory))
    (hopens : ∀ file ∈ files, Path.OpensName file) (hnodup : files.Nodup) (path : String) :
    ((Disk.perform config report pages).exec before).1 ≠ .error (.collision path) := by
  intro hfault
  obtain ⟨written, page, rest, report', middle, rfl, hwritten, hpage⟩ :=
    exec_perform_eq_error (Prod.ext hfault rfl)
  rw [List.map_append, List.map_cons] at hpages
  obtain ⟨earlier, later, rfl, hearlier, hlater⟩ := List.map_eq_append_iff.mp hpages.symm
  obtain ⟨file, others, rfl, hpath, -⟩ := List.map_eq_cons_iff.mp hlater
  rw [List.nodup_append] at hnodup
  obtain ⟨hdistinct, -, hapart⟩ := hnodup
  have hmiddle := h.perform hearlier.symm (fun file hfile => hopens file (by simp [hfile]))
    hdistinct (fun _ _ => List.not_mem_nil) hwritten
  have hfree := hmiddle.hasPath_eq_false (hopens file (by simp)) (by
    rw [List.append_nil, List.mem_reverse]
    exact fun hmem => hapart file hmem file (by simp) rfl)
  obtain ⟨hnamed, hthere, -⟩ := (failed_writeArtifact hpage).refused (Or.inl rfl)
  rw [hnamed, ← hpath, hfree] at hthere
  cases hthere

end Disk

/-! ### Pages of one kind -/

theorem Descriptor.stem_ne_index (module : Descriptor) : module.stem ≠ "index" := by
  intro h
  have hhead := congrArg (fun text => text.toList.head?) h
  rw [stem_eq] at hhead
  simp at hhead

namespace Config

variable {config : Config} {analysis : Analysis}

/-- The directory of the pages if pages of one kind are made. -/
def pageDirectory (config : Config) : String :=
  if config.generation.writeApi then config.output.apiDirectory else config.output.docDirectory

/-- The file names of the pages and of their index if pages of one kind are made. -/
def pageFiles (config : Config) (analysis : Analysis) : List String :=
  (if config.generation.writeApi then analysis.modules
    else analysis.modules.filter (·.hasDoc)).map (·.stem ++ "." ++ config.output.extension) ++
    [config.output.indexFile]

/-- The pages of all modules if pages of one kind are made. -/
theorem flatMap_modulePages (hone : config.generation.writeApi ≠ config.generation.writeDoc)
    (modules : List Descriptor) :
    modules.flatMap config.modulePages =
      if config.generation.writeApi then modules.map config.apiPage
      else (modules.filter (·.hasDoc)).map config.docPage := by
  cases hdoc : config.generation.writeDoc with
  | true =>
    have hapi : config.generation.writeApi = false := by simpa [hdoc] using hone
    rw [if_neg (by simp [hapi])]
    induction modules with
    | nil => rfl
    | cons module rest ih =>
      rw [List.flatMap_cons, ih, modulePages, List.filter_cons]
      cases hmodule : module.hasDoc <;> simp [hapi, hdoc]
  | false =>
    have hapi : config.generation.writeApi = true := by simpa [hdoc] using hone
    rw [if_pos hapi, ← List.flatMap_pure_eq_map]
    refine List.flatMap_congr fun module _ => ?_
    simp [modulePages, hapi, hdoc]

/-- All pages of a run are in one directory if pages of one kind are made and no index of the
output directory. -/
theorem map_path_plan_of_one (hone : config.generation.writeApi ≠ config.generation.writeDoc)
    (hindex : config.generation.writeIndex = false) (handWritten : Bool) :
    (config.plan analysis handWritten).map (·.artifact.path) =
      (config.pageFiles analysis).map (Path.join config.pageDirectory) := by
  rw [plan, indexPages, hindex, flatMap_modulePages hone, pageFiles, pageDirectory]
  cases hdoc : config.generation.writeDoc with
  | true =>
    have hapi : config.generation.writeApi = false := by simpa [hdoc] using hone
    simp only [hapi, Bool.false_eq_true, if_true, if_false, List.nil_append, List.append_nil,
      List.map_append, List.map_map, List.map_cons, List.map_nil]
    rfl
  | false =>
    have hapi : config.generation.writeApi = true := by simpa [hdoc] using hone
    simp only [hapi, Bool.false_eq_true, if_true, if_false, List.append_nil, List.map_append,
      List.map_map, List.map_cons, List.map_nil]
    rfl

theorem opensName_of_mem_pageFiles {file : String} (h : file ∈ config.pageFiles analysis) :
    Path.OpensName file := by
  rcases List.mem_append.mp h with h | h
  · obtain ⟨module, -, rfl⟩ := List.mem_map.mp h
    have hstem : Path.OpensName "__autodoc_module__" := ⟨'_', rfl, by decide, by decide⟩
    exact ((hstem.append module.name).append ".").append config.output.extension
  · rw [List.mem_singleton.mp h]
    have hindex : Path.OpensName "index." := ⟨'i', rfl, by decide, by decide⟩
    exact hindex.append config.output.extension

theorem nodup_pageFiles (h : (analysis.modules.map (·.name)).Nodup) :
    (config.pageFiles analysis).Nodup := by
  rw [pageFiles, List.nodup_append]
  refine ⟨?_, List.nodup_singleton _, ?_⟩
  · have hsome : ((if config.generation.writeApi then analysis.modules
        else analysis.modules.filter (·.hasDoc)).map (·.name)).Nodup := by
      split
      · exact h
      · exact h.sublist (List.filter_sublist.map _)
    rw [List.Nodup, List.pairwise_map] at hsome ⊢
    exact hsome.imp fun hne hfile => hne (name_of_file_eq hfile)
  · intro file hfile index hindex
    obtain ⟨module, -, rfl⟩ := List.mem_map.mp hfile
    rw [List.mem_singleton.mp hindex]
    exact file_ne_indexFile module config.output

theorem pageDirectory_ne_empty (h : config.check = .ok ()) : config.pageDirectory ≠ "" := by
  obtain ⟨-, hvalid⟩ := valid_of_check h
  have hjoin {path : String} (hpath : path ≠ "") : Path.join config.output.source path ≠ "" := by
    obtain ⟨before, hbefore⟩ := Path.exists_join_eq_append config.output.source path
    rw [hbefore]
    simp [hpath]
  rw [pageDirectory]
  split
  · exact hjoin (of_checkPath hvalid.apipath).1
  · exact hjoin (of_checkPath hvalid.docpath).1

end Config

namespace Disk

open FileTree

variable {config : Config} {analysis : Analysis} {before : FileTree}

theorem makePageDirectories_of_one
    (hone : config.generation.writeApi ≠ config.generation.writeDoc)
    (hindex : config.generation.writeIndex = false) :
    makePageDirectories config = ensureDirectory config.pageDirectory := by
  rw [makePageDirectories_eq, hindex, Config.pageDirectory]
  cases hdoc : config.generation.writeDoc with
  | true =>
    have hapi : config.generation.writeApi = false := by simpa [hdoc] using hone
    simp [ensureIf, hapi]
  | false =>
    have hapi : config.generation.writeApi = true := by simpa [hdoc] using hone
    simp [ensureIf, hapi]

/-- A run with pages of one kind is not refused if its directory is empty once it was made. -/
theorem generate_ne_collision (hnames : (analysis.modules.map (·.name)).Nodup)
    (hone : config.generation.writeApi ≠ config.generation.writeDoc)
    (hindex : config.generation.writeIndex = false)
    (hempty : MakesEmpty before config.pageDirectory) (path : String) :
    ((generate config analysis).exec before).1 ≠ .error (.collision path) := by
  have hfound : (findHandWritten config).exec before = (.ok false, before) := by
    rw [findHandWritten, hindex]
    rfl
  rw [generate_eq_perform, exec_bind_of_ok _ hfound, makePageDirectories_of_one hone hindex,
    exec_bind, ensureDirectory, exec_onFault]
  cases hmake : (makeDirectories config.pageDirectory).exec before with
  | mk answer start =>
    cases answer with
    | error fault => simp [Except.mapError]
    | ok _ =>
      obtain ⟨place, hfilled⟩ := Filled.of_hasEmpty (hempty start hmake)
      exact hfilled.perform_ne_collision (Config.map_path_plan_of_one hone hindex false)
        (fun _ => Config.opensName_of_mem_pageFiles) (Config.nodup_pageFiles hnames) path

/-- The modules of an analysis have distinct names that go on with a dot after that of the package,
and so their pages have distinct file names, none of which is that of an index. If pages of one
kind are made, no index of the output directory, and the directory of the pages is empty or
missing, a run is never refused because something is in the way of a page. A directory that is
missing has to be empty once it was made, as it is if its path turns back only among names that
are there. -/
theorem pages_never_collide {source : Source} {isExcluded : String → Bool} {order : MemberOrder}
    {root : String} {tree : FileTree} {analysis : Analysis} (hsource : source.Opened)
    (hanalysis : (Query.exec (Source.analyze isExcluded order root) tree source).1 =
      .ok analysis) :
    (analysis.modules.map (·.name)).Nodup ∧
      (∀ module ∈ analysis.modules, ∃ rest, module.name = root ++ "." ++ rest) ∧
      (analysis.modules.map (·.stem)).Nodup ∧
      (∀ module ∈ analysis.modules, module.stem ≠ "index") ∧
      ∀ (config : Config) (before : FileTree), config.check = .ok () →
        config.generation.writeApi ≠ config.generation.writeDoc →
        config.generation.writeIndex = false → before.WellFormed →
        (before.HasEmpty config.pageDirectory ∨
          before.hasPath config.pageDirectory = false ∧
            (before.LeadsOn config.pageDirectory ∨ MakesEmpty before config.pageDirectory)) →
        ∀ path, ((generate config analysis).exec before).1 ≠ .error (.collision path) := by
  obtain ⟨hdistinct, hinside⟩ := Source.below_of_analyze hsource hanalysis
  refine ⟨hdistinct, fun module hmodule => hinside _ (List.mem_map_of_mem hmodule), ?_,
    fun module _ => Descriptor.stem_ne_index module, ?_⟩
  · rw [List.Nodup, List.pairwise_map] at hdistinct ⊢
    exact hdistinct.imp fun hne hstem => hne (Descriptor.name_of_stem_eq hstem)
  · intro config before hcheck hone hindex hwell hvacant path
    refine generate_ne_collision hdistinct hone hindex ?_ path
    rcases hvacant with hempty | ⟨hmissing, hleads | hmakes⟩
    · exact makesEmpty_of_hasEmpty hwell hempty
    · exact makesEmpty_of_leadsOn hwell (Config.pageDirectory_ne_empty hcheck) hmissing hleads
    · exact hmakes

/-- A registry with a module whose name holds a slash. -/
def slashedRegistry : Registry :=
  Registry.ofListing [("p", { isPackage := true }), ("p.a", {}), ("p.b/c", {})]

theorem slashed_page_is_no_collision :
    (Query.exec (Source.analyze (fun _ => false) .alphabetical "p") {}
        (.ofRegistry slashedRegistry)).1 =
      .ok { package := "p", modules := [{ name := "p.a" }, { name := "p.b/c" }] } ∧
    ({} : FileTree).hasPath "source/generated/api" = false ∧
    ((generate {} { package := "p", modules := [{ name := "p.a" }, { name := "p.b/c" }] }).exec
      {}).1 ≠ .error (.collision "source/generated/api/__autodoc_module__p.b/c.rst") := by
  have hanalysis : (Query.exec (Source.analyze (fun _ => false) .alphabetical "p") {}
      (.ofRegistry slashedRegistry)).1 =
        .ok { package := "p", modules := [{ name := "p.a" }, { name := "p.b/c" }] } := by
    decide +kernel
  obtain ⟨-, -, -, -, hruns⟩ := pages_never_collide (.registry _) hanalysis
  have hmissing : ({} : FileTree).hasPath "source/generated/api" = false := by decide +kernel
  refine ⟨hanalysis, hmissing, hruns {} {} (by decide +kernel) (by decide) rfl (by decide +kernel)
    (Or.inr ⟨hmissing, Or.inl ⟨[], ["source", "generated", "api"], [], ?_, rfl, by decide⟩⟩) _⟩
  decide +kernel

/-- Pages in a directory whose path turns back from a name that is not there yet. -/
def turningOutput : Config := { output := { source := "s", apipath := "index.rst/.." } }

/-- A directory that is missing need not be empty once it was made: for `s/index.rst/..` first
`s/index.rst` is made, and that is in the way of the index then. -/
theorem made_directory_is_in_the_way :
    turningOutput.check = .ok () ∧
      turningOutput.generation.writeApi ≠ turningOutput.generation.writeDoc ∧
      turningOutput.generation.writeIndex = false ∧ ({} : FileTree).WellFormed ∧
      (Query.exec (Source.analyze (fun _ => false) .alphabetical "p") {}
        (.ofRegistry (Registry.ofListing [("p", { isPackage := true })]))).1 =
          .ok { package := "p" } ∧
      ({} : FileTree).hasPath turningOutput.pageDirectory = false ∧
      ((generate turningOutput { package := "p" }).exec {}).1 =
        .error (.collision "s/index.rst/../index.rst") := by
  refine ⟨?_, by decide, rfl, ?_, ?_, ?_, ?_⟩
  all_goals decide +kernel

end Disk

end DocStubs
