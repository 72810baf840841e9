import DocStubs.Packages
import DocStubs.Proofs.Files.Reach
import DocStubs.Proofs.Text.Identifier
import Mathlib.Data.List.Forall2
import Mathlib.Data.List.Nodup

/-!
# What can be imported from a directory

There are two ways to find what a name stands for in a directory: to list the directory, and to
look for the name alone. A listing goes by file names, so the first of several files for one name
counts; a search asks for a package, then for a source, then for a compiled module. Both prefer a
package, because the name of its directory comes before all file names with an ending. About
sources and compiled modules they can disagree, and `find?_of_mem` says when they do not.

## Main definitions

* `FileTree.Imports` — what an entry of a directory is as a module or package

## Main results

* `FileTree.pairwise_importables` — a listing is in the order of the names, each name once
* `FileTree.not_package_of_mem` — a package is listed before anything else of its name
* `FileTree.find?_of_mem` — where listing and searching agree
-/

namespace DocStubs

/-! ### Cutting names -/

theorem eq_append_of_withoutEnd? {ending text stem : String}
    (h : withoutEnd? ending text = some stem) : text = stem ++ ending := by
  rw [withoutEnd?] at h
  split at h
  · rename_i hsuffix
    cases h
    obtain ⟨start, hstart⟩ := List.isSuffixOf_iff_suffix.mp hsuffix
    refine String.toList_inj.mp ?_
    have hlength : text.length - ending.length = start.length := by
      rw [← String.length_toList, ← String.length_toList, ← hstart, List.length_append]
      omega
    rw [String.toList_append, String.toList_ofList, hlength, ← hstart, List.take_left]
  · cases h

/-- A name with a dot in it goes on with a dot after its first segment. -/
theorem Name.exists_eq_root_append {name : String} (h : '.' ∈ name.toList) :
    ∃ rest, name.toList = (Name.root name).toList ++ '.' :: rest := by
  rw [Name.root, Cut.first?]
  cases hfirst : Cut.firstOf? '.' name.toList with
  | none => exact absurd h (Cut.firstOf?_eq_none hfirst)
  | some found =>
    obtain ⟨before, after⟩ := found
    exact ⟨after, by simpa using Cut.firstOf?_eq_some hfirst⟩

/-! ### Entries -/

variable {ε α β : Type}

theorem exists_of_bind_eq_ok {first : Except ε α} {next : α → Except ε β} {result : β}
    (h : first >>= next = .ok result) : ∃ value, first = .ok value ∧ next value = .ok result := by
  cases first with
  | error error => cases h
  | ok value => exact ⟨value, rfl, h⟩

theorem exists_of_map_eq_ok {answer : Except ε α} {f : α → β} {result : β}
    (h : answer.map f = .ok result) : ∃ value, answer = .ok value ∧ f value = result := by
  cases answer with
  | error error => cases h
  | ok value => exact ⟨value, rfl, Except.ok.inj h⟩

theorem forall₂_of_mapM_eq_ok {f : α → Except ε β} {items : List α} {results : List β}
    (h : items.mapM f = .ok results) :
    List.Forall₂ (fun item result => f item = .ok result) items results := by
  induction items generalizing results with
  | nil =>
    cases h
    exact .nil
  | cons item rest ih =>
    rw [List.mapM_cons] at h
    obtain ⟨result, hitem, h⟩ := exists_of_bind_eq_ok h
    obtain ⟨others, hrest, h⟩ := exists_of_bind_eq_ok h
    cases h
    exact .cons hitem (ih hrest)

theorem isOk_map (answer : Except ε α) (f : α → β) : (answer.map f).isOk = answer.isOk := by
  cases answer <;> rfl

theorem isOk_mapM_iff {f : α → Except ε β} {items : List α} :
    (items.mapM f).isOk = true ↔ ∀ item ∈ items, (f item).isOk = true := by
  induction items with
  | nil => exact iff_of_true rfl (List.forall_mem_nil _)
  | cons item rest ih =>
    rw [List.forall_mem_cons, ← ih, List.mapM_cons]
    cases f item with
    | error error => exact iff_of_false Bool.false_ne_true fun h => Bool.false_ne_true h.1
    | ok result =>
      cases rest.mapM f with
      | error error => exact iff_of_false Bool.false_ne_true fun h => Bool.false_ne_true h.2
      | ok others => exact iff_of_true rfl ⟨rfl, rfl⟩

/-- If all items have results, the results of some of them are some of the results. -/
theorem mapM_filter_eq_ok {f : α → Except ε β} {items : List α} {results : List β}
    {keeps : α → Bool} {keeps' : β → Bool}
    (hkeeps : ∀ item result, f item = .ok result → keeps' result = keeps item)
    (h : items.mapM f = .ok results) :
    (items.filter keeps).mapM f = .ok (results.filter keeps') := by
  induction items generalizing results with
  | nil =>
    cases h
    rfl
  | cons item rest ih =>
    rw [List.mapM_cons] at h
    obtain ⟨result, hitem, h⟩ := exists_of_bind_eq_ok h
    obtain ⟨others, hrest, h⟩ := exists_of_bind_eq_ok h
    cases h
    rw [List.filter_cons, List.filter_cons, hkeeps item result hitem]
    split
    · rw [List.mapM_cons, hitem, ih hrest]
      rfl
    · exact ih hrest

namespace FileTree

variable {tree : FileTree} {directory : String} {place : Place} {entries : List Entry}
  {entry : Entry} {name : String} {location : Location} {found : List (String × Location)}

/-- A listing has an entry for each name in the directory that the path leads to. -/
theorem scan_cases (h : tree.scan directory = .ok entries) :
    entries = [] ∨ ∃ place, tree.lookup .reach directory = .ok (.node place .directory) ∧
      List.Forall₂ (fun name entry =>
        tree.entryAt [⟨place, directory⟩] name (Path.join directory name)
          ((tree.node? (place ++ [name])).getD .special) = .ok entry)
        (tree.namesIn place) entries := by
  rw [scan, start?] at h
  cases hinspect : orFault directory (tree.reached .inspect directory) with
  | error fault =>
    rw [hinspect] at h
    cases h
  | ok _ =>
    cases hreach : tree.reached .reach directory with
    | error fault =>
      rw [hinspect, hreach] at h
      cases h
    | ok landed =>
      obtain ⟨place, node⟩ := landed
      rw [hinspect, hreach] at h
      have hlookup := reached_eq_ok_iff.mp hreach
      cases node with
      | directory => exact Or.inr ⟨place, hlookup, forall₂_of_mapM_eq_ok h⟩
      | file _ | link _ | special =>
        cases h
        exact Or.inl rfl

theorem entryAt_eq_ok {ancestors : List Ancestor} {path : String} {node : Node}
    (h : tree.entryAt ancestors name path node = .ok entry) :
    entry.name = name ∧ entry.path = path ∧
      if node.isLink then tree.through ancestors path = .ok entry.node else entry.node = node := by
  rw [entryAt] at h
  split at h
  · rename_i hlink
    obtain ⟨reached, hthrough, rfl⟩ := exists_of_map_eq_ok h
    exact ⟨rfl, rfl, by rw [if_pos hlink, hthrough]⟩
  · rename_i hlink
    cases h
    exact ⟨rfl, rfl, by rw [if_neg hlink]⟩

theorem map_name_eq_namesIn
    (h : List.Forall₂ (fun name entry =>
      tree.entryAt [⟨place, directory⟩] name (Path.join directory name)
        ((tree.node? (place ++ [name])).getD .special) = .ok entry)
      (tree.namesIn place) entries) :
    entries.map (·.name) = tree.namesIn place := by
  generalize tree.namesIn place = names at h
  induction h with
  | nil => rfl
  | cons hentry _ ih => rw [List.map_cons, ih, (entryAt_eq_ok hentry).1]

/-- The entries of a listing are in the order of their names. -/
theorem pairwise_scan (h : tree.scan directory = .ok entries) :
    entries.Pairwise fun entry other => entry.name ≤ other.name := by
  rcases scan_cases h with rfl | ⟨place, -, hentries⟩
  · exact List.Pairwise.nil
  · have hsorted := pairwise_namesIn tree place
    rwa [← map_name_eq_namesIn hentries, List.pairwise_map] at hsorted

/-! ### Modules and packages -/

/-- What an entry of a directory is as a module or package. -/
inductive Imports (tree : FileTree) (entry : Entry) : String × Location → Prop
  | package (directory : entry.node.isDirectory = true)
      (init : tree.hasFile (Path.join entry.path initFile) = true) :
      Imports tree entry (entry.name, .package entry.path)
  | source {stem : String} (named : entry.name = stem ++ ".py") :
      Imports tree entry (stem, .source entry.path)
  | compiled {stem : String} {ending : List Char}
      (named : entry.name.toList = stem.toList ++ '.' :: ending) :
      Imports tree entry (stem, .compiled entry.path)

theorem imports_of_importable? {item : String × Location}
    (h : tree.importable? entry = some item) : tree.Imports entry item := by
  rw [importable?] at h
  split at h
  · rename_i hdirectory
    split at h
    · rename_i hinit
      cases h
      exact .package hdirectory hinit
    · cases h
  · rw [moduleFile?] at h
    split at h
    · rename_i stem hstem
      split at h
      · cases h
      · cases h
        exact .source (eq_append_of_withoutEnd? hstem)
    · split at h
      · rename_i hending
        cases h
        obtain ⟨ending, hmem, hsome⟩ := List.any_eq_true.mp hending
        obtain ⟨stem, hstem⟩ := Option.isSome_iff_exists.mp hsome
        have hdot : '.' ∈ entry.name.toList := by
          rw [eq_append_of_withoutEnd? hstem, String.toList_append]
          refine List.mem_append_right _ ?_
          simp only [compiledEndings, List.mem_cons, List.not_mem_nil, or_false] at hmem
          rcases hmem with rfl | rfl <;> simp
        obtain ⟨rest, hrest⟩ := Name.exists_eq_root_append hdot
        exact .compiled hrest
      · cases h

/-- The name of an entry is that of its module, followed by nothing or by a dot. -/
theorem Imports.exists_tail {item : String × Location} (h : tree.Imports entry item) :
    ∃ tail, IsTail tail ∧ entry.name.toList = item.1.toList ++ tail ∧
      (item.2.isPackage = true ↔ tail = []) := by
  cases h with
  | package directory init => exact ⟨[], Or.inl rfl, by simp, by simp [Location.isPackage]⟩
  | source named =>
    exact ⟨['.', 'p', 'y'], Or.inr ⟨_, rfl⟩, by simp [named], by simp [Location.isPackage]⟩
  | @compiled stem ending named =>
    exact ⟨'.' :: ending, Or.inr ⟨_, rfl⟩, named, by simp [Location.isPackage]⟩

/-! ### The first item for each name -/

/-- An item is listed if none of its name comes before it. -/
theorem exists_of_mem_firstOfEach {items : List (String × Location)} {item : String × Location}
    (h : item ∈ firstOfEach items) :
    ∃ before after, items = before ++ item :: after ∧ ∀ other ∈ before, other.1 ≠ item.1 := by
  induction items with
  | nil => cases h
  | cons first rest ih =>
    rw [firstOfEach] at h
    rcases List.mem_cons.mp h with rfl | h
    · exact ⟨[], rest, rfl, fun _ hother => nomatch hother⟩
    · obtain ⟨hmem, hne⟩ := List.mem_filter.mp h
      obtain ⟨before, after, hrest, hbefore⟩ := ih hmem
      refine ⟨first :: before, after, by rw [hrest, List.cons_append], fun other hother => ?_⟩
      rcases List.mem_cons.mp hother with rfl | hother
      · exact Ne.symm (of_decide_eq_true hne)
      · exact hbefore other hother

theorem sublist_firstOfEach (items : List (String × Location)) :
    (firstOfEach items).Sublist items := by
  induction items with
  | nil => exact List.Sublist.refl _
  | cons item rest ih => exact (List.filter_sublist.trans ih).cons_cons item

theorem pairwise_ne_firstOfEach (items : List (String × Location)) :
    (firstOfEach items).Pairwise fun item other => item.1 ≠ other.1 := by
  induction items with
  | nil => exact List.Pairwise.nil
  | cons item rest ih =>
    refine List.Pairwise.cons (fun other hother => ?_) (ih.filter _)
    exact Ne.symm (of_decide_eq_true (List.mem_filter.mp hother).2)

/-! ### Listings -/

/-- The modules and packages among entries, with several for one name. -/
def candidates (tree : FileTree) (entries : List Entry) : List (String × Location) :=
  (entries.filterMap tree.importable?).filter fun found => isIdentifier found.1

theorem importables_eq_ok (h : tree.importables directory = .ok found) :
    ∃ entries, tree.scan directory = .ok entries ∧
      found = firstOfEach (tree.candidates entries) := by
  rw [importables] at h
  obtain ⟨entries, hscan, rfl⟩ := exists_of_map_eq_ok h
  exact ⟨entries, hscan, rfl⟩

theorem mem_candidates {item : String × Location} (h : item ∈ tree.candidates entries) :
    isIdentifier item.1 = true ∧ ∃ entry ∈ entries, tree.Imports entry item := by
  obtain ⟨hmem, hident⟩ := List.mem_filter.mp h
  obtain ⟨entry, hentry, hitem⟩ := List.mem_filterMap.mp hmem
  exact ⟨hident, entry, hentry, imports_of_importable? hitem⟩

/-- Names come in order, and a package before all else of its name. -/
def Precedes (item other : String × Location) : Prop :=
  item.1 ≤ other.1 ∧ (item.1 = other.1 → other.2.isPackage = true → item.2.isPackage = true)

theorem Imports.precedes {entry other : Entry} {item item' : String × Location}
    (hentry : tree.Imports entry item) (hother : tree.Imports other item')
    (hident : isIdentifier item.1 = true) (hle : entry.name ≤ other.name) :
    Precedes item item' := by
  obtain ⟨tail, htail, hname, hpackage⟩ := hentry.exists_tail
  obtain ⟨tail', htail', hname', hpackage'⟩ := hother.exists_tail
  refine ⟨String.not_lt.mp fun hlt => ?_, fun hsame hother => ?_⟩
  · -- The longer names would be the other way round.
    refine String.not_lt.mpr hle ?_
    rw [String.lt_iff, hname, hname']
    exact append_lt_append (fun c hc => slash_lt_of_mem_identifier hident hc) htail' hlt
  · rw [hpackage'] at hother
    rw [hpackage]
    rcases htail with rfl | ⟨rest, rfl⟩
    · rfl
    · refine absurd ?_ (String.not_lt.mpr hle)
      rw [String.lt_iff, hname, hname', hsame, hother]
      exact List.append_left_lt (List.nil_lt_cons _ _)

theorem pairwise_candidates (h : tree.scan directory = .ok entries) :
    (tree.candidates entries).Pairwise Precedes := by
  rw [candidates]
  rw [List.filter_filterMap]
  refine (pairwise_scan h).filterMap _ fun entry other hle item hitem item' hitem' => ?_
  obtain ⟨hsome, hident⟩ := Option.filter_eq_some_iff.mp hitem
  obtain ⟨hsome', -⟩ := Option.filter_eq_some_iff.mp hitem'
  exact (imports_of_importable? hsome).precedes (imports_of_importable? hsome') hident hle

/-- A listing is in the order of the names, each name once. -/
theorem pairwise_importables (h : tree.importables directory = .ok found) :
    found.Pairwise fun item other => item.1 < other.1 := by
  obtain ⟨entries, hscan, rfl⟩ := importables_eq_ok h
  have hle := (pairwise_candidates hscan).sublist (sublist_firstOfEach _)
  refine (hle.and (pairwise_ne_firstOfEach _)).imp fun ⟨⟨hle, _⟩, hne⟩ => ?_
  exact Std.lt_of_le_of_ne hle hne

theorem isIdentifier_of_mem (h : tree.importables directory = .ok found)
    (hmem : (name, location) ∈ found) : isIdentifier name = true := by
  obtain ⟨entries, hscan, rfl⟩ := importables_eq_ok h
  exact (mem_candidates ((sublist_firstOfEach _).subset hmem)).1

/-! ### Packages in a listing -/

theorem exists_mem_of_forall₂ {α β : Type} {relation : α → β → Prop} {items : List α}
    {results : List β} (h : List.Forall₂ relation items results) {item : α} (hitem : item ∈ items) :
    ∃ result ∈ results, relation item result := by
  induction h with
  | nil => cases hitem
  | cons hfirst _ ih =>
    rcases List.mem_cons.mp hitem with rfl | hitem
    · exact ⟨_, List.mem_cons_self, hfirst⟩
    · obtain ⟨result, hresult, hrelation⟩ := ih hitem
      exact ⟨result, List.mem_cons_of_mem _ hresult, hrelation⟩

/-- A directory that holds the file of a package is listed as a directory. -/
theorem exists_entry_of_hasFile (hident : isIdentifier name = true)
    (hlookup : tree.lookup .reach directory = .ok (.node place .directory))
    (hentries : List.Forall₂ (fun name entry =>
      tree.entryAt [⟨place, directory⟩] name (Path.join directory name)
        ((tree.node? (place ++ [name])).getD .special) = .ok entry)
      (tree.namesIn place) entries)
    (hinit : tree.hasFile (Path.join (Path.join directory name) initFile) = true) :
    ∃ entry ∈ entries, entry.name = name ∧ entry.path = Path.join directory name ∧
      entry.node.isDirectory = true := by
  have hname := isName_of_isIdentifier hident
  have hrelative := hname.isAbsolute_eq_false
  obtain ⟨left, hdirectory⟩ := (lookup_eq_ok_iff.mp hlookup).2.enters
  have hnames : Path.names (Path.join directory name) = Path.names directory ++ [name] := by
    rw [Path.names_join directory hrelative, hname.names_eq]
  have horigin := tree.origin_join directory hrelative
  -- The path of the file leads through the directory and the name in it.
  obtain ⟨file, content, hfile⟩ := hasFile_iff.mp hinit
  have hinner := (lookup_eq_ok_iff.mp hfile).2
  rw [Path.names_join _ rfl, hnames, origin_join _ _ rfl, horigin,
    leads_append_iff (by decide)] at hinner
  obtain ⟨inner, left', henters, -⟩ := hinner
  obtain ⟨place', left'', hplace', hlast⟩ := enters_append_iff.mp henters
  obtain rfl := hdirectory.unique hplace'
  have hsome : (tree.node? (place ++ [name])).isSome = true := by
    refine (hlast.leads false).isSome_node? hname.ne_dot hname.ne_dots
  obtain ⟨entry, hentry, hat⟩ := exists_mem_of_forall₂ hentries (mem_namesIn_iff.mpr hsome)
  obtain ⟨hentryName, hentryPath, hnode⟩ := entryAt_eq_ok hat
  refine ⟨entry, hentry, hentryName, hentryPath, ?_⟩
  cases hlast with
  | dot => exact absurd rfl hname.ne_dot
  | dots => exact absurd rfl hname.ne_dots
  | directory ordinary there onward =>
    rw [there] at hnode
    rw [show entry.node = .directory from hnode]
    rfl
  | through ordinary there target_ne onward =>
    rw [there] at hnode
    obtain ⟨reached, hreached, -⟩ := through_eq_ok_iff.mp hnode
    have hinside := (lookup_eq_ok_iff.mp hreached).2
    rw [hnames, horigin] at hinside
    have hsame := hinside.unique (henters.leads _)
    rw [Found.node.injEq] at hsame
    rw [hsame.2]
    rfl

/-- A package is listed before anything else of its name. -/
theorem not_package_of_mem (h : tree.importables directory = .ok found)
    (hmem : (name, location) ∈ found) (hlocation : location.isPackage = false) :
    tree.hasFile (Path.join (Path.join directory name) initFile) = false := by
  have hident := isIdentifier_of_mem h hmem
  obtain ⟨entries, hscan, rfl⟩ := importables_eq_ok h
  obtain ⟨before, after, hsplit, hbefore⟩ := exists_of_mem_firstOfEach hmem
  rcases scan_cases hscan with rfl | ⟨place, hlookup, hentries⟩
  · cases hmem
  refine Bool.eq_false_iff.mpr fun hinit => ?_
  obtain ⟨entry, hentry, hname, hpath, hdirectory⟩ :=
    exists_entry_of_hasFile hident hlookup hentries hinit
  have hcandidate : (name, Location.package entry.path) ∈ tree.candidates entries := by
    refine List.mem_filter.mpr ⟨List.mem_filterMap.mpr ⟨entry, hentry, ?_⟩, hident⟩
    rw [importable?, if_pos hdirectory, hpath, if_pos hinit, hname]
  have hordered := pairwise_candidates hscan
  rw [hsplit] at hcandidate hordered
  rcases List.mem_append.mp hcandidate with hearlier | hlater
  · exact hbefore _ hearlier rfl
  · rcases List.mem_cons.mp hlater with hsame | hlater
    · cases hsame
      cases hlocation
    · have hprecedes := List.rel_of_pairwise_cons (List.pairwise_append.mp hordered).2.1 hlater
      rw [hprecedes.2 rfl rfl] at hlocation
      cases hlocation

/-- Where the file or directory of a listed item is. -/
theorem location_of_mem (h : tree.importables directory = .ok found)
    (hmem : (name, location) ∈ found) :
    (location = .package (Path.join directory name) ∧
        tree.hasFile (Path.join (Path.join directory name) initFile) = true) ∨
      location = .source (Path.join directory (name ++ ".py")) ∨
      ∃ path, location = .compiled path := by
  obtain ⟨entries, hscan, rfl⟩ := importables_eq_ok h
  obtain ⟨-, entry, hentry, himports⟩ := mem_candidates ((sublist_firstOfEach _).subset hmem)
  have hpath : entry.path = Path.join directory entry.name := by
    rcases scan_cases hscan with rfl | ⟨place, -, hentries⟩
    · cases hentry
    · obtain ⟨name, -, hat⟩ := exists_mem_of_forall₂ hentries.flip hentry
      obtain ⟨hname, hpath, -⟩ := entryAt_eq_ok hat
      rw [hpath, hname]
  cases himports with
  | package isDirectory init =>
    rw [hpath] at init ⊢
    exact Or.inl ⟨rfl, init⟩
  | source named =>
    rw [hpath, named]
    exact Or.inr (Or.inl rfl)
  | compiled named => exact Or.inr (Or.inr ⟨_, rfl⟩)

/-! ### Listing and searching -/

/-- Each name is listed once. -/
theorem find?_importables (h : tree.importables directory = .ok found)
    (hmem : (name, location) ∈ found) :
    found.find? (fun item => item.1 = name && item.2.isCompiled) =
      if location.isCompiled then some (name, location) else none := by
  have hunique : ∀ item ∈ found, item.1 = name → item = (name, location) := by
    intro item hitem hname
    have hdistinct := (pairwise_importables h).imp fun hlt => Std.ne_of_lt hlt
    exact List.inj_on_of_nodup_map (List.pairwise_map.mpr hdistinct) hitem hmem hname
  split
  · rename_i hcompiled
    cases hfind : found.find? (fun item => item.1 = name && item.2.isCompiled) with
    | none =>
      have hnone := List.find?_eq_none.mp hfind _ hmem
      simp [hcompiled] at hnone
    | some item =>
      have htest := List.find?_some hfind
      rw [Bool.and_eq_true, decide_eq_true_eq] at htest
      rw [hunique item (List.mem_of_find?_eq_some hfind) htest.1]
  · rename_i hcompiled
    refine List.find?_eq_none.mpr fun item hitem htest => hcompiled ?_
    rw [Bool.and_eq_true, decide_eq_true_eq] at htest
    rw [hunique item hitem htest.1] at htest
    exact htest.2

/-- What a listing and a search agree on: a listed source is a file, and there is no source beside
a listed compiled module. -/
def Agrees (tree : FileTree) (directory name : String) : Location → Prop
  | .package _ => True
  | .source path => tree.hasFile path = true
  | .compiled _ => tree.hasFile (Path.join directory (name ++ ".py")) = false

theorem find?_of_not_package {directory name : String}
    (hpackage : tree.hasFile (Path.join (Path.join directory name) initFile) = false) :
    tree.find? directory name =
      if tree.hasFile (Path.join directory (name ++ ".py")) then
        some (.source (Path.join directory (name ++ ".py")))
      else
        match tree.importables directory with
        | .ok found => (found.find? fun item => item.1 = name && item.2.isCompiled).map (·.2)
        | .error _ => none := by
  rw [find?]
  exact if_neg (ne_true_of_eq_false hpackage)

/-- A listed item is what a search finds, if both agree on it. -/
theorem find?_of_mem (h : tree.importables directory = .ok found)
    (hmem : (name, location) ∈ found) (hagrees : tree.Agrees directory name location) :
    tree.find? directory name = some location := by
  rcases location_of_mem h hmem with ⟨rfl, hinit⟩ | rfl | ⟨path, rfl⟩
  · rw [find?]
    rw [if_pos hinit]
  · have hfile : tree.hasFile (Path.join directory (name ++ ".py")) = true := hagrees
    rw [find?_of_not_package (not_package_of_mem h hmem rfl), if_pos hfile]
  · have hfile : tree.hasFile (Path.join directory (name ++ ".py")) = false := hagrees
    rw [find?_of_not_package (not_package_of_mem h hmem rfl), hfile, h]
    dsimp only
    rw [find?_importables h hmem]
    rfl

/-- A search does not find a listed source that is no file. -/
theorem find?_of_mem_source {path : String} (h : tree.importables directory = .ok found)
    (hmem : (name, .source path) ∈ found) (hfile : tree.hasFile path = false) :
    tree.find? directory name = none := by
  rcases location_of_mem h hmem with ⟨hlocation, -⟩ | hlocation | ⟨_, hlocation⟩
  · cases hlocation
  · cases hlocation
    rw [find?_of_not_package (not_package_of_mem h hmem rfl), hfile, h]
    dsimp only
    rw [find?_importables h hmem]
    rfl
  · cases hlocation

/-- A search finds a source before a listed compiled module. -/
theorem find?_of_mem_compiled {path : String} (h : tree.importables directory = .ok found)
    (hmem : (name, .compiled path) ∈ found)
    (hfile : tree.hasFile (Path.join directory (name ++ ".py")) = true) :
    tree.find? directory name = some (.source (Path.join directory (name ++ ".py"))) := by
  rw [find?_of_not_package (not_package_of_mem h hmem rfl), if_pos hfile]

end FileTree

end DocStubs
