import DocStubs.Proofs.Files.Depth
import DocStubs.Proofs.Packages.Memory
import DocStubs.Proofs.Text.ByteOrder

/-!
# What a package lists

A directory is listed by file names, with their endings and tags, and what is listed are the names
of modules. Still the modules come in order and none comes twice: in the order of file names nothing
comes between a module and what follows it after a dot. This is why the directory of a package comes
first of all the files of its name, and why the order of the files is that of the modules.

A listing sees through links. One link that leads nowhere, or back to the directory, is enough that
nothing is listed, whatever its name is.

## Main definitions

* `FileTree.Sees` — what is under a name in a directory, with links followed
* `FileTree.LinksLeadOn` — the links in a directory that a listing can pass
* `FileTree.HoldsPackage`, `FileTree.HoldsSource`, `FileTree.HoldsCompiled` — what makes a name one
  that can be imported

## Main results

* `FileTree.isOk_scan_iff` — when a directory can be listed
* `FileTree.mem_importables_iff` — what can be imported from it
* `Packages.children_are_importable_entries` — what a package lists
-/

namespace DocStubs

/-! ### Endings -/

theorem withoutEnd?_eq_some_iff {ending text stem : String} :
    withoutEnd? ending text = some stem ↔ text = stem ++ ending := by
  refine ⟨eq_append_of_withoutEnd?, ?_⟩
  rintro rfl
  have hsuffix : ending.toList.isSuffixOf (stem ++ ending).toList = true := by
    rw [List.isSuffixOf_iff_suffix, String.toList_append]
    exact List.suffix_append _ _
  have hstem : (stem ++ ending).toList.take ((stem ++ ending).length - ending.length) =
      stem.toList := by
    rw [String.length_append, Nat.add_sub_cancel, String.toList_append, ← String.length_toList,
      List.take_left]
  rw [withoutEnd?, if_pos hsuffix, hstem, String.ofList_toList]

/-- A file name is that of a compiled module: it goes on with a dot, and it ends like one. -/
structure NamesCompiled (stem name : String) : Prop where
  dotted : ∃ rest, name = stem ++ "." ++ rest
  ends : ∃ start, name = start ++ ".so" ∨ name = start ++ ".pyd"

theorem any_compiledEndings_iff {name : String} :
    (compiledEndings.any fun ending => (withoutEnd? ending name).isSome) = true ↔
      ∃ start, name = start ++ ".so" ∨ name = start ++ ".pyd" := by
  simp only [compiledEndings, List.any_cons, List.any_nil, Bool.or_false, Bool.or_eq_true,
    Option.isSome_iff_exists, withoutEnd?_eq_some_iff, exists_or]

theorem Name.root_eq_iff {stem name : String} (hdot : '.' ∈ name.toList)
    (hstem : '.' ∉ stem.toList) : Name.root name = stem ↔ ∃ rest, name = stem ++ "." ++ rest := by
  constructor
  · rintro rfl
    obtain ⟨rest, hrest⟩ := Name.exists_eq_root_append hdot
    exact ⟨String.ofList rest, String.toList_inj.mp (by simpa using hrest)⟩
  · rintro ⟨rest, rfl⟩
    have hsplit : (stem ++ "." ++ rest).toList = stem.toList ++ '.' :: rest.toList := by simp
    rw [Name.root, Cut.first?, hsplit, Cut.firstOf?_append_cons hstem]
    simp

/-- What a file is as a module, by its name. -/
theorem moduleFile?_eq_some_iff {name path stem : String} {location : Location}
    (hstem : '.' ∉ stem.toList) :
    moduleFile? name path = some (stem, location) ↔
      (name = stem ++ ".py" ∧ stem ≠ "__init__" ∧ location = .source path) ∨
        (NamesCompiled stem name ∧ location = .compiled path) := by
  rw [moduleFile?]
  cases hsource : withoutEnd? ".py" name with
  | some other =>
    obtain rfl := withoutEnd?_eq_some_iff.mp hsource
    have hending : ¬ NamesCompiled stem (other ++ ".py") := by
      rintro ⟨-, start, hso | hpyd⟩
      · have hlast := congrArg (·.toList.getLast?) hso
        simp at hlast
      · have hlast := congrArg (·.toList.getLast?) hpyd
        simp at hlast
    have hsame : other ++ ".py" = stem ++ ".py" ↔ other = stem := by
      simp [← String.toList_inj]
    simp only [hending, false_and, or_false, hsame]
    by_cases hinit : other = "__init__"
    · subst hinit
      simp only [if_true, reduceCtorEq, false_iff, not_and]
      exact fun hstem hne => absurd hstem.symm hne
    · rw [if_neg hinit]
      constructor
      · rintro h
        cases h
        exact ⟨rfl, hinit, rfl⟩
      · rintro ⟨rfl, -, rfl⟩
        rfl
  | none =>
    have hno : name ≠ stem ++ ".py" := fun hname => by
      rw [withoutEnd?_eq_some_iff.mpr hname] at hsource
      cases hsource
    simp only [hno, false_and, false_or]
    by_cases hends : ∃ start, name = start ++ ".so" ∨ name = start ++ ".pyd"
    · have hdot : '.' ∈ name.toList := by
        obtain ⟨start, rfl | rfl⟩ := hends <;> simp
      rw [if_pos (any_compiledEndings_iff.mpr hends), Option.some.injEq, Prod.mk.injEq,
        Name.root_eq_iff hdot hstem, eq_comm (a := Location.compiled path)]
      exact and_congr_left fun _ => ⟨fun hdotted => ⟨hdotted, hends⟩, fun h => h.dotted⟩
    · rw [if_neg (any_compiledEndings_iff.not.mpr hends)]
      exact iff_of_false (by simp) fun h => hends h.1.ends

namespace FileTree

variable {tree : FileTree} {directory name leaf : String} {place : Place} {entries : List Entry}
  {entry : Entry} {node : Node} {location : Location} {found : List (String × Location)}

/-! ### Looking at a directory -/

theorem start?_of_lookup (h : tree.lookup .reach directory = .ok (.node place .directory)) :
    tree.start? directory = .ok (some ⟨place, directory⟩) := by
  obtain ⟨husable, hleads⟩ := lookup_eq_ok_iff.mp h
  obtain ⟨other, node, hinspect, -⟩ := hleads.inspect_of_reach
  rw [start?, reached_eq_ok_iff.mpr (lookup_eq_ok_iff.mpr ⟨husable, hinspect⟩),
    reached_eq_ok_iff.mpr h]
  rfl

/-- The links in a directory lead somewhere, and not back to the directory. -/
def LinksLeadOn (tree : FileTree) (directory : String) (place : Place) : Prop :=
  ∀ name target, tree.node? (place ++ [name]) = some (.link target) →
    ∃ other node, tree.lookup .reach (Path.join directory name) = .ok (.node other node) ∧
      (node = .directory → other ≠ place)

theorem isOk_through_iff {path : String} :
    (tree.through [⟨place, directory⟩] path).isOk = true ↔
      ∃ other node, tree.lookup .reach path = .ok (.node other node) ∧
        (node = .directory → other ≠ place) := by
  constructor
  · intro h
    cases hthrough : tree.through [⟨place, directory⟩] path with
    | error fault =>
      rw [hthrough] at h
      cases h
    | ok node =>
      obtain ⟨other, hlookup, hnew⟩ := through_eq_ok_iff.mp hthrough
      exact ⟨other, node, hlookup, by simpa using hnew⟩
  · rintro ⟨other, node, hlookup, hnew⟩
    rw [through_eq_ok_iff.mpr ⟨other, hlookup, by simpa using hnew⟩]
    rfl

/-- A directory can be listed if all its links can be passed. -/
theorem isOk_scan_iff (h : tree.lookup .reach directory = .ok (.node place .directory)) :
    (tree.scan directory).isOk = true ↔ tree.LinksLeadOn directory place := by
  have hscan : tree.scan directory = (tree.namesIn place).mapM fun name =>
      tree.entryAt [⟨place, directory⟩] name (Path.join directory name)
        ((tree.node? (place ++ [name])).getD .special) := by
    rw [scan, start?_of_lookup h]
    rfl
  rw [hscan, isOk_mapM_iff]
  constructor
  · intro hentries name target hlink
    have hentry := hentries name (mem_namesIn_iff.mpr (by rw [hlink]; rfl))
    rw [hlink, Option.getD_some, entryAt, if_pos (show (Node.link target).isLink = true from rfl),
      isOk_map] at hentry
    exact isOk_through_iff.mp hentry
  · intro hlinks name hname
    obtain ⟨node, hnode⟩ := Option.isSome_iff_exists.mp (mem_namesIn_iff.mp hname)
    rw [hnode, Option.getD_some, entryAt]
    split
    · rename_i hlink
      rw [isOk_map]
      cases node with
      | link target => exact isOk_through_iff.mpr (hlinks name target hnode)
      | file _ | directory | special => cases hlink
    · rfl

/-! ### What a listing sees -/

/-- What is under a name in a directory: what is there, or what the path leads to if that is a
link. -/
inductive Sees (tree : FileTree) (directory : String) (place : Place) (name : String) :
    Node → Prop
  | plain {node : Node} (there : tree.node? (place ++ [name]) = some node)
      (not_link : node.isLink = false) : Sees tree directory place name node
  | through {target : String} {other : Place} {node : Node}
      (there : tree.node? (place ++ [name]) = some (.link target))
      (leads : tree.lookup .reach (Path.join directory name) = .ok (.node other node)) :
      Sees tree directory place name node

theorem Sees.unique {other : Node} (h : tree.Sees directory place name node)
    (h' : tree.Sees directory place name other) : node = other := by
  cases h with
  | plain there not_link =>
    cases h' with
    | plain there' _ =>
      rw [there] at there'
      exact Option.some.inj there'
    | through there' _ =>
      rw [there] at there'
      cases there'
      cases not_link
  | through there leads =>
    cases h' with
    | plain there' not_link =>
      rw [there] at there'
      cases there'
      cases not_link
    | through there' leads' =>
      rw [leads] at leads'
      cases leads'
      rfl

theorem Sees.mem_namesIn (h : tree.Sees directory place name node) :
    name ∈ tree.namesIn place := by
  cases h with
  | plain there | through there => exact mem_namesIn_iff.mpr (by rw [there]; rfl)

theorem sees_of_entryAt {path : String} (hpath : path = Path.join directory name)
    (hname : name ∈ tree.namesIn place)
    (h : tree.entryAt [⟨place, directory⟩] name path
      ((tree.node? (place ++ [name])).getD .special) = .ok entry) :
    tree.Sees directory place name entry.node := by
  obtain ⟨node, hnode⟩ := Option.isSome_iff_exists.mp (mem_namesIn_iff.mp hname)
  rw [hnode, Option.getD_some] at h
  obtain ⟨-, -, hentry⟩ := entryAt_eq_ok h
  split at hentry
  · rename_i hlink
    cases node with
    | link target =>
      obtain ⟨other, hleads, -⟩ := through_eq_ok_iff.mp hentry
      exact .through hnode (hpath ▸ hleads)
    | file _ | directory | special => cases hlink
  · rename_i hlink
    rw [hentry]
    exact .plain hnode (Bool.eq_false_iff.mpr hlink)

/-- A listing has an entry for whatever is seen under a name. -/
theorem mem_scan_iff (hlookup : tree.lookup .reach directory = .ok (.node place .directory))
    (h : tree.scan directory = .ok entries) :
    entry ∈ entries ↔ entry.path = Path.join directory entry.name ∧
      tree.Sees directory place entry.name entry.node := by
  have hentries : List.Forall₂ (fun name entry =>
      tree.entryAt [⟨place, directory⟩] name (Path.join directory name)
        ((tree.node? (place ++ [name])).getD .special) = .ok entry)
      (tree.namesIn place) entries := by
    rw [scan, start?_of_lookup hlookup] at h
    exact forall₂_of_mapM_eq_ok h
  constructor
  · intro hentry
    obtain ⟨name, hname, hat⟩ := exists_mem_of_forall₂ hentries.flip hentry
    obtain ⟨rfl, hpath, -⟩ := entryAt_eq_ok hat
    exact ⟨hpath, sees_of_entryAt rfl hname hat⟩
  · rintro ⟨hpath, hsees⟩
    obtain ⟨other, hother, hat⟩ := exists_mem_of_forall₂ hentries hsees.mem_namesIn
    obtain ⟨hname, hpath', -⟩ := entryAt_eq_ok hat
    have hnode := (sees_of_entryAt rfl hsees.mem_namesIn hat).unique hsees
    obtain rfl : other = entry := by
      cases other
      cases entry
      simp_all
    exact hother

/-! ### What can be imported -/

/-- There is a directory with the name, and the file of a package is in it. -/
def HoldsPackage (tree : FileTree) (directory : String) (place : Place) (leaf : String) : Prop :=
  tree.Sees directory place leaf .directory ∧
    tree.hasFile (Path.join (Path.join directory leaf) initFile) = true

/-- There is a source with the name, other than the file of a package. -/
def HoldsSource (tree : FileTree) (directory : String) (place : Place) (leaf : String) : Prop :=
  leaf ≠ "__init__" ∧
    ∃ node, tree.Sees directory place (leaf ++ ".py") node ∧ node.isDirectory = false

/-- There is a compiled module with the name. -/
def HoldsCompiled (tree : FileTree) (directory : String) (place : Place) (leaf : String) : Prop :=
  ∃ name node, NamesCompiled leaf name ∧ tree.Sees directory place name node ∧
    node.isDirectory = false

/-- What an entry is as a module or package. -/
theorem holds_of_importable? (hleaf : '.' ∉ leaf.toList)
    (hpath : entry.path = Path.join directory entry.name)
    (hsees : tree.Sees directory place entry.name entry.node)
    (h : tree.importable? entry = some (leaf, location)) :
    (location.isPackage = true ∧ tree.HoldsPackage directory place leaf) ∨
      location.isPackage = false ∧
        (tree.HoldsSource directory place leaf ∨ tree.HoldsCompiled directory place leaf) := by
  rw [importable?] at h
  split at h
  · rename_i hdirectory
    split at h
    · rename_i hinit
      cases h
      refine Or.inl ⟨rfl, ?_, hpath ▸ hinit⟩
      cases hnode : entry.node with
      | directory => rwa [hnode] at hsees
      | file _ | link _ | special =>
        rw [hnode] at hdirectory
        cases hdirectory
    · cases h
  · rename_i hfile
    rw [Bool.not_eq_true] at hfile
    rcases (moduleFile?_eq_some_iff hleaf).mp h with ⟨hname, hinit, rfl⟩ | ⟨hname, rfl⟩
    · exact Or.inr ⟨rfl, Or.inl ⟨hinit, entry.node, hname ▸ hsees, hfile⟩⟩
    · exact Or.inr ⟨rfl, Or.inr ⟨entry.name, entry.node, hname, hsees, hfile⟩⟩

/-- What is listed for a name, before one of several is chosen. -/
theorem exists_importable?_iff
    (hlookup : tree.lookup .reach directory = .ok (.node place .directory))
    (h : tree.scan directory = .ok entries) (hleaf : '.' ∉ leaf.toList) :
    (∃ entry ∈ entries, ∃ location, tree.importable? entry = some (leaf, location)) ↔
      tree.HoldsPackage directory place leaf ∨ tree.HoldsSource directory place leaf ∨
        tree.HoldsCompiled directory place leaf := by
  constructor
  · rintro ⟨entry, hentry, location, hitem⟩
    obtain ⟨hpath, hsees⟩ := (mem_scan_iff hlookup h).mp hentry
    exact (holds_of_importable? hleaf hpath hsees hitem).imp And.right And.right
  · have hlisted : ∀ {name node}, tree.Sees directory place name node →
        ⟨name, Path.join directory name, node⟩ ∈ entries := fun hsees =>
      (mem_scan_iff hlookup h).mpr ⟨rfl, hsees⟩
    rintro (⟨hsees, hinit⟩ | ⟨hinit, node, hsees, hfile⟩ | ⟨name, node, hname, hsees, hfile⟩)
    · refine ⟨_, hlisted hsees, .package (Path.join directory leaf), ?_⟩
      rw [importable?, if_pos (show Node.directory.isDirectory = true from rfl), if_pos hinit]
    · refine ⟨_, hlisted hsees, .source (Path.join directory (leaf ++ ".py")), ?_⟩
      rw [importable?, if_neg (ne_true_of_eq_false hfile)]
      exact (moduleFile?_eq_some_iff hleaf).mpr (Or.inl ⟨rfl, hinit, rfl⟩)
    · refine ⟨_, hlisted hsees, .compiled (Path.join directory name), ?_⟩
      rw [importable?, if_neg (ne_true_of_eq_false hfile)]
      exact (moduleFile?_eq_some_iff hleaf).mpr (Or.inr ⟨hname, rfl⟩)

/-- Every name keeps one of its items. -/
theorem exists_mem_firstOfEach_iff {items : List (String × Location)} :
    (∃ location, (leaf, location) ∈ firstOfEach items) ↔
      ∃ location, (leaf, location) ∈ items := by
  constructor
  · rintro ⟨location, hmem⟩
    exact ⟨location, (sublist_firstOfEach items).subset hmem⟩
  · induction items with
    | nil => exact id
    | cons item rest ih =>
      rintro ⟨location, hmem⟩
      rw [firstOfEach]
      by_cases hname : item.1 = leaf
      · exact ⟨item.2, List.mem_cons.mpr (Or.inl (Prod.ext hname.symm rfl))⟩
      · rcases List.mem_cons.mp hmem with rfl | hmem
        · exact absurd rfl hname
        · obtain ⟨other, hother⟩ := ih ⟨location, hmem⟩
          refine ⟨other, List.mem_cons_of_mem _ (List.mem_filter.mpr ⟨hother, ?_⟩)⟩
          exact decide_eq_true (Ne.symm hname)

theorem exists_mem_importables_iff
    (hlookup : tree.lookup .reach directory = .ok (.node place .directory))
    (h : tree.importables directory = .ok found) :
    (∃ location, (leaf, location) ∈ found) ↔ isIdentifier leaf = true ∧
      (tree.HoldsPackage directory place leaf ∨ tree.HoldsSource directory place leaf ∨
        tree.HoldsCompiled directory place leaf) := by
  obtain ⟨entries, hscan, rfl⟩ := importables_eq_ok h
  rw [exists_mem_firstOfEach_iff]
  constructor
  · rintro ⟨location, hmem⟩
    obtain ⟨hmem, hident⟩ := List.mem_filter.mp hmem
    obtain ⟨entry, hentry, hitem⟩ := List.mem_filterMap.mp hmem
    refine ⟨hident, ?_⟩
    exact (exists_importable?_iff hlookup hscan (dot_not_mem_identifier hident)).mp
      ⟨entry, hentry, location, hitem⟩
  · rintro ⟨hident, hholds⟩
    obtain ⟨entry, hentry, location, hitem⟩ :=
      (exists_importable?_iff hlookup hscan (dot_not_mem_identifier hident)).mpr hholds
    exact ⟨location, List.mem_filter.mpr ⟨List.mem_filterMap.mpr ⟨entry, hentry, hitem⟩, hident⟩⟩

/-- What is listed as a package is one, and every package is listed as one. -/
theorem isPackage_iff_holdsPackage
    (hlookup : tree.lookup .reach directory = .ok (.node place .directory))
    (h : tree.importables directory = .ok found) (hmem : (leaf, location) ∈ found) :
    location.isPackage = true ↔ tree.HoldsPackage directory place leaf := by
  constructor
  · intro hpackage
    have hident := isIdentifier_of_mem h hmem
    obtain ⟨entries, hscan, rfl⟩ := importables_eq_ok h
    obtain ⟨hcandidate, -⟩ := List.mem_filter.mp ((sublist_firstOfEach _).subset hmem)
    obtain ⟨entry, hentry, hitem⟩ := List.mem_filterMap.mp hcandidate
    obtain ⟨hpath, hsees⟩ := (mem_scan_iff hlookup hscan).mp hentry
    rcases holds_of_importable? (dot_not_mem_identifier hident) hpath hsees hitem with h | h
    · exact h.2
    · rw [hpackage] at h
      cases h.1
  · rintro ⟨-, hinit⟩
    refine Bool.eq_true_of_not_eq_false fun hpackage => ?_
    rw [not_package_of_mem h hmem hpackage] at hinit
    cases hinit

/-- What can be imported from a directory. -/
theorem mem_importables_iff
    (hlookup : tree.lookup .reach directory = .ok (.node place .directory))
    (h : tree.importables directory = .ok found) (isPackage : Bool) :
    (leaf, isPackage) ∈ found.map (fun item => (item.1, item.2.isPackage)) ↔
      isIdentifier leaf = true ∧
      (tree.HoldsPackage directory place leaf ∨ tree.HoldsSource directory place leaf ∨
        tree.HoldsCompiled directory place leaf) ∧
      (isPackage = true ↔ tree.HoldsPackage directory place leaf) := by
  rw [← and_assoc, ← exists_mem_importables_iff hlookup h, List.mem_map]
  constructor
  · rintro ⟨⟨_, location⟩, hmem, hitem⟩
    cases hitem
    exact ⟨⟨location, hmem⟩, isPackage_iff_holdsPackage hlookup h hmem⟩
  · rintro ⟨⟨location, hmem⟩, hpackage⟩
    refine ⟨(leaf, location), hmem, Prod.ext rfl (Bool.eq_iff_iff.mpr ?_)⟩
    exact (isPackage_iff_holdsPackage hlookup h hmem).trans hpackage.symm

/-! ### The directory of a package -/

theorem Usable.of_join {path : String} (h : Usable (Path.join directory path))
    (hdirectory : directory ≠ "") (hpath : Path.isAbsolute path = false) : Usable directory := by
  refine ⟨hdirectory, fun hnul => h.no_nul ?_, Nat.lt_of_le_of_lt ?_ h.short⟩
  · exact (Path.mem_toList_join (by decide) directory hpath).mpr (Or.inl hnul)
  · exact Nat.le_trans (Nat.le_add_right _ _) (Path.size_le_size_join directory hpath)

/-- A directory that holds a file is there, unless its path is empty. -/
theorem exists_directory_of_hasFile (hdirectory : directory ≠ "") (hname : Path.IsName name)
    (h : tree.hasFile (Path.join directory name) = true) :
    ∃ place, tree.lookup .reach directory = .ok (.node place .directory) := by
  obtain ⟨file, content, hfile⟩ := hasFile_iff.mp h
  obtain ⟨husable, hleads⟩ := lookup_eq_ok_iff.mp hfile
  have hrelative := hname.isAbsolute_eq_false
  rw [Path.names_join directory hrelative, hname.names_eq, origin,
    Path.isAbsolute_join hdirectory hrelative, ← origin, leads_append_iff (by simp)] at hleads
  obtain ⟨place, left, henters, -⟩ := hleads
  exact ⟨place, lookup_eq_ok_iff.mpr ⟨husable.of_join hdirectory hrelative, henters.leads _⟩⟩

/-- What is found as a package holds the file of a package. -/
theorem hasFile_of_find? {holder : String}
    (h : tree.find? holder leaf = some (.package directory)) :
    tree.hasFile (Path.join directory initFile) = true := by
  rw [find?] at h
  split at h
  · rename_i hinit
    cases h
    exact hinit
  split at h
  · cases h
  split at h
  · obtain ⟨item, hitem, hlocation⟩ := Option.map_eq_some_iff.mp h
    have htest := List.find?_some hitem
    rw [Bool.and_eq_true, hlocation] at htest
    cases htest.2
  · cases h

end FileTree

namespace Packages

open Query FileTree

variable {tree : FileTree} {paths : List String} {package directory : String}

theorem hasFile_of_locationOfName
    (h : locationOfName tree paths package = .ok (.package directory)) :
    tree.hasFile (Path.join directory initFile) = true := by
  rw [locationOfName] at h
  generalize (Name.segments package).reverse = segments at h
  cases segments with
  | nil => cases h
  | cons leaf outer =>
    rw [locationOf] at h
    obtain ⟨found, hfound, hsettled⟩ := exists_of_bind_eq_ok h
    cases found with
    | none => cases hsettled
    | some location =>
      cases hsettled
      unfold foundFor at hfound
      split at hfound
      · obtain ⟨holder, -, hfind⟩ := List.exists_of_findSome?_eq_some (Except.ok.inj hfound)
        exact hasFile_of_find? hfind
      · split at hfound
        · exact hasFile_of_find? (Except.ok.inj hfound)
        · cases hfound
        · cases hfound

theorem isOk_outlined (tree : FileTree) (path name : String) :
    (outlined tree path name).isOk = (tree.outline path name).isOk := by
  rw [outlined]
  cases tree.outline path name <;> rfl

theorem isOk_listedIn_iff {place : Place}
    (hlookup : tree.lookup .reach directory = .ok (.node place .directory)) :
    (listedIn tree package directory).isOk = true ↔
      (tree.outline (Path.join directory initFile) package).isOk = true ∧
        tree.LinksLeadOn directory place := by
  have hlisted : (tree.importables directory).isOk = (tree.scan directory).isOk := by
    rw [importables, isOk_map]
  rw [← isOk_scan_iff hlookup, ← isOk_outlined, ← hlisted, listedIn]
  cases outlined tree (Path.join directory initFile) package with
  | error error => exact iff_of_false Bool.false_ne_true fun h => Bool.false_ne_true h.1
  | ok outline =>
    cases tree.importables directory <;> simp [Except.isOk, Except.toBool, Except.mapError]

/-- The empty path is no directory that could be listed. -/
theorem isOk_listedIn_empty : (listedIn tree package "").isOk = false := by
  have hscan : (tree.importables "").isOk = false := rfl
  rw [listedIn]
  cases outlined tree (Path.join "" initFile) package with
  | error error => rfl
  | ok outline =>
    cases hfound : tree.importables "" with
    | error fault => rfl
    | ok found =>
      rw [hfound] at hscan
      cases hscan

/-- A package is in a directory that is there, unless its path is empty. -/
theorem exists_directory_of_locationOfName (hdirectory : directory ≠ "")
    (h : locationOfName tree paths package = .ok (.package directory)) :
    ∃ place, tree.lookup .reach directory = .ok (.node place .directory) :=
  exists_directory_of_hasFile hdirectory isName_initFile (hasFile_of_locationOfName h)

/-- The directory of a package that is listed is there. -/
theorem exists_directory_of_isOk_listedIn
    (h : locationOfName tree paths package = .ok (.package directory))
    (hlisted : (listedIn tree package directory).isOk = true) :
    ∃ place, tree.lookup .reach directory = .ok (.node place .directory) := by
  refine exists_directory_of_locationOfName ?_ h
  rintro rfl
  rw [isOk_listedIn_empty] at hlisted
  cases hlisted

theorem isOk_childrenOf_iff :
    (childrenOf tree paths package).isOk = true ↔
      ∃ directory, locationOfName tree paths package = .ok (.package directory) ∧
        (listedIn tree package directory).isOk = true := by
  rw [childrenOf]
  cases locationOfName tree paths package with
  | error error => simp [Except.isOk, Except.toBool]
  | ok location =>
    cases location with
    | package directory => simp [isOk_map]
    | source path | compiled path => simp [Except.isOk, Except.toBool]

theorem childrenOf_eq_ok {found : List Child} (h : childrenOf tree paths package = .ok found) :
    ∃ directory listed, locationOfName tree paths package = .ok (.package directory) ∧
      listedIn tree package directory = .ok listed ∧ found = listed.map (childOf package) := by
  rw [childrenOf] at h
  cases hlocation : locationOfName tree paths package with
  | error error =>
    rw [hlocation] at h
    cases h
  | ok location =>
    rw [hlocation] at h
    cases location with
    | source path | compiled path => cases h
    | package directory =>
      obtain ⟨listed, hlisted, rfl⟩ := exists_of_map_eq_ok h
      exact ⟨directory, listed, rfl, hlisted, rfl⟩

/-- What a package lists, in every file tree. A package is found by the file in its directory, so
the directory is there unless its path is empty. It is listed exactly if its own file can be read
and no link in it stands in the way; then it lists the identifiers for which it holds a package, a
source or a compiled module, each once and in the order of bytes, and marks the packages. -/
theorem children_are_importable_entries (tree : FileTree) (paths : List String)
    (package : String) :
    let answer := (exec (children package) tree { searchPaths := paths }).1
    let located (directory : String) : Prop :=
      (exec (locate package) tree { searchPaths := paths }).1 = .ok (.package directory)
    (∀ directory, located directory → directory ≠ "" →
      ∃ place, tree.lookup .reach directory = .ok (.node place .directory)) ∧
    (answer.isOk = true ↔ ∃ directory place, located directory ∧
      tree.lookup .reach directory = .ok (.node place .directory) ∧
      (tree.outline (Path.join directory initFile) package).isOk = true ∧
      tree.LinksLeadOn directory place) ∧
    ∀ found, answer = .ok found → ∃ directory place, ∃ leaves : List (String × Bool),
      located directory ∧ tree.lookup .reach directory = .ok (.node place .directory) ∧
      found = leaves.map (fun (leaf, isPackage) =>
        { name := package ++ "." ++ leaf, isPackage : Child }) ∧
      (leaves.map (·.1)).Pairwise Bytewise ∧
      ∀ leaf isPackage, (leaf, isPackage) ∈ leaves ↔ isIdentifier leaf = true ∧
        (tree.HoldsPackage directory place leaf ∨ tree.HoldsSource directory place leaf ∨
          tree.HoldsCompiled directory place leaf) ∧
        (isPackage = true ↔ tree.HoldsPackage directory place leaf) := by
  intro answer located
  obtain ⟨after, hchildren, -⟩ := exec_children (Sound.fresh tree paths) package
  obtain ⟨middle, hlocate, -⟩ := exec_locate (Sound.fresh tree paths) package
  have hanswer : answer = childrenOf tree paths package := congrArg (·.1) hchildren
  have hlocated : ∀ directory, located directory ↔
      locationOfName tree paths package = .ok (.package directory) := fun directory => by
    rw [show located directory ↔ _ = _ from Iff.rfl, hlocate]
  refine ⟨fun directory hfound hne =>
      exists_directory_of_locationOfName hne ((hlocated directory).mp hfound), ?_,
    fun found hfound => ?_⟩
  · rw [hanswer, isOk_childrenOf_iff]
    constructor
    · rintro ⟨directory, hfound, hok⟩
      obtain ⟨place, hlookup⟩ := exists_directory_of_isOk_listedIn hfound hok
      exact ⟨directory, place, (hlocated directory).mpr hfound, hlookup,
        (isOk_listedIn_iff hlookup).mp hok⟩
    · rintro ⟨directory, place, hfound, hlookup, hok⟩
      exact ⟨directory, (hlocated directory).mp hfound, (isOk_listedIn_iff hlookup).mpr hok⟩
  · rw [hanswer] at hfound
    obtain ⟨directory, listed, hlocation, hlisted, rfl⟩ := childrenOf_eq_ok hfound
    obtain ⟨place, hlookup⟩ :=
      exists_directory_of_isOk_listedIn hlocation (by rw [hlisted]; rfl)
    refine ⟨directory, place, listed.map fun item => (item.1, item.2.isPackage),
      (hlocated directory).mpr hlocation, hlookup, ?_, ?_, fun leaf isPackage =>
        mem_importables_iff hlookup (listedIn_eq_ok hlisted).2 isPackage⟩
    · rw [List.map_map]
      rfl
    · rw [List.map_map, List.pairwise_map]
      exact (pairwise_listed hlisted).imp bytewise_iff_lt.mpr

end Packages

end DocStubs
