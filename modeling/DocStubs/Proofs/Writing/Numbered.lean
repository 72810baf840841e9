import DocStubs.Proofs.Files.LinkFree
import DocStubs.Proofs.Writing.Artifact

/-!
# Where numbered backups go

A backup of a file goes beside it if the mark has no slash: mark and number only lengthen the last
name of its path. So it can be made if the lengthened path keeps to the limits for paths and names.

The pages of a run all end alike, in a dot and an extension. Because of the dot, backups of pages
in different places never meet, whatever the mark and the numbers are: a number has no dots, so the
last dot of a backup tells where the number begins. What was taken for a backup of one page is
therefore still free for those of the others.

## Main definitions

* `FileTree.Fits` — a path keeps to the limits
* `FileTree.AddsFile` — a tree gets one more file

## Main results

* `FileTree.placeOf_eq_of_backups_meet` — backups of pages in different places do not meet
* `FileTree.destination_of_fits` — a backup that fits can be made
* `Disk.exec_writeArtifact_again` — writing a page that is there already adds its backup only
-/

namespace DocStubs

/-! ### The last name of a backup -/

namespace Path

/-- The last name along paths that end alike ends alike, and what is written after such a path
lengthens its last name. Either the ending reaches back into the last name, or it holds all of
it. -/
theorem exists_last_of_ending {ending : String} (hne : ending ≠ "") :
    ∃ tail : String, ∀ start : String, ∃ before stem,
      (stem = "" ∨ tail = ending) ∧
      (endsInSlash (start ++ ending) = false →
        names (start ++ ending) = before ++ [stem ++ tail]) ∧
      ∀ more : String, '/' ∉ more.toList → more ≠ "" →
        names (start ++ ending ++ more) = before ++ [stem ++ tail ++ more] := by
  obtain ⟨last, hlast, hending⟩ := Cut.exists_last '/' ending.toList
  rcases hending with hending | ⟨inner, hending⟩
  · -- No slash is in the ending.
    have hslash : '/' ∉ ending.toList := hending ▸ hlast
    refine ⟨ending, fun start => ?_⟩
    obtain ⟨before, stem, -, hnames, -⟩ := exists_last_name start
    refine ⟨before, stem, Or.inr rfl, fun _ => hnames ending hslash hne, fun more hmore _ => ?_⟩
    rw [String.append_assoc, String.append_assoc]
    exact hnames _ (by simp [hslash, hmore]) (by simp [hne])
  · obtain rfl : ending = String.ofList inner ++ "/" ++ String.ofList last :=
      String.toList_inj.mp (by simpa using hending)
    generalize hlastName : String.ofList last = tail
    have hslash : '/' ∉ tail.toList := by simpa [← hlastName] using hlast
    have hnames (start more : String) (hmore : '/' ∉ more.toList) (hne : tail ++ more ≠ "") :
        names (start ++ (String.ofList inner ++ "/" ++ tail) ++ more) =
          names (start ++ String.ofList inner) ++ [tail ++ more] := by
      have hassoc : start ++ (String.ofList inner ++ "/" ++ tail) ++ more =
          start ++ String.ofList inner ++ "/" ++ (tail ++ more) := by
        simp only [String.append_assoc]
      rw [hassoc, names_append_slash, names_of_no_slash hne]
      simp [hslash, hmore]
    refine ⟨tail, fun start => ⟨names (start ++ String.ofList inner), "", Or.inl rfl,
      fun hends => ?_, fun more hmore hmoreNe => ?_⟩⟩
    · have htail : tail ≠ "" := by
        rintro rfl
        simp [endsInSlash] at hends
      simpa using hnames start "" (by simp) (by simpa using htail)
    · simpa using hnames start more hmore (by simp [hmoreNe])

end Path

/-- A number at the end of a text begins after the last dot, so what is before a common part with a
dot can be told. -/
theorem eq_of_append_number_eq {stem stem' common : String} {number number' : Nat}
    (hdot : '.' ∈ common.toList)
    (h : stem ++ common ++ toString number = stem' ++ common ++ toString number') :
    stem = stem' := by
  obtain ⟨last, hlast, hcommon⟩ := Cut.exists_last '.' common.toList
  obtain ⟨inner, hcommon⟩ := hcommon.resolve_left fun hall => hlast (hall ▸ hdot)
  have hnumber (n : Nat) : '.' ∉ last ++ (toString n).toList := by
    rw [List.mem_append, not_or]
    exact ⟨hlast, not_mem_toString_nat n rfl⟩
  have hchars : (stem.toList ++ inner) ++ '.' :: (last ++ (toString number).toList) =
      (stem'.toList ++ inner) ++ '.' :: (last ++ (toString number').toList) := by
    simpa [hcommon] using congrArg String.toList h
  have hstems := Cut.before_eq_of_last_eq (hnumber number) (hnumber number') hchars
  exact String.toList_inj.mp (List.append_cancel_right hstems)

theorem slash_not_mem_append_number {mark : String} (h : '/' ∉ mark.toList) (number : Nat) :
    '/' ∉ (mark ++ toString number).toList := by
  rw [String.toList_append, List.mem_append, not_or]
  exact ⟨h, not_mem_toString_nat number rfl⟩

namespace FileTree

variable {tree before after : FileTree} {mark ending start start' : String} {place : Place}
  {content : ByteArray}

/-! ### Places of backups -/

/-- A path keeps to the limits for paths and names. -/
structure Fits (path : String) : Prop where
  usable : Usable path
  names : ∀ name ∈ Path.names path, name.utf8ByteSize ≤ nameLimit

instance (path : String) : Decidable (Fits path) :=
  decidable_of_iff (path ≠ "" ∧ '\x00' ∉ path.toList ∧ path.utf8ByteSize < pathLimit ∧
      ∀ name ∈ Path.names path, name.utf8ByteSize ≤ nameLimit)
    ⟨fun ⟨h₁, h₂, h₃, h₄⟩ => ⟨⟨h₁, h₂, h₃⟩, h₄⟩, fun ⟨⟨h₁, h₂, h₃⟩, h₄⟩ => ⟨h₁, h₂, h₃, h₄⟩⟩

theorem LinkFree.short_of_leads {purpose : Purpose} {links : Nat} {slash : Bool} {here : Place}
    {names : List String} {found : Found} (hfree : tree.LinkFree)
    (h : Leads tree purpose links slash here names found) :
    ∀ name ∈ names, name.utf8ByteSize ≤ nameLimit := by
  induction h with
  | done => exact List.forall_mem_nil _
  | dot onward ih => exact List.forall_mem_cons.mpr ⟨by decide, ih⟩
  | dots onward ih => exact List.forall_mem_cons.mpr ⟨by decide, ih⟩
  | missing ordinary free => exact List.forall_mem_singleton.mpr ordinary.short
  | directory ordinary there onward ih => exact List.forall_mem_cons.mpr ⟨ordinary.short, ih⟩
  | link ordinary there stays => exact absurd there (hfree.node?_ne _ _)
  | through ordinary there follows target_ne onward ih =>
    exact absurd there (hfree.node?_ne _ _)
  | leaf ordinary there not_directory not_link finishes =>
    exact List.forall_mem_singleton.mpr ordinary.short

/-- Only paths that keep to the limits can be written. -/
theorem LinkFree.fits_of_destination {path : String} (hfree : tree.LinkFree)
    (h : tree.Destination path place) : Fits path := by
  rcases h with ⟨content, h⟩ | ⟨directory, name, h, -⟩
  · exact ⟨(lookup_eq_ok_iff.mp h).1, hfree.short_of_leads (lookup_eq_ok_iff.mp h).2⟩
  · exact ⟨(lookup_eq_ok_iff.mp h).1, hfree.short_of_leads (lookup_eq_ok_iff.mp h).2⟩

/-- A long mark leaves no room for any backup. -/
theorem utf8ByteSize_lt_of_short {path : String} {number : Nat} (hmark : '/' ∉ mark.toList)
    (h : ∀ name ∈ Path.names (backupPath mark path number), name.utf8ByteSize ≤ nameLimit) :
    mark.utf8ByteSize < nameLimit := by
  obtain ⟨known, stem, hnames⟩ := Path.names_append path
  have hslash := slash_not_mem_append_number hmark number
  have hshort : (stem ++ (mark ++ toString number)).utf8ByteSize ≤ nameLimit := by
    refine h _ ?_
    rw [backupPath, String.append_assoc, hnames _ hslash (by simp)]
    simp
  have hnumber : (toString number).utf8ByteSize ≠ 0 := by simp
  rw [String.utf8ByteSize_append, String.utf8ByteSize_append] at hshort
  omega

theorem Fits.utf8ByteSize_lt {path : String} {number : Nat} (hmark : '/' ∉ mark.toList)
    (h : Fits (backupPath mark path number)) : mark.utf8ByteSize < nameLimit :=
  utf8ByteSize_lt_of_short hmark h.names

theorem origin_backupPath (tree : FileTree) (mark : String) {path : String} (number : Nat)
    (hpath : path ≠ "") : tree.origin (backupPath mark path number) = tree.origin path := by
  rw [backupPath, String.append_assoc, tree.origin_append hpath]

/-- Mark and number lengthen the last name of a path that leads to a file. -/
theorem exists_names_backupPath (hending : ending ≠ "") (hmark : '/' ∉ mark.toList) :
    ∃ tail : String, ∀ start : String, ∃ known stem, (stem = "" ∨ tail = ending) ∧
      (Path.endsInSlash (start ++ ending) = false →
        Path.names (start ++ ending) = known ++ [stem ++ tail]) ∧
      ∀ number, Path.names (backupPath mark (start ++ ending) number) =
        known ++ [stem ++ (tail ++ mark) ++ toString number] := by
  obtain ⟨tail, htail⟩ := Path.exists_last_of_ending hending
  refine ⟨tail, fun start => ?_⟩
  obtain ⟨known, stem, hstem, hpath, hmore⟩ := htail start
  refine ⟨known, stem, hstem, hpath, fun number => ?_⟩
  have hslash := slash_not_mem_append_number hmark number
  rw [backupPath]
  simpa only [String.append_assoc] using hmore (mark ++ toString number) hslash (by simp)

/-- Backups of two files whose paths end alike, with a dot in the ending, are in the same place
only if the files are. -/
theorem placeOf_eq_of_backups_meet (hdot : '.' ∈ ending.toList) (hmark : '/' ∉ mark.toList)
    (hstart : Path.endsInSlash (start ++ ending) = false)
    (hstart' : Path.endsInSlash (start' ++ ending) = false) {number number' : Nat}
    (h : tree.placeOf (backupPath mark (start ++ ending) number) =
      tree.placeOf (backupPath mark (start' ++ ending) number')) :
    tree.placeOf (start ++ ending) = tree.placeOf (start' ++ ending) := by
  have hending : ending ≠ "" := by
    rintro rfl
    simp at hdot
  obtain ⟨tail, htail⟩ := exists_names_backupPath hending hmark
  obtain ⟨known, stem, hstem, hpath, hbackup⟩ := htail start
  obtain ⟨known', stem', hstem', hpath', hbackup'⟩ := htail start'
  have hresolve (here : Place) (known : List String) (stem : String) (number : Nat) :
      Path.resolve here (known ++ [stem ++ (tail ++ mark) ++ toString number]) =
        Path.resolve here known ++ [stem ++ (tail ++ mark) ++ toString number] := by
    rw [Path.resolve_append]
    refine Path.resolve_eq_append _ fun name hname => ?_
    rw [List.mem_singleton.mp hname]
    exact ⟨Path.append_number_ne (by simp) _ number, Path.append_number_ne (by simp) _ number⟩
  rw [placeOf, placeOf, hbackup, hbackup', origin_backupPath tree mark _ (by simp [hending]),
    origin_backupPath tree mark _ (by simp [hending]), hresolve, hresolve] at h
  obtain ⟨hdirectory, hname⟩ := List.append_inj' h rfl
  have hstems : stem = stem' := by
    have hname : stem ++ (tail ++ mark) ++ toString number =
        stem' ++ (tail ++ mark) ++ toString number' := by
      simpa using hname
    rcases hstem with rfl | rfl
    · rcases hstem' with rfl | rfl
      · rfl
      · exact eq_of_append_number_eq (by simp [hdot]) hname
    · exact eq_of_append_number_eq (by simp [hdot]) hname
  rw [placeOf, placeOf, hpath hstart, hpath' hstart', Path.resolve_append, Path.resolve_append,
    hdirectory, hstems]

/-- A path that leads to a file does not end in a slash. -/
theorem endsInSlash_of_lookup_file {path : String}
    (h : tree.lookup .reach path = .ok (.node place (.file content))) :
    Path.endsInSlash path = false :=
  (lookup_eq_ok_iff.mp h).2.write_of_reach.1

theorem endsInSlash_backupPath (mark path : String) (number : Nat) :
    Path.endsInSlash (backupPath mark path number) = false := by
  rw [Path.endsInSlash, decide_eq_false_iff_not, backupPath, String.toList_append]
  intro hlast
  have hne : (toString number).toList ≠ [] := by simp
  rw [List.getLast?_append_of_ne_nil _ hne] at hlast
  exact not_mem_toString_nat number rfl (List.mem_of_getLast? hlast)

/-- A path that leads nowhere, also not to a link, leads to a free name. -/
theorem node?_eq_none_of_hasPath {path last : String} {known : List String} {directory : Place}
    {left : Nat} (hnames : Path.names path = known ++ [last])
    (hslash : Path.endsInSlash path = false) (hdot : last ≠ ".") (hdots : last ≠ "..")
    (henters : Enters tree linkLimit (tree.origin path) known directory left)
    (hfits : Fits path) (hpath : tree.hasPath path = false)
    (hlink : ∀ place link, tree.lookup .inspect path ≠ .ok (.node place (.link link))) :
    tree.node? (directory ++ [last]) = none := by
  have hordinary (purpose : Purpose) : Ordinary purpose false last [] :=
    ⟨hdot, hdots, by simp, hfits.names _ (by simp [hnames])⟩
  have hlookup {purpose : Purpose} {found : Found}
      (h : Leads tree purpose left false directory [last] found) :
      tree.lookup purpose path = .ok found := by
    refine lookup_eq_ok_iff.mpr ⟨hfits.usable, ?_⟩
    rw [hslash, hnames, leads_append_iff (by simp)]
    exact ⟨directory, left, henters, h⟩
  have hreach {place : Place} {node : Node} :
      ¬Leads tree .reach left false directory [last] (.node place node) := by
    intro h
    rw [hasPath_iff.mpr ⟨place, node, hlookup h⟩] at hpath
    cases hpath
  cases hnode : tree.node? (directory ++ [last]) with
  | none => rfl
  | some node =>
    cases node with
    | directory => exact absurd (.directory (hordinary .reach) hnode .done) hreach
    | link target => exact absurd (hlookup (.link (hordinary .inspect) hnode rfl)) (hlink _ _)
    | file content => exact absurd (.leaf (hordinary .reach) hnode rfl rfl nofun) hreach
    | special => exact absurd (.leaf (hordinary .reach) hnode rfl rfl nofun) hreach

/-- A path that keeps to the limits can be written if its last name is that of a file, or free, in
a directory that is there. -/
theorem destination_of_enters {path last : String} {known : List String} {directory : Place}
    {left : Nat} (hnames : Path.names path = known ++ [last])
    (hslash : Path.endsInSlash path = false) (hdot : last ≠ ".") (hdots : last ≠ "..")
    (henters : Enters tree linkLimit (tree.origin path) known directory left) (hfits : Fits path)
    (hfree : tree.node? (directory ++ [last]) = none ∨
      ∃ content, tree.node? (directory ++ [last]) = some (.file content)) :
    tree.Destination path (directory ++ [last]) := by
  have hlast : Ordinary .write false last [] :=
    ⟨hdot, hdots, by simp, hfits.names _ (by simp [hnames])⟩
  have hlookup {found : Found} (h : Leads tree .write left false directory [last] found) :
      tree.lookup .write path = .ok found := by
    refine lookup_eq_ok_iff.mpr ⟨hfits.usable, ?_⟩
    rw [hslash, hnames, leads_append_iff (by simp)]
    exact ⟨directory, left, henters, h⟩
  rcases hfree with hnone | ⟨content, hfile⟩
  · exact Or.inr ⟨directory, last, hlookup (.missing hlast hnone), rfl⟩
  · exact Or.inl ⟨content, hlookup (.leaf hlast hfile rfl rfl nofun)⟩

/-- A path that leads nowhere yet can be written if its last name is a name in a directory that is
there, and if it keeps to the limits. -/
theorem LinkFree.destination_of_enters {path last : String} {known : List String}
    {directory : Place} {left : Nat} (hfree : tree.LinkFree)
    (hnames : Path.names path = known ++ [last]) (hslash : Path.endsInSlash path = false)
    (hdot : last ≠ ".") (hdots : last ≠ "..")
    (henters : Enters tree linkLimit (tree.origin path) known directory left) (hfits : Fits path)
    (hpath : tree.hasPath path = false) : tree.Destination path (tree.placeOf path) := by
  have hlink (place : Place) (link : String) :
      tree.lookup .inspect path ≠ .ok (.node place (.link link)) := by
    intro hlookup
    rcases (lookup_eq_ok_iff.mp hlookup).2.node?_eq with hdirectory | hnode
    · cases hdirectory
    · exact hfree.node?_ne place link hnode
  have hnone := node?_eq_none_of_hasPath hnames hslash hdot hdots henters hfits hpath hlink
  have hdest := FileTree.destination_of_enters hnames hslash hdot hdots henters hfits
    (Or.inl hnone)
  rwa [hfree.destination_eq hdest] at hdest

/-- The backup of a file can be made if its path leads nowhere yet and keeps to the limits. -/
theorem destination_of_fits (hfree : tree.LinkFree) (hending : ending ≠ "")
    (hmark : '/' ∉ mark.toList)
    (hfile : tree.lookup .reach (start ++ ending) = .ok (.node place (.file content)))
    {number : Nat} (hfits : Fits (backupPath mark (start ++ ending) number))
    (hpath : tree.hasPath (backupPath mark (start ++ ending) number) = false) :
    tree.Destination (backupPath mark (start ++ ending) number)
      (tree.placeOf (backupPath mark (start ++ ending) number)) := by
  obtain ⟨tail, htail⟩ := exists_names_backupPath hending hmark
  obtain ⟨known, stem, -, hnames, hbackup⟩ := htail start
  have hne : start ++ ending ≠ "" := by simp [hending]
  -- The directory of the backup is that of the file.
  have hleads := (lookup_eq_ok_iff.mp hfile).2
  rw [hnames (endsInSlash_of_lookup_file hfile), leads_append_iff (by simp)] at hleads
  obtain ⟨directory, left, henters, -⟩ := hleads
  rw [← origin_backupPath tree mark number hne] at henters
  exact hfree.destination_of_enters (hbackup number) (endsInSlash_backupPath _ _ _)
    (Path.append_number_ne (by simp) _ number) (Path.append_number_ne (by simp) _ number) henters
    hfits hpath

/-! ### One more file -/

/-- A tree gets one more file, at a place that was free. -/
structure AddsFile (place : Place) (content : ByteArray) (before after : FileTree) : Prop where
  evolves : before.Evolves after
  free : before.node? place = none
  node? : ∀ other, after.node? other =
    if other = place then some (.file content) else before.node? other

/-- A file that is written over with the same text stays as it is. -/
theorem addsFile_put_put {other : Place} (hfree : before.node? place = none)
    (hpage : before.node? other = some (.file content)) (hplace : place ≠ []) (hother : other ≠ [])
    (hevolves : before.Evolves ((before.put place (.file content)).put other (.file content))) :
    AddsFile place content before
      ((before.put place (.file content)).put other (.file content)) := by
  refine ⟨hevolves, hfree, fun third => ?_⟩
  rw [node?_put hother, node?_put hplace]
  by_cases hthird : third = other
  · subst hthird
    have hne : third ≠ place := by
      rintro rfl
      rw [hfree] at hpage
      cases hpage
    rw [if_pos rfl, if_neg hne, hpage]
  · rw [if_neg hthird]

namespace AddsFile

variable (h : AddsFile place content before after)

include h

theorem kept {other : Place} {node : Node} (hnode : before.node? other = some node) :
    after.node? other = some node := by
  have hne : other ≠ place := by
    rintro rfl
    rw [h.free] at hnode
    cases hnode
  rw [h.node?, if_neg hne, hnode]

/-- What is read under a path is read under it later. -/
theorem read {path : String} {old : ByteArray} (hread : before.read path = .ok old) :
    after.read path = .ok old := by
  obtain ⟨other, hlookup⟩ := read_eq_ok_iff.mp hread
  have hdest := Destination.of_lookup hlookup
  exact hdest.read h.evolves.grows (h.kept (node?_of_lookup_file hlookup))

/-- Names that lead somewhere else than to the file that was added have led there before: nothing
leads through a file. -/
theorem leads {purpose : Purpose} {links : Nat} {slash : Bool} {here other : Place}
    {names : List String} {node : Node} (hfree : after.LinkFree) (hne : other ≠ place)
    (hleads : Leads after purpose links slash here names (.node other node)) :
    Leads before purpose links slash here names (.node other node) := by
  generalize hfound : Found.node other node = found at hleads
  induction hleads with
  | done => exact .done
  | dot onward ih => exact .dot (ih hfound)
  | dots onward ih => exact .dots (ih hfound)
  | missing ordinary free => cases hfound
  | @directory links slash here name rest found ordinary there onward ih =>
    rw [h.node?] at there
    split at there
    · cases there
    · exact .directory ordinary there (ih hfound)
  | link ordinary there stays => exact absurd there (hfree.node?_ne _ _)
  | through ordinary there follows target_ne onward ih =>
    exact absurd there (hfree.node?_ne _ _)
  | leaf ordinary there not_directory not_link finishes =>
    cases hfound
    rw [h.node?, if_neg hne] at there
    exact .leaf ordinary there not_directory not_link finishes

/-- A path that cannot lead to the file that was added leads to something exactly if it did. -/
theorem hasPath_eq {path : String} (hfree : before.LinkFree) (hne : before.placeOf path ≠ place) :
    after.hasPath path = before.hasPath path := by
  rw [Bool.eq_iff_iff]
  refine ⟨fun hpath => ?_, h.evolves.grows.hasPath⟩
  have hfree' := hfree.evolves h.evolves
  obtain ⟨other, node, hlookup⟩ := hasPath_iff.mp hpath
  obtain ⟨husable, hleads⟩ := lookup_eq_ok_iff.mp hlookup
  have hother : other ≠ place := by
    rw [hfree'.place_eq hlookup, h.evolves.grows.placeOf_eq]
    exact hne
  rw [h.evolves.grows.origin_eq] at hleads
  exact hasPath_iff.mpr ⟨other, node, lookup_eq_ok_iff.mpr ⟨husable, h.leads hfree' hother hleads⟩⟩

end AddsFile

end FileTree

namespace Disk

open FileTree

variable {mark ending start : String} {artifact : Artifact} {now : FileTree}

/-! ### Writing a page again -/

/-- A backup of a file is made if it can be. -/
theorem exec_backup_of_destination {path : String} {place other : Place} {old : ByteArray}
    (hfile : now.lookup .reach path = .ok (.node place (.file old)))
    (hcopied : now.Destination (backupTarget mark now path) other) :
    (backup mark path).exec now =
      (.ok (backupTarget mark now path), now.put other (.file old)) := by
  have hcopy : (copy path (backupTarget mark now path)).exec now =
      (.ok (), now.put other (.file old)) := by
    rw [exec_copy_of_read (read_eq_ok_iff.mpr ⟨place, hfile⟩)
      (sameFile_of_not_hasPath (hasPath_backupTarget mark now path))]
    exact exec_write hcopied old
  rw [backup]
  rw [exec_bind_of_ok _ (exec_get now), if_pos (hasFile_iff.mpr ⟨place, old, hfile⟩), exec_bind,
    exec_onFault, ← backupTarget, hcopy]
  rfl

/-- A page is put in the place of a file once its backup is made. -/
theorem exec_writeArtifact_of_destination {place other : Place} {old : ByteArray}
    (hpolicy : artifact.policy = .backup)
    (hfile : now.lookup .reach artifact.path = .ok (.node place (.file old)))
    (hcopied : now.Destination (backupTarget mark now artifact.path) other) :
    (writeArtifact mark artifact).exec now =
      (.ok (some (backupTarget mark now artifact.path)),
        (now.put other (.file old)).put place (.file artifact.content.toUTF8)) := by
  rw [exec_writeArtifact, if_pos (hasPath_iff.mpr ⟨place, _, hfile⟩), hpolicy,
    exec_backup_of_destination hfile hcopied]
  dsimp only
  rw [exec_bind, exec_onFault, exec_write (destination_put_backup hfile hcopied)]
  rfl

/-- Writing a page that is there already, with the same text, adds its backup and nothing else. -/
theorem exec_writeArtifact_again (hfree : now.LinkFree) (hending : ending ≠ "")
    (hmark : '/' ∉ mark.toList) (hpath : artifact.path = start ++ ending)
    (hpolicy : artifact.policy = .backup)
    (hread : now.read artifact.path = .ok artifact.content.toUTF8)
    (hfits : Fits (backupTarget mark now artifact.path)) :
    ∃ next, (writeArtifact mark artifact).exec now =
        (.ok (some (backupTarget mark now artifact.path)), next) ∧
      AddsFile (now.placeOf (backupTarget mark now artifact.path)) artifact.content.toUTF8
        now next ∧
      next.read (backupTarget mark now artifact.path) = .ok artifact.content.toUTF8 := by
  obtain ⟨place, hlookup⟩ := read_eq_ok_iff.mp hread
  have hfresh := hasPath_backupTarget mark now artifact.path
  have hcopied : now.Destination (backupTarget mark now artifact.path)
      (now.placeOf (backupTarget mark now artifact.path)) := by
    rw [hpath] at hlookup hfits hfresh ⊢
    exact destination_of_fits hfree hending hmark hlookup hfits hfresh
  have hagain := destination_put_backup hlookup hcopied
  have hnone := hcopied.node?_eq_none hfresh
  have hexec := exec_writeArtifact_of_destination hpolicy hlookup hcopied
  have hadds := addsFile_put_put hnone (node?_of_lookup_file hlookup) hcopied.ne_nil hagain.ne_nil
    (wrote_writeArtifact hexec).evolves
  refine ⟨_, hexec, hadds, hcopied.read hadds.evolves.grows ?_⟩
  rw [hadds.node?, if_pos rfl]

/-- A backup does not take what is free for the backup of another file if the two cannot meet. -/
theorem backupTarget_of_addsFile {path other : String} {content : ByteArray} {next : FileTree}
    (hfree : now.LinkFree)
    (h : AddsFile (now.placeOf (backupTarget mark now path)) content now next)
    (hne : ∀ number number', now.placeOf (backupPath mark path number) ≠
      now.placeOf (backupPath mark other number')) :
    backupTarget mark next other = backupTarget mark now other := by
  rw [backupTarget, backupTarget,
    freeNumber_congr fun number => h.hasPath_eq hfree (Ne.symm (hne _ number))]

end Disk

end DocStubs
