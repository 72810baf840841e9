import DocStubs.Proofs.Writing.Replace
import Mathlib.Data.Nat.Nth

/-!
# The versions of a page

A page that is written again and again leaves its earlier versions in backups. Each time the numbers
are tried from the beginning, past those that were taken before the first page was written and past
those of the earlier versions. So the versions get the numbers that were free at the beginning, in
order; that a number is free is said of the tree at the beginning only, and `Nat.nth` counts these
numbers.

The name of a backup can be too long although that of the page is not, so it is a hypothesis that
the backups keep to the limits.

## Main definitions

* `FileTree.nthFree` — the numbers that are free, in order
* `Disk.Stores` — the versions of a page are in its backups

## Main results

* `FileTree.freeNumber_eq` — the next free number is the first one at which nothing is
* `Disk.Stores.write` — writing a page stores one more version
* `Disk.backups_form_history` — all earlier versions are in the backups, in order
-/

namespace DocStubs

namespace FileTree

variable {tree : FileTree} {mark path : String} {number index : Nat}

/-! ### Free numbers -/

/-- The numbers of backups that are free, in order. -/
noncomputable def nthFree (tree : FileTree) (mark path : String) (index : Nat) : Nat :=
  Nat.nth (fun number => tree.hasPath (backupPath mark path number) = false) index

theorem finite_taken (tree : FileTree) (mark path : String) :
    {number | tree.hasPath (backupPath mark path number) = true}.Finite := by
  by_cases htaken : ∃ start, tree.hasPath (backupPath mark path start) = true
  · obtain ⟨start, hstart⟩ := htaken
    obtain ⟨place, hinj, hplace⟩ := exists_numbered_places (path ++ mark) hstart
    have hfinite : {other | other ∈ tree.entries.map (·.1)}.Finite := List.finite_toSet _
    refine (hfinite.preimage hinj.injOn).subset fun number hnumber => ?_
    obtain ⟨hne, hsome⟩ := hplace number hnumber
    obtain ⟨node, hnode⟩ := Option.isSome_iff_exists.mp hsome
    exact List.mem_map.mpr ⟨_, mem_of_node? hnode hne, rfl⟩
  · refine Set.finite_empty.subset fun number hnumber => htaken ⟨number, hnumber⟩

theorem infinite_free (tree : FileTree) (mark path : String) :
    {number | tree.hasPath (backupPath mark path number) = false}.Infinite := by
  refine (finite_taken tree mark path).infinite_compl.mono fun number hnumber => ?_
  exact Bool.eq_false_iff.mpr hnumber

theorem hasPath_nthFree (tree : FileTree) (mark path : String) (index : Nat) :
    tree.hasPath (backupPath mark path (tree.nthFree mark path index)) = false :=
  Nat.nth_mem_of_infinite (infinite_free tree mark path) index

theorem nthFree_injective (tree : FileTree) (mark path : String) :
    Function.Injective (tree.nthFree mark path) :=
  Nat.nth_injective (infinite_free tree mark path)

/-- A free number before another is earlier in the order. -/
theorem exists_nthFree_of_lt (hlt : number < tree.nthFree mark path index)
    (hnumber : tree.hasPath (backupPath mark path number) = false) :
    ∃ earlier < index, tree.nthFree mark path earlier = number := by
  have hnth : tree.nthFree mark path (Nat.count _ number) = number := Nat.nth_count hnumber
  refine ⟨_, ?_, hnth⟩
  rw [← hnth] at hlt
  exact (Nat.nth_lt_nth (infinite_free tree mark path)).mp hlt

/-- The next free number is the first one at which nothing is. -/
theorem freeNumber_eq (hfree : tree.hasPath (backupPath mark path number) = false)
    (htaken : ∀ other < number, tree.hasPath (backupPath mark path other) = true) :
    tree.freeNumber mark path = number := by
  refine Nat.le_antisymm (Nat.le_of_not_lt fun hlt => ?_) (Nat.le_of_not_lt fun hlt => ?_)
  · rw [hasPath_of_lt_freeNumber hlt] at hfree
    cases hfree
  · have htaken := htaken _ hlt
    rw [hasPath_freeNumber] at htaken
    cases htaken

/-! ### Names in a directory -/

/-- Without links, a path leads nowhere if nothing is at its place. -/
theorem LinkFree.hasPath_eq_false (hfree : tree.LinkFree) (hwell : tree.WellFormed)
    (h : tree.node? (tree.placeOf path) = none) : tree.hasPath path = false := by
  refine Bool.eq_false_iff.mpr fun hpath => ?_
  obtain ⟨place, node, hlookup⟩ := hasPath_iff.mp hpath
  have hlanded : tree.node? place = some node := hwell.landed hlookup
  rw [hfree.place_eq hlookup, h] at hlanded
  cases hlanded

/-- A name in a directory can be written if nothing is there yet and the path keeps to the
limits. -/
theorem LinkFree.destination_join {directory name : String} (hfree : tree.LinkFree)
    (hname : Path.IsName name) (hthere : directory = "" ∨ tree.hasDirectory directory = true)
    (hfits : Fits (Path.join directory name))
    (hpath : tree.hasPath (Path.join directory name) = false) :
    tree.Destination (Path.join directory name)
      (tree.placeOf (Path.join directory name)) := by
  have hrelative := hname.isAbsolute_eq_false
  have hslash : Path.endsInSlash (Path.join directory name) = false := by
    rw [Path.endsInSlash_join directory hname.ne_empty, Path.endsInSlash, decide_eq_false_iff_not]
    exact fun hlast => hname.no_slash (List.mem_of_getLast? hlast)
  obtain ⟨place, left, henters⟩ : ∃ place left,
      Enters tree linkLimit (tree.origin directory) (Path.names directory) place left := by
    rcases hthere with rfl | hthere
    · rw [Path.names_empty]
      exact ⟨_, _, .done⟩
    · obtain ⟨place, hlookup⟩ := hasDirectory_iff.mp hthere
      exact ⟨place, (lookup_eq_ok_iff.mp hlookup).2.enters⟩
  rw [← origin_join tree directory hrelative] at henters
  refine hfree.destination_of_enters ?_ hslash hname.ne_dot hname.ne_dots henters hfits hpath
  rw [Path.names_join directory hrelative, hname.names_eq]

end FileTree

namespace Disk

open FileTree

variable {before now : FileTree} {directory name mark path : String} {versions : List ByteArray}

/-! ### The backups of a name -/

theorem backupPath_join (hname : Path.IsName name) (number : Nat) :
    backupPath mark (Path.join directory name) number =
      Path.join directory (name ++ mark ++ toString number) := by
  rw [backupPath, String.append_assoc, ← Path.join_append directory hname.ne_empty,
    String.append_assoc]

theorem isName_numbered (hname : Path.IsName name) (hmark : '/' ∉ mark.toList) (number : Nat) :
    Path.IsName (name ++ mark ++ toString number) := by
  refine ⟨by simp [hname.ne_empty], ?_, Path.append_number_ne (by simp) _ number,
    Path.append_number_ne (by simp) _ number⟩
  rw [String.append_assoc, String.toList_append, List.mem_append, not_or]
  exact ⟨hname.no_slash, slash_not_mem_append_number hmark number⟩

theorem placeOf_join_name (hname : Path.IsName name) :
    before.placeOf (Path.join directory name) = before.placeOf directory ++ [name] :=
  placeOf_join_of_names before directory hname.isAbsolute_eq_false hname.names_eq
    (by simpa using ⟨hname.ne_dot, hname.ne_dots⟩)

theorem placeOf_backup (hname : Path.IsName name) (hmark : '/' ∉ mark.toList) (number : Nat) :
    before.placeOf (backupPath mark (Path.join directory name) number) =
      before.placeOf directory ++ [name ++ mark ++ toString number] := by
  rw [backupPath_join hname, placeOf_join_name (isName_numbered hname hmark number)]

theorem placeOf_backup_ne (hname : Path.IsName name) (hmark : '/' ∉ mark.toList) (number : Nat) :
    before.placeOf (backupPath mark (Path.join directory name) number) ≠
      before.placeOf (Path.join directory name) := by
  rw [placeOf_backup hname hmark, placeOf_join_name hname]
  intro hsame
  have hlength := congrArg String.length (List.singleton_inj.mp (List.append_cancel_left hsame))
  have hdigits : 0 < (toString number).length := by
    simp [Nat.pos_iff_ne_zero]
  rw [String.length_append, String.length_append] at hlength
  omega

theorem placeOf_backup_injective (hname : Path.IsName name) (hmark : '/' ∉ mark.toList) :
    Function.Injective fun number =>
      before.placeOf (backupPath mark (Path.join directory name) number) := by
  intro number other hsame
  dsimp only at hsame
  rw [placeOf_backup hname hmark, placeOf_backup hname hmark] at hsame
  have hnames := List.singleton_inj.mp (List.append_cancel_left hsame)
  exact toString_nat_injective ((String.append_right_inj _).mp hnames)

/-! ### Storing versions -/

/-- The path of the backup for the version with a given index. -/
noncomputable def versionPath (before : FileTree) (mark path : String) (index : Nat) : String :=
  backupPath mark path (before.nthFree mark path index)

/-- The last version of a page is at its path, the earlier ones are in its backups, and everything
else is as it was. -/
structure Stores (before : FileTree) (mark path : String) (versions : List ByteArray)
    (now : FileTree) : Prop where
  evolves : before.Evolves now
  current : now.node? (before.placeOf path) = versions.getLast?.map .file
  stored : ∀ {index version}, versions.dropLast[index]? = some version →
    now.node? (before.placeOf (versionPath before mark path index)) = some (.file version)
  kept : ∀ {other}, other ≠ before.placeOf path →
    (∀ index < versions.length - 1, other ≠ before.placeOf (versionPath before mark path index)) →
    now.node? other = before.node? other

/-- What writing a page answers, given how many versions there were. -/
noncomputable def outcome (before : FileTree) (mark path : String) : Nat → Option String
  | 0 => none
  | index + 1 => some (versionPath before mark path index)

section

variable (hwell : before.WellFormed) (hfree : before.LinkFree) (hname : Path.IsName name)
  (hthere : directory = "" ∨ before.hasDirectory directory = true) (hmark : '/' ∉ mark.toList)

include hname hmark in
theorem placeOf_versionPath_ne (index : Nat) :
    before.placeOf (versionPath before mark (Path.join directory name) index) ≠
      before.placeOf (Path.join directory name) :=
  placeOf_backup_ne hname hmark _

include hname hmark in
theorem placeOf_versionPath_injective : Function.Injective fun index =>
    before.placeOf (versionPath before mark (Path.join directory name) index) := by
  intro first second hsame
  dsimp only [versionPath] at hsame
  exact nthFree_injective before mark _ (placeOf_backup_injective hname hmark hsame)

include hfree hname hthere hmark in
theorem destination_versionPath {index : Nat}
    (hfits : Fits (versionPath before mark (Path.join directory name) index)) :
    before.Destination (versionPath before mark (Path.join directory name) index)
      (before.placeOf (versionPath before mark (Path.join directory name) index)) := by
  have hfresh := hasPath_nthFree before mark (Path.join directory name) index
  rw [versionPath, backupPath_join hname] at *
  exact hfree.destination_join (isName_numbered hname hmark _) hthere hfits hfresh

include hfree hname hthere hmark in
/-- The backup of the next version is still free. -/
theorem Stores.node?_eq_none (h : Stores before mark (Path.join directory name) versions now)
    (hfits : Fits (versionPath before mark (Path.join directory name) (versions.length - 1))) :
    now.node? (before.placeOf
      (versionPath before mark (Path.join directory name) (versions.length - 1))) = none := by
  have hdest := destination_versionPath hfree hname hthere hmark hfits
  rw [h.kept (placeOf_versionPath_ne hname hmark _) fun index hindex hsame => ?_]
  · exact hdest.node?_eq_none (hasPath_nthFree before mark _ _)
  · have hsame := placeOf_versionPath_injective hname hmark hsame
    omega

include hwell hfree hname hthere hmark in
/-- The next version gets the next of the numbers that were free at the beginning: the ones before
it were taken then, or are taken by earlier versions now. -/
theorem Stores.freeNumber_eq (h : Stores before mark (Path.join directory name) versions now)
    (hfits : ∀ index ≤ versions.length - 1,
      Fits (versionPath before mark (Path.join directory name) index)) :
    now.freeNumber mark (Path.join directory name) =
      before.nthFree mark (Path.join directory name) (versions.length - 1) := by
  refine FileTree.freeNumber_eq ?_ fun number hnumber => ?_
  · refine (hfree.evolves h.evolves).hasPath_eq_false (h.evolves.wellFormed hwell) ?_
    rw [h.evolves.grows.placeOf_eq]
    exact h.node?_eq_none hfree hname hthere hmark (hfits _ (Nat.le_refl _))
  · cases hpath : before.hasPath (backupPath mark (Path.join directory name) number) with
    | true => exact h.evolves.grows.hasPath hpath
    | false =>
      obtain ⟨index, hindex, rfl⟩ := exists_nthFree_of_lt hnumber hpath
      have hsome : index < versions.dropLast.length := by rwa [List.length_dropLast]
      have hstored := h.stored (List.getElem?_eq_getElem hsome)
      have hdest := destination_versionPath hfree hname hthere hmark (hfits _ hindex.le)
      exact hasPath_iff.mpr ⟨_, _, hdest.lookup h.evolves.grows hstored⟩

include hwell hfree hname hthere in
/-- A page that nothing is in the way of is the first version. -/
theorem Stores.write_first (h : Stores before mark (Path.join directory name) [] now)
    (hfits : Fits (Path.join directory name)) (content : String) :
    ∃ next, (writeArtifact mark
        { path := Path.join directory name, content, policy := .backup }).exec now =
          (.ok none, next) ∧
      Stores before mark (Path.join directory name) [content.toUTF8] next := by
  have hfree' := hfree.evolves h.evolves
  have hgrows := h.evolves.grows
  have hpath : now.hasPath (Path.join directory name) = false := by
    refine hfree'.hasPath_eq_false (h.evolves.wellFormed hwell) ?_
    rw [hgrows.placeOf_eq]
    exact h.current
  have hthere' := hthere.imp id (Grows.hasDirectory hgrows)
  have hdest := hfree'.destination_join hname hthere' hfits hpath
  rw [hgrows.placeOf_eq] at hdest
  refine ⟨now.put (before.placeOf (Path.join directory name)) (.file content.toUTF8), ?_, ?_⟩
  · rw [exec_writeArtifact, if_neg (by simp [hpath]), exec_bind, exec_onFault, exec_write hdest]
    rfl
  · refine ⟨h.evolves.trans (hdest.evolves _), node?_put_self hdest.ne_nil,
      fun {index version} hindex => by simp at hindex, fun {other} hother hothers => ?_⟩
    rw [node?_put hdest.ne_nil, if_neg hother]
    exact h.kept hother hothers

include hwell hfree hname hthere hmark in
/-- A page that is in the way becomes the next version that is stored. -/
theorem Stores.write_next {last : ByteArray}
    (h : Stores before mark (Path.join directory name) (versions ++ [last]) now)
    (hpage : before.Destination (Path.join directory name)
      (before.placeOf (Path.join directory name)))
    (hfits : ∀ index ≤ versions.length,
      Fits (versionPath before mark (Path.join directory name) index)) (content : String) :
    ∃ next, (writeArtifact mark
        { path := Path.join directory name, content, policy := .backup }).exec now =
          (.ok (some (versionPath before mark (Path.join directory name) versions.length)), next) ∧
      Stores before mark (Path.join directory name) (versions ++ [last] ++ [content.toUTF8])
        next := by
  have hlength : (versions ++ [last]).length - 1 = versions.length := by simp
  have hgrows := h.evolves.grows
  have htarget : backupTarget mark now (Path.join directory name) =
      versionPath before mark (Path.join directory name) versions.length := by
    rw [backupTarget, h.freeNumber_eq hwell hfree hname hthere hmark (by rwa [hlength]), hlength]
    rfl
  have hcurrent : now.node? (before.placeOf (Path.join directory name)) = some (.file last) := by
    rw [h.current, List.getLast?_concat]
    rfl
  have hlookup := hpage.lookup hgrows hcurrent
  have hcopied := destination_backupTarget (hfree.evolves h.evolves) hmark hlookup
    (htarget ▸ hfits _ (Nat.le_refl _))
  have hexec : (writeArtifact mark
      { path := Path.join directory name, content, policy := .backup }).exec now = _ :=
    exec_writeArtifact_of_destination rfl hlookup hcopied
  have hevolves := (wrote_writeArtifact hexec).evolves
  have hwritten := destination_put_backup hlookup hcopied
  rw [htarget, hgrows.placeOf_eq] at hcopied hexec hevolves
  refine ⟨_, hexec, h.evolves.trans hevolves, ?_, fun {index version} hindex => ?_,
    fun {other} hother hothers => ?_⟩
  · rw [List.getLast?_concat]
    exact node?_put_self hwritten.ne_nil
  · rw [List.dropLast_concat] at hindex
    rw [node?_put hwritten.ne_nil, if_neg (placeOf_versionPath_ne hname hmark index),
      node?_put hcopied.ne_nil]
    have hbound := (List.getElem?_eq_some_iff.mp hindex).1
    rw [List.length_append, List.length_singleton] at hbound
    rcases Nat.lt_or_eq_of_le (Nat.le_of_lt_succ hbound) with hlt | rfl
    · -- An earlier version.
      rw [if_neg fun hsame => hlt.ne (placeOf_versionPath_injective hname hmark hsame)]
      rw [List.getElem?_append_left hlt] at hindex
      exact h.stored (by rwa [List.dropLast_concat])
    · rw [List.getElem?_concat_length] at hindex
      cases hindex
      exact if_pos rfl
  · rw [List.length_append, List.length_singleton, Nat.add_sub_cancel, List.length_append,
      List.length_singleton] at hothers
    rw [node?_put hwritten.ne_nil, if_neg hother, node?_put hcopied.ne_nil,
      if_neg (hothers versions.length (Nat.lt_succ_self _))]
    exact h.kept hother fun index hindex => hothers index (by omega)

/-- What was at a path before its first version: nothing, or a file. -/
def Initial (before : FileTree) (path : String) : Option ByteArray → Prop
  | none => before.hasPath path = false
  | some content => before.read path = .ok content

include hfree hname hthere in
theorem Initial.destination {old : Option ByteArray}
    (h : Initial before (Path.join directory name) old) (hfits : Fits (Path.join directory name)) :
    before.Destination (Path.join directory name)
      (before.placeOf (Path.join directory name)) := by
  cases old with
  | none => exact hfree.destination_join hname hthere hfits h
  | some content =>
    obtain ⟨place, hlookup⟩ := read_eq_ok_iff.mp h
    rw [← hfree.place_eq hlookup]
    exact Destination.of_lookup hlookup

include hfree hname hthere in
/-- What was there is the only version at the beginning. -/
theorem Initial.stores {old : Option ByteArray}
    (h : Initial before (Path.join directory name) old) (hfits : Fits (Path.join directory name)) :
    Stores before mark (Path.join directory name) old.toList before := by
  refine ⟨Relation.ReflTransGen.refl, ?_, fun {index version} hindex => ?_, fun _ _ => rfl⟩
  · cases old with
    | none => exact (Initial.destination hfree hname hthere h hfits).node?_eq_none h
    | some content =>
      obtain ⟨place, hlookup⟩ := read_eq_ok_iff.mp h
      rw [← hfree.place_eq hlookup]
      exact node?_of_lookup_file hlookup
  · cases old <;> simp at hindex

include hwell hfree hname hthere hmark in
/-- A page that is written stores the version that was there, if there was one. -/
theorem Stores.write (hpage : before.Destination (Path.join directory name)
      (before.placeOf (Path.join directory name)))
    (hfits : Fits (Path.join directory name))
    (h : Stores before mark (Path.join directory name) versions now)
    (hbackups : ∀ index < versions.length,
      Fits (versionPath before mark (Path.join directory name) index)) (content : String) :
    ∃ next, (writeArtifact mark
        { path := Path.join directory name, content, policy := .backup }).exec now =
          (.ok (outcome before mark (Path.join directory name) versions.length), next) ∧
      Stores before mark (Path.join directory name) (versions ++ [content.toUTF8]) next := by
  rcases List.eq_nil_or_concat versions with rfl | ⟨earlier, last, rfl⟩
  · exact h.write_first hwell hfree hname hthere hfits content
  · rw [List.concat_eq_append] at *
    rw [List.length_append, List.length_singleton]
    refine h.write_next hwell hfree hname hthere hmark hpage (fun index hindex => ?_) content
    exact hbackups index (by simpa using Nat.lt_succ_of_le hindex)

include hwell hfree hname hthere hmark in
/-- Each page that is written stores one more version. -/
theorem Stores.run (hpage : before.Destination (Path.join directory name)
      (before.placeOf (Path.join directory name)))
    (hfits : Fits (Path.join directory name)) {contents : List String}
    (h : Stores before mark (Path.join directory name) versions now)
    (hbackups : ∀ index, index + 1 < versions.length + contents.length →
      Fits (versionPath before mark (Path.join directory name) index)) :
    ∃ after, (contents.mapM fun content => writeArtifact mark
        { path := Path.join directory name, content, policy := .backup }).exec now =
        (.ok ((List.range' versions.length contents.length).map
          (outcome before mark (Path.join directory name))), after) ∧
      Stores before mark (Path.join directory name)
        (versions ++ contents.map String.toUTF8) after := by
  induction contents generalizing versions now with
  | nil => exact ⟨now, rfl, by simpa using h⟩
  | cons content rest ih =>
    rw [List.length_cons] at hbackups
    obtain ⟨next, hexec, hnext⟩ := h.write hwell hfree hname hthere hmark hpage hfits
      (fun index hindex => hbackups index (by omega)) content
    obtain ⟨after, hrest, hafter⟩ := ih hnext fun index hindex => hbackups index (by
      rw [List.length_append, List.length_singleton] at hindex
      omega)
    refine ⟨after, ?_, ?_⟩
    · rw [List.length_append, List.length_singleton] at hrest
      rw [List.mapM_cons, exec_bind_of_ok _ hexec, exec_bind_of_ok _ hrest, List.length_cons,
        List.range'_succ, List.map_cons]
      rfl
    · rw [List.map_cons, List.append_cons]
      exact hafter

end

/-- Pages that are written one after the other to a name in a directory, where nothing was or a
file, all are written. The last one is at the path, and what it and the others have replaced is in
backups: under the numbers at which nothing was at the beginning, in order. Everything else is as it
was. -/
theorem backups_form_history (hwell : before.WellFormed) (hfree : before.LinkFree)
    (hname : Path.IsName name)
    (hthere : directory = "" ∨ before.hasDirectory directory = true) (hmark : '/' ∉ mark.toList)
    {old : Option ByteArray} (hold : Initial before (Path.join directory name) old)
    (contents : List String) (hfits : Fits (Path.join directory name))
    (hbackups : ∀ index, index + 1 < old.toList.length + contents.length →
      Fits (versionPath before mark (Path.join directory name) index)) :
    let path := Path.join directory name
    let versions := old.toList ++ contents.map String.toUTF8
    ∃ after, (contents.mapM fun content =>
          writeArtifact mark { path, content, policy := .backup }).exec before =
        (.ok ((List.range' old.toList.length contents.length).map (outcome before mark path)),
          after) ∧
      (∀ content, versions.getLast? = some content → after.read path = .ok content) ∧
      (∀ index version, versions.dropLast[index]? = some version →
        after.read (versionPath before mark path index) = .ok version) ∧
      Stores before mark path versions after := by
  intro path versions
  have hpage := hold.destination hfree hname hthere hfits
  obtain ⟨after, hexec, hafter⟩ := (hold.stores hfree hname hthere hfits).run hwell hfree hname
    hthere hmark hpage hfits hbackups
  refine ⟨after, hexec, fun content hcontent => ?_, fun index version hindex => ?_, hafter⟩
  · have hcurrent := hafter.current
    rw [hcontent] at hcurrent
    exact hpage.read hafter.evolves.grows hcurrent
  · have hbound := (List.getElem?_eq_some_iff.mp hindex).1
    rw [List.length_dropLast, List.length_append, List.length_map] at hbound
    have hdest := destination_versionPath hfree hname hthere hmark (hbackups index (by omega))
    exact hdest.read hafter.evolves.grows (hafter.stored hindex)

/-- A page, and other things under some numbers of its backups. -/
def gapped : FileTree :=
  { entries := [(["p"], .file "x".toUTF8), (["p.bak0"], .special), (["p.bak2"], .directory)] }

theorem versionPath_gapped :
    versionPath gapped ".bak" "p" 0 = "p.bak1" ∧ versionPath gapped ".bak" "p" 1 = "p.bak3" := by
  have hfirst : gapped.hasPath (backupPath ".bak" "p" 1) = false := by decide +kernel
  have hsecond : gapped.hasPath (backupPath ".bak" "p" 3) = false := by decide +kernel
  have hnone : Nat.count (fun number => gapped.hasPath (backupPath ".bak" "p" number) = false) 1 =
      0 := by decide +kernel
  have hone : Nat.count (fun number => gapped.hasPath (backupPath ".bak" "p" number) = false) 3 =
      1 := by decide +kernel
  have hnth : gapped.nthFree ".bak" "p" 0 = 1 := hnone ▸ Nat.nth_count hfirst
  have hnth' : gapped.nthFree ".bak" "p" 1 = 3 := hone ▸ Nat.nth_count hsecond
  rw [versionPath, versionPath, hnth, hnth']
  decide +kernel

/-- Two pages are written over the one that is there. -/
theorem history_with_gaps :
    ∃ after, (["a", "b"].mapM fun content =>
          writeArtifact ".bak" { path := "p", content, policy := .backup }).exec gapped =
        (.ok [some "p.bak1", some "p.bak3"], after) ∧
      after.read "p" = .ok "b".toUTF8 ∧ after.read "p.bak1" = .ok "x".toUTF8 ∧
      after.read "p.bak3" = .ok "a".toUTF8 ∧
      after.node? ["p.bak0"] = some .special ∧ after.node? ["p.bak2"] = some .directory := by
  obtain ⟨hfirst, hsecond⟩ := versionPath_gapped
  have hpath : Path.join "" "p" = "p" := by decide +kernel
  have hmark : '/' ∉ ".bak".toList := by decide
  have hread : gapped.read "p" = .ok "x".toUTF8 := by decide +kernel
  have hold : Initial gapped (Path.join "" "p") (some "x".toUTF8) := by rwa [hpath]
  have hbackups : ∀ index, index + 1 < (some "x".toUTF8).toList.length + ["a", "b"].length →
      Fits (versionPath gapped ".bak" (Path.join "" "p") index) := by
    intro index hindex
    have hbound : index = 0 ∨ index = 1 := by
      simp at hindex
      omega
    rw [hpath]
    rcases hbound with rfl | rfl
    · rw [hfirst]
      decide +kernel
    · rw [hsecond]
      decide +kernel
  obtain ⟨after, hexec, hcurrent, hstored, hafter⟩ := backups_form_history (by decide +kernel)
    (by decide +kernel) (by decide) (Or.inl rfl) hmark hold ["a", "b"] (by decide +kernel) hbackups
  rw [hpath] at hexec hcurrent hstored hafter
  have hspecial : gapped.node? ["p.bak0"] = some .special := by decide +kernel
  obtain ⟨other, hother, rfl⟩ := hafter.evolves.grows.node? hspecial
  refine ⟨after, ?_, hcurrent _ rfl, ?_, ?_, hother,
    hafter.evolves.grows.directory (by decide +kernel)⟩
  · rw [hexec, ← hfirst, ← hsecond]
    rfl
  · rw [← hfirst]
    exact hstored 0 _ rfl
  · rw [← hsecond]
    exact hstored 1 _ rfl

/-- A mark that leaves no room for a number. -/
def longMark : String := String.ofList (List.replicate 255 'b')

theorem slash_not_mem_longMark : '/' ∉ longMark.toList := by
  have hall : ∀ count, '/' ∉ (String.ofList (List.replicate count 'b')).toList := by
    intro count hmem
    rw [String.toList_ofList] at hmem
    cases List.eq_of_mem_replicate hmem
  exact hall 255

/-- A page may be left unwritten because the name of its backup is too long, and a number may be
taken by something that is neither a file nor a directory. -/
theorem history_breaks :
    (gapped.WellFormed ∧ gapped.LinkFree ∧ Initial gapped "p" (some "x".toUTF8) ∧
      '/' ∉ longMark.toList ∧
      ∀ answers after, (["a"].mapM fun content =>
        writeArtifact longMark { path := "p", content, policy := .backup }).exec gapped ≠
          (.ok answers, after)) ∧
    gapped.hasFile "p.bak0" = false ∧ gapped.hasDirectory "p.bak0" = false ∧
      ((["a"].mapM fun content =>
        writeArtifact ".bak" { path := "p", content, policy := .backup }).exec gapped).1 =
          .ok [some "p.bak1"] := by
  have hold : Initial gapped "p" (some "x".toUTF8) := by
    rw [Initial]
    decide +kernel
  have hfree : gapped.LinkFree := by decide +kernel
  refine ⟨⟨by decide +kernel, hfree, hold, slash_not_mem_longMark, fun answers after hexec => ?_⟩,
    by decide +kernel, by decide +kernel, by decide +kernel⟩
  rw [List.mapM_cons] at hexec
  obtain ⟨copied, middle, hwrite, -⟩ := exec_bind_eq_ok hexec
  have hwrote := wrote_writeArtifact hwrite
  cases hwrote with
  | fresh free there =>
    have hthere : gapped.hasPath "p" = true := by decide +kernel
    rw [hthere] at free
    cases free
  | replaced policy there copied =>
    have hsize : ¬longMark.utf8ByteSize < nameLimit := by decide +kernel
    exact hsize ((hfree.fits_of_destination copied).utf8ByteSize_lt slash_not_mem_longMark)

end Disk

end DocStubs
