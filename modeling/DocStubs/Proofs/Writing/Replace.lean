import DocStubs.Proofs.Writing.Numbered

/-!
# Replacing what is in the way

To back up and replace is to copy what is in the way and then to write the page in its place. For a
file this is what it says: its content goes to a free name, and nothing else changes. A directory is
copied too, but the copy does not move it. It is still in the way when the page is written, and a
page cannot be written over a directory. So a page that is to replace a directory is never written,
although the backup of the directory is made.

## Main definitions

* `Disk.Replaces` — what was in the way has become a backup, and the page is in its place

## Main results

* `Disk.replaces_iff_hasFile` — which things in the way are replaced
-/

namespace DocStubs

/-- Nothing is below what is no directory. -/
theorem FileTree.WellFormed.node?_append_of_not_directory {tree : FileTree} {place : Place}
    (h : tree.WellFormed) (hplace : tree.node? place ≠ some .directory) {inside : List String}
    (hinside : inside ≠ []) : tree.node? (place ++ inside) = none := by
  obtain ⟨name, rest, rfl⟩ := List.exists_cons_of_ne_nil hinside
  have hnone : tree.node? (place ++ [name]) = none := by
    cases hnode : tree.node? (place ++ [name]) with
    | none => rfl
    | some node =>
      have hdirectory := h.node?_dropLast hnode
      rw [List.dropLast_concat] at hdirectory
      exact absurd hdirectory hplace
  rw [← List.singleton_append, ← List.append_assoc]
  exact h.node?_append_eq_none hnone rest

/-- A mark without a slash adds no names that it could turn back from. -/
theorem Path.climbs_of_no_slash {mark : String} (h : '/' ∉ mark.toList) :
    Path.climbs mark = false := by
  have hinner : Path.innerNames mark = [] := by
    simp [Path.innerNames, Cut.pieces, Cut.piecesOf_of_not_mem h]
  rw [Path.climbs, hinner]
  split <;> rfl

namespace Disk

open FileTree

variable {mark path target : String} {before after : FileTree}

/-- What was at a path has become a backup, the page is in its place, and nothing else has
changed. -/
structure Replaces (path target : String) (content : ByteArray) (before after : FileTree) :
    Prop where
  free : before.hasPath target = false
  copied : ∀ inside,
    after.node? (before.placeOf target ++ inside) = before.node? (before.placeOf path ++ inside)
  written : after.nodeAt path = .ok (.file content)
  kept : ∀ other, ¬before.placeOf path <+: other → ¬before.placeOf target <+: other →
    after.node? other = before.node? other

/-- The backup of a file can be made if its path keeps to the limits. -/
theorem destination_backupTarget {place : Place} {old : ByteArray} (hfree : before.LinkFree)
    (hmark : '/' ∉ mark.toList)
    (hfile : before.lookup .reach path = .ok (.node place (.file old)))
    (hfits : Fits (backupTarget mark before path)) :
    before.Destination (backupTarget mark before path)
      (before.placeOf (backupTarget mark before path)) := by
  have hne : path ≠ "" := (lookup_eq_ok_iff.mp hfile).1.ne_empty
  have hfresh := hasPath_backupTarget mark before path
  rw [backupTarget] at hfits hfresh ⊢
  generalize before.freeNumber mark path = number at *
  obtain ⟨start, ending, hpath, hending⟩ : ∃ start ending, path = start ++ ending ∧ ending ≠ "" :=
    ⟨"", path, String.empty_append.symm, hne⟩
  rw [hpath] at hfile hfits hfresh ⊢
  exact destination_of_fits hfree hending hmark hfile hfits hfresh

/-- A file is replaced by the page, and its content is put under the name of the backup. -/
theorem replaces_of_destination {place other : Place} {old content : ByteArray}
    (hwell : before.WellFormed) (hfree : before.LinkFree)
    (hfile : before.lookup .reach path = .ok (.node place (.file old)))
    (hcopied : before.Destination (backupTarget mark before path) other) :
    Replaces path (backupTarget mark before path) content before
      ((before.put other (.file old)).put place (.file content)) := by
  have hpath := hasPath_backupTarget mark before path
  have hnone := hcopied.node?_eq_none hpath
  have hplace := node?_of_lookup_file hfile
  have hwritten := destination_put_backup hfile hcopied
  have hne : other ≠ place := by
    rintro rfl
    rw [hnone] at hplace
    cases hplace
  have hnode : ∀ third, third ≠ place → third ≠ other →
      ((before.put other (.file old)).put place (.file content)).node? third =
        before.node? third := by
    intro third hthird hthird'
    rw [node?_put hwritten.ne_nil, if_neg hthird, node?_put hcopied.ne_nil, if_neg hthird']
  refine ⟨hpath, fun inside => ?_, ?_, fun third hthird hthird' => ?_⟩
  · rw [← hfree.destination_eq hcopied, ← hfree.place_eq hfile]
    by_cases hinside : inside = []
    · rw [hinside, List.append_nil, List.append_nil, hplace, node?_put hwritten.ne_nil,
        if_neg hne, node?_put_self hcopied.ne_nil]
    · -- Nothing was below the file, and nothing is below its backup.
      have hbelow := hwell.node?_append_eq_none hnone inside
      have hne' : other ++ inside ≠ place := by
        intro hsame
        rw [hsame, hplace] at hbelow
        cases hbelow
      rw [hnode _ hne' (by simpa using hinside), hbelow,
        hwell.node?_append_of_not_directory (by simp [hplace]) hinside]
  · exact nodeAt_eq_ok_iff.mpr ⟨place, hwritten.lookup (hwritten.grows content)
      (node?_put_self hwritten.ne_nil)⟩
  · rw [← hfree.place_eq hfile] at hthird
    rw [← hfree.destination_eq hcopied] at hthird'
    refine hnode third ?_ ?_
    · rintro rfl
      exact hthird List.prefix_rfl
    · rintro rfl
      exact hthird' List.prefix_rfl

/-- A page that is to replace a directory is not written, and what is there stays as it is. -/
theorem Wrote.of_hasDirectory {artifact : Artifact} {answer : Except Error (Option String)}
    (h : Wrote mark artifact before answer after) (hwell : before.WellFormed)
    (hmark : '/' ∉ mark.toList) (hdirectory : before.hasDirectory artifact.path = true) :
    (∃ fault, answer = .error fault) ∧
      before.ExtendsBy (fun node => node.isLink = false) after := by
  obtain ⟨directory, hlookup⟩ := hasDirectory_iff.mp hdirectory
  cases h with
  | refused fault => exact ⟨⟨fault, rfl⟩, ExtendsBy.refl _ before⟩
  | fresh free there =>
    rw [hasPath_iff.mpr ⟨directory, _, hlookup⟩] at free
    cases free
  | replaced policy there copied =>
    rw [hlookup] at there
    cases there
  | halted fault policy there =>
    exact ⟨⟨fault, rfl⟩, extendsBy_copyTree hwell there (Path.climbs_of_no_slash hmark)
      (hasPath_backupTarget mark before artifact.path)⟩

/-- Whatever is in the way of a page, in a tree without links, it is replaced exactly if it is a
file and the path of its backup keeps to the limits. A directory is never replaced: the page is not
written, and what was there stays as it was. -/
theorem replaces_iff_hasFile (hwell : before.WellFormed) (hfree : before.LinkFree)
    (hmark : '/' ∉ mark.toList)
    (hthere : before.hasFile path = true ∨ before.hasDirectory path = true) (content : String) :
    let result := (writeArtifact mark { path, content, policy := .backup }).exec before
    ((∃ target, result.1 = .ok (some target) ∧
        Replaces path target content.toUTF8 before result.2) ↔
      before.hasFile path = true ∧ Fits (backupTarget mark before path)) ∧
    (before.hasFile path = false →
      (∃ fault, result.1 = .error fault) ∧
        before.ExtendsBy (fun node => node.isLink = false) result.2) := by
  intro result
  have hwrote : Wrote mark { path, content, policy := .backup } before result.1 result.2 :=
    wrote_writeArtifact rfl
  have hresult : (writeArtifact mark { path, content, policy := .backup }).exec before = result :=
    rfl
  clear_value result
  refine ⟨⟨?_, ?_⟩, fun hno => ?_⟩
  · rintro ⟨target, hanswer, -⟩
    rw [hanswer] at hwrote
    generalize result.2 = after at hwrote
    cases hwrote with
    | replaced policy there copied =>
      exact ⟨hasFile_iff.mpr ⟨_, _, there⟩, hfree.fits_of_destination copied⟩
  · rintro ⟨hfile, hfits⟩
    obtain ⟨place, old, hlookup⟩ := hasFile_iff.mp hfile
    have hcopied := destination_backupTarget hfree hmark hlookup hfits
    have hexec := hresult.symm.trans (exec_writeArtifact_of_destination rfl hlookup hcopied)
    rw [hexec]
    exact ⟨_, rfl, replaces_of_destination hwell hfree hlookup hcopied⟩
  · have hdirectory : before.hasDirectory path = true := hthere.resolve_left (by simp [hno])
    exact hwrote.of_hasDirectory hwell hmark hdirectory

/-- A directory with a file in it. -/
def folder : FileTree :=
  { entries := [(["d"], .directory), (["d", "f"], .file "x".toUTF8)] }

/-- The file is replaced. -/
theorem file_in_folder_replaced :
    folder.WellFormed ∧ folder.LinkFree ∧ folder.hasFile "d/f" = true ∧
      let result :=
        (writeArtifact ".bak" { path := "d/f", content := "new", policy := .backup }).exec folder
      ∃ target, result.1 = .ok (some target) ∧
        Replaces "d/f" target "new".toUTF8 folder result.2 := by
  have hwell : folder.WellFormed := by decide +kernel
  have hfree : folder.LinkFree := by decide +kernel
  have hfile : folder.hasFile "d/f" = true := by decide +kernel
  refine ⟨hwell, hfree, hfile, ?_⟩
  exact (replaces_iff_hasFile hwell hfree (by decide) (Or.inl hfile) "new").1.mpr
    ⟨hfile, by decide +kernel⟩

/-- The directory is not replaced. -/
theorem folder_not_replaced :
    folder.WellFormed ∧ folder.LinkFree ∧ folder.hasDirectory "d" = true ∧
      let result :=
        (writeArtifact ".bak" { path := "d", content := "new", policy := .backup }).exec folder
      ¬∃ target, result.1 = .ok (some target) ∧
        Replaces "d" target "new".toUTF8 folder result.2 := by
  have hwell : folder.WellFormed := by decide +kernel
  have hdirectory : folder.hasDirectory "d" = true := by decide +kernel
  refine ⟨hwell, by decide +kernel, hdirectory, ?_⟩
  intro result
  have hwrote : Wrote ".bak" { path := "d", content := "new", policy := .backup } folder result.1
      result.2 := wrote_writeArtifact rfl
  rintro ⟨target, hanswer, -⟩
  obtain ⟨⟨fault, hfault⟩, -⟩ := hwrote.of_hasDirectory hwell (by decide) hdirectory
  rw [hanswer] at hfault
  cases hfault

end Disk

end DocStubs
