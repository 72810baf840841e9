import DocStubs.Proofs.Writing.Copy

/-!
# Writing one page

What writing a page can do is said once, by `Wrote`. Either nothing changes; or the page is put at
a free name; or a file was in the way, its content is put at a free name and the page in its place;
or a directory was in the way, which is copied before the page fails to be written. Everything
about runs is derived from these four cases.

## Main definitions

* `Disk.Wrote` — what writing a page does
* `FileTree.Preserves` — no content is lost

## Main results

* `Disk.wrote_writeArtifact` — writing a page does no more than that
* `Disk.Wrote.preserves` — no content is lost, unless a copy of a directory climbs
-/

namespace DocStubs

/-! ### Content that is not lost -/

namespace FileTree

variable {before after : FileTree} {kind : Node → Prop}

/-- No content is lost: everything that was there still is, and what a file held, some file
holds. -/
structure Preserves (before after : FileTree) : Prop where
  grows : before.Grows after
  content : ∀ {place content}, before.node? place = some (.file content) →
    ∃ other, after.node? other = some (.file content)

theorem Preserves.refl (tree : FileTree) : tree.Preserves tree :=
  ⟨Grows.refl tree, fun h => ⟨_, h⟩⟩

theorem Preserves.trans {first second third : FileTree} (h : first.Preserves second)
    (h' : second.Preserves third) : first.Preserves third := by
  refine ⟨h.grows.trans h'.grows, fun hplace => ?_⟩
  obtain ⟨other, hother⟩ := h.content hplace
  exact h'.content hother

theorem ExtendsBy.preserves (h : before.ExtendsBy kind after) : before.Preserves after :=
  ⟨h.grows, fun hplace => ⟨_, h.kept hplace⟩⟩

end FileTree

namespace Disk

open FileTree

variable {mark : String} {artifact : Artifact} {before after : FileTree}
  {answer : Except Error (Option String)}

/-! ### The cases -/

/-- The path that what is in the way of a page is backed up to. -/
def backupTarget (mark : String) (tree : FileTree) (path : String) : String :=
  backupPath mark path (tree.freeNumber mark path)

/-- What writing a page does. -/
inductive Wrote (mark : String) (artifact : Artifact) (before : FileTree) :
    Except Error (Option String) → FileTree → Prop
  /-- The page is not written, and nothing changes. -/
  | refused (fault : Error) : Wrote mark artifact before (.error fault) before
  /-- Nothing was in the way. -/
  | fresh {place : Place} (free : before.hasPath artifact.path = false)
      (there : before.Destination artifact.path place) :
      Wrote mark artifact before (.ok none) (before.put place (.file artifact.content.toUTF8))
  /-- A file was in the way. -/
  | replaced {place other : Place} {old : ByteArray} (policy : artifact.policy = .backup)
      (there : before.lookup .reach artifact.path = .ok (.node place (.file old)))
      (copied : before.Destination (backupTarget mark before artifact.path) other) :
      Wrote mark artifact before (.ok (some (backupTarget mark before artifact.path)))
        ((before.put other (.file old)).put place (.file artifact.content.toUTF8))
  /-- A directory was in the way. It is copied, perhaps only in part, and stays in the way. -/
  | halted (fault : Error) (policy : artifact.policy = .backup)
      (there : before.hasDirectory artifact.path = true) :
      Wrote mark artifact before (.error fault)
        ((copyTree artifact.path (backupTarget mark before artifact.path)).exec before).2

theorem hasPath_backupTarget (mark : String) (tree : FileTree) (path : String) :
    tree.hasPath (backupTarget mark tree path) = false :=
  tree.hasPath_freeNumber mark path

/-- A path to a directory cannot be written. -/
theorem not_destination_of_hasDirectory {path : String} (h : before.hasDirectory path = true)
    (place : Place) : ¬before.Destination path place := by
  intro hdest
  -- After writing, the path would lead to a file, but it still leads to the directory.
  have hfile := hdest.lookup (hdest.grows ByteArray.empty) (node?_put_self hdest.ne_nil)
  obtain ⟨directory, hlookup⟩ := hasDirectory_iff.mp h
  obtain ⟨other, hother, halike⟩ := (hdest.grows ByteArray.empty).lookup hlookup
  rw [halike.eq_directory, hfile] at hother
  cases hother

theorem exec_write_of_hasDirectory {path : String} (h : before.hasDirectory path = true)
    (content : ByteArray) : ∃ fault, (write path content).exec before = (.error fault, before) := by
  cases hexec : (write path content).exec before with
  | mk answer after =>
    rcases exec_write_cases hexec with ⟨place, -, hdest, -⟩ | ⟨⟨fault, rfl⟩, rfl, -⟩
    · exact absurd hdest (not_destination_of_hasDirectory h place)
    · exact ⟨fault, rfl⟩

/-- A file that is backed up is where it was afterwards. -/
theorem destination_put_backup {path : String} {place other : Place} {old : ByteArray}
    (there : before.lookup .reach path = .ok (.node place (.file old)))
    (copied : before.Destination (backupTarget mark before path) other) :
    (before.put other (.file old)).Destination path place := by
  obtain ⟨node, hnode, halike⟩ := (copied.grows old).lookup there
  obtain ⟨content, rfl⟩ := halike.eq_file
  exact Destination.of_lookup hnode

theorem Grows.hasDirectory {path : String} (h : before.Grows after)
    (hdirectory : before.hasDirectory path = true) : after.hasDirectory path = true := by
  obtain ⟨place, hlookup⟩ := hasDirectory_iff.mp hdirectory
  obtain ⟨node, hnode, halike⟩ := h.lookup hlookup
  rw [halike.eq_directory] at hnode
  exact hasDirectory_iff.mpr ⟨place, hnode⟩

/-! ### One case for each way a page can be written -/

/-- The last step puts the page at its destination, or changes nothing. -/
theorem exec_write_return {ε : Type} (view : FileFault → ε) (path : String) (content : ByteArray)
    (copied : Option String) (tree : FileTree) :
    (∃ place, tree.Destination path place ∧
        (onFault view (write path content) >>= fun _ => pure copied).exec tree =
          (.ok copied, tree.put place (.file content))) ∨
      ∃ fault, (onFault view (write path content) >>= fun _ => pure copied).exec tree =
        (.error fault, tree) := by
  rw [exec_bind, exec_onFault]
  cases hexec : (write path content).exec tree with
  | mk answer after =>
    rcases exec_write_cases hexec with ⟨place, rfl, hdest, rfl⟩ | ⟨⟨fault, rfl⟩, rfl, -⟩
    · exact Or.inl ⟨place, hdest, rfl⟩
    · exact Or.inr ⟨view fault, rfl⟩

/-- A backup of a file puts its content at a free name, or changes nothing. -/
theorem exec_backup_of_hasFile {path : String} (h : before.hasFile path = true) :
    (∃ place other old, before.lookup .reach path = .ok (.node place (.file old)) ∧
        before.Destination (backupTarget mark before path) other ∧
        (backup mark path).exec before =
          (.ok (backupTarget mark before path), before.put other (.file old))) ∨
      ∃ fault, (backup mark path).exec before = (.error fault, before) := by
  obtain ⟨place, old, hlookup⟩ := hasFile_iff.mp h
  have hcopy : (copy path (backupTarget mark before path)).exec before =
      (write (backupTarget mark before path) old).exec before :=
    exec_copy_of_read (read_eq_ok_iff.mpr ⟨place, hlookup⟩)
      (sameFile_of_not_hasPath (hasPath_backupTarget mark before path))
  rw [backup]
  rw [exec_bind_of_ok _ (exec_get before), if_pos h, exec_bind, exec_onFault, ← backupTarget, hcopy]
  cases hexec : (write (backupTarget mark before path) old).exec before with
  | mk answer after =>
    rcases exec_write_cases hexec with ⟨other, rfl, hdest, rfl⟩ | ⟨⟨fault, rfl⟩, rfl, -⟩
    · exact Or.inl ⟨place, other, old, hlookup, hdest, rfl⟩
    · exact Or.inr ⟨.file fault, rfl⟩

/-- A backup of anything else copies a directory, or changes nothing. -/
theorem exec_backup_of_not_hasFile {path : String} (h : before.hasFile path = false) :
    (before.hasDirectory path = true ∧ ∃ answer, (backup mark path).exec before =
        (answer, ((copyTree path (backupTarget mark before path)).exec before).2)) ∨
      ∃ fault, (backup mark path).exec before = (.error fault, before) := by
  rw [backup]
  rw [exec_bind_of_ok _ (exec_get before), if_neg (by simp [h])]
  split
  · rename_i hdirectory
    refine Or.inl ⟨hdirectory, ?_⟩
    rw [exec_bind, exec_onFault]
    cases hexec : (copyTree path (backupPath mark path (before.freeNumber mark path))).exec
        before with
    | mk answer after =>
      rw [backupTarget, hexec]
      cases answer with
      | ok _ => exact ⟨_, rfl⟩
      | error fault => exact ⟨_, rfl⟩
  · exact Or.inr ⟨_, rfl⟩

/-- Writing a page is backing up, if something is in the way, and then the last step. -/
theorem exec_writeArtifact (mark : String) (artifact : Artifact) (tree : FileTree) :
    (writeArtifact mark artifact).exec tree =
      if tree.hasPath artifact.path then
        match artifact.policy with
        | .reject => (.error (.collision artifact.path), tree)
        | .backup =>
          match (backup mark artifact.path).exec tree with
          | (.ok target, after) =>
            (onFault Error.file (write artifact.path artifact.content.toUTF8) >>= fun _ =>
              pure (some target)).exec after
          | (.error fault, after) => (.error fault, after)
      else
        (onFault Error.file (write artifact.path artifact.content.toUTF8) >>= fun _ =>
          pure none).exec tree := by
  rw [writeArtifact]
  rw [exec_bind_of_ok _ (exec_ask _ tree)]
  split
  · cases artifact.policy with
    | reject => rfl
    | backup =>
      dsimp only
      rw [map_eq_pure_bind, bind_assoc, exec_bind]
      rcases (backup mark artifact.path).exec tree with ⟨_ | _, after⟩ <;> rfl
  · rfl

/-- Writing a page does what one of the cases says. -/
theorem wrote_writeArtifact (h : (writeArtifact mark artifact).exec before = (answer, after)) :
    Wrote mark artifact before answer after := by
  rw [exec_writeArtifact] at h
  split at h
  · split at h
    · cases h
      exact .refused _
    · rename_i policy
      cases hfile : before.hasFile artifact.path with
      | true =>
        rcases exec_backup_of_hasFile hfile with
          ⟨place, other, old, there, copied, hexec⟩ | ⟨fault, hexec⟩
        · rw [hexec] at h
          have hdest := destination_put_backup there copied
          dsimp only at h
          rw [exec_bind, exec_onFault, exec_write hdest] at h
          cases h
          exact .replaced policy there copied
        · rw [hexec] at h
          cases h
          exact .refused fault
      | false =>
        rcases exec_backup_of_not_hasFile hfile with ⟨there, answer, hexec⟩ | ⟨fault, hexec⟩
        · rw [hexec] at h
          have hstill := Grows.hasDirectory (evolves_copyTree artifact.path
            (backupTarget mark before artifact.path) before (Or.inl trivial)).grows there
          cases answer with
          | ok target =>
            obtain ⟨fault, hfault⟩ :=
              exec_write_of_hasDirectory hstill artifact.content.toUTF8
            dsimp only at h
            rw [exec_bind, exec_onFault, hfault] at h
            cases h
            exact .halted _ policy there
          | error fault =>
            cases h
            exact .halted fault policy there
        · rw [hexec] at h
          cases h
          exact .refused fault
  · rename_i hpath
    rcases exec_write_return Error.file artifact.path artifact.content.toUTF8 none before with
      ⟨place, hdest, hexec⟩ | ⟨fault, hexec⟩
    · rw [hexec] at h
      cases h
      exact .fresh (by simpa using hpath) hdest
    · rw [hexec] at h
      cases h
      exact .refused fault

/-! ### What every case keeps -/

theorem Wrote.evolves (h : Wrote mark artifact before answer after) : before.Evolves after := by
  cases h with
  | refused fault => exact Relation.ReflTransGen.refl
  | fresh free there => exact there.evolves _
  | replaced policy there copied =>
    exact (copied.evolves _).trans ((destination_put_backup there copied).evolves _)
  | halted fault policy there => exact evolves_copyTree _ _ before (Or.inl trivial)

/-- A page that is written is at its destination. -/
theorem Wrote.destination {copied : Option String}
    (h : Wrote mark artifact before (.ok copied) after) :
    ∃ place, before.Destination artifact.path place ∧
      after.node? place = some (.file artifact.content.toUTF8) := by
  cases h with
  | @fresh place free there => exact ⟨place, there, node?_put_self there.ne_nil⟩
  | @replaced place other old policy there copied =>
    have hdest := Destination.of_lookup there
    exact ⟨place, hdest, node?_put_self hdest.ne_nil⟩

/-- No directory is in the way of a page that is written. -/
theorem Wrote.hasDirectory_eq_false {copied : Option String}
    (h : Wrote mark artifact before (.ok copied) after) :
    after.hasDirectory artifact.path = false := by
  obtain ⟨place, hdest, hplace⟩ := h.destination
  have hfile := hdest.lookup h.evolves.grows hplace
  refine Bool.eq_false_iff.mpr fun hdirectory => ?_
  obtain ⟨directory, hlookup⟩ := hasDirectory_iff.mp hdirectory
  rw [hfile] at hlookup
  cases hlookup

/-- No content is lost when a page is written, unless a directory is in its way that is copied by a
mark that climbs. -/
theorem Wrote.preserves (hwell : before.WellFormed) (h : Wrote mark artifact before answer after)
    (hsafe : Path.climbs mark = false ∨ after.hasDirectory artifact.path = false) :
    before.Preserves after := by
  cases h with
  | refused fault => exact Preserves.refl before
  | @fresh place free there =>
    have hnone := there.node?_eq_none free
    exact ((ExtendsBy.refl (fun _ => True) before).put there.ne_nil hnone trivial).preserves
  | @replaced place other old policy there copied =>
    have hnone := copied.node?_eq_none (hasPath_backupTarget mark before artifact.path)
    have hplace := node?_of_lookup_file there
    have hne : other ≠ place := by
      rintro rfl
      rw [hnone] at hplace
      cases hplace
    have hdest := destination_put_backup there copied
    refine ⟨(copied.grows old).trans (hdest.grows _), fun {third content} hthird => ?_⟩
    -- What was in the way is in the backup now; everything else is where it was.
    by_cases hsame : third = place
    · rw [hsame, hplace] at hthird
      cases hthird
      refine ⟨other, ?_⟩
      rw [node?_put hdest.ne_nil, if_neg hne, node?_put_self copied.ne_nil]
    · have hother : third ≠ other := by
        rintro rfl
        rw [hnone] at hthird
        cases hthird
      refine ⟨third, ?_⟩
      rw [node?_put hdest.ne_nil, if_neg hsame, node?_put copied.ne_nil, if_neg hother, hthird]
  | halted fault policy there =>
    rcases hsafe with hclimbs | hsafe
    · exact (extendsBy_copyTree hwell there hclimbs
        (hasPath_backupTarget mark before artifact.path)).preserves
    · have hstill := Grows.hasDirectory (evolves_copyTree artifact.path
        (backupTarget mark before artifact.path) before (Or.inl trivial)).grows there
      rw [hsafe] at hstill
      cases hstill

end Disk

end DocStubs
