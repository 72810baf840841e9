import DocStubs.Proofs.Writing.Walk

/-!
# Copying while walking

A directory is copied while it is walked, so the tree that is walked changes, and the walk could
come to its own copy. It does not where the copy is made under a free name that no link leads
through: paths of the walk lead where they led, and the one directory that has a new name in it is
listed again only by walks that end at a link before they come to that name.

So what a copy does is said about the tree as it was at the beginning. While it goes on, what is
below the place of the copy is always a part of what has to be there (`Copying`), and it stops
either when all of that is there or at a link that ends the walk (`Ends`).

## Main definitions

* `Disk.Copies` — a directory can be copied to a free name
* `Disk.Copying` — a copy is being made
* `Disk.Ends` — how the copy of what is at some names ends

## Main results

* `Disk.Copies.lookup_iff` — the paths of a walk lead where they led
* `Disk.Copies.exists_namesIn_eq` — what is listed while a copy is made
* `Disk.Copies.copiesName_copyEntry` — one entry is copied with all that is below it
* `Disk.Copies.ends_copyTree` — a whole copy is complete, or a link has ended the walk
-/

namespace DocStubs

namespace Disk

open FileTree

variable {before now after : FileTree} {source target : String} {directory place top : Place}
  {name : String} {names : List String} {outer : List Place} {node : Node}

/-! ### Making one more directory -/

/-- A directory is made under a free name in a directory that is there; one that is there already
is accepted. -/
theorem exec_makeDirectories {path last : String} {known : List String} {left : Nat}
    (hnames : Path.names path = known ++ [last]) (hlast : Path.IsName last)
    (henters : Enters now linkLimit (now.origin path) known place left) (hfits : Fits path)
    (h : now.node? (place ++ [last]) = none ∨ now.node? (place ++ [last]) = some .directory) :
    (makeDirectories path).exec now =
      (.ok (), if now.node? (place ++ [last]) = none then now.put (place ++ [last]) .directory
        else now) := by
  have hordinary (purpose : Purpose) : purpose ≠ .write →
      Ordinary purpose (Path.endsInSlash path) last [] := fun hpurpose =>
    ⟨hlast.ne_dot, hlast.ne_dots, by simp [hpurpose], hfits.names _ (by simp [hnames])⟩
  have hlookup {purpose : Purpose} {found : Found}
      (h : Leads now purpose left (Path.endsInSlash path) place [last] found) :
      now.lookup purpose path = .ok found := by
    refine lookup_eq_ok_iff.mpr ⟨hfits.usable, ?_⟩
    rw [hnames, leads_append_iff (by simp)]
    exact ⟨place, left, henters, h⟩
  have hempty : ¬path.isEmpty = true := by simpa using hfits.usable.ne_empty
  rw [makeDirectories, makeDirectoriesFrom, if_neg hempty]
  rcases h with hnone | hthere
  · rw [if_pos hnone]
    have hmake := hlookup (.missing (hordinary .make (by simp)) hnone)
    have htry : (tryDirectory path).exec now =
        (.ok false, now.put (place ++ [last]) .directory) := by
      rw [tryDirectory, exec_tryCatch, exec_bind, makeDirectory, exec_bind, exec_ask?, hmake]
      rfl
    rw [exec_bind_of_ok _ htry]
    rfl
  · rw [if_neg (by simp [hthere])]
    have hmake := hlookup (.directory (hordinary .make (by simp)) hthere .done)
    have hreach := hlookup (.directory (hordinary .reach (by simp)) hthere .done)
    have htry : (tryDirectory path).exec now = (.ok false, now) := by
      rw [tryDirectory, exec_tryCatch, exec_bind, makeDirectory, exec_bind, exec_ask?, hmake]
      dsimp only [exec_throw]
      rw [if_neg (by simp), exec_bind_of_ok _ (exec_ask _ _),
        if_pos (hasDirectory_iff.mpr ⟨_, hreach⟩)]
      rfl
    rw [exec_bind_of_ok _ htry]
    rfl

/-- An entry that is seen as a directory is copied by making a directory and then copying the names
that were taken down before. -/
theorem exec_copyEntry_directory {depth : Nat} {ancestors : List Ancestor} {path : String}
    {entry : Entry} (hentry : now.entryAt ancestors "" path node = .ok entry)
    (hnode : entry.node = .directory)
    (hlookup : now.lookup .reach path = .ok (.node place .directory)) :
    (copyEntry target (depth + 1) ancestors names path node).exec now =
      (do
        onFault .inl (makeDirectories (copyTarget target names))
        ((now.namesIn place).map fun part =>
          (part, (now.node? (place ++ [part])).getD .special)).forM fun (part, node) =>
            copyEntry target depth ({ place, path } :: ancestors) (names ++ [part])
              (Path.join path part) node : Disk (FileFault ⊕ WalkFault) Unit).exec now := by
  rw [copyEntry, exec_bind, exec_onFault, exec_ask?, hentry]
  dsimp only [Except.mapError]
  rw [hnode]
  dsimp only
  rw [exec_bind, exec_onFault, exec_ask?, reached_eq_ok_iff.mpr hlookup]
  dsimp only [orFault, Except.mapError]
  rw [exec_bind_of_ok _ (exec_ask _ now), exec_bind_of_ok _ (exec_ask _ now)]

/-- The copy of a directory starts at the directory itself, also if its path is that of a link. -/
theorem exec_copyTree (hstart : before.lookup .reach source = .ok (.node place .directory)) :
    ∃ seen, before.entryAt [] "" source seen = .ok ⟨"", source, .directory⟩ ∧
      (copyTree source target).exec before =
        (copyEntry target pathLimit [] [] source seen).exec before := by
  obtain ⟨husable, hleads⟩ := lookup_eq_ok_iff.mp hstart
  obtain ⟨other, seen, hinspect, hseen⟩ := hleads.inspect_of_reach
  refine ⟨seen, ?_, ?_⟩
  · rw [entryAt]
    rcases hseen with hlink | rfl
    · rw [if_pos hlink, through_eq_ok_iff.mpr ⟨place, hstart, fun _ => List.not_mem_nil⟩]
      rfl
    · rfl
  · rw [copyTree, exec_bind, exec_onFault, exec_ask?,
      reached_eq_ok_iff.mpr (lookup_eq_ok_iff.mpr ⟨husable, hinspect⟩)]
    rfl

/-! ### A copy that is being made -/

/-- A directory can be copied to a free name. No link leads through that name, and a walk that comes
to the directory with that name in it once more ends at a link before it comes to the name. -/
structure Copies (before : FileTree) (source target : String) (directory : Place) (name : String) :
    Prop where
  wellFormed : before.WellFormed
  hasDirectory : before.hasDirectory source = true
  no_slash : Path.endsInSlash source = false
  limits : WithinLimits before source
  targetLimits : ∀ names, Met before source names → Fits (copyTarget target names)
  isName : Path.IsName name
  free : before.node? (directory ++ [name]) = none
  enters : ∃ parents left, Path.names target = parents ++ [name] ∧
    Enters before linkLimit (before.origin target) parents directory left
  avoids : LinksAvoid before directory name
  ends : ∀ names outer, Walks before source names directory outer → names ≠ [] →
    ∃ last more, last < name ∧ Blocks before source (names ++ last :: more)

/-- A copy is being made: what is not at its place or below is as it was, and below its place there
is a part of what has to be there. -/
structure Copying (before : FileTree) (source : String) (top : Place) (now : FileTree) : Prop where
  wellFormed : now.WellFormed
  workingPlace : now.workingPlace = before.workingPlace
  outside : ∀ place, ¬top <+: place → now.node? place = before.node? place
  below : ∀ names, now.node? (top ++ names) = none ∨
    now.node? (top ++ names) = before.copied source names

theorem Copying.extendsBy (h : Copying before source top now) (hwell : before.WellFormed)
    (htop : before.node? top = none) :
    before.ExtendsBy (fun node => node.isLink = false) now := by
  refine ⟨h.workingPlace, fun {place node} hnode => ?_, fun {place node} hnode => ?_⟩
  · rw [h.outside place, hnode]
    rintro ⟨names, rfl⟩
    rw [hwell.node?_append_eq_none htop] at hnode
    cases hnode
  · by_cases hbelow : top <+: place
    · obtain ⟨names, rfl⟩ := hbelow
      refine Or.inr ⟨hwell.node?_append_eq_none htop names, ?_⟩
      rcases h.below names with hnone | hcopied
      · rw [hnone] at hnode
        cases hnode
      · rw [hcopied, copied, Option.filter_eq_some_iff] at hnode
        cases node with
        | link target => cases hnode.2
        | file _ | directory | special => rfl
    · rw [h.outside place hbelow] at hnode
      exact Or.inl hnode

/-- One more thing that has to be there is put there. -/
theorem Copying.put {last : String} (h : Copying before source top now)
    (hplace : top ++ names = place ++ [last]) (hlast : Path.IsName last)
    (hdirectory : now.node? place = some .directory)
    (hfree : now.node? (top ++ names) ≠ some .directory)
    (hnode : before.copied source names = some node) :
    Copying before source top (now.put (top ++ names) node) := by
  have hne : top ++ names ≠ [] := by simp [hplace]
  refine ⟨?_, h.workingPlace, fun other hother => ?_, fun other => ?_⟩
  · rw [hplace] at hfree ⊢
    exact h.wellFormed.put hlast hdirectory hfree
  · have hother' : other ≠ top ++ names := by
      rintro rfl
      exact hother (List.prefix_append _ _)
    rw [node?_put hne, if_neg hother', h.outside other hother]
  · rw [node?_put hne]
    split
    · rename_i heq
      rw [List.append_cancel_left heq]
      exact Or.inr hnode.symm
    · exact h.below other

/-- Nothing is there that does not have to be. -/
theorem Copying.node?_eq_none (h : Copying before source top now)
    (hcopied : before.copied source names = none) : now.node? (top ++ names) = none := by
  have hbelow := h.below names
  rwa [hcopied, or_self] at hbelow

/-- What is there already stays there while a copy goes on. -/
theorem Copying.node?_eq (h : Copying before source top after)
    (hgrows : now.Grows after)
    (hnode : now.node? (top ++ names) = before.copied source names) :
    after.node? (top ++ names) = before.copied source names := by
  rcases h.below names with hnone | hcopied
  · cases hold : now.node? (top ++ names) with
    | none => rw [hnone, ← hnode, hold]
    | some node =>
      obtain ⟨other, hother, -⟩ := hgrows.node? hold
      rw [hnone] at hother
      cases hother
  · exact hcopied

theorem fits_of_copyTarget (hne : target ≠ "") (h : Fits (copyTarget target [])) :
    Fits target := by
  have hnames := names_copyTarget target (List.forall_mem_nil Path.IsName)
  rw [List.append_nil] at hnames
  refine ⟨?_, hnames ▸ h.names⟩
  obtain ⟨ending, hending⟩ := exists_join_empty target
  have husable := h.usable
  rw [copyTarget, String.intercalate_nil, hending] at husable
  exact usable_of_append husable hne

namespace Copies

variable (h : Copies before source target directory name)
include h

theorem source_ne : source ≠ "" := by
  obtain ⟨place, hlookup⟩ := hasDirectory_iff.mp h.hasDirectory
  exact (lookup_eq_ok_iff.mp hlookup).1.ne_empty

theorem target_ne : target ≠ "" := by
  obtain ⟨parents, left, hnames, -⟩ := h.enters
  rintro rfl
  simp at hnames

variable (hnow : Copying before source (directory ++ [name]) now)
include hnow

theorem extendsBy : before.ExtendsBy (fun node => node.isLink = false) now :=
  hnow.extendsBy h.wellFormed h.free

/-- The paths of a walk lead where they led. -/
theorem lookup_iff (hmet : Met before source names) :
    now.lookup .reach (Path.descend source names) = .ok (.node place node) ↔
      before.lookup .reach (Path.descend source names) = .ok (.node place node) := by
  refine ⟨fun hlookup => ?_, (h.extendsBy hnow).lookup⟩
  have hnames := hmet.isName h.wellFormed
  rw [lookup_descend_iff h.no_slash hnames] at hlookup ⊢
  obtain ⟨husable, hleads⟩ := hlookup
  rw [(h.extendsBy hnow).grows.origin_eq] at hleads
  refine ⟨husable, hleads.of_later hnow.outside h.avoids (Nat.le_refl _) ?_ ?_⟩
  · rintro ⟨rest, hrest⟩
    have horigin := h.wellFormed.origin source
    rw [← hrest, h.wellFormed.node?_append_eq_none h.free] at horigin
    cases horigin
  · exact fun known rest left heq => hmet.not_enters h.wellFormed h.limits h.no_slash
      h.hasDirectory h.isName h.free heq

/-- The path of a directory of the copy leads there. -/
theorem enters_copy (hmet : Met before source names)
    (hdirectory : now.node? (directory ++ [name] ++ names) = some .directory) :
    ∃ left, Enters now linkLimit (now.origin target) (Path.names target ++ names)
      (directory ++ [name] ++ names) left := by
  obtain ⟨parents, left, htarget, henters⟩ := h.enters
  have hnames := hmet.isName h.wellFormed
  have hshort : ∀ part ∈ name :: names, part.utf8ByteSize ≤ nameLimit := by
    intro part hpart
    refine (h.targetLimits names hmet).names part ?_
    rw [names_copyTarget target hnames, htarget, List.append_assoc]
    exact List.mem_append_right _ hpart
  rw [List.append_assoc, List.singleton_append] at hdirectory ⊢
  rw [htarget, List.append_assoc, List.singleton_append, (h.extendsBy hnow).grows.origin_eq]
  exact ⟨left, (henters.grows (h.extendsBy hnow).grows).append_names hnow.wellFormed
    (List.forall_mem_cons.mpr ⟨h.isName, hnames⟩) hshort hdirectory⟩

/-- The path of an entry of the copy leads to its name in a directory of the copy. -/
theorem enters_copyTarget {last : String} (hmet : Met before source (names ++ [last]))
    (hparent : now.node? (directory ++ [name] ++ names) = some .directory) :
    Path.names (copyTarget target (names ++ [last])) = Path.names target ++ names ++ [last] ∧
      ∃ left, Enters now linkLimit (now.origin (copyTarget target (names ++ [last])))
        (Path.names target ++ names) (directory ++ [name] ++ names) left := by
  have hnames := hmet.isName h.wellFormed
  obtain ⟨_, _, _, haround, -⟩ := hmet.of_append
  rw [names_copyTarget target hnames, origin_copyTarget now target hnames, List.append_assoc]
  exact ⟨rfl, h.enters_copy hnow haround.met hparent⟩

/-- The directory that a walk comes to is made in the copy, if it is not there yet. -/
theorem exec_makeDirectories_copyTarget {last : String}
    (hwalks : Walks before source (names ++ [last]) place outer)
    (hparent : now.node? (directory ++ [name] ++ names) = some .directory) :
    ∃ after, (makeDirectories (copyTarget target (names ++ [last]))).exec now = (.ok (), after) ∧
      Copying before source (directory ++ [name]) after ∧
      after.node? (directory ++ [name] ++ (names ++ [last])) = some .directory := by
  have hmet := hwalks.met
  have hlast : Path.IsName last := hmet.isName h.wellFormed last (by simp)
  have hcopied : before.copied source (names ++ [last]) = some .directory :=
    copied_of_lookup (hwalks.lookup h.wellFormed h.limits h.no_slash)
  obtain ⟨hpath, left, henters⟩ := h.enters_copyTarget hnow hmet hparent
  have hplace := List.append_assoc (directory ++ [name]) names [last]
  have hbelow := hnow.below (names ++ [last])
  rw [hcopied, ← hplace] at hbelow
  refine ⟨_, exec_makeDirectories hpath hlast henters (h.targetLimits _ hmet) hbelow, ?_⟩
  rw [hplace] at hbelow ⊢
  rcases hbelow with hnone | hthere
  · rw [if_pos hnone]
    refine ⟨hnow.put hplace.symm hlast hparent ?_ hcopied, node?_put_self (by simp)⟩
    rw [hnone]
    exact nofun
  · rw [hthere, if_neg nofun]
    exact ⟨hnow, hthere⟩

/-- A file that a walk meets is copied. -/
theorem exec_copy_copyTarget {last : String} {content : ByteArray}
    (hmet : Met before source (names ++ [last]))
    (hlookup : before.lookup .reach (Path.descend source (names ++ [last])) =
      .ok (.node place (.file content)))
    (hparent : now.node? (directory ++ [name] ++ names) = some .directory) :
    ∃ after, (copy (Path.descend source (names ++ [last])) (copyTarget target
        (names ++ [last]))).exec now = (.ok (), after) ∧
      Copying before source (directory ++ [name]) after ∧
      after.node? (directory ++ [name] ++ (names ++ [last])) = some (.file content) := by
  have hnames := hmet.isName h.wellFormed
  have hlast : Path.IsName last := hnames last (by simp)
  have hcopied : before.copied source (names ++ [last]) = some (.file content) :=
    copied_of_lookup hlookup
  obtain ⟨hpath, left, henters⟩ := h.enters_copyTarget hnow hmet hparent
  have hplace := List.append_assoc (directory ++ [name]) names [last]
  have hbelow := hnow.below (names ++ [last])
  rw [hcopied, ← hplace] at hbelow
  have hslash : Path.endsInSlash (copyTarget target (names ++ [last])) = false := by
    obtain ⟨hne, hslash⟩ := Path.endsInSlash_intercalate (by simp) hnames
    rw [copyTarget, Path.endsInSlash_join _ hne, hslash]
  have hdest := destination_of_enters hpath hslash hlast.ne_dot hlast.ne_dots henters
    (h.targetLimits _ hmet) (hbelow.imp_right fun hthere => ⟨content, hthere⟩)
  have hnow' := (h.lookup_iff hnow hmet).mpr hlookup
  -- What is copied was there before, and below the copy nothing was.
  have hother : place ≠ directory ++ [name] ++ names ++ [last] := by
    rintro rfl
    have hnone := h.wellFormed.node?_append_eq_none h.free (names ++ [last])
    rw [← hplace, node?_of_lookup_file hlookup] at hnone
    cases hnone
  rw [exec_copy_of_read (read_eq_ok_iff.mpr ⟨place, hnow'⟩)
    (hdest.sameFile_eq_false hnow.wellFormed hnow' hother)]
  refine ⟨_, exec_write hdest content, ?_⟩
  rw [hplace] at hbelow ⊢
  refine ⟨hnow.put hplace.symm hlast hparent ?_ hcopied, node?_put_self (by simp)⟩
  rcases hbelow with hnone | hthere
  · rw [hnone]
    simp
  · rw [hthere]
    simp

end Copies

/-! ### How a copy ends -/

/-- How the copy of what is at some names ends, and with which tree. -/
inductive Ends (before : FileTree) (source : String) (top : Place) (names : List String) :
    Except (FileFault ⊕ WalkFault) Unit → FileTree → Prop
  /-- Everything that has to be there is there, and no link has ended the walk. -/
  | complete {after : FileTree} (copying : Copying before source top after)
      (there : ∀ more, (∀ part ∈ more, Path.IsName part) →
        after.node? (top ++ (names ++ more)) = before.copied source (names ++ more))
      (goes : ∀ more, ¬Blocks before source (names ++ more)) :
      Ends before source top names (.ok ()) after
  /-- A link has ended the walk. -/
  | blocked {fault : WalkFault} {more : List String} {after : FileTree}
      (copying : Copying before source top after)
      (blocks : Blocks before source (names ++ more)) :
      Ends before source top names (.error (.inr fault)) after

/-- What is complete stays complete. -/
theorem Ends.mono (h : Ends before source top names (.ok ()) now) (hgrows : now.Grows after)
    (hafter : Copying before source top after) : Ends before source top names (.ok ()) after := by
  cases h with
  | complete copying there goes =>
    exact .complete hafter (fun more hmore => hafter.node?_eq hgrows (there more hmore)) goes

/-- An action copies what is at a name in a directory, however far a copy has got before. -/
def CopiesName (before : FileTree) (source : String) (top : Place) (names : List String)
    (part : String) (action : Disk (FileFault ⊕ WalkFault) Unit) : Prop :=
  ∀ now answer after, Copying before source top now →
    now.node? (top ++ names) = some .directory → action.exec now = (answer, after) →
    Ends before source top (names ++ [part]) answer after

/-- Names are copied one after the other, up to the first that ends the walk. -/
theorem ends_forM {action : String × Node → Disk (FileFault ⊕ WalkFault) Unit}
    {items : List (String × Node)} {answer : Except (FileFault ⊕ WalkFault) Unit}
    (hevolves : ∀ item, (action item).Respects True Evolves)
    (haction : ∀ item ∈ items, CopiesName before source top names item.1 (action item))
    (hnow : Copying before source top now)
    (hdirectory : now.node? (top ++ names) = some .directory)
    (hexec : (items.forM action).exec now = (answer, after)) :
    Copying before source top after ∧
      (answer = .ok () ∧
          (∀ item ∈ items, Ends before source top (names ++ [item.1]) (.ok ()) after) ∨
        ∃ fault more, answer = .error (.inr fault) ∧ Blocks before source (names ++ more)) := by
  induction items generalizing now with
  | nil =>
    cases hexec
    exact ⟨hnow, Or.inl ⟨rfl, List.forall_mem_nil _⟩⟩
  | cons item rest ih =>
    obtain ⟨hitem, hrest⟩ := List.forall_mem_cons.mp haction
    rw [List.forM] at hexec
    cases hfirst : (action item).exec now with
    | mk first middle =>
      have hends := hitem now first middle hnow hdirectory hfirst
      have hgrows := ((hevolves item).of_exec hfirst).grows
      cases hends with
      | @blocked fault more _ copying blocks =>
        rw [exec_bind_of_error _ hfirst] at hexec
        cases hexec
        exact ⟨copying, Or.inr ⟨fault, item.1 :: more, rfl, by simpa using blocks⟩⟩
      | complete copying there goes =>
        rw [exec_bind_of_ok _ hfirst] at hexec
        obtain ⟨hafter, hanswer⟩ := ih hrest copying (hgrows.directory hdirectory) hexec
        refine ⟨hafter, hanswer.imp_left fun ⟨hok, hall⟩ => ⟨hok, ?_⟩⟩
        have hgrows' : middle.Grows after :=
          (Respects.of_exec (Respects.forM fun item _ => hevolves item) hexec).grows
        exact List.forall_mem_cons.mpr
          ⟨(Ends.complete copying there goes).mono hgrows' hafter, hall⟩

namespace Copies

variable (h : Copies before source target directory name)
include h

/-- What is no directory is copied by itself. -/
theorem ends_of_not_directory (hmet : Met before source names)
    (hlookup : before.lookup .reach (Path.descend source names) = .ok (.node place node))
    (hnode : node ≠ .directory) (hafter : Copying before source (directory ++ [name]) after)
    (hthere : after.node? (directory ++ [name] ++ names) = before.copied source names) :
    Ends before source (directory ++ [name]) names (.ok ()) after := by
  refine .complete hafter (fun more hmore => ?_) (fun more hblocks => ?_)
  · cases more with
    | nil => rwa [List.append_nil]
    | cons part more =>
      have hnames : ∀ other ∈ names ++ part :: more, Path.IsName other :=
        List.forall_mem_append.mpr ⟨hmet.isName h.wellFormed, hmore⟩
      have hcopied : before.copied source (names ++ part :: more) = none := by
        refine copied_append_eq_none h.source_ne h.no_slash hnames fun other hother => ?_
        rw [hlookup] at hother
        cases hother
        exact absurd rfl hnode
      rw [hafter.node?_eq_none hcopied, hcopied]
  · cases more with
    | nil =>
      rw [List.append_nil] at hblocks
      cases hblocks with
      | dangling around there leads =>
        rw [hasPath_iff.mpr ⟨_, _, hlookup⟩] at leads
        cases leads
      | loop around there leads walked =>
        rw [hlookup] at leads
        cases leads
        exact hnode rfl
    | cons part more =>
      obtain ⟨_, _, _, haround, -⟩ := hblocks.met.of_append
      rw [haround.lookup h.wellFormed h.limits h.no_slash] at hlookup
      cases hlookup
      exact hnode rfl

/-- A directory is copied if all that is in it is. -/
theorem ends_of_walks (hwalks : Walks before source names place outer)
    (hafter : Copying before source (directory ++ [name]) after)
    (hdirectory : after.node? (directory ++ [name] ++ names) = some .directory)
    (hall : ∀ part, (before.node? (place ++ [part])).isSome = true →
      Ends before source (directory ++ [name]) (names ++ [part]) (.ok ()) after) :
    Ends before source (directory ++ [name]) names (.ok ()) after := by
  have hlookup := hwalks.lookup h.wellFormed h.limits h.no_slash
  refine .complete hafter (fun more hmore => ?_) (fun more hblocks => ?_)
  · cases more with
    | nil =>
      rw [List.append_nil, hdirectory, copied_of_lookup hlookup]
      rfl
    | cons part more =>
      cases hnode : before.node? (place ++ [part]) with
      | some node =>
        cases hall part (by rw [hnode]; rfl) with
        | complete copying there goes =>
          have hthere := there more (List.forall_mem_cons.mp hmore).2
          rwa [List.append_assoc names, List.singleton_append] at hthere
      | none =>
        have hnames : ∀ other ∈ names ++ part :: more, Path.IsName other :=
          List.forall_mem_append.mpr ⟨hwalks.isName h.wellFormed, hmore⟩
        have hcopied : before.copied source (names ++ part :: more) = none := by
          refine copied_append_eq_none h.source_ne h.no_slash hnames fun other hother => ?_
          rw [hlookup] at hother
          cases hother
          exact hnode
        rw [hafter.node?_eq_none hcopied, hcopied]
  · cases more with
    | nil =>
      rw [List.append_nil] at hblocks
      exact hwalks.not_blocks hblocks
    | cons part more =>
      obtain ⟨place', outer', node, haround, hnode⟩ := hblocks.met.of_append
      obtain ⟨rfl, -⟩ := hwalks.unique haround
      cases hall part (by rw [hnode]; rfl) with
      | complete copying there goes => exact goes more (by simpa using hblocks)

/-! ### What is in a directory -/

variable (hnow : Copying before source (directory ++ [name]) now)
include hnow

/-- A new name is seen in one directory only. -/
theorem isSome_node?_of_later {part : String} (hwalks : Walks before source names place outer)
    (hpart : (now.node? (place ++ [part])).isSome = true) (hne : place = directory → part ≠ name) :
    (before.node? (place ++ [part])).isSome = true := by
  rw [← hnow.outside _ fun hbelow => ?_]
  · exact hpart
  rcases List.prefix_concat_iff.mp hbelow with heq | ⟨rest, rfl⟩
  · obtain ⟨rfl, rfl⟩ := List.append_singleton_inj.mp heq
    exact hne rfl rfl
  · have hplace := hwalks.node? h.wellFormed
    rw [h.wellFormed.node?_append_eq_none h.free] at hplace
    cases hplace

/-- The names in a directory that a walk comes to are those that were there; after them there may be
others only if the walk has ended by then. -/
theorem exists_namesIn_eq (hwalks : Walks before source names place outer) (hne : names ≠ []) :
    ∃ first rest, now.namesIn place = first ++ rest ∧
      (∀ part ∈ first, (before.node? (place ++ [part])).isSome = true) ∧
      (rest ≠ [] → ∃ part ∈ first, ∃ more, Blocks before source (names ++ part :: more)) := by
  by_cases hplace : place = directory
  · subst hplace
    obtain ⟨last, more, hlt, hblocks⟩ := h.ends names outer hwalks hne
    obtain ⟨place', outer', node, haround, hnode⟩ := hblocks.met.of_append
    obtain ⟨rfl, -⟩ := hwalks.unique haround
    have hlast : last ∈ now.namesIn place := by
      rw [mem_namesIn_iff, (h.extendsBy hnow).kept hnode]
      rfl
    obtain ⟨first, rest, hsplit⟩ := List.append_of_mem hlast
    refine ⟨first ++ [last], rest, by simp [hsplit], fun part hpart => ?_,
      fun _ => ⟨last, by simp, more, hblocks⟩⟩
    have hle : part ≤ last := by
      rcases List.mem_append.mp hpart with hpart | hpart
      · have hsorted := pairwise_namesIn now place
        rw [hsplit, List.pairwise_append] at hsorted
        exact hsorted.2.2 part hpart last List.mem_cons_self
      · obtain rfl := List.mem_singleton.mp hpart
        exact String.le_refl _
    refine h.isSome_node?_of_later hnow hwalks (mem_namesIn_iff.mp ?_) fun _ => ?_
    · rw [hsplit]
      rcases List.mem_append.mp hpart with hpart | hpart
      · exact List.mem_append_left _ hpart
      · rw [List.mem_singleton.mp hpart]
        simp
    · rintro rfl
      exact absurd hlt (String.not_lt.mpr hle)
  · refine ⟨now.namesIn place, [], (List.append_nil _).symm, fun part hpart => ?_,
      fun hrest => absurd rfl hrest⟩
    exact h.isSome_node?_of_later hnow hwalks (mem_namesIn_iff.mp hpart) fun heq =>
      absurd heq hplace

omit hnow

/-- A directory is copied by copying the names in it that were taken down before: first those that
were there at the beginning, and after them others only if the walk has ended by then. -/
theorem ends_copyInside {asked : FileTree} {depth : Nat} {ancestors : List Ancestor}
    {first rest : List String} {answer : Except (FileFault ⊕ WalkFault) Unit}
    (hwalks : Walks before source names place outer)
    (hentry : ∀ part node, before.node? (place ++ [part]) = some node →
      CopiesName before source (directory ++ [name]) names part
        (copyEntry target depth ancestors (names ++ [part])
          (Path.descend source (names ++ [part])) node))
    (hasked : before.ExtendsBy (fun node => node.isLink = false) asked)
    (hlist : asked.namesIn place = first ++ rest)
    (hfirst : ∀ part ∈ first, (before.node? (place ++ [part])).isSome = true)
    (hrest : rest ≠ [] → ∃ part ∈ first, ∃ more, Blocks before source (names ++ part :: more))
    (hnow : Copying before source (directory ++ [name]) now)
    (hdirectory : now.node? (directory ++ [name] ++ names) = some .directory)
    (hexec : (((asked.namesIn place).map fun part =>
        (part, (asked.node? (place ++ [part])).getD .special)).forM fun (part, node) =>
          copyEntry target depth ancestors (names ++ [part])
            (Path.join (Path.descend source names) part) node).exec now = (answer, after)) :
    Ends before source (directory ++ [name]) names answer after := by
  rw [hlist, List.map_append, List.forM_eq_forM, List.forM_append, ← List.forM_eq_forM] at hexec
  generalize haction : (fun item : String × Node => copyEntry target depth ancestors
    (names ++ [item.1]) (Path.join (Path.descend source names) item.1) item.2) = action at hexec
  have hevolves : ∀ item, (action item).Respects True Evolves := by
    subst haction
    exact fun item => evolves_copyEntry target depth ancestors _ _ _
  have hcopies : ∀ item ∈ first.map fun part =>
      (part, (asked.node? (place ++ [part])).getD .special),
      CopiesName before source (directory ++ [name]) names item.1 (action item) := by
    subst haction
    intro item hitem
    obtain ⟨part, hpart, rfl⟩ := List.mem_map.mp hitem
    obtain ⟨node, hnode⟩ := Option.isSome_iff_exists.mp (hfirst part hpart)
    have hcopy := hentry part node hnode
    rw [Path.descend_append] at hcopy
    rw [hasked.kept hnode]
    exact hcopy
  cases hlisted : ((first.map fun part =>
      (part, (asked.node? (place ++ [part])).getD .special)).forM action).exec now with
  | mk outcome middle =>
    obtain ⟨hmiddle, ⟨rfl, hall⟩ | ⟨fault, more, rfl, hblocks⟩⟩ :=
      ends_forM hevolves hcopies hnow hdirectory hlisted
    · have hgrows : now.Grows middle :=
        (Respects.of_exec (Respects.forM fun item _ => hevolves item) hlisted).grows
      have hparts (part : String) (hpart : part ∈ first) :
          Ends before source (directory ++ [name]) (names ++ [part]) (.ok ()) middle :=
        hall _ (List.mem_map.mpr ⟨part, hpart, rfl⟩)
      cases rest with
      | nil =>
        rw [exec_bind_of_ok _ hlisted] at hexec
        cases hexec
        refine h.ends_of_walks hwalks hmiddle (hgrows.directory hdirectory) fun part hpart => ?_
        obtain ⟨node, hnode⟩ := Option.isSome_iff_exists.mp hpart
        have hmem : part ∈ asked.namesIn place := by
          rw [mem_namesIn_iff, hasked.kept hnode]
          rfl
        rw [hlist, List.append_nil] at hmem
        exact hparts part hmem
      | cons =>
        -- The walk has ended at a name that was there, so all those names were not copied.
        obtain ⟨part, hpart, more, hblocks⟩ := hrest (List.cons_ne_nil _ _)
        cases hparts part hpart with
        | complete copying there goes => exact absurd (by simpa using hblocks) (goes more)
    · rw [exec_bind_of_error _ hlisted] at hexec
      cases hexec
      exact .blocked hmiddle hblocks

/-! ### Entries at every depth -/

/-- An entry is seen as it was at the beginning, or its link ends the walk. -/
theorem entryAt_cases {last : String} {ancestors : List Ancestor}
    (hwalks : Walks before source names place outer)
    (there : before.node? (place ++ [last]) = some node)
    (hancestors : ancestors.map (·.place) = place :: outer)
    (hnow : Copying before source (directory ++ [name]) now) :
    (∃ fault, now.entryAt ancestors "" (Path.descend source (names ++ [last])) node =
        .error fault ∧ Blocks before source (names ++ [last])) ∨
      ∃ entry other,
        now.entryAt ancestors "" (Path.descend source (names ++ [last])) node = .ok entry ∧
        before.lookup .reach (Path.descend source (names ++ [last])) =
          .ok (.node other entry.node) ∧
        (entry.node = .directory →
          Walks before source (names ++ [last]) other (place :: outer)) := by
  have hmet : Met before source (names ++ [last]) := .entry hwalks there
  rw [entryAt]
  cases node with
  | directory =>
    have hinside := hwalks.inside there
    exact Or.inr ⟨_, _, rfl, hinside.lookup h.wellFormed h.limits h.no_slash, fun _ => hinside⟩
  | file content =>
    exact Or.inr ⟨_, _, rfl, hwalks.lookup_leaf h.wellFormed h.limits h.no_slash there rfl rfl,
      nofun⟩
  | special =>
    exact Or.inr ⟨_, _, rfl, hwalks.lookup_leaf h.wellFormed h.limits h.no_slash there rfl rfl,
      nofun⟩
  | link target =>
    rw [if_pos (show (Node.link target).isLink = true from rfl)]
    cases hthrough : now.through ancestors (Path.descend source (names ++ [last])) with
    | ok seen =>
      obtain ⟨other, hlater, hnew⟩ := through_eq_ok_iff.mp hthrough
      have hlookup := (h.lookup_iff hnow hmet).mp hlater
      refine Or.inr ⟨_, other, rfl, hlookup, fun hdirectory => ?_⟩
      cases hdirectory
      exact hwalks.through there hlookup (hancestors ▸ hnew rfl)
    | error fault =>
      refine Or.inl ⟨fault, rfl, ?_⟩
      cases hpath : before.hasPath (Path.descend source (names ++ [last])) with
      | false => exact .dangling hwalks there hpath
      | true =>
        obtain ⟨other, seen, hlookup⟩ := hasPath_iff.mp hpath
        -- The link leads somewhere, so nothing but a directory being walked stops the walk.
        have hloop : ¬(seen = .directory → other ∉ ancestors.map (·.place)) := by
          intro hnew
          rw [through_eq_ok_iff.mpr ⟨other, (h.lookup_iff hnow hmet).mpr hlookup, hnew⟩] at hthrough
          cases hthrough
        rw [Classical.not_imp, not_not, hancestors] at hloop
        obtain ⟨rfl, hmem⟩ := hloop
        exact .loop hwalks there hlookup hmem

/-- The names of a walk are no more than its paths are long. -/
theorem depth_pos {depth : Nat} (hmet : Met before source names)
    (hdepth : pathLimit ≤ depth + names.length) : depth ≠ 0 := by
  have hshort := (h.limits names hmet).usable.short
  have hlength := Path.length_le_size_descend source (hmet.isName h.wellFormed)
  omega

/-- An entry is copied with all that is below it, or a link there has ended the walk. -/
theorem copiesName_copyEntry {depth : Nat} {last : String} {ancestors : List Ancestor}
    (hwalks : Walks before source names place outer)
    (there : before.node? (place ++ [last]) = some node)
    (hancestors : ancestors.map (·.place) = place :: outer)
    (hdepth : pathLimit ≤ depth + (names ++ [last]).length) :
    CopiesName before source (directory ++ [name]) names last
      (copyEntry target depth ancestors (names ++ [last])
        (Path.descend source (names ++ [last])) node) := by
  intro now answer after hnow hparent hexec
  induction depth generalizing names place outer last ancestors node now answer after with
  | zero => exact absurd rfl (h.depth_pos (.entry hwalks there) hdepth)
  | succ depth ih =>
    have hmet : Met before source (names ++ [last]) := .entry hwalks there
    rcases h.entryAt_cases hwalks there hancestors hnow with
      ⟨fault, hentry, hblocks⟩ | ⟨entry, other, hentry, hlookup, hinside⟩
    · rw [copyEntry, exec_bind, exec_onFault, exec_ask?, hentry] at hexec
      cases hexec
      exact .blocked hnow (by rwa [List.append_nil])
    · cases hnode : entry.node with
      | directory =>
        rw [hnode] at hlookup
        have hwalks' := hinside hnode
        obtain ⟨made, hmade, hcopying, hdirectory⟩ :=
          h.exec_makeDirectories_copyTarget hnow hwalks' hparent
        obtain ⟨first, rest, hlist, hfirst, hrest⟩ :=
          h.exists_namesIn_eq hnow hwalks' (by simp)
        rw [exec_copyEntry_directory hentry hnode ((h.lookup_iff hnow hmet).mpr hlookup), exec_bind,
          exec_onFault, hmade] at hexec
        refine h.ends_copyInside hwalks' (fun part node hpart => ?_) (h.extendsBy hnow) hlist hfirst
          hrest hcopying hdirectory hexec
        refine ih hwalks' hpart ?_ ?_
        · rw [List.map_cons, hancestors]
        · rw [List.length_append, List.length_singleton]
          omega
      | file content =>
        rw [hnode] at hlookup
        rw [copyEntry, exec_bind, exec_onFault, exec_ask?, hentry] at hexec
        dsimp only [Except.mapError] at hexec
        rw [hnode] at hexec
        obtain ⟨copied, hcopied, hcopying, hfile⟩ :=
          h.exec_copy_copyTarget hnow hmet hlookup hparent
        dsimp only at hexec
        rw [exec_onFault, hcopied] at hexec
        cases hexec
        refine h.ends_of_not_directory hmet hlookup (by simp) hcopying ?_
        rw [hfile, copied_of_lookup hlookup]
        rfl
      | link _ | special =>
        rw [hnode] at hlookup
        rw [copyEntry, exec_bind, exec_onFault, exec_ask?, hentry] at hexec
        dsimp only [Except.mapError] at hexec
        rw [hnode] at hexec
        cases hexec
        have hnone : before.copied source (names ++ [last]) = none := copied_of_lookup hlookup
        refine h.ends_of_not_directory hmet hlookup (by simp) hnow ?_
        rw [hnow.node?_eq_none hnone, hnone]

/-! ### The whole copy -/

theorem copied_nil : before.copied source [] = some .directory := by
  obtain ⟨place, hlookup⟩ := hasDirectory_iff.mp h.hasDirectory
  have hdescend : before.lookup .reach (Path.descend source []) = .ok (.node place .directory) :=
    hlookup
  rw [copied_of_lookup hdescend]
  rfl

/-- The path of the copy leads to it once it is there. -/
theorem lookup_target (hnow : Copying before source (directory ++ [name]) now)
    (hthere : now.node? (directory ++ [name] ++ []) = before.copied source []) :
    now.lookup .reach target = .ok (.node (directory ++ [name]) .directory) := by
  rw [h.copied_nil] at hthere
  obtain ⟨left, henters⟩ := h.enters_copy hnow .start hthere
  rw [List.append_nil, List.append_nil] at henters
  have hfits := fits_of_copyTarget h.target_ne (h.targetLimits [] .start)
  exact lookup_eq_ok_iff.mpr ⟨hfits.usable, henters.leads _⟩

/-- At the beginning nothing is below the place of a copy. -/
theorem copying_self : Copying before source (directory ++ [name]) before :=
  ⟨h.wellFormed, rfl, fun _ _ => rfl, fun names =>
    Or.inl (h.wellFormed.node?_append_eq_none h.free names)⟩

/-- The directory for the copy is made. -/
theorem exec_makeDirectories_target :
    (makeDirectories (copyTarget target [])).exec before =
        (.ok (), before.put (directory ++ [name]) .directory) ∧
      Copying before source (directory ++ [name])
        (before.put (directory ++ [name]) .directory) := by
  obtain ⟨parents, left, htarget, henters⟩ := h.enters
  have hnil : ∀ part ∈ ([] : List String), Path.IsName part := List.forall_mem_nil _
  have hpath : Path.names (copyTarget target []) = parents ++ [name] := by
    rw [names_copyTarget target hnil, List.append_nil, htarget]
  have hholder : before.node? directory = some .directory :=
    h.wellFormed.node?_of_enters henters (htarget ▸ List.prefix_append _ _)
  rw [← origin_copyTarget before target hnil] at henters
  have hmake := exec_makeDirectories hpath h.isName henters (h.targetLimits [] .start)
    (Or.inl h.free)
  rw [if_pos h.free] at hmake
  have hfree : before.node? (directory ++ [name] ++ []) ≠ some .directory := by
    rw [List.append_nil, h.free]
    exact nofun
  have hput := h.copying_self.put (List.append_nil _) h.isName hholder hfree h.copied_nil
  rw [List.append_nil] at hput
  exact ⟨hmake, hput⟩

/-- The copy of a directory is complete, or a link below the directory has ended the walk. -/
theorem ends_copyTree {answer : Except (FileFault ⊕ WalkFault) Unit}
    (hexec : (copyTree source target).exec before = (answer, after)) :
    Ends before source (directory ++ [name]) [] answer after := by
  obtain ⟨place, hstart⟩ := hasDirectory_iff.mp h.hasDirectory
  obtain ⟨seen, hentry, hcopy⟩ := exec_copyTree hstart
  obtain ⟨hmake, hcopying⟩ := h.exec_makeDirectories_target
  obtain ⟨depth, hdepth⟩ : ∃ depth, pathLimit = depth + 1 := ⟨4095, rfl⟩
  rw [hcopy, hdepth, exec_copyEntry_directory hentry rfl hstart, exec_bind, exec_onFault,
    hmake] at hexec
  have hwalks : Walks before source [] place [] := .start hstart
  refine h.ends_copyInside hwalks (fun part node hpart => ?_) (ExtendsBy.refl _ before)
    (List.append_nil _).symm (fun part hpart => mem_namesIn_iff.mp hpart)
    (fun hrest => absurd rfl hrest) hcopying ?_ hexec
  · exact h.copiesName_copyEntry hwalks hpart rfl (Nat.le_of_eq hdepth)
  · rw [List.append_nil]
    exact node?_put_self (by simp)

end Copies

end Disk

end DocStubs
