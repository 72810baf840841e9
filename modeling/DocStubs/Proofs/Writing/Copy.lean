import DocStubs.Proofs.Files.Disk
import DocStubs.Proofs.Writing.FreeNumber

/-!
# Copying a directory to a free number

A backup of a directory goes to a path that leads nowhere. That alone does not make it safe: the
directories before it are made only afterwards, and a path that turns back from one of them may
lead to something then that it did not lead to before. A mark that `climbs` can do so. With any
other mark a copy is made under a name that was free, so it touches nothing.

## Main definitions

* `Path.climbs` — whether a mark turns back from a name that it adds
* `Disk.Receives` — a copy is being made under a name that was free

## Main results

* `Disk.enters_makeDirectories` — a path that does not turn back leads to a new directory
* `Disk.extendsBy_copyTree` — a copy of a directory touches nothing
-/

namespace DocStubs

/-! ### Marks that climb -/

namespace Path

/-- The names that a mark adds before the last name of a backup. -/
def innerNames (mark : String) : List String :=
  (Cut.pieces '/' mark).dropLast.filter (!·.isEmpty)

/-- Whether a name stays in a directory or leads back from it. -/
def isDots (name : String) : Bool := name = "." || name = ".."

/-- Whether a mark turns back from a name that it adds. If it starts with a slash, it may turn back
from the path it is added to, which is there. -/
def climbs (mark : String) : Bool :=
  (if isAbsolute mark then (innerNames mark).dropWhile isDots
    else (innerNames mark).tail).contains ".."

theorem innerNames_append_slash (inner : String) {last : String} (h : '/' ∉ last.toList) :
    innerNames (inner ++ "/" ++ last) = names inner := by
  simp [innerNames, names, Cut.pieces, Cut.piecesOf_append_cons, Cut.piecesOf_of_not_mem h]

theorem exists_eq_slash_append {path : String} (h : isAbsolute path = true) :
    ∃ rest, path = "/" ++ rest := by
  simp only [isAbsolute, decide_eq_true_eq] at h
  obtain ⟨rest, hrest⟩ := List.head?_eq_some_iff.mp h
  exact ⟨String.ofList rest, String.toList_inj.mp (by simpa using hrest)⟩

theorem names_slash_append (path : String) : names ("/" ++ path) = names path := by
  have h := names_append_slash "" path
  rwa [names_empty, List.nil_append, String.empty_append] at h

/-- An inner part that starts with a slash, or is nothing before one, adds its names. -/
theorem names_append_inner {inner last : String} (h : isAbsolute (inner ++ "/" ++ last) = true)
    (path : String) : names (path ++ inner) = names path ++ names inner := by
  by_cases hinner : inner = ""
  · simp [hinner]
  · rw [String.append_assoc, isAbsolute_append hinner] at h
    obtain ⟨rest, rfl⟩ := exists_eq_slash_append h
    rw [← String.append_assoc, names_append_slash, names_slash_append]

/-- An inner part that starts with a name lengthens the last name of a path. -/
theorem names_append_relative {inner last : String}
    (h : isAbsolute (inner ++ "/" ++ last) = false) (path : String) :
    ∃ known rest name, names path = known ++ rest ∧
      names (path ++ inner) = known ++ name :: (names inner).tail := by
  have hinner : inner ≠ "" := by
    rintro rfl
    simp [isAbsolute] at h
  rw [String.append_assoc, isAbsolute_append hinner] at h
  obtain ⟨known, lastName, -, hending, hpath⟩ := exists_last_name path
  obtain ⟨first, hfirst, hchars⟩ := Cut.exists_first '/' inner.toList
  have hne : first ≠ [] := by
    rintro rfl
    rcases hchars with hnil | ⟨after, hafter⟩
    · exact hinner (String.toList_eq_nil_iff.mp hnil)
    · simp [isAbsolute, hafter] at h
  have hname : names (path ++ String.ofList first) = known ++ [lastName ++ String.ofList first] :=
    hending _ (by simpa using hfirst) (by simpa using hne)
  have hsingle : names (String.ofList first) = [String.ofList first] :=
    names_of_no_slash (by simpa using hne) (by simpa using hfirst)
  refine ⟨known, _, lastName ++ String.ofList first, hpath, ?_⟩
  rcases hchars with hall | ⟨after, hafter⟩
  · obtain rfl : inner = String.ofList first := String.toList_inj.mp (by simpa using hall)
    rw [hname, hsingle, List.tail_cons]
  · obtain rfl : inner = String.ofList first ++ "/" ++ String.ofList after :=
      String.toList_inj.mp (by simpa using hafter)
    rw [names_append_slash, hsingle, List.singleton_append, List.tail_cons, ← String.append_assoc,
      ← String.append_assoc, names_append_slash, hname, List.append_assoc, List.singleton_append]

/-- What a mark holds after its last slash is, with the number, the last name of a backup. -/
theorem names_backupPath_of_slash (inner path : String) {last : String} (h : '/' ∉ last.toList)
    (number : Nat) :
    names (backupPath (inner ++ "/" ++ last) path number) =
      names (path ++ inner) ++ [last ++ toString number] := by
  have hassoc : backupPath (inner ++ "/" ++ last) path number =
      path ++ inner ++ "/" ++ (last ++ toString number) := by
    simp only [backupPath, String.append_assoc]
  have hno : '/' ∉ (last ++ toString number).toList := by
    rw [String.toList_append, List.mem_append]
    exact not_or_intro h (not_mem_toString_nat number rfl)
  have hne : last ++ toString number ≠ "" := by simp
  rw [hassoc, names_append_slash, names_of_no_slash hne hno]

/-- The names along a backup whose mark does not climb: they begin as the path does, turn back at
most from there, and then only lead on. -/
theorem names_backupPath {mark : String} (h : climbs mark = false) (path : String)
    (number : Nat) :
    ∃ known rest dots onward, names path = known ++ rest ∧
      names (backupPath mark path number) = known ++ dots ++ onward ∧
      (∀ name ∈ dots, isDots name = true) ∧ ".." ∉ onward := by
  have hnumber : ∀ last : String, ".." ∉ [last ++ toString number] := fun last hmem =>
    append_number_ne (by simp) last number (List.mem_singleton.mp hmem).symm
  obtain ⟨last, hslash, hmark⟩ := Cut.exists_last '/' mark.toList
  rcases hmark with hmark | ⟨inner, hmark⟩
  · -- The mark and the number lengthen the last name of the path.
    obtain ⟨known, lastName, -, hending, hpath⟩ := exists_last_name path
    refine ⟨known, _, [], [lastName ++ mark ++ toString number], hpath, ?_, by simp, hnumber _⟩
    rw [backupPath, String.append_assoc, hending, List.append_nil, String.append_assoc]
    · rw [String.toList_append, List.mem_append, hmark]
      exact not_or_intro hslash (not_mem_toString_nat number rfl)
    · simp
  · obtain rfl : mark = String.ofList inner ++ "/" ++ String.ofList last :=
      String.toList_inj.mp (by simpa using hmark)
    rw [← String.toList_ofList (l := last)] at hslash
    generalize String.ofList inner = inner at h ⊢
    generalize String.ofList last = last at h hslash ⊢
    rw [climbs, innerNames_append_slash inner hslash] at h
    rw [names_backupPath_of_slash inner path hslash number]
    cases habs : isAbsolute (inner ++ "/" ++ last) with
    | true =>
      rw [if_pos habs] at h
      refine ⟨names path, [], (names inner).takeWhile isDots,
        (names inner).dropWhile isDots ++ [last ++ toString number], by simp, ?_,
        fun name hname => List.mem_takeWhile_imp hname, ?_⟩
      · rw [names_append_inner habs, List.append_assoc, List.append_assoc,
          ← List.append_assoc (List.takeWhile _ _), List.takeWhile_append_dropWhile]
      · rw [List.mem_append]
        exact not_or_intro (by simpa using h) (hnumber last)
    | false =>
      rw [habs] at h
      obtain ⟨known, rest, name, hpath, happend⟩ := names_append_relative habs path
      have htail : ".." ∉ (names inner).tail ++ [last ++ toString number] := by
        rw [List.mem_append]
        exact not_or_intro (by simpa using h) (hnumber last)
      rw [happend]
      by_cases hname : name = ".."
      · exact ⟨known, rest, [name], _, hpath, by simp, by simp [hname, isDots], htail⟩
      · refine ⟨known, rest, [], name :: ((names inner).tail ++ [last ++ toString number]), hpath,
          by simp, by simp, ?_⟩
        rw [List.mem_cons]
        exact not_or_intro (Ne.symm hname) htail

end Path

/-! ### Places that a path cannot leave -/

namespace FileTree

variable {tree before after : FileTree} {purpose : Purpose} {links : Nat} {slash : Bool}
  {here place : Place} {names : List String} {found : Found}

/-- Names that do not turn back, without a link on the way, lead to a place below. -/
theorem Leads.isPrefix_place
    (hlinks : ∀ rest target, tree.node? (here ++ rest) ≠ some (.link target))
    (hnames : ".." ∉ names) (h : Leads tree purpose links slash here names found) :
    here <+: found.place := by
  induction h with
  | done => exact List.prefix_rfl
  | dot onward ih => exact ih hlinks fun hmem => hnames (List.mem_cons_of_mem _ hmem)
  | dots onward ih => exact absurd List.mem_cons_self hnames
  | missing ordinary free => exact List.prefix_append _ _
  | directory ordinary there onward ih =>
    refine (List.prefix_append _ _).trans (ih (fun rest target => ?_) fun hmem =>
      hnames (List.mem_cons_of_mem _ hmem))
    rw [List.append_assoc]
    exact hlinks _ target
  | link ordinary there stays => exact absurd there (hlinks _ _)
  | through ordinary there follows target_ne onward ih => exact absurd there (hlinks _ _)
  | leaf ordinary there not_directory not_link finishes => exact List.prefix_append _ _

/-- Nothing was below a place that is new, and if no links are new, a path that leads through it
and does not turn back leads to something new. -/
theorem Leads.node?_place_eq_none (hwell : before.WellFormed)
    (hextends : before.ExtendsBy (fun node => node.isLink = false) after)
    (hnone : before.node? here = none) (hnames : ".." ∉ names)
    (h : Leads after purpose links slash here names found) : before.node? found.place = none := by
  have hbelow := hwell.node?_append_eq_none hnone
  have hlinks : ∀ rest target, after.node? (here ++ rest) ≠ some (.link target) := by
    intro rest target hlink
    rcases hextends.added hlink with hold | ⟨-, hkind⟩
    · rw [hbelow rest] at hold
      cases hold
    · cases hkind
  obtain ⟨rest, hrest⟩ := h.isPrefix_place hlinks hnames
  rw [← hrest]
  exact hbelow rest

/-- Names that do not turn back lead from an empty directory to itself or to a name that it does
not hold. -/
theorem Leads.of_holdsNothing (hempty : tree.HoldsNothing here) (hnames : ".." ∉ names)
    (h : Leads tree purpose links slash here names found) :
    found = .node here .directory ∨ ∃ name, found = .missing here name := by
  induction h with
  | done => exact Or.inl rfl
  | dot onward ih => exact ih hempty fun hmem => hnames (List.mem_cons_of_mem _ hmem)
  | dots onward ih => exact absurd List.mem_cons_self hnames
  | missing ordinary free => exact Or.inr ⟨_, rfl⟩
  | directory ordinary there | link ordinary there | through ordinary there
  | leaf ordinary there =>
    rw [hempty] at there
    cases there

/-- Dots lead somewhere from everywhere. -/
theorem exists_enters_dots (tree : FileTree) (links : Nat) (here : Place)
    (hdots : ∀ name ∈ names, Path.isDots name = true) :
    ∃ place, Enters tree links here names place links := by
  induction names generalizing here with
  | nil => exact ⟨here, .done⟩
  | cons name rest ih =>
    have hrest := fun other hother => hdots other (List.mem_cons_of_mem name hother)
    have hname := hdots name List.mem_cons_self
    simp only [Path.isDots, Bool.or_eq_true, decide_eq_true_eq] at hname
    rcases hname with rfl | rfl
    · obtain ⟨place, h⟩ := ih here hrest
      exact ⟨place, .dot h⟩
    · obtain ⟨place, h⟩ := ih here.dropLast hrest
      exact ⟨place, .dots h⟩

end FileTree

namespace Disk

open FileTree

variable {before after : FileTree} {path : String}

/-! ### Making the directory of a copy -/

/-- A directory that was tried for is there. It is new, or nothing has changed. -/
theorem exec_tryDirectory_eq_false (h : (tryDirectory path).exec before = (.ok false, after)) :
    Usable path ∧ ∃ purpose found left,
      Leads before purpose linkLimit (Path.endsInSlash path) (before.origin path)
        (Path.names path) found ∧
      Enters after linkLimit (before.origin path) (Path.names path) found.place left ∧
      (after = before ∧ found = .node found.place .directory ∨
        before.node? found.place = none ∧ after = before.put found.place .directory) := by
  rcases exec_tryDirectory_cases h with ⟨directory, name, -, hlookup, rfl⟩ | ⟨rfl, hdirectory⟩
  · obtain ⟨husable, hleads⟩ := lookup_eq_ok_iff.mp hlookup
    have hnone := hleads.node?_eq_none
    have hgrows : before.Grows (before.put (directory ++ [name]) .directory) :=
      ((ExtendsBy.refl (· = .directory) before).put (by simp) hnone rfl).grows
    obtain ⟨left, henters⟩ := hleads.enters_of_missing hgrows (node?_put_self (by simp))
    exact ⟨husable, _, _, left, hleads, henters, Or.inr ⟨hnone, rfl⟩⟩
  · obtain ⟨place, hlookup⟩ := hasDirectory_iff.mp (hdirectory rfl)
    obtain ⟨husable, hleads⟩ := lookup_eq_ok_iff.mp hlookup
    obtain ⟨left, henters⟩ := hleads.enters
    exact ⟨husable, _, _, left, hleads, henters, Or.inl ⟨rfl, rfl⟩⟩

/-- A successful round makes the directory at once, or makes those before it first. -/
theorem exec_makeDirectoriesFrom_succ {fuel : Nat} (hpath : path ≠ "")
    (h : (makeDirectoriesFrom (fuel + 1) path).exec before = (.ok (), after)) :
    (tryDirectory path).exec before = (.ok false, after) ∨
      ∃ parent middle, (tryDirectory path).exec before = (.ok true, before) ∧
        Path.parent? path = some parent ∧
        (makeDirectoriesFrom fuel parent).exec before = (.ok (), middle) ∧
        (tryDirectory path).exec middle = (.ok false, after) := by
  rw [makeDirectoriesFrom] at h
  rw [if_neg (by simpa using hpath)] at h
  obtain ⟨missing, tried, htried, hnext⟩ := exec_bind_eq_ok h
  cases missing with
  | false =>
    cases hnext
    exact Or.inl htried
  | true =>
    obtain rfl : tried = before := by
      rcases exec_tryDirectory_cases htried with ⟨_, _, hanswer, -⟩ | ⟨rfl, -⟩
      · cases hanswer
      · rfl
    rw [if_pos rfl] at hnext
    split at hnext
    · rename_i parent hparent
      obtain ⟨_, middle, hmake, hrest⟩ := exec_bind_eq_ok hnext
      obtain ⟨missing, final, hagain, hend⟩ := exec_bind_eq_ok hrest
      cases missing with
      | true => cases hend
      | false =>
        cases hend
        exact Or.inr ⟨parent, middle, htried, hparent, hmake, hagain⟩
    · cases hnext

/-- Where no directories are made, nothing changes. -/
theorem exec_makeDirectoriesFrom_empty {fuel : Nat}
    (h : (makeDirectoriesFrom fuel "").exec before = (.ok (), after)) : after = before := by
  cases fuel <;> (cases h; rfl)

/-- A directory that is made below one that is new and empty is so itself. -/
theorem new_of_below_new {middle : FileTree} {purpose : Purpose} {links : Nat} {slash : Bool}
    {here : Place} {names : List String} {found : Found} (hwell : before.WellFormed)
    (hmakes : Relation.ReflTransGen MakesDirectory before middle) (hnone : before.node? here = none)
    (hempty : middle.HoldsNothing here) (hnames : ".." ∉ names)
    (hleads : Leads middle purpose links slash here names found)
    (hmade : after = middle ∧ found = .node found.place .directory ∨
      middle.node? found.place = none ∧ after = middle.put found.place .directory) :
    before.node? found.place = none ∧ after.HoldsNothing found.place := by
  refine ⟨hleads.node?_place_eq_none hwell (extendsBy_no_links_of_makesDirectories hmakes) hnone
    hnames, ?_⟩
  rcases hmade with ⟨rfl, hnode⟩ | ⟨hfree, rfl⟩
  · rcases hleads.of_holdsNothing hempty hnames with rfl | ⟨name, rfl⟩
    · exact hempty
    · cases hnode
  · exact ((evolves_of_makesDirectories hmakes).wellFormed hwell).holdsNothing_put hfree _

/-- If everything up to some name of a path is there and the path does not turn back after it, the
directory that is made for it is new and empty, or nothing has changed. -/
theorem enters_makeDirectoriesFrom {fuel : Nat} {known onward : List String} {start : Place}
    {left : Nat} (hfuel : path.length < fuel) (hwell : before.WellFormed)
    (hnames : Path.names path = known ++ onward)
    (hknown : Enters before linkLimit (before.origin path) known start left)
    (honward : ".." ∉ onward)
    (h : (makeDirectoriesFrom fuel path).exec before = (.ok (), after)) :
    (path = "" ∨ Usable path) ∧ ∃ place left,
      Enters after linkLimit (before.origin path) (Path.names path) place left ∧
        (after = before ∨ before.node? place = none ∧ after.HoldsNothing place) := by
  induction fuel generalizing path after known onward start left with
  | zero => exact absurd hfuel (Nat.not_lt_zero _)
  | succ fuel ih =>
    by_cases hpath : path = ""
    · subst hpath
      cases h
      rw [Path.names_empty]
      exact ⟨Or.inl rfl, _, _, .done, Or.inl rfl⟩
    rcases exec_makeDirectoriesFrom_succ hpath h with
      htry | ⟨parent, middle, hmissing, hparent, hmake, htry⟩
    · obtain ⟨husable, _, found, left', -, henters, hnew⟩ := exec_tryDirectory_eq_false htry
      refine ⟨Or.inr husable, found.place, left', henters, ?_⟩
      rcases hnew with ⟨rfl, -⟩ | ⟨hnone, rfl⟩
      · exact Or.inl rfl
      · exact Or.inr ⟨hnone, hwell.holdsNothing_put hnone _⟩
    -- Something has to have changed, or the second try would have failed as the first did.
    have hchanged : middle ≠ before := by
      rintro rfl
      rw [hmissing] at htry
      cases htry
    have hmakes := (respects_makeDirectoriesFrom fuel parent).of_exec hmake
    have hgrows := (evolves_of_makesDirectories hmakes).grows
    obtain ⟨hlength, habsolute, dots, last, dots', hsplit, -⟩ := Path.names_of_parent? hparent
    have hnonempty : parent ≠ "" := by
      rintro rfl
      exact hchanged (exec_makeDirectoriesFrom_empty hmake)
    have horigin : before.origin parent = before.origin path :=
      before.origin_congr (habsolute.resolve_left hnonempty)
    have hfuel' : parent.length < fuel := by omega
    rw [← horigin] at hknown
    rcases List.append_eq_append_iff.mp (hsplit.symm.trans hnames) with
      ⟨more, rfl, -⟩ | ⟨more, hmore, rfl⟩
    · -- The parent was there already, so it is not new.
      obtain ⟨there, left', hthere, -⟩ := enters_append_iff.mp hknown
      obtain ⟨-, place, left'', henters, hnew⟩ :=
        ih hfuel' (List.append_nil _).symm hthere List.not_mem_nil hmake
      obtain ⟨hnone, -⟩ := hnew.resolve_left hchanged
      have hdirectory := hwell.node?_of_enters hthere List.prefix_rfl
      rw [(hthere.grows hgrows).unique henters, hnone] at hdirectory
      cases hdirectory
    · -- The parent is new, and the path only leads on from it.
      obtain ⟨honward', hlast⟩ : ".." ∉ more ∧ ".." ∉ dots ++ last :: dots' := by
        rwa [List.mem_append, not_or] at honward
      obtain ⟨-, place, left', henters, hnew⟩ := ih hfuel' hmore hknown honward' hmake
      obtain ⟨hnone, hempty⟩ := hnew.resolve_left hchanged
      obtain ⟨husable, purpose, found, left'', hleads, hfound, hmade⟩ :=
        exec_tryDirectory_eq_false htry
      rw [hgrows.origin_eq] at hleads hfound
      rw [hsplit, leads_append_iff (by simp), ← horigin] at hleads
      obtain ⟨place', left₃, henters', hleads⟩ := hleads
      rw [← henters.unique henters'] at hleads
      exact ⟨Or.inr husable, found.place, left'', hfound, Or.inr
        (new_of_below_new hwell hmakes hnone hempty hlast hleads hmade)⟩

/-! ### What is below the copy -/

/-- A copy is being made at a place that was free: what was there before is untouched, and the path
of the copy leads there. -/
structure Receives (before : FileTree) (target : String) (top : Place) (now : FileTree) :
    Prop where
  wellFormed : now.WellFormed
  extendsBy : before.ExtendsBy (fun node => node.isLink = false) now
  enters : ∃ left, Enters now linkLimit (now.origin target) (Path.names target) top left

variable {target : String} {top : Place} {now : FileTree}

theorem Receives.evolve (h : Receives before target top now) (hevolves : now.Evolves after)
    (hextends : before.ExtendsBy (fun node => node.isLink = false) after) :
    Receives before target top after := by
  refine ⟨hevolves.wellFormed h.wellFormed, hextends, ?_⟩
  obtain ⟨left, henters⟩ := h.enters
  rw [hevolves.grows.origin_eq]
  exact ⟨left, henters.grows hevolves.grows⟩

theorem receives_makeDirectories (path : String) :
    (makeDirectories path).Keeps (Receives before target top) := by
  intro now _ h
  have hmakes := respects_makeDirectories path now (Or.inl trivial)
  exact h.evolve (evolves_of_makesDirectories hmakes)
    (h.extendsBy.trans (extendsBy_no_links_of_makesDirectories hmakes))

variable {names : List String}

theorem names_copyTarget (target : String) (hnames : ∀ name ∈ names, Path.IsName name) :
    Path.names (copyTarget target names) = Path.names target ++ names := by
  rw [copyTarget, Path.names_join _ (Path.isAbsolute_intercalate hnames),
    Path.names_intercalate hnames]

theorem origin_copyTarget (tree : FileTree) (target : String)
    (hnames : ∀ name ∈ names, Path.IsName name) :
    tree.origin (copyTarget target names) = tree.origin target :=
  tree.origin_join target (Path.isAbsolute_intercalate hnames)

/-- A file of a copy is put below the place of the copy, where nothing was. -/
theorem receives_write (hwell : before.WellFormed) (htop : before.node? top = none)
    (hnames : ∀ name ∈ names, Path.IsName name) (hne : names ≠ []) (content : ByteArray) :
    (write (copyTarget target names) content).Keeps (Receives before target top) := by
  intro now _ h
  cases hexec : (write (copyTarget target names) content).exec now with
  | mk answer after =>
    rcases exec_write_cases hexec with ⟨place, -, hdest, rfl⟩ | ⟨-, rfl, -⟩
    · refine h.evolve (hdest.evolves content) ?_
      refine h.extendsBy.put hdest.ne_nil ?_ rfl
      obtain ⟨found, hlookup, rfl⟩ : ∃ found, now.lookup .write (copyTarget target names) =
          .ok found ∧ place = found.place := by
        rcases hdest with ⟨old, hlookup⟩ | ⟨directory, name, hlookup, rfl⟩
        · exact ⟨_, hlookup, rfl⟩
        · exact ⟨_, hlookup, rfl⟩
      have hleads := (lookup_eq_ok_iff.mp hlookup).2
      rw [names_copyTarget target hnames, origin_copyTarget now target hnames,
        leads_append_iff hne] at hleads
      obtain ⟨place, left, henters, hbelow⟩ := hleads
      obtain ⟨left', htop'⟩ := h.enters
      rw [← htop'.unique henters] at hbelow
      exact hbelow.node?_place_eq_none hwell h.extendsBy htop fun hdots =>
        (hnames _ hdots).ne_dots rfl
    · exact h

theorem isName_of_mem_namesIn (hwell : now.WellFormed) {directory : Place} {name : String}
    (h : name ∈ now.namesIn directory) : Path.IsName name := by
  rw [namesIn, List.mem_mergeSort, List.mem_filterMap] at h
  obtain ⟨⟨place, node⟩, hentry, hname⟩ := h
  change nameIn? directory place = some name at hname
  rw [nameIn?] at hname
  split at hname
  · exact (hwell.entry _ hentry).2.1 name (List.mem_of_getLast? hname)
  · cases hname

/-- The names in a directory are added to those of a copy. -/
theorem isName_append {name : String} (hnames : ∀ name ∈ names, Path.IsName name)
    (hname : Path.IsName name) : ∀ other ∈ names ++ [name], Path.IsName other := by
  intro other hother
  rcases List.mem_append.mp hother with hother | hother
  · exact hnames other hother
  · rwa [List.mem_singleton.mp hother]

/-- A copy goes on below its place, at every depth. -/
theorem receives_copyEntry (hwell : before.WellFormed) (htop : before.node? top = none)
    (depth : Nat) (ancestors : List Ancestor) (hnames : ∀ name ∈ names, Path.IsName name)
    (hne : names ≠ []) (path : String) (node : Node) :
    (copyEntry target depth ancestors names path node).Keeps (Receives before target top) := by
  induction depth generalizing ancestors names path node with
  | zero => exact Respects.throw _
  | succ depth ih =>
    rw [copyEntry]
    refine ((Respects.ask? _).onFault _).bind fun entry => ?_
    split
    · refine ((Respects.ask? _).onFault _).bind fun reached => ?_
      refine Keeps.ask_bind fun now hnow => Keeps.ask_bind fun _ _ => ?_
      refine ((receives_makeDirectories _).onFault _).bind fun _ => ?_
      refine Respects.forM fun item hitem => ?_
      obtain ⟨name, hname, rfl⟩ := List.mem_map.mp hitem
      exact ih _ (isName_append hnames (isName_of_mem_namesIn hnow.wellFormed hname)) (by simp) _ _
    · refine (Respects.copy fun content => ?_).onFault _
      exact receives_write hwell htop hnames hne content
    · exact Respects.pure _

/-! ### The whole copy -/

theorem usable_of_append {path ending : String} (h : Usable (path ++ ending)) (hpath : path ≠ "") :
    Usable path := by
  refine ⟨hpath, fun hnul => h.no_nul ?_, Nat.lt_of_le_of_lt ?_ h.short⟩
  · rw [String.toList_append]
    exact List.mem_append_left _ hnul
  · rw [String.utf8ByteSize_append]
    exact Nat.le_add_right _ _

theorem exists_join_empty (target : String) : ∃ ending, Path.join target "" = target ++ ending := by
  rw [Path.join]
  split
  · rename_i h
    simp only [Path.isAbsolute, String.toList_empty, List.head?_nil, reduceCtorEq, decide_false,
      Bool.false_or] at h
    exact ⟨"", by simpa using h⟩
  · split
    · exact ⟨"", rfl⟩
    · exact ⟨"/" ++ "", String.append_assoc⟩

theorem backupPath_ne_empty (mark path : String) (number : Nat) :
    backupPath mark path number ≠ "" := by
  simp [backupPath]

/-- The names along a backup of a directory, up to those that are perhaps not there. -/
theorem exists_known_backupPath {mark : String} (hdirectory : before.hasDirectory path = true)
    (hclimbs : Path.climbs mark = false) (number : Nat) :
    ∃ known onward start left, Path.names (backupPath mark path number) = known ++ onward ∧
      Enters before linkLimit (before.origin (backupPath mark path number)) known start left ∧
      ".." ∉ onward := by
  obtain ⟨place, hlookup⟩ := hasDirectory_iff.mp hdirectory
  obtain ⟨husable, hleads⟩ := lookup_eq_ok_iff.mp hlookup
  obtain ⟨left, henters⟩ := hleads.enters
  obtain ⟨known, rest, dots, onward, hpath, hnames, hdots, honward⟩ :=
    Path.names_backupPath hclimbs path number
  rw [hpath, enters_append_iff] at henters
  obtain ⟨middle, left', hknown, -⟩ := henters
  obtain ⟨start, hstart⟩ := exists_enters_dots before left' middle hdots
  refine ⟨known ++ dots, onward, start, left', hnames, enters_append_iff.mpr ⟨middle, left', ?_,
    hstart⟩, honward⟩
  rwa [backupPath, String.append_assoc, before.origin_append husable.ne_empty]

/-- The directory that is made for a copy is new. -/
theorem receives_of_makeDirectories {mark : String} {number : Nat} (hwell : before.WellFormed)
    (hdirectory : before.hasDirectory path = true) (hclimbs : Path.climbs mark = false)
    (hfree : before.hasPath (backupPath mark path number) = false)
    (h : (makeDirectories (copyTarget (backupPath mark path number) [])).exec before =
      (.ok (), after)) :
    ∃ top, before.node? top = none ∧
      Receives before (backupPath mark path number) top after := by
  obtain ⟨known, onward, start, left, hnames, hknown, honward⟩ :=
    exists_known_backupPath hdirectory hclimbs number
  have hnonempty := backupPath_ne_empty mark path number
  generalize backupPath mark path number = target at *
  have hno : ∀ name ∈ ([] : List String), Path.IsName name := fun _ h => nomatch h
  have hsame := names_copyTarget target hno
  rw [List.append_nil] at hsame
  have horigin := origin_copyTarget before target hno
  have hmakes := (respects_makeDirectories (copyTarget target [])).of_exec h
  obtain ⟨husable, top, left', henters, hnew⟩ := enters_makeDirectoriesFrom (Nat.lt_succ_self _)
    hwell (hsame.trans hnames) (horigin.symm ▸ hknown) honward h
  rw [hsame, horigin] at henters
  have htop : before.node? top = none := by
    refine (hnew.resolve_left ?_).1
    rintro rfl
    -- The path would have led to a directory before.
    obtain ⟨ending, hending⟩ := exists_join_empty target
    rw [copyTarget, String.intercalate_nil, hending] at husable
    have husable' : Usable target :=
      usable_of_append (husable.resolve_left (by simp [hnonempty])) hnonempty
    have hpath : after.hasPath target = true :=
      hasPath_iff.mpr ⟨top, _, lookup_eq_ok_iff.mpr ⟨husable', henters.leads _⟩⟩
    rw [hfree] at hpath
    cases hpath
  have hextends := extendsBy_no_links_of_makesDirectories hmakes
  refine ⟨top, htop, (evolves_of_makesDirectories hmakes).wellFormed hwell, hextends, left', ?_⟩
  rwa [hextends.grows.origin_eq]

/-- The directory for a copy is made, and then what is in the copied directory is put there. -/
theorem extendsBy_copyInside {mark : String} {number : Nat} (hwell : before.WellFormed)
    (hdirectory : before.hasDirectory path = true) (hclimbs : Path.climbs mark = false)
    (hfree : before.hasPath (backupPath mark path number) = false) (depth : Nat)
    {inside : List (String × Node)} (hinside : ∀ item ∈ inside, Path.IsName item.1)
    (ancestors : List Ancestor) :
    before.ExtendsBy (fun node => node.isLink = false)
      ((do
        onFault .inl (makeDirectories (copyTarget (backupPath mark path number) []))
        inside.forM fun (name, node) =>
          copyEntry (backupPath mark path number) depth ancestors [name] (Path.join path name)
            node : Disk (FileFault ⊕ WalkFault) Unit).exec before).2 := by
  rw [exec_bind, exec_onFault]
  cases hmake : (makeDirectories (copyTarget (backupPath mark path number) [])).exec before with
  | mk answer made =>
    cases answer with
    | error fault =>
      exact extendsBy_no_links_of_makesDirectories ((respects_makeDirectories _).of_exec hmake)
    | ok _ =>
      obtain ⟨top, htop, hmade⟩ := receives_of_makeDirectories hwell hdirectory hclimbs hfree hmake
      have hall : ∀ item ∈ inside,
          (copyEntry (backupPath mark path number) depth ancestors [item.1]
            (Path.join path item.1) item.2).Keeps
              (Receives before (backupPath mark path number) top) := by
        intro item hitem
        refine receives_copyEntry hwell htop _ _ (fun other hother => ?_) (by simp) _ _
        rw [List.mem_singleton.mp hother]
        exact hinside item hitem
      exact (Keeps.exec (Respects.forM hall) hmade).extendsBy

/-- A copy of a directory to a path that leads nowhere, by a mark that does not climb, touches
nothing, also where it ends half way. -/
theorem extendsBy_copyEntry {mark : String} {number : Nat} (hwell : before.WellFormed)
    (hdirectory : before.hasDirectory path = true) (hclimbs : Path.climbs mark = false)
    (hfree : before.hasPath (backupPath mark path number) = false) (depth : Nat) (node : Node) :
    before.ExtendsBy (fun node => node.isLink = false)
      ((copyEntry (backupPath mark path number) depth [] [] path node).exec before).2 := by
  have hrefl := ExtendsBy.refl (fun node => node.isLink = false) before
  cases depth with
  | zero => exact hrefl
  | succ depth =>
    rw [copyEntry]
    rw [exec_bind, exec_onFault, exec_ask?]
    cases before.entryAt [] "" path node with
    | error fault => exact hrefl
    | ok entry =>
      dsimp only [Except.mapError]
      split
      · -- A directory, as it has to be.
        rw [exec_bind, exec_onFault, exec_ask?]
        cases orFault path (before.reached .reach path) with
        | error fault => exact hrefl
        | ok reached =>
          dsimp only [Except.mapError]
          rw [exec_bind_of_ok _ (exec_ask _ before), exec_bind_of_ok _ (exec_ask _ before)]
          refine extendsBy_copyInside hwell hdirectory hclimbs hfree depth ?_ _
          intro item hitem
          obtain ⟨name, hname, rfl⟩ := List.mem_map.mp hitem
          exact isName_of_mem_namesIn hwell hname
      · -- The path leads to a directory, so there is no file to copy.
        obtain ⟨place, hlookup⟩ := hasDirectory_iff.mp hdirectory
        rw [exec_onFault, exec_copy]
        split
        · rename_i content hread
          obtain ⟨place', hfile⟩ := read_eq_ok_iff.mp hread
          rw [hlookup] at hfile
          cases hfile
        · exact hrefl
      · exact hrefl

theorem extendsBy_copyTree {mark : String} {number : Nat} (hwell : before.WellFormed)
    (hdirectory : before.hasDirectory path = true) (hclimbs : Path.climbs mark = false)
    (hfree : before.hasPath (backupPath mark path number) = false) :
    before.ExtendsBy (fun node => node.isLink = false)
      ((copyTree path (backupPath mark path number)).exec before).2 := by
  rw [copyTree]
  rw [exec_bind, exec_onFault, exec_ask?]
  cases orFault path (before.reached .inspect path) with
  | error fault => exact ExtendsBy.refl _ before
  | ok reached => exact extendsBy_copyEntry hwell hdirectory hclimbs hfree _ _

end Disk

end DocStubs
