import DocStubs.Proofs.Writing.Copying
import DocStubs.Proofs.Writing.Versions

/-!
# Backups of directories are faithful

The backup of a directory goes beside it: mark and number lengthen the last name of its path. So a
walk through the directory comes to the backup only if it comes to the directory that holds both,
and there the name of the original comes first. If the path ends in a dot, the backup goes into the
directory itself, and if it ends in two dots, into a directory below it. In the last case the backup
is met by a walk that nothing ends, and a faithful copy is not possible.

## Main definitions

* `FileTree.NoLinkTo` — no link leads to a path

## Main results

* `Disk.exists_copies` — a directory can be copied to the name of its next backup
* `Disk.backup_copies_directory` — the backup of a directory is a faithful copy of it
-/

namespace DocStubs

namespace FileTree

/-- No link leads to the last name of a path, nor through it. -/
def NoLinkTo (tree : FileTree) (path : String) : Prop :=
  ∀ parents name directory left, Path.names path = parents ++ [name] →
    Enters tree linkLimit (tree.origin path) parents directory left →
    LinksAvoid tree directory name

/-- A link without the last name of a path in its text does not lead there. -/
theorem noLinkTo_of_not_mem {tree : FileTree} {path name : String} {parents : List String}
    (hnames : Path.names path = parents ++ [name])
    (h : ∀ place target, (place, .link target) ∈ tree.entries → name ∉ Path.names target) :
    tree.NoLinkTo path := by
  intro parents' name' directory left hnames' _ here link target known rest left' hnode htarget _
  obtain ⟨-, rfl⟩ := List.append_singleton_inj.mp (hnames.symm.trans hnames')
  refine h _ target (mem_of_node? hnode (by simp)) ?_
  rw [htarget]
  exact List.mem_append_right _ List.mem_cons_self

end FileTree

namespace Disk

open FileTree

variable {before after : FileTree} {source mark : String}

theorem lt_append_of_ne_empty (text : String) {ending : String} (h : ending ≠ "") :
    text < text ++ ending := by
  have hchars : ending.toList ≠ [] := by simpa using h
  obtain ⟨first, rest, hending⟩ := List.exists_cons_of_ne_nil hchars
  have hlt : text.toList ++ [] < text.toList ++ ending.toList := by
    rw [hending]
    exact List.append_left_lt (List.nil_lt_cons first rest)
  rw [List.append_nil, ← String.toList_append] at hlt
  exact String.lt_iff.mpr hlt

/-- Mark and number leave the last name of a path a name. -/
theorem isName_of_names_backupPath {known : List String} {last : String} {number : Nat}
    (h : Path.names (backupPath mark source number) =
      known ++ [last ++ (mark ++ toString number)]) :
    Path.IsName (last ++ (mark ++ toString number)) := by
  obtain ⟨hempty, hno⟩ :=
    Path.mem_names (h ▸ List.mem_append_right known (List.mem_singleton_self _))
  rw [← String.append_assoc] at hempty hno ⊢
  exact ⟨hempty, hno, Path.append_number_ne (by simp) _ _, Path.append_number_ne (by simp) _ _⟩

/-- A walk that comes to the directory in which the path of its start has its last name ends at a
link below that name. If the name is a dot, that directory is the start itself, and no walk comes
back there if none ends at a link. -/
theorem exists_blocks_of_walks {known names : List String} {last : String} {directory : Place}
    {outer : List Place} {left : Nat} (hwell : before.WellFormed)
    (hdirectory : before.hasDirectory source = true) (hslash : Path.endsInSlash source = false)
    (hlimits : WithinLimits before source) (hsource : Path.names source = known ++ [last])
    (hdots : last ≠ "..") (hdot : last ≠ "." ∨ ∀ names, ¬Blocks before source names)
    (henters : Enters before linkLimit (before.origin source) known directory left)
    (hwalks : Walks before source names directory outer) (hne : names ≠ []) :
    ∃ more, Blocks before source (names ++ last :: more) := by
  obtain ⟨place, hstart⟩ := hasDirectory_iff.mp hdirectory
  by_cases hsame : last = "."
  · -- The directory is the start of the walk itself.
    obtain rfl : directory = place := by
      have hleads := (lookup_eq_ok_iff.mp hstart).2
      rw [hsource, hslash, leads_append_iff (by simp)] at hleads
      obtain ⟨directory', left', henters', hleads⟩ := hleads
      obtain rfl := henters.unique henters'
      cases hleads with
      | dot onward =>
        cases onward
        rfl
      | dots => exact absurd rfl hdots
      | directory ordinary | through ordinary | leaf ordinary => exact absurd hsame ordinary.ne_dot
    obtain ⟨more, hblocks⟩ := hwalks.exists_blocks hwell hlimits hslash hstart hne
    exact absurd hblocks (hdot.resolve_left (fun hne => hne hsame) _)
  · obtain ⟨hempty, hno⟩ :=
      Path.mem_names (hsource ▸ List.mem_append_right known (List.mem_singleton_self last))
    exact hwalks.exists_blocks_of_holder hwell hlimits hslash hstart hsource
      ⟨hempty, hno, hsame, hdots⟩ henters

/-- A directory can be copied to the name of its next backup. The backup is beside the directory, or
inside of it if the path of the directory ends in a dot; then it has to be known that no link ends
the walk. -/
theorem exists_copies (hwell : before.WellFormed) (hdirectory : before.hasDirectory source = true)
    (hslash : Path.endsInSlash source = false)
    (hdots : (Path.names source).getLast? ≠ some "..") (hmark : '/' ∉ mark.toList)
    (hlink : ∀ place link,
      before.lookup .inspect (backupTarget mark before source) ≠ .ok (.node place (.link link)))
    (havoid : NoLinkTo before (backupTarget mark before source))
    (hlimits : WithinLimits before source)
    (htarget : ∀ names, Met before source names →
      Fits (copyTarget (backupTarget mark before source) names))
    (hdot : (Path.names source).getLast? ≠ some "." ∨ ∀ names, ¬Blocks before source names) :
    ∃ directory name, Copies before source (backupTarget mark before source) directory name := by
  obtain ⟨place, hstart⟩ := hasDirectory_iff.mp hdirectory
  obtain ⟨husable, hleads⟩ := lookup_eq_ok_iff.mp hstart
  obtain ⟨tail, htail⟩ := exists_names_backupPath husable.ne_empty hmark
  obtain ⟨known, stem, -, hsource, hbackup⟩ := htail ""
  rw [String.empty_append] at hsource hbackup
  replace hsource := hsource hslash
  have hnames := hbackup (before.freeNumber mark source)
  generalize hlast : stem ++ tail = last at hsource
  rw [← String.append_assoc, hlast, String.append_assoc] at hnames
  rw [hsource, leads_append_iff (by simp)] at hleads
  obtain ⟨directory, left, henters, -⟩ := hleads
  have hname := isName_of_names_backupPath hnames
  have henters' : Enters before linkLimit (before.origin (backupTarget mark before source)) known
      directory left := by
    rwa [backupTarget, origin_backupPath before mark _ husable.ne_empty]
  have hfits : Fits (backupTarget mark before source) :=
    fits_of_copyTarget (backupPath_ne_empty _ _ _) (htarget [] .start)
  have hfree := node?_eq_none_of_hasPath hnames (endsInSlash_backupPath ..) hname.ne_dot
    hname.ne_dots henters' hfits (hasPath_backupTarget mark before source) hlink
  have hgetLast : (Path.names source).getLast? = some last := by rw [hsource, List.getLast?_concat]
  rw [hgetLast, ne_eq, Option.some_inj] at hdots hdot
  have hlt := lt_append_of_ne_empty last
    (by simp : mark ++ toString (before.freeNumber mark source) ≠ "")
  refine ⟨directory, _, hwell, hdirectory, hslash, hlimits, htarget, hname, hfree,
    ⟨known, left, hnames, henters'⟩, havoid _ _ _ _ hnames henters',
    fun names outer hwalks hne => ?_⟩
  obtain ⟨more, hblocks⟩ := exists_blocks_of_walks hwell hdirectory hslash hlimits hsource hdots
    hdot henters hwalks hne
  exact ⟨last, more, hlt, hblocks⟩

/-- The backup of a directory is the copy of it. -/
theorem exec_backup_of_hasDirectory (hdirectory : before.hasDirectory source = true) :
    (backup mark source).exec before =
      match (copyTree source (backupTarget mark before source)).exec before with
      | (.ok _, after) => (.ok (backupTarget mark before source), after)
      | (.error fault, after) => (.error (copyError fault), after) := by
  have hfile : ¬before.hasFile source = true := by
    intro hfile
    obtain ⟨place, hlookup⟩ := hasDirectory_iff.mp hdirectory
    obtain ⟨other, content, hother⟩ := hasFile_iff.mp hfile
    rw [hlookup] at hother
    cases hother
  rw [backup, exec_bind_of_ok _ (exec_get before), if_neg hfile, if_pos hdirectory, exec_bind,
    exec_onFault, backupTarget]
  rcases (copyTree source (backupPath mark source (before.freeNumber mark source))).exec before with
    ⟨_ | _, after⟩ <;> rfl

/-- The backup of a directory goes to the first number at which nothing is and is a faithful copy of
the directory, with links followed, while everything else stays as it is. If a link that the walk
meets leads nowhere or to a directory that is being walked, the walk fails, and everything that was
there stays as it is. -/
theorem backup_copies_directory (hwell : before.WellFormed)
    (hdirectory : before.hasDirectory source = true) (hslash : Path.endsInSlash source = false)
    (hdots : (Path.names source).getLast? ≠ some "..") (hmark : '/' ∉ mark.toList)
    (hlink : ∀ place link,
      before.lookup .inspect (backupTarget mark before source) ≠ .ok (.node place (.link link)))
    (havoid : NoLinkTo before (backupTarget mark before source))
    (hlimits : WithinLimits before source)
    (htarget : ∀ names, Met before source names →
      Fits (copyTarget (backupTarget mark before source) names)) :
    let target := backupTarget mark before source
    (∃ number, target = backupPath mark source number ∧
        before.hasPath (backupPath mark source number) = false ∧
        ∀ smaller < number, before.hasPath (backupPath mark source smaller) = true) ∧
      ((∀ names, ¬Blocks before source names) →
        ∃ after top, (backup mark source).exec before = (.ok target, after) ∧
          before.node? top = none ∧
          after.lookup .reach target = .ok (.node top .directory) ∧
          (∀ names, (∀ name ∈ names, Path.IsName name) →
            after.node? (top ++ names) = before.copied source names) ∧
          ∀ place, ¬top <+: place → after.node? place = before.node? place) ∧
      ((Path.names source).getLast? ≠ some "." → (∃ names, Blocks before source names) →
        ∃ fault after, (backup mark source).exec before = (.error (.walk fault), after) ∧
          ∀ place node, before.node? place = some node → after.node? place = some node) := by
  intro target
  refine ⟨⟨_, rfl, hasPath_backupTarget mark before source, fun _ => hasPath_of_lt_freeNumber⟩,
    fun hgoes => ?_, fun hdot hblocks => ?_⟩
  · obtain ⟨directory, name, hcopies⟩ := exists_copies hwell hdirectory hslash hdots hmark hlink
      havoid hlimits htarget (Or.inr hgoes)
    cases hexec : (copyTree source target).exec before with
    | mk answer after =>
      have hends := hcopies.ends_copyTree hexec
      rw [exec_backup_of_hasDirectory hdirectory, hexec]
      cases hends with
      | blocked copying blocks => exact absurd blocks (hgoes _)
      | complete copying there goes =>
        exact ⟨after, directory ++ [name], rfl, hcopies.free,
          hcopies.lookup_target copying (there [] (List.forall_mem_nil _)), there,
          copying.outside⟩
  · obtain ⟨directory, name, hcopies⟩ := exists_copies hwell hdirectory hslash hdots hmark hlink
      havoid hlimits htarget (Or.inl hdot)
    cases hexec : (copyTree source target).exec before with
    | mk answer after =>
      have hends := hcopies.ends_copyTree hexec
      rw [exec_backup_of_hasDirectory hdirectory, hexec]
      cases hends with
      | complete copying there goes =>
        obtain ⟨names, hnames⟩ := hblocks
        exact absurd hnames (goes names)
      | @blocked fault _ _ copying blocks =>
        exact ⟨fault, after, rfl, fun _ _ => (hcopies.extendsBy copying).kept⟩

/-! ### A link that is copied, and one that is not -/

/-- A directory with a link to another one, where there is a file and something special. -/
def linked : FileTree :=
  { entries := [(["s"], .directory), (["s", "l"], .link "../t"), (["t"], .directory),
      (["t", "g"], .file "y".toUTF8), (["t", "p"], .special)] }

theorem walks_linked {names : List String} {place : Place} {outer : List Place}
    (h : Walks linked "s" names place outer) :
    names = [] ∧ place = ["s"] ∧ outer = [] ∨ names = ["l"] ∧ place = ["t"] ∧ outer = [["s"]] := by
  induction h with
  | @start place there =>
    have hstart : linked.lookup .reach "s" = .ok (.node ["s"] .directory) := by decide +kernel
    rw [hstart] at there
    cases there
    exact Or.inl ⟨rfl, rfl, rfl⟩
  | inside around there ih =>
    have hentry := mem_of_node? there (by simp)
    rcases ih with ⟨rfl, rfl, rfl⟩ | ⟨rfl, rfl, rfl⟩ <;> simp [linked] at hentry
  | @through names place outer name target other around there leads new ih =>
    have hentry := mem_of_node? there (by simp)
    rcases ih with ⟨rfl, rfl, rfl⟩ | ⟨rfl, rfl, rfl⟩ <;> simp [linked] at hentry
    obtain ⟨rfl, -⟩ := hentry
    have hlink : linked.lookup .reach (Path.descend "s" ["l"]) = .ok (.node ["t"] .directory) := by
      decide +kernel
    rw [List.nil_append, hlink] at leads
    cases leads
    exact Or.inr ⟨rfl, rfl, rfl⟩

theorem met_linked {names : List String} (h : Met linked "s" names) :
    names ∈ [[], ["l"], ["l", "g"], ["l", "p"]] := by
  cases h with
  | start => decide
  | entry around there =>
    have hentry := mem_of_node? there (by simp)
    rcases walks_linked around with ⟨rfl, rfl, rfl⟩ | ⟨rfl, rfl, rfl⟩ <;>
      simp [linked] at hentry ⊢
    · exact hentry.1
    · exact hentry.imp And.left And.left

theorem not_blocks_linked (names : List String) : ¬Blocks linked "s" names := by
  have hlink : linked.lookup .reach (Path.descend "s" ["l"]) = .ok (.node ["t"] .directory) := by
    decide +kernel
  intro h
  cases h with
  | dangling around there leads =>
    have hentry := mem_of_node? there (by simp)
    rcases walks_linked around with ⟨rfl, rfl, rfl⟩ | ⟨rfl, rfl, rfl⟩ <;> simp [linked] at hentry
    obtain ⟨rfl, -⟩ := hentry
    rw [List.nil_append, hasPath_iff.mpr ⟨_, _, hlink⟩] at leads
    cases leads
  | loop around there leads walked =>
    have hentry := mem_of_node? there (by simp)
    rcases walks_linked around with ⟨rfl, rfl, rfl⟩ | ⟨rfl, rfl, rfl⟩ <;> simp [linked] at hentry
    obtain ⟨rfl, -⟩ := hentry
    rw [List.nil_append, hlink] at leads
    cases leads
    simp at walked

/-- A directory with a link to itself. -/
def looped : FileTree :=
  { entries := [(["s"], .directory), (["s", "l"], .link ".")] }

theorem walks_looped {names : List String} {place : Place} {outer : List Place}
    (h : Walks looped "s" names place outer) : names = [] ∧ place = ["s"] ∧ outer = [] := by
  induction h with
  | start there =>
    have hstart : looped.lookup .reach "s" = .ok (.node ["s"] .directory) := by decide +kernel
    rw [hstart] at there
    cases there
    exact ⟨rfl, rfl, rfl⟩
  | inside around there ih =>
    obtain ⟨rfl, rfl, rfl⟩ := ih
    simpa [looped] using mem_of_node? there (by simp)
  | through around there leads new ih =>
    obtain ⟨rfl, rfl, rfl⟩ := ih
    have hentry := mem_of_node? there (by simp)
    simp [looped] at hentry
    obtain ⟨rfl, -⟩ := hentry
    have hlink : looped.lookup .reach (Path.descend "s" ["l"]) = .ok (.node ["s"] .directory) := by
      decide +kernel
    rw [List.nil_append, hlink] at leads
    cases leads
    simp at new

theorem met_looped {names : List String} (h : Met looped "s" names) : names ∈ [[], ["l"]] := by
  cases h with
  | start => decide
  | entry around there =>
    obtain ⟨rfl, rfl, rfl⟩ := walks_looped around
    have hentry := mem_of_node? there (by simp)
    simp [looped] at hentry ⊢
    exact hentry.1

theorem blocks_looped : Blocks looped "s" ["l"] := by
  have hstart : Walks looped "s" [] ["s"] [] := .start (by decide +kernel)
  have hlink : looped.node? (["s"] ++ ["l"]) = some (.link ".") := by decide +kernel
  have hlookup : looped.lookup .reach (Path.descend "s" ["l"]) = .ok (.node ["s"] .directory) := by
    decide +kernel
  exact .loop hstart hlink hlookup List.mem_cons_self

/-- A link to a directory is copied as a directory, and what is special is left out; a link that
leads back ends the copy. -/
theorem links_copied_or_blocking :
    (∃ after top, (backup "~" "s").exec linked = (.ok "s~0", after) ∧
      after.lookup .reach "s~0" = .ok (.node top .directory) ∧
      after.node? (top ++ ["l"]) = some .directory ∧
      after.node? (top ++ ["l", "g"]) = some (.file "y".toUTF8) ∧
      after.node? (top ++ ["l", "p"]) = none) ∧
    ∃ fault after, (backup "~" "s").exec looped = (.error (.walk fault), after) ∧
      after.node? ["s", "l"] = some (.link ".") := by
  have hmark : '/' ∉ "~".toList := by decide
  have hslash : Path.endsInSlash "s" = false := by decide
  have hlast : (Path.names "s").getLast? = some "s" := by decide +kernel
  have hnames : Path.names "s~0" = [] ++ ["s~0"] := by decide +kernel
  constructor
  · have hdirectory : linked.hasDirectory "s" = true := by decide +kernel
    have htarget : backupTarget "~" linked "s" = "s~0" := by decide +kernel
    have hmissing : linked.lookup .inspect "s~0" = .ok (.missing [] "s~0") := by decide +kernel
    have havoid : linked.NoLinkTo "s~0" := by
      refine noLinkTo_of_not_mem hnames fun place target hentry => ?_
      simp only [linked, List.mem_cons, Prod.mk.injEq, reduceCtorEq, and_false, false_or,
        Node.link.injEq, or_false, List.not_mem_nil] at hentry
      rw [hentry.2]
      decide +kernel
    have hfits : ∀ names ∈ [[], ["l"], ["l", "g"], ["l", "p"]],
        Fits (Path.descend "s" names) ∧ Fits (copyTarget "s~0" names) := by decide +kernel
    rw [← htarget] at hmissing havoid hfits
    obtain ⟨-, hcopied, -⟩ := backup_copies_directory (by decide +kernel) hdirectory hslash
      (by simp [hlast]) hmark (by rw [hmissing]; exact nofun) havoid
      (fun names hmet => (hfits names (met_linked hmet)).1)
      (fun names hmet => (hfits names (met_linked hmet)).2)
    obtain ⟨after, top, hexec, -, hlookup, hthere, -⟩ := hcopied not_blocks_linked
    rw [htarget] at hexec hlookup
    refine ⟨after, top, hexec, hlookup, ?_, ?_, ?_⟩
    · rw [hthere _ (by decide)]
      decide +kernel
    · rw [hthere _ (by decide)]
      decide +kernel
    · rw [hthere _ (by decide)]
      decide +kernel
  · have hdirectory : looped.hasDirectory "s" = true := by decide +kernel
    have htarget : backupTarget "~" looped "s" = "s~0" := by decide +kernel
    have hmissing : looped.lookup .inspect "s~0" = .ok (.missing [] "s~0") := by decide +kernel
    have havoid : looped.NoLinkTo "s~0" := by
      refine noLinkTo_of_not_mem hnames fun place target hentry => ?_
      simp only [looped, List.mem_cons, Prod.mk.injEq, reduceCtorEq, and_false, false_or,
        Node.link.injEq, or_false, List.not_mem_nil] at hentry
      rw [hentry.2]
      decide +kernel
    have hfits : ∀ names ∈ [[], ["l"]],
        Fits (Path.descend "s" names) ∧ Fits (copyTarget "s~0" names) := by decide +kernel
    rw [← htarget] at hmissing havoid hfits
    obtain ⟨-, -, hblocked⟩ := backup_copies_directory (by decide +kernel) hdirectory hslash
      (by simp [hlast]) hmark (by rw [hmissing]; exact nofun) havoid
      (fun names hmet => (hfits names (met_looped hmet)).1)
      (fun names hmet => (hfits names (met_looped hmet)).2)
    obtain ⟨fault, after, hexec, hkept⟩ := hblocked (by simp [hlast]) ⟨_, blocks_looped⟩
    exact ⟨fault, after, hexec, hkept _ _ (by decide +kernel)⟩

/-! ### Copies that are not made -/

/-- The names along the path of a copy that is made are not too long. -/
theorem short_of_exec_copyTree (hwell : before.WellFormed) (hfree : before.LinkFree)
    (hdirectory : before.hasDirectory source = true) (hmark : '/' ∉ mark.toList)
    (hexec : (copyTree source (backupTarget mark before source)).exec before = (.ok (), after)) :
    ∀ name ∈ Path.names (backupTarget mark before source), name.utf8ByteSize ≤ nameLimit := by
  obtain ⟨place, hstart⟩ := hasDirectory_iff.mp hdirectory
  obtain ⟨seen, hentry, hcopy⟩ := exec_copyTree hstart
  obtain ⟨depth, hdepth⟩ : ∃ depth, pathLimit = depth + 1 := ⟨4095, rfl⟩
  rw [hcopy, hdepth, exec_copyEntry_directory hentry rfl hstart] at hexec
  obtain ⟨_, made, hmade, -⟩ := exec_bind_eq_ok hexec
  have hmake := exec_eq_ok_of_onFault hmade
  obtain ⟨top, -, hreceives⟩ := receives_of_makeDirectories hwell hdirectory
    (Path.climbs_of_no_slash hmark) (hasPath_backupTarget mark before source) hmake
  obtain ⟨left, henters⟩ := hreceives.enters
  have hfree' := hfree.evolves ((evolves_makeDirectories _).of_exec hmake)
  exact hfree'.short_of_leads (henters.leads false)

/-- A directory in another one. -/
def nested : FileTree := { entries := [(["w"], .directory), (["w", "a"], .directory)] }

/-- A directory with one name in it is copied only if what is at that name is. -/
theorem exec_copyEntry_only {now made : FileTree} {target path part : String} {depth : Nat}
    {ancestors : List Ancestor} {names : List String} {place : Place} {node child : Node}
    {entry : Entry} (hentry : now.entryAt ancestors "" path node = .ok entry)
    (hnode : entry.node = .directory)
    (hlookup : now.lookup .reach path = .ok (.node place .directory))
    (hmake : (makeDirectories (copyTarget target names)).exec now = (.ok (), made))
    (hnames : now.namesIn place = [part]) (hchild : now.node? (place ++ [part]) = some child)
    (hexec : (copyEntry target (depth + 1) ancestors names path node).exec now = (.ok (), after)) :
    (copyEntry target depth ({ place, path } :: ancestors) (names ++ [part]) (Path.join path part)
      child).exec made = (.ok (), after) := by
  rw [exec_copyEntry_directory hentry hnode hlookup, exec_bind, exec_onFault, hmake, hnames,
    List.map_singleton, hchild] at hexec
  obtain ⟨_, middle, hmiddle, hend⟩ := exec_bind_eq_ok hexec
  cases hend
  exact hmiddle

/-- The backup of a directory above it is copied into itself. -/
theorem nested_copied_again
    (hexec : (copyTree "w/a/.." "w/a/..~0").exec nested = (.ok (), after)) :
    after.node? ["w", "a", "..~0", "a", "..~0"] = some .directory := by
  have hstart : nested.lookup .reach "w/a/.." = .ok (.node ["w"] .directory) := by decide +kernel
  obtain ⟨seen, hentry, hcopy⟩ := exec_copyTree hstart
  obtain ⟨depth, hdepth⟩ : ∃ depth, pathLimit = depth + 3 := ⟨4093, rfl⟩
  rw [hcopy, hdepth] at hexec
  generalize hone : nested.put ["w", "a", "..~0"] .directory = one
  generalize htwo : one.put ["w", "a", "..~0", "a"] .directory = two
  have hmake : (makeDirectories (copyTarget "w/a/..~0" [])).exec nested = (.ok (), one) := by
    subst hone
    decide +kernel
  have hmake' : (makeDirectories (copyTarget "w/a/..~0" ["a"])).exec one = (.ok (), two) := by
    subst hone htwo
    decide +kernel
  have hinside : one.lookup .reach (Path.join "w/a/.." "a") =
      .ok (.node ["w", "a"] .directory) := by
    subst hone
    decide +kernel
  have hbelow : two.lookup .reach (Path.join (Path.join "w/a/.." "a") "..~0") =
      .ok (.node ["w", "a", "..~0"] .directory) := by
    subst hone htwo
    decide +kernel
  have hlisted : one.namesIn ["w", "a"] = ["..~0"] := by
    subst hone
    exact List.mergeSort_singleton _
  have hchild : one.node? ["w", "a", "..~0"] = some .directory := by
    subst hone
    decide +kernel
  -- The directory `a` is walked after the backup was made in it.
  have hfirst := exec_copyEntry_only hentry rfl hstart hmake
    (List.mergeSort_singleton _ : nested.namesIn ["w"] = ["a"]) rfl hexec
  have hsecond := exec_copyEntry_only rfl rfl hinside hmake' hlisted hchild hfirst
  rw [exec_copyEntry_directory rfl rfl hbelow] at hsecond
  obtain ⟨_, made, hmade, hrest⟩ := exec_bind_eq_ok hsecond
  have hthird : (makeDirectories (copyTarget "w/a/..~0" ["a", "..~0"])).exec two =
      (.ok (), two.put ["w", "a", "..~0", "a", "..~0"] .directory) := by
    subst hone htwo
    decide +kernel
  cases hthird.symm.trans (exec_eq_ok_of_onFault hmade)
  have hevolves : (two.put ["w", "a", "..~0", "a", "..~0"] .directory).Evolves after :=
    Respects.of_exec (Respects.forM fun item _ => evolves_copyEntry _ _ _ _ _ _) hrest
  exact hevolves.grows.directory (node?_put_self (by simp))

/-- A directory with a file in it. -/
def plain : FileTree := { entries := [(["d"], .directory), (["d", "f"], .file "x".toUTF8)] }

/-- A backup is not made if its name is too long; and if the path of a directory leads back from one
below it, then no backup is made that holds the same. -/
theorem backup_not_faithful :
    (plain.WellFormed ∧ plain.LinkFree ∧ plain.hasDirectory "d" = true ∧
      Path.endsInSlash "d" = false ∧ '/' ∉ longMark.toList ∧
      ∀ target after, (backup longMark "d").exec plain ≠ (.ok target, after)) ∧
    nested.WellFormed ∧ nested.LinkFree ∧ nested.hasDirectory "w/a/.." = true ∧
      Path.endsInSlash "w/a/.." = false ∧ '/' ∉ "~".toList ∧
      ∀ target after, (backup "~" "w/a/..").exec nested = (.ok target, after) →
        target = "w/a/..~0" ∧
          after.node? (["w", "a", "..~0"] ++ ["a", "..~0"]) ≠
            nested.copied "w/a/.." ["a", "..~0"] := by
  have hfree : plain.LinkFree := by decide +kernel
  have hplain : plain.hasDirectory "d" = true := by decide +kernel
  have hnested : nested.hasDirectory "w/a/.." = true := by decide +kernel
  refine ⟨⟨by decide +kernel, hfree, hplain, by decide, slash_not_mem_longMark,
      fun target after hexec => ?_⟩,
    by decide +kernel, by decide +kernel, hnested, by decide, by decide,
      fun target after hexec => ?_⟩
  · rw [exec_backup_of_hasDirectory hplain] at hexec
    split at hexec
    · rename_i done middle hcopy
      have hshort := short_of_exec_copyTree (by decide +kernel) hfree hplain slash_not_mem_longMark
        hcopy
      have hsize : ¬longMark.utf8ByteSize < nameLimit := by decide +kernel
      exact hsize (utf8ByteSize_lt_of_short slash_not_mem_longMark hshort)
    · cases hexec
  · have htarget : backupTarget "~" nested "w/a/.." = "w/a/..~0" := by decide +kernel
    have hnone : nested.copied "w/a/.." ["a", "..~0"] = none := by decide +kernel
    rw [exec_backup_of_hasDirectory hnested, htarget] at hexec
    split at hexec
    · rename_i done middle hcopy
      cases hexec
      refine ⟨rfl, ?_⟩
      rw [hnone]
      exact fun h => nomatch h.symm.trans (nested_copied_again hcopy)
    · cases hexec

end Disk

end DocStubs
