import DocStubs.Proofs.Files.Depth
import DocStubs.Proofs.Writing.Numbered

/-!
# What a walk meets

A walk through a directory follows links, so it may come to directories that are not below it and
to one directory on several paths. Here this is said of a tree that stays as it is: `Walks` for the
directories that a walk comes to, with those that it is inside of, `Met` for everything in them, and
`Blocks` for the links that end it.

A walk comes back to a directory that it is inside of only by a link to a directory above it. The
link is met again then, and leads to a directory that is being walked by now. So a walk that comes
back is a walk that ends at a link: `Walks.exists_blocks`.

## Main definitions

* `FileTree.Walks`, `FileTree.Met`, `FileTree.Blocks` — what a walk comes to, meets and ends at
* `FileTree.LinksAvoid` — no link leads through a name in a directory
* `FileTree.copied` — what a copy of a directory has to hold

## Main results

* `FileTree.Walks.exists_blocks` — a walk that comes back to where it started ends at a link
* `FileTree.Walks.exists_blocks_of_holder` — and so does one that comes to what holds that
* `FileTree.Leads.of_later` — what is new under a name changes nothing for paths that avoid it
-/

namespace DocStubs

namespace Path

variable {source : String} {names more : List String}

theorem descend_append (source : String) (names more : List String) :
    descend source (names ++ more) = descend (descend source names) more :=
  List.foldl_append

theorem IsName.endsInSlash_eq_false {name : String} (h : IsName name) :
    endsInSlash name = false := by
  rw [endsInSlash, decide_eq_false_iff_not]
  exact fun hlast => h.no_slash (List.mem_of_getLast? hlast)

theorem endsInSlash_descend (hslash : endsInSlash source = false)
    (hnames : ∀ name ∈ names, IsName name) : endsInSlash (descend source names) = false := by
  induction names generalizing source with
  | nil => exact hslash
  | cons name rest ih =>
    obtain ⟨hname, hrest⟩ := List.forall_mem_cons.mp hnames
    refine ih ?_ hrest
    rw [endsInSlash_join _ hname.ne_empty, hname.endsInSlash_eq_false]

/-- The path with given names ends in the last of them. -/
theorem endsInSlash_intercalate (hne : names ≠ []) (hnames : ∀ name ∈ names, IsName name) :
    "/".intercalate names ≠ "" ∧ endsInSlash ("/".intercalate names) = false := by
  induction names with
  | nil => exact absurd rfl hne
  | cons name rest ih =>
    obtain ⟨hname, hrest⟩ := List.forall_mem_cons.mp hnames
    by_cases hnil : rest = []
    · subst hnil
      rw [String.intercalate_singleton]
      exact ⟨hname.ne_empty, hname.endsInSlash_eq_false⟩
    · obtain ⟨hempty, hslash⟩ := ih hnil hrest
      rw [String.intercalate_cons_of_ne_nil hnil, endsInSlash_append _ hempty]
      exact ⟨by simp, hslash⟩

/-- A path that goes on begins as it did. -/
theorem exists_descend_eq_append (hsource : source ≠ "") (hnames : ∀ name ∈ names, IsName name) :
    ∃ ending, descend source names = source ++ ending := by
  induction names generalizing source with
  | nil => exact ⟨"", String.append_empty.symm⟩
  | cons name rest ih =>
    obtain ⟨hname, hrest⟩ := List.forall_mem_cons.mp hnames
    have hjoin : ∃ ending, join source name = source ++ ending := by
      rw [join, hname.isAbsolute_eq_false, Bool.false_or, if_neg (by simpa using hsource)]
      split
      · exact ⟨name, rfl⟩
      · exact ⟨"/" ++ name, String.append_assoc⟩
    obtain ⟨ending, hending⟩ := hjoin
    have hne : join source name ≠ "" := by simp [hending, hsource]
    obtain ⟨ending', hending'⟩ := ih hne hrest
    refine ⟨ending ++ ending', ?_⟩
    rw [descend_cons, hending', hending, String.append_assoc]

end Path

namespace FileTree

/-! ### The walk -/

/-- A walk comes to a directory on some names from its start. The directories around it that it is
inside of are `outer`, the innermost first. -/
inductive Walks (tree : FileTree) (source : String) : List String → Place → List Place → Prop
  | start {place} (there : tree.lookup .reach source = .ok (.node place .directory)) :
      Walks tree source [] place []
  | inside {names place outer name} (around : Walks tree source names place outer)
      (there : tree.node? (place ++ [name]) = some .directory) :
      Walks tree source (names ++ [name]) (place ++ [name]) (place :: outer)
  /-- A link to a directory that the walk is not inside of. -/
  | through {names place outer name target other} (around : Walks tree source names place outer)
      (there : tree.node? (place ++ [name]) = some (.link target))
      (leads : tree.lookup .reach (Path.descend source (names ++ [name])) =
        .ok (.node other .directory))
      (new : other ∉ place :: outer) :
      Walks tree source (names ++ [name]) other (place :: outer)

/-- A walk meets its start and what is in the directories that it comes to. -/
inductive Met (tree : FileTree) (source : String) : List String → Prop
  | start : Met tree source []
  | entry {names place outer name node} (around : Walks tree source names place outer)
      (there : tree.node? (place ++ [name]) = some node) : Met tree source (names ++ [name])

/-- A walk ends at a link that it meets. -/
inductive Blocks (tree : FileTree) (source : String) : List String → Prop
  /-- The link leads nowhere. -/
  | dangling {names place outer name target} (around : Walks tree source names place outer)
      (there : tree.node? (place ++ [name]) = some (.link target))
      (leads : tree.hasPath (Path.descend source (names ++ [name])) = false) :
      Blocks tree source (names ++ [name])
  /-- The link leads to a directory that is being walked. -/
  | loop {names place outer name target other} (around : Walks tree source names place outer)
      (there : tree.node? (place ++ [name]) = some (.link target))
      (leads : tree.lookup .reach (Path.descend source (names ++ [name])) =
        .ok (.node other .directory))
      (walked : other ∈ place :: outer) :
      Blocks tree source (names ++ [name])

variable {tree before now : FileTree} {source : String} {names known rest : List String}
  {place other directory here : Place} {outer outer' : List Place} {name : String} {node : Node}
  {purpose : Purpose} {links left : Nat} {slash : Bool} {found : Found}

/-! ### More links to follow -/

/-- A path leads where it leads also if more links may be followed. -/
theorem Leads.more_links {more : Nat} (h : Leads tree purpose links slash here names found)
    (hmore : links ≤ more) : Leads tree purpose more slash here names found := by
  induction h generalizing more with
  | done => exact .done
  | dot onward ih => exact .dot (ih hmore)
  | dots onward ih => exact .dots (ih hmore)
  | missing ordinary free => exact .missing ordinary free
  | directory ordinary there onward ih => exact .directory ordinary there (ih hmore)
  | link ordinary there stays => exact .link ordinary there stays
  | through ordinary there follows target_ne onward ih =>
    obtain ⟨more, rfl⟩ := Nat.exists_eq_add_of_le' (Nat.lt_of_lt_of_le (Nat.succ_pos _) hmore)
    exact .through ordinary there follows target_ne (ih (Nat.le_of_succ_le_succ hmore))
  | leaf ordinary there not_directory not_link finishes =>
    exact .leaf ordinary there not_directory not_link finishes

/-- Where a path leads does not depend on how many links may be followed, if it leads anywhere. -/
theorem Leads.unique_of_links {more : Nat} {other : Found}
    (h : Leads tree purpose links slash here names found)
    (h' : Leads tree purpose more slash here names other) : found = other :=
  (h.more_links (Nat.le_max_left links more)).unique (h'.more_links (Nat.le_max_right links more))

theorem Enters.more_links {more : Nat} (h : Enters tree links here names place left)
    (hmore : links ≤ more) : ∃ left', Enters tree more here names place left' :=
  ((h.leads false).more_links hmore).enters

/-! ### What a walk is inside of -/

/-- A walk has come into a directory by a plain name or by a link. -/
theorem Walks.last (h : Walks tree source (names ++ [name]) other outer') :
    ∃ place outer, outer' = place :: outer ∧ Walks tree source names place outer ∧
      (tree.node? (place ++ [name]) = some .directory ∧ other = place ++ [name] ∨
        ∃ target, tree.node? (place ++ [name]) = some (.link target) ∧
          tree.lookup .reach (Path.descend source (names ++ [name])) =
            .ok (.node other .directory) ∧ other ∉ place :: outer) := by
  generalize hall : names ++ [name] = all at h
  cases h with
  | start there => simp at hall
  | inside around there =>
    obtain ⟨rfl, rfl⟩ := List.append_singleton_inj.mp hall
    exact ⟨_, _, rfl, around, Or.inl ⟨there, rfl⟩⟩
  | through around there leads new =>
    obtain ⟨rfl, rfl⟩ := List.append_singleton_inj.mp hall
    exact ⟨_, _, rfl, around, Or.inr ⟨_, there, leads, new⟩⟩

theorem Walks.nil (h : Walks tree source [] place outer) :
    tree.lookup .reach source = .ok (.node place .directory) ∧ outer = [] := by
  generalize hall : ([] : List String) = all at h
  cases h with
  | start there => exact ⟨there, rfl⟩
  | inside | through => simp at hall

theorem Walks.unique (h : Walks tree source names place outer)
    (h' : Walks tree source names other outer') : place = other ∧ outer = outer' := by
  induction h generalizing other outer' with
  | start there =>
    obtain ⟨hother, rfl⟩ := h'.nil
    rw [there] at hother
    cases hother
    exact ⟨rfl, rfl⟩
  | inside around there ih =>
    obtain ⟨place', outer', rfl, haround, hlast⟩ := h'.last
    obtain ⟨rfl, rfl⟩ := ih haround
    rcases hlast with ⟨-, rfl⟩ | ⟨target, hlink, -⟩
    · exact ⟨rfl, rfl⟩
    · rw [there] at hlink
      cases hlink
  | through around there leads new ih =>
    obtain ⟨place', outer', rfl, haround, hlast⟩ := h'.last
    obtain ⟨rfl, rfl⟩ := ih haround
    rcases hlast with ⟨hdirectory, -⟩ | ⟨target, -, hleads, -⟩
    · rw [there] at hdirectory
      cases hdirectory
    · rw [leads] at hleads
      cases hleads
      exact ⟨rfl, rfl⟩

theorem Walks.node? (hwell : tree.WellFormed) (h : Walks tree source names place outer) :
    tree.node? place = some .directory := by
  cases h with
  | start there => exact hwell.landed there
  | inside around there => exact there
  | through around there leads new => exact hwell.landed leads

theorem Walks.met (h : Walks tree source names place outer) : Met tree source names := by
  cases h with
  | start there => exact .start
  | inside around there => exact .entry around there
  | through around there leads new => exact .entry around there

theorem Blocks.met (h : Blocks tree source names) : Met tree source names := by
  cases h with
  | dangling around there leads => exact .entry around there
  | loop around there leads walked => exact .entry around there

theorem Met.isName_of_walks (hwell : tree.WellFormed)
    (hnames : ∀ name ∈ names, Path.IsName name)
    (hnode : tree.node? (place ++ [name]) = some node) :
    ∀ other ∈ names ++ [name], Path.IsName other := by
  intro other hother
  rcases List.mem_append.mp hother with hother | hother
  · exact hnames other hother
  · rw [List.mem_singleton.mp hother]
    exact hwell.isName hnode name (by simp)

theorem Walks.isName (hwell : tree.WellFormed) (h : Walks tree source names place outer) :
    ∀ name ∈ names, Path.IsName name := by
  induction h with
  | start there => exact List.forall_mem_nil _
  | inside around there ih => exact Met.isName_of_walks hwell ih there
  | through around there leads new ih => exact Met.isName_of_walks hwell ih there

theorem Met.isName (hwell : tree.WellFormed) (h : Met tree source names) :
    ∀ name ∈ names, Path.IsName name := by
  cases h with
  | start => exact List.forall_mem_nil _
  | entry around there => exact Met.isName_of_walks hwell (around.isName hwell) there

/-- What is met after some names is below a directory that the walk comes to on them. -/
theorem Met.of_append (h : Met tree source (names ++ name :: rest)) :
    ∃ place outer node, Walks tree source names place outer ∧
      tree.node? (place ++ [name]) = some node := by
  induction rest using List.reverseRecOn with
  | nil =>
    generalize hall : names ++ [name] = all at h
    cases h with
    | start => simp at hall
    | entry around there =>
      obtain ⟨rfl, rfl⟩ := List.append_singleton_inj.mp hall
      exact ⟨_, _, _, around, there⟩
  | append_singleton rest last ih =>
    generalize hall : names ++ name :: (rest ++ [last]) = all at h
    cases h with
    | start => simp at hall
    | entry around there =>
      rw [← List.cons_append, ← List.append_assoc] at hall
      obtain ⟨rfl, rfl⟩ := List.append_singleton_inj.mp hall
      exact ih around.met

/-- Where a walk comes to, it is not ended. -/
theorem Walks.not_blocks (h : Walks tree source names place outer) :
    ¬Blocks tree source names := by
  intro hblocks
  cases hblocks with
  | dangling around there leads =>
    obtain ⟨place', outer', rfl, haround, hlast⟩ := h.last
    obtain ⟨rfl, rfl⟩ := around.unique haround
    rcases hlast with ⟨hdirectory, -⟩ | ⟨target, -, hlookup, -⟩
    · rw [there] at hdirectory
      cases hdirectory
    · rw [hasPath_iff.mpr ⟨_, _, hlookup⟩] at leads
      cases leads
  | loop around there leads walked =>
    obtain ⟨place', outer', rfl, haround, hlast⟩ := h.last
    obtain ⟨rfl, rfl⟩ := around.unique haround
    rcases hlast with ⟨hdirectory, -⟩ | ⟨target, -, hlookup, hnew⟩
    · rw [there] at hdirectory
      cases hdirectory
    · rw [leads] at hlookup
      cases hlookup
      exact hnew walked

/-- A walk is always inside of the directory where it started. -/
theorem Walks.start_mem (hstart : tree.lookup .reach source = .ok (.node here .directory))
    (h : Walks tree source names place outer) : here ∈ place :: outer := by
  induction h with
  | start there =>
    rw [hstart] at there
    cases there
    exact List.mem_cons_self
  | inside around there ih => exact List.mem_cons_of_mem _ ih
  | through around there leads new ih => exact List.mem_cons_of_mem _ ih

/-! ### The paths of a walk -/

theorem origin_descend (tree : FileTree) (hnames : ∀ name ∈ names, Path.IsName name) :
    tree.origin (Path.descend source names) = tree.origin source := by
  induction names generalizing source with
  | nil => rfl
  | cons name rest ih =>
    obtain ⟨hname, hrest⟩ := List.forall_mem_cons.mp hnames
    rw [Path.descend_cons, ih hrest, origin_join tree source hname.isAbsolute_eq_false]

/-- Where a path goes on to is a matter of the names that it goes on by. -/
theorem lookup_descend_iff (hslash : Path.endsInSlash source = false)
    (hnames : ∀ name ∈ names, Path.IsName name) :
    tree.lookup .reach (Path.descend source names) = .ok found ↔
      Usable (Path.descend source names) ∧ Leads tree .reach linkLimit false (tree.origin source)
        (Path.names source ++ names) found := by
  rw [lookup_eq_ok_iff, Path.endsInSlash_descend hslash hnames, origin_descend tree hnames,
    Path.names_descend hnames]

/-- What a walk meets keeps to the limits for paths and names. -/
def WithinLimits (tree : FileTree) (source : String) : Prop :=
  ∀ names, Met tree source names → Fits (Path.descend source names)

theorem WithinLimits.short (h : WithinLimits tree source) (hwell : tree.WellFormed)
    (hmet : Met tree source names) : ∀ name ∈ names, name.utf8ByteSize ≤ nameLimit := by
  intro name hname
  refine (h names hmet).names name ?_
  rw [Path.names_descend (hmet.isName hwell)]
  exact List.mem_append_right _ hname

section Walked

variable (hwell : tree.WellFormed) (hlimits : WithinLimits tree source)
include hwell hlimits

/-- A walk comes to a directory that its path leads to. -/
theorem Walks.enters (h : Walks tree source names place outer) :
    ∃ left, Enters tree linkLimit (tree.origin source) (Path.names source ++ names) place left := by
  have hmet := h.met
  induction h with
  | start there =>
    rw [List.append_nil]
    exact (lookup_eq_ok_iff.mp there).2.enters
  | @inside names place outer name around there ih =>
    obtain ⟨left, henters⟩ := ih around.met
    have hname : Path.IsName name := hmet.isName hwell name (by simp)
    have hshort := hlimits.short hwell hmet name (by simp)
    rw [← List.append_assoc]
    refine ⟨left, enters_append_iff.mpr ⟨place, left, henters, ?_⟩⟩
    exact .directory ⟨hname.ne_dot, hname.ne_dots, by simp, hshort⟩ there .done
  | through around there leads new ih =>
    have hnames := hmet.isName hwell
    obtain ⟨left, henters⟩ := (lookup_eq_ok_iff.mp leads).2.enters
    rw [origin_descend tree hnames, Path.names_descend hnames] at henters
    exact ⟨left, henters⟩

variable (hslash : Path.endsInSlash source = false)
include hslash

theorem Walks.lookup (h : Walks tree source names place outer) :
    tree.lookup .reach (Path.descend source names) = .ok (.node place .directory) := by
  obtain ⟨left, henters⟩ := h.enters hwell hlimits
  exact (lookup_descend_iff hslash (h.isName hwell)).mpr
    ⟨(hlimits names h.met).usable, henters.leads false⟩

/-- A name in a directory leads from there where its path leads. -/
theorem Walks.leads_of_lookup (h : Walks tree source names place outer) (hname : Path.IsName name)
    (hlookup : tree.lookup .reach (Path.descend source (names ++ [name])) = .ok found) :
    ∃ left, Leads tree .reach left false place [name] found := by
  obtain ⟨left, henters⟩ := h.enters hwell hlimits
  have hnames := Disk.isName_append (h.isName hwell) hname
  obtain ⟨-, hleads⟩ := (lookup_descend_iff hslash hnames).mp hlookup
  rw [← List.append_assoc, leads_append_iff (by simp)] at hleads
  obtain ⟨place', left', henters', hleads⟩ := hleads
  obtain rfl := henters.unique henters'
  exact ⟨left', hleads⟩

/-- The path of a file leads to it. -/
theorem Walks.lookup_leaf (h : Walks tree source names place outer)
    (there : tree.node? (place ++ [name]) = some node) (hdirectory : node.isDirectory = false)
    (hlink : node.isLink = false) :
    tree.lookup .reach (Path.descend source (names ++ [name])) =
      .ok (.node (place ++ [name]) node) := by
  have hmet : Met tree source (names ++ [name]) := .entry h there
  have hname : Path.IsName name := hmet.isName hwell name (by simp)
  have hshort := hlimits.short hwell hmet name (by simp)
  obtain ⟨left, henters⟩ := h.enters hwell hlimits
  rw [lookup_descend_iff hslash (hmet.isName hwell), ← List.append_assoc,
    leads_append_iff (by simp)]
  refine ⟨(hlimits _ hmet).usable, place, left, henters, ?_⟩
  exact .leaf ⟨hname.ne_dot, hname.ne_dots, by simp, hshort⟩ there hdirectory hlink nofun

/-! ### Walks that come back -/

/-- Names that lead to a directory from where a walk started lead on from there without a link, if
the walk comes back to where it started and does not end after that. All directories on the way are
being walked then, so a link to one of them would end it. -/
theorem Walks.again {base : List String}
    (hbase : Walks tree source base here outer')
    (hstart : tree.lookup .reach source = .ok (.node here .directory))
    (hgoes : ∀ more, ¬Blocks tree source (base ++ more))
    (h : Walks tree source names place outer)
    (hinside : ∀ around ∈ place :: outer, around ∈ here :: outer') :
    place = here ++ names ∧ ∃ outer'', Walks tree source (base ++ names) place outer'' ∧
      ∀ around ∈ here :: outer', around ∈ place :: outer'' := by
  induction h with
  | start there =>
    rw [hstart] at there
    cases there
    refine ⟨(List.append_nil _).symm, outer', ?_, fun _ => id⟩
    rwa [List.append_nil]
  | inside around there ih =>
    obtain ⟨rfl, outer'', hagain, hall⟩ := ih fun _ h => hinside _ (List.mem_cons_of_mem _ h)
    refine ⟨List.append_assoc .., _, ?_, fun _ h => List.mem_cons_of_mem _ (hall _ h)⟩
    rw [← List.append_assoc]
    exact hagain.inside there
  | @through names place outer name target other around there leads new ih =>
    obtain ⟨rfl, outer'', hagain, hall⟩ := ih fun _ h => hinside _ (List.mem_cons_of_mem _ h)
    have hname : Path.IsName name := hwell.isName there name (by simp)
    obtain ⟨left, hleads⟩ := around.leads_of_lookup hwell hlimits hslash hname leads
    exfalso
    refine hgoes (names ++ [name]) ?_
    rw [← List.append_assoc]
    cases hpath : tree.hasPath (Path.descend source (base ++ names ++ [name])) with
    | false => exact .dangling hagain there hpath
    | true =>
      obtain ⟨place', node, hlookup⟩ := hasPath_iff.mp hpath
      obtain ⟨left', hleads'⟩ := hagain.leads_of_lookup hwell hlimits hslash hname hlookup
      cases hleads.unique_of_links hleads'
      exact .loop hagain there hlookup (hall _ (hinside _ List.mem_cons_self))

/-- A walk that comes back to where it started ends at a link after that. -/
theorem Walks.exists_blocks
    (hstart : tree.lookup .reach source = .ok (.node here .directory))
    (h : Walks tree source names here outer) (hnames : names ≠ []) :
    ∃ more, Blocks tree source (names ++ more) := by
  by_contra hgoes
  rw [not_exists] at hgoes
  obtain ⟨hplace, -⟩ := h.again hwell hlimits hslash hstart hgoes h fun _ => id
  exact hnames (List.self_eq_append_right.mp hplace)

/-- A walk that comes to the directory that holds the name of its start ends at a link below that
name. -/
theorem Walks.exists_blocks_of_holder {parents : List String} {last : String}
    (hstart : tree.lookup .reach source = .ok (.node here .directory))
    (hsource : Path.names source = parents ++ [last]) (hlast : Path.IsName last)
    (hholder : Enters tree linkLimit (tree.origin source) parents place left)
    (h : Walks tree source names place outer) :
    ∃ more, Blocks tree source (names ++ last :: more) := by
  have hleads := (lookup_eq_ok_iff.mp hstart).2
  rw [hsource, hslash, leads_append_iff (by simp)] at hleads
  obtain ⟨place', left', henters, hleads⟩ := hleads
  obtain rfl := hholder.unique henters
  cases hleads with
  | dot => exact absurd rfl hlast.ne_dot
  | dots => exact absurd rfl hlast.ne_dots
  | leaf ordinary there not_directory => cases not_directory
  | @through links slash here name target rest found ordinary there follows target_ne onward =>
    -- The link leads to the start of the walk, which is being walked.
    refine ⟨[], ?_⟩
    cases hpath : tree.hasPath (Path.descend source (names ++ [last])) with
    | false => exact .dangling h there hpath
    | true =>
      obtain ⟨place', node, hlookup⟩ := hasPath_iff.mp hpath
      obtain ⟨left', hleads'⟩ := h.leads_of_lookup hwell hlimits hslash hlast hlookup
      cases (Leads.through ordinary there follows target_ne onward).unique_of_links hleads'
      exact .loop h there hlookup (h.start_mem hstart)
  | directory ordinary there onward =>
    -- The walk comes back to its start, which is below the directory that it comes from.
    cases onward
    by_contra hgoes
    rw [not_exists] at hgoes
    obtain ⟨hplace, -⟩ := (h.inside there).again hwell hlimits hslash hstart
      (fun more => by simpa using hgoes more) h (fun _ => List.mem_cons_of_mem _)
    have hlength := congrArg List.length hplace
    simp at hlength

end Walked

/-! ### What a copy has to hold -/

/-- What a copy of a directory has to hold below it: the directories and files that are there,
seen through links. -/
def copied (tree : FileTree) (source : String) (names : List String) : Option Node :=
  (tree.nodeAt (Path.descend source names)).toOption.filter fun node =>
    node.isFile || node.isDirectory

theorem copied_of_lookup
    (h : tree.lookup .reach (Path.descend source names) = .ok (.node place node)) :
    tree.copied source names = (some node).filter fun node => node.isFile || node.isDirectory := by
  rw [copied, nodeAt_eq_ok_iff.mpr ⟨place, h⟩]
  rfl

theorem copied_of_not_hasPath (h : tree.hasPath (Path.descend source names) = false) :
    tree.copied source names = none := by
  rw [hasPath] at h
  rw [copied]
  cases hnode : tree.nodeAt (Path.descend source names) with
  | error fault => rfl
  | ok node =>
    rw [hnode] at h
    cases h

theorem usable_of_descend (hsource : source ≠ "")
    (hnames : ∀ other ∈ names ++ rest, Path.IsName other)
    (h : Usable (Path.descend source (names ++ rest))) : Usable (Path.descend source names) := by
  obtain ⟨hbefore, hafter⟩ := List.forall_mem_append.mp hnames
  obtain ⟨ending, hending⟩ := Path.exists_descend_eq_append hsource hbefore
  have hne : Path.descend source names ≠ "" := by simp [hending, hsource]
  obtain ⟨ending', hending'⟩ := Path.exists_descend_eq_append hne hafter
  rw [Path.descend_append, hending'] at h
  exact Disk.usable_of_append h hne

/-- Nothing is at a name that no directory holds, nor below it. -/
theorem copied_append_eq_none (hsource : source ≠ "") (hslash : Path.endsInSlash source = false)
    (hnames : ∀ other ∈ names ++ name :: rest, Path.IsName other)
    (h : ∀ place, tree.lookup .reach (Path.descend source names) = .ok (.node place .directory) →
      tree.node? (place ++ [name]) = none) :
    tree.copied source (names ++ name :: rest) = none := by
  refine copied_of_not_hasPath (Bool.eq_false_iff.mpr fun hpath => ?_)
  obtain ⟨place, node, hlookup⟩ := hasPath_iff.mp hpath
  obtain ⟨husable, hleads⟩ := (lookup_descend_iff hslash hnames).mp hlookup
  rw [← List.append_assoc, leads_append_iff (by simp)] at hleads
  obtain ⟨place', left, henters, hleads⟩ := hleads
  have hnone : tree.node? (place' ++ [name]) = none :=
    h place' ((lookup_descend_iff hslash (List.forall_mem_append.mp hnames).1).mpr
      ⟨usable_of_descend hsource hnames husable, henters.leads false⟩)
  have hname : Path.IsName name := hnames name (by simp)
  have hsome := hleads.isSome_node? hname.ne_dot hname.ne_dots
  rw [hnone] at hsome
  cases hsome

/-! ### Names that are new -/

/-- No link leads through a name in a directory, nor to it. -/
def LinksAvoid (tree : FileTree) (directory : Place) (name : String) : Prop :=
  ∀ here link target known rest left, tree.node? (here ++ [link]) = some (.link target) →
    Path.names target = known ++ name :: rest →
      ¬Enters tree linkLimit (if Path.isAbsolute target then [] else here) known directory left

/-- What is new at a name and below it changes nothing for paths that do not lead through it. -/
theorem Leads.of_later (hsame : ∀ place, ¬directory ++ [name] <+: place →
      now.node? place = before.node? place)
    (havoid : LinksAvoid before directory name)
    (h : Leads now purpose links slash here names found) (hlinks : links ≤ linkLimit)
    (hhere : ¬directory ++ [name] <+: here)
    (hnames : ∀ known rest left, names = known ++ name :: rest →
      ¬Enters before links here known directory left) :
    Leads before purpose links slash here names found := by
  -- The next name is not the new one, so what is there was there.
  have hnext {links : Nat} {here : Place} {first : String} {rest : List String}
      (hhere : ¬directory ++ [name] <+: here)
      (hnames : ∀ known rest' left, first :: rest = known ++ name :: rest' →
        ¬Enters before links here known directory left) :
      ¬directory ++ [name] <+: here ++ [first] := by
    intro hbelow
    rcases List.prefix_concat_iff.mp hbelow with heq | hbelow
    · obtain ⟨rfl, rfl⟩ := List.append_singleton_inj.mp heq
      exact hnames [] rest links rfl .done
    · exact hhere hbelow
  induction h with
  | done => exact .done
  | dot onward ih =>
    refine .dot (ih hlinks hhere fun known rest left heq henters => ?_)
    exact hnames ("." :: known) rest left (by rw [heq]; rfl) (.dot henters)
  | dots onward ih =>
    refine .dots (ih hlinks (fun hbelow => hhere (hbelow.trans (List.dropLast_prefix _)))
      fun known rest left heq henters => ?_)
    exact hnames (".." :: known) rest left (by rw [heq]; rfl) (.dots henters)
  | missing ordinary free => exact .missing ordinary (hsame _ (hnext hhere hnames) ▸ free)
  | directory ordinary there onward ih =>
    have hthere := hnext hhere hnames
    rw [hsame _ hthere] at there
    refine .directory ordinary there (ih hlinks hthere fun known rest left heq henters => ?_)
    exact hnames (_ :: known) rest left (by rw [heq]; rfl)
      (.directory (ordinary.toReach _) there henters)
  | link ordinary there stays => exact .link ordinary (hsame _ (hnext hhere hnames) ▸ there) stays
  | @through links slash here first target rest found ordinary there follows target_ne onward ih =>
    rw [hsame _ (hnext hhere hnames)] at there
    refine .through ordinary there follows target_ne (ih (Nat.le_of_succ_le hlinks) ?_ ?_)
    · split
      · exact fun hbelow => by simpa using List.prefix_nil.mp hbelow
      · exact hhere
    · intro known rest' left heq henters
      rcases List.append_eq_append_iff.mp heq with ⟨more, rfl, hmore⟩ | ⟨more, htarget, hmore⟩
      · exact hnames (first :: more) rest' left (by rw [hmore]; rfl)
          (.through (ordinary.toReach _) there target_ne henters)
      cases more with
      | nil =>
        rw [List.append_nil] at htarget
        refine hnames [first] rest' left (by rw [hmore]; rfl)
          (.through (ordinary.toReach _) there target_ne ?_)
        rwa [List.append_nil, htarget]
      | cons second more =>
        obtain ⟨rfl, -⟩ := List.cons.inj hmore
        obtain ⟨left', henters'⟩ := henters.more_links (Nat.le_of_succ_le hlinks)
        exact havoid here first target known more left' there htarget henters'
  | leaf ordinary there not_directory not_link finishes =>
    exact .leaf ordinary (hsame _ (hnext hhere hnames) ▸ there) not_directory not_link finishes

/-- Everything that a walk meets is there to be looked at. -/
theorem Met.leads_inspect (hwell : tree.WellFormed) (hlimits : WithinLimits tree source)
    (hslash : Path.endsInSlash source = false) (hsource : tree.hasDirectory source = true)
    (h : Met tree source names) :
    ∃ place node, Leads tree .inspect linkLimit false (tree.origin source)
      (Path.names source ++ names) (.node place node) := by
  have hmet := h
  cases h with
  | start =>
    obtain ⟨place, hlookup⟩ := hasDirectory_iff.mp hsource
    obtain ⟨other, seen, hleads, -⟩ := (lookup_eq_ok_iff.mp hlookup).2.inspect_of_reach
    rw [hslash] at hleads
    rw [List.append_nil]
    exact ⟨other, seen, hleads⟩
  | @entry names place outer name node around there =>
    have hname : Path.IsName name := hmet.isName hwell name (by simp)
    have hshort := hlimits.short hwell hmet name (by simp)
    have hordinary : Ordinary .inspect false name [] :=
      ⟨hname.ne_dot, hname.ne_dots, by simp, hshort⟩
    obtain ⟨left, henters⟩ := around.enters hwell hlimits
    refine ⟨place ++ [name], node, ?_⟩
    rw [← List.append_assoc, leads_append_iff (by simp)]
    refine ⟨place, left, henters, ?_⟩
    cases node with
    | directory => exact .directory hordinary there .done
    | link target => exact .link hordinary there rfl
    | file content => exact .leaf hordinary there rfl rfl nofun
    | special => exact .leaf hordinary there rfl rfl nofun

/-- What a walk meets, it does not meet through a name that is free. -/
theorem Met.not_enters (hwell : tree.WellFormed) (hlimits : WithinLimits tree source)
    (hslash : Path.endsInSlash source = false) (hsource : tree.hasDirectory source = true)
    (h : Met tree source names) (hname : Path.IsName name)
    (hfree : tree.node? (directory ++ [name]) = none)
    (hnames : Path.names source ++ names = known ++ name :: rest) :
    ¬Enters tree linkLimit (tree.origin source) known directory left := by
  intro henters
  obtain ⟨place, node, hleads⟩ := h.leads_inspect hwell hlimits hslash hsource
  rw [hnames, leads_append_iff (by simp)] at hleads
  obtain ⟨place', left', henters', hleads⟩ := hleads
  obtain rfl := henters.unique henters'
  have hsome := hleads.isSome_node? hname.ne_dot hname.ne_dots
  rw [hfree] at hsome
  cases hsome

end FileTree

end DocStubs
