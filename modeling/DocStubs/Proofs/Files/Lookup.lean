import DocStubs.Files.Lookup
import DocStubs.Proofs.Files.Tree

/-!
# Where paths lead

`FileTree.follow` is a recursion inside a recursion, over the names of a path and over the links
that may still be followed. Here the same is said by a relation, `Leads`, with one rule for each
thing that can be at a name; every fact about paths is an induction on it.

A path to something leads through its first names to a directory and from there on. `Enters` is
the relation for such a beginning of a path: all its names have to lead to directories, whatever
the whole path is looked up for.

## Main definitions

* `FileTree.Leads`, `FileTree.Enters` — where names lead from a directory

## Main results

* `FileTree.follow_eq_ok_iff` — the relation says what `follow` computes
* `FileTree.leads_append_iff` — a path leads through its beginning
* `FileTree.Leads.grows` — a path leads where it led after a tree has grown
* `FileTree.Leads.reach_of_write`, `FileTree.Leads.write_of_reach` — looking up and writing agree
* `FileTree.Leads.landed` — what is where a path leads
-/

namespace DocStubs

/-- The place that a path leads to, also if nothing is there. -/
def Found.place : Found → Place
  | .node place _ => place
  | .missing directory name => directory ++ [name]

namespace FileTree

/-! ### The relation -/

/-- A name at which a path neither stays nor turns back, and does not fail before it looks what is
there. -/
structure Ordinary (purpose : Purpose) (slash : Bool) (name : String) (rest : List String) :
    Prop where
  ne_dot : name ≠ "."
  ne_dots : name ≠ ".."
  writable : ¬(rest = [] ∧ slash = true ∧ purpose = .write)
  short : name.utf8ByteSize ≤ nameLimit

/-- Where names lead from a directory. -/
inductive Leads (tree : FileTree) (purpose : Purpose) :
    Nat → Bool → Place → List String → Found → Prop
  | done {links slash here} : Leads tree purpose links slash here [] (.node here .directory)
  | dot {links slash here rest found} (onward : Leads tree purpose links slash here rest found) :
      Leads tree purpose links slash here ("." :: rest) found
  | dots {links slash here rest found}
      (onward : Leads tree purpose links slash here.dropLast rest found) :
      Leads tree purpose links slash here (".." :: rest) found
  | missing {links slash here name} (ordinary : Ordinary purpose slash name [])
      (free : tree.node? (here ++ [name]) = none) :
      Leads tree purpose links slash here [name] (.missing here name)
  | directory {links slash here name rest found} (ordinary : Ordinary purpose slash name rest)
      (there : tree.node? (here ++ [name]) = some .directory)
      (onward : Leads tree purpose links slash (here ++ [name]) rest found) :
      Leads tree purpose links slash here (name :: rest) found
  /-- A link at the end that is not followed. -/
  | link {links slash here name target} (ordinary : Ordinary purpose slash name [])
      (there : tree.node? (here ++ [name]) = some (.link target))
      (stays : followsLast purpose slash = false) :
      Leads tree purpose links slash here [name] (.node (here ++ [name]) (.link target))
  /-- A link that is followed. -/
  | through {links slash here name target rest found} (ordinary : Ordinary purpose slash name rest)
      (there : tree.node? (here ++ [name]) = some (.link target))
      (follows : rest = [] → followsLast purpose slash = true) (target_ne : target ≠ "")
      (onward : Leads tree purpose links (slash || (rest.isEmpty && Path.endsInSlash target))
        (if Path.isAbsolute target then [] else here) (Path.names target ++ rest) found) :
      Leads tree purpose (links + 1) slash here (name :: rest) found
  /-- A file or something special at the end. -/
  | leaf {links slash here name node} (ordinary : Ordinary purpose slash name [])
      (there : tree.node? (here ++ [name]) = some node) (not_directory : node.isDirectory = false)
      (not_link : node.isLink = false) (finishes : slash = true → purpose = .make) :
      Leads tree purpose links slash here [name] (.node (here ++ [name]) node)

/-- Which directory names lead to from a directory, and how many links may still be followed
there. -/
inductive Enters (tree : FileTree) : Nat → Place → List String → Place → Nat → Prop
  | done {links : Nat} {here : Place} : Enters tree links here [] here links
  | dot {links here rest place left} (onward : Enters tree links here rest place left) :
      Enters tree links here ("." :: rest) place left
  | dots {links here rest place left} (onward : Enters tree links here.dropLast rest place left) :
      Enters tree links here (".." :: rest) place left
  | directory {links here name rest place left} (ordinary : Ordinary .reach false name rest)
      (there : tree.node? (here ++ [name]) = some .directory)
      (onward : Enters tree links (here ++ [name]) rest place left) :
      Enters tree links here (name :: rest) place left
  | through {links here name target rest place left} (ordinary : Ordinary .reach false name rest)
      (there : tree.node? (here ++ [name]) = some (.link target)) (target_ne : target ≠ "")
      (onward : Enters tree links (if Path.isAbsolute target then [] else here)
        (Path.names target ++ rest) place left) :
      Enters tree (links + 1) here (name :: rest) place left

variable {tree before after : FileTree} {purpose : Purpose} {links : Nat} {slash : Bool}
  {here place : Place} {name target : String} {names rest : List String} {found : Found}
  {node : Node}

/-! ### One name after another -/

/-- Goes on from a link. -/
def followLink (tree : FileTree) (purpose : Purpose) (slash : Bool) (here : Place)
    (target : String) (rest : List String) : Nat → Except FileFault Found
  | 0 => .error .tooManyLinks
  | links + 1 =>
    if target.isEmpty then .error .notFound
    else
      tree.follow purpose links (slash || (rest.isEmpty && Path.endsInSlash target))
        (if Path.isAbsolute target then [] else here) (Path.names target ++ rest)

theorem follow_nil : tree.follow purpose links slash here [] = .ok (.node here .directory) := by
  cases links <;> rfl

/-- What happens at the first name of a path. -/
theorem follow_cons :
    tree.follow purpose links slash here (name :: rest) =
      if name = "." then tree.follow purpose links slash here rest
      else if name = ".." then tree.follow purpose links slash here.dropLast rest
      else if rest.isEmpty && slash && purpose = .write then .error .isDirectory
      else if nameLimit < name.utf8ByteSize then .error .nameTooLong
      else
        match tree.node? (here ++ [name]) with
        | none => if rest.isEmpty then .ok (.missing here name) else .error .notFound
        | some .directory => tree.follow purpose links slash (here ++ [name]) rest
        | some (.link target) =>
          if rest.isEmpty && !followsLast purpose slash then
            .ok (.node (here ++ [name]) (.link target))
          else tree.followLink purpose slash here target rest links
        | some node =>
          if rest.isEmpty then finish purpose slash (here ++ [name]) node
          else .error .notDirectory := by
  cases links <;> rfl

theorem finish_eq_ok_iff (h : node.isDirectory = false) :
    finish purpose slash place node = .ok found ↔
      (slash = true → purpose = .make) ∧ found = .node place node := by
  rw [finish]
  rw [h]
  cases slash <;> by_cases hp : purpose = .make <;> simp [hp, eq_comm]

theorem ordinary_of_not (hdot : ¬name = ".") (hdots : ¬name = "..")
    (hwrite : ¬(rest.isEmpty && slash && decide (purpose = .write)) = true)
    (hlimit : ¬nameLimit < name.utf8ByteSize) : Ordinary purpose slash name rest :=
  ⟨hdot, hdots, by simpa using hwrite, Nat.le_of_not_lt hlimit⟩

/-- At a name that is looked at, only what is there counts. -/
theorem follow_cons_of_ordinary (h : Ordinary purpose slash name rest) :
    tree.follow purpose links slash here (name :: rest) =
      match tree.node? (here ++ [name]) with
      | none => if rest.isEmpty then .ok (.missing here name) else .error .notFound
      | some .directory => tree.follow purpose links slash (here ++ [name]) rest
      | some (.link target) =>
        if rest.isEmpty && !followsLast purpose slash then
          .ok (.node (here ++ [name]) (.link target))
        else tree.followLink purpose slash here target rest links
      | some node =>
        if rest.isEmpty then finish purpose slash (here ++ [name]) node
        else .error .notDirectory := by
  have hwrite : ¬(rest.isEmpty && slash && decide (purpose = .write)) = true := by
    simpa using h.writable
  rw [follow_cons, if_neg h.ne_dot, if_neg h.ne_dots, if_neg hwrite,
    if_neg (Nat.not_lt.mpr h.short)]

/-- One name of a path, given what is said of the names after it and of links. -/
theorem leads_of_follow_cons
    (hnames : ∀ here, tree.follow purpose links slash here rest = .ok found →
      Leads tree purpose links slash here rest found)
    (hlink : ∀ target, tree.followLink purpose slash here target rest links = .ok found →
      ∃ fewer, links = fewer + 1 ∧ target ≠ "" ∧
        Leads tree purpose fewer (slash || (rest.isEmpty && Path.endsInSlash target))
          (if Path.isAbsolute target then [] else here) (Path.names target ++ rest) found)
    (h : tree.follow purpose links slash here (name :: rest) = .ok found) :
    Leads tree purpose links slash here (name :: rest) found := by
  rw [follow_cons] at h
  split at h
  · rename_i hname
    subst hname
    exact .dot (hnames _ h)
  split at h
  · rename_i hname
    subst hname
    exact .dots (hnames _ h)
  split at h
  · cases h
  split at h
  · cases h
  rename_i hdot hdots hwrite hlimit
  have hordinary : Ordinary purpose slash name rest := ordinary_of_not hdot hdots hwrite hlimit
  cases hnode : tree.node? (here ++ [name]) with
  | none =>
    simp only [hnode] at h
    split at h
    · rename_i hrest
      obtain rfl := List.isEmpty_iff.mp hrest
      cases h
      exact .missing hordinary hnode
    · cases h
  | some node =>
    cases node with
    | directory =>
      simp only [hnode] at h
      exact .directory hordinary hnode (hnames _ h)
    | link target =>
      simp only [hnode] at h
      split at h
      · rename_i hrest
        simp only [Bool.and_eq_true, List.isEmpty_iff, Bool.not_eq_eq_eq_not, Bool.not_true]
          at hrest
        obtain ⟨rfl, hstays⟩ := hrest
        cases h
        exact .link hordinary hnode hstays
      · rename_i hrest
        obtain ⟨fewer, rfl, htarget, honward⟩ := hlink target h
        exact .through hordinary hnode (by simpa using hrest) htarget honward
    | file content =>
      simp only [hnode] at h
      split at h
      · rename_i hrest
        obtain rfl := List.isEmpty_iff.mp hrest
        obtain ⟨hfinish, rfl⟩ := (finish_eq_ok_iff rfl).mp h
        exact .leaf hordinary hnode rfl rfl hfinish
      · cases h
    | special =>
      simp only [hnode] at h
      split at h
      · rename_i hrest
        obtain rfl := List.isEmpty_iff.mp hrest
        obtain ⟨hfinish, rfl⟩ := (finish_eq_ok_iff rfl).mp h
        exact .leaf hordinary hnode rfl rfl hfinish
      · cases h

theorem leads_of_follow (h : tree.follow purpose links slash here names = .ok found) :
    Leads tree purpose links slash here names found := by
  -- Links go down at a link, names at anything else, so the inductions are nested.
  induction links generalizing slash here names with
  | zero =>
    induction names generalizing here with
    | nil =>
      rw [follow_nil] at h
      cases h
      exact .done
    | cons name rest ih => exact leads_of_follow_cons (fun _ => ih) (fun _ hlink => nomatch hlink) h
  | succ links ihLinks =>
    induction names generalizing here with
    | nil =>
      rw [follow_nil] at h
      cases h
      exact .done
    | cons name rest ih =>
      refine leads_of_follow_cons (fun _ => ih) (fun target hlink => ?_) h
      rw [followLink] at hlink
      split at hlink
      · cases hlink
      · rename_i htarget
        exact ⟨links, rfl, by simpa using htarget, ihLinks hlink⟩

theorem follow_of_leads (h : Leads tree purpose links slash here names found) :
    tree.follow purpose links slash here names = .ok found := by
  induction h with
  | done => exact follow_nil
  | dot onward ih => rw [follow_cons, if_pos rfl, ih]
  | dots onward ih => rw [follow_cons, if_neg (by decide), if_pos rfl, ih]
  | missing ordinary free =>
    rw [follow_cons_of_ordinary ordinary, free]
    rfl
  | directory ordinary there onward ih =>
    rw [follow_cons_of_ordinary ordinary, there]
    exact ih
  | link ordinary there stays =>
    rw [follow_cons_of_ordinary ordinary, there]
    simp [stays]
  | @through links slash here name target rest found ordinary there follows target_ne onward ih =>
    rw [follow_cons_of_ordinary ordinary, there]
    have hfollows : ¬(rest.isEmpty && !followsLast purpose slash) = true := by
      simpa using follows
    simp only [if_neg hfollows, followLink]
    rw [if_neg (by simpa using target_ne)]
    exact ih
  | @leaf links slash here name node ordinary there not_directory not_link finishes =>
    rw [follow_cons_of_ordinary ordinary, there]
    have hfinish : finish purpose slash (here ++ [name]) node = .ok (.node (here ++ [name]) node) :=
      (finish_eq_ok_iff not_directory).mpr ⟨finishes, rfl⟩
    cases node with
    | directory => cases not_directory
    | link target => cases not_link
    | file content => exact hfinish
    | special => exact hfinish

/-- The relation says what following names computes. -/
theorem follow_eq_ok_iff :
    tree.follow purpose links slash here names = .ok found ↔
      Leads tree purpose links slash here names found :=
  ⟨leads_of_follow, follow_of_leads⟩

theorem Leads.unique {other : Found} (h : Leads tree purpose links slash here names found)
    (h' : Leads tree purpose links slash here names other) : found = other :=
  Except.ok.inj ((follow_of_leads h).symm.trans (follow_of_leads h'))

/-! ### Beginnings of paths -/

/-- Whether a name is looked at depends on what comes after it only where a path is written that
ends in a slash. -/
theorem Ordinary.change {purpose' : Purpose} {slash' : Bool} {rest' : List String}
    (h : Ordinary purpose slash name rest)
    (hwrite : ¬(rest' = [] ∧ slash' = true ∧ purpose' = .write)) :
    Ordinary purpose' slash' name rest' :=
  ⟨h.ne_dot, h.ne_dots, hwrite, h.short⟩

theorem Ordinary.toReach (h : Ordinary purpose slash name rest) (rest' : List String) :
    Ordinary .reach false name rest' :=
  h.change (by simp)

/-- A path leads through its beginning to a directory and from there on. -/
theorem leads_append_iff (hrest : rest ≠ []) :
    Leads tree purpose links slash here (names ++ rest) found ↔
      ∃ place left, Enters tree links here names place left ∧
        Leads tree purpose left slash place rest found := by
  constructor
  · intro h
    generalize hall : names ++ rest = all at h
    induction h generalizing names with
    | done => exact absurd (List.append_eq_nil_iff.mp hall).2 hrest
    | dot onward ih =>
      rcases List.append_eq_cons_iff.mp hall with ⟨rfl, rfl⟩ | ⟨names, rfl, rfl⟩
      · exact ⟨_, _, .done, .dot onward⟩
      · obtain ⟨place, left, henters, hleads⟩ := ih rfl
        exact ⟨place, left, .dot henters, hleads⟩
    | dots onward ih =>
      rcases List.append_eq_cons_iff.mp hall with ⟨rfl, rfl⟩ | ⟨names, rfl, rfl⟩
      · exact ⟨_, _, .done, .dots onward⟩
      · obtain ⟨place, left, henters, hleads⟩ := ih rfl
        exact ⟨place, left, .dots henters, hleads⟩
    | missing ordinary free =>
      rcases List.append_eq_cons_iff.mp hall with ⟨rfl, rfl⟩ | ⟨names, rfl, hnil⟩
      · exact ⟨_, _, .done, .missing ordinary free⟩
      · exact absurd (List.append_eq_nil_iff.mp hnil.symm).2 hrest
    | directory ordinary there onward ih =>
      rcases List.append_eq_cons_iff.mp hall with ⟨rfl, rfl⟩ | ⟨names, rfl, rfl⟩
      · exact ⟨_, _, .done, .directory ordinary there onward⟩
      · obtain ⟨place, left, henters, hleads⟩ := ih rfl
        exact ⟨place, left, .directory (ordinary.toReach _) there henters, hleads⟩
    | link ordinary there stays =>
      rcases List.append_eq_cons_iff.mp hall with ⟨rfl, rfl⟩ | ⟨names, rfl, hnil⟩
      · exact ⟨_, _, .done, .link ordinary there stays⟩
      · exact absurd (List.append_eq_nil_iff.mp hnil.symm).2 hrest
    | through ordinary there follows target_ne onward ih =>
      rcases List.append_eq_cons_iff.mp hall with ⟨rfl, rfl⟩ | ⟨names, rfl, rfl⟩
      · exact ⟨_, _, .done, .through ordinary there follows target_ne onward⟩
      · obtain ⟨place, left, henters, hleads⟩ := ih (List.append_assoc _ _ _)
        have hslash : (names ++ rest).isEmpty = false := by simp [hrest]
        rw [hslash, Bool.false_and, Bool.or_false] at hleads
        exact ⟨place, left, .through (ordinary.toReach _) there target_ne henters, hleads⟩
    | leaf ordinary there not_directory not_link finishes =>
      rcases List.append_eq_cons_iff.mp hall with ⟨rfl, rfl⟩ | ⟨names, rfl, hnil⟩
      · exact ⟨_, _, .done, .leaf ordinary there not_directory not_link finishes⟩
      · exact absurd (List.append_eq_nil_iff.mp hnil.symm).2 hrest
  · rintro ⟨place, left, henters, hleads⟩
    have hwrite : ∀ names : List String, ¬(names ++ rest = [] ∧ slash = true ∧ purpose = .write) :=
      fun names hnil => hrest (List.append_eq_nil_iff.mp hnil.1).2
    induction henters with
    | done => exact hleads
    | dot onward ih => exact .dot (ih hleads)
    | dots onward ih => exact .dots (ih hleads)
    | directory ordinary there onward ih =>
      exact .directory (ordinary.change (hwrite _)) there (ih hleads)
    | @through links here name target names place left ordinary there target_ne onward ih =>
      have hempty : (names ++ rest).isEmpty = false := by simp [hrest]
      rw [List.cons_append]
      refine .through (ordinary.change (hwrite _)) there (fun hnil => ?_) target_ne ?_
      · exact absurd (List.append_eq_nil_iff.mp hnil).2 hrest
      · rw [hempty, Bool.false_and, Bool.or_false, ← List.append_assoc]
        exact ih hleads

/-- The beginning of a path leads where the path leads that ends there. -/
theorem Enters.leads (h : Enters tree links here names place left) (slash : Bool) :
    Leads tree .reach links slash here names (.node place .directory) := by
  induction h generalizing slash with
  | done => exact .done
  | dot onward ih => exact .dot (ih slash)
  | dots onward ih => exact .dots (ih slash)
  | directory ordinary there onward ih =>
    exact .directory (ordinary.change (by simp)) there (ih slash)
  | through ordinary there target_ne onward ih =>
    exact .through (ordinary.change (by simp)) there (fun _ => rfl) target_ne (ih _)

theorem Leads.enters (h : Leads tree .reach links slash here names (.node place .directory)) :
    ∃ left, Enters tree links here names place left := by
  generalize hfound : Found.node place .directory = found at h
  induction h with
  | done =>
    cases hfound
    exact ⟨_, .done⟩
  | dot onward ih =>
    obtain ⟨left, h⟩ := ih hfound
    exact ⟨left, .dot h⟩
  | dots onward ih =>
    obtain ⟨left, h⟩ := ih hfound
    exact ⟨left, .dots h⟩
  | missing ordinary free => cases hfound
  | directory ordinary there onward ih =>
    obtain ⟨left, h⟩ := ih hfound
    exact ⟨left, .directory (ordinary.toReach _) there h⟩
  | link ordinary there stays => cases hfound
  | through ordinary there follows target_ne onward ih =>
    obtain ⟨left, h⟩ := ih hfound
    exact ⟨left, .through (ordinary.toReach _) there target_ne h⟩
  | leaf ordinary there not_directory not_link finishes =>
    cases hfound
    cases not_directory

theorem Enters.unique {other : Place} {left left' : Nat}
    (h : Enters tree links here names place left) (h' : Enters tree links here names other left') :
    place = other := by
  have hsame := (h.leads false).unique (h'.leads false)
  cases hsame
  rfl

theorem enters_append_iff {other : Place} {last : Nat} :
    Enters tree links here (names ++ rest) other last ↔
      ∃ place left, Enters tree links here names place left ∧
        Enters tree left place rest other last := by
  constructor
  · intro h
    generalize hall : names ++ rest = all at h
    induction h generalizing names with
    | done =>
      obtain ⟨rfl, rfl⟩ := List.append_eq_nil_iff.mp hall
      exact ⟨_, _, .done, .done⟩
    | dot onward ih =>
      rcases List.append_eq_cons_iff.mp hall with ⟨rfl, rfl⟩ | ⟨names, rfl, rfl⟩
      · exact ⟨_, _, .done, .dot onward⟩
      · obtain ⟨place, left, henters, hrest⟩ := ih rfl
        exact ⟨place, left, .dot henters, hrest⟩
    | dots onward ih =>
      rcases List.append_eq_cons_iff.mp hall with ⟨rfl, rfl⟩ | ⟨names, rfl, rfl⟩
      · exact ⟨_, _, .done, .dots onward⟩
      · obtain ⟨place, left, henters, hrest⟩ := ih rfl
        exact ⟨place, left, .dots henters, hrest⟩
    | directory ordinary there onward ih =>
      rcases List.append_eq_cons_iff.mp hall with ⟨rfl, rfl⟩ | ⟨names, rfl, rfl⟩
      · exact ⟨_, _, .done, .directory ordinary there onward⟩
      · obtain ⟨place, left, henters, hrest⟩ := ih rfl
        exact ⟨place, left, .directory (ordinary.toReach _) there henters, hrest⟩
    | through ordinary there target_ne onward ih =>
      rcases List.append_eq_cons_iff.mp hall with ⟨rfl, rfl⟩ | ⟨names, rfl, rfl⟩
      · exact ⟨_, _, .done, .through ordinary there target_ne onward⟩
      · obtain ⟨place, left, henters, hrest⟩ := ih (List.append_assoc _ _ _)
        exact ⟨place, left, .through (ordinary.toReach _) there target_ne henters, hrest⟩
  · rintro ⟨place, left, henters, hrest⟩
    induction henters with
    | done => exact hrest
    | dot onward ih => exact .dot (ih hrest)
    | dots onward ih => exact .dots (ih hrest)
    | directory ordinary there onward ih =>
      exact .directory (ordinary.toReach _) there (ih hrest)
    | through ordinary there target_ne onward ih =>
      rw [List.cons_append]
      refine .through (ordinary.toReach _) there target_ne ?_
      rw [← List.append_assoc]
      exact ih hrest

/-- Names of directories lead on from one to the next. -/
theorem Enters.append_names {known : List String} (hwell : tree.WellFormed)
    (h : Enters tree links here known place left)
    (hnames : ∀ name ∈ names, Path.IsName name)
    (hshort : ∀ name ∈ names, name.utf8ByteSize ≤ nameLimit)
    (hdirectory : tree.node? (place ++ names) = some .directory) :
    Enters tree links here (known ++ names) (place ++ names) left := by
  induction names using List.reverseRecOn with
  | nil => rwa [List.append_nil, List.append_nil]
  | append_singleton names name ih =>
    obtain ⟨hbefore, hname⟩ := List.forall_mem_append.mp hnames
    obtain ⟨hshortBefore, hshortName⟩ := List.forall_mem_append.mp hshort
    have hname := hname name (List.mem_singleton_self name)
    rw [← List.append_assoc] at hdirectory
    have hparent := hwell.node?_dropLast hdirectory
    rw [List.dropLast_concat] at hparent
    rw [← List.append_assoc, ← List.append_assoc, enters_append_iff]
    refine ⟨_, left, ih hbefore hshortBefore hparent, .directory ?_ hdirectory .done⟩
    exact ⟨hname.ne_dot, hname.ne_dots, by simp, hshortName name (List.mem_singleton_self name)⟩

/-- A beginning leads where it led after the tree has grown. -/
theorem Enters.grows (hgrows : before.Grows after)
    (h : Enters before links here names place left) : Enters after links here names place left := by
  induction h with
  | done => exact .done
  | dot onward ih => exact .dot ih
  | dots onward ih => exact .dots ih
  | directory ordinary there onward ih => exact .directory ordinary (hgrows.directory there) ih
  | through ordinary there target_ne onward ih =>
    obtain ⟨other, hother, halike⟩ := hgrows.node? there
    rw [halike.eq_link] at hother
    exact .through ordinary hother target_ne ih

/-! ### Growing trees -/

/-- A path leads where it led after the tree has grown, to something alike. -/
theorem Leads.grows (hgrows : before.Grows after)
    (h : Leads before purpose links slash here names (.node place node)) :
    ∃ other, Leads after purpose links slash here names (.node place other) ∧
      node.Alike other := by
  generalize hfound : Found.node place node = found at h
  induction h with
  | done =>
    cases hfound
    exact ⟨.directory, .done, rfl⟩
  | dot onward ih =>
    obtain ⟨other, hother, halike⟩ := ih hfound
    exact ⟨other, .dot hother, halike⟩
  | dots onward ih =>
    obtain ⟨other, hother, halike⟩ := ih hfound
    exact ⟨other, .dots hother, halike⟩
  | missing ordinary free => cases hfound
  | directory ordinary there onward ih =>
    obtain ⟨other, hother, halike⟩ := ih hfound
    exact ⟨other, .directory ordinary (hgrows.directory there) hother, halike⟩
  | link ordinary there stays =>
    cases hfound
    obtain ⟨other, hother, halike⟩ := hgrows.node? there
    obtain rfl := halike.eq_link
    exact ⟨_, .link ordinary hother stays, rfl⟩
  | through ordinary there follows target_ne onward ih =>
    obtain ⟨other, hother, halike⟩ := ih hfound
    obtain ⟨link, hlink, hlike⟩ := hgrows.node? there
    obtain rfl := hlike.eq_link
    exact ⟨other, .through ordinary hlink follows target_ne hother, halike⟩
  | leaf ordinary there not_directory not_link finishes =>
    cases hfound
    obtain ⟨other, hother, halike⟩ := hgrows.node? there
    refine ⟨other, .leaf ordinary hother ?_ ?_ finishes, halike⟩
    · cases node <;> cases other <;> simp_all [Node.Alike, Node.isDirectory]
    · cases node <;> cases other <;> simp_all [Node.Alike, Node.isLink]

/-! ### Looking up and writing -/

/-- What a path leads to for writing, it also leads to for looking. -/
theorem Leads.reach_of_write (h : Leads tree .write links slash here names (.node place node)) :
    Leads tree .reach links slash here names (.node place node) := by
  generalize hfound : Found.node place node = found at h
  induction h with
  | done => exact .done
  | dot onward ih => exact .dot (ih hfound)
  | dots onward ih => exact .dots (ih hfound)
  | missing ordinary free => cases hfound
  | directory ordinary there onward ih =>
    exact .directory (ordinary.change (by simp)) there (ih hfound)
  | link ordinary there stays => cases stays
  | through ordinary there follows target_ne onward ih =>
    exact .through (ordinary.change (by simp)) there (fun _ => rfl) target_ne (ih hfound)
  | leaf ordinary there not_directory not_link finishes =>
    exact .leaf (ordinary.change (by simp)) there not_directory not_link
      fun hslash => nomatch finishes hslash

/-- What a path leads to is there to be looked at; only a link at its end is looked at itself. -/
theorem Leads.inspect_of_reach (h : Leads tree .reach links slash here names (.node place node)) :
    ∃ other seen, Leads tree .inspect links slash here names (.node other seen) ∧
      (seen.isLink = true ∨ seen = node) := by
  generalize hfound : Found.node place node = found at h
  induction h with
  | done =>
    cases hfound
    exact ⟨_, _, .done, Or.inr rfl⟩
  | dot onward ih =>
    obtain ⟨other, seen, h, hseen⟩ := ih hfound
    exact ⟨other, seen, .dot h, hseen⟩
  | dots onward ih =>
    obtain ⟨other, seen, h, hseen⟩ := ih hfound
    exact ⟨other, seen, .dots h, hseen⟩
  | missing ordinary free => cases hfound
  | directory ordinary there onward ih =>
    obtain ⟨other, seen, h, hseen⟩ := ih hfound
    exact ⟨other, seen, .directory (ordinary.change (by simp)) there h, hseen⟩
  | link ordinary there stays => cases stays
  | @through links slash here name target rest found ordinary there follows target_ne onward ih =>
    by_cases hlast : rest = [] ∧ slash = false
    · obtain ⟨rfl, rfl⟩ := hlast
      exact ⟨_, _, .link (ordinary.change (by simp)) there rfl, Or.inl rfl⟩
    · obtain ⟨other, seen, h, hseen⟩ := ih hfound
      refine ⟨other, seen, .through (ordinary.change (by simp)) there (fun hrest => ?_) target_ne h,
        hseen⟩
      exact Bool.not_eq_false _ ▸ fun hslash => hlast ⟨hrest, hslash⟩
  | leaf ordinary there not_directory not_link finishes =>
    cases hfound
    exact ⟨_, _, .leaf (ordinary.change (by simp)) there not_directory not_link
      (fun hslash => nomatch finishes hslash), Or.inr rfl⟩

/-- A path that leads to a file for looking leads there for writing. A slash at its end would have
asked for a directory. -/
theorem Leads.write_of_reach {content : ByteArray}
    (h : Leads tree .reach links slash here names (.node place (.file content))) :
    slash = false ∧ Leads tree .write links slash here names (.node place (.file content)) := by
  generalize hfound : Found.node place (.file content) = found at h
  induction h with
  | done => cases hfound
  | dot onward ih => exact (ih hfound).imp_right .dot
  | dots onward ih => exact (ih hfound).imp_right .dots
  | missing ordinary free => cases hfound
  | directory ordinary there onward ih =>
    obtain ⟨hslash, hwrite⟩ := ih hfound
    exact ⟨hslash, .directory (ordinary.change (by simp [hslash])) there hwrite⟩
  | link ordinary there stays => cases hfound
  | through ordinary there follows target_ne onward ih =>
    obtain ⟨hslash, hwrite⟩ := ih hfound
    have hslash' := (Bool.or_eq_false_iff.mp hslash).1
    exact ⟨hslash', .through (ordinary.change (by simp [hslash'])) there (fun _ => rfl) target_ne
      hwrite⟩
  | @leaf links slash here name node ordinary there not_directory not_link finishes =>
    have hslash : slash = false := by
      cases slash with
      | false => rfl
      | true => exact nomatch finishes rfl
    exact ⟨hslash, .leaf (ordinary.change (by simp [hslash])) there not_directory not_link
      fun h => absurd h (by simp [hslash])⟩

/-- A path that leads to a free name for writing leads to the file that is put there. -/
theorem Leads.reach_of_missing {directory : Place} {content : ByteArray}
    (hgrows : before.Grows after)
    (hnew : after.node? (directory ++ [name]) = some (.file content))
    (h : Leads before .write links slash here names (.missing directory name)) :
    Leads after .reach links slash here names (.node (directory ++ [name]) (.file content)) := by
  generalize hfound : Found.missing directory name = found at h
  induction h with
  | done => cases hfound
  | dot onward ih => exact .dot (ih hfound)
  | dots onward ih => exact .dots (ih hfound)
  | missing ordinary free =>
    cases hfound
    refine .leaf (ordinary.change (by simp)) hnew rfl rfl fun hslash => ?_
    exact absurd ⟨rfl, hslash, rfl⟩ ordinary.writable
  | directory ordinary there onward ih =>
    exact .directory (ordinary.change (by simp)) (hgrows.directory there) (ih hfound)
  | link ordinary there stays => cases hfound
  | through ordinary there follows target_ne onward ih =>
    obtain ⟨other, hother, halike⟩ := hgrows.node? there
    obtain rfl := halike.eq_link
    exact .through (ordinary.change (by simp)) hother (fun _ => rfl) target_ne (ih hfound)
  | leaf ordinary there not_directory not_link finishes => cases hfound

/-- A path that leads to a free name leads into the directory that is made there. -/
theorem Leads.enters_of_missing {directory : Place} (hgrows : before.Grows after)
    (hnew : after.node? (directory ++ [name]) = some .directory)
    (h : Leads before purpose links slash here names (.missing directory name)) :
    ∃ left, Enters after links here names (directory ++ [name]) left := by
  generalize hfound : Found.missing directory name = found at h
  induction h with
  | done => cases hfound
  | dot onward ih =>
    obtain ⟨left, h⟩ := ih hfound
    exact ⟨left, .dot h⟩
  | dots onward ih =>
    obtain ⟨left, h⟩ := ih hfound
    exact ⟨left, .dots h⟩
  | missing ordinary free =>
    cases hfound
    exact ⟨_, .directory (ordinary.toReach _) hnew .done⟩
  | directory ordinary there onward ih =>
    obtain ⟨left, h⟩ := ih hfound
    exact ⟨left, .directory (ordinary.toReach _) (hgrows.directory there) h⟩
  | link ordinary there stays => cases hfound
  | through ordinary there follows target_ne onward ih =>
    obtain ⟨left, h⟩ := ih hfound
    obtain ⟨other, hother, halike⟩ := hgrows.node? there
    obtain rfl := halike.eq_link
    exact ⟨left, .through (ordinary.toReach _) hother target_ne h⟩
  | leaf ordinary there not_directory not_link finishes => cases hfound

/-! ### What is there -/

/-- What is where a path leads, in any table: only that a place is a directory is taken on trust,
as it is for the place where the path starts. -/
theorem Leads.node?_eq (h : Leads tree purpose links slash here names (.node place node)) :
    node = .directory ∨ tree.node? place = some node := by
  generalize hfound : Found.node place node = found at h
  induction h with
  | done =>
    cases hfound
    exact Or.inl rfl
  | dot onward ih => exact ih hfound
  | dots onward ih => exact ih hfound
  | missing ordinary free => cases hfound
  | directory ordinary there onward ih => exact ih hfound
  | link ordinary there stays =>
    cases hfound
    exact Or.inr there
  | through ordinary there follows target_ne onward ih => exact ih hfound
  | leaf ordinary there not_directory not_link finishes =>
    cases hfound
    exact Or.inr there

theorem Leads.node?_eq_none {directory : Place}
    (h : Leads tree purpose links slash here names (.missing directory name)) :
    tree.node? (directory ++ [name]) = none := by
  generalize hfound : Found.missing directory name = found at h
  induction h with
  | dot onward ih => exact ih hfound
  | dots onward ih => exact ih hfound
  | missing ordinary free =>
    cases hfound
    exact free
  | directory ordinary there onward ih => exact ih hfound
  | through ordinary there follows target_ne onward ih => exact ih hfound
  | done | link | leaf => cases hfound

/-- A path leads to something only if something is at its next name. -/
theorem Leads.isSome_node? (hdot : name ≠ ".") (hdots : name ≠ "..")
    (h : Leads tree purpose links slash here (name :: rest) (.node place node)) :
    (tree.node? (here ++ [name])).isSome = true := by
  cases h with
  | dot => exact absurd rfl hdot
  | dots => exact absurd rfl hdots
  | directory _ there | link _ there | through _ there | leaf _ there => rw [there]; rfl

/-- A path has led to what is there, or to a name in a directory. -/
def Landed (tree : FileTree) : Found → Prop
  | .node place node => tree.node? place = some node
  | .missing directory name => tree.node? directory = some .directory ∧ Path.IsName name

/-- In a well-formed tree a path that starts in a directory leads to what is there, or to a name
in a directory. -/
theorem Leads.landed (hwell : tree.WellFormed) (hhere : tree.node? here = some .directory)
    (hnames : ∀ name ∈ names, name ≠ "" ∧ '/' ∉ name.toList)
    (h : Leads tree purpose links slash here names found) : tree.Landed found := by
  induction h with
  | done => exact hhere
  | dot onward ih => exact ih hhere fun name hname => hnames name (List.mem_cons_of_mem _ hname)
  | dots onward ih =>
    exact ih (hwell.node?_dropLast hhere) fun name hname =>
      hnames name (List.mem_cons_of_mem _ hname)
  | missing ordinary free =>
    obtain ⟨hne, hslash⟩ := hnames _ List.mem_cons_self
    exact ⟨hhere, hne, hslash, ordinary.ne_dot, ordinary.ne_dots⟩
  | directory ordinary there onward ih =>
    exact ih there fun name hname => hnames name (List.mem_cons_of_mem _ hname)
  | link ordinary there stays => exact there
  | through ordinary there follows target_ne onward ih =>
    refine ih ?_ fun name hname => ?_
    · split
      · rfl
      · exact hhere
    · rcases List.mem_append.mp hname with hname | hname
      · exact Path.mem_names hname
      · exact hnames name (List.mem_cons_of_mem _ hname)
  | leaf ordinary there not_directory not_link finishes => exact there

end FileTree

end DocStubs
