import DocStubs.Proofs.Source.Survey

/-!
# Packages and registries agree

If everything that a walk through packages met is registered, in whatever order, a walk through
the registry meets the same in the same order. Packages list what is in a directory by file names
and a registry lists what is under a name by dotted names, but both orders are those of the last
segments, as these are identifiers. A registry also bounds the depth of a walk by the number of its
entries, which is enough because each level of packages has an entry of its own.

## Main definitions

* `Source.keptOf` — the items of a listing in which something is met

## Main results

* `Source.childrenOf_eq_keptOf` — what a registry lists for a package
* `Source.exec_surveyTo_ofRegistry` — a walk through a registry
* `Source.analyze_eq_ok_iff` — analyses of packages and of registries agree
-/

namespace DocStubs

namespace Source

open Query

variable {tree : FileTree} {isExcluded : String → Bool} {depth fuel : Nat}
  {package directory : String} {found : List (String × Location)} {item : String × Location}
  {inner met : List (Child × Location)} {branches : List (List (Child × Location))}
  {registry : Registry} {whole : List Child} {entries listing : List (String × Registered)}

/-! ### What a registry lists -/

/-- The items of a listing in which something is met. -/
def keptOf (package : String) :
    List (String × Location) → List (List (Child × Location)) → List Child
  | item :: found, inner :: branches =>
    if inner.isEmpty then keptOf package found branches
    else Packages.childOf package item :: keptOf package found branches
  | _, _ => []

theorem keptOf_sublist (package : String) (found : List (String × Location))
    (branches : List (List (Child × Location))) :
    (keptOf package found branches).Sublist (found.map (Packages.childOf package)) := by
  fun_induction keptOf package found branches with
  | case1 item found inner branches hempty ih => exact ih.cons _
  | case2 item found inner branches hempty ih => exact ih.cons_cons _
  | case3 => exact List.nil_sublist _

theorem mem_keptOf (h : Branches tree isExcluded depth package found branches) {child : Child} :
    child ∈ keptOf package found branches ↔
      ∃ item ∈ found, ∃ inner,
        branch isExcluded (surveyFrom tree isExcluded depth) package item = .ok inner ∧
        inner ≠ [] ∧ child = Packages.childOf package item := by
  induction h with
  | nil => simp [keptOf]
  | @cons item inner rest branches hbranch _ ih =>
    rw [keptOf, List.exists_mem_cons_iff]
    have hitem : (∃ inner',
        branch isExcluded (surveyFrom tree isExcluded depth) package item = .ok inner' ∧
        inner' ≠ [] ∧ child = Packages.childOf package item) ↔
        inner ≠ [] ∧ child = Packages.childOf package item := by
      rw [hbranch]
      simp
    rw [hitem]
    cases inner with
    | nil => simpa using ih
    | cons first others => simpa using or_congr_right ih

/-- A registry that holds just the packages and modules of a list. -/
structure Holds (registry : Registry) (whole : List Child) : Prop where
  ordered : registry.Ordered
  perm : (registry.entries.map asChild).Perm whole

namespace Holds

theorem exists_entry (h : Holds registry whole) {child : Child} (hchild : child ∈ whole) :
    ∃ entry ∈ registry.entries, asChild entry = child :=
  List.mem_map.mp (h.perm.mem_iff.mpr hchild)

theorem mem_whole (h : Holds registry whole) {entry : String × Registered}
    (hentry : entry ∈ registry.entries) : asChild entry ∈ whole :=
  h.perm.mem_iff.mp (List.mem_map_of_mem hentry)

/-- A registry holds a name once. -/
theorem eq_of_name_eq (h : Holds registry whole) {child other : Child} (hchild : child ∈ whole)
    (hother : other ∈ whole) (hname : child.name = other.name) : child = other := by
  have hdistinct : ((registry.entries.map asChild).map (·.name)).Nodup := by
    rw [List.map_map]
    exact List.pairwise_map.mpr (h.ordered.imp fun hlt => Std.ne_of_lt hlt)
  have hwhole := (h.perm.map (·.name)).nodup_iff.mp hdistinct
  exact List.inj_on_of_nodup_map hwhole hchild hother hname

end Holds

theorem child_lt_child {leaf leaf' : String} (h : leaf < leaf') :
    Name.child package leaf < Name.child package leaf' := by
  unfold Name.child
  rw [String.lt_iff, String.toList_append, String.toList_append (t := leaf')]
  exact List.append_left_lt (String.lt_iff.mp h)

theorem childOf_mem_whole (hbranches : Branches tree isExcluded depth package found branches)
    (hmet : ∀ inside ∈ branches.flatten, inside.1 ∈ whole) (hitem : item ∈ found)
    (hbranch : branch isExcluded (surveyFrom tree isExcluded depth) package item = .ok inner)
    (hnonempty : inner ≠ []) : Packages.childOf package item ∈ whole := by
  obtain ⟨inner', hinner', hbranch'⟩ := FileTree.exists_mem_of_forall₂ hbranches hitem
  cases hbranch.symm.trans hbranch'
  have hitself := (branch_cases hbranch).resolve_left hnonempty
  exact hmet _ (List.mem_flatten.mpr ⟨inner, hinner', hitself⟩)

/-- What was met inside some item under a name that is one segment longer than that of the package
can only be that item itself. -/
theorem exists_item_of_met (h : Holds registry whole)
    (hlisted : Packages.listedIn tree package directory = .ok found)
    (hbranches : Branches tree isExcluded depth package found branches)
    (hmet : ∀ inside ∈ branches.flatten, inside.1 ∈ whole) {inside : Child × Location}
    (hinside : inside ∈ branches.flatten) {leaf : String}
    (hname : inside.1.name = Name.child package leaf) (hleaf : '.' ∉ leaf.toList) :
    ∃ item ∈ found, ∃ inner,
      branch isExcluded (surveyFrom tree isExcluded depth) package item = .ok inner ∧
      inner ≠ [] ∧ inside.1 = Packages.childOf package item := by
  obtain ⟨item, inner, hitem, -, hbranch, hmem⟩ := exists_branch_of_mem hbranches hinside
  have hwithin := within_of_mem_branch within_of_mem_survey hbranch inside hmem
  rw [hname] at hwithin
  have hsame := Name.leaf_eq_of_within (Packages.dot_not_mem_of_listed hlisted hitem) hleaf hwithin
    (Name.Within.refl _)
  have hnonempty := List.ne_nil_of_mem hmem
  refine ⟨item, hitem, inner, hbranch, hnonempty, ?_⟩
  refine h.eq_of_name_eq (hmet inside hinside)
    (childOf_mem_whole hbranches hmet hitem hbranch hnonempty) ?_
  rw [hname, ← hsame]
  rfl

/-- A registry lists for a package what is kept of the listing of the package. -/
theorem childrenOf_eq_keptOf (h : Holds registry whole)
    (hlisted : Packages.listedIn tree package directory = .ok found)
    (hbranches : Branches tree isExcluded depth package found branches)
    (hmet : ∀ inside ∈ branches.flatten, inside.1 ∈ whole)
    (hinside : ∀ child ∈ whole, Name.Within package child.name → child.name ≠ package →
      ∃ inside ∈ branches.flatten, inside.1 = child) :
    (registry.childrenOf package).map asChild = keptOf package found branches := by
  have hregistered : ((registry.childrenOf package).map asChild).Pairwise
      fun child other => child.name < other.name :=
    List.pairwise_map.mpr (h.ordered.pairwise_childrenOf package)
  have hkept : (keptOf package found branches).Pairwise
      fun child other => child.name < other.name := by
    refine List.Pairwise.sublist (keptOf_sublist package found branches) ?_
    exact List.pairwise_map.mpr
      ((Packages.pairwise_listed hlisted).imp fun hlt => child_lt_child hlt)
  have hne : ∀ {child other : Child}, child.name < other.name → child ≠ other := by
    rintro child _ hlt rfl
    exact String.lt_irrefl _ hlt
  -- Both lists are in the order of the names, so it is enough that they have the same members.
  refine List.Perm.eq_of_pairwise (fun child other _ _ hlt hgt => ?_) hregistered hkept ?_
  · exact absurd (String.lt_trans hlt hgt) (String.lt_irrefl _)
  refine (List.perm_ext_iff_of_nodup (hregistered.imp hne) (hkept.imp hne)).mpr fun child => ?_
  rw [mem_keptOf hbranches]
  constructor
  · intro hchild
    obtain ⟨entry, hentry, rfl⟩ := List.mem_map.mp hchild
    obtain ⟨hentry, leaf, hname, hleaf⟩ := h.ordered.mem_childrenOf.mp hentry
    have hchildname : (asChild entry).name = Name.child package leaf := hname
    obtain ⟨inside, hmem, hsame⟩ := hinside _ (h.mem_whole hentry)
      (hchildname ▸ Name.within_child package leaf) fun hpackage =>
        Name.not_within_child package leaf (hchildname ▸ hpackage ▸ Name.Within.refl _)
    rw [← hsame] at hchildname ⊢
    exact exists_item_of_met h hlisted hbranches hmet hmem hchildname hleaf
  · rintro ⟨item, hitem, inner, hbranch, hnonempty, rfl⟩
    obtain ⟨entry, hentry, hchild⟩ :=
      h.exists_entry (childOf_mem_whole hbranches hmet hitem hbranch hnonempty)
    rw [← hchild]
    refine List.mem_map_of_mem (h.ordered.mem_childrenOf.mpr ⟨hentry, item.1, ?_, ?_⟩)
    · exact congrArg Child.name hchild
    · exact Packages.dot_not_mem_of_listed hlisted hitem

/-! ### A walk through a registry -/

/-- The items that are kept of a listing give all that is met, if each of them gives what is met
in it. -/
theorem exec_mapM_keptOf (hbranches : Branches tree isExcluded depth package found branches)
    {visitor : Child → SourceQuery (List Child)} {tree' : FileTree} {source : Source}
    (hvisit : ∀ item ∈ found, ∀ inner ∈ branches,
      branch isExcluded (surveyFrom tree isExcluded depth) package item = .ok inner →
      inner ≠ [] → exec (visitor (Packages.childOf package item)) tree' source =
        (.ok (inner.map (·.1)), source)) :
    ∃ answers, exec ((keptOf package found branches).mapM visitor) tree' source =
        (.ok answers, source) ∧ answers.flatten = branches.flatten.map (·.1) := by
  induction hbranches with
  | nil => exact ⟨[], rfl, rfl⟩
  | @cons item inner rest branches hbranch _ ih =>
    obtain ⟨answers, hexec, hanswers⟩ := ih fun other hother inner' hinner' =>
      hvisit other (List.mem_cons_of_mem _ hother) inner' (List.mem_cons_of_mem _ hinner')
    rw [keptOf]
    split
    · rename_i hempty
      refine ⟨answers, hexec, ?_⟩
      rw [hanswers, List.flatten_cons, List.isEmpty_iff.mp hempty, List.nil_append]
    · rename_i hnonempty
      have hitem := hvisit item List.mem_cons_self inner List.mem_cons_self hbranch
        fun hnil => hnonempty (List.isEmpty_iff.mpr hnil)
      refine ⟨inner.map (·.1) :: answers, ?_, ?_⟩
      · rw [List.mapM_cons, exec_bind_of_ok _ hitem, exec_bind_of_ok _ hexec]
        rfl
      · rw [List.flatten_cons, List.flatten_cons, List.map_append, hanswers]

/-- What is inside one item of a listing was met in that item. -/
theorem mem_branch_of_within (hlisted : Packages.listedIn tree package directory = .ok found)
    (hbranches : Branches tree isExcluded depth package found branches) (hitem : item ∈ found)
    (hbranch : branch isExcluded (surveyFrom tree isExcluded depth) package item = .ok inner)
    {inside : Child × Location} (hmem : inside ∈ branches.flatten)
    (hwithin : Name.Within (Name.child package item.1) inside.1.name) : inside ∈ inner := by
  obtain ⟨item', inner', hitem', -, hbranch', hmem⟩ := exists_branch_of_mem hbranches hmem
  have hwithin' := within_of_mem_branch within_of_mem_survey hbranch' inside hmem
  have hleaf := Name.leaf_eq_of_within (Packages.dot_not_mem_of_listed hlisted hitem')
    (Packages.dot_not_mem_of_listed hlisted hitem) hwithin' hwithin
  have hdistinct := List.pairwise_map.mpr
    ((Packages.pairwise_listed hlisted).imp fun hlt => Std.ne_of_lt hlt)
  have hsame := List.inj_on_of_nodup_map hdistinct hitem' hitem hleaf
  subst hsame
  cases hbranch.symm.trans hbranch'
  exact hmem

/-- A walk through a registry meets in one item what a walk through packages met there. -/
theorem exec_visit_ofRegistry {source : Source} {tree' : FileTree}
    (hbranch : branch isExcluded (surveyFrom tree isExcluded depth) package item = .ok inner)
    (hnonempty : inner ≠ [])
    (hinside : ∀ inside,
      surveyFrom tree isExcluded depth (Name.child package item.1) inside = .ok inner →
      exec (surveyTo isExcluded fuel (Name.child package item.1)) tree' source =
        (.ok (inner.map (·.1)), source)) :
    exec (visit isExcluded (surveyTo isExcluded fuel) (Packages.childOf package item)) tree'
      source = (.ok (inner.map (·.1)), source) := by
  obtain ⟨leaf, location⟩ := item
  cases location with
  | package inside => exact hinside inside hbranch
  | source path | compiled path =>
    rw [visit_of_module rfl, exec_pure]
    cases hbranch
    split
    · rename_i hexcluded
      exact absurd (if_pos hexcluded) hnonempty
    · rfl

/-- A walk through a registry meets in a package what a walk through packages met there, if all of
it is registered and nothing else is inside the package. -/
theorem exec_surveyTo_ofRegistry (h : Holds registry whole) (tree' : FileTree)
    (hsurvey : surveyFrom tree isExcluded depth package directory = .ok met) (hnonempty : met ≠ [])
    (hfuel : met.length ≤ fuel) (hmet : ∀ item ∈ met, item.1 ∈ whole)
    (hinside : ∀ child ∈ whole, Name.Within package child.name → ∃ item ∈ met, item.1 = child) :
    exec (surveyTo isExcluded fuel package) tree' (.ofRegistry registry) =
      (.ok (met.map (·.1)), .ofRegistry registry) := by
  induction depth generalizing package directory met fuel with
  | zero =>
    cases hsurvey
    exact absurd rfl hnonempty
  | succ depth ih =>
    obtain ⟨found, branches, hlisted, hbranches, rfl⟩ := surveyFrom_eq_ok hsurvey
    obtain ⟨entry, hentry, hpackage⟩ := h.exists_entry (hmet _ List.mem_cons_self)
    have hget : registry.get? package = some entry.2 := by
      refine h.ordered.get?_of_mem ?_
      rw [← show entry.1 = package from congrArg Child.name hpackage]
      exact hentry
    -- What is strictly inside the package was met in one of its items.
    have hbelow : ∀ child ∈ whole, Name.Within package child.name → child.name ≠ package →
        ∃ inside ∈ branches.flatten, inside.1 = child := by
      intro child hchild hwithin hne
      obtain ⟨inside, hmem, rfl⟩ := hinside child hchild hwithin
      rcases List.mem_cons.mp hmem with rfl | hmem
      · exact absurd rfl hne
      · exact ⟨inside, hmem, rfl⟩
    have hflatten : ∀ inside ∈ branches.flatten, inside.1 ∈ whole :=
      fun inside hmem => hmet inside (List.mem_cons_of_mem _ hmem)
    obtain ⟨fuel, rfl⟩ : ∃ less, fuel = less + 1 :=
      Nat.exists_eq_add_one_of_ne_zero (by rw [List.length_cons] at hfuel; omega)
    have hvisit : ∀ item ∈ found, ∀ inner ∈ branches,
        branch isExcluded (surveyFrom tree isExcluded depth) package item = .ok inner →
        inner ≠ [] → exec (visit isExcluded (surveyTo isExcluded fuel)
          (Packages.childOf package item)) tree' (.ofRegistry registry) =
            (.ok (inner.map (·.1)), .ofRegistry registry) := by
      intro item hitem inner hinner hbranch hnonempty
      refine exec_visit_ofRegistry hbranch hnonempty fun inside hsurvey => ?_
      have hsublist := List.sublist_flatten_of_mem hinner
      refine ih hsurvey hnonempty ?_ (fun met hmem => hflatten met (hsublist.subset hmem)) ?_
      · have hlength := hsublist.length_le
        rw [List.length_cons] at hfuel
        omega
      · intro child hchild hwithin
        obtain ⟨met, hmem, rfl⟩ := hbelow child hchild hwithin.of_child fun hsame =>
          Name.not_within_child package item.1 (hsame ▸ hwithin)
        exact ⟨met, mem_branch_of_within hlisted hbranches hitem hbranch hmem hwithin, rfl⟩
    obtain ⟨answers, hvisits, hanswers⟩ := exec_mapM_keptOf hbranches hvisit
    have hisPackage : entry.2.isPackage = true := congrArg Child.isPackage hpackage
    rw [surveyTo, exec_bind_of_ok _ (exec_children_ofRegistry hget hisPackage tree'),
      childrenOf_eq_keptOf h hlisted hbranches hflatten hbelow, exec_bind_of_ok _ hvisits,
      exec_pure, hanswers, List.map_cons]

/-! ### Inventories of registries -/

/-- What is registered for registered entries is what they hold. -/
theorem exec_mapM_registration_ofRegistry (hordered : registry.Ordered) (tree' : FileTree)
    (hentries : ∀ entry ∈ entries, entry ∈ registry.entries)
    (hplain : ∀ entry ∈ entries, entry.2.isPackage = true → entry.2 = { isPackage := true }) :
    exec ((entries.map asChild).mapM registration) tree' (.ofRegistry registry) =
      (.ok entries, .ofRegistry registry) := by
  induction entries with
  | nil => rfl
  | cons entry rest ih =>
    have hentry : exec (registration (asChild entry)) tree' (.ofRegistry registry) =
        (.ok entry, .ofRegistry registry) := by
      have hget : registry.get? entry.1 = some entry.2 :=
        hordered.get?_of_mem (hentries entry List.mem_cons_self)
      obtain ⟨name, isPackage, symbols, source⟩ := entry
      rw [registration, asChild]
      cases isPackage with
      | true =>
        have hplainEntry := hplain _ List.mem_cons_self rfl
        dsimp only at hplainEntry
        rw [hplainEntry]
        rfl
      | false =>
        dsimp only at hget ⊢
        rw [if_neg Bool.false_ne_true, exec_bind, exec_load_ofRegistry, hget]
        rfl
    have hrest := ih (fun other hother => hentries other (List.mem_cons_of_mem _ hother))
      fun other hother => hplain other (List.mem_cons_of_mem _ hother)
    rw [List.map_cons, List.mapM_cons, exec_bind_of_ok _ hentry, exec_bind_of_ok _ hrest]
    rfl

/-- The entries of an inventory stand for what a walk met, and packages have no symbols. -/
theorem asChild_of_registered
    (h : List.Forall₂ (fun item entry => registeredFrom tree item = .ok entry) met entries) :
    entries.map asChild = met.map (·.1) ∧
      ∀ entry ∈ entries, entry.2.isPackage = true → entry.2 = { isPackage := true } := by
  induction h with
  | nil => exact ⟨rfl, fun _ hentry => nomatch hentry⟩
  | cons hregistered _ ih =>
    obtain ⟨hchild, hplain⟩ := registeredFrom_eq_ok hregistered
    refine ⟨by rw [List.map_cons, List.map_cons, hchild, ih.1], fun entry hentry => ?_⟩
    rcases List.mem_cons.mp hentry with rfl | hentry
    · exact hplain
    · exact ih.2 entry hentry

/-- The inventory of a registry that was made from an inventory, in whatever order, is that
inventory. -/
theorem inventory_ofListing {paths : List String} {root : String}
    (h : (exec (inventory isExcluded root) tree (.ofPackages { searchPaths := paths })).1 =
      .ok entries)
    (hlisting : listing.Perm entries) (tree' : FileTree) :
    (exec (inventory isExcluded root) tree' (.ofRegistry (Registry.ofListing listing))).1 =
      .ok entries := by
  obtain ⟨depth, directory, met, hsurvey, hregistered⟩ := inventory_eq_ok h
  obtain ⟨hchildren, hplain⟩ := asChild_of_registered (forall₂_of_mapM_eq_ok hregistered)
  have hdistinct : (entries.map (·.1)).Nodup := by
    have hnames : ((met.map (·.1)).map (·.name)).Nodup := by
      rw [List.map_map]
      exact nodup_survey hsurvey
    rw [← hchildren, List.map_map] at hnames
    exact hnames
  have hentries : (Registry.ofListing listing).entries.Perm entries :=
    (Registry.perm_ofListing ((hlisting.map (·.1)).nodup_iff.mpr hdistinct)).trans hlisting
  have hholds : Holds (Registry.ofListing listing) (met.map (·.1)) :=
    ⟨Registry.ordered_ofListing listing, hchildren ▸ hentries.map asChild⟩
  have hlength : met.length ≤ (Source.ofRegistry (Registry.ofListing listing)).depth := by
    have hsame := congrArg List.length hchildren
    rw [List.length_map, List.length_map] at hsame
    show met.length ≤ (Registry.ofListing listing).entries.length + 1
    rw [hentries.length_eq]
    omega
  have hnonempty : met ≠ [] := by
    obtain ⟨_, _, -, -, rfl⟩ := surveyFrom_eq_ok hsurvey
    exact List.cons_ne_nil _ _
  have hwalk := exec_surveyTo_ofRegistry hholds tree' hsurvey hnonempty hlength
    (fun item hitem => List.mem_map_of_mem hitem) fun child hchild _ => List.mem_map.mp hchild
  rw [inventory]
  rw [exec_bind_of_ok _ (exec_get tree' _), exec_bind_of_ok _ hwalk, ← hchildren,
    exec_mapM_registration_ofRegistry hholds.ordered tree'
      (fun entry hentry => hentries.mem_iff.mpr hentry) hplain]

/-! ### Analyses -/

theorem exec_analyze (isExcluded : String → Bool) (order : MemberOrder) (package : String)
    (tree : FileTree) (source : Source) :
    (exec (analyze isExcluded order package) tree source).1 =
      ((exec (inventory isExcluded package) tree source).1).map (analysisOf order package) := by
  rw [analyze_eq, map_eq_pure_bind, exec_bind]
  rcases exec (inventory isExcluded package) tree source with ⟨_ | _, after⟩ <;> rfl

/-- The analysis of packages gives a result exactly if they have an inventory such that every
registry that it is made into, in whatever order, gives that result. -/
theorem analyze_eq_ok_iff (tree : FileTree) (paths : List String) (isExcluded : String → Bool)
    (order : MemberOrder) (root : String) (result : Analysis) :
    (exec (analyze isExcluded order root) tree (.ofPackages { searchPaths := paths })).1 =
        .ok result ↔
      ∃ entries,
        (exec (inventory isExcluded root) tree (.ofPackages { searchPaths := paths })).1 =
            .ok entries ∧
          ∀ listing, listing.Perm entries → ∀ tree' : FileTree,
            (exec (analyze isExcluded order root) tree'
              (.ofRegistry (Registry.ofListing listing))).1 = .ok result := by
  constructor
  · intro h
    rw [exec_analyze] at h
    cases hinventory :
        (exec (inventory isExcluded root) tree (.ofPackages { searchPaths := paths })).1 with
    | error error =>
      rw [hinventory] at h
      cases h
    | ok entries =>
      rw [hinventory] at h
      refine ⟨entries, rfl, fun listing hlisting tree' => ?_⟩
      rw [exec_analyze, inventory_ofListing hinventory hlisting tree']
      exact h
  · rintro ⟨entries, hinventory, hregistry⟩
    have hresult := hregistry entries (List.Perm.refl _) tree
    rw [exec_analyze, inventory_ofListing hinventory (List.Perm.refl _) tree] at hresult
    rw [exec_analyze, hinventory]
    exact hresult

end Source

end DocStubs
