import DocStubs.Proofs.Page
import DocStubs.Proofs.Text.Dotted

/-!
# What a page was made from

A page is a text, and what it was made from is only to be found in that text. Titles, names and
members stand in it as they are, so a name may hold what looks like the rest of a page. It still
cannot be mistaken for it. The members come last, and their lines are indented, so the last line
that is the mark of the list of members is the one that opens it: this gives the members and the
text before the list. In that text the name stands at the start, where one name could only pass for
another if it went on with what follows, and a longer name makes the whole text longer.

## Main definitions

* `Page.apiHead` — the lines of a page before its list of members
* `Page.Titled` — a page with a title

## Main results

* `Page.members_of_api_eq` — the members and the lines before them can be told from a page
* `Page.name_of_apiHead_eq` — the name can be told from the lines before the members
* `Page.pages_lose_nothing` — what can be told from pages and indices
-/

namespace DocStubs

namespace Page

variable {module other : Descriptor} {name name' : String} {lines : List String}

/-! ### The page that lists members -/

/-- The line that opens the list of members. -/
def membersMark : String := ".. autosummary::"

/-- The lines before the list of members. -/
def apiHead (name : String) : List String :=
  [".. Members of " ++ name ++ ". The autosummary extension expands every",
    ".. entry below into a page of its own.", ""] ++
  title (Name.relative name) ++
  ["", ".. Module doc string only, members are linked further down."] ++
  automodule name ++
  ["", ".. currentmodule:: " ++ name, ""]

/-- The lines after the one that opens the list of members. -/
def membersTail (members : List String) : List String :=
  ["   :toctree:", ""] ++ members.map (indent ++ ·) ++ [""]

theorem api_eq (module : Descriptor) :
    api module =
      unlines (apiHead module.name) ++ unlines (membersMark :: membersTail module.members) := by
  rw [← unlines_append, api, Descriptor.relative, apiHead, membersMark, membersTail]
  simp

theorem indent_append_ne_mark (member : String) : indent ++ member ≠ membersMark := by
  intro h
  have hchars := congrArg String.toList h
  simp [indent, membersMark] at hchars

theorem oneLine_membersTail {members : List String} (h : ∀ member ∈ members, OneLine member) :
    ∀ line ∈ membersTail members, OneLine line := by
  have hindent : OneLine indent := by decide
  simp only [membersTail, List.forall_mem_append, List.forall_mem_map, oneLine_append]
  exact ⟨⟨by decide, fun member hmember => ⟨hindent, h member hmember⟩⟩, by decide⟩

/-- The lines of a page. Only the name can hold line breaks. -/
theorem pieces_api (h : ∀ member ∈ module.members, OneLine member) :
    Cut.pieces '\n' (api module) =
      (apiHead module.name).flatMap (Cut.pieces '\n') ++
        membersMark :: (membersTail module.members ++ [""]) := by
  rw [api_eq, pieces_unlines_append, pieces_unlines]
  · rfl
  · exact List.forall_mem_cons.mpr ⟨by decide, oneLine_membersTail h⟩

/-- The line that opens the list of members does not come again. -/
theorem mark_not_mem_membersTail (members : List String) :
    membersMark ∉ membersTail members ++ [""] := by
  simp only [membersTail, List.mem_append, List.mem_map, not_or, not_exists, not_and]
  exact ⟨⟨⟨by decide, fun member _ => indent_append_ne_mark member⟩, by decide⟩, by decide⟩

/-- The members can be told from a page, and so can the text before them. -/
theorem members_of_api_eq (h : ∀ member ∈ module.members, OneLine member)
    (h' : ∀ member ∈ other.members, OneLine member) (heq : api module = api other) :
    module.members = other.members ∧
      unlines (apiHead module.name) = unlines (apiHead other.name) := by
  have hlines := congrArg (Cut.pieces '\n') heq
  rw [pieces_api h, pieces_api h'] at hlines
  have hheads := Cut.before_eq_of_last_eq (mark_not_mem_membersTail module.members)
    (mark_not_mem_membersTail other.members) hlines
  have hmembers : module.members = other.members := by
    rw [hheads] at hlines
    have hmap : module.members.map (indent ++ ·) = other.members.map (indent ++ ·) := by
      simpa [membersTail] using hlines
    exact (List.map_inj_right fun _ _ => (String.append_right_inj _).mp).mp hmap
  refine ⟨hmembers, ?_⟩
  rw [api_eq, api_eq, hmembers] at heq
  exact (String.append_left_inj _).mp heq

/-! ### The name of a module in its page -/

theorem exists_unlines_apiHead (name : String) :
    ∃ rest, (unlines (apiHead name)).toList = ".. Members of ".toList ++ (name.toList ++ rest) := by
  refine ⟨". The autosummary extension expands every\n".toList ++
    (unlines (apiHead name).tail).toList, ?_⟩
  simp [apiHead, unlines]

/-- A page is longer by three times what a name is longer, and twice what its title is. -/
theorem length_unlines_apiHead (name name' : String) :
    (unlines (apiHead name)).length + (3 * name'.length + 2 * (Name.relative name').length) =
      (unlines (apiHead name')).length + (3 * name.length + 2 * (Name.relative name).length) := by
  simp [apiHead, unlines, title, automodule]
  omega

/-- A name cannot pass for a longer one: the text would have to be longer. -/
theorem name_eq_of_length_le (hle : name.length ≤ name'.length)
    (h : unlines (apiHead name) = unlines (apiHead name')) : name = name' := by
  obtain ⟨rest, hrest⟩ := exists_unlines_apiHead name
  obtain ⟨rest', hrest'⟩ := exists_unlines_apiHead name'
  rw [← String.length_toList, ← String.length_toList] at hle
  have hstart : name.toList <+: name'.toList := by
    have hafter : name.toList ++ rest = name'.toList ++ rest' := by
      rw [h, hrest'] at hrest
      exact (List.append_cancel_left hrest).symm
    exact List.prefix_of_prefix_length_le (hafter ▸ List.prefix_append _ _)
      (List.prefix_append _ rest') hle
  have hrelative := Name.length_relative_le hstart
  have hlength := length_unlines_apiHead name name'
  rw [h, ← @String.length_toList name, ← @String.length_toList name'] at hlength
  exact String.toList_inj.mp (hstart.eq_of_length (by omega))

theorem name_of_apiHead_eq (h : unlines (apiHead name) = unlines (apiHead name')) :
    name = name' := by
  rcases Nat.le_total name.length name'.length with hle | hle
  · exact name_eq_of_length_le hle h
  · exact (name_eq_of_length_le hle h.symm).symm

/-! ### Entries of indices -/

/-- The entries of an index can be told from it. -/
theorem entries_eq_of_heading {heading entries others : List String}
    (hheading : ∀ line ∈ heading, OneLine line) (h : ∀ entry ∈ entries, OneLine entry)
    (h' : ∀ entry ∈ others, OneLine entry)
    (heq : unlines (heading ++ entries ++ [""]) = unlines (heading ++ others ++ [""])) :
    entries = others := by
  have hempty : ∀ line ∈ [""], OneLine line := by decide
  have hlines := congrArg (Cut.pieces '\n') heq
  rw [pieces_unlines, pieces_unlines] at hlines
  · simpa using hlines
  · simp only [List.forall_mem_append]
    exact ⟨⟨hheading, h'⟩, hempty⟩
  · simp only [List.forall_mem_append]
    exact ⟨⟨hheading, h⟩, hempty⟩

/-! ### Titles -/

/-- The fourth line of a page is its title, and the line below it is a rule of the same length. -/
def Titled (page text : String) : Prop :=
  ∃ rule, ((Cut.pieces '\n' page).drop 3).take 2 = [text, rule] ∧
    rule.length = text.length ∧ ∀ c ∈ rule.toList, c = '='

theorem titled_of_take {page text : String}
    (h : ((Cut.pieces '\n' page).drop 3).take 2 = title text) : Titled page text :=
  ⟨_, h, by simp, by simp⟩

theorem oneLine_relative (h : OneLine name) : OneLine (Name.relative name) := by
  obtain ⟨first, hfirst, hname | ⟨rest, hname⟩⟩ := Cut.exists_first '.' name.toList
  · rw [← hname] at hfirst
    rw [Name.relative_of_no_dot hfirst]
    decide
  · rw [Name.relative_of_dot hfirst hname]
    rw [OneLine, hname] at h
    simpa [OneLine] using fun hrest => h (by simp [hrest])

theorem oneLine_automodule (h : OneLine name) : ∀ line ∈ automodule name, OneLine line := by
  have hname : OneLine (".. automodule:: " ++ name) := oneLine_append.mpr ⟨by decide, h⟩
  exact List.forall_mem_cons.mpr ⟨hname, by decide⟩

theorem oneLine_apiHead (h : OneLine name) : ∀ line ∈ apiHead name, OneLine line := by
  simp only [apiHead, List.forall_mem_append, List.forall_mem_cons, oneLine_append]
  exact ⟨⟨⟨⟨⟨⟨⟨by decide, h⟩, by decide⟩, by decide⟩, oneLine_title (oneLine_relative h)⟩,
    by decide⟩, oneLine_automodule h⟩, by decide, ⟨by decide, h⟩, by decide⟩

theorem titled_api (h : OneLine module.name) : Titled (api module) module.relative := by
  refine titled_of_take ?_
  rw [api_eq, pieces_unlines_append, flatMap_pieces (oneLine_apiHead h)]
  rfl

theorem titled_doc (h : OneLine module.name) : Titled (doc module) module.relative := by
  refine titled_of_take ?_
  rw [doc, pieces_unlines]
  · rfl
  · simp only [List.forall_mem_append, List.forall_mem_cons, oneLine_append]
    exact ⟨⟨⟨⟨⟨⟨by decide, h⟩, by decide⟩, by decide⟩, oneLine_title (oneLine_relative h)⟩,
      by decide⟩, oneLine_automodule h⟩

/-! ### Pages -/

/-- The page that lists members gives back the name and the members that it was made from, whatever
the name holds and whether or not the module opens with documentation, and an index gives back its
entries, if members and entries are on one line each. The pages of a module whose name is on one
line show what of it is below the outermost package as their title. -/
theorem pages_lose_nothing :
    (∀ module other : Descriptor, (∀ member ∈ module.members, OneLine member) →
      (∀ member ∈ other.members, OneLine member) →
      (api module = api other ↔ module.name = other.name ∧ module.members = other.members)) ∧
    (∀ entries others : List String, (∀ entry ∈ entries, OneLine entry) →
      (∀ entry ∈ others, OneLine entry) →
      (apiIndex entries = apiIndex others ↔ entries = others) ∧
      (docIndex entries = docIndex others ↔ entries = others)) ∧
    ∀ module : Descriptor, OneLine module.name →
      Titled (api module) module.relative ∧ Titled (doc module) module.relative := by
  refine ⟨fun module other h h' => ⟨fun heq => ?_, ?_⟩, fun entries others h h' => ⟨?_, ?_⟩,
    fun module h => ⟨titled_api h, titled_doc h⟩⟩
  · obtain ⟨hmembers, hheads⟩ := members_of_api_eq h h' heq
    exact ⟨name_of_apiHead_eq hheads, hmembers⟩
  · rintro ⟨hname, hmembers⟩
    rw [api_eq, api_eq, hname, hmembers]
  · exact ⟨entries_eq_of_heading (by decide) h h', congrArg apiIndex⟩
  · exact ⟨entries_eq_of_heading (by decide) h h', congrArg docIndex⟩

/-- A module of a package. -/
def plain : Descriptor := { name := "p.é", members := ["C", ""] }

/-- A module whose name goes on like the page of the other one. -/
def lookalike : Descriptor where
  name := "p.é. The autosummary extension expands every\n.. entry below into a page of its own.\n"
  members := ["C", ""]
  hasDoc := true

theorem lookalike_told_apart :
    (∀ member ∈ plain.members, OneLine member) ∧ (∀ member ∈ lookalike.members, OneLine member) ∧
    (∀ entry ∈ [""], OneLine entry) ∧ OneLine plain.name ∧
    api plain ≠ api lookalike ∧ docIndex [] ≠ docIndex [""] ∧ Titled (doc plain) "é" := by
  have hplain : ∀ member ∈ plain.members, OneLine member := by decide
  have hlookalike : ∀ member ∈ lookalike.members, OneLine member := by decide
  have hentry : ∀ entry ∈ [""], OneLine entry := by decide
  have hname : OneLine plain.name := by decide
  obtain ⟨hpages, hindices, htitles⟩ := pages_lose_nothing
  refine ⟨hplain, hlookalike, hentry, hname, fun heq => ?_, fun heq => ?_, ?_⟩
  · have hsame := ((hpages plain lookalike hplain hlookalike).mp heq).1
    exact absurd hsame (by decide)
  · have hsame := (hindices [] [""] (List.forall_mem_nil _) hentry).2.mp heq
    cases hsame
  · have hrelative : plain.relative = "é" := by decide
    rw [← hrelative]
    exact (htitles plain hname).2

end Page

end DocStubs
