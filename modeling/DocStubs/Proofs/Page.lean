import DocStubs.Page
import DocStubs.Proofs.Text.Cut

/-!
# Reading the links of a page

An index is made from a list of links and is then a text like any other. Whoever follows its links
has to find them in that text again, and this module says how: a list of links begins below its
mark, after the options and an empty line, and ends with the first line that is neither empty nor
indented. What is put into a line stands there as it is, so this only gives back the links that an
index was made from if each of them is on one line.

## Main definitions

* `Page.OneLine` — a text without line breaks
* `Page.entries` — the links that are read from a page

## Main results

* `Page.pieces_unlines` — the lines of a page
* `Page.entries_apiIndex`, `Page.entries_docIndex`, `Page.entries_root` — the links of each index
-/

namespace DocStubs

namespace Page

variable {text : String} {lines rest links : List String}

/-! ### Lines -/

/-- A text that stays on one line. -/
def OneLine (text : String) : Prop := '\n' ∉ text.toList

instance (text : String) : Decidable (OneLine text) := inferInstanceAs (Decidable (_ ∉ _))

@[simp] theorem oneLine_append {before after : String} :
    OneLine (before ++ after) ↔ OneLine before ∧ OneLine after := by
  simp [OneLine, not_or]

theorem unlines_append (lines more : List String) :
    unlines (lines ++ more) = unlines lines ++ unlines more := by
  simp [unlines]

/-- The lines of a text that is put together from texts: those of each of them in turn. -/
theorem pieces_unlines_append (lines : List String) (rest : String) :
    Cut.pieces '\n' (unlines lines ++ rest) =
      lines.flatMap (Cut.pieces '\n') ++ Cut.pieces '\n' rest := by
  induction lines with
  | nil => simp [unlines]
  | cons line lines ih =>
    have htext : (unlines (line :: lines) ++ rest).toList =
        line.toList ++ '\n' :: (unlines lines ++ rest).toList := by
      simp [unlines]
    rw [Cut.pieces, htext, Cut.piecesOf_append_cons, List.map_append, ← Cut.pieces, ← Cut.pieces,
      ih, List.flatMap_cons, List.append_assoc]

theorem flatMap_pieces (h : ∀ line ∈ lines, OneLine line) :
    lines.flatMap (Cut.pieces '\n') = lines := by
  induction lines with
  | nil => rfl
  | cons line lines ih =>
    obtain ⟨hline, hlines⟩ := List.forall_mem_cons.mp h
    rw [List.flatMap_cons, ih hlines, Cut.pieces, Cut.piecesOf_of_not_mem hline]
    simp

/-- The lines that a text is made from are read from it, with an empty one after them. -/
theorem pieces_unlines (h : ∀ line ∈ lines, OneLine line) :
    Cut.pieces '\n' (unlines lines) = lines ++ [""] := by
  have hlines := pieces_unlines_append lines ""
  rwa [String.append_empty, flatMap_pieces h] at hlines

/-! ### Reading links -/

/-- Which part of a page a line is in. -/
inductive Zone where
  /-- Anything but a list of links. -/
  | text
  /-- The options at the start of a list of links. -/
  | options
  /-- The links of a list. -/
  | links
  deriving DecidableEq, Repr, Inhabited

/-- What follows the indentation of a line. -/
def indented? (line : String) : Option String :=
  match line.toList with
  | ' ' :: ' ' :: ' ' :: rest => some (String.ofList rest)
  | _ => none

/-- The part that a page goes on with after a line, and the link on the line. -/
def Zone.step (zone : Zone) (line : String) : Zone × Option String :=
  if line = "" then (if zone = .text then .text else .links, none)
  else
    match indented? line with
    | some link => (zone, if zone = .links then some link else none)
    | none => (if line = ".. toctree::" then .options else .text, none)

/-- The links on lines that start in some part of a page. -/
def entriesFrom : Zone → List String → List String
  | _, [] => []
  | zone, line :: rest => (zone.step line).2.toList ++ entriesFrom (zone.step line).1 rest

/-- The links of a page. -/
def entries (text : String) : List String := entriesFrom .text (Cut.pieces '\n' text)

theorem entriesFrom_of_step {zone next : Zone} {line : String} (h : zone.step line = (next, none)) :
    entriesFrom zone (line :: rest) = entriesFrom next rest := by
  rw [entriesFrom, h]
  rfl

theorem step_indent (link : String) : Zone.links.step (indent ++ link) = (.links, some link) := by
  have hlink : (indent ++ link).toList = ' ' :: ' ' :: ' ' :: link.toList := by simp [indent]
  have hne : indent ++ link ≠ "" := by
    intro hempty
    simp [hempty] at hlink
  rw [Zone.step, if_neg hne, indented?, hlink]
  simp

/-- Indented lines are links. -/
theorem entriesFrom_links (links rest : List String) :
    entriesFrom .links (links.map (indent ++ ·) ++ rest) = links ++ entriesFrom .links rest := by
  induction links with
  | nil => rfl
  | cons link links ih =>
    rw [List.map_cons, List.cons_append, entriesFrom, step_indent, ih]
    rfl

/-! ### Indices -/

/-- The links of an index whose heading ends with the start of a list of links. -/
theorem entries_of_heading {heading : List String} (hheading : ∀ line ∈ heading, OneLine line)
    (hstart : ∀ rest, entriesFrom .text (heading ++ rest) = entriesFrom .links rest)
    (hlinks : ∀ link ∈ links, OneLine link) :
    entries (unlines (heading ++ links.map (indent ++ ·) ++ [""])) = links := by
  have hlines : ∀ line ∈ heading ++ links.map (indent ++ ·) ++ [""], OneLine line := by
    have hindent : OneLine indent := by decide
    have hempty : OneLine "" := by decide
    simp only [List.mem_append, List.mem_map, List.mem_singleton]
    rintro line ((hline | ⟨link, hlink, rfl⟩) | rfl)
    · exact hheading line hline
    · exact oneLine_append.mpr ⟨hindent, hlinks link hlink⟩
    · exact hempty
  rw [entries, pieces_unlines hlines, List.append_assoc, List.append_assoc, hstart,
    entriesFrom_links]
  exact List.append_nil links

theorem entries_apiIndex (h : ∀ link ∈ links, OneLine link) :
    entries (apiIndex (links.map (indent ++ ·))) = links :=
  entries_of_heading (by decide) (fun _ => rfl) h

theorem entries_docIndex (h : ∀ link ∈ links, OneLine link) :
    entries (docIndex (links.map (indent ++ ·))) = links :=
  entries_of_heading (by decide) (fun _ => rfl) h

/-- Only a list of links has links. -/
theorem entriesFrom_of_ne {zone : Zone} (h : zone ≠ .links) (line : String) (rest : List String) :
    entriesFrom zone (line :: rest) = entriesFrom (zone.step line).1 rest := by
  have hnone : (zone.step line).2 = none := by
    rw [Zone.step]
    split
    · rfl
    · split <;> rfl
  rw [entriesFrom, hnone]
  rfl

/-- No line starts a list of links at once. -/
theorem step_text_ne (line : String) : (Zone.text.step line).1 ≠ .links := by
  rw [Zone.step]
  split
  · decide
  · split
    · exact Zone.noConfusion
    · split <;> decide

/-- There are no links in a title, whatever it says. -/
theorem entriesFrom_title (text : String) (rest : List String) :
    ∃ zone, entriesFrom .text (title text ++ rest) = entriesFrom zone rest := by
  rw [title, List.cons_append, List.cons_append, List.nil_append, entriesFrom_of_ne (by decide),
    entriesFrom_of_ne (step_text_ne text)]
  exact ⟨_, rfl⟩

/-- A comment ends a list of links. -/
theorem step_comment (zone : Zone) {first : Char} {chars : List Char} (hfirst : first ≠ 't')
    (htext : text.toList = '.' :: '.' :: ' ' :: first :: chars) :
    zone.step text = (.text, none) := by
  have hempty : text ≠ "" := by
    rintro rfl
    cases htext
  have hmark : text ≠ ".. toctree::" := by
    rintro rfl
    simp only [String.reduceToList, List.cons.injEq, true_and] at htext
    exact hfirst htext.1.symm
  rw [Zone.step, if_neg hempty, indented?, htext]
  exact congrArg (·, none) (if_neg hmark)

theorem entriesFrom_handWritten (path : String) (rest : List String) :
    entriesFrom .links (handWritten path ++ rest) =
      (path ++ "/index") :: entriesFrom .links rest := by
  have hlive : Zone.links.step
      (".. Hand-written pages live below " ++ path ++ "/ and are never overwritten.") =
        (.text, none) :=
    step_comment _ (by decide : 'H' ≠ 't') (by simp; rfl)
  have hlist : Zone.text.step (".. List them in " ++ path ++ "/index.") = (.text, none) :=
    step_comment _ (by decide : 'L' ≠ 't') (by simp; rfl)
  have hlink : Zone.links.step (link path) = (.links, some (path ++ "/index")) := by
    rw [link, String.append_assoc]
    exact step_indent _
  calc entriesFrom .links (handWritten path ++ rest)
    _ = entriesFrom .links
          ((".. Hand-written pages live below " ++ path ++ "/ and are never overwritten.") ::
            (".. List them in " ++ path ++ "/index.") :: "" :: "More Topics" :: "-----------" ::
            "" :: ".. toctree::" :: "   :maxdepth: 1" :: "" :: link path :: rest) := rfl
    _ = entriesFrom .text ("" :: "More Topics" :: "-----------" :: "" :: ".. toctree::" ::
          "   :maxdepth: 1" :: "" :: link path :: rest) := by
      rw [entriesFrom_of_step hlive, entriesFrom_of_step hlist]
    _ = entriesFrom .links (link path :: rest) := rfl
    _ = (path ++ "/index") :: entriesFrom .links rest := by
      rw [entriesFrom, hlink]
      rfl

theorem oneLine_title (h : OneLine text) : ∀ line ∈ title text, OneLine line := by
  have hrule : OneLine (String.ofList (List.replicate text.length '=')) := by
    simp [OneLine]
  simp [title, h, hrule]

theorem oneLine_link {path : String} (h : OneLine path) : OneLine (link path) := by
  simpa [link, indent, OneLine] using h

theorem oneLine_handWritten {path : String} (h : OneLine path) :
    ∀ line ∈ handWritten path, OneLine line := by
  simpa [handWritten, OneLine] using And.intro h (oneLine_link h)

end Page

/-- What the index that links the others links. -/
def RootIndex.links (index : RootIndex) : List String :=
  (index.apipath :: (Page.given index.docpath).toList ++
    (Page.given index.writtenpath).toList).map (· ++ "/index")

namespace Page

/-- The lines between the title of the index that links the others and its first link. -/
def rootHeading : List String :=
  ["", "Table of contents", "-----------------", ".. toctree::", "   :maxdepth: 1", ""]

theorem root_eq (index : RootIndex) :
    root index = unlines (title index.package ++ (rootHeading ++
      ((index.apipath :: (given index.docpath).toList).map link ++
        (((given index.writtenpath).map handWritten).getD [] ++ [""])))) := by
  simp [root, rootHeading]

theorem oneLine_rootHeading : ∀ line ∈ rootHeading, OneLine line := by decide

theorem entriesFrom_rootHeading (zone : Zone) (rest : List String) :
    entriesFrom zone (rootHeading ++ rest) = entriesFrom .links rest := by
  cases zone <;> rfl

theorem entries_root {index : RootIndex} (hpackage : OneLine index.package)
    (h : ∀ link ∈ index.links, OneLine link) : entries (root index) = index.links := by
  have hpaths : ∀ path ∈ index.apipath :: (given index.docpath).toList ++
      (given index.writtenpath).toList, OneLine path := fun path hpath =>
    (oneLine_append.mp (h _ (List.mem_map_of_mem hpath))).1
  rw [root_eq, entries, pieces_unlines]
  · obtain ⟨zone, hzone⟩ := entriesFrom_title index.package _
    have hlink : link = (indent ++ ·) ∘ (· ++ "/index") :=
      funext fun path => String.append_assoc
    rw [List.append_assoc, hzone, List.append_assoc, entriesFrom_rootHeading,
      List.append_assoc, hlink, ← List.map_map, entriesFrom_links, RootIndex.links,
      List.map_append]
    cases given index.writtenpath with
    | none => rfl
    | some path => exact congrArg _ (entriesFrom_handWritten path _)
  · intro line hline
    simp only [List.mem_append] at hline
    rcases hline with htitle | hheading | hlinks | hwritten | hlast
    · exact oneLine_title hpackage line htitle
    · exact oneLine_rootHeading line hheading
    · obtain ⟨path, hpath, rfl⟩ := List.mem_map.mp hlinks
      exact oneLine_link (hpaths path (List.mem_append_left _ hpath))
    · cases hgiven : given index.writtenpath with
      | none => simp [hgiven] at hwritten
      | some path =>
        rw [hgiven] at hwritten
        exact oneLine_handWritten (hpaths path (by simp [hgiven])) line hwritten
    · rw [List.mem_singleton.mp hlast]
      decide

end Page

end DocStubs
