import DocStubs.Files.Path
import DocStubs.Proofs.Text.Cut
import Mathlib.Data.List.TakeWhile

/-!
# The names along a path

Paths are texts, and only the names along them matter where they are followed. This module says
what the names are for every way in which paths are put together: by joining, by putting names
after one another, by writing something after a path, and by taking the parent.

## Main definitions

* `Path.IsName` — a text that can name something in a directory

## Main results

* `Path.names_join` — the names along a joined path
* `Path.names_intercalate` — the path with given names
* `Path.names_append` — what is written after a path lengthens its last name
* `Path.names_of_parent?` — the names along the parent of a path
-/

namespace DocStubs

namespace Path

/-- A text that can name something in a directory. -/
structure IsName (name : String) : Prop where
  ne_empty : name ≠ ""
  no_slash : '/' ∉ name.toList
  ne_dot : name ≠ "."
  ne_dots : name ≠ ".."

instance (name : String) : Decidable (IsName name) :=
  decidable_of_iff (name ≠ "" ∧ '/' ∉ name.toList ∧ name ≠ "." ∧ name ≠ "..")
    ⟨fun ⟨h₁, h₂, h₃, h₄⟩ => ⟨h₁, h₂, h₃, h₄⟩, fun ⟨h₁, h₂, h₃, h₄⟩ => ⟨h₁, h₂, h₃, h₄⟩⟩

/-- What starts like a name is a name, unless a slash follows. -/
theorem isName_append {start rest : String} {first : Char}
    (hstart : start.toList.head? = some first) (hfirst : first ≠ '.')
    (hslash : '/' ∉ start.toList) (hrest : '/' ∉ rest.toList) : IsName (start ++ rest) := by
  have hhead : (start ++ rest).toList.head? = some first := by
    rw [String.toList_append, List.head?_append, hstart, Option.some_or]
  have hdotted {text : String} (htext : text.toList.head? = some '.') : start ++ rest ≠ text := by
    rintro rfl
    rw [hhead, Option.some.injEq] at htext
    exact hfirst htext
  refine ⟨fun h => ?_, ?_, hdotted (by simp), hdotted (by simp)⟩
  · rw [h] at hhead
    simp at hhead
  · rw [String.toList_append, List.mem_append, not_or]
    exact ⟨hslash, hrest⟩

/-! ### Names and slashes -/

@[simp] theorem names_empty : names "" = [] := by
  simp [names, Cut.pieces, Cut.piecesOf]

/-- A slash between two paths separates their names. -/
theorem names_append_slash (before after : String) :
    names (before ++ "/" ++ after) = names before ++ names after := by
  simp [names, Cut.pieces, Cut.piecesOf_append_cons]

theorem names_slash (path : String) : names (path ++ "/") = names path := by
  have h := names_append_slash path ""
  rwa [String.append_empty, names_empty, List.append_nil] at h

/-- A text without slashes is a single name. -/
theorem names_of_no_slash {name : String} (h : name ≠ "") (hs : '/' ∉ name.toList) :
    names name = [name] := by
  simp [names, Cut.pieces, Cut.piecesOf_of_not_mem hs, h]

theorem IsName.names_eq {name : String} (h : IsName name) : names name = [name] :=
  names_of_no_slash h.ne_empty h.no_slash

theorem IsName.isAbsolute_eq_false {name : String} (h : IsName name) :
    isAbsolute name = false := by
  simp only [isAbsolute, decide_eq_false_iff_not]
  intro hhead
  exact h.no_slash (List.mem_of_head? hhead)

theorem mem_names {path name : String} (h : name ∈ names path) :
    name ≠ "" ∧ '/' ∉ name.toList := by
  simp only [names, Cut.pieces, List.mem_filter, List.mem_map] at h
  obtain ⟨⟨piece, hpiece, rfl⟩, hname⟩ := h
  refine ⟨by simpa using hname, ?_⟩
  rw [String.toList_ofList]
  exact Cut.not_mem_of_mem_piecesOf hpiece

/-! ### Joined paths -/

theorem endsInSlash_eq_true {path : String} (h : endsInSlash path = true) :
    ∃ before, path = before ++ "/" := by
  simp only [endsInSlash, decide_eq_true_eq] at h
  obtain ⟨before, hbefore⟩ := List.getLast?_eq_some_iff.mp h
  refine ⟨String.ofList before, String.toList_inj.mp ?_⟩
  simp [hbefore]

theorem names_join (base : String) {path : String} (h : isAbsolute path = false) :
    names (join base path) = names base ++ names path := by
  rw [join]
  rw [h, Bool.false_or]
  split
  · rename_i hbase
    rw [String.isEmpty_iff.mp hbase, names_empty, List.nil_append]
  · split
    · rename_i hslash
      obtain ⟨before, rfl⟩ := endsInSlash_eq_true hslash
      rw [names_append_slash, names_slash]
    · exact names_append_slash base path

theorem isAbsolute_append {base : String} (h : base ≠ "") (path : String) :
    isAbsolute (base ++ path) = isAbsolute base := by
  have hne : base.toList ≠ [] := by simpa using h
  obtain ⟨c, rest, hbase⟩ := List.exists_cons_of_ne_nil hne
  simp [isAbsolute, hbase]

/-- A path whose last part does not start at the root starts where its first part does. -/
theorem isAbsolute_join {base path : String} (hbase : base ≠ "") (h : isAbsolute path = false) :
    isAbsolute (join base path) = isAbsolute base := by
  rw [join]
  rw [h, Bool.false_or, if_neg (by simpa using hbase)]
  split
  · exact isAbsolute_append hbase path
  · rw [String.append_assoc]
    exact isAbsolute_append hbase ("/" ++ path)

/-- A joined path ends in its last part. -/
theorem exists_join_eq_append (base path : String) :
    ∃ before, join base path = before ++ path := by
  rw [join]
  split
  · exact ⟨"", String.empty_append.symm⟩
  · split
    · exact ⟨base, rfl⟩
    · exact ⟨base ++ "/", rfl⟩

theorem endsInSlash_append (before : String) {path : String} (h : path ≠ "") :
    endsInSlash (before ++ path) = endsInSlash path := by
  have hne : path.toList ≠ [] := fun hnil => h (String.toList_eq_nil_iff.mp hnil)
  rw [endsInSlash, endsInSlash, String.toList_append, List.getLast?_append,
    List.getLast?_eq_some_getLast hne, Option.some_or]

theorem endsInSlash_join (base : String) {path : String} (h : path ≠ "") :
    endsInSlash (join base path) = endsInSlash path := by
  obtain ⟨before, hjoin⟩ := exists_join_eq_append base path
  rw [hjoin, endsInSlash_append before h]

/-- The characters of a joined path are those of its parts, and slashes. -/
theorem mem_toList_join {char : Char} (hchar : char ≠ '/') (base : String) {path : String}
    (h : isAbsolute path = false) :
    char ∈ (join base path).toList ↔ char ∈ base.toList ∨ char ∈ path.toList := by
  rw [join, h, Bool.false_or]
  split
  · rename_i hbase
    simp [String.isEmpty_iff.mp hbase]
  · split <;> simp [hchar]

/-- What is written after a path below a directory is written after its last name. -/
theorem join_append (base : String) {path : String} (h : path ≠ "") (ending : String) :
    join base (path ++ ending) = join base path ++ ending := by
  rw [join, join, isAbsolute_append h]
  split
  · rfl
  · split <;> simp only [String.append_assoc]

/-- The names along the path that puts names after one another. -/
theorem names_intercalate {parts : List String} (h : ∀ name ∈ parts, IsName name) :
    names ("/".intercalate parts) = parts := by
  induction parts with
  | nil => simp
  | cons name rest ih =>
    have hname : names name = [name] := (h name List.mem_cons_self).names_eq
    by_cases hrest : rest = []
    · subst hrest
      rw [String.intercalate_singleton, hname]
    · rw [String.intercalate_cons_of_ne_nil hrest, names_append_slash, hname,
        ih fun other hother => h other (List.mem_cons_of_mem _ hother)]
      rfl

theorem isAbsolute_intercalate {parts : List String} (h : ∀ name ∈ parts, IsName name) :
    isAbsolute ("/".intercalate parts) = false := by
  cases parts with
  | nil => rfl
  | cons name rest =>
    have hname : IsName name := h name List.mem_cons_self
    by_cases hrest : rest = []
    · subst hrest
      rw [String.intercalate_singleton, hname.isAbsolute_eq_false]
    · rw [String.intercalate_cons_of_ne_nil hrest, String.append_assoc,
        isAbsolute_append hname.ne_empty, hname.isAbsolute_eq_false]

/-! ### Writing something after a path -/

/-- The last name along a path, as far as it is written: empty after a slash. -/
theorem exists_last_name (path : String) :
    ∃ before last, '/' ∉ last.toList ∧
      (∀ ending, '/' ∉ ending.toList → ending ≠ "" →
        names (path ++ ending) = before ++ [last ++ ending]) ∧
      names path = before ++ (if last = "" then [] else [last]) := by
  obtain ⟨last, hlast, hpath⟩ := Cut.exists_last '/' path.toList
  rcases hpath with hpath | ⟨before, hpath⟩
  · obtain rfl : path = String.ofList last := String.toList_inj.mp (by simpa using hpath)
    refine ⟨[], String.ofList last, by simpa using hlast, fun ending hending hne => ?_, ?_⟩
    · rw [List.nil_append]
      exact names_of_no_slash (by simp [hne]) (by simpa using ⟨hlast, hending⟩)
    · split
      · rename_i h
        rw [h, names_empty, List.nil_append]
      · rename_i h
        exact names_of_no_slash h (by simpa using hlast)
  · obtain rfl : path = String.ofList before ++ "/" ++ String.ofList last :=
      String.toList_inj.mp (by simpa using hpath)
    refine ⟨names (String.ofList before), String.ofList last, by simpa using hlast,
      fun ending hending hne => ?_, ?_⟩
    · have hassoc : String.ofList before ++ "/" ++ String.ofList last ++ ending =
          String.ofList before ++ "/" ++ (String.ofList last ++ ending) := String.append_assoc
      have hname : names (String.ofList last ++ ending) = [String.ofList last ++ ending] :=
        names_of_no_slash (by simp [hne]) (by simpa using ⟨hlast, hending⟩)
      rw [hassoc, names_append_slash, hname]
    · rw [names_append_slash]
      split
      · rename_i h
        rw [h, names_empty]
      · rename_i h
        rw [names_of_no_slash h (by simpa using hlast)]

/-- What is written after a path lengthens its last name. -/
theorem names_append (path : String) :
    ∃ before last, ∀ ending, '/' ∉ ending.toList → ending ≠ "" →
      names (path ++ ending) = before ++ [last ++ ending] := by
  obtain ⟨before, last, -, h, -⟩ := exists_last_name path
  exact ⟨before, last, h⟩

/-! ### Parents

The parent is found from the end of a path, so the facts are about reversed paths. A path may go
on with single dots that the parent does not show, before its last name and after it. -/

/-- The names along a path that is given in reverse. -/
def namesReversed (chars : List Char) : List String := names (String.ofList chars.reverse)

theorem namesReversed_append_slash (after before : List Char) :
    namesReversed (after ++ '/' :: before) = namesReversed before ++ namesReversed after := by
  have h : String.ofList (after ++ '/' :: before).reverse =
      String.ofList before.reverse ++ "/" ++ String.ofList after.reverse :=
    String.toList_inj.mp (by simp)
  rw [namesReversed, h, names_append_slash]
  rfl

theorem namesReversed_nil : namesReversed [] = [] := names_empty

theorem namesReversed_dot : namesReversed ['.'] = ["."] := by
  simp [namesReversed, names, Cut.pieces, Cut.piecesOf]

theorem namesReversed_slashes {chars : List Char} (h : chars.all (· = '/') = true) :
    namesReversed chars = [] := by
  induction chars with
  | nil => exact namesReversed_nil
  | cons c rest ih =>
    simp only [List.all_cons, Bool.and_eq_true, decide_eq_true_eq] at h
    obtain ⟨rfl, hrest⟩ := h
    have hsplit := namesReversed_append_slash [] rest
    rw [List.nil_append, namesReversed_nil, List.append_nil] at hsplit
    rw [hsplit, ih hrest]

/-- Trimming a path only takes slashes and single dots from its end. -/
theorem namesReversed_trimReversed (chars : List Char) :
    ∃ dots, (∀ name ∈ dots, name = ".") ∧
      namesReversed chars = namesReversed (trimReversed chars) ++ dots := by
  fun_induction trimReversed chars with
  | case1 rest hrest =>
    refine ⟨[], by simp, ?_⟩
    rw [namesReversed_slashes (by simpa using hrest), namesReversed_slashes (by simp)]
    rfl
  | case2 rest hrest ih =>
    obtain ⟨dots, hdots, heq⟩ := ih
    refine ⟨dots, hdots, ?_⟩
    have hsplit := namesReversed_append_slash [] rest
    rw [List.nil_append, namesReversed_nil, List.append_nil] at hsplit
    rw [hsplit, heq]
  | case3 rest ih =>
    obtain ⟨dots, hdots, heq⟩ := ih
    refine ⟨dots ++ ["."], fun name hname => ?_, ?_⟩
    · rcases List.mem_append.mp hname with hname | hname
      · exact hdots name hname
      · exact List.mem_singleton.mp hname
    · have hdot := namesReversed_append_slash ['.'] rest
      have hslash := namesReversed_append_slash [] rest
      rw [List.nil_append, namesReversed_nil, List.append_nil] at hslash
      rw [← List.append_assoc, ← heq, hslash, ← namesReversed_dot]
      exact hdot
  | case4 chars => exact ⟨[], by simp, by simp⟩

theorem length_trimReversed_le (chars : List Char) :
    (trimReversed chars).length ≤ chars.length := by
  fun_induction trimReversed chars with
  | case1 rest hrest => simp
  | case2 rest hrest ih => exact Nat.le_succ_of_le ih
  | case3 rest ih => exact Nat.le_succ_of_le ih
  | case4 chars => exact Nat.le_refl _

/-- A trimmed path keeps its first character. -/
theorem getLast?_trimReversed (chars : List Char) :
    (trimReversed chars).getLast? = chars.getLast? := by
  fun_induction trimReversed chars with
  | case1 rest hrest =>
    cases rest with
    | nil => rfl
    | cons c rest =>
      have hne : c :: rest ≠ [] := List.cons_ne_nil c rest
      have hlast : (c :: rest).getLast hne = '/' := by
        simpa using List.all_eq_true.mp hrest _ (List.getLast_mem hne)
      rw [List.getLast?_cons_cons, List.getLast?_eq_some_getLast hne, hlast]
      rfl
  | case2 rest hrest ih =>
    cases rest with
    | nil => simp at hrest
    | cons c rest => rw [ih, List.getLast?_cons_cons]
  | case3 rest ih => rw [ih, List.getLast?_cons_cons]
  | case4 chars => rfl

/-- A trimmed path ends in a slash only if it is the root. -/
theorem eq_nil_of_trimReversed_eq_cons {chars rest : List Char}
    (h : trimReversed chars = '/' :: rest) : rest = [] := by
  fun_induction trimReversed chars with
  | case1 => simpa using h.symm
  | case2 before hbefore ih => exact ih h
  | case3 before ih => exact ih h
  | case4 chars hslash hdot => exact absurd h (hslash rest)

theorem namesReversed_of_no_slash {chars : List Char} (h : chars ≠ []) (hs : '/' ∉ chars) :
    ∃ name, namesReversed chars = [name] :=
  ⟨_, names_of_no_slash (by simpa using h) (by simpa using hs)⟩

/-- A path in reverse is split at the slash before its last name. -/
theorem dropWhile_eq_cons {chars rest : List Char} (h : chars.dropWhile (· ≠ '/') = rest)
    (hrest : rest ≠ []) :
    ∃ last before, rest = '/' :: before ∧ chars = last ++ '/' :: before ∧ '/' ∉ last := by
  obtain ⟨c, before, rfl⟩ := List.exists_cons_of_ne_nil hrest
  have hc : c = '/' := by
    have := List.head?_dropWhile_not (fun c : Char => decide (c ≠ '/')) chars
    rw [h] at this
    simpa using this
  subst hc
  refine ⟨chars.takeWhile (· ≠ '/'), before, rfl, ?_, fun hmem => ?_⟩
  · rw [← h, List.takeWhile_append_dropWhile]
  · simpa using List.all_eq_true.mp List.all_takeWhile _ hmem

/-- The parent of a path that is given in reverse and trimmed, with at least one name. -/
theorem names_of_parent_reversed {chars : List Char} {parent : String} (hne : chars ≠ [])
    (hroot : ∀ rest, chars = '/' :: rest → rest = []) (hslash : chars ≠ ['/'])
    (h : (match chars.dropWhile (· ≠ '/') with
      | [] => some ""
      | rest => some (String.ofList (trimReversed rest).reverse)) = some parent) :
    parent.length < chars.length ∧
      (parent = "" ∨ isAbsolute parent = decide (chars.getLast? = some '/')) ∧
      ∃ dots last, (∀ name ∈ dots, name = ".") ∧
        namesReversed chars = names parent ++ (dots ++ [last]) := by
  split at h
  · rename_i hdrop
    obtain rfl : "" = parent := Option.some.inj h
    have hno : '/' ∉ chars := fun hmem => by
      simpa using List.dropWhile_eq_nil_iff.mp hdrop '/' hmem
    obtain ⟨name, hname⟩ := namesReversed_of_no_slash hne hno
    exact ⟨List.length_pos_iff.mpr hne, Or.inl rfl, [], name, by simp, by simp [hname]⟩
  · rename_i hrest
    obtain ⟨last, before, hdrop, hchars, hlast⟩ := dropWhile_eq_cons rfl hrest
    obtain rfl := Option.some.inj h
    rw [hdrop]
    have hlastne : last ≠ [] := by
      rintro rfl
      have hbefore := hroot before hchars
      exact hslash (by rw [hchars, hbefore]; rfl)
    obtain ⟨name, hname⟩ := namesReversed_of_no_slash hlastne hlast
    obtain ⟨dots, hdots, hnames⟩ := namesReversed_trimReversed ('/' :: before)
    have hlength := length_trimReversed_le ('/' :: before)
    have hpos := List.length_pos_iff.mpr hlastne
    refine ⟨?_, Or.inr ?_, dots, name, hdots, ?_⟩
    · rw [hchars, String.length_ofList, List.length_reverse, List.length_append]
      omega
    · rw [hchars, List.getLast?_append, ← getLast?_trimReversed ('/' :: before)]
      have htrim : trimReversed ('/' :: before) ≠ [] := fun hnil => by
        have hnone := getLast?_trimReversed ('/' :: before)
        rw [hnil] at hnone
        exact List.cons_ne_nil '/' before (List.getLast?_eq_none_iff.mp hnone.symm)
      rw [List.getLast?_eq_some_getLast htrim, Option.some_or, isAbsolute, String.toList_ofList,
        List.head?_reverse, List.getLast?_eq_some_getLast htrim]
    · have hbefore := namesReversed_append_slash [] before
      rw [List.nil_append, namesReversed_nil, List.append_nil] at hbefore
      rw [hchars, namesReversed_append_slash, hname, ← hbefore, hnames, List.append_assoc]
      rfl

/-- Following a path is following its parent, and from there one more name; single dots apart. -/
theorem names_of_parent? {path parent : String} (h : parent? path = some parent) :
    parent.length < path.length ∧ (parent = "" ∨ isAbsolute parent = isAbsolute path) ∧
      ∃ before last after, names path = names parent ++ (before ++ last :: after) ∧
        ∀ name ∈ before ++ after, name = "." := by
  obtain ⟨after, hafter, hnames⟩ := namesReversed_trimReversed path.toList.reverse
  have hpath : namesReversed path.toList.reverse = names path := by
    rw [namesReversed, List.reverse_reverse, String.ofList_toList]
  have hlength := length_trimReversed_le path.toList.reverse
  rw [List.length_reverse, String.length_toList] at hlength
  have hfirst := getLast?_trimReversed path.toList.reverse
  rw [List.getLast?_reverse] at hfirst
  rw [parent?] at h
  split at h
  · cases h
  · cases h
  · rename_i chars hne hslash
    obtain ⟨hshort, hstart, before, last, hbefore, hparent⟩ :=
      names_of_parent_reversed hne (fun rest => eq_nil_of_trimReversed_eq_cons) hslash h
    refine ⟨Nat.lt_of_lt_of_le hshort hlength, ?_, before, last, after, ?_, fun name hname => ?_⟩
    · rwa [hfirst] at hstart
    · rw [← hpath, hnames, hparent]
      simp
    · rcases List.mem_append.mp hname with hname | hname
      · exact hbefore name hname
      · exact hafter name hname

end Path

end DocStubs
