import DocStubs.Code.Statement
import DocStubs.Member
import DocStubs.Proofs.Code.Deletion
import DocStubs.Proofs.Code.History
import Mathlib.Data.List.TakeDrop

/-!
# Symbols in the order of a text

A name keeps the place and the line of its first binding, goes to the end with a new line when it
is deleted and bound again, and takes its line from different forms: a loop, the first decorator of
a definition, the whole of an import. That the symbols are in the order of their lines all the same
follows in three steps, none of which is about tables. The statements that run come in the order of
the forms they are read from. Every binding has the line of its statement, so the bindings of a
history come in the order of their lines. And the symbols stand in the order of the bindings that
first bound them.

Nothing is assumed of a tree but that its forms are in order: where it does not follow the grammar,
what is read from it is still read from the front to the back.

Which line a symbol has is another matter. It is the line where the name was first bound since it
was last taken out of the table, and that need not be where it was first bound since it was last
deleted. In `def f` on line 1, `f.x = 1`, `def g` on line 3, `del f.x` and `def f` on line 5,
nothing deletes `f`, but its symbol has line 5 and comes after that of `g`. `Moved` and `Stale` are
the two ways for a symbol to have a wrong line.

## Main definitions

* `Form.lines`, `Form.InDocumentOrder` — the lines along a walk through a tree
* `openingLine?` — the line where a name was first bound since some kind of statement
* `Moved`, `Stale` — names with another line than that of their first binding since a deletion

## Main results

* `Stmt.follows_ofForm` — the statements that run come in the order of a tree
* `Home.pairwise_changesAll` — bindings come in the order of the statements that run
* `Home.line_table` — the line of a symbol, from the statements that run
* `Home.symbols_in_document_order` — symbols are in the order of their lines, and the members are
  listed by the lines of their first bindings unless these are moved or stale
-/

namespace DocStubs.Code

/-! ### Lines along a walk -/

namespace Form

mutual

/-- The lines where forms start, along the walk that meets each form before its parts. -/
def lines : Form → List Nat
  | mk _ start _ _ parts => start.line :: linesOf parts

/-- The lines where some forms and all forms in them start. -/
def linesOf : List Form → List Nat
  | [] => []
  | part :: rest => part.lines ++ linesOf rest

end

/-- Lines count from one, and do not decrease along the walk. -/
def InDocumentOrder (form : Form) : Prop := (1 :: form.lines).Pairwise (· ≤ ·)

instance (form : Form) : Decidable form.InDocumentOrder :=
  inferInstanceAs (Decidable ((1 :: form.lines).Pairwise (· ≤ ·)))

theorem lines_eq (form : Form) : form.lines = form.line :: linesOf form.parts := by
  cases form
  rfl

theorem linesOf_eq_flatMap (forms : List Form) : linesOf forms = forms.flatMap lines := by
  induction forms with
  | nil => rfl
  | cons form rest ih => rw [linesOf, ih, List.flatMap_cons]

theorem foldAll_eq_map {α : Type} (value : Form → List (Form × α) → α) (forms : List Form) :
    foldAll value forms = forms.map fun form => (form, form.fold value) := by
  induction forms with
  | nil => rfl
  | cons form rest ih => rw [foldAll, ih, List.map_cons]

end Form

/-! ### Statements in the order of a tree -/

namespace Stmt

theorem executedAll_append (first second : List Stmt) :
    executedAll (first ++ second) = executedAll first ++ executedAll second := by
  induction first with
  | nil => rfl
  | cons stmt rest ih => rw [List.cons_append, executedAll, ih, executedAll, List.append_assoc]

/-- However clauses are nested in each other, they run one after the other. -/
theorem executedAll_alternatives (lists : List (List Stmt)) :
    executedAll (alternatives lists) = executedAll lists.flatten := by
  fun_induction alternatives lists with
  | case1 => rfl
  | case2 line condition body rest ih =>
    rw [List.flatten_cons, executedAll_append, ← ih]
    simp only [executedAll, executed, List.append_nil]
    split <;> simp
  | case3 stmts rest _ ih => rw [List.flatten_cons, executedAll_append, executedAll_append, ih]

theorem executedAll_map_block (line : Nat) (lists : List (List Stmt)) :
    executedAll (lists.map (block line)) = executedAll lists.flatten := by
  induction lists with
  | nil => rfl
  | cons stmts rest ih =>
    rw [List.map_cons, executedAll, executed, ih, List.flatten_cons, executedAll_append]

/-- The lines of the statements that run. -/
def runLines (body : List Stmt) : List Nat := (executedAll body).map line

theorem runLines_append (first second : List Stmt) :
    runLines (first ++ second) = runLines first ++ runLines second := by
  rw [runLines, executedAll_append, List.map_append]
  rfl

/-- Statements run in the order of some lines: theirs are among these and do not decrease. -/
structure Follows (lines : List Nat) (body : List Stmt) : Prop where
  ordered : (runLines body).Pairwise (· ≤ ·)
  among : ∀ line ∈ runLines body, line ∈ lines

namespace Follows

variable {lines : List Nat} {body : List Stmt} {form : Form}

/-- Statements that all have the line of the form they are read from. -/
theorem of_line (h : ∀ line ∈ runLines body, line = form.line) : Follows form.lines body := by
  refine ⟨List.pairwise_of_forall_mem_list fun line hline other hother => ?_, fun line hline => ?_⟩
  · exact Nat.le_of_eq ((h line hline).trans (h other hother).symm)
  · rw [h line hline, Form.lines_eq]
    exact List.mem_cons_self

theorem mono {other : List Stmt} (h : Follows lines body)
    (hlines : (runLines other).Sublist (runLines body)) : Follows lines other :=
  ⟨h.ordered.sublist hlines, fun line hline => h.among line (hlines.subset hline)⟩

/-- Statements that are read from the parts of a form. -/
theorem of_parts (h : Follows (Form.linesOf form.parts) body) : Follows form.lines body := by
  refine ⟨h.ordered, fun line hline => ?_⟩
  rw [Form.lines_eq]
  exact List.mem_cons_of_mem _ (h.among line hline)

end Follows

/-! ### Statements of the parts of a form -/

section Parts

variable {form : Form} {forms kept : List Form}

/-- The statements of a form, given those of its parts. -/
theorem ofForm_eq (form : Form) :
    ofForm form =
      match form.label with
      | .element (.phrase phrase) =>
        ofPhrase form (form.parts.map fun part => (part, ofForm part)) phrase
      | _ => [] := by
  cases form with
  | mk label start stop isFaulty parts =>
    rw [ofForm, Form.fold, Form.foldAll_eq_map]
    rfl

theorem runLines_flatMap (forms : List Form) :
    runLines (forms.flatMap ofForm) = forms.flatMap fun form => runLines (ofForm form) := by
  induction forms with
  | nil => rfl
  | cons form rest ih => rw [List.flatMap_cons, runLines_append, ih, List.flatMap_cons]

/-- The statements of some of the forms of a list, if each form is in order. -/
theorem follows_flatMap (hlines : (Form.linesOf forms).Pairwise (· ≤ ·))
    (hforms : ∀ form ∈ forms, Follows form.lines (ofForm form)) (hkept : kept.Sublist forms) :
    Follows (Form.linesOf forms) (kept.flatMap ofForm) := by
  rw [Form.linesOf_eq_flatMap] at hlines ⊢
  refine ⟨?_, fun line hline => ?_⟩
  · rw [runLines_flatMap, List.pairwise_flatMap]
    refine ⟨fun form hform => (hforms form (hkept.subset hform)).ordered, ?_⟩
    refine ((List.pairwise_flatMap.mp hlines).2.sublist hkept).imp_of_mem ?_
    intro form other hform hother hle line hline line' hline'
    exact hle line ((hforms form (hkept.subset hform)).among line hline) line'
      ((hforms other (hkept.subset hother)).among line' hline')
  · rw [runLines_flatMap, List.mem_flatMap] at hline
    obtain ⟨form, hform, hline⟩ := hline
    exact List.mem_flatMap.mpr
      ⟨form, hkept.subset hform, (hforms form (hkept.subset hform)).among line hline⟩

theorem within_map (phrases : List Phrase) (forms : List Form) :
    within phrases (forms.map fun form => (form, ofForm form)) =
      (forms.filter fun form => phrases.any form.isPhrase).map ofForm := by
  rw [within, List.filter_map, List.map_map]
  rfl

theorem atClause_map (forms : List Form) :
    atClause (forms.map fun form => (form, ofForm form)) =
      ((forms.takeWhile (!·.isClause)).map fun form => (form, ofForm form),
        (forms.dropWhile (!·.isClause)).map fun form => (form, ofForm form)) := by
  rw [atClause, List.span_eq_takeWhile_dropWhile, List.takeWhile_map, List.dropWhile_map]
  rfl

theorem ofForm_of_isPhrase {phrase : Phrase} (h : form.isPhrase phrase = true) :
    ofForm form = ofPhrase form (form.parts.map fun part => (part, ofForm part)) phrase := by
  rw [Form.isPhrase, decide_eq_true_eq] at h
  rw [ofForm_eq, h]

theorem executed_of_isSimple {stmt : Stmt} (h : stmt.isSimple = true) : stmt.executed = [stmt] := by
  cases stmt with
  | branch | loop | block => cases h
  | _ => rfl

/-- Statements that have no blocks and the line of the form they are read from. -/
theorem follows_of_isSimple {body : List Stmt}
    (h : ∀ stmt ∈ body, stmt.isSimple = true ∧ stmt.line = form.line) :
    Follows form.lines body := by
  refine Follows.of_line fun line hline => ?_
  have hrun : executedAll body = body := by
    clear hline
    induction body with
    | nil => rfl
    | cons stmt rest ih =>
      obtain ⟨hstmt, hrest⟩ := List.forall_mem_cons.mp h
      rw [executedAll, executed_of_isSimple hstmt.1, ih hrest, List.singleton_append]
  rw [runLines, hrun, List.mem_map] at hline
  obtain ⟨stmt, hstmt, rfl⟩ := hline
  exact (h stmt hstmt).2

theorem follows_singleton {stmt : Stmt} (hsimple : stmt.isSimple = true)
    (hline : stmt.line = form.line) : Follows form.lines [stmt] :=
  follows_of_isSimple fun _ hstmt => List.mem_singleton.mp hstmt ▸ ⟨hsimple, hline⟩

theorem follows_ofImportFrom (form : Form) : Follows form.lines [ofImportFrom form] := by
  rw [ofImportFrom]
  split
  · exact follows_singleton rfl rfl
  · exact follows_singleton rfl rfl

theorem follows_ofExpression (form : Form) : Follows form.lines [ofExpression form] := by
  rw [ofExpression]
  split
  · split
    · exact follows_singleton rfl rfl
    · exact follows_singleton rfl rfl
  · exact follows_singleton rfl rfl

/-- A definition has the line of its first decorator. -/
theorem follows_decorated (form : Form) :
    Follows form.lines ((within [.functionDefinition, .classDefinition]
      (form.parts.map fun part => (part, ofForm part))).flatten.map (decoratedAt form.line)) := by
  refine follows_of_isSimple fun stmt hstmt => ?_
  rw [within_map, List.mem_map] at hstmt
  obtain ⟨old, hold, rfl⟩ := hstmt
  obtain ⟨stmts, hstmts, hold⟩ := List.mem_flatten.mp hold
  obtain ⟨part, hpart, rfl⟩ := List.mem_map.mp hstmts
  have hkind : part.isPhrase .functionDefinition = true ∨
      part.isPhrase .classDefinition = true := by
    simpa using (List.mem_filter.mp hpart).2
  rcases hkind with hkind | hkind
  · rw [ofForm_of_isPhrase hkind, ofPhrase, List.mem_singleton] at hold
    rw [hold]
    exact ⟨rfl, rfl⟩
  · rw [ofForm_of_isPhrase hkind, ofPhrase, List.mem_singleton] at hold
    rw [hold]
    exact ⟨rfl, rfl⟩

variable (hlines : form.lines.Pairwise (· ≤ ·))
  (hparts : ∀ part ∈ form.parts, Follows part.lines (ofForm part))

include hlines hparts

/-- The statements of some parts of a form. -/
theorem follows_parts (hkept : kept.Sublist form.parts) :
    Follows (Form.linesOf form.parts) (kept.flatMap ofForm) := by
  rw [Form.lines_eq] at hlines
  exact follows_flatMap (List.pairwise_cons.mp hlines).2 hparts hkept

theorem follows_within (phrases : List Phrase) :
    Follows form.lines
      (within phrases (form.parts.map fun part => (part, ofForm part))).flatten := by
  rw [within_map, ← List.flatMap_def]
  exact (follows_parts hlines hparts List.filter_sublist).of_parts

/-- The blocks of a statement and the clauses after them, one after the other. -/
theorem follows_clauses :
    Follows (Form.linesOf form.parts)
      (blocks (atClause (form.parts.map fun part => (part, ofForm part))).1 ++
        (clausesIn (atClause (form.parts.map fun part => (part, ofForm part))).2).flatten) := by
  rw [atClause_map, blocks, clausesIn, within_map, within_map, ← List.flatMap_def,
    ← List.flatMap_def, ← List.flatMap_append]
  refine follows_parts hlines hparts ?_
  conv_rhs => rw [← List.takeWhile_append_dropWhile (p := fun part => !part.isClause)
    (l := form.parts)]
  exact List.filter_sublist.append List.filter_sublist

/-- A loop binds its target before its blocks run. -/
theorem follows_loop (target : Option Target) :
    Follows form.lines
      [loop form.line target (blocks (atClause (form.parts.map fun part => (part, ofForm part))).1)
        (clausesIn (atClause (form.parts.map fun part => (part, ofForm part))).2).flatten] := by
  have hinside := follows_clauses hlines hparts
  generalize blocks _ = body, List.flatten _ = orelse at hinside ⊢
  have hrun : runLines [loop form.line target body orelse] =
      target.toList.map (fun _ => form.line) ++ runLines (body ++ orelse) := by
    rw [runLines_append]
    simp [runLines, executedAll, executed, line, Function.comp_def]
  rw [Form.lines_eq] at hlines
  have hfirst := (List.pairwise_cons.mp hlines).1
  refine ⟨?_, fun line hline => ?_⟩
  · rw [hrun, List.pairwise_append]
    refine ⟨?_, hinside.ordered, fun line hline other hother => ?_⟩
    · cases target <;> simp
    · obtain ⟨_, -, rfl⟩ := List.mem_map.mp hline
      exact hfirst other (hinside.among other hother)
  · rw [hrun, List.mem_append] at hline
    rw [Form.lines_eq]
    rcases hline with hline | hline
    · obtain ⟨_, -, rfl⟩ := List.mem_map.mp hline
      exact List.mem_cons_self
    · exact List.mem_cons_of_mem _ (hinside.among line hline)

/-- A conditional statement runs its blocks, unless only a script does, and then its clauses. -/
theorem follows_branch (condition : Expr) :
    Follows form.lines
      [branch form.line condition
        (blocks (atClause (form.parts.map fun part => (part, ofForm part))).1)
        (alternatives
          (clausesIn (atClause (form.parts.map fun part => (part, ofForm part))).2))] := by
  refine (follows_clauses hlines hparts).of_parts.mono ?_
  generalize blocks _ = body, clausesIn _ = others
  rw [runLines_append, runLines, runLines, runLines, executedAll, executed,
    executedAll_alternatives]
  split
  · simp [executedAll]
  · simp [executedAll]

/-- The statements of a phrase run in its order, whatever phrase it is. -/
theorem follows_ofPhrase (phrase : Phrase) :
    Follows form.lines
      (ofPhrase form (form.parts.map fun part => (part, ofForm part)) phrase) := by
  have hnothing : Follows form.lines [] := ⟨List.Pairwise.nil, fun _ hline => nomatch hline⟩
  have hblocks : Follows form.lines (blocks (form.parts.map fun part => (part, ofForm part))) :=
    follows_within hlines hparts _
  have hwithin : Follows form.lines
      [block form.line (blocks (form.parts.map fun part => (part, ofForm part)))] := by
    refine hblocks.mono ?_
    simp [runLines, executedAll, executed]
  cases phrase with
  | functionDefinition | classDefinition | importStatement | futureImport | matchStatement
  | passStatement | breakStatement | continueStatement | returnStatement | raiseStatement
  | printStatement | assertStatement | globalStatement | nonlocalStatement | execStatement
  | typeAliasStatement => exact follows_singleton rfl rfl
  | decoratedDefinition => exact follows_decorated form
  | importFrom => exact follows_ofImportFrom form
  | expressionStatement => exact follows_ofExpression form
  | deleteStatement =>
    refine follows_of_isSimple fun stmt hstmt => ?_
    obtain ⟨target, -, rfl⟩ := List.mem_map.mp hstmt
    exact ⟨rfl, rfl⟩
  | ifStatement => exact follows_branch hlines hparts _
  | elifClause =>
    refine hblocks.mono ?_
    rw [ofPhrase, runLines, runLines, executedAll, executed]
    split <;> simp [executedAll]
  | forStatement | whileStatement => exact follows_loop hlines hparts _
  | tryStatement =>
    have hclauses := follows_within hlines hparts
      [.block, .exceptClause, .exceptGroupClause, .elseClause, .finallyClause]
    refine hclauses.mono ?_
    rw [ofPhrase, runLines, executedAll_map_block]
    exact List.Sublist.refl _
  | withStatement | caseClause => exact hwithin
  | elseClause | exceptClause | exceptGroupClause | finallyClause => exact hblocks
  | module | block | matchBlock =>
    rw [ofPhrase, List.map_map]
    exact (follows_parts hlines hparts (List.Sublist.refl _)).of_parts
  | _ => exact hnothing

end Parts

mutual

/-- The statements that run come in the order of the tree that they are read from. -/
theorem follows_ofForm (form : Form) (h : form.lines.Pairwise (· ≤ ·)) :
    Follows form.lines (ofForm form) := by
  cases form with
  | mk label start stop isFaulty parts =>
    have hparts := follows_ofForm_of_mem parts (List.pairwise_cons.mp h).2
    rw [ofForm_eq]
    split
    · exact follows_ofPhrase h hparts _
    · exact ⟨List.Pairwise.nil, fun _ hline => nomatch hline⟩

theorem follows_ofForm_of_mem (forms : List Form) (h : (Form.linesOf forms).Pairwise (· ≤ ·)) :
    ∀ form ∈ forms, Follows form.lines (ofForm form) := by
  cases forms with
  | nil => exact List.forall_mem_nil _
  | cons form rest =>
    obtain ⟨hform, hrest, -⟩ := List.pairwise_append.mp h
    exact List.forall_mem_cons.mpr ⟨follows_ofForm form hform, follows_ofForm_of_mem rest hrest⟩

end

end Stmt

/-! ### Bindings in the order of statements -/

/-- What a change can be that a statement without blocks makes: a binding has the line of the
statement, and only a statement that takes a name out of the table unbinds it. -/
def Change.MadeBy (stmt : Stmt) : Change → Prop
  | .bind symbol => symbol.line = stmt.line
  | .unbind name => stmt.unbinds name = true
  | .standFor .. | .makeCallable .. => True

namespace Home

variable {home : Home} {bindings : Bindings}

theorem madeBy_of_mem_targetChanges (stmt : Stmt) {value : Value} {target : Target}
    {change : Change} (h : change ∈ target.changes stmt.line value) : change.MadeBy stmt := by
  cases target with
  | name id =>
    obtain rfl := List.mem_singleton.mp h
    rfl
  | sequence items =>
    obtain ⟨item, -, hitem⟩ := List.mem_flatMap.mp h
    cases item with
    | name id =>
      obtain rfl := List.mem_singleton.mp hitem
      rfl
    | sequence | place => cases hitem
  | place => cases h

theorem madeBy_of_mem_changes {stmt : Stmt} {change : Change} (hsimple : stmt.isSimple = true)
    (h : change ∈ home.changes bindings stmt) : change.MadeBy stmt := by
  cases stmt with
  | function line name body =>
    obtain rfl := List.mem_singleton.mp h
    rfl
  | classDef line name body =>
    rcases List.mem_cons.mp h with rfl | h
    · rfl
    · split at h
      · obtain rfl := List.mem_singleton.mp h
        trivial
      · cases h
  | importModules line modules =>
    obtain ⟨imported, -, himported⟩ := List.mem_flatMap.mp h
    rcases List.mem_cons.mp himported with rfl | h
    · rfl
    · obtain rfl := List.mem_singleton.mp h
      trivial
  | importNames line origin names =>
    obtain ⟨imported, -, himported⟩ := List.mem_flatMap.mp h
    obtain rfl := List.mem_singleton.mp himported
    rfl
  | assign line targets value =>
    cases value with
    | none => cases h
    | some value =>
      obtain ⟨target, -, htarget⟩ := List.mem_flatMap.mp h
      exact madeBy_of_mem_targetChanges (.assign line targets (some value)) htarget
  | delete line target =>
    obtain ⟨name, hname, hchange⟩ := List.mem_flatMap.mp h
    obtain rfl := List.mem_singleton.mp hchange
    rw [deleted_eq] at hname
    exact decide_eq_true hname
  | cases | other => cases h
  | branch | loop | block => cases hsimple

/-- The bindings of a statement have its line. -/
theorem line_of_mem_changes {stmt : Stmt} {symbol : Symbol} (hsimple : stmt.isSimple = true)
    (h : .bind symbol ∈ home.changes bindings stmt) : symbol.line = stmt.line :=
  madeBy_of_mem_changes hsimple h

theorem run_eq_foldl (home : Home) (bindings : Bindings) (body : List Stmt) :
    home.run bindings body = body.foldl home.step bindings := by
  induction body generalizing bindings with
  | nil => rfl
  | cons stmt rest ih => rw [run, ih, List.foldl_cons]

theorem run_executed (home : Home) (bindings : Bindings) (stmt : Stmt) :
    home.run bindings stmt.executed = home.step bindings stmt := by
  rw [run_eq_foldl, ← step_eq]

theorem run_executedAll (home : Home) (bindings : Bindings) (body : List Stmt) :
    home.run bindings (Stmt.executedAll body) = home.run bindings body := by
  rw [run_eq_foldl, ← run_eq]

theorem changesAll_append (home : Home) (bindings : Bindings) (first second : List Stmt) :
    home.changesAll bindings (first ++ second) =
      home.changesAll bindings first ++ home.changesAll (home.run bindings first) second := by
  induction first generalizing bindings with
  | nil => rfl
  | cons stmt rest ih =>
    rw [List.cons_append, changesAll, ih, changesAll, run, List.append_assoc]

mutual

/-- A statement changes what the statements change that run for it. -/
theorem changesAll_executed (home : Home) (bindings : Bindings) (stmt : Stmt) :
    home.changesAll bindings stmt.executed = home.changes bindings stmt := by
  cases stmt with
  | branch line condition body orelse =>
    rw [Stmt.executed, changes]
    split
    · exact changesAll_executedAll home bindings orelse
    · rw [changesAll_append, run_executedAll, changesAll_executedAll home bindings body,
        changesAll_executedAll home _ orelse]
  | loop line target body orelse =>
    have hfirst : home.changesAll bindings (target.toList.map fun target =>
        .assign line [target] (some (.compound []))) =
          target.toList.flatMap (Target.changes line .plain) := by
      cases target with
      | none => rfl
      | some target => exact List.append_nil _
    rw [Stmt.executed, changesAll_append, changesAll_append, ← foldl_changesAll, hfirst,
      run_executedAll, changesAll_executedAll home _ body, changesAll_executedAll home _ orelse,
      changes]
  | block line body => exact changesAll_executedAll home bindings body
  | function | classDef | importModules | importNames | assign | delete | cases | other =>
    exact List.append_nil _

theorem changesAll_executedAll (home : Home) (bindings : Bindings) (body : List Stmt) :
    home.changesAll bindings (Stmt.executedAll body) = home.changesAll bindings body := by
  cases body with
  | nil => rfl
  | cons stmt rest =>
    rw [Stmt.executedAll, changesAll_append, changesAll_executed home bindings stmt, run_executed,
      changesAll_executedAll home _ rest, changesAll]

end

end Home

/-! ### Symbols in the order of bindings -/

namespace Change

/-- The first of two bindings has no later line than the second. -/
def InOrder : Change → Change → Prop
  | bind first, bind second => first.line ≤ second.line
  | _, _ => True

end Change

namespace Home

/-- The bindings of statements that have no blocks come in the order of the statements. -/
theorem pairwise_changesAll_of_isSimple (home : Home) (bindings : Bindings) {stmts : List Stmt}
    (hsimple : ∀ stmt ∈ stmts, stmt.isSimple = true)
    (hlines : (stmts.map Stmt.line).Pairwise (· ≤ ·)) :
    (home.changesAll bindings stmts).Pairwise Change.InOrder ∧
      ∀ symbol, .bind symbol ∈ home.changesAll bindings stmts →
        symbol.line ∈ stmts.map Stmt.line := by
  induction stmts generalizing bindings with
  | nil => exact ⟨.nil, fun _ h => nomatch h⟩
  | cons stmt rest ih =>
    obtain ⟨hstmt, hrest⟩ := List.forall_mem_cons.mp hsimple
    obtain ⟨hfirst, hlines⟩ := List.pairwise_cons.mp hlines
    obtain ⟨hordered, hamong⟩ := ih (home.step bindings stmt) hrest hlines
    rw [changesAll, List.pairwise_append]
    refine ⟨⟨List.pairwise_of_forall_mem_list fun change hchange other hother => ?_, hordered,
      fun change hchange other hother => ?_⟩, fun symbol hsymbol => ?_⟩
    · cases change with
      | bind first =>
        cases other with
        | bind second =>
          exact Nat.le_of_eq ((line_of_mem_changes hstmt hchange).trans
            (line_of_mem_changes hstmt hother).symm)
        | unbind | standFor | makeCallable => trivial
      | unbind | standFor | makeCallable => trivial
    · cases change with
      | bind first =>
        cases other with
        | bind second =>
          have hle := hfirst second.line (hamong second hother)
          rwa [← line_of_mem_changes hstmt hchange] at hle
        | unbind | standFor | makeCallable => trivial
      | unbind | standFor | makeCallable => trivial
    · rw [List.map_cons]
      rcases List.mem_append.mp hsymbol with hsymbol | hsymbol
      · rw [line_of_mem_changes hstmt hsymbol]
        exact List.mem_cons_self
      · exact List.mem_cons_of_mem _ (hamong symbol hsymbol)

/-- The bindings of a module come in the order of the statements that run. -/
theorem pairwise_changesAll (home : Home) {lines : List Nat} {body : List Stmt}
    (h : Stmt.Follows lines body) :
    (home.changesAll {} body).Pairwise Change.InOrder ∧
      ∀ symbol, .bind symbol ∈ home.changesAll {} body → symbol.line ∈ lines := by
  obtain ⟨hordered, hamong⟩ :=
    home.pairwise_changesAll_of_isSimple {} (Stmt.isSimple_of_mem_executedAll body) h.ordered
  rw [changesAll_executedAll] at hordered hamong
  exact ⟨hordered, fun symbol hsymbol => h.among _ (hamong symbol hsymbol)⟩

end Home

section Openings

variable {changes : List Change} {symbol : Symbol}

/-- A symbol in force has the line of some binding. -/
theorem exists_bind_of_mem_inForce (h : symbol ∈ inForce changes) :
    ∃ first, .bind first ∈ changes ∧ first.line = symbol.line := by
  obtain ⟨index, -, hbound⟩ := List.mem_filterMap.mp h
  obtain ⟨first, last, hfirst, -, -, rfl⟩ := boundAt?_eq_some_iff.mp hbound
  exact ⟨first, List.mem_of_getElem? hfirst, rfl⟩

/-- The symbols in force have their lines in order if the bindings of the history have. -/
theorem pairwise_inForce (h : changes.Pairwise Change.InOrder) :
    (inForce changes).Pairwise fun symbol other => symbol.line ≤ other.line := by
  refine List.Pairwise.filterMap _ ?_ List.pairwise_lt_range
  intro index index' hlt symbol hsymbol other hother
  obtain ⟨first, last, hfirst, -, -, rfl⟩ := boundAt?_eq_some_iff.mp hsymbol
  obtain ⟨second, last', hsecond, -, -, rfl⟩ := boundAt?_eq_some_iff.mp hother
  obtain ⟨hindex, hfirst⟩ := List.getElem?_eq_some_iff.mp hfirst
  obtain ⟨hindex', hsecond⟩ := List.getElem?_eq_some_iff.mp hsecond
  have hle := List.pairwise_iff_getElem.mp h index index' hindex hindex' hlt
  rwa [hfirst, hsecond] at hle

end Openings

/-! ### The lines of symbols -/

/-- The line where a name was first bound after the last statement of some kind. Statements are
listed from the last one back. -/
def openingLine? (ends : Stmt → Bool) (name : String) (history : List Stmt) : Option Nat :=
  ((history.takeWhile (!ends ·)).reverse.find? fun stmt => (stmt.binding? name).isSome).map
    Stmt.line

theorem openingLine?_cons (ends : Stmt → Bool) (name : String) (stmt : Stmt)
    (earlier : List Stmt) :
    openingLine? ends name (stmt :: earlier) =
      if ends stmt then none
      else (openingLine? ends name earlier).or
        (if (stmt.binding? name).isSome then some stmt.line else none) := by
  rw [openingLine?, openingLine?, List.takeWhile_cons]
  cases ends stmt with
  | true => rfl
  | false =>
    simp only [Bool.not_false, if_true, Bool.false_eq_true, if_false]
    rw [List.reverse_cons, List.find?_append, List.find?_singleton, Option.map_or]
    split <;> rfl

section Lines

variable {ends ends' : Stmt → Bool} {name : String} {history later : List Stmt} {line : Nat}

theorem openingLine?_append (h : ∀ stmt ∈ later, ends stmt = false) (earlier : List Stmt) :
    openingLine? ends name (later ++ earlier) =
      (openingLine? ends name earlier).or (openingLine? ends name later) := by
  induction later with
  | nil => exact Option.or_none.symm
  | cons stmt rest ih =>
    obtain ⟨hstmt, hrest⟩ := List.forall_mem_cons.mp h
    rw [List.cons_append, openingLine?_cons, openingLine?_cons, hstmt, ih hrest]
    simp only [Bool.false_eq_true, if_false, Option.or_assoc]

theorem openingLine?_congr (h : ∀ stmt ∈ history, ends stmt = ends' stmt) :
    openingLine? ends name history = openingLine? ends' name history := by
  induction history with
  | nil => rfl
  | cons stmt earlier ih =>
    obtain ⟨hstmt, hearlier⟩ := List.forall_mem_cons.mp h
    rw [openingLine?_cons, openingLine?_cons, hstmt, ih hearlier]

/-- Where a name was first bound, around a statement that does not bind it. -/
theorem openingLine?_around {stmt : Stmt} (h : ∀ other ∈ later, ends other = false)
    (hstmt : stmt.binding? name = none) (earlier : List Stmt) :
    openingLine? ends name (later ++ stmt :: earlier) =
      if ends stmt then openingLine? ends name later
      else (openingLine? ends name earlier).or (openingLine? ends name later) := by
  rw [openingLine?_append h, openingLine?_cons, hstmt]
  cases ends stmt with
  | true => rfl
  | false => simp

/-- A deletion of something else took a name out of the table that had been bound on another
line. -/
def Moved (history : List Stmt) (name : String) (line : Nat) : Prop :=
  ∃ later stmt earlier first, history = later ++ stmt :: earlier ∧
    (∀ other ∈ later, other.deletes name = false) ∧
    stmt.unbinds name = true ∧ stmt.deletes name = false ∧
    openingLine? (·.deletes name) name earlier = some first ∧ first ≠ line

/-- The last deletion of a name did not take it out of the table, and it was not bound on the line
since. -/
def Stale (history : List Stmt) (name : String) (line : Nat) : Prop :=
  ∃ later stmt earlier, history = later ++ stmt :: earlier ∧
    (∀ other ∈ later, other.deletes name = false) ∧
    stmt.deletes name = true ∧ stmt.unbinds name = false ∧
    openingLine? (·.deletes name) name later ≠ some line

/-- Whether a name is deleted or taken out of the table makes no difference as long as neither
happens to it. -/
theorem openingLine?_of_neither
    (h : ∀ stmt ∈ history, stmt.unbinds name = false ∧ stmt.deletes name = false) :
    openingLine? (·.deletes name) name history = openingLine? (·.unbinds name) name history :=
  openingLine?_congr fun stmt hstmt => (h stmt hstmt).2.trans (h stmt hstmt).1.symm

/-- The last statement that deletes a name or takes it out of the table, if there is one. -/
theorem exists_last_deletion (name : String) (history : List Stmt) :
    (∀ stmt ∈ history, stmt.unbinds name = false ∧ stmt.deletes name = false) ∨
      ∃ later stmt earlier, history = later ++ stmt :: earlier ∧
        (∀ other ∈ later, other.unbinds name = false ∧ other.deletes name = false) ∧
        (stmt.unbinds name = true ∨ stmt.deletes name = true) := by
  cases hfind : history.find? (fun stmt => stmt.unbinds name || stmt.deletes name) with
  | none => exact Or.inl (by simpa using List.find?_eq_none.mp hfind)
  | some stmt =>
    obtain ⟨hstmt, later, earlier, hsplit, hneither⟩ := List.find?_eq_some_iff_append.mp hfind
    exact Or.inr ⟨later, stmt, earlier, hsplit, by simpa using hneither, by simpa using hstmt⟩

/-- The line where a name was first bound since it was last taken out of the table is the one where
it was first bound since it was last deleted, unless the name was moved or its line is stale. -/
theorem openingLine?_eq_iff (h : openingLine? (·.unbinds name) name history = some line) :
    openingLine? (·.deletes name) name history = some line ↔
      ¬ Moved history name line ∧ ¬ Stale history name line := by
  constructor
  · refine fun hopening => ⟨?_, ?_⟩
    · rintro ⟨later, stmt, earlier, first, rfl, hlater, hunbinds, hdeletes, hfirst, hne⟩
      rw [openingLine?_around hlater (Stmt.binding?_of_unbinds hunbinds), hdeletes, hfirst]
        at hopening
      exact hne (Option.some.inj hopening)
    · rintro ⟨later, stmt, earlier, rfl, hlater, hdeletes, -, hne⟩
      rw [openingLine?_around hlater (Stmt.binding?_of_deletes hdeletes), hdeletes] at hopening
      exact hne hopening
  · rintro ⟨hmoved, hstale⟩
    rcases exists_last_deletion name history with
      hneither | ⟨later, stmt, earlier, rfl, hneither, hstmt⟩
    · rwa [openingLine?_of_neither hneither]
    have hunbinds := fun other hother => (hneither other hother).1
    have hdeletes := fun other hother => (hneither other hother).2
    cases hstmtUnbinds : stmt.unbinds name with
    | true =>
      have hbinding := Stmt.binding?_of_unbinds hstmtUnbinds
      rw [openingLine?_around hunbinds hbinding, if_pos hstmtUnbinds,
        ← openingLine?_of_neither hneither] at h
      rw [openingLine?_around hdeletes hbinding, h]
      cases hstmtDeletes : stmt.deletes name with
      | true => rfl
      | false =>
        cases hearlier : openingLine? (·.deletes name) name earlier with
        | none => rfl
        | some first =>
          by_contra hne
          exact hmoved ⟨later, stmt, earlier, first, rfl, hdeletes, hstmtUnbinds, hstmtDeletes,
            hearlier, fun heq => hne (congrArg some heq)⟩
    | false =>
      have hstmtDeletes := hstmt.resolve_left (Bool.eq_false_iff.mp hstmtUnbinds)
      rw [openingLine?_around hdeletes (Stmt.binding?_of_deletes hstmtDeletes),
        if_pos hstmtDeletes]
      by_contra hne
      exact hstale ⟨later, stmt, earlier, rfl, hdeletes, hstmtDeletes, hstmtUnbinds, hne⟩

theorem Faithful.not_moved (h : Faithful history) : ¬ Moved history name line := by
  rintro ⟨later, stmt, earlier, first, rfl, -, hunbinds, hdeletes, -⟩
  rw [h stmt (by simp) name, hdeletes] at hunbinds
  cases hunbinds

theorem Faithful.not_stale (h : Faithful history) : ¬ Stale history name line := by
  rintro ⟨later, stmt, earlier, rfl, -, hdeletes, hunbinds, -⟩
  rw [h stmt (by simp) name, hdeletes] at hunbinds
  cases hunbinds

end Lines

/-- The line of the symbol that a name has in a table. -/
def Bindings.line? (bindings : Bindings) (name : String) : Option Nat :=
  (bindings.lookup? name).map Symbol.line

namespace Bindings

variable {bindings : Bindings} {name : String}

/-- A name that is bound keeps its line, or gets that of the binding if it has none. -/
theorem line_bind (h : bindings.Indexed) (symbol : Symbol) (name : String) :
    (bindings.bind symbol).line? name =
      if symbol.name = name then some ((bindings.line? name).getD symbol.line)
      else bindings.line? name := by
  rw [line?, line?, h.lookup?_bind]
  split <;> rfl

/-- Changes that do not unbind a name leave its line, or give it theirs if it has none. -/
theorem line_foldl_change {line : Nat} {changes : List Change} (h : bindings.Indexed)
    (hbinds : ∀ symbol, .bind symbol ∈ changes → symbol.line = line)
    (hkeeps : .unbind name ∉ changes) :
    (changes.foldl change bindings).line? name = bindings.line? name ∨
      bindings.line? name = none ∧ (changes.foldl change bindings).line? name = some line := by
  induction changes generalizing bindings with
  | nil => exact Or.inl rfl
  | cons change rest ih =>
    rw [List.mem_cons, not_or] at hkeeps
    have hrest := ih (h.change change)
      (fun symbol hsymbol => hbinds symbol (List.mem_cons_of_mem _ hsymbol)) hkeeps.2
    rw [List.foldl_cons]
    have hfirst : (bindings.change change).line? name = bindings.line? name ∨
        bindings.line? name = none ∧ (bindings.change change).line? name = some line := by
      cases change with
      | bind symbol =>
        rw [Bindings.change, line_bind h, hbinds symbol List.mem_cons_self]
        split
        · cases bindings.line? name with
          | none => exact Or.inr ⟨rfl, rfl⟩
          | some old => exact Or.inl rfl
        · exact Or.inl rfl
      | unbind id =>
        have hne : id ≠ name := by
          rintro rfl
          exact hkeeps.1 rfl
        rw [Bindings.change, line?, h.lookup?_unbind, if_neg hne]
        exact Or.inl rfl
      | standFor id target => exact Or.inl rfl
      | makeCallable id => exact Or.inl rfl
    rcases hfirst with hfirst | ⟨hnone, hfirst⟩
    · rwa [hfirst] at hrest
    · rw [hfirst] at hrest
      rcases hrest with hrest | ⟨hrest, -⟩
      · exact Or.inr ⟨hnone, hrest⟩
      · cases hrest

theorem isSome_line? : (bindings.line? name).isSome = (bindings.known name).value.isSome := by
  simp [line?, known]

end Bindings

namespace Home

variable {home : Home} {bindings : Bindings} {name : String}

/-- A statement leaves a name with a symbol that it binds, or that had one, unless it takes the name
out of the table. -/
theorem isSome_line?_step {stmt : Stmt} (hindexed : bindings.Indexed)
    (hsimple : stmt.isSimple = true) :
    ((home.step bindings stmt).line? name).isSome =
      (!stmt.unbinds name && ((stmt.binding? name).isSome || (bindings.line? name).isSome)) := by
  rw [Bindings.isSome_line?, Bindings.isSome_line?, known_step home bindings name hindexed hsimple,
    Stmt.effect?_eq]
  cases stmt.unbinds name with
  | true => rfl
  | false =>
    cases stmt.binding? name with
    | none => rfl
    | some binding => cases binding <;> rfl

/-- What a statement does to the line of a name. -/
theorem line_step {stmt : Stmt} (hindexed : bindings.Indexed) (hsimple : stmt.isSimple = true) :
    (home.step bindings stmt).line? name =
      if stmt.unbinds name then none
      else (bindings.line? name).or
        (if (stmt.binding? name).isSome then some stmt.line else none) := by
  have hsome := @isSome_line?_step home bindings name stmt hindexed hsimple
  cases hunbinds : stmt.unbinds name with
  | true =>
    rw [hunbinds] at hsome
    exact Option.isNone_iff_eq_none.mp (by simpa using hsome)
  | false =>
    have hbinds : ∀ symbol, .bind symbol ∈ home.changes bindings stmt →
        symbol.line = stmt.line := fun symbol => line_of_mem_changes hsimple
    have hkeeps : .unbind name ∉ home.changes bindings stmt := by
      intro hunbind
      have hmade : stmt.unbinds name = true := madeBy_of_mem_changes hsimple hunbind
      rw [hunbinds] at hmade
      cases hmade
    have hline := Bindings.line_foldl_change hindexed hbinds hkeeps
    rw [foldl_changes] at hline
    rw [hunbinds] at hsome
    rcases hline with hsame | ⟨hnone, hnew⟩
    · rw [hsame] at hsome ⊢
      cases hbefore : bindings.line? name with
      | some line => rfl
      | none =>
        rw [hbefore] at hsome
        have hbinding : (stmt.binding? name).isSome = false := by simpa using hsome
        simp [hbinding]
    · rw [hnone, hnew] at hsome
      have hbinding : (stmt.binding? name).isSome = true := by simpa using hsome
      simp [hnone, hnew, hbinding]

/-- The line of a symbol is that of the first binding since the name was last taken out of the
table. -/
theorem line_table (home : Home) {history : List Stmt}
    (h : ∀ stmt ∈ history, stmt.isSimple = true) (name : String) :
    (home.table history).line? name = openingLine? (·.unbinds name) name history := by
  induction history with
  | nil => rfl
  | cons stmt earlier ih =>
    obtain ⟨hstmt, hearlier⟩ := List.forall_mem_cons.mp h
    rw [table, line_step (indexed_table home earlier) hstmt, ih hearlier, openingLine?_cons]

end Home

/-! ### Members in the order of declaration -/

theorem firsts_eq_self {α : Type} [BEq α] [LawfulBEq α] {items : List α} (h : items.Nodup) :
    firsts items = items := by
  induction items with
  | nil => rfl
  | cons item rest ih =>
    obtain ⟨hitem, hrest⟩ := List.nodup_cons.mp h
    rw [firsts, ih hrest, List.filter_eq_self.mpr]
    intro other hother
    have hne : other ≠ item := fun heq => hitem (heq ▸ hother)
    simpa using hne

/-- The members of a module in the order of declaration are its members in the order of its
symbols, if no two symbols have the same name. -/
theorem memberNames_declaration {symbols : List Symbol} (h : (symbols.map (·.name)).Nodup)
    (home : String) :
    memberNames home .declaration symbols =
      (symbols.filter (·.isMember home)).map (·.name) := by
  rw [memberNames]
  exact firsts_eq_self (h.sublist (List.filter_sublist.map _))

/-- The symbols of a tree whose forms are in order have their lines in order, from the first line
on. Each has the line where its name was first bound since it was last taken out of the table, which
is the line of its first binding since it was last deleted unless it was moved or is stale. The
members in the order of declaration are listed by the lines of their symbols, and so by those first
bindings unless one of them was moved or is stale. No name is if the names that are taken out of the
table are those that are deleted. -/
theorem Home.symbols_in_document_order (home : Home) {form : Form} (h : form.InDocumentOrder) :
    let symbols := home.symbols (Stmt.ofForm form)
    let history := historyOf (Stmt.ofForm form)
    (∀ symbol ∈ symbols, 1 ≤ symbol.line ∧
      openingLine? (·.unbinds symbol.name) symbol.name history = some symbol.line ∧
      (openingLine? (·.deletes symbol.name) symbol.name history = some symbol.line ↔
        ¬ Moved history symbol.name symbol.line ∧ ¬ Stale history symbol.name symbol.line)) ∧
    symbols.Pairwise (fun symbol other => symbol.line ≤ other.line) ∧
    (∀ module,
      memberNames module .declaration symbols =
        (symbols.filter (·.isMember module)).map (·.name) ∧
      ((memberNames module .declaration symbols).map
          (fun name => openingLine? (·.deletes name) name history) =
        (symbols.filter (·.isMember module)).map (some ·.line) ↔
        ∀ symbol ∈ symbols, symbol.isMember module = true →
          ¬ Moved history symbol.name symbol.line ∧ ¬ Stale history symbol.name symbol.line)) ∧
    (Faithful history → ∀ name line, ¬ Moved history name line ∧ ¬ Stale history name line) := by
  intro symbols history
  obtain ⟨hfrom, hlines⟩ := List.pairwise_cons.mp h
  obtain ⟨hordered, hamong⟩ := home.pairwise_changesAll (Stmt.follows_ofForm form hlines)
  have hinForce : symbols = inForce (home.changesAll {} (Stmt.ofForm form)) := by
    rw [← symbols_foldl_change, foldl_changesAll]
    rfl
  have hindexed : (home.run {} (Stmt.ofForm form)).Indexed := Bindings.Indexed.empty.run home _
  have hopening : ∀ symbol ∈ symbols,
      openingLine? (·.unbinds symbol.name) symbol.name history = some symbol.line := by
    intro symbol hsymbol
    rw [← line_table home (isSimple_of_mem_historyOf _), historyOf, ← run_eq_table,
      Bindings.line?, hindexed.lookup?_of_mem hsymbol, Option.map_some]
  have hnodup : (symbols.map (·.name)).Nodup := hindexed.nodup
  refine ⟨fun symbol hsymbol => ⟨?_, hopening symbol hsymbol,
    openingLine?_eq_iff (hopening symbol hsymbol)⟩, ?_,
    fun module => ⟨memberNames_declaration hnodup module, ?_⟩,
    fun hfaithful name line => ⟨hfaithful.not_moved, hfaithful.not_stale⟩⟩
  · rw [hinForce] at hsymbol
    obtain ⟨first, hfirst, hline⟩ := exists_bind_of_mem_inForce hsymbol
    exact hline ▸ hfrom _ (hamong first hfirst)
  · rw [hinForce]
    exact pairwise_inForce hordered
  · rw [memberNames_declaration hnodup, List.map_map, List.map_inj_left]
    simp only [List.mem_filter, and_imp, Function.comp_apply]
    refine forall_congr' fun symbol => imp_congr_right fun hsymbol => imp_congr_right fun _ => ?_
    exact openingLine?_eq_iff (hopening symbol hsymbol)

/-- A form with a text of its own. -/
def Form.spelled (element : Element) (line : Nat) (text : String) : Form :=
  .mk (.element element) { rest := text.toList, line } { rest := [], offset := text.utf8ByteSize }
    false []

/-- A phrase with some parts. -/
def Form.phrase (phrase : Phrase) (line : Nat) (parts : List Form) : Form :=
  .mk (.element (.phrase phrase)) { rest := [], line } { rest := [] } false parts

/-- A function that is deleted and, in a loop, defined again with a decorator. -/
def redefinition : Form :=
  .phrase .module 1
    [.phrase .functionDefinition 1 [.spelled (.terminal .name) 1 "a", .phrase .block 2 []],
      .phrase .importStatement 3 [.spelled (.phrase .dottedName) 3 "b"],
      .phrase .deleteStatement 4 [.spelled (.terminal .name) 4 "a"],
      .phrase .forStatement 5
        [.spelled (.terminal (.literal "for")) 5 "for", .spelled (.terminal .name) 5 "c",
          .phrase .block 6
            [.phrase .decoratedDefinition 6
              [.phrase .decorator 6 [],
                .phrase .functionDefinition 7 [.spelled (.terminal .name) 7 "a"]]]]]

theorem members_of_redefinition :
    redefinition.InDocumentOrder ∧
    ["c", "a"].map (fun name => openingLine? (·.deletes name) name
      (Home.historyOf (Stmt.ofForm redefinition))) = [some 5, some 6] := by
  have horder : redefinition.InDocumentOrder := by decide +kernel
  have hmembers : memberNames "m" .declaration
      (Home.symbols { name := "m" } (Stmt.ofForm redefinition)) = ["c", "a"] := by
    decide +kernel
  have hlines : ((Home.symbols { name := "m" } (Stmt.ofForm redefinition)).filter
      (·.isMember "m")).map (some ·.line) = [some 5, some 6] := by
    decide +kernel
  have hfaithful : Faithful (Home.historyOf (Stmt.ofForm redefinition)) := by
    repeat refine List.forall_mem_cons.mpr ⟨fun name => rfl, ?_⟩
    exact List.forall_mem_nil _
  obtain ⟨-, -, hlists, hright⟩ := Home.symbols_in_document_order { name := "m" } horder
  obtain ⟨-, hopenings⟩ := hlists "m"
  rw [hmembers, hlines] at hopenings
  exact ⟨horder, hopenings.mpr fun symbol _ _ => hright hfaithful symbol.name symbol.line⟩

/-- A function that is defined again after a field of it was deleted. -/
def fieldDeletion : Form :=
  .phrase .module 1
    [.phrase .functionDefinition 1 [.spelled (.terminal .name) 1 "f", .phrase .block 1 []],
      .phrase .functionDefinition 3 [.spelled (.terminal .name) 3 "g", .phrase .block 3 []],
      .phrase .deleteStatement 4
        [.phrase .access 4
          [.spelled (.terminal .name) 4 "f", .spelled (.terminal .name) 4 "field"]],
      .phrase .functionDefinition 5 [.spelled (.terminal .name) 5 "f", .phrase .block 5 []]]

/-- The function was never deleted and is listed by the line of its second definition. -/
theorem members_of_fieldDeletion :
    fieldDeletion.InDocumentOrder ∧
    memberNames "m" .declaration (Home.symbols { name := "m" } (Stmt.ofForm fieldDeletion)) =
      ["g", "f"] ∧
    ["g", "f"].map (fun name => openingLine? (·.deletes name) name
      (Home.historyOf (Stmt.ofForm fieldDeletion))) = [some 3, some 1] := by
  decide +kernel

end DocStubs.Code
