import DocStubs.Proofs.Code.Members
import Mathlib.Data.Fintype.EquivFin

/-!
# Code that does not run on import

Bodies of functions and classes, `match` statements and what stands under the test for a script do
not run when a module is imported, so what they say should not matter. Two trees `Agree` if they
differ in such code only. The walk through a module keeps a table that later statements read, so a
name that leaked out of such code could show anywhere behind it; but a tree that agrees has the
same statements that run, one for one, and these do the same to every table.

One thing stands in the way. A test for a script counts as such only if nothing stands between its
parts. If a continued line does, the code under the test is taken for code that runs, and then it
does matter: there is always another tree that agrees and has another symbol.

## Main definitions

* `Expr.TestsScript` — the test for a script, as it is written
* `Stmt.AgreesAll` — trees that differ only in code that does not run
* `Stmt.testsAll` — the conditions that are met when a module is run through

## Main results

* `Home.run_eq_of_agrees` — trees that agree leave the same table
* `Home.exists_agreeing_symbol` — code under an interrupted test matters
* `Home.symbols_independent_iff` — when code that does not run has no influence
-/

namespace DocStubs.Code

/-! ### The test for a script -/

namespace Expr

/-- The test for a script: the name of the module is compared with the script name, in either
order and with either quotes. Its parts may stand on several lines. -/
inductive TestsScript : Expr → Prop
  | nameFirst {raw : String} (quoted : raw = "\"__main__\"" ∨ raw = "'__main__'")
      (interrupted : Bool) :
      TestsScript (.comparison [.equal] [.name "__name__", .literal raw] interrupted)
  | nameLast {raw : String} (quoted : raw = "\"__main__\"" ∨ raw = "'__main__'")
      (interrupted : Bool) :
      TestsScript (.comparison [.equal] [.literal raw, .name "__name__"] interrupted)

/-- Whether a comparison has a comment or a continued line between its parts. -/
def isInterrupted : Expr → Bool
  | comparison _ _ interrupted => interrupted
  | _ => false

theorem isModuleName_iff {expr : Expr} : expr.isModuleName = true ↔ expr = .name "__name__" := by
  cases expr <;> simp [isModuleName]

theorem isScriptName_iff {expr : Expr} :
    expr.isScriptName = true ↔
      ∃ raw, (raw = "\"__main__\"" ∨ raw = "'__main__'") ∧ expr = .literal raw := by
  cases expr <;> simp [isScriptName]

/-- A test for a script counts as such if it is not interrupted. -/
theorem isMainGuard_iff {condition : Expr} :
    condition.isMainGuard = true ↔
      condition.TestsScript ∧ condition.isInterrupted = false := by
  constructor
  · intro h
    unfold isMainGuard at h
    split at h
    · rename_i left right
      simp only [Bool.or_eq_true, Bool.and_eq_true, isModuleName_iff, isScriptName_iff] at h
      rcases h with ⟨rfl, raw, hraw, rfl⟩ | ⟨⟨raw, hraw, rfl⟩, rfl⟩
      · exact ⟨.nameFirst hraw false, rfl⟩
      · exact ⟨.nameLast hraw false, rfl⟩
    · cases h
  · rintro ⟨htests, hplain⟩
    cases htests with
    | nameFirst quoted interrupted =>
      obtain rfl : interrupted = false := hplain
      simpa [isMainGuard, isModuleName, isScriptName] using quoted
    | nameLast quoted interrupted =>
      obtain rfl : interrupted = false := hplain
      simpa [isMainGuard, isModuleName, isScriptName] using quoted

end Expr

/-! ### Trees that agree -/

namespace Stmt

/-- The body of a class holds a function `__call__`, decorated or not. -/
def HoldsCall (body : List Stmt) : Prop := ∃ line inner, function line "__call__" inner ∈ body

theorem definesCall_iff {body : List Stmt} : Home.definesCall body = true ↔ HoldsCall body := by
  rw [Home.definesCall, List.any_eq_true]
  constructor
  · rintro ⟨stmt, hstmt, hcall⟩
    cases stmt with
    | function line name inner =>
      obtain rfl : name = "__call__" := of_decide_eq_true hcall
      exact ⟨line, inner, hstmt⟩
    | _ => cases hcall
  · rintro ⟨line, inner, hstmt⟩
    exact ⟨_, hstmt, rfl⟩

mutual

/-- Two statements agree but for code that does not run on import. -/
inductive Agrees : Stmt → Stmt → Prop
  | same (stmt : Stmt) : Agrees stmt stmt
  | function (line : Nat) (name : String) (body body' : List Stmt) :
      Agrees (.function line name body) (.function line name body')
  | classDef (line : Nat) (name : String) {body body' : List Stmt}
      (calls : HoldsCall body ↔ HoldsCall body') :
      Agrees (.classDef line name body) (.classDef line name body')
  | cases (line line' : Nat) (blocks blocks' : List Stmt) :
      Agrees (.cases line blocks) (.cases line' blocks')
  | script (line : Nat) {condition : Expr} (tests : condition.TestsScript)
      (body body' : List Stmt) {orelse orelse' : List Stmt} (others : AgreesAll orelse orelse') :
      Agrees (.branch line condition body orelse) (.branch line condition body' orelse')
  | branch (line : Nat) (condition : Expr) {body body' orelse orelse' : List Stmt}
      (inside : AgreesAll body body') (others : AgreesAll orelse orelse') :
      Agrees (.branch line condition body orelse) (.branch line condition body' orelse')
  | loop (line : Nat) (target : Option Target) {body body' orelse orelse' : List Stmt}
      (inside : AgreesAll body body') (others : AgreesAll orelse orelse') :
      Agrees (.loop line target body orelse) (.loop line target body' orelse')
  | block (line : Nat) {body body' : List Stmt} (inside : AgreesAll body body') :
      Agrees (.block line body) (.block line body')

/-- Two lists of statements agree one by one. -/
inductive AgreesAll : List Stmt → List Stmt → Prop
  | nil : AgreesAll [] []
  | cons {stmt stmt' : Stmt} {rest rest' : List Stmt} (first : Agrees stmt stmt')
      (others : AgreesAll rest rest') : AgreesAll (stmt :: rest) (stmt' :: rest')

end

theorem AgreesAll.refl (body : List Stmt) : AgreesAll body body := by
  induction body with
  | nil => exact .nil
  | cons stmt rest ih => exact .cons (.same stmt) ih

mutual

/-- The conditions that are met when a statement is run through. -/
def tests : Stmt → List Expr
  | .branch _ condition body orelse =>
    condition ::
      if condition.isMainGuard then testsAll orelse else testsAll body ++ testsAll orelse
  | .loop _ _ body orelse => testsAll body ++ testsAll orelse
  | .block _ body => testsAll body
  | _ => []

/-- The conditions that are met when statements are run through. -/
def testsAll : List Stmt → List Expr
  | [] => []
  | stmt :: rest => tests stmt ++ testsAll rest

end

/-- No test for a script that is met is interrupted. -/
def Plain (conditions : List Expr) : Prop :=
  ∀ condition ∈ conditions, condition.TestsScript → condition.isInterrupted = false

theorem plain_append {conditions others : List Expr} :
    Plain (conditions ++ others) ↔ Plain conditions ∧ Plain others :=
  List.forall_mem_append

theorem plain_cons {condition : Expr} {others : List Expr} :
    Plain (condition :: others) ↔
      (condition.TestsScript → condition.isInterrupted = false) ∧ Plain others :=
  List.forall_mem_cons

end Stmt

/-! ### Trees that agree bind the same -/

namespace Home

open Stmt

mutual

/-- A statement does to a table what every statement does that agrees with it. -/
theorem step_eq_of_agrees {home : Home} {stmt stmt' : Stmt} (h : Agrees stmt stmt')
    (hplain : Plain stmt.tests) (bindings : Bindings) :
    home.step bindings stmt' = home.step bindings stmt := by
  cases h with
  | same => rfl
  | function line name body body' => rfl
  | @classDef line name body body' calls =>
    have hcall : definesCall body' = definesCall body := by
      rw [Bool.eq_iff_iff, definesCall_iff, definesCall_iff, calls]
    rw [step, step, hcall]
  | cases line line' blocks blocks' => rfl
  | @script line condition tests body body' orelse orelse' others =>
    rw [Stmt.tests, plain_cons] at hplain
    have hguard : condition.isMainGuard = true :=
      Expr.isMainGuard_iff.mpr ⟨tests, hplain.1 tests⟩
    rw [if_pos hguard] at hplain
    rw [step, step, if_pos hguard, if_pos hguard]
    exact run_eq_of_agrees others hplain.2 bindings
  | @branch line condition body body' orelse orelse' inside others =>
    rw [Stmt.tests, plain_cons] at hplain
    rw [step, step]
    split
    · rename_i hguard
      rw [if_pos hguard] at hplain
      exact run_eq_of_agrees others hplain.2 bindings
    · rename_i hguard
      rw [if_neg hguard, plain_append] at hplain
      rw [run_eq_of_agrees inside hplain.2.1 bindings, run_eq_of_agrees others hplain.2.2]
  | @loop line target body body' orelse orelse' inside others =>
    rw [Stmt.tests, plain_append] at hplain
    show home.run (home.run _ body') orelse' = home.run (home.run _ body) orelse
    rw [run_eq_of_agrees inside hplain.1, run_eq_of_agrees others hplain.2]
  | @block line body body' inside =>
    rw [Stmt.tests] at hplain
    rw [step, step]
    exact run_eq_of_agrees inside hplain bindings

/-- A module leaves the table that every module leaves that agrees with it. -/
theorem run_eq_of_agrees {home : Home} {body body' : List Stmt} (h : AgreesAll body body')
    (hplain : Plain (testsAll body)) (bindings : Bindings) :
    home.run bindings body' = home.run bindings body := by
  cases h with
  | nil => rfl
  | @cons stmt stmt' rest rest' first others =>
    rw [testsAll, plain_append] at hplain
    rw [run, run, step_eq_of_agrees first hplain.1, run_eq_of_agrees others hplain.2]

end

end Home

/-! ### Names that nothing touches -/

/-- The names that a target binds. -/
def Target.touched : Target → List String
  | .name id => [id]
  | .sequence items =>
    items.filterMap fun item =>
      match item with
      | .name id => some id
      | _ => none
  | .place => []

/-- The names that a statement without blocks binds or deletes. -/
def Stmt.touched : Stmt → List String
  | .function _ id _ | .classDef _ id _ => [id]
  | .importModules _ modules => modules.map Imported.bound
  | .importNames _ _ names => names.map Imported.bound
  | .assign _ targets _ => targets.flatMap Target.touched
  | .delete _ target => Home.deleted target
  | _ => []

theorem Binding.of?_eq_none (binding : Binding) {id name : String} (h : name ≠ id) :
    binding.of? id name = none := if_neg (Ne.symm h)

theorem Target.binding?_eq_none {target : Target} {name : String} (h : name ∉ target.touched)
    (value : Expr) : target.binding? value name = none := by
  cases target with
  | name id => exact Binding.of?_eq_none _ (by simpa [touched] using h)
  | sequence items =>
    rw [binding?, List.findSome?_eq_none_iff]
    intro item hitem
    cases item with
    | name id =>
      refine Binding.of?_eq_none _ ?_
      rintro rfl
      exact h (List.mem_filterMap.mpr ⟨_, List.mem_reverse.mp hitem, rfl⟩)
    | sequence | place => rfl
  | place => rfl

/-- Imports bind only the names that they are said to bind. -/
theorem Imported.findSome?_eq_none {modules : List Imported} {name : String}
    (h : name ∉ modules.map Imported.bound) (binding : Imported → Binding) :
    modules.reverse.findSome? (fun imported => (binding imported).of? imported.bound name) =
      none := by
  rw [List.findSome?_eq_none_iff]
  intro imported hmem
  refine Binding.of?_eq_none _ ?_
  rintro rfl
  exact h (List.mem_map_of_mem (List.mem_reverse.mp hmem))

theorem Stmt.binding?_eq_none {stmt : Stmt} {name : String} (h : name ∉ stmt.touched) :
    stmt.binding? name = none := by
  cases stmt with
  | function line id body => exact Binding.of?_eq_none _ (by simpa [touched] using h)
  | classDef line id body => exact Binding.of?_eq_none _ (by simpa [touched] using h)
  | importModules line modules => exact Imported.findSome?_eq_none h _
  | importNames line origin names => exact Imported.findSome?_eq_none h _
  | assign line targets value =>
    cases value with
    | none => rfl
    | some value =>
      rw [binding?, List.findSome?_eq_none_iff]
      intro target htarget
      refine Target.binding?_eq_none (fun hmem => h ?_) value
      exact List.mem_flatMap.mpr ⟨target, List.mem_reverse.mp htarget, hmem⟩
  | delete | branch | loop | block | cases | other => rfl

theorem Stmt.effect?_eq_none {stmt : Stmt} {name : String} (h : name ∉ stmt.touched) :
    stmt.effect? name = none := by
  cases stmt with
  | delete line target => exact if_neg h
  | _ => exact congrArg (Option.map Effect.bound) (binding?_eq_none h)

/-- Statements that do not touch a name do not matter for its last binding. -/
theorem lastBinding?_append {name : String} {later : List Stmt}
    (h : ∀ stmt ∈ later, stmt.effect? name = none) (earlier : List Stmt) :
    lastBinding? name (later ++ earlier) = lastBinding? name earlier := by
  induction later with
  | nil => rfl
  | cons stmt rest ih =>
    rw [List.cons_append, lastBinding?, h stmt List.mem_cons_self]
    exact ih fun other hother => h other (List.mem_cons_of_mem _ hother)

/-- There is a name that some statements do not touch. -/
theorem exists_untouched (body : List Stmt) :
    ∃ name, ∀ stmt ∈ body, stmt.effect? name = none := by
  obtain ⟨name, hname⟩ := Infinite.exists_notMem_finset (body.flatMap Stmt.touched).toFinset
  refine ⟨name, fun stmt hstmt => Stmt.effect?_eq_none fun htouched => hname ?_⟩
  exact List.mem_toFinset.mpr (List.mem_flatMap.mpr ⟨stmt, hstmt, htouched⟩)

/-! ### Code under an interrupted test -/

namespace Stmt

/-- A statement that binds a name. -/
def binds (name : String) : Stmt := .assign 0 [.name name] (some (.compound []))

/-- Statements to which one was added that binds a name, and from which others may be missing. -/
def Adds (name : String) (before after : List Stmt) : Prop :=
  ∃ earlier later, after = earlier ++ binds name :: later ∧ earlier ⊆ before ∧ later ⊆ before

theorem Adds.append {name : String} {before after : List Stmt} (h : Adds name before after)
    (first last : List Stmt) :
    Adds name (first ++ (before ++ last)) (first ++ (after ++ last)) := by
  obtain ⟨earlier, later, rfl, hearlier, hlater⟩ := h
  refine ⟨first ++ earlier, later ++ last, by simp, ?_, ?_⟩
  · exact List.append_subset.mpr ⟨by simp, fun stmt hstmt => by simp [hearlier hstmt]⟩
  · exact List.append_subset.mpr ⟨fun stmt hstmt => by simp [hlater hstmt], by simp⟩

/-- Right under an interrupted test any name can be bound. -/
theorem exists_agrees_branch_adds {condition : Expr} (htests : condition.TestsScript)
    (hinterrupted : condition.isInterrupted = true) (name : String) (line : Nat)
    (body orelse : List Stmt) :
    ∃ stmt', Agrees (.branch line condition body orelse) stmt' ∧
      Adds name (branch line condition body orelse).executed stmt'.executed := by
  have hguard : ¬ condition.isMainGuard = true := fun hguard => by
    have hplain := (Expr.isMainGuard_iff.mp hguard).2
    rw [hinterrupted] at hplain
    cases hplain
  refine ⟨.branch line condition [binds name] orelse,
    .script line htests body [binds name] (.refl orelse), ?_⟩
  rw [executed, executed, if_neg hguard, if_neg hguard]
  exact ⟨[], executedAll orelse, rfl, List.nil_subset _, List.subset_append_right _ _⟩

mutual

/-- Under an interrupted test that is met, any name can be bound. -/
theorem exists_agrees_adds {condition : Expr} (htests : condition.TestsScript)
    (hinterrupted : condition.isInterrupted = true) (name : String) (stmt : Stmt)
    (hmet : condition ∈ stmt.tests) :
    ∃ stmt', Agrees stmt stmt' ∧ Adds name stmt.executed stmt'.executed := by
  cases stmt with
  | branch line other body orelse =>
    rw [tests] at hmet
    rcases List.mem_cons.mp hmet with rfl | hmet
    · exact exists_agrees_branch_adds htests hinterrupted name line body orelse
    · split at hmet
      · rename_i hguard
        obtain ⟨orelse', hagrees, hadds⟩ :=
          exists_agreesAll_adds htests hinterrupted name orelse hmet
        refine ⟨.branch line other body orelse', .branch line other (.refl body) hagrees, ?_⟩
        rwa [executed, executed, if_pos hguard, if_pos hguard]
      · rename_i hguard
        rw [executed, if_neg hguard]
        rcases List.mem_append.mp hmet with hmet | hmet
        · obtain ⟨body', hagrees, hadds⟩ :=
            exists_agreesAll_adds htests hinterrupted name body hmet
          refine ⟨.branch line other body' orelse, .branch line other hagrees (.refl orelse), ?_⟩
          rw [executed, if_neg hguard]
          exact hadds.append [] _
        · obtain ⟨orelse', hagrees, hadds⟩ :=
            exists_agreesAll_adds htests hinterrupted name orelse hmet
          refine ⟨.branch line other body orelse', .branch line other (.refl body) hagrees, ?_⟩
          rw [executed, if_neg hguard]
          simpa using hadds.append (executedAll body) []
  | loop line target body orelse =>
    rw [tests] at hmet
    rcases List.mem_append.mp hmet with hmet | hmet
    · obtain ⟨body', hagrees, hadds⟩ := exists_agreesAll_adds htests hinterrupted name body hmet
      refine ⟨.loop line target body' orelse, .loop line target hagrees (.refl orelse), ?_⟩
      rw [executed, executed]
      exact hadds.append _ _
    · obtain ⟨orelse', hagrees, hadds⟩ :=
        exists_agreesAll_adds htests hinterrupted name orelse hmet
      refine ⟨.loop line target body orelse', .loop line target (.refl body) hagrees, ?_⟩
      rw [executed, executed, ← List.append_assoc, ← List.append_assoc]
      simpa using hadds.append (_ ++ executedAll body) []
  | block line body =>
    rw [tests] at hmet
    obtain ⟨body', hagrees, hadds⟩ := exists_agreesAll_adds htests hinterrupted name body hmet
    refine ⟨.block line body', .block line hagrees, ?_⟩
    rwa [executed, executed]
  | function | classDef | importModules | importNames | assign | delete | cases | other =>
    cases hmet

theorem exists_agreesAll_adds {condition : Expr} (htests : condition.TestsScript)
    (hinterrupted : condition.isInterrupted = true) (name : String) (body : List Stmt)
    (hmet : condition ∈ testsAll body) :
    ∃ body', AgreesAll body body' ∧ Adds name (executedAll body) (executedAll body') := by
  cases body with
  | nil => cases hmet
  | cons stmt rest =>
    rw [testsAll] at hmet
    rw [executedAll]
    rcases List.mem_append.mp hmet with hmet | hmet
    · obtain ⟨stmt', hagrees, hadds⟩ := exists_agrees_adds htests hinterrupted name stmt hmet
      refine ⟨stmt' :: rest, .cons hagrees (.refl rest), ?_⟩
      rw [executedAll]
      exact hadds.append [] _
    · obtain ⟨rest', hagrees, hadds⟩ := exists_agreesAll_adds htests hinterrupted name rest hmet
      refine ⟨stmt :: rest', .cons (.same stmt) hagrees, ?_⟩
      rw [executedAll]
      simpa using hadds.append stmt.executed []

end

end Stmt

namespace Home

open Stmt

/-- A name that is bound anew, and that nothing else touches, has a symbol. -/
theorem exists_symbol_of_adds {name : String} {body body' : List Stmt}
    (huntouched : ∀ stmt ∈ executedAll body, stmt.effect? name = none)
    (hadds : Adds name (executedAll body) (executedAll body')) (home : Home) :
    (∃ symbol ∈ home.symbols body', symbol.name = name) ∧
      ¬ ∃ symbol ∈ home.symbols body, symbol.name = name := by
  rw [exists_symbol_iff_isSome_lastBinding?, exists_symbol_iff_isSome_lastBinding?, historyOf,
    historyOf]
  constructor
  · obtain ⟨earlier, later, hexecuted, -, hlater⟩ := hadds
    have heffect : (binds name).effect? name = some (.bound (.assigned (.compound []))) := by
      simp [binds, effect?, binding?, Target.binding?, Binding.of?]
    rw [hexecuted, List.reverse_append, List.reverse_cons, List.append_assoc,
      lastBinding?_append fun stmt hstmt => huntouched stmt (hlater (List.mem_reverse.mp hstmt)),
      List.singleton_append, lastBinding?, heffect]
    rfl
  · rw [← List.append_nil (executedAll body).reverse,
      lastBinding?_append fun stmt hstmt => huntouched stmt (List.mem_reverse.mp hstmt)]
    exact Bool.false_ne_true

/-- If an interrupted test for a script is met, some tree that agrees has another symbol. -/
theorem exists_agreeing_symbol {condition : Expr} {body : List Stmt}
    (hmet : condition ∈ testsAll body) (htests : condition.TestsScript)
    (hinterrupted : condition.isInterrupted = true) :
    ∃ body', AgreesAll body body' ∧ ∀ home : Home, home.symbols body' ≠ home.symbols body := by
  obtain ⟨name, huntouched⟩ := exists_untouched (executedAll body)
  obtain ⟨body', hagrees, hadds⟩ := exists_agreesAll_adds htests hinterrupted name body hmet
  refine ⟨body', hagrees, fun home hsame => ?_⟩
  obtain ⟨hbound, hfree⟩ := exists_symbol_of_adds huntouched hadds home
  rw [hsame] at hbound
  exact hfree hbound

/-- Code that does not run on import has no influence on the symbols of a module, whatever the
module is called, exactly if no test for a script that is met is interrupted. -/
theorem symbols_independent_iff (body : List Stmt) :
    (∀ body', AgreesAll body body' → ∀ home : Home, home.symbols body' = home.symbols body) ↔
      ∀ condition ∈ testsAll body, condition.TestsScript → condition.isInterrupted = false := by
  constructor
  · intro h condition hmet htests
    by_contra hinterrupted
    obtain ⟨body', hagrees, hother⟩ :=
      exists_agreeing_symbol hmet htests (by simpa using hinterrupted)
    exact hother default (h body' hagrees default)
  · intro hplain body' hagrees home
    rw [symbols, symbols, run_eq_of_agrees hagrees hplain]

/-- The test for a script on two lines, with a body under it. -/
def onTwoLines (body : List Stmt) : List Stmt :=
  [.branch 1 (.comparison [.equal] [.name "__name__", .literal "\"__main__\""] true) body []]

/-- A name that is bound under a test for a script on two lines is a symbol of the module. -/
theorem symbol_under_interrupted_test :
    AgreesAll (onTwoLines [.other 3]) (onTwoLines [.assign 3 [.name "a"] (some (.compound []))]) ∧
      symbols { name := "p.m" } (onTwoLines [.other 3]) = [] ∧
      symbols { name := "p.m" } (onTwoLines [.assign 3 [.name "a"] (some (.compound []))]) =
        [{ name := "a", kind := .data, line := 3 }] :=
  ⟨.cons (.script 1 (.nameFirst (Or.inl rfl) true) _ _ .nil) .nil, rfl, rfl⟩

end Home

end DocStubs.Code
