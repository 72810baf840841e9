import DocStubs.Proofs.Code.NameTable

/-!
# Tables while a module is run through

Statements change a table in four ways only: a name is bound, a name is deleted, a name comes to
stand for a module, or a class comes to have instances that can be called. `Home.changes` lists
what a statement changes, in order, and so what is true of a table after each change is true of
every table that there is while a module is run through, in the middle of a statement as well.

The four parts of a table are kept up separately, so they could come apart: a name could stand for
a module long after it was bound to something else. They do not, because to bind or to delete a
name forgets all else about it, and because the last two changes only ever follow a binding that
warrants them.

## Main definitions

* `Change`, `Bindings.change` — the ways in which tables change
* `Home.changes`, `Home.changesAll` — what statements change
* `Home.passed` — the tables that a module passes through
* `Bindings.Sound` — the parts of a table fit

## Main results

* `Home.foldl_changes` — a statement makes its changes and nothing else
* `Bindings.Sound.change` — a warranted change keeps a table sound
* `Home.parts_fit_in_passed` — the parts of every table that a module passes through fit
-/

namespace DocStubs.Code

/-! ### Changes -/

/-- One change of a table. -/
inductive Change where
  | bind (symbol : Symbol)
  | unbind (name : String)
  /-- A name comes to stand for a module. -/
  | standFor (name target : String)
  /-- The instances of a class come to be callable. -/
  | makeCallable (name : String)
  deriving DecidableEq, Repr, Inhabited

/-- A table after a change. -/
def Bindings.change (bindings : Bindings) : Change → Bindings
  | .bind symbol => bindings.bind symbol
  | .unbind name => bindings.unbind name
  | .standFor name target => { bindings with imports := (name, target) :: bindings.imports }
  | .makeCallable name => { bindings with callables := name :: bindings.callables }

/-- The name that an import binds. -/
def Imported.bound (imported : Imported) : String := Name.bound imported.name imported.alias?

/-- The module that the name bound by a plain import stands for. -/
def Imported.target (imported : Imported) : String :=
  if imported.alias?.isSome then imported.name else imported.bound

/-- What a plain import changes. -/
def Imported.changes (line : Nat) (imported : Imported) : List Change :=
  [.bind { name := imported.bound, kind := .module, line },
    .standFor imported.bound imported.target]

/-- What binding a target to a value changes. -/
def Target.changes (line : Nat) (value : Value) : Target → List Change
  | .name id => [.bind { name := id, kind := value.kind, declaredIn := value.declaredIn, line }]
  | .sequence items =>
    items.flatMap fun item =>
      match item with
      | .name id => [.bind { name := id, kind := .data, line }]
      | _ => []
  | .place => []

namespace Home

mutual

/-- What a statement changes, given the table before it. -/
def changes (home : Home) (bindings : Bindings) : Stmt → List Change
  | .function line name _ =>
    [.bind { name, kind := .function, declaredIn := some home.name, line }]
  | .classDef line name body =>
    .bind { name, kind := .class, declaredIn := some home.name, line } ::
      if definesCall body then [.makeCallable name] else []
  | .importModules line modules => modules.flatMap (Imported.changes line)
  | .importNames line origin names =>
    names.flatMap fun imported =>
      [.bind
        { name := imported.bound, kind := .unresolved
          declaredIn := some (home.originName origin), line }]
  | .assign line targets (some value) =>
    targets.flatMap (Target.changes line (home.classify bindings value))
  | .assign _ _ none => []
  | .delete _ target => (deleted target).flatMap fun name => [.unbind name]
  | .branch _ condition body orelse =>
    if condition.isMainGuard then changesAll home bindings orelse
    else changesAll home bindings body ++ changesAll home (home.run bindings body) orelse
  | .loop line target body orelse =>
    let first := target.toList.flatMap (Target.changes line .plain)
    let started := first.foldl Bindings.change bindings
    first ++ (changesAll home started body ++ changesAll home (home.run started body) orelse)
  | .block _ body => changesAll home bindings body
  | .cases .. | .other _ => []

/-- What statements change, one after the other. -/
def changesAll (home : Home) (bindings : Bindings) : List Stmt → List Change
  | [] => []
  | stmt :: rest => changes home bindings stmt ++ changesAll home (home.step bindings stmt) rest

end

/-! ### Statements make their changes -/

/-- What is done for one item after the other, each by some changes, is done by all of them. -/
theorem foldl_change_flatMap {α : Type} {act : Bindings → α → Bindings} {made : α → List Change}
    (h : ∀ bindings item, (made item).foldl Bindings.change bindings = act bindings item)
    (items : List α) (bindings : Bindings) :
    (items.flatMap made).foldl Bindings.change bindings = items.foldl act bindings := by
  rw [List.foldl_flatMap]
  congr 1
  funext bindings item
  exact h bindings item

theorem foldl_target_changes (line : Nat) (value : Value) (bindings : Bindings) (target : Target) :
    (target.changes line value).foldl Bindings.change bindings =
      bindTarget bindings line value target := by
  cases target with
  | name id => rfl
  | sequence items =>
    refine foldl_change_flatMap (fun bindings item => ?_) items bindings
    cases item with
    | name | sequence | place => rfl
  | place => rfl

mutual

/-- A statement makes its changes and nothing else. -/
theorem foldl_changes (home : Home) (bindings : Bindings) (stmt : Stmt) :
    (home.changes bindings stmt).foldl Bindings.change bindings = home.step bindings stmt := by
  cases stmt with
  | function line name body => rfl
  | classDef line name body =>
    rw [changes, step]
    split <;> rfl
  | importModules line modules =>
    exact foldl_change_flatMap (fun _ _ => rfl) modules bindings
  | importNames line origin names =>
    exact foldl_change_flatMap (fun _ _ => rfl) names bindings
  | assign line targets value =>
    cases value with
    | none => rfl
    | some value => exact foldl_change_flatMap (foldl_target_changes line _) targets bindings
  | delete line target =>
    exact foldl_change_flatMap (fun _ _ => rfl) (deleted target) bindings
  | branch line condition body orelse =>
    rw [changes, step]
    split
    · exact foldl_changesAll home bindings orelse
    · rw [List.foldl_append, foldl_changesAll home bindings body, foldl_changesAll home _ orelse]
  | loop line target body orelse =>
    rw [changes, List.foldl_append, List.foldl_append, foldl_changesAll home _ body,
      foldl_changesAll home _ orelse]
    cases target with
    | none => rfl
    | some target =>
      rw [Option.toList_some, List.flatMap_singleton, foldl_target_changes]
      rfl
  | block line body => exact foldl_changesAll home bindings body
  | cases | other => rfl

theorem foldl_changesAll (home : Home) (bindings : Bindings) (body : List Stmt) :
    (home.changesAll bindings body).foldl Bindings.change bindings = home.run bindings body := by
  cases body with
  | nil => rfl
  | cons stmt rest =>
    rw [changesAll, List.foldl_append, foldl_changes home bindings stmt,
      foldl_changesAll home _ rest, run]

end

end Home

/-! ### Tables stay indexed -/

namespace Bindings

variable {bindings : Bindings} {home : Home}

theorem Indexed.change (h : bindings.Indexed) (change : Change) :
    (bindings.change change).Indexed := by
  cases change with
  | bind symbol => exact h.bind symbol
  | unbind name => exact h.unbind name
  | standFor name target => exact h
  | makeCallable name => exact h

theorem Indexed.foldl_change (h : bindings.Indexed) (changes : List Change) :
    (changes.foldl Bindings.change bindings).Indexed := by
  induction changes generalizing bindings with
  | nil => exact h
  | cons change rest ih => exact ih (h.change change)

theorem Indexed.step (h : bindings.Indexed) (home : Home) (stmt : Stmt) :
    (home.step bindings stmt).Indexed := by
  rw [← Home.foldl_changes]
  exact h.foldl_change _

theorem Indexed.run (h : bindings.Indexed) (home : Home) (body : List Stmt) :
    (home.run bindings body).Indexed := by
  rw [← Home.foldl_changesAll]
  exact h.foldl_change _

/-! ### Sound tables -/

/-- The parts of a table fit: names have the positions of their symbols, names that stand for
modules are bound to modules, and callable classes are bound to classes of this module. -/
structure Sound (bindings : Bindings) (home : Home) : Prop where
  indexed : bindings.Indexed
  imports : ∀ item ∈ bindings.imports,
    (bindings.lookup? item.1).map Value.ofSymbol = some { kind := .module }
  callables : ∀ name ∈ bindings.callables,
    (bindings.lookup? name).map Value.ofSymbol =
      some { kind := .class, declaredIn := some home.name }

/-- What a change takes for granted. -/
def Warrants (bindings : Bindings) (home : Home) : Change → Prop
  | .bind _ | .unbind _ => True
  | .standFor name _ => (bindings.lookup? name).map Value.ofSymbol = some { kind := .module }
  | .makeCallable name =>
    (bindings.lookup? name).map Value.ofSymbol =
      some { kind := .class, declaredIn := some home.name }

/-- A warranted change keeps a table sound. -/
theorem Sound.change (h : bindings.Sound home) {change : Change}
    (hwarrants : bindings.Warrants home change) : (bindings.change change).Sound home := by
  cases change with
  | bind symbol =>
    refine ⟨h.indexed.bind symbol, fun item hitem => ?_, fun name hname => ?_⟩
    · rw [Bindings.change, imports_bind, List.mem_filter, decide_eq_true_eq] at hitem
      rw [Bindings.change, h.indexed.value_bind, if_neg (Ne.symm hitem.2)]
      exact h.imports item hitem.1
    · rw [Bindings.change, callables_bind, List.mem_filter, decide_eq_true_eq] at hname
      rw [Bindings.change, h.indexed.value_bind, if_neg (Ne.symm hname.2)]
      exact h.callables name hname.1
  | unbind id =>
    refine ⟨h.indexed.unbind id, fun item hitem => ?_, fun name hname => ?_⟩
    · rw [Bindings.change, imports_unbind, List.mem_filter, decide_eq_true_eq] at hitem
      rw [Bindings.change, h.indexed.lookup?_unbind, if_neg (Ne.symm hitem.2)]
      exact h.imports item hitem.1
    · rw [Bindings.change, callables_unbind, List.mem_filter, decide_eq_true_eq] at hname
      rw [Bindings.change, h.indexed.lookup?_unbind, if_neg (Ne.symm hname.2)]
      exact h.callables name hname.1
  | standFor name target =>
    refine ⟨h.indexed, fun item hitem => ?_, h.callables⟩
    rcases List.mem_cons.mp hitem with rfl | hitem
    · exact hwarrants
    · exact h.imports item hitem
  | makeCallable name =>
    refine ⟨h.indexed, h.imports, fun other hother => ?_⟩
    rcases List.mem_cons.mp hother with rfl | hother
    · exact hwarrants
    · exact h.callables other hother

/-- Changes are warranted one after the other. -/
def WarrantsAll (home : Home) : Bindings → List Change → Prop
  | _, [] => True
  | bindings, change :: rest =>
    bindings.Warrants home change ∧ WarrantsAll home (bindings.change change) rest

theorem warrantsAll_append {first second : List Change} :
    WarrantsAll home bindings (first ++ second) ↔
      WarrantsAll home bindings first ∧
        WarrantsAll home (first.foldl Bindings.change bindings) second := by
  induction first generalizing bindings with
  | nil => exact (and_iff_right trivial).symm
  | cons change rest ih =>
    rw [List.cons_append, WarrantsAll, WarrantsAll, ih, and_assoc]
    rfl

theorem warrantsAll_flatMap {α : Type} {made : α → List Change}
    (h : ∀ bindings : Bindings, bindings.Indexed → ∀ item, WarrantsAll home bindings (made item))
    (hindexed : bindings.Indexed) (items : List α) :
    WarrantsAll home bindings (items.flatMap made) := by
  induction items generalizing bindings with
  | nil => trivial
  | cons item rest ih =>
    rw [List.flatMap_cons, warrantsAll_append]
    exact ⟨h bindings hindexed item, ih (hindexed.foldl_change _)⟩

/-- As long as changes are warranted, tables stay sound. -/
theorem Sound.foldl_change (h : bindings.Sound home) {changes : List Change}
    (hwarrants : WarrantsAll home bindings changes) :
    (changes.foldl Bindings.change bindings).Sound home := by
  induction changes generalizing bindings with
  | nil => exact h
  | cons change rest ih => exact ih (h.change hwarrants.1) hwarrants.2

end Bindings

/-! ### What statements change is warranted -/

namespace Home

open Bindings

variable {home : Home} {bindings : Bindings}

/-- A name that was just bound has its value. -/
theorem value_bound (hindexed : bindings.Indexed) (symbol : Symbol) :
    ((bindings.bind symbol).lookup? symbol.name).map Value.ofSymbol =
      some (Value.ofSymbol symbol) := by
  rw [hindexed.value_bind, if_pos rfl]

theorem warrantsAll_target (line : Nat) (value : Value) (hindexed : bindings.Indexed)
    (target : Target) : WarrantsAll home bindings (target.changes line value) := by
  cases target with
  | name id => exact ⟨trivial, trivial⟩
  | sequence items =>
    refine warrantsAll_flatMap (fun bindings _ item => ?_) hindexed items
    cases item with
    | name id => exact ⟨trivial, trivial⟩
    | sequence | place => trivial
  | place => trivial

mutual

theorem warrantsAll_changes (home : Home) {bindings : Bindings} (hindexed : bindings.Indexed)
    (stmt : Stmt) :
    WarrantsAll home bindings (home.changes bindings stmt) := by
  cases stmt with
  | function line name body => exact ⟨trivial, trivial⟩
  | classDef line name body =>
    rw [changes]
    refine ⟨trivial, ?_⟩
    split
    · exact ⟨value_bound hindexed _, trivial⟩
    · trivial
  | importModules line modules =>
    refine warrantsAll_flatMap (fun bindings hbindings imported => ?_) hindexed modules
    exact ⟨trivial, value_bound hbindings _, trivial⟩
  | importNames line origin names =>
    refine warrantsAll_flatMap (fun _ _ imported => ?_) hindexed names
    exact ⟨trivial, trivial⟩
  | assign line targets value =>
    cases value with
    | none => trivial
    | some value =>
      exact warrantsAll_flatMap (fun _ hbindings => warrantsAll_target line _ hbindings) hindexed
        targets
  | delete line target =>
    refine warrantsAll_flatMap (fun _ _ name => ?_) hindexed (deleted target)
    exact ⟨trivial, trivial⟩
  | branch line condition body orelse =>
    rw [changes]
    split
    · exact warrantsAll_changesAll home hindexed orelse
    · rw [warrantsAll_append, foldl_changesAll]
      exact ⟨warrantsAll_changesAll home hindexed body,
        warrantsAll_changesAll home (hindexed.run home body) orelse⟩
  | loop line target body orelse =>
    rw [changes]
    have hstarted := hindexed.foldl_change (target.toList.flatMap (Target.changes line .plain))
    rw [warrantsAll_append, warrantsAll_append, foldl_changesAll]
    refine ⟨?_, warrantsAll_changesAll home hstarted body,
      warrantsAll_changesAll home (hstarted.run home body) orelse⟩
    exact warrantsAll_flatMap (fun _ hbindings => warrantsAll_target line _ hbindings) hindexed _
  | block line body => exact warrantsAll_changesAll home hindexed body
  | cases | other => trivial

theorem warrantsAll_changesAll (home : Home) {bindings : Bindings} (hindexed : bindings.Indexed)
    (body : List Stmt) :
    WarrantsAll home bindings (home.changesAll bindings body) := by
  cases body with
  | nil => trivial
  | cons stmt rest =>
    rw [changesAll, warrantsAll_append, foldl_changes]
    exact ⟨warrantsAll_changes home hindexed stmt,
      warrantsAll_changesAll home (hindexed.step home stmt) rest⟩

end

/-! ### All tables of a module -/

/-- The table after a number of changes that a module makes. -/
def passed (home : Home) (body : List Stmt) (count : Nat) : Bindings :=
  ((home.changesAll {} body).take count).foldl Bindings.change {}

theorem sound_passed (home : Home) (body : List Stmt) (count : Nat) :
    (home.passed body count).Sound home := by
  have hempty : Sound {} home :=
    ⟨Indexed.empty, (fun _ hitem => nomatch hitem), (fun _ hname => nomatch hname)⟩
  have hall := warrantsAll_changesAll home Indexed.empty body
  rw [← List.take_append_drop count (home.changesAll {} body), warrantsAll_append] at hall
  exact hempty.foldl_change hall.1

theorem passed_length (home : Home) (body : List Stmt) :
    home.passed body (home.changesAll {} body).length = home.run {} body := by
  rw [passed, List.take_length, foldl_changesAll]

theorem exists_symbol_of_value {name : String} {value : Value}
    (h : (bindings.lookup? name).map Value.ofSymbol = some value) :
    ∃ symbol, bindings.lookup? name = some symbol ∧ symbol.kind = value.kind ∧
      symbol.declaredIn = value.declaredIn := by
  obtain ⟨symbol, hsymbol, rfl⟩ := Option.map_eq_some_iff.mp h
  exact ⟨symbol, hsymbol, rfl, rfl⟩

/-- The parts of a table fit after every change that a module makes, up to the last one. A name has
a position exactly if the symbol of that name is there, so that every position is one of the list
and there is one symbol for a name. A name that stands for a module is bound to a module that
nothing declares, and a class whose instances can be called is bound to a class of this module. -/
theorem parts_fit_in_passed (home : Home) (body : List Stmt) (count : Nat) :
    let bindings := home.passed body count
    (∀ name index, bindings.position? name = some index ↔
      ∃ inside : index < bindings.symbols.length,
        (bindings.symbols.get ⟨index, inside⟩).name = name) ∧
    (bindings.symbols.map (·.name)).Nodup ∧
    (∀ item ∈ bindings.imports, ∃ symbol, bindings.lookup? item.1 = some symbol ∧
      symbol.kind = .module ∧ symbol.declaredIn = none) ∧
    (∀ name ∈ bindings.callables, ∃ symbol, bindings.lookup? name = some symbol ∧
      symbol.kind = .class ∧ symbol.declaredIn = some home.name) ∧
    home.passed body (home.changesAll {} body).length = home.run {} body := by
  intro bindings
  have hsound : bindings.Sound home := sound_passed home body count
  refine ⟨fun name index => ?_, hsound.indexed.nodup,
    fun item hitem => exists_symbol_of_value (hsound.imports item hitem),
    fun name hname => exists_symbol_of_value (hsound.callables name hname),
    passed_length home body⟩
  rw [hsound.indexed name index, List.getElem?_eq_some_iff]
  simp

end Home

end DocStubs.Code
