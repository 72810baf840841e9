import DocStubs.Proofs.Code.Changes

/-!
# The last binding of a name

The bindings of a module are collected in one pass, in a table that is read while it is built. Here
the same is said from the end: what is known of a name depends on the last statement that touched
it, and on nothing after that. If this statement deletes the name, nothing is known of it. If it
binds the name, what is known follows from the form of the binding and from the table before the
statement. The table after a statement alone would not do, since all targets of an assignment get
the value that was there before the first of them was bound.

Which statements run is settled first: `executed` takes statements out of the blocks around them,
so that what is left is a plain list.

## Main definitions

* `Stmt.executedAll` — the statements that run, without the blocks around them
* `Binding`, `Stmt.effect?` — how a statement binds a name, and what it does to a name
* `lastBinding?` — the last binding of a name that no deletion has followed
* `Home.historyOf` — the statements of a module that run, from the last one back
* `Bindings.known` — all that a table knows of a name

## Main results

* `Home.run_eq` — running a module is running the list of its executed statements
* `Home.known_step` — what a statement does to what is known of a name
* `Home.known_table` — what is known of a name follows from its last binding
-/

namespace DocStubs.Code

/-! ### The statements that run -/

namespace Stmt

mutual

/-- The statements of which a statement consists when it runs. The target of a loop is assigned
something that nothing is known of. -/
def executed : Stmt → List Stmt
  | .branch _ condition body orelse =>
    if condition.isMainGuard then executedAll orelse
    else executedAll body ++ executedAll orelse
  | .loop line target body orelse =>
    target.toList.map (fun target => .assign line [target] (some (.compound []))) ++
      (executedAll body ++ executedAll orelse)
  | .block _ body => executedAll body
  | stmt => [stmt]

/-- The statements that run, without the blocks around them. -/
def executedAll : List Stmt → List Stmt
  | [] => []
  | stmt :: rest => executed stmt ++ executedAll rest

end

/-- Whether a statement has no blocks that run. -/
def isSimple : Stmt → Bool
  | .branch .. | .loop .. | .block .. => false
  | _ => true

end Stmt

namespace Home

mutual

theorem step_eq (home : Home) (bindings : Bindings) (stmt : Stmt) :
    home.step bindings stmt = stmt.executed.foldl home.step bindings := by
  cases stmt with
  | branch line condition body orelse =>
    rw [step, Stmt.executed]
    split
    · exact run_eq home bindings orelse
    · rw [List.foldl_append, ← run_eq home bindings body, ← run_eq home _ orelse]
  | loop line target body orelse =>
    rw [Stmt.executed, List.foldl_append, List.foldl_append, ← run_eq home _ body,
      ← run_eq home _ orelse]
    cases target with
    | none => rfl
    | some target => rfl
  | block line body =>
    rw [step, Stmt.executed]
    exact run_eq home bindings body
  | function | classDef | importModules | importNames | assign | delete | cases | other => rfl

/-- Running a module is running the list of its executed statements. -/
theorem run_eq (home : Home) (bindings : Bindings) (body : List Stmt) :
    home.run bindings body = (Stmt.executedAll body).foldl home.step bindings := by
  cases body with
  | nil => rfl
  | cons stmt rest =>
    rw [run, Stmt.executedAll, List.foldl_append, ← step_eq home bindings stmt,
      ← run_eq home _ rest]

end

end Home

namespace Stmt

mutual

theorem isSimple_of_mem_executed (stmt : Stmt) : ∀ part ∈ stmt.executed, part.isSimple = true := by
  intro part hpart
  cases stmt with
  | branch line condition body orelse =>
    rw [executed] at hpart
    split at hpart
    · exact isSimple_of_mem_executedAll orelse part hpart
    · rcases List.mem_append.mp hpart with hpart | hpart
      · exact isSimple_of_mem_executedAll body part hpart
      · exact isSimple_of_mem_executedAll orelse part hpart
  | loop line target body orelse =>
    rw [executed] at hpart
    rcases List.mem_append.mp hpart with hpart | hpart
    · obtain ⟨target, -, rfl⟩ := List.mem_map.mp hpart
      rfl
    · rcases List.mem_append.mp hpart with hpart | hpart
      · exact isSimple_of_mem_executedAll body part hpart
      · exact isSimple_of_mem_executedAll orelse part hpart
  | block line body =>
    rw [executed] at hpart
    exact isSimple_of_mem_executedAll body part hpart
  | function | classDef | importModules | importNames | assign | delete | cases | other =>
    obtain rfl := List.mem_singleton.mp hpart
    rfl

theorem isSimple_of_mem_executedAll (body : List Stmt) :
    ∀ part ∈ executedAll body, part.isSimple = true := by
  intro part hpart
  cases body with
  | nil => cases hpart
  | cons stmt rest =>
    rw [executedAll] at hpart
    rcases List.mem_append.mp hpart with hpart | hpart
    · exact isSimple_of_mem_executed stmt part hpart
    · exact isSimple_of_mem_executedAll rest part hpart

end

end Stmt

/-! ### How names are bound -/

/-- How a statement binds a name. -/
inductive Binding where
  | function
  /-- By the definition of a class, whose instances can perhaps be called. -/
  | classDef (callable : Bool)
  /-- By a plain import; the name stands for a module. -/
  | imported (module : String)
  /-- By an import of names from a module. -/
  | taken (origin : Origin)
  /-- As the only name of a target that gets a value. -/
  | assigned (value : Expr)
  /-- As one of several names that a value is unpacked to. -/
  | unpacked
  deriving Inhabited

/-- What a statement does to a name. -/
inductive Effect where
  | bound (binding : Binding)
  | removed
  deriving Inhabited

/-- The binding of a name, if it is the one that is asked for. -/
def Binding.of? (binding : Binding) (id name : String) : Option Binding :=
  if id = name then some binding else none

/-- How a target binds a name. -/
def Target.binding? (value : Expr) (name : String) : Target → Option Binding
  | .name id => (Binding.assigned value).of? id name
  | .sequence items =>
    items.reverse.findSome? fun item =>
      match item with
      | .name id => Binding.unpacked.of? id name
      | _ => none
  | .place => none

/-- How a statement binds a name: within a statement, the last binding counts. -/
def Stmt.binding? (name : String) : Stmt → Option Binding
  | .function _ id _ => Binding.function.of? id name
  | .classDef _ id body => (Binding.classDef (Home.definesCall body)).of? id name
  | .importModules _ modules =>
    modules.reverse.findSome? fun imported =>
      (Binding.imported imported.target).of? imported.bound name
  | .importNames _ origin names =>
    names.reverse.findSome? fun imported => (Binding.taken origin).of? imported.bound name
  | .assign _ targets (some value) => targets.reverse.findSome? (·.binding? value name)
  | _ => none

/-- What a statement without blocks does to a name. -/
def Stmt.effect? (name : String) : Stmt → Option Effect
  | .delete _ target => if name ∈ Home.deleted target then some .removed else none
  | stmt => (stmt.binding? name).map .bound

/-- The last binding of a name that no deletion has followed, with the statements before it.
Statements are listed from the last one back. -/
def lastBinding? (name : String) : List Stmt → Option (Binding × List Stmt)
  | [] => none
  | stmt :: earlier =>
    match stmt.effect? name with
    | some (.bound binding) => some (binding, earlier)
    | some .removed => none
    | none => lastBinding? name earlier

/-! ### What a table knows of a name -/

/-- All that a table knows of a name. -/
structure Known where
  /-- What is known about its value, if it is bound. -/
  value : Option Value := none
  /-- The module that it stands for, if it is bound by a plain import. -/
  module : Option String := none
  /-- Whether it is a local class whose instances can be called. -/
  callable : Bool := false
  deriving DecidableEq, Repr, Inhabited

namespace Bindings

/-- All that a table knows of a name. -/
def known (bindings : Bindings) (name : String) : Known :=
  { value := (bindings.lookup? name).map Value.ofSymbol
    module := bindings.import? name
    callable := bindings.callables.contains name }

variable (bindings : Bindings) (name : String)

theorem contains_filter_ne (names : List String) (id : String) :
    (names.filter (· ≠ id)).contains name = (if id = name then false else names.contains name) := by
  by_cases h : id = name
  · simp [h]
  · rw [if_neg h, Bool.eq_iff_iff]
    simp [Ne.symm h]

/-- A name that is bound anew has the new value, and all else about it is forgotten. -/
theorem known_bind (h : bindings.Indexed) (symbol : Symbol) :
    (bindings.bind symbol).known name =
      if symbol.name = name then { value := some (Value.ofSymbol symbol) }
      else bindings.known name := by
  have hvalue := h.value_bind symbol name
  have himport := find?_filter_ne name Prod.fst bindings.imports symbol.name
  have hcallable := contains_filter_ne name bindings.callables symbol.name
  rw [known, import?, imports_bind, callables_bind]
  rw [hvalue, himport, hcallable]
  split <;> rfl

theorem known_unbind (h : bindings.Indexed) (id : String) :
    (bindings.unbind id).known name = if id = name then {} else bindings.known name := by
  have himport := find?_filter_ne name Prod.fst bindings.imports id
  have hcallable := contains_filter_ne name bindings.callables id
  rw [known, import?, h.lookup?_unbind, imports_unbind, callables_unbind]
  rw [himport, hcallable]
  split <;> rfl

theorem known_unbindAll (h : bindings.Indexed) (names : List String) :
    (bindings.unbindAll names).known name = if name ∈ names then {} else bindings.known name := by
  rw [unbindAll]
  induction names generalizing bindings with
  | nil => simp
  | cons id rest ih =>
    rw [List.foldl_cons, ih _ (h.unbind id), known_unbind bindings name h]
    by_cases hrest : name ∈ rest
    · simp [hrest]
    · by_cases hid : id = name
      · simp [hid]
      · simp [hrest, hid, Ne.symm hid]

theorem bindImport_eq (line : Nat) (imported : Imported) :
    bindings.bindImport line imported =
      let bound := bindings.bind { name := imported.bound, kind := .module, line }
      { bound with imports := (imported.bound, imported.target) :: bound.imports } := rfl

theorem known_bindImport (h : bindings.Indexed) (line : Nat) (imported : Imported) :
    (bindings.bindImport line imported).known name =
      if imported.bound = name then
        { value := some { kind := .module }, module := some imported.target }
      else bindings.known name := by
  have hbind := known_bind bindings name h { name := imported.bound, kind := .module, line }
  rw [bindImport_eq]
  by_cases hname : imported.bound = name
  · rw [if_pos hname] at hbind ⊢
    simp only [known, Known.mk.injEq] at hbind ⊢
    exact ⟨hbind.1, by simp [import?, hname], hbind.2.2⟩
  · rw [if_neg hname] at hbind ⊢
    rw [← hbind]
    simp [known, lookup?, position?, import?, hname]

/-- A class is remembered under its name if its instances can be called. -/
theorem known_callables (bindings : Bindings) (id : String) (hid : id ≠ name) :
    { bindings with callables := id :: bindings.callables }.known name = bindings.known name := by
  have hcallable : (id :: bindings.callables).contains name = bindings.callables.contains name := by
    simp [Ne.symm hid]
  rw [known, known]
  rw [hcallable]
  rfl

/-- Where each item of a list changes what is known of a name or leaves it, the last change
counts. -/
theorem known_foldl {α : Type} {act : Bindings → α → Bindings} {change : α → Option Known}
    (hindexed : bindings.Indexed)
    (hkeeps : ∀ bindings item, bindings.Indexed → (act bindings item).Indexed)
    (h : ∀ bindings item, bindings.Indexed →
      (act bindings item).known name = (change item).getD (bindings.known name))
    (items : List α) :
    (items.foldl act bindings).known name =
      (items.reverse.findSome? change).getD (bindings.known name) := by
  induction items generalizing bindings with
  | nil => rfl
  | cons item rest ih =>
    rw [List.foldl_cons, ih _ (hkeeps bindings item hindexed), h bindings item hindexed,
      List.reverse_cons, List.findSome?_append]
    cases rest.reverse.findSome? change <;> cases hitem : change item <;> simp [hitem]

end Bindings

/-! ### One statement -/

/-- What is known of a name after it was bound, given the table before the statement. -/
def Binding.known (home : Home) (bindings : Bindings) : Binding → Known
  | .function => { value := some { kind := .function, declaredIn := some home.name } }
  | .classDef callable =>
    { value := some { kind := .class, declaredIn := some home.name }, callable }
  | .imported module => { value := some { kind := .module }, module := some module }
  | .taken origin =>
    { value := some { kind := .unresolved, declaredIn := some (home.originName origin) } }
  | .assigned value => { value := some (home.classify bindings value) }
  | .unpacked => { value := some .plain }

/-- What is known of a name after something was done to it. -/
def Effect.known (home : Home) (bindings : Bindings) : Effect → Known
  | .bound binding => binding.known home bindings
  | .removed => {}

namespace Home

variable (home : Home) (bindings : Bindings) (name : String)

theorem getD_of? (binding : Binding) (id : String) (before : Bindings) (default : Known) :
    ((binding.of? id name).map (Binding.known home before)).getD default =
      if id = name then binding.known home before else default := by
  rw [Binding.of?]
  split <;> rfl

theorem known_importModules (h : bindings.Indexed) (line : Nat) (modules : List Imported) :
    (modules.foldl (·.bindImport line ·) bindings).known name =
      (((Stmt.importModules line modules).binding? name).map (Binding.known home bindings)).getD
        (bindings.known name) := by
  rw [Stmt.binding?, List.map_findSome?]
  refine Bindings.known_foldl bindings name h (fun before imported hbefore => ?_)
    (fun before imported hbefore => ?_) modules
  · exact hbefore.bind _
  · rw [Bindings.known_bindImport _ _ hbefore, Function.comp_apply, getD_of?]
    rfl

theorem known_bindNames (h : bindings.Indexed) (line : Nat) (origin : Origin)
    (names : List Imported) :
    (bindNames bindings line (home.originName origin) names).known name =
      (((Stmt.importNames line origin names).binding? name).map
        (Binding.known home bindings)).getD (bindings.known name) := by
  rw [Stmt.binding?, List.map_findSome?, bindNames]
  refine Bindings.known_foldl bindings name h (fun _ _ hbefore => hbefore.bind _)
    (fun before imported hbefore => ?_) names
  rw [Bindings.known_bind _ _ hbefore, Function.comp_apply, getD_of?]
  rfl

/-- A target is bound to a value that was found in an earlier table. -/
theorem known_bindTarget (line : Nat) (value : Expr) {before : Bindings} (h : before.Indexed)
    (target : Target) :
    (bindTarget before line (home.classify bindings value) target).known name =
      ((target.binding? value name).map (Binding.known home bindings)).getD
        (before.known name) := by
  cases target with
  | name id =>
    rw [bindTarget, Bindings.known_bind _ _ h, Target.binding?, getD_of?]
    rfl
  | sequence items =>
    rw [bindTarget, Target.binding?, List.map_findSome?]
    refine Bindings.known_foldl before name h (fun before item hbefore => ?_)
      (fun before item hbefore => ?_) items
    · cases item with
      | name id => exact hbefore.bind _
      | sequence | place => exact hbefore
    · cases item with
      | name id =>
        rw [Bindings.known_bind _ _ hbefore, Function.comp_apply, getD_of?]
        rfl
      | sequence | place => rfl
  | place => rfl

theorem known_assign (h : bindings.Indexed) (line : Nat) (targets : List Target) (value : Expr) :
    (targets.foldl (bindTarget · line (home.classify bindings value) ·) bindings).known name =
      (((Stmt.assign line targets (some value)).binding? name).map
        (Binding.known home bindings)).getD (bindings.known name) := by
  rw [Stmt.binding?, List.map_findSome?]
  refine Bindings.known_foldl bindings name h (fun before target hbefore => ?_)
    (fun _ target hbefore => known_bindTarget home bindings name line value hbefore target) targets
  rw [← foldl_target_changes]
  exact hbefore.foldl_change _

theorem known_classDef (h : bindings.Indexed) (line : Nat) (id : String) (body : List Stmt) :
    (home.step bindings (.classDef line id body)).known name =
      (((Stmt.classDef line id body).binding? name).map (Binding.known home bindings)).getD
        (bindings.known name) := by
  rw [step, Stmt.binding?, getD_of?]
  have hbind := Bindings.known_bind bindings name h
    { name := id, kind := .class, declaredIn := some home.name, line }
  by_cases hcall : definesCall body = true
  · rw [if_pos hcall]
    by_cases hid : id = name
    · rw [if_pos hid] at hbind ⊢
      simp only [Bindings.known, Known.mk.injEq] at hbind
      simp only [Bindings.known, Binding.known, Known.mk.injEq, hcall]
      exact ⟨hbind.1, hbind.2.1, by simp [hid]⟩
    · rw [Bindings.known_callables name _ id hid, hbind]
      simp only [if_neg hid]
  · rw [if_neg hcall, hbind, Bool.not_eq_true] at *
    rw [hcall]
    rfl

/-- What a statement that deletes nothing does to a name: it binds it, or leaves it alone. -/
theorem map_effect? {stmt : Stmt} (h : ∀ line target, stmt ≠ .delete line target) :
    (stmt.effect? name).map (Effect.known home bindings) =
      (stmt.binding? name).map (Binding.known home bindings) := by
  have heffect : stmt.effect? name = (stmt.binding? name).map .bound := by
    cases stmt with
    | delete line target => exact absurd rfl (h line target)
    | _ => rfl
  rw [heffect, Option.map_map]
  rfl

/-- What a statement does to what is known of a name is what its effect on the name says. -/
theorem known_step {stmt : Stmt} (hindexed : bindings.Indexed) (h : stmt.isSimple = true) :
    (home.step bindings stmt).known name =
      ((stmt.effect? name).map (Effect.known home bindings)).getD (bindings.known name) := by
  have hbinds := @map_effect? home bindings name stmt
  cases stmt with
  | function line id body =>
    rw [step, Bindings.known_bind _ _ hindexed, hbinds nofun, Stmt.binding?, getD_of?]
    rfl
  | classDef line id body => rw [hbinds nofun, known_classDef _ _ _ hindexed]
  | importModules line modules =>
    rw [hbinds nofun, step, ← known_importModules home bindings name hindexed]
  | importNames line origin names =>
    rw [hbinds nofun, step, ← known_bindNames home bindings name hindexed]
  | assign line targets value =>
    cases value with
    | none => rfl
    | some value => rw [hbinds nofun, step, ← known_assign home bindings name hindexed]
  | delete line target =>
    rw [step, Bindings.known_unbindAll _ _ hindexed, Stmt.effect?]
    split <;> rfl
  | cases line blocks => rfl
  | other line => rfl
  | branch | loop | block => cases h

/-! ### All statements -/

/-- The table after statements that are listed from the last one back. -/
def table (home : Home) : List Stmt → Bindings
  | [] => {}
  | stmt :: earlier => home.step (table home earlier) stmt

theorem run_eq_table (body : List Stmt) :
    home.run {} body = home.table (Stmt.executedAll body).reverse := by
  rw [run_eq]
  have hreverse : ∀ history : List Stmt,
      home.table history = history.foldr (fun stmt bindings => home.step bindings stmt) {} := by
    intro history
    induction history with
    | nil => rfl
    | cons stmt earlier ih => rw [table, ih, List.foldr_cons]
  rw [hreverse, List.foldr_reverse]

theorem indexed_table (home : Home) (history : List Stmt) : (home.table history).Indexed := by
  induction history with
  | nil => exact Bindings.Indexed.empty
  | cons stmt earlier ih => exact ih.step home stmt

/-- The statements of a module that run, from the last one back. -/
def historyOf (body : List Stmt) : List Stmt := (Stmt.executedAll body).reverse

theorem isSimple_of_mem_historyOf (body : List Stmt) :
    ∀ stmt ∈ historyOf body, stmt.isSimple = true :=
  fun stmt hstmt => Stmt.isSimple_of_mem_executedAll body stmt (List.mem_reverse.mp hstmt)

/-- What is known of a name follows from its last binding, and from the table before that. -/
theorem known_table {history : List Stmt} (h : ∀ stmt ∈ history, stmt.isSimple = true) :
    (home.table history).known name =
      match lastBinding? name history with
      | some (binding, earlier) => binding.known home (home.table earlier)
      | none => {} := by
  induction history with
  | nil => rfl
  | cons stmt earlier ih =>
    rw [table, known_step home _ name (indexed_table home earlier) (h stmt List.mem_cons_self),
      lastBinding?]
    cases stmt.effect? name with
    | none => exact ih fun other hother => h other (List.mem_cons_of_mem _ hother)
    | some effect => cases effect <;> rfl

end Home

end DocStubs.Code
