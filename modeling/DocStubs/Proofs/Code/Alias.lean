import DocStubs.Proofs.Code.Members
import Mathlib.Data.List.Induction

/-!
# Names that stand for other names

After `y = x` both names stand for the same thing, so it should not matter which of them is used.
What is known of a use depends on all that the table knows of the name: its value, the module it
stands for, and whether it is a class whose instances can be called. An assignment hands on the
value only. So the new name is as good as the old one wherever the value decides, and it falls
short exactly where the old one was bound by a plain import, or by the definition of a class whose
instances can be called.

Nothing more is lost in a second step: what has only a value hands on all there is, so chains of
such assignments are as good as the first one.

## Main definitions

* `Expr.chain` — a name with some fields after it
* `Known.read`, `Known.call` — what a use of a name is, by what is known of the name

## Main results

* `Home.classify_chain`, `Home.classify_call_chain` — a use depends on what is known of the name
* `Home.alias_transparent_iff` — when the new name is as good as the old one
-/

namespace DocStubs.Code

/-- A name with some fields after it; without fields it is the name itself. -/
def Expr.chain (name : String) (fields : List String) : Expr :=
  fields.foldl Expr.access (.name name)

theorem Expr.chain_concat (name : String) (fields : List String) (field : String) :
    Expr.chain name (fields ++ [field]) = .access (Expr.chain name fields) field :=
  List.foldl_concat ..

theorem Expr.base?_chain (name : String) (fields : List String) :
    (Expr.chain name fields).base? = some name := by
  induction fields using List.reverseRecOn with
  | nil => rfl
  | append_singleton fields field ih => rw [chain_concat, base?, ih]

/-! ### Uses of a name -/

namespace Known

/-- What is read from a name, with some fields after it. -/
def read (known : Known) : List String → Value
  | [] => known.value.getD { kind := .unresolved, declaredIn := some "builtins" }
  | _ :: _ =>
    match known.module with
    | some target => { kind := .unresolved, declaredIn := some target }
    | none => .plain

/-- What a call of a name gives, with some fields after it. -/
def call (home : Home) (known : Known) : List String → Value
  | [] =>
    match known.value with
    | some value =>
      if value = { kind := .class, declaredIn := some home.name } then
        { kind := if known.callable then .callable else .data, declaredIn := some home.name }
      else if value.kind = .unresolved then { kind := .data, declaredIn := value.declaredIn }
      else .plain
    | none => .plain
  | _ :: _ => { kind := .data, declaredIn := known.module }

/-- What is left of a name if only its value is handed on. -/
def handedOn (known : Known) : Known := { value := known.value }

variable {home : Home} {known : Known}

theorem read_handedOn_iff (fields : List String) :
    known.handedOn.read fields = known.read fields ↔ fields = [] ∨ known.module = none := by
  cases fields with
  | nil => exact iff_of_true rfl (Or.inl rfl)
  | cons field rest =>
    rw [read, read, handedOn]
    cases known.module <;> simp [Value.plain]

theorem call_handedOn_iff
    (h : known.callable = true →
      known.value = some { kind := .class, declaredIn := some home.name })
    (fields : List String) :
    known.handedOn.call home fields = known.call home fields ↔
      if fields = [] then known.callable = false else known.module = none := by
  cases fields with
  | nil =>
    rw [if_pos rfl, call, call, handedOn]
    cases hcallable : known.callable with
    | true => simp [h hcallable]
    | false => simp
  | cons field rest =>
    rw [if_neg (List.cons_ne_nil _ _), call, call, handedOn]
    cases known.module <;> simp

end Known

namespace Home

variable {home : Home} {bindings : Bindings} {name : String}

theorem eq_nil_or_chain_eq_access (name : String) (fields : List String) :
    fields = [] ∨ ∃ first rest object field, fields = first :: rest ∧
      Expr.chain name fields = .access object field ∧ object.base? = some name := by
  rcases List.eq_nil_or_concat fields with rfl | ⟨before, last, rfl⟩
  · exact Or.inl rfl
  · obtain ⟨first, rest, hcons⟩ := List.exists_cons_of_ne_nil (List.concat_ne_nil last before)
    rw [List.concat_eq_append]
    exact Or.inr ⟨first, rest, _, _, hcons, Expr.chain_concat .., Expr.base?_chain ..⟩

/-- What is read from a name depends on what is known of it. -/
theorem classify_chain (home : Home) (bindings : Bindings) (name : String) (fields : List String) :
    home.classify bindings (.chain name fields) = (bindings.known name).read fields := by
  rcases eq_nil_or_chain_eq_access name fields with
    rfl | ⟨first, rest, object, field, rfl, h, hbase⟩
  · rw [Known.read, Bindings.known, Expr.chain, List.foldl_nil, classify]
    cases bindings.lookup? name <;> rfl
  · rw [h, classify, hbase, Option.bind_some]
    cases himport : bindings.import? name <;> simp [Known.read, Bindings.known, himport]

/-- What a call of a name gives depends on what is known of it. -/
theorem classify_call_chain (home : Home) (bindings : Bindings) (name : String)
    (fields : List String) :
    home.classify bindings (.call (.chain name fields)) =
      (bindings.known name).call home fields := by
  rcases eq_nil_or_chain_eq_access name fields with
    rfl | ⟨first, rest, object, field, rfl, h, hbase⟩
  · rw [Known.call, Bindings.known, Expr.chain, List.foldl_nil, classify, called]
    cases hlookup : bindings.lookup? name with
    | none => rfl
    | some symbol => simp [Value.ofSymbol]
  · rw [h, classify, hbase, Option.bind_some, Known.call, Bindings.known]

/-! ### Assigning a name to a name -/

/-- The statement that assigns one name to another. -/
def aliasing (line : Nat) (name other : String) : Stmt :=
  .assign line [.name name] (some (.name other))

theorem known_aliasing (hindexed : bindings.Indexed) (line : Nat) {other : String}
    (hbound : (bindings.lookup? other).isSome = true) :
    (home.step bindings (aliasing line name other)).known name =
      (bindings.known other).handedOn := by
  obtain ⟨symbol, hsymbol⟩ := Option.isSome_iff_exists.mp hbound
  have hvalue : home.classify bindings (.name other) = Value.ofSymbol symbol := by
    rw [classify, hsymbol]
    rfl
  rw [aliasing, step, List.foldl_cons, List.foldl_nil, bindTarget,
    Bindings.known_bind _ _ hindexed, if_pos rfl, hvalue, Bindings.known, hsymbol]
  rfl

theorem known_aliasing_of_ne (hindexed : bindings.Indexed) (line : Nat) {other : String}
    (hne : name ≠ other) :
    (home.step bindings (aliasing line name other)).known other = bindings.known other := by
  rw [aliasing, step, List.foldl_cons, List.foldl_nil, bindTarget,
    Bindings.known_bind _ _ hindexed, if_neg hne]

/-- A plain import is the only binding by which a name stands for a module. -/
theorem module_known_eq_none_iff {history : List Stmt}
    (hsimple : ∀ stmt ∈ history, stmt.isSimple = true) :
    ((home.table history).known name).module = none ↔
      ∀ module earlier, lastBinding? name history ≠ some (.imported module, earlier) := by
  rw [known_table home name hsimple]
  cases lastBinding? name history with
  | none => exact iff_of_true rfl nofun
  | some last =>
    obtain ⟨binding, earlier⟩ := last
    cases binding <;> simp [Binding.known]

/-- The definition of a class is the only binding by which the instances of a name can be
called. -/
theorem callable_known_eq_false_iff {history : List Stmt}
    (hsimple : ∀ stmt ∈ history, stmt.isSimple = true) :
    ((home.table history).known name).callable = false ↔
      ∀ earlier, lastBinding? name history ≠ some (.classDef true, earlier) := by
  rw [known_table home name hsimple]
  cases lastBinding? name history with
  | none => exact iff_of_true rfl nofun
  | some last =>
    obtain ⟨binding, earlier⟩ := last
    cases binding <;> simp [Binding.known]

theorem value_of_callable_known {history : List Stmt}
    (hsimple : ∀ stmt ∈ history, stmt.isSimple = true)
    (h : ((home.table history).known name).callable = true) :
    ((home.table history).known name).value =
      some { kind := .class, declaredIn := some home.name } := by
  rw [known_table home name hsimple] at h ⊢
  cases hlast : lastBinding? name history with
  | none =>
    rw [hlast] at h
    cases h
  | some last =>
    obtain ⟨binding, earlier⟩ := last
    rw [hlast] at h
    cases binding with
    | classDef callable => rfl
    | function | imported | taken | assigned | unpacked => cases h

theorem run_concat (home : Home) (bindings : Bindings) (body : List Stmt) (stmt : Stmt) :
    home.run bindings (body ++ [stmt]) = home.step (home.run bindings body) stmt := by
  induction body generalizing bindings with
  | nil => rfl
  | cons first rest ih => exact ih (home.step bindings first)

/-- After a name was assigned to another one, what is read from the new name is what is read from
the old one, and so is what a call gives, except where that depends on more than the value of the
old name. Fields are the same unless the old name was bound by a plain import, and instances are
the same unless it was bound by the definition of a class whose instances can be called. -/
theorem alias_transparent_iff (home : Home) (body : List Stmt) (line : Nat) {name other : String}
    (hbound : ((home.run {} body).lookup? other).isSome = true) (hne : name ≠ other) :
    let after := home.run {} (body ++ [aliasing line name other])
    ∀ fields,
      (home.classify after (.chain name fields) = home.classify after (.chain other fields) ↔
        fields = [] ∨
          ∀ module earlier,
            lastBinding? other (historyOf body) ≠ some (.imported module, earlier)) ∧
      (home.classify after (.call (.chain name fields)) =
          home.classify after (.call (.chain other fields)) ↔
        if fields = [] then
          ∀ earlier, lastBinding? other (historyOf body) ≠ some (.classDef true, earlier)
        else
          ∀ module earlier,
            lastBinding? other (historyOf body) ≠ some (.imported module, earlier)) := by
  intro after fields
  have hindexed := (coherent_run home body).indexed
  have hsimple := isSimple_of_mem_historyOf body
  have htable : home.run {} body = home.table (historyOf body) := run_eq_table home body
  have hname : after.known name = ((home.run {} body).known other).handedOn := by
    rw [← known_aliasing hindexed line hbound, ← run_concat]
  have hother : after.known other = (home.run {} body).known other := by
    rw [← known_aliasing_of_ne hindexed line hne, ← run_concat]
  have hcallable := @value_of_callable_known home other _ hsimple
  rw [classify_chain, classify_chain, classify_call_chain, classify_call_chain, hname, hother,
    htable, Known.read_handedOn_iff, Known.call_handedOn_iff hcallable,
    module_known_eq_none_iff hsimple, callable_known_eq_false_iff hsimple]
  exact ⟨Iff.rfl, Iff.rfl⟩

/-- A name that is imported from a module, and a second name for it. -/
def secondName : List Stmt :=
  [.importNames 1 (.absolute "m") [{ name := "f" }], aliasing 2 "g" "f"]

/-- A third name is as good as the second one, in all its uses. -/
theorem alias_of_second_name :
    let home : Home := { name := "p.m" }
    let after := home.run {} (secondName ++ [aliasing 3 "h" "g"])
    ((home.run {} secondName).lookup? "g").isSome = true ∧
      ∀ fields,
        home.classify after (.chain "h" fields) = home.classify after (.chain "g" fields) ∧
        home.classify after (.call (.chain "h" fields)) =
          home.classify after (.call (.chain "g" fields)) := by
  intro home after
  have hbound : ((home.run {} secondName).lookup? "g").isSome = true := rfl
  have hlast : lastBinding? "g" (historyOf secondName) =
      some (.assigned (.name "f"), [.importNames 1 (.absolute "m") [{ name := "f" }]]) := rfl
  refine ⟨hbound, fun fields => ?_⟩
  obtain ⟨hread, hcall⟩ := alias_transparent_iff home secondName 3 hbound
    (show "h" ≠ "g" by decide) fields
  rw [hlast] at hread hcall
  refine ⟨hread.mpr (Or.inr nofun), hcall.mpr ?_⟩
  split <;> exact nofun

/-- A second name for a class whose instances can be called makes data, and a call of something in
a module gives data that nothing declares if the module goes by a second name. -/
theorem alias_falls_short :
    let home : Home := { name := "p.m" }
    let named := home.run {} [.classDef 1 "C" [.function 2 "__call__" []], aliasing 4 "D" "C"]
    let imported := home.run {} [.importModules 1 [{ name := "os" }], aliasing 2 "o" "os"]
    home.classify named (.call (.chain "C" [])) =
        { kind := .callable, declaredIn := some "p.m" } ∧
      home.classify named (.call (.chain "D" [])) = { kind := .data, declaredIn := some "p.m" } ∧
      home.classify imported (.call (.chain "os" ["getcwd"])) =
        { kind := .data, declaredIn := some "os" } ∧
      home.classify imported (.call (.chain "o" ["getcwd"])) = { kind := .data } :=
  ⟨rfl, rfl, rfl, rfl⟩

end Home

end DocStubs.Code
