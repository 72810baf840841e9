import DocStubs.Proofs.Code.LastBinding

/-!
# What a deletion deletes

A deletion has targets, and a target in parentheses or square brackets holds further targets. The
names among them are deleted. A target can also be a place inside an object, and then no name is
deleted: `del f.x` takes a field off `f`, and `f` stays what it was.

What is taken out of the table is not quite that. `Home.deleted` gives the names that stand directly
in a target that is no name itself, whatever the target is. For `del a`, `del a, b` and `del (a, b)`
these are the deleted names. For `del f.x` they are `f` and `x`, and for `del a, (b, c)` there is
only `a`. So a binding may be lost to the table that survives, and one may be kept that does not.

`lastBinding?` follows the table. `survivingBinding?` is the same for the names that are deleted,
and `Lost` and `Spared` are the two ways in which they come apart.

## Main definitions

* `Expr.deleted`, `Stmt.deletes` — the names that a deletion deletes
* `Stmt.unbinds` — the names that it takes out of the table
* `survivingBinding?` — the last binding of a name, if the name was not deleted since
* `Lost`, `Spared` — names that the table does not hold although they survive, and the other way
* `Faithful` — nothing is taken out of the table but what is deleted, and all of that

## Main results

* `lastBinding?_of_not_lost`, `lastBinding?_of_lost` — what the table holds of a name that survives
* `isSome_lastBinding?_iff` — which names the table holds
-/

namespace DocStubs.Code

/-! ### The names of a deletion -/

namespace Expr

mutual

/-- The names that are deleted with a target. -/
def deleted : Expr → List String
  | .name id => [id]
  | .bracketed targets => deletedAll targets
  | _ => []

/-- The names that are deleted with some targets. -/
def deletedAll : List Expr → List String
  | [] => []
  | target :: rest => deleted target ++ deletedAll rest

end

/-- The expressions that stand directly in an expression. A field counts as the name that it is
written as. -/
def parts : Expr → List Expr
  | .name _ | .literal _ => []
  | .access object field => [object, .name field]
  | .call value | .starred value | .lambda value => [value]
  | .subscript value indices => value :: indices
  | .comparison _ operands _ => operands
  | .bracketed parts | .compound parts => parts

end Expr

/-- The names that are taken out of the table are those that stand directly in a target, or the
target itself. -/
theorem Home.deleted_eq (target : Expr) :
    deleted target = (target :: target.parts).filterMap Expr.name? := by
  cases target with
  | name id => rfl
  | literal raw => rfl
  | access object field => cases object <;> rfl
  | call value | starred value | lambda value => cases value <;> rfl
  | subscript value indices => cases value <;> rfl
  | comparison | bracketed | compound => rfl

namespace Stmt

/-- Whether a statement deletes a name. Several targets may stand in a list without brackets, and no
other expression that is made of parts can be a target. -/
def deletes (name : String) : Stmt → Bool
  | .delete _ (.compound targets) => name ∈ Expr.deletedAll targets
  | .delete _ target => name ∈ target.deleted
  | _ => false

/-- Whether a statement takes a name out of the table: a target is the name, or the name stands
directly in it. -/
def unbinds (name : String) : Stmt → Bool
  | .delete _ target => name ∈ (target :: target.parts).filterMap Expr.name?
  | _ => false

variable {name : String} {stmt : Stmt}

/-- A statement that takes a name out of the table does not bind it as well. -/
theorem binding?_of_unbinds (h : stmt.unbinds name = true) : stmt.binding? name = none := by
  cases stmt with
  | delete line target => rfl
  | _ => cases h

theorem binding?_of_deletes (h : stmt.deletes name = true) : stmt.binding? name = none := by
  cases stmt with
  | delete line target => rfl
  | _ => cases h

theorem effect?_eq (name : String) (stmt : Stmt) :
    stmt.effect? name =
      if stmt.unbinds name then some .removed else (stmt.binding? name).map .bound := by
  cases stmt with
  | delete line target =>
    rw [effect?, unbinds, Home.deleted_eq]
    by_cases h : name ∈ (target :: target.parts).filterMap Expr.name? <;> simp only [h] <;> rfl
  | _ => rfl

end Stmt

/-! ### Bindings that survive -/

/-- The last binding of a name, whether or not it was deleted since, with the statements before
it. -/
def latestBinding? (name : String) : List Stmt → Option (Binding × List Stmt)
  | [] => none
  | stmt :: earlier =>
    match stmt.binding? name with
    | some binding => some (binding, earlier)
    | none => latestBinding? name earlier

/-- The statements after the last binding of a name. -/
def sinceBinding (name : String) (history : List Stmt) : List Stmt :=
  history.takeWhile fun stmt => (stmt.binding? name).isNone

/-- The last binding of a name, if the name was not deleted since. -/
def survivingBinding? (name : String) (history : List Stmt) : Option (Binding × List Stmt) :=
  if (sinceBinding name history).any (·.deletes name) then none else latestBinding? name history

/-- A name survives, but was taken out of the table since it was last bound. -/
structure Lost (history : List Stmt) (name : String) : Prop where
  survives : (survivingBinding? name history).isSome = true
  unbound : ∃ stmt ∈ sinceBinding name history, stmt.unbinds name = true

/-- A name was deleted since it was last bound, but was not taken out of the table. -/
structure Spared (history : List Stmt) (name : String) : Prop where
  bound : (latestBinding? name history).isSome = true
  deleted : ∃ stmt ∈ sinceBinding name history, stmt.deletes name = true
  kept : ∀ stmt ∈ sinceBinding name history, stmt.unbinds name = false

/-- What is taken out of the table is what is deleted. -/
def Faithful (history : List Stmt) : Prop :=
  ∀ stmt ∈ history, ∀ name, stmt.unbinds name = stmt.deletes name

variable {name : String} {history earlier : List Stmt}

theorem sinceBinding_cons (stmt : Stmt) :
    sinceBinding name (stmt :: earlier) =
      if (stmt.binding? name).isNone then stmt :: sinceBinding name earlier else [] :=
  List.takeWhile_cons

theorem mem_of_mem_sinceBinding {stmt : Stmt} (h : stmt ∈ sinceBinding name history) :
    stmt ∈ history :=
  (List.takeWhile_sublist _).subset h

theorem suffix_of_latestBinding? {binding : Binding}
    (h : latestBinding? name history = some (binding, earlier)) : earlier <:+ history := by
  induction history with
  | nil => cases h
  | cons stmt before ih =>
    rw [latestBinding?] at h
    split at h
    · cases h
      exact List.suffix_cons stmt _
    · exact (ih h).trans (List.suffix_cons stmt _)

/-- What the table holds of a name is its last binding, unless the name was taken out since. -/
theorem lastBinding?_eq (name : String) (history : List Stmt) :
    lastBinding? name history =
      if (sinceBinding name history).any (·.unbinds name) then none
      else latestBinding? name history := by
  induction history with
  | nil => rfl
  | cons stmt earlier ih =>
    rw [lastBinding?, Stmt.effect?_eq, sinceBinding_cons, latestBinding?]
    cases hunbinds : stmt.unbinds name with
    | true => simp [Stmt.binding?_of_unbinds hunbinds, hunbinds]
    | false =>
      cases hbinding : stmt.binding? name with
      | some binding => rfl
      | none => simpa [hunbinds] using ih

theorem survivingBinding?_eq_some_iff {last : Binding × List Stmt} :
    survivingBinding? name history = some last ↔
      latestBinding? name history = some last ∧
        ∀ stmt ∈ sinceBinding name history, stmt.deletes name = false := by
  simp [survivingBinding?, and_comm]

theorem suffix_of_survivingBinding? {binding : Binding}
    (h : survivingBinding? name history = some (binding, earlier)) : earlier <:+ history :=
  suffix_of_latestBinding? (survivingBinding?_eq_some_iff.mp h).1

/-- The table holds a name that survives as it was last bound, unless it lost the name. -/
theorem lastBinding?_of_not_lost {last : Binding × List Stmt}
    (h : survivingBinding? name history = some last) (hkept : ¬ Lost history name) :
    lastBinding? name history = some last := by
  have hnone : (sinceBinding name history).any (·.unbinds name) = false := by
    rw [Bool.eq_false_iff]
    intro hany
    obtain ⟨stmt, hstmt, hunbinds⟩ := List.any_eq_true.mp hany
    exact hkept ⟨by rw [h]; rfl, stmt, hstmt, hunbinds⟩
  rw [lastBinding?_eq, hnone]
  exact (survivingBinding?_eq_some_iff.mp h).1

theorem lastBinding?_of_lost (h : Lost history name) : lastBinding? name history = none := by
  rw [lastBinding?_eq, if_pos (List.any_eq_true.mpr h.unbound)]

/-- The table holds the names that survive, save those that it lost, and those that it spared. -/
theorem isSome_lastBinding?_iff :
    (lastBinding? name history).isSome = true ↔
      ((survivingBinding? name history).isSome = true ∧ ¬ Lost history name) ∨
        Spared history name := by
  constructor
  · intro hsome
    have hkept : ∀ stmt ∈ sinceBinding name history, stmt.unbinds name = false := by
      intro stmt hstmt
      rw [Bool.eq_false_iff]
      intro hunbinds
      rw [lastBinding?_eq, if_pos (List.any_eq_true.mpr ⟨stmt, hstmt, hunbinds⟩)] at hsome
      cases hsome
    have hnone : ¬ (sinceBinding name history).any (·.unbinds name) = true := by
      simpa using hkept
    rw [lastBinding?_eq, if_neg hnone] at hsome
    by_cases hdeletes : (sinceBinding name history).any (·.deletes name) = true
    · exact Or.inr ⟨hsome, List.any_eq_true.mp hdeletes, hkept⟩
    · refine Or.inl ⟨by rwa [survivingBinding?, if_neg hdeletes], fun hlost => ?_⟩
      obtain ⟨stmt, hstmt, hunbinds⟩ := hlost.unbound
      rw [hkept stmt hstmt] at hunbinds
      cases hunbinds
  · rintro (⟨hsurvives, hkept⟩ | hspared)
    · obtain ⟨last, hlast⟩ := Option.isSome_iff_exists.mp hsurvives
      rw [lastBinding?_of_not_lost hlast hkept]
      rfl
    · have hnone : (sinceBinding name history).any (·.unbinds name) = false := by
        simpa using hspared.kept
      rw [lastBinding?_eq, hnone]
      exact hspared.bound

/-- A name that was spared does not survive. -/
theorem survivingBinding?_of_spared (h : Spared history name) :
    survivingBinding? name history = none := by
  rw [survivingBinding?, if_pos (List.any_eq_true.mpr h.deleted)]

namespace Faithful

theorem of_suffix (h : Faithful history) (hsuffix : earlier <:+ history) : Faithful earlier :=
  fun stmt hstmt => h stmt (hsuffix.subset hstmt)

theorem not_lost (h : Faithful history) (name : String) : ¬ Lost history name := by
  intro hlost
  obtain ⟨last, hlast⟩ := Option.isSome_iff_exists.mp hlost.survives
  obtain ⟨stmt, hstmt, hunbinds⟩ := hlost.unbound
  have hdeletes := (survivingBinding?_eq_some_iff.mp hlast).2 stmt hstmt
  rw [h stmt (mem_of_mem_sinceBinding hstmt) name, hdeletes] at hunbinds
  cases hunbinds

theorem not_spared (h : Faithful history) (name : String) : ¬ Spared history name := by
  intro hspared
  obtain ⟨stmt, hstmt, hdeletes⟩ := hspared.deleted
  have hkept := hspared.kept stmt hstmt
  rw [h stmt (mem_of_mem_sinceBinding hstmt) name, hdeletes] at hkept
  cases hkept

end Faithful

end DocStubs.Code
