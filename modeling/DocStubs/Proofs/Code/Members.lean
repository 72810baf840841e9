import DocStubs.Member
import DocStubs.Proofs.Code.Deletion

/-!
# Which names of a module are members

What the bindings of a module say about a value and what membership asks of it are two matters:
the one knows imports and definitions, the other only kinds and declaring modules. They fit
together because of what every symbol of a module keeps to: a callable kind always comes with this
module, a module never with any, and a value that was not resolved always with some module.

With that, the origin of a name settles whether it is a member. A name is `Foreign` if the binding
of it that survives takes it from elsewhere, and `Own` if it was made to be called here. Either may
pass through any number of plain assignments from name to name, each of which counts as it stood
when it ran.

Both go by the names that are deleted, and the table goes by those that are taken out of it. So
foreign names are never members and own names always are, as long as the table is right about what
was deleted, and where it is not, that is all that can go wrong. After `import foo`, `del foo.bar`
the table has lost `foo`, and the field of `x = foo.CONST` is taken for data of this module; after
`def f(): ...`, `del f.x` there is no symbol for `f`. `Mistaken` and `Missed` say when that happens.

## Main definitions

* `Value.Fits`, `Coherent` — what every symbol of a module keeps to
* `Foreign`, `Own` — where the surviving binding of a name takes its value from
* `Mistaken`, `Missed` — foreign names that are members, and own names that are none

## Main results

* `Home.coherent_run` — the table that a module leaves is coherent
* `Home.membership_of_symbols` — foreign names are members only if mistaken, and own names are
  members unless missed
-/

namespace DocStubs.Code

/-! ### Symbols that fit -/

/-- The kind of a value fits its declaring module. -/
structure Value.Fits (home : String) (value : Value) : Prop where
  callable : value.kind.isCallable = true → value.declaredIn = some home
  module : value.kind = .module → value.declaredIn = none
  unresolved : value.kind = .unresolved → value.declaredIn.isSome = true

/-- Data fits any declaring module. -/
theorem Value.Fits.of_data {home : String} {value : Value} (h : value.kind = .data) :
    value.Fits home := by
  refine ⟨fun hkind => ?_, fun hkind => ?_, fun hkind => ?_⟩ <;> rw [h] at hkind <;> cases hkind

/-- A table with one symbol for each name, all with documentation, and all fitting. -/
structure Coherent (home : String) (bindings : Bindings) : Prop where
  indexed : bindings.Indexed
  documented : ∀ symbol ∈ bindings.symbols, symbol.documented = true
  fits : ∀ symbol ∈ bindings.symbols, (Value.ofSymbol symbol).Fits home

namespace Coherent

variable {home : String} {bindings : Bindings} {symbol : Symbol}

theorem empty : Coherent home {} := ⟨.empty, by simp, by simp⟩

theorem mem_place {other : Symbol} {symbols : List Symbol}
    (h : other ∈ Bindings.place symbol symbols) :
    other ∈ symbols ∨ ∃ line, other = { symbol with line } := by
  induction symbols with
  | nil => exact Or.inr ⟨symbol.line, List.mem_singleton.mp h⟩
  | cons old rest ih =>
    rw [Bindings.place] at h
    split at h
    · rcases List.mem_cons.mp h with rfl | h
      · exact Or.inr ⟨old.line, rfl⟩
      · exact Or.inl (List.mem_cons_of_mem _ h)
    · rcases List.mem_cons.mp h with rfl | h
      · exact Or.inl List.mem_cons_self
      · exact (ih h).imp_left (List.mem_cons_of_mem _)

theorem bind (h : Coherent home bindings) (hdocumented : symbol.documented = true)
    (hfits : (Value.ofSymbol symbol).Fits home) : Coherent home (bindings.bind symbol) := by
  refine ⟨h.indexed.bind symbol, fun other hother => ?_, fun other hother => ?_⟩
  all_goals rw [h.indexed.symbols_bind] at hother
  · rcases mem_place hother with hold | ⟨line, rfl⟩
    · exact h.documented other hold
    · exact hdocumented
  · rcases mem_place hother with hold | ⟨line, rfl⟩
    · exact h.fits other hold
    · exact hfits

theorem unbind (h : Coherent home bindings) (id : String) :
    Coherent home (bindings.unbind id) := by
  refine ⟨h.indexed.unbind id, fun other hother => ?_, fun other hother => ?_⟩
  all_goals rw [h.indexed.symbols_unbind] at hother
  · exact h.documented other (List.mem_filter.mp hother).1
  · exact h.fits other (List.mem_filter.mp hother).1

end Coherent

/-! ### Every statement keeps symbols coherent -/

namespace Home

variable {home : Home} {bindings : Bindings}

theorem fits_called (name : String) : (home.called bindings name).Fits home.name := by
  rw [called]
  split
  · split
    · refine ⟨fun _ => rfl, fun hkind => ?_, fun _ => rfl⟩
      dsimp only at hkind
      split at hkind <;> cases hkind
    · split
      · exact .of_data rfl
      · exact .of_data rfl
  · exact .of_data rfl

/-- What is found out about a value fits if the table is coherent. Only for a name does the table
matter, which passes on what is known of it. -/
theorem fits_classify (h : Coherent home.name bindings) (value : Expr) :
    (home.classify bindings value).Fits home.name := by
  fun_cases classify home bindings value with
  | case1 body => exact ⟨fun _ => rfl, nofun, nofun⟩
  | case2 id symbol hsymbol => exact h.fits symbol (h.indexed.mem_of_lookup? hsymbol).1
  | case3 id hnone => exact ⟨nofun, nofun, fun _ => rfl⟩
  | case4 object field target htarget => exact ⟨nofun, nofun, fun _ => rfl⟩
  | case5 object field hnone => exact .of_data rfl
  | case6 id => exact fits_called id
  | case7 object field => exact .of_data rfl
  | case8 => exact .of_data rfl

theorem coherent_foldl {α : Type} {act : Bindings → α → Bindings} {items : List α}
    (h : Coherent home.name bindings)
    (hact : ∀ bound, Coherent home.name bound → ∀ item ∈ items,
      Coherent home.name (act bound item)) :
    Coherent home.name (items.foldl act bindings) :=
  List.foldlRecOn (motive := fun bound => Coherent home.name bound) items act h hact

theorem coherent_bindTarget {value : Value} (h : Coherent home.name bindings)
    (hvalue : value.Fits home.name) (line : Nat) (target : Target) :
    Coherent home.name (bindTarget bindings line value target) := by
  cases target with
  | name id => exact h.bind rfl hvalue
  | sequence items =>
    refine coherent_foldl h fun bound hbound item _ => ?_
    cases item with
    | name id => exact hbound.bind rfl (.of_data rfl)
    | sequence | place => exact hbound
  | place => exact h

/-- A statement without blocks keeps the symbols of a module coherent. -/
theorem coherent_step {stmt : Stmt} (hsimple : stmt.isSimple = true)
    (h : Coherent home.name bindings) : Coherent home.name (home.step bindings stmt) := by
  cases stmt with
  | function line id body => exact h.bind rfl ⟨fun _ => rfl, nofun, nofun⟩
  | classDef line id body =>
    have hbound : Coherent home.name (bindings.bind
        { name := id, kind := .class, declaredIn := some home.name, line }) :=
      h.bind rfl ⟨fun _ => rfl, nofun, nofun⟩
    rw [step]
    split
    · exact ⟨hbound.indexed, hbound.documented, hbound.fits⟩
    · exact hbound
  | importModules line modules =>
    refine coherent_foldl h fun bound hbound imported _ => ?_
    have hnext : Coherent home.name
        (bound.bind { name := imported.bound, kind := .module, line }) :=
      hbound.bind rfl ⟨nofun, fun _ => rfl, nofun⟩
    exact ⟨hnext.indexed, hnext.documented, hnext.fits⟩
  | importNames line origin names =>
    refine coherent_foldl h fun bound hbound imported _ => ?_
    exact hbound.bind rfl ⟨nofun, nofun, fun _ => rfl⟩
  | assign line targets value =>
    cases value with
    | none => exact h
    | some value =>
      refine coherent_foldl h fun bound hbound target _ => ?_
      exact coherent_bindTarget hbound (fits_classify h value) line target
  | delete line target =>
    exact coherent_foldl h fun bound hbound id _ => hbound.unbind id
  | cases | other => exact h
  | branch | loop | block => cases hsimple

/-- The table that a module leaves is coherent. -/
theorem coherent_run (home : Home) (body : List Stmt) :
    Coherent home.name (home.run {} body) := by
  rw [run_eq]
  refine coherent_foldl Coherent.empty fun bindings h stmt hstmt => ?_
  exact coherent_step (Stmt.isSimple_of_mem_executedAll body stmt hstmt) h

end Home

/-! ### Where names come from -/

/-- The binding of a name that survives takes it from elsewhere. -/
inductive Foreign : List Stmt → String → Prop
  | imported {history earlier : List Stmt} {name module : String}
      (last : survivingBinding? name history = some (.imported module, earlier)) :
      Foreign history name
  | taken {history earlier : List Stmt} {name : String} {origin : Origin}
      (last : survivingBinding? name history = some (.taken origin, earlier)) :
      Foreign history name
  /-- It is assigned a name that was foreign then. -/
  | renamed {history earlier : List Stmt} {name other : String}
      (last : survivingBinding? name history = some (.assigned (.name other), earlier))
      (foreign : Foreign earlier other) : Foreign history name
  /-- It is assigned a name that was not bound then. -/
  | unbound {history earlier : List Stmt} {name other : String}
      (last : survivingBinding? name history = some (.assigned (.name other), earlier))
      (free : survivingBinding? other earlier = none) : Foreign history name
  /-- It is assigned a field of a module that was imported then, or a field of such a field. -/
  | field {history earlier before : List Stmt} {name base module field : String} {object : Expr}
      (last : survivingBinding? name history = some (.assigned (.access object field), earlier))
      (leftmost : object.base? = some base)
      (imported : survivingBinding? base earlier = some (.imported module, before)) :
      Foreign history name

/-- The binding of a name that survives makes something here that can be called. -/
inductive Own : List Stmt → String → Prop
  | function {history earlier : List Stmt} {name : String}
      (last : survivingBinding? name history = some (.function, earlier)) : Own history name
  | classDef {history earlier : List Stmt} {name : String} {callable : Bool}
      (last : survivingBinding? name history = some (.classDef callable, earlier)) :
      Own history name
  | lambda {history earlier : List Stmt} {name : String} {body : Expr}
      (last : survivingBinding? name history = some (.assigned (.lambda body), earlier)) :
      Own history name
  /-- It is an instance of a class that was defined here, and these can be called. -/
  | made {history earlier before : List Stmt} {name other : String}
      (last : survivingBinding? name history = some (.assigned (.call (.name other)), earlier))
      (defined : survivingBinding? other earlier = some (.classDef true, before)) :
      Own history name
  /-- It is assigned a name that was own then. -/
  | renamed {history earlier : List Stmt} {name other : String}
      (last : survivingBinding? name history = some (.assigned (.name other), earlier))
      (own : Own earlier other) : Own history name

/-- Whether a name starts with two underscores. -/
def isReserved (name : String) : Bool := ['_', '_'].isPrefixOf name.toList

/-- A value makes a name a member: it can be called, or it is data that nobody declares and the name
is not reserved. -/
def Value.Counts (name : String) (value : Value) : Prop :=
  value.kind.isCallable = true ∨
    (value.kind = .data ∧ value.declaredIn = none ∧ isReserved name = false)

/-- A module does not count, nor does what was not resolved. -/
theorem Value.not_counts {value : Value} (h : value.kind = .module ∨ value.kind = .unresolved)
    (final : String) : ¬ value.Counts final := by
  rintro (hcallable | ⟨hdata, -⟩)
  · rcases h with h | h <;> rw [h] at hcallable <;> cases hcallable
  · rcases h with h | h <;> rw [h] at hdata <;> cases hdata

theorem Value.plain_counts_iff (final : String) :
    Value.plain.Counts final ↔ isReserved final = false := by
  simp [Counts, plain, Kind.isCallable]

/-- What the table knows of one name makes another one a member. -/
def Home.Counts (home : Home) (history : List Stmt) (name final : String) : Prop :=
  ∃ value, ((home.table history).known name).value = some value ∧ value.Counts final

/-- What the table knows of a foreign name makes a member of the final name of a chain, since the
table is wrong about what was deleted. -/
inductive Mistaken (home : Home) (final : String) : List Stmt → String → Prop
  | renamed {history earlier : List Stmt} {name other : String}
      (last : survivingBinding? name history = some (.assigned (.name other), earlier))
      (kept : ¬ Lost history name) (mistaken : Mistaken home final earlier other) :
      Mistaken home final history name
  /-- The table lost the module, so that its field is plain data. -/
  | field {history earlier : List Stmt} {name base field : String} {object : Expr}
      (last : survivingBinding? name history = some (.assigned (.access object field), earlier))
      (kept : ¬ Lost history name) (leftmost : object.base? = some base)
      (lost : Lost earlier base) (free : isReserved final = false) :
      Mistaken home final history name
  /-- The table still holds the name that was assigned, which was deleted before. -/
  | spared {history earlier : List Stmt} {name other : String}
      (last : survivingBinding? name history = some (.assigned (.name other), earlier))
      (kept : ¬ Lost history name) (spared : Spared earlier other)
      (counts : home.Counts earlier other final) : Mistaken home final history name

/-- What the table knows of an own name does not make a member of the final name of a chain, since
the table is wrong about what was deleted. -/
inductive Missed (final : String) : List Stmt → String → Prop
  | lost {history : List Stmt} {name : String} (lost : Lost history name) :
      Missed final history name
  | renamed {history earlier : List Stmt} {name other : String}
      (last : survivingBinding? name history = some (.assigned (.name other), earlier))
      (missed : Missed final earlier other) : Missed final history name
  /-- The table lost the class, so that its instance is plain data, and the name is reserved. -/
  | made {history earlier : List Stmt} {name other : String}
      (last : survivingBinding? name history = some (.assigned (.call (.name other)), earlier))
      (lost : Lost earlier other) (reserved : isReserved final = true) :
      Missed final history name

section Judgements

variable {home : Home} {history : List Stmt} {name final : String}

/-- A foreign name survives. -/
theorem Foreign.survives (h : Foreign history name) :
    (survivingBinding? name history).isSome = true := by
  cases h with
  | imported last | taken last | renamed last | unbound last | field last => rw [last]; rfl

/-- The table holds a name that it is mistaken about. -/
theorem Mistaken.not_lost (h : Mistaken home final history name) : ¬ Lost history name := by
  cases h with
  | renamed _ kept | field _ kept | spared _ kept => exact kept

theorem Mistaken.survives (h : Mistaken home final history name) :
    (survivingBinding? name history).isSome = true := by
  cases h with
  | renamed last | field last | spared last => rw [last]; rfl

/-- A table that is right about what was deleted makes no foreign name a member. -/
theorem Faithful.not_mistaken (h : Faithful history) : ¬ Mistaken home final history name := by
  intro hmistaken
  induction hmistaken with
  | renamed last kept mistaken ih => exact ih (h.of_suffix (suffix_of_survivingBinding? last))
  | field last kept leftmost lost free =>
    exact (h.of_suffix (suffix_of_survivingBinding? last)).not_lost _ lost
  | spared last kept spared counts =>
    exact (h.of_suffix (suffix_of_survivingBinding? last)).not_spared _ spared

/-- A table that is right about what was deleted misses no own name. -/
theorem Faithful.not_missed (h : Faithful history) : ¬ Missed final history name := by
  intro hmissed
  induction hmissed with
  | lost lost => exact h.not_lost _ lost
  | renamed last missed ih => exact ih (h.of_suffix (suffix_of_survivingBinding? last))
  | made last lost reserved =>
    exact (h.of_suffix (suffix_of_survivingBinding? last)).not_lost _ lost

end Judgements

/-! ### What the table knows of these names -/

namespace Home

variable {home : Home} {history earlier : List Stmt} {name final : String} {value : Value}

theorem isSimple_of_survivingBinding? {binding : Binding}
    (hsimple : ∀ stmt ∈ history, stmt.isSimple = true)
    (h : survivingBinding? name history = some (binding, earlier)) :
    ∀ stmt ∈ earlier, stmt.isSimple = true :=
  fun stmt hstmt => hsimple stmt ((suffix_of_survivingBinding? h).subset hstmt)

/-- What is known of a name that survives and was not lost follows from how it was last bound. -/
theorem known_of_survivingBinding? (home : Home) {binding : Binding}
    (hsimple : ∀ stmt ∈ history, stmt.isSimple = true)
    (h : survivingBinding? name history = some (binding, earlier)) (kept : ¬ Lost history name) :
    (home.table history).known name = binding.known home (home.table earlier) := by
  rw [known_table home name hsimple, lastBinding?_of_not_lost h kept]

theorem known_of_lost (hsimple : ∀ stmt ∈ history, stmt.isSimple = true)
    (h : Lost history name) : (home.table history).known name = {} := by
  rw [known_table home name hsimple, lastBinding?_of_lost h]

theorem not_counts_of_lost (hsimple : ∀ stmt ∈ history, stmt.isSimple = true)
    (h : Lost history name) : ¬ home.Counts history name final := by
  rintro ⟨value, hvalue, -⟩
  rw [known_of_lost hsimple h] at hvalue
  cases hvalue

theorem counts_iff_of_value (h : ((home.table history).known name).value = some value) :
    home.Counts history name final ↔ value.Counts final := by
  constructor
  · rintro ⟨other, hother, hcounts⟩
    cases h.symm.trans hother
    exact hcounts
  · exact fun hcounts => ⟨value, h, hcounts⟩

theorem isSome_lastBinding?_of_counts (hsimple : ∀ stmt ∈ history, stmt.isSimple = true)
    (h : home.Counts history name final) : (lastBinding? name history).isSome = true := by
  obtain ⟨value, hvalue, -⟩ := h
  rw [known_table home name hsimple] at hvalue
  cases hlast : lastBinding? name history with
  | some last => rfl
  | none =>
    rw [hlast] at hvalue
    cases hvalue

/-- A name that is assigned another one counts as that one did. -/
theorem counts_of_renamed {other : String}
    (hsimple : ∀ stmt ∈ history, stmt.isSimple = true)
    (h : survivingBinding? name history = some (.assigned (.name other), earlier))
    (kept : ¬ Lost history name) :
    home.Counts history name final ↔ home.Counts earlier other final := by
  have hknown := known_of_survivingBinding? home hsimple h kept
  have hvalue : ((home.table history).known name).value =
      some (home.classify (home.table earlier) (.name other)) := by rw [hknown]; rfl
  rw [counts_iff_of_value hvalue, classify]
  cases hlookup : (home.table earlier).lookup? other with
  | some symbol =>
    have hother : ((home.table earlier).known other).value = some (Value.ofSymbol symbol) := by
      rw [Bindings.known, hlookup]
      rfl
    rw [counts_iff_of_value hother]
    rfl
  | none =>
    have hnone : ((home.table earlier).known other).value = none := by
      rw [Bindings.known, hlookup]
      rfl
    refine iff_of_false (Value.not_counts (Or.inr rfl) final) ?_
    rintro ⟨value, hvalue, -⟩
    rw [hnone] at hvalue
    cases hvalue

/-- What is known of a name that survives is the value that it was bound to, unless the table lost
the name. -/
theorem counts_iff {binding : Binding} {right : Prop}
    (hsimple : ∀ stmt ∈ history, stmt.isSimple = true)
    (h : survivingBinding? name history = some (binding, earlier))
    (hlost : Lost history name → ¬ right)
    (hkept : ¬ Lost history name → ∃ value,
      (binding.known home (home.table earlier)).value = some value ∧
        (value.Counts final ↔ right)) :
    home.Counts history name final ↔ right := by
  by_cases kept : Lost history name
  · exact iff_of_false (not_counts_of_lost hsimple kept) (hlost kept)
  · obtain ⟨value, hvalue, hcounts⟩ := hkept kept
    rw [← known_of_survivingBinding? home hsimple h kept] at hvalue
    rw [counts_iff_of_value hvalue, hcounts]

/-- A foreign name makes a member only if the table is wrong about what was deleted. -/
theorem counts_iff_mistaken (h : Foreign history name)
    (hsimple : ∀ stmt ∈ history, stmt.isSimple = true) :
    home.Counts history name final ↔ Mistaken home final history name := by
  induction h with
  | imported last | taken last =>
    refine counts_iff hsimple last (fun hlost hmistaken => hmistaken.not_lost hlost) fun _ =>
      ⟨_, rfl, iff_of_false (Value.not_counts (by simp) final) fun hmistaken => ?_⟩
    cases hmistaken with
    | renamed last' | field last' | spared last' => cases last.symm.trans last'
  | @renamed history earlier name other last foreign ih =>
    by_cases kept : Lost history name
    · exact iff_of_false (not_counts_of_lost hsimple kept) fun h => h.not_lost kept
    · rw [counts_of_renamed hsimple last kept, ih (isSimple_of_survivingBinding? hsimple last)]
      refine ⟨.renamed last kept, fun hmistaken => ?_⟩
      cases hmistaken with
      | renamed last' _ mistaken =>
        cases last.symm.trans last'
        exact mistaken
      | field last' => cases last.symm.trans last'
      | spared last' _ spared =>
        cases last.symm.trans last'
        exact absurd foreign.survives (by rw [survivingBinding?_of_spared spared]; nofun)
  | @unbound history earlier name other last free =>
    by_cases kept : Lost history name
    · exact iff_of_false (not_counts_of_lost hsimple kept) fun h => h.not_lost kept
    · rw [counts_of_renamed hsimple last kept]
      refine ⟨fun hcounts => .spared last kept ?_ hcounts, fun hmistaken => ?_⟩
      · have hheld := isSome_lastBinding?_of_counts
          (isSimple_of_survivingBinding? hsimple last) hcounts
        refine (isSome_lastBinding?_iff.mp hheld).resolve_left fun hsurvives => ?_
        rw [free] at hsurvives
        cases hsurvives.1
      · cases hmistaken with
        | renamed last' _ mistaken =>
          cases last.symm.trans last'
          exact absurd mistaken.survives (by rw [free]; nofun)
        | field last' => cases last.symm.trans last'
        | spared last' _ _ counts =>
          cases last.symm.trans last'
          exact counts
  | @field history earlier before name base module field object last leftmost imported =>
    have hearlier := isSimple_of_survivingBinding? hsimple last
    refine counts_iff hsimple last (fun hlost hmistaken => hmistaken.not_lost hlost) fun kept =>
      ⟨_, rfl, ?_⟩
    have hmistaken : Mistaken home final history name ↔
        Lost earlier base ∧ isReserved final = false := by
      refine ⟨fun hmistaken => ?_, fun ⟨lost, free⟩ => .field last kept leftmost lost free⟩
      cases hmistaken with
      | field last' _ leftmost' lost free =>
        cases last.symm.trans last'
        cases leftmost.symm.trans leftmost'
        exact ⟨lost, free⟩
      | renamed last' | spared last' => cases last.symm.trans last'
    rw [hmistaken]
    by_cases lost : Lost earlier base
    · have himport : (home.table earlier).import? base = none :=
        congrArg Known.module (known_of_lost hearlier lost)
      have hplain : home.classify (home.table earlier) (.access object field) = .plain := by
        simp only [classify, leftmost, Option.bind_some, himport]
      rw [hplain, Value.plain_counts_iff, and_iff_right lost]
    · have himport : (home.table earlier).import? base = some module :=
        congrArg Known.module (known_of_survivingBinding? home hearlier imported lost)
      refine iff_of_false (Value.not_counts (Or.inr ?_) final) fun h => lost h.1
      simp only [classify, leftmost, Option.bind_some, himport]

/-- An own name makes a member unless the table is wrong about what was deleted. -/
theorem counts_iff_not_missed (h : Own history name)
    (hsimple : ∀ stmt ∈ history, stmt.isSimple = true) :
    home.Counts history name final ↔ ¬ Missed final history name := by
  induction h with
  | function last | classDef last | lambda last =>
    refine counts_iff hsimple last (fun lost hnot => hnot (.lost lost)) fun kept =>
      ⟨_, rfl, iff_of_true (Or.inl rfl) fun hmissed => ?_⟩
    cases hmissed with
    | lost lost => exact kept lost
    | renamed last' | made last' => cases last.symm.trans last'
  | @made history earlier before name other last defined =>
    have hearlier := isSimple_of_survivingBinding? hsimple last
    refine counts_iff hsimple last (fun lost hnot => hnot (.lost lost)) fun kept =>
      ⟨_, rfl, ?_⟩
    have hmissed : Missed final history name ↔ Lost earlier other ∧ isReserved final = true := by
      refine ⟨fun hmissed => ?_, fun ⟨lost, reserved⟩ => .made last lost reserved⟩
      cases hmissed with
      | lost lost => exact absurd lost kept
      | renamed last' => cases last.symm.trans last'
      | made last' lost reserved =>
        cases last.symm.trans last'
        exact ⟨lost, reserved⟩
    rw [hmissed]
    by_cases lost : Lost earlier other
    · have hlookup : (home.table earlier).lookup? other = none := by
        simpa [Bindings.known] using congrArg Known.value (known_of_lost hearlier lost)
      have hplain : home.classify (home.table earlier) (.call (.name other)) = .plain := by
        simp only [classify, called, hlookup]
      rw [hplain, Value.plain_counts_iff, and_iff_right lost, Bool.not_eq_true]
    · have hknown := known_of_survivingBinding? home hearlier defined lost
      have hcallable : other ∈ (home.table earlier).callables :=
        List.contains_iff_mem.mp (congrArg Known.callable hknown)
      obtain ⟨symbol, hsymbol, hclass⟩ := Option.map_eq_some_iff.mp (congrArg Known.value hknown)
      rw [Value.ofSymbol, Value.mk.injEq] at hclass
      refine iff_of_true (Or.inl ?_) fun h => lost h.1
      simp [classify, called, hsymbol, hclass.1, hclass.2, hcallable, Kind.isCallable]
  | @renamed history earlier name other last own ih =>
    by_cases kept : Lost history name
    · exact iff_of_false (not_counts_of_lost hsimple kept) fun hnot => hnot (.lost kept)
    · rw [counts_of_renamed hsimple last kept, ih (isSimple_of_survivingBinding? hsimple last),
        not_iff_not]
      refine ⟨.renamed last, fun hmissed => ?_⟩
      cases hmissed with
      | lost lost => exact absurd lost kept
      | renamed last' missed =>
        cases last.symm.trans last'
        exact missed
      | made last' => cases last.symm.trans last'

end Home

/-! ### Membership -/

/-- Of symbols that fit, membership is a matter of their kinds: what can be called is a member, and
data is one if nobody declares it and its name is not reserved. -/
theorem isMember_iff {home : String} {symbol : Symbol} (hdocumented : symbol.documented = true)
    (hfits : (Value.ofSymbol symbol).Fits home) :
    symbol.isMember home = true ↔ symbol.kind.isCallable = true ∨
      (symbol.kind = .data ∧ symbol.declaredIn = none ∧ symbol.isDunder = false) := by
  obtain ⟨hcallable, hmodule, hunresolved⟩ := hfits
  rw [Symbol.isMember]
  cases hdeclared : symbol.declaredIn with
  | none =>
    cases hkind : symbol.kind <;>
      simp_all [Value.ofSymbol, Kind.isCallable]
  | some declared =>
    cases hkind : symbol.kind <;>
      simp_all [Value.ofSymbol, Kind.isCallable]

namespace Home

variable {home : Home} {body : List Stmt} {name : String}

theorem exists_symbol_iff {value : Value} :
    ((home.table (historyOf body)).known name).value = some value ↔
      ∃ symbol ∈ home.symbols body, symbol.name = name ∧ Value.ofSymbol symbol = value := by
  have hindexed := (coherent_run home body).indexed
  rw [historyOf, ← run_eq_table, Bindings.known, Option.map_eq_some_iff]
  constructor
  · rintro ⟨symbol, hsymbol, hvalue⟩
    obtain ⟨hmem, hname⟩ := hindexed.mem_of_lookup? hsymbol
    exact ⟨symbol, hmem, hname, hvalue⟩
  · rintro ⟨symbol, hsymbol, rfl, hvalue⟩
    exact ⟨symbol, hindexed.lookup?_of_mem hsymbol, hvalue⟩

/-- A name has a symbol if its last binding was not followed by a deletion. -/
theorem exists_symbol_iff_isSome_lastBinding? :
    (∃ symbol ∈ home.symbols body, symbol.name = name) ↔
      (lastBinding? name (historyOf body)).isSome = true := by
  have hknown := known_table home name (isSimple_of_mem_historyOf body)
  constructor
  · rintro ⟨symbol, hsymbol, hname⟩
    have hvalue := exists_symbol_iff.mpr ⟨symbol, hsymbol, hname, rfl⟩
    rw [hknown] at hvalue
    cases hlast : lastBinding? name (historyOf body) with
    | some last => rfl
    | none =>
      rw [hlast] at hvalue
      cases hvalue
  · intro hlast
    obtain ⟨⟨binding, earlier⟩, hlast⟩ := Option.isSome_iff_exists.mp hlast
    rw [hlast] at hknown
    have hvalue : ∃ value, ((home.table (historyOf body)).known name).value = some value := by
      rw [hknown]
      cases binding <;> exact ⟨_, rfl⟩
    obtain ⟨value, hvalue⟩ := hvalue
    obtain ⟨symbol, hsymbol, hname, -⟩ := exists_symbol_iff.mp hvalue
    exact ⟨symbol, hsymbol, hname⟩

theorem isMember_iff_of_mem {symbol : Symbol} (h : symbol ∈ home.symbols body) :
    symbol.isMember home.name = true ↔ symbol.kind.isCallable = true ∨
      (symbol.kind = .data ∧ symbol.declaredIn = none ∧ symbol.isDunder = false) :=
  isMember_iff ((coherent_run home body).documented symbol h)
    ((coherent_run home body).fits symbol h)

/-- A symbol is a member if what the table knows of its name makes it one. -/
theorem isMember_iff_counts {symbol : Symbol} (h : symbol ∈ home.symbols body) :
    symbol.isMember home.name = true ↔
      home.Counts (historyOf body) symbol.name symbol.name := by
  rw [isMember_iff_of_mem h, counts_iff_of_value (exists_symbol_iff.mpr ⟨symbol, h, rfl, rfl⟩)]
  rfl

theorem exists_symbol_of_counts {final : String}
    (h : home.Counts (historyOf body) name final) :
    ∃ symbol ∈ home.symbols body, symbol.name = name :=
  exists_symbol_iff_isSome_lastBinding?.mpr
    (isSome_lastBinding?_of_counts (isSimple_of_mem_historyOf body) h)

/-- The symbols of a module. Every symbol is documented, and its kind fits its declaring module;
so it is a member if it can be called, or if it is data that nobody declares under a name that is
not reserved. There is a symbol for each name whose binding survives, save those that the table
lost, and for those that it spared. A name whose surviving binding takes it from elsewhere is no
member unless the table is mistaken about it, and a name whose surviving binding makes something
here that can be called is one unless it is missed. None of that happens if the names that are taken
out of the table are those that are deleted. -/
theorem membership_of_symbols (home : Home) (body : List Stmt) :
    (∀ symbol ∈ home.symbols body,
      (symbol.kind.isCallable = true → symbol.declaredIn = some home.name) ∧
      (symbol.kind = .module → symbol.declaredIn = none) ∧
      (symbol.kind = .unresolved → symbol.declaredIn.isSome = true) ∧
      symbol.documented = true ∧
      (symbol.isMember home.name = true ↔ symbol.kind.isCallable = true ∨
        (symbol.kind = .data ∧ symbol.declaredIn = none ∧ symbol.isDunder = false))) ∧
    ∀ name,
      ((∃ symbol ∈ home.symbols body, symbol.name = name) ↔
        ((survivingBinding? name (historyOf body)).isSome = true ∧
          ¬ Lost (historyOf body) name) ∨ Spared (historyOf body) name) ∧
      (Foreign (historyOf body) name →
        ((∀ symbol ∈ home.symbols body, symbol.name = name →
          symbol.isMember home.name = false) ↔ ¬ Mistaken home name (historyOf body) name)) ∧
      (Own (historyOf body) name →
        (((∃ symbol ∈ home.symbols body, symbol.name = name) ∧
          ∀ symbol ∈ home.symbols body, symbol.name = name →
            symbol.isMember home.name = true) ↔ ¬ Missed name (historyOf body) name)) ∧
      (Faithful (historyOf body) →
        ¬ Lost (historyOf body) name ∧ ¬ Spared (historyOf body) name ∧
          ¬ Mistaken home name (historyOf body) name ∧ ¬ Missed name (historyOf body) name) := by
  refine ⟨fun symbol hsymbol => ?_, fun name => ⟨?_, ?_, ?_, ?_⟩⟩
  · have hcoherent := coherent_run home body
    obtain ⟨hcallable, hmodule, hunresolved⟩ := hcoherent.fits symbol hsymbol
    exact ⟨hcallable, hmodule, hunresolved, hcoherent.documented symbol hsymbol,
      isMember_iff_of_mem hsymbol⟩
  · rw [exists_symbol_iff_isSome_lastBinding?, isSome_lastBinding?_iff]
  · intro hforeign
    rw [← counts_iff_mistaken hforeign (isSimple_of_mem_historyOf body)]
    constructor
    · intro hnone hcounts
      obtain ⟨symbol, hsymbol, rfl⟩ := exists_symbol_of_counts hcounts
      exact Bool.eq_false_iff.mp (hnone symbol hsymbol rfl)
        ((isMember_iff_counts hsymbol).mpr hcounts)
    · rintro hcounts symbol hsymbol rfl
      exact Bool.eq_false_iff.mpr fun hmember => hcounts ((isMember_iff_counts hsymbol).mp hmember)
  · intro hown
    rw [← counts_iff_not_missed hown (isSimple_of_mem_historyOf body)]
    constructor
    · rintro ⟨⟨symbol, hsymbol, rfl⟩, hall⟩
      exact (isMember_iff_counts hsymbol).mp (hall symbol hsymbol rfl)
    · refine fun hcounts => ⟨exists_symbol_of_counts hcounts, ?_⟩
      rintro symbol hsymbol rfl
      exact (isMember_iff_counts hsymbol).mpr hcounts
  · exact fun h => ⟨h.not_lost name, h.not_spared name, h.not_mistaken, h.not_missed⟩

/-- A module that renames what it imports and what it defines, in part under a condition, and then
deletes the first names. -/
def renamings : List Stmt :=
  [.importModules 1 [{ name := "os.path" }],
    .branch 2 (.name "flag") [.assign 3 [.name "a"] (some (.name "os"))]
      [.assign 4 [.name "a"] (some (.access (.name "os") "sep"))],
    .assign 5 [.name "b", .sequence [.name "x"]] (some (.name "a")),
    .classDef 6 "C" [.function 7 "__call__" []],
    .assign 8 [.name "__c"] (some (.call (.name "C"))),
    .assign 9 [.name "d"] (some (.name "__c")),
    .delete 10 (.bracketed [.name "os", .name "a", .name "C"])]

/-- What was imported stays foreign under its new name, and what was made here stays own. -/
theorem members_of_renamings :
    (∀ symbol ∈ symbols { name := "p.m" } renamings, symbol.name = "b" →
      symbol.isMember "p.m" = false) ∧
    ∃ symbol ∈ symbols { name := "p.m" } renamings, symbol.name = "d" ∧
      symbol.isMember "p.m" = true := by
  obtain ⟨-, hnames⟩ := membership_of_symbols { name := "p.m" } renamings
  have hfaithful : Faithful (historyOf renamings) := by
    repeat refine List.forall_mem_cons.mpr ⟨fun name => rfl, ?_⟩
    exact List.forall_mem_nil _
  have hforeign : Foreign (historyOf renamings) "b" :=
    .renamed rfl (.field rfl rfl rfl)
  have hown : Own (historyOf renamings) "d" :=
    .renamed rfl (.made rfl rfl)
  obtain ⟨-, hb, -, hright⟩ := hnames "b"
  obtain ⟨-, -, hd, hright'⟩ := hnames "d"
  obtain ⟨⟨symbol, hsymbol, hname⟩, hall⟩ := (hd hown).mpr (hright' hfaithful).2.2.2
  exact ⟨(hb hforeign).mpr (hright hfaithful).2.2.1, symbol, hsymbol, hname,
    hall symbol hsymbol hname⟩

/-- A module that deletes a field of its function and a field of a module that it imported, and one
of its functions in a list within a list. -/
def innerDeletions : List Stmt :=
  [.function 1 "f" [.other 2],
    .assign 3 [.place] (some (.compound [])),
    .delete 4 (.access (.name "f") "field"),
    .importModules 5 [{ name := "foo" }],
    .delete 6 (.access (.name "foo") "bar"),
    .assign 7 [.name "x"] (some (.access (.name "foo") "CONST")),
    .function 8 "g" [.other 9],
    .delete 10 (.bracketed [.bracketed [.name "g"]]),
    .assign 11 [.name "y"] (some (.name "g"))]

/-- The function is own and has no symbol. The field of the imported module is foreign, and so is
the name that was assigned the deleted one; both are members. -/
theorem members_of_innerDeletions :
    Own (historyOf innerDeletions) "f" ∧
    (¬ ∃ symbol ∈ symbols { name := "m" } innerDeletions, symbol.name = "f") ∧
    Foreign (historyOf innerDeletions) "x" ∧ Foreign (historyOf innerDeletions) "y" ∧
    ∀ name ∈ ["x", "y"], ∃ symbol ∈ symbols { name := "m" } innerDeletions,
      symbol.name = name ∧ symbol.isMember "m" = true := by
  refine ⟨.function rfl, ?_, .field rfl rfl rfl, .unbound rfl rfl, ?_⟩
  · decide
  · decide

end Home

end DocStubs.Code
