import DocStubs.Proofs.Code.Changes
import Mathlib.Data.List.Induction

/-!
# The names that a history leaves bound

A table is built one change at a time and forgets how it came about. What it holds in the end can
be said of the whole history of changes instead: a name is bound if the last change to it binds it,
it stands where it was first bound after its last deletion, with the line of that binding, and all
else about it comes from the last binding. Both say the same, for every list of changes.

The history is looked at from both its ends, so neither end is good for an induction as it stands.
`opening?_concat` and `lastBound?_concat` say how each part of the answer changes with one more
change at the end; the table does the same.

## Main definitions

* `opening?` — where a name was first bound after its last deletion
* `lastBound?`, `lastChange?` — the last binding of a name, and the last change to it
* `inForce` — the symbols that a history leaves bound

## Main results

* `symbols_foldl_change` — the symbols of a table are those that its history leaves bound
* `history_determines_table` — the same, with what it means for each name
-/

namespace DocStubs.Code

namespace Change

/-- The symbol that a change binds a name to. -/
def binds? (name : String) : Change → Option Symbol
  | bind symbol => if symbol.name = name then some symbol else none
  | _ => none

/-- Whether a change deletes a name. -/
def deletes (name : String) : Change → Bool
  | unbind id => id = name
  | _ => false

/-- Whether a change binds or deletes a name. -/
def concerns (name : String) (change : Change) : Bool :=
  (change.binds? name).isSome || change.deletes name

end Change

/-! ### What a history says of a name -/

/-- The number of changes up to the last deletion of a name, zero if it was never deleted. -/
def sinceDeletion (name : String) (changes : List Change) : Nat :=
  changes.length - changes.reverse.findIdx (·.deletes name)

/-- Where a name was first bound after its last deletion, or at all if it was never deleted. -/
def opening? (name : String) (changes : List Change) : Option Nat :=
  let start := sinceDeletion name changes
  ((changes.drop start).findIdx? fun change => (change.binds? name).isSome).map (start + ·)

/-- The last binding of a name. -/
def lastBound? (name : String) (changes : List Change) : Option Symbol :=
  changes.reverse.findSome? (·.binds? name)

/-- The last change to a name. -/
def lastChange? (name : String) (changes : List Change) : Option Change :=
  changes.reverse.find? (·.concerns name)

/-- The symbol of the name that was first bound at some place of a history: it has the line of that
binding, and all else from the last binding of the name. -/
def boundAt? (changes : List Change) (index : Nat) : Option Symbol :=
  match changes[index]? with
  | some (.bind first) =>
    if opening? first.name changes = some index then
      (lastBound? first.name changes).map ({ · with line := first.line })
    else none
  | _ => none

/-- The symbols that a history leaves bound, in the order of their first bindings. -/
def inForce (changes : List Change) : List Symbol :=
  (List.range changes.length).filterMap (boundAt? changes)

/-! ### One more change -/

section Concat

variable (name : String) (changes : List Change) (change : Change)

theorem sinceDeletion_le : sinceDeletion name changes ≤ changes.length := Nat.sub_le _ _

theorem sinceDeletion_concat :
    sinceDeletion name (changes ++ [change]) =
      if change.deletes name then changes.length + 1 else sinceDeletion name changes := by
  rw [sinceDeletion, sinceDeletion, List.reverse_append, List.reverse_singleton,
    List.singleton_append, List.findIdx_cons, List.length_append, List.length_singleton]
  cases change.deletes name with
  | true => rfl
  | false => simp

theorem opening?_concat :
    opening? name (changes ++ [change]) =
      if change.deletes name then none
      else if (change.binds? name).isSome then
        some ((opening? name changes).getD changes.length)
      else opening? name changes := by
  rw [opening?, opening?]
  have hle := sinceDeletion_le name changes
  simp only [sinceDeletion_concat]
  cases hdeletes : change.deletes name with
  | true => simp
  | false =>
    simp only [Bool.false_eq_true, if_false]
    rw [List.drop_append_of_le_length hle, List.findIdx?_append, List.findIdx?_singleton,
      List.length_drop]
    cases (changes.drop (sinceDeletion name changes)).findIdx?
        (fun change => (change.binds? name).isSome) with
    | none =>
      cases (change.binds? name).isSome with
      | true => simp [Nat.add_sub_cancel' hle]
      | false => simp
    | some index => cases (change.binds? name).isSome <;> simp

theorem lastBound?_concat :
    lastBound? name (changes ++ [change]) = (change.binds? name).or (lastBound? name changes) := by
  rw [lastBound?, lastBound?, List.reverse_append, List.reverse_singleton, List.singleton_append,
    List.findSome?_cons]
  cases change.binds? name <;> rfl

theorem lastChange?_concat :
    lastChange? name (changes ++ [change]) =
      if change.concerns name then some change else lastChange? name changes := by
  rw [lastChange?, lastChange?, List.reverse_append, List.reverse_singleton,
    List.singleton_append, List.find?_cons]
  cases change.concerns name <;> rfl

end Concat

/-! ### Places of a history -/

section Places

variable {name : String} {changes : List Change} {change : Change} {index : Nat}
  {symbol first last : Symbol}

theorem Change.binds?_eq_some (h : change.binds? name = some symbol) :
    change = .bind symbol ∧ symbol.name = name := by
  cases change with
  | bind bound =>
    rw [binds?] at h
    split at h
    · cases h
      exact ⟨rfl, ‹_›⟩
    · cases h
  | unbind | standFor | makeCallable => cases h

theorem name_of_lastBound? (h : lastBound? name changes = some symbol) : symbol.name = name := by
  obtain ⟨change, -, hbinds⟩ := List.exists_of_findSome?_eq_some h
  exact (Change.binds?_eq_some hbinds).2

/-- Where a name was first bound, there is a binding of that name. -/
theorem exists_of_opening? (h : opening? name changes = some index) :
    ∃ first last, changes[index]? = some (.bind first) ∧ first.name = name ∧
      lastBound? name changes = some last := by
  obtain ⟨offset, hoffset, rfl⟩ := Option.map_eq_some_iff.mp h
  obtain ⟨hlt, hbinds, -⟩ := List.findIdx?_eq_some_iff_getElem.mp hoffset
  obtain ⟨first, hfirst⟩ := Option.isSome_iff_exists.mp hbinds
  obtain ⟨hchange, hname⟩ := Change.binds?_eq_some hfirst
  have hindex : changes[sinceDeletion name changes + offset]? = some (.bind first) := by
    rw [← List.getElem?_drop, List.getElem?_eq_getElem hlt, hchange]
  have hlast : (lastBound? name changes).isSome = true := by
    rw [lastBound?, List.findSome?_isSome_iff]
    exact ⟨_, List.mem_reverse.mpr (List.mem_of_getElem? hindex), by simp [Change.binds?, hname]⟩
  obtain ⟨last, hlast⟩ := Option.isSome_iff_exists.mp hlast
  exact ⟨first, last, hindex, hname, hlast⟩

theorem boundAt?_eq_some_iff :
    boundAt? changes index = some symbol ↔
      ∃ first last, changes[index]? = some (.bind first) ∧
        opening? first.name changes = some index ∧ lastBound? first.name changes = some last ∧
        symbol = { last with line := first.line } := by
  rw [boundAt?]
  constructor
  · intro h
    split at h
    · rename_i first hfirst
      split at h
      · rename_i hopening
        obtain ⟨last, hlast, rfl⟩ := Option.map_eq_some_iff.mp h
        exact ⟨first, last, hfirst, hopening, hlast, rfl⟩
      · cases h
    · cases h
  · rintro ⟨first, last, hfirst, hopening, hlast, rfl⟩
    simp only [hfirst, hopening, hlast, if_true, Option.map_some]

/-- The symbols in force are those of the names that are bound somewhere. -/
theorem mem_names_inForce :
    name ∈ (inForce changes).map (·.name) ↔ (opening? name changes).isSome = true := by
  rw [List.mem_map]
  constructor
  · rintro ⟨symbol, hsymbol, rfl⟩
    obtain ⟨index, -, hbound⟩ := List.mem_filterMap.mp hsymbol
    obtain ⟨first, last, -, hopening, hlast, rfl⟩ := boundAt?_eq_some_iff.mp hbound
    have hname : last.name = first.name := name_of_lastBound? hlast
    rw [hname, hopening]
    rfl
  · intro h
    obtain ⟨index, hopening⟩ := Option.isSome_iff_exists.mp h
    obtain ⟨first, last, hfirst, rfl, hlast⟩ := exists_of_opening? hopening
    have hname : last.name = first.name := name_of_lastBound? hlast
    refine ⟨{ last with line := first.line }, List.mem_filterMap.mpr ⟨index, ?_, ?_⟩, hname⟩
    · exact List.mem_range.mpr (List.getElem?_eq_some_iff.mp hfirst).1
    · exact boundAt?_eq_some_iff.mpr ⟨first, last, hfirst, hopening, hlast, rfl⟩

/-! ### What becomes of a symbol -/

/-- What becomes of a symbol by a change. -/
def Change.update (change : Change) (old : Symbol) : Option Symbol :=
  if change.deletes old.name then none
  else some (((change.binds? old.name).map ({ · with line := old.line })).getD old)

/-- The symbol that a change adds to those with given names. -/
def Change.added (names : List String) : Change → List Symbol
  | .bind symbol => if symbol.name ∈ names then [] else [symbol]
  | _ => []

theorem boundAt?_concat_of_lt (h : index < changes.length) (change : Change) :
    boundAt? (changes ++ [change]) index = (boundAt? changes index).bind change.update := by
  rw [boundAt?, boundAt?, List.getElem?_append_left h]
  split
  · rename_i first hfirst
    rw [opening?_concat, lastBound?_concat]
    by_cases hopening : opening? first.name changes = some index
    · obtain ⟨_, last, -, -, hlast⟩ := exists_of_opening? hopening
      have hname : last.name = first.name := name_of_lastBound? hlast
      rw [if_pos hopening, hopening, hlast, Option.map_some, Option.bind_some, Change.update]
      cases hdeletes : change.deletes first.name with
      | true => simp [hname, hdeletes]
      | false => cases hbinds : change.binds? first.name <;> simp [hname, hdeletes, hbinds]
    · rw [if_neg hopening, Option.bind_none]
      refine if_neg fun hopens => ?_
      split at hopens
      · cases hopens
      · split at hopens
        · -- The name was not bound before, so it is bound here at the end of the history.
          cases hbefore : opening? first.name changes with
          | none =>
            rw [hbefore] at hopens
            exact Nat.ne_of_gt h (Option.some.inj hopens)
          | some before =>
            rw [hbefore] at hopens hopening
            exact hopening hopens
        · exact hopening hopens
  · rfl

theorem boundAt?_concat_length (changes : List Change) (change : Change) :
    (boundAt? (changes ++ [change]) changes.length).toList =
      change.added ((inForce changes).map (·.name)) := by
  rw [boundAt?, List.getElem?_concat_length]
  cases change with
  | bind symbol =>
    dsimp only [Change.added]
    rw [opening?_concat, lastBound?_concat]
    simp only [Change.deletes, Change.binds?, mem_names_inForce, if_true, Bool.false_eq_true,
      if_false, Option.isSome_some, Option.some_or, Option.map_some, Option.some.injEq]
    cases hbefore : opening? symbol.name changes with
    | none => simp
    | some before =>
      obtain ⟨first, _, hfirst, -⟩ := exists_of_opening? hbefore
      have hlt := (List.getElem?_eq_some_iff.mp hfirst).1
      simp [Nat.ne_of_lt hlt]
  | unbind | standFor | makeCallable => rfl

/-- One more change to a history. -/
theorem inForce_concat (changes : List Change) (change : Change) :
    inForce (changes ++ [change]) =
      (inForce changes).filterMap change.update ++
        change.added ((inForce changes).map (·.name)) := by
  rw [← boundAt?_concat_length, inForce, List.length_append, List.length_singleton,
    List.range_succ, List.filterMap_append, inForce, List.filterMap_filterMap]
  congr 1
  refine List.filterMap_congr fun index hindex => ?_
  exact boundAt?_concat_of_lt (List.mem_range.mp hindex) change

end Places

/-! ### What a change does to a table -/

namespace Bindings

variable {bindings : Bindings}

theorem update_bind (symbol old : Symbol) :
    (Change.bind symbol).update old =
      some (if symbol.name = old.name then { symbol with line := old.line } else old) := by
  have hdeletes : ¬ (Change.bind symbol).deletes old.name = true := Bool.false_ne_true
  rw [Change.update, if_neg hdeletes, Change.binds?]
  split <;> rfl

/-- A symbol that is put in its place changes at most the symbol of its name. -/
theorem place_eq_filterMap {symbol : Symbol} {symbols : List Symbol}
    (h : (symbols.map (·.name)).Nodup) :
    place symbol symbols = symbols.filterMap (Change.bind symbol).update ++
      (Change.bind symbol).added (symbols.map (·.name)) := by
  induction symbols with
  | nil => rfl
  | cons old rest ih =>
    rw [List.map_cons, List.nodup_cons] at h
    rw [place, List.filterMap_cons_some (update_bind symbol old), Change.added, List.map_cons]
    by_cases hname : old.name = symbol.name
    · have hrest : rest.filterMap (Change.bind symbol).update = rest.filterMap some := by
        refine List.filterMap_congr fun other hother => ?_
        have hne : symbol.name ≠ other.name := fun hsame =>
          h.1 (hname ▸ hsame ▸ List.mem_map_of_mem hother)
        rw [update_bind, if_neg hne]
      rw [if_pos hname, if_pos hname.symm, if_pos (hname ▸ List.mem_cons_self), hrest,
        List.filterMap_some, List.append_nil]
    · have hmem :
          symbol.name ∈ old.name :: rest.map (·.name) ↔ symbol.name ∈ rest.map (·.name) := by
        rw [List.mem_cons, or_iff_right (Ne.symm hname)]
      simp only [if_neg hname, if_neg (Ne.symm hname), hmem, List.cons_append]
      rw [ih h.2, Change.added]

/-- One more change to a table. -/
theorem Indexed.symbols_change (h : bindings.Indexed) (change : Change) :
    (bindings.change change).symbols =
      bindings.symbols.filterMap change.update ++
        change.added (bindings.symbols.map (·.name)) := by
  cases change with
  | bind symbol => exact (h.symbols_bind symbol).trans (place_eq_filterMap h.nodup)
  | unbind id =>
    have hupdate : (Change.unbind id).update = Option.guard fun symbol => symbol.name ≠ id := by
      funext symbol
      by_cases hname : symbol.name = id
      · simp [Change.update, Change.deletes, Option.guard, hname]
      · simp [Change.update, Change.deletes, Change.binds?, Option.guard, hname, Ne.symm hname]
    rw [hupdate, List.filterMap_eq_filter]
    exact (h.symbols_unbind id).trans (List.append_nil _).symm
  | standFor name target =>
    exact (List.filterMap_some (l := bindings.symbols)).symm.trans (List.append_nil _).symm
  | makeCallable name =>
    exact (List.filterMap_some (l := bindings.symbols)).symm.trans (List.append_nil _).symm

end Bindings

/-! ### The table of a history -/

/-- The symbols of a table are those that its history leaves bound. -/
theorem symbols_foldl_change (changes : List Change) :
    (changes.foldl Bindings.change {}).symbols = inForce changes := by
  induction changes using List.reverseRecOn with
  | nil => rfl
  | append_singleton changes change ih =>
    rw [List.foldl_concat, (Bindings.Indexed.empty.foldl_change changes).symbols_change, ih,
      inForce_concat]

/-- A name is bound somewhere if the last change to it binds it. -/
theorem isSome_opening?_iff (name : String) (changes : List Change) :
    (opening? name changes).isSome = true ↔
      ∃ symbol, lastChange? name changes = some (.bind symbol) := by
  induction changes using List.reverseRecOn with
  | nil => simp [opening?, lastChange?]
  | append_singleton changes change ih =>
    rw [opening?_concat, lastChange?_concat, Change.concerns]
    cases hbinds : change.binds? name with
    | some symbol =>
      obtain ⟨rfl, -⟩ := Change.binds?_eq_some hbinds
      simp [Change.deletes]
    | none =>
      cases hdeletes : change.deletes name with
      | true =>
        have hother : ∀ symbol, change ≠ .bind symbol := by
          rintro symbol rfl
          cases hdeletes
        simp [hother]
      | false => simpa using ih

/-- The table that any changes make of an empty one. Its symbols are those that the changes leave
bound: one for each name to which the last change was a binding, in the order in which the names
were first bound after they were last deleted, with the line of that binding and with all else from
the last one. A name is looked up in this list. -/
theorem history_determines_table (changes : List Change) :
    let bindings := changes.foldl Bindings.change {}
    bindings.symbols = inForce changes ∧
    (∀ name, name ∈ bindings.symbols.map (·.name) ↔
      ∃ symbol, lastChange? name changes = some (.bind symbol)) ∧
    (bindings.symbols.map (·.name)).Nodup ∧
    ∀ name, bindings.lookup? name = (inForce changes).find? (·.name = name) := by
  intro bindings
  have hindexed : bindings.Indexed := Bindings.Indexed.empty.foldl_change changes
  have hsymbols : bindings.symbols = inForce changes := symbols_foldl_change changes
  refine ⟨hsymbols, fun name => ?_, hindexed.nodup, fun name => ?_⟩
  · rw [hsymbols, mem_names_inForce, isSome_opening?_iff]
  · rw [hindexed.lookup?_eq_find?, hsymbols]

/-- A name that was deleted comes last when it is bound again, and one that was not keeps its place
and its line. -/
example :
    inForce [.bind { name := "a", kind := .function, line := 1 },
      .bind { name := "b", kind := .data, line := 2 }, .unbind "a",
      .bind { name := "a", kind := .data, line := 4 },
      .bind { name := "b", kind := .class, line := 5 }] =
      [{ name := "b", kind := .class, line := 2 }, { name := "a", kind := .data, line := 4 }] := by
  decide

end DocStubs.Code
