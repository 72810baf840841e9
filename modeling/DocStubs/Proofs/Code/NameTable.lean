import DocStubs.Code.Bindings
import Mathlib.Data.List.InsertIdx
import Mathlib.Data.List.Nodup

/-!
# The name table

A table keeps its symbols in a list and, apart from that, the position of each name in the list. A
symbol is found by its position, put in its place or taken out of it, and when it is taken out the
positions of all symbols behind it change. All of that is right as long as the table is `Indexed`:
each name has the position of the symbol of that name, and no other.

Of an indexed table the positions need not be spoken of any more. A name is looked up as if the
list were searched for it, is bound as if the list were searched for its place, and is deleted as
if the list were filtered. What is said of tables elsewhere starts from these three equations.

## Main definitions

* `Bindings.Indexed` — positions and symbols fit
* `Bindings.place` — a symbol in a list, in its place

## Main results

* `Bindings.Indexed.bind`, `Bindings.Indexed.unbind` — tables stay indexed
* `Bindings.Indexed.lookup?_eq_find?`, `Bindings.Indexed.symbols_bind`,
  `Bindings.Indexed.symbols_unbind` — what is done by position, without positions
* `Bindings.Indexed.lookup?_bind`, `Bindings.Indexed.lookup?_unbind` — names that are looked up
  later
-/

namespace DocStubs.Code

/-- What a symbol says about its value. -/
def Value.ofSymbol (symbol : Symbol) : Value :=
  { kind := symbol.kind, declaredIn := symbol.declaredIn }

namespace Bindings

/-- Each name has the position of the symbol of that name, and no other. -/
def Indexed (bindings : Bindings) : Prop :=
  ∀ name index, bindings.position? name = some index ↔
    (bindings.symbols.map (·.name))[index]? = some name

/-! ### What binding and deleting do -/

section Operations

variable (bindings : Bindings) (name : String)

/-- A table from which a name was taken holds the other names as before. -/
theorem find?_filter_ne {α : Type} (key : α → String) (items : List α) (id : String) :
    (items.filter (key · ≠ id)).find? (key · = name) =
      if id = name then none else items.find? (key · = name) := by
  rw [List.find?_filter]
  by_cases h : id = name
  · subst h
    simp
  · rw [if_neg h]
    congr 1
    funext item
    by_cases hitem : key item = name
    · simp [hitem, Ne.symm h]
    · simp [hitem]

variable {symbol : Symbol} {id : String} {index : Nat}

theorem bind_of_some (h : bindings.position? symbol.name = some index) :
    bindings.bind symbol =
      { bindings.forget symbol.name with
        symbols := bindings.symbols.modify index fun old => { symbol with line := old.line } } := by
  rw [bind, h]

theorem bind_of_none (h : bindings.position? symbol.name = none) :
    bindings.bind symbol =
      { bindings.forget symbol.name with
        symbols := bindings.symbols ++ [symbol]
        positions := (symbol.name, bindings.symbols.length) :: bindings.positions } := by
  rw [bind, h]

theorem unbind_of_some (h : bindings.position? id = some index) :
    bindings.unbind id =
      { bindings.forget id with
        symbols := bindings.symbols.eraseIdx index
        positions := (bindings.positions.filter (·.1 ≠ id)).map fun (other, position) =>
          (other, if index < position then position - 1 else position) } := by
  rw [unbind, h]

theorem unbind_of_none (h : bindings.position? id = none) :
    bindings.unbind id = bindings.forget id := by
  rw [unbind, h]

theorem imports_bind (symbol : Symbol) :
    (bindings.bind symbol).imports = bindings.imports.filter (·.1 ≠ symbol.name) := by
  rw [bind]
  split <;> rfl

theorem callables_bind (symbol : Symbol) :
    (bindings.bind symbol).callables = bindings.callables.filter (· ≠ symbol.name) := by
  rw [bind]
  split <;> rfl

theorem imports_unbind (id : String) :
    (bindings.unbind id).imports = bindings.imports.filter (·.1 ≠ id) := by
  rw [unbind]
  split <;> rfl

theorem callables_unbind (id : String) :
    (bindings.unbind id).callables = bindings.callables.filter (· ≠ id) := by
  rw [unbind]
  split <;> rfl

theorem position?_bind_of_some (h : bindings.position? symbol.name = some index) :
    (bindings.bind symbol).position? name = bindings.position? name := by
  rw [bind_of_some bindings h]
  rfl

theorem position?_bind_of_none (h : bindings.position? symbol.name = none) :
    (bindings.bind symbol).position? name =
      if symbol.name = name then some bindings.symbols.length else bindings.position? name := by
  rw [bind_of_none bindings h, position?, List.find?_cons]
  by_cases hname : symbol.name = name
  · simp [hname]
  · simp [hname, position?]

theorem position?_unbind_of_some (h : bindings.position? id = some index) :
    (bindings.unbind id).position? name =
      if id = name then none
      else (bindings.position? name).map fun position =>
        if index < position then position - 1 else position := by
  have hfilter := find?_filter_ne name Prod.fst bindings.positions id
  rw [unbind_of_some bindings h, position?, List.find?_map]
  simp only [Function.comp_def, hfilter]
  by_cases hid : id = name
  · simp [hid]
  · simp [hid, position?, Function.comp_def]

end Operations

/-! ### Tables stay indexed -/

namespace Indexed

variable {bindings : Bindings} {symbol : Symbol} {name : String} {index : Nat}

theorem empty : Indexed {} := by
  intro name index
  simp [position?]

theorem not_mem_names (h : bindings.Indexed) (hnone : bindings.position? name = none) :
    name ∉ bindings.symbols.map (·.name) := by
  intro hmem
  obtain ⟨index, hindex⟩ := List.getElem?_of_mem hmem
  rw [(h name index).mpr hindex] at hnone
  cases hnone

theorem nodup (h : bindings.Indexed) : (bindings.symbols.map (·.name)).Nodup := by
  rw [List.nodup_iff_getElem?_ne_getElem?]
  intro first second hlt hlength hsame
  rw [List.getElem?_eq_getElem hlength] at hsame
  have hfirst := (h _ _).mpr hsame
  have hsecond := (h _ _).mpr (List.getElem?_eq_getElem hlength)
  exact Nat.ne_of_lt hlt (Option.some.inj (hfirst.symm.trans hsecond))

/-- A symbol that takes the place of another one has its name. -/
theorem names_modify (hindex : (bindings.symbols.map (·.name))[index]? = some symbol.name) :
    (bindings.symbols.modify index fun old => { symbol with line := old.line }).map (·.name) =
      bindings.symbols.map (·.name) := by
  refine List.ext_getElem? fun other => ?_
  rw [List.getElem?_map] at hindex
  rw [List.getElem?_map, List.getElem?_map, List.getElem?_modify]
  by_cases hother : index = other
  · subst hother
    rw [hindex]
    obtain ⟨old, hold, -⟩ := Option.map_eq_some_iff.mp hindex
    simp [hold]
  · simp [hother]

theorem bind (h : bindings.Indexed) (symbol : Symbol) : (bindings.bind symbol).Indexed := by
  intro name index
  cases hposition : bindings.position? symbol.name with
  | some place =>
    have hnames : (bindings.bind symbol).symbols.map (·.name) =
        bindings.symbols.map (·.name) := by
      rw [bind_of_some bindings hposition]
      exact names_modify ((h _ _).mp hposition)
    rw [position?_bind_of_some bindings name hposition, hnames]
    exact h name index
  | none =>
    have hnames : (bindings.bind symbol).symbols.map (·.name) =
        bindings.symbols.map (·.name) ++ [symbol.name] := by
      rw [bind_of_none bindings hposition, List.map_append, List.map_singleton]
    have hlength : bindings.symbols.length = (bindings.symbols.map (·.name)).length := by simp
    rw [position?_bind_of_none bindings name hposition, hnames, hlength]
    have hnew := h.not_mem_names hposition
    have hother := h name index
    generalize bindings.symbols.map (·.name) = names at hnew hother ⊢
    rw [List.getElem?_append]
    by_cases hname : symbol.name = name
    · subst hname
      rw [if_pos rfl]
      split
      · rename_i hlt
        refine iff_of_false (fun heq => Nat.ne_of_gt hlt (Option.some.inj heq)) fun heq => ?_
        exact hnew (List.mem_of_getElem? heq)
      · rw [List.getElem?_singleton, Option.some.injEq]
        split <;> simp <;> omega
    · rw [if_neg hname, hother]
      split
      · rfl
      · rename_i hge
        rw [List.getElem?_eq_none (Nat.not_lt.mp hge), List.getElem?_singleton]
        split <;> simp [hname]

theorem unbind (h : bindings.Indexed) (name : String) : (bindings.unbind name).Indexed := by
  intro other index
  cases hposition : bindings.position? name with
  | none =>
    rw [unbind_of_none bindings hposition]
    exact h other index
  | some place =>
    have hnames : (bindings.unbind name).symbols.map (·.name) =
        (bindings.symbols.map (·.name)).eraseIdx place := by
      rw [unbind_of_some bindings hposition, List.eraseIdx_map]
    have hplace := (h name place).mp hposition
    rw [position?_unbind_of_some bindings other hposition, hnames, List.getElem?_eraseIdx]
    by_cases hname : name = other
    · -- The only position of the name is the one that is taken out.
      subst hname
      rw [if_pos rfl]
      refine iff_of_false nofun fun heq => ?_
      split at heq
      · have hsame := Option.some.inj (((h name index).mpr heq).symm.trans hposition)
        omega
      · have hsame := Option.some.inj (((h name (index + 1)).mpr heq).symm.trans hposition)
        omega
    · rw [if_neg hname, Option.map_eq_some_iff]
      -- Another name is before that position or behind it.
      have hne : ∀ position, bindings.position? other = some position → position ≠ place := by
        rintro position hother rfl
        exact hname (Option.some.inj (hplace.symm.trans ((h other position).mp hother)))
      constructor
      · rintro ⟨position, hother, rfl⟩
        have hnot := hne position hother
        have hmem := (h other position).mp hother
        by_cases hlt : place < position
        · rw [if_pos hlt, if_neg (by omega), Nat.sub_add_cancel (by omega)]
          exact hmem
        · rw [if_neg hlt, if_pos (by omega)]
          exact hmem
      · intro heq
        split at heq
        · exact ⟨index, (h other index).mpr heq, if_neg (by omega)⟩
        · exact ⟨index + 1, (h other (index + 1)).mpr heq, if_pos (by omega)⟩

end Indexed

/-! ### Symbols in their places -/

/-- Puts a symbol into a list: in the place and with the line of the symbol of that name, or at
the end if there is none. -/
def place (symbol : Symbol) : List Symbol → List Symbol
  | [] => [symbol]
  | old :: rest =>
    if old.name = symbol.name then { symbol with line := old.line } :: rest
    else old :: place symbol rest

/-- A symbol is found in its place, with the line of the one that was there. -/
theorem find?_place (name : String) (symbol : Symbol) (symbols : List Symbol) :
    (place symbol symbols).find? (·.name = name) =
      if symbol.name = name then
        some { symbol with
          line := ((symbols.find? (·.name = name)).map Symbol.line).getD symbol.line }
      else symbols.find? (·.name = name) := by
  induction symbols with
  | nil =>
    by_cases h : symbol.name = name
    · subst h
      simp [place]
    · simp [place, h]
  | cons old rest ih =>
    rw [place]
    by_cases hold : old.name = symbol.name
    · by_cases h : symbol.name = name
      · subst h
        simp [hold]
      · simp [hold, h]
    · rw [if_neg hold]
      by_cases hname : old.name = name
      · have hne : symbol.name ≠ name := fun heq => hold (hname.trans heq.symm)
        simp [hname, hne]
      · simpa [hname] using ih

theorem place_of_not_mem {symbol : Symbol} {symbols : List Symbol}
    (h : symbol.name ∉ symbols.map (·.name)) : place symbol symbols = symbols ++ [symbol] := by
  induction symbols with
  | nil => rfl
  | cons old rest ih =>
    rw [List.map_cons, List.mem_cons, not_or] at h
    rw [place, if_neg (Ne.symm h.1), ih h.2, List.cons_append]

theorem modify_eq_place {symbol : Symbol} {symbols : List Symbol} {index : Nat}
    (hnodup : (symbols.map (·.name)).Nodup)
    (hindex : (symbols.map (·.name))[index]? = some symbol.name) :
    symbols.modify index (fun old => { symbol with line := old.line }) = place symbol symbols := by
  induction symbols generalizing index with
  | nil => cases hindex
  | cons old rest ih =>
    rw [List.map_cons, List.nodup_cons] at hnodup
    rw [place]
    cases index with
    | zero =>
      have hname : old.name = symbol.name := by simpa using hindex
      rw [if_pos hname, List.modify_zero_cons]
    | succ index =>
      rw [List.map_cons, List.getElem?_cons_succ] at hindex
      have hname : old.name ≠ symbol.name := fun hsame =>
        hnodup.1 (hsame ▸ List.mem_of_getElem? hindex)
      rw [if_neg hname, List.modify_succ_cons, ih hnodup.2 hindex]

theorem eraseIdx_eq_filter {name : String} {symbols : List Symbol} {index : Nat}
    (hnodup : (symbols.map (·.name)).Nodup)
    (hindex : (symbols.map (·.name))[index]? = some name) :
    symbols.eraseIdx index = symbols.filter (·.name ≠ name) := by
  induction symbols generalizing index with
  | nil => cases hindex
  | cons old rest ih =>
    rw [List.map_cons, List.nodup_cons] at hnodup
    cases index with
    | zero =>
      have hname : old.name = name := by simpa using hindex
      have hrest : ∀ other ∈ rest, other.name ≠ name := fun other hother hsame =>
        hnodup.1 (hname ▸ hsame ▸ List.mem_map_of_mem hother)
      rw [List.eraseIdx_cons_zero, List.filter_cons_of_neg (by simp [hname]),
        List.filter_eq_self.mpr fun other hother => by simp [hrest other hother]]
    | succ index =>
      rw [List.map_cons, List.getElem?_cons_succ] at hindex
      have hname : old.name ≠ name := fun hsame =>
        hnodup.1 (hsame ▸ List.mem_of_getElem? hindex)
      rw [List.eraseIdx_cons_succ, List.filter_cons_of_pos (by simp [hname]), ih hnodup.2 hindex]

/-! ### Without positions -/

namespace Indexed

variable {bindings : Bindings}

theorem symbols_bind (h : bindings.Indexed) (symbol : Symbol) :
    (bindings.bind symbol).symbols = place symbol bindings.symbols := by
  cases hposition : bindings.position? symbol.name with
  | some index =>
    rw [bind_of_some bindings hposition]
    exact modify_eq_place h.nodup ((h _ _).mp hposition)
  | none =>
    rw [bind_of_none bindings hposition]
    exact (place_of_not_mem (h.not_mem_names hposition)).symm

theorem symbols_unbind (h : bindings.Indexed) (name : String) :
    (bindings.unbind name).symbols = bindings.symbols.filter (·.name ≠ name) := by
  cases hposition : bindings.position? name with
  | some index =>
    rw [unbind_of_some bindings hposition]
    exact eraseIdx_eq_filter h.nodup ((h _ _).mp hposition)
  | none =>
    rw [unbind_of_none bindings hposition]
    refine (List.filter_eq_self.mpr fun symbol hsymbol => ?_).symm
    have hname : symbol.name ≠ name := fun hsame =>
      h.not_mem_names hposition (hsame ▸ List.mem_map_of_mem hsymbol)
    simp [hname]

/-- A symbol of the table is found under its name. -/
theorem lookup?_of_mem (h : bindings.Indexed) {symbol : Symbol} (hmem : symbol ∈ bindings.symbols) :
    bindings.lookup? symbol.name = some symbol := by
  obtain ⟨index, hindex⟩ := List.getElem?_of_mem hmem
  have hname : (bindings.symbols.map (·.name))[index]? = some symbol.name := by
    rw [List.getElem?_map, hindex, Option.map_some]
  rw [lookup?, (h _ _).mpr hname]
  exact hindex

theorem mem_of_lookup? (h : bindings.Indexed) {name : String} {symbol : Symbol}
    (hlookup : bindings.lookup? name = some symbol) :
    symbol ∈ bindings.symbols ∧ symbol.name = name := by
  obtain ⟨index, hposition, hindex⟩ := Option.bind_eq_some_iff.mp hlookup
  refine ⟨List.mem_of_getElem? hindex, ?_⟩
  have hname := (h name index).mp hposition
  rw [List.getElem?_map, hindex] at hname
  exact Option.some.inj hname

theorem lookup?_eq_find? (h : bindings.Indexed) (name : String) :
    bindings.lookup? name = bindings.symbols.find? (·.name = name) := by
  cases hfind : bindings.symbols.find? (·.name = name) with
  | some symbol =>
    obtain rfl : symbol.name = name := by simpa using List.find?_some hfind
    exact h.lookup?_of_mem (List.mem_of_find?_eq_some hfind)
  | none =>
    rw [Option.eq_none_iff_forall_ne_some]
    intro symbol hlookup
    obtain ⟨hmem, hname⟩ := h.mem_of_lookup? hlookup
    exact List.find?_eq_none.mp hfind symbol hmem (decide_eq_true hname)

/-- A name that is bound has the new symbol, with the line that it had before if it had one, and
other names keep theirs. -/
theorem lookup?_bind (h : bindings.Indexed) (symbol : Symbol) (name : String) :
    (bindings.bind symbol).lookup? name =
      if symbol.name = name then
        some { symbol with line := ((bindings.lookup? name).map Symbol.line).getD symbol.line }
      else bindings.lookup? name := by
  rw [(h.bind symbol).lookup?_eq_find?, h.lookup?_eq_find?, h.symbols_bind]
  exact find?_place name symbol bindings.symbols

/-- A name that is bound has the value that it is bound to, and other names keep theirs. -/
theorem value_bind (h : bindings.Indexed) (symbol : Symbol) (name : String) :
    ((bindings.bind symbol).lookup? name).map Value.ofSymbol =
      if symbol.name = name then some (Value.ofSymbol symbol)
      else (bindings.lookup? name).map Value.ofSymbol := by
  rw [h.lookup?_bind]
  split <;> rfl

theorem lookup?_unbind (h : bindings.Indexed) (id name : String) :
    (bindings.unbind id).lookup? name = if id = name then none else bindings.lookup? name := by
  rw [(h.unbind id).lookup?_eq_find?, h.lookup?_eq_find?, h.symbols_unbind]
  exact find?_filter_ne name Symbol.name bindings.symbols id

end Indexed

end Bindings

end DocStubs.Code
