import DocStubs.Proofs.Data.Json
import DocStubs.Proofs.Registry
import Mathlib.Data.List.Perm.Basic

/-!
# Manifests

A registry is written with all fields of all symbols and modules, and a manifest that somebody
writes by hand leaves out most of them. What is left out is taken for granted when the manifest is
read, so only a field that says just that may be missing; and as data have no order of fields, the
fields of each record may stand in any order. Whatever is left out of a written registry in this
way, in as many symbols and modules as one likes, the same registry is read.

The fields are compared with what is taken for granted as they were written, before anything is
left out inside them. Modules under odd names, such as `source`, are therefore never taken for
fields: a module is written as a record that is not empty.

## Main definitions

* `Manifest.granted` — the fields that may be left out
* `Manifest.Abridged` — a datum without some of these fields

## Main results

* `Manifest.fields?_of_abridged` — what is found in an abridged record
* `Symbol.ofDatum?_of_abridged`, `Registered.ofDatum?_of_abridged` — reading symbols and modules
* `Registry.manifest_read_back` — reading registries
-/

namespace DocStubs

namespace Manifest

/-- The fields that may be left out, each with the value that it then has. -/
def granted : List (String × Datum) :=
  [("modules", .object []), ("package", .flag false), ("symbols", .list []), ("source", .null),
    ("declaring_module", .null), ("has_doc_attribute", .flag true), ("line", .natural 0)]

mutual

/-- A datum in which fields may be left out if they are granted, and records have any order. -/
inductive Abridged : Datum → Datum → Prop where
  | whole (datum : Datum) : Abridged datum datum
  | list {items shorter} (inside : List.Forall₂ Abridged items shorter) :
      Abridged (.list items) (.list shorter)
  | object {fields shorter written} (inside : AbridgedFields fields shorter)
      (order : shorter.Perm written) : Abridged (.object fields) (.object written)

/-- Fields of which some may be left out. -/
inductive AbridgedFields : List (String × Datum) → List (String × Datum) → Prop where
  | nil : AbridgedFields [] []
  | keep {key value short fields shorter} (inside : Abridged value short)
      (others : AbridgedFields fields shorter) :
      AbridgedFields ((key, value) :: fields) ((key, short) :: shorter)
  | leave {field fields shorter} (spare : field ∈ granted)
      (others : AbridgedFields fields shorter) : AbridgedFields (field :: fields) shorter

end

variable {α : Type} {datum value : Datum} {items : List Datum} {key : String}
  {fields shorter written : List (String × Datum)} {field : String × Datum}

/-! ### What is abridged -/

theorem abridgedFields_self (fields : List (String × Datum)) : AbridgedFields fields fields := by
  induction fields with
  | nil => exact .nil
  | cons field fields ih => exact .keep (.whole _) ih

theorem object_injective {fields written : List (String × Datum)}
    (h : Datum.object fields = Datum.object written) : fields = written := by
  refine (List.map_inj_right ?_).mp (Datum.record.inj h)
  rintro ⟨key, value⟩ ⟨key', value'⟩ hsame
  simpa using hsame

theorem Abridged.of_object (h : Abridged (.object fields) datum) :
    ∃ shorter written, datum = .object written ∧ AbridgedFields fields shorter ∧
      shorter.Perm written := by
  generalize hwhole : Datum.object fields = whole at h
  cases h with
  | whole => exact ⟨fields, fields, hwhole.symm, abridgedFields_self fields, List.Perm.refl _⟩
  | list => cases hwhole
  | object inside order =>
    obtain rfl := object_injective hwhole
    exact ⟨_, _, rfl, inside, order⟩

theorem Abridged.of_list (h : Abridged (.list items) datum) :
    ∃ shorter, datum = .list shorter ∧ List.Forall₂ Abridged items shorter := by
  cases h with
  | whole => exact ⟨items, rfl, List.forall₂_same.mpr fun item _ => .whole item⟩
  | list inside => exact ⟨_, rfl, inside⟩

theorem Abridged.of_flag {flag : Bool} (h : Abridged (.flag flag) datum) : datum = .flag flag := by
  cases h
  rfl

theorem Abridged.of_natural {number : Nat} (h : Abridged (.natural number) datum) :
    datum = .natural number := by
  cases h
  rfl

theorem Abridged.of_text {text : String} (h : Abridged (.text text) datum) :
    datum = .text text := by
  cases h
  rfl

theorem Abridged.of_ofText? {text? : Option String} (h : Abridged (.ofText? text?) datum) :
    datum = .ofText? text? := by
  cases text? with
  | none => cases h; rfl
  | some text => exact h.of_text

/-! ### What can be written down -/

mutual

-- The induction follows the datum and not what is left out of it, of which there is no measure.

/-- What is left of a datum that can be written down can be written down. -/
theorem isPlain_of_abridged (datum : Datum) {short : Datum} (hplain : datum.IsPlain)
    (h : Abridged datum short) : short.IsPlain := by
  cases datum with
  | list items =>
    obtain ⟨shorter, rfl, hinside⟩ := h.of_list
    exact Datum.arePlain_iff.mpr (forall_isPlain_of_abridged items hplain hinside)
  | record fields =>
    cases h with
    | whole => exact hplain
    | object inside order =>
      refine Datum.isPlain_object.mpr fun field hfield => ?_
      exact forall_isPlain_of_abridgedFields _ rfl hplain inside field (order.mem_iff.mpr hfield)
  | null | flag _ | natural _ | number | text _ | garbled =>
    cases h
    exact hplain

theorem forall_isPlain_of_abridged (items : List Datum) {shorter : List Datum}
    (hplain : Datum.ArePlain items) (h : List.Forall₂ Abridged items shorter) :
    ∀ item ∈ shorter, item.IsPlain := by
  cases items with
  | nil =>
    cases h
    exact List.forall_mem_nil _
  | cons item items =>
    cases h with
    | cons hfirst hrest =>
      exact List.forall_mem_cons.mpr ⟨isPlain_of_abridged item hplain.1 hfirst,
        forall_isPlain_of_abridged items hplain.2 hrest⟩

theorem forall_isPlain_of_abridgedFields (whole : List (Option String × Datum))
    {fields shorter : List (String × Datum)}
    (hwhole : whole = fields.map fun (key, value) => (some key, value))
    (hplain : Datum.HavePlain whole) (h : AbridgedFields fields shorter) :
    ∀ field ∈ shorter, field.2.IsPlain := by
  cases whole with
  | nil =>
    obtain rfl := List.map_eq_nil_iff.mp hwhole.symm
    cases h
    exact List.forall_mem_nil _
  | cons first rest =>
    obtain ⟨field, others, rfl, hfirst, hrest⟩ := List.map_eq_cons_iff.mp hwhole.symm
    subst hfirst
    cases h with
    | keep inside others =>
      exact List.forall_mem_cons.mpr ⟨isPlain_of_abridged _ hplain.2.1 inside,
        forall_isPlain_of_abridgedFields rest hrest.symm hplain.2.2 others⟩
    | leave spare others =>
      exact forall_isPlain_of_abridgedFields rest hrest.symm hplain.2.2 others

end

/-! ### Finding fields -/

/-- What is found in the place of a field. -/
inductive Found (field : String × Datum) : Option Datum → Prop where
  | there {short} (inside : Abridged field.2 short) : Found field (some short)
  | missing (spare : field ∈ granted) : Found field none

theorem sublist_of_abridgedFields (h : AbridgedFields fields shorter) :
    (shorter.map (·.1)).Sublist (fields.map (·.1)) := by
  induction fields generalizing shorter with
  | nil =>
    cases h
    exact List.Sublist.slnil
  | cons field fields ih =>
    cases h with
    | keep inside others => exact (ih others).cons_cons _
    | leave spare others => exact (ih others).cons _

/-- Of a field that is written once, one value or none is found. -/
theorem found_of_abridgedFields (h : AbridgedFields fields shorter)
    (hkeys : (fields.map (·.1)).Nodup) (hfield : field ∈ fields) :
    (∃ short, Abridged field.2 short ∧
      (shorter.filter (·.1 = field.1)).map (·.2) = [short]) ∨
    (field ∈ granted ∧ (shorter.filter (·.1 = field.1)).map (·.2) = []) := by
  induction fields generalizing shorter with
  | nil => cases hfield
  | cons first fields ih =>
    rw [List.map_cons, List.nodup_cons] at hkeys
    -- What is left of the fields after the first one does not hold its key again.
    have hnone : ∀ {others}, AbridgedFields fields others →
        others.filter (·.1 = first.1) = [] := by
      intro others hothers
      rw [List.filter_eq_nil_iff]
      intro other hother hkey
      refine hkeys.1 ((sublist_of_abridgedFields hothers).subset ?_)
      rw [← of_decide_eq_true hkey]
      exact List.mem_map_of_mem hother
    rcases List.mem_cons.mp hfield with rfl | hrest
    · cases h with
      | keep inside others => exact Or.inl ⟨_, inside, by simp [hnone others]⟩
      | leave spare others => exact Or.inr ⟨spare, by simp [hnone others]⟩
    · have hother : first.1 ≠ field.1 := fun hkey =>
        hkeys.1 (hkey ▸ List.mem_map_of_mem hrest)
      cases h with
      | keep inside others =>
        rw [List.filter_cons_of_neg (by simpa using hother)]
        exact ih others hkeys.2 hrest
      | leave spare others => exact ih others hkeys.2 hrest

theorem valuesOf_object (key : String) (fields : List (String × Datum)) :
    Datum.valuesOf key (fields.map fun (key, value) => (some key, value)) =
      (fields.filter (·.1 = key)).map (·.2) := by
  simp [Datum.valuesOf, List.filter_map, Function.comp_def]

/-- What is found under a key does not depend on the order of the fields. -/
theorem found_of_abridged (h : AbridgedFields fields shorter) (horder : shorter.Perm written)
    (hkeys : (fields.map (·.1)).Nodup) (hfield : field ∈ fields) :
    ((written.filter (·.1 = field.1)).map (·.2)).length ≤ 1 ∧
      Found field ((written.filter (·.1 = field.1)).map (·.2)).head? := by
  have hvalues := (horder.filter (·.1 = field.1)).map (·.2)
  rcases found_of_abridgedFields h hkeys hfield with ⟨short, hshort, hone⟩ | ⟨hspare, hnone⟩
  · rw [hone] at hvalues
    rw [← List.singleton_perm.mp hvalues]
    exact ⟨Nat.le_refl 1, .there hshort⟩
  · rw [hnone] at hvalues
    rw [List.nil_perm.mp hvalues]
    exact ⟨Nat.zero_le 1, .missing hspare⟩

/-- A reader finds the fields of an abridged record, up to those that are granted. -/
theorem fields?_of_abridged (h : Abridged (.object fields) datum)
    (hkeys : (fields.map (·.1)).Nodup) :
    ∃ found, datum.fields? false (fields.map (·.1)) = some found ∧
      List.Forall₂ Found fields found := by
  obtain ⟨shorter, written, rfl, hshorter, horder⟩ := h.of_object
  let valueOf (key : String) := ((written.filter (·.1 = key)).map (·.2)).head?
  refine ⟨(fields.map (·.1)).map valueOf, ?_, ?_⟩
  · have hplain :
        (written.map fun (key, value) => (some key, value)).all (·.1.isSome) = true := by
      simp
    have honce : (fields.map (·.1)).all fun name =>
        (Datum.valuesOf name (written.map fun (key, value) => (some key, value))).length ≤ 1 := by
      simp only [List.all_map, List.all_eq_true, Function.comp_apply, valuesOf_object,
        decide_eq_true_eq]
      exact fun field hfield => (found_of_abridged hshorter horder hkeys hfield).1
    rw [Datum.object, Datum.fields?, hplain, honce]
    simp only [valuesOf_object]
    rfl
  · rw [List.map_map, List.forall₂_map_right_iff, List.forall₂_same]
    exact fun field hfield => (found_of_abridged hshorter horder hkeys hfield).2

/-- A field that is not granted is there. -/
theorem Found.exists_abridged {value? : Option Datum} (h : Found field value?)
    (hneeded : field ∉ granted) : ∃ short, value? = some short ∧ Abridged field.2 short := by
  cases h with
  | there inside => exact ⟨_, rfl, inside⟩
  | missing spare => exact absurd spare hneeded

/-- A field is read as what was written if its value is, and if it is granted what a reader takes
for granted. -/
theorem Found.orDefault {value? : Option Datum} {read : Datum → Option α} {default result : α}
    (h : Found field value?)
    (hread : ∀ {short}, Abridged field.2 short → read short = some result)
    (hdefault : field ∈ granted → default = result) :
    Datum.orDefault default read value? = some result := by
  cases h with
  | there inside => exact hread inside
  | missing spare => exact congrArg some (hdefault spare)

theorem Found.orDefault_ofText? {text? : Option String} {value? : Option Datum}
    (h : Found (key, .ofText? text?) value?) :
    Datum.orDefault none (Datum.optional? Datum.text?) value? = some text? := by
  refine h.orDefault (fun hshort => ?_) fun hspare => ?_
  · rw [hshort.of_ofText?]
    cases text? <;> rfl
  · cases text? with
    | none => rfl
    | some text => exact absurd hspare (by simp [granted, Datum.ofText?, Datum.object])

theorem Found.orDefault_flag {default flag : Bool} {value? : Option Datum}
    (h : Found (key, .flag flag) value?)
    (hdefault : (key, .flag flag) ∈ granted → default = flag) :
    Datum.orDefault default Datum.flag? value? = some flag := by
  refine h.orDefault (fun hshort => ?_) hdefault
  rw [hshort.of_flag]
  rfl

end Manifest

open Manifest

/-! ### What is written of a registry -/

theorem Symbol.isPlain_toDatum (symbol : Symbol) : symbol.toDatum.IsPlain := by
  simp [Symbol.toDatum, Datum.isPlain_object, Datum.isPlain_ofText?, Datum.IsPlain]

theorem Registered.isPlain_toDatum (module : Registered) : module.toDatum.IsPlain := by
  simp [Registered.toDatum, Datum.isPlain_object, Datum.isPlain_ofText?, Datum.IsPlain,
    Datum.arePlain_iff, Symbol.isPlain_toDatum]

theorem Registry.isPlain_toDatum (registry : Registry) : registry.toDatum.IsPlain := by
  rw [Registry.toDatum, Datum.isPlain_object, List.forall_mem_singleton, Datum.isPlain_object,
    List.forall_mem_map]
  exact fun entry _ => entry.2.isPlain_toDatum

/-! ### Reading symbols and modules -/

theorem Kind.ofWord?_word (kind : Kind) : Kind.ofWord? kind.word = some kind := by
  cases kind <;> rfl

theorem Symbol.ofDatum?_of_abridged {symbol : Symbol} {datum : Datum}
    (hline : symbol.line < Datum.naturalLimit) (h : Abridged symbol.toDatum datum) :
    Symbol.ofDatum? datum = some symbol := by
  obtain ⟨found, hfields, hfound⟩ := fields?_of_abridged h (by simp)
  match found, hfound with
  | [_, _, declaredIn, documented, line],
    .cons hname (.cons hkind (.cons hdeclared (.cons hdocumented (.cons hfirst .nil)))) =>
  obtain ⟨name, rfl, htext⟩ := hname.exists_abridged (by simp [granted])
  obtain ⟨kind, rfl, hword⟩ := hkind.exists_abridged (by simp [granted])
  obtain rfl := htext.of_text
  obtain rfl := hword.of_text
  have hdeclared : Datum.orDefault none (Datum.optional? Datum.text?) declaredIn =
      some symbol.declaredIn := hdeclared.orDefault_ofText?
  have hdocumented : Datum.orDefault true Datum.flag? documented = some symbol.documented :=
    hdocumented.orDefault_flag (by simp [granted])
  have hline : Datum.orDefault 0 Datum.natural? line = some symbol.line := by
    refine hfirst.orDefault (fun hshort => ?_) fun hspare => ?_
    · rw [hshort.of_natural]
      exact if_pos hline
    · have hsame : symbol.line = 0 := by simpa [granted] using hspare
      exact hsame.symm
  have hfields : datum.fields? false ["name", "kind", "declaring_module", "has_doc_attribute",
      "line"] = some [some (.text symbol.name), some (.text symbol.kind.word), declaredIn,
        documented, line] := hfields
  have hkind : Kind.ofWord? symbol.kind.word = some symbol.kind := Kind.ofWord?_word symbol.kind
  rw [Symbol.ofDatum?, hfields]
  simp [Datum.text?, Datum.word?, hkind, hdeclared, hdocumented, hline]

/-- The lines of all symbols fit into 64 bits. -/
def Registered.Fits (module : Registered) : Prop :=
  ∀ symbol ∈ module.symbols, symbol.line < Datum.naturalLimit

theorem Symbol.mapM_ofDatum?_of_abridged {symbols : List Symbol} {items : List Datum}
    (hlines : ∀ symbol ∈ symbols, symbol.line < Datum.naturalLimit)
    (h : List.Forall₂ Abridged (symbols.map Symbol.toDatum) items) :
    items.mapM Symbol.ofDatum? = some symbols := by
  induction symbols generalizing items with
  | nil =>
    cases h
    rfl
  | cons symbol symbols ih =>
    obtain ⟨hline, hlines⟩ := List.forall_mem_cons.mp hlines
    cases h with
    | cons hfirst hrest =>
      rw [List.mapM_cons, Symbol.ofDatum?_of_abridged hline hfirst, ih hlines hrest]
      rfl

theorem Registered.ofDatum?_of_abridged {module : Registered} {datum : Datum}
    (hlines : module.Fits) (h : Abridged module.toDatum datum) :
    Registered.ofDatum? datum = some module := by
  obtain ⟨found, hfields, hfound⟩ := fields?_of_abridged h (by simp)
  match found, hfound with
  | [isPackage, symbols, source], .cons hpackage (.cons hsymbols (.cons hsource .nil)) =>
  have hpackage : Datum.orDefault false Datum.flag? isPackage = some module.isPackage :=
    hpackage.orDefault_flag (by simp [granted])
  have hsymbols : Datum.orDefault [] (Datum.each? Symbol.ofDatum?) symbols =
      some module.symbols := by
    refine hsymbols.orDefault (fun hshort => ?_) fun hspare => ?_
    · obtain ⟨items, rfl, hitems⟩ := hshort.of_list
      exact Symbol.mapM_ofDatum?_of_abridged hlines hitems
    · have hnone : module.symbols = [] := by simpa [granted] using hspare
      exact hnone.symm
  have hsource : Datum.orDefault none (Datum.optional? Datum.text?) source =
      some module.source := hsource.orDefault_ofText?
  have hfields : datum.fields? false ["package", "symbols", "source"] =
      some [isPackage, symbols, source] := hfields
  rw [Registered.ofDatum?, hfields]
  simp [hpackage, hsymbols, hsource]

namespace Registry

variable {registry : Registry}

/-! ### Reading registries -/

/-- A module is never left out, whatever its name is. -/
theorem not_mem_granted (name : String) (module : Registered) :
    (name, module.toDatum) ∉ granted := by
  simp [granted, Registered.toDatum, Datum.object]

/-- What is read of a table of modules: each module under its name. -/
theorem foldlM_addField?_eq {written : List (String × Datum)}
    {listing : List (String × Registered)}
    (h : List.Forall₂ (fun field entry => field.1 = entry.1 ∧
      Registered.ofDatum? field.2 = some entry.2) written listing) (registry : Registry) :
    (written.map fun (key, value) => (some key, value)).foldlM addField? registry =
      some (listing.foldl (fun registry entry => registry.insert entry.1 entry.2) registry) := by
  induction h generalizing registry with
  | nil => rfl
  | cons hfirst hrest ih =>
    obtain ⟨hname, hmodule⟩ := hfirst
    rw [List.map_cons, List.foldlM_cons, List.foldl_cons, ← ih, addField?, hmodule, hname]
    rfl

theorem forall₂_of_abridgedFields {entries : List (String × Registered)}
    {shorter : List (String × Datum)} (hentries : ∀ entry ∈ entries, entry.2.Fits)
    (h : AbridgedFields (entries.map fun (name, module) => (name, module.toDatum)) shorter) :
    List.Forall₂ (fun field entry => field.1 = entry.1 ∧
      Registered.ofDatum? field.2 = some entry.2) shorter entries := by
  induction entries generalizing shorter with
  | nil =>
    cases h
    exact .nil
  | cons entry entries ih =>
    obtain ⟨hentry, hentries⟩ := List.forall_mem_cons.mp hentries
    cases h with
    | keep inside others =>
      exact .cons ⟨rfl, Registered.ofDatum?_of_abridged hentry inside⟩ (ih hentries others)
    | leave spare others => exact absurd spare (not_mem_granted _ _)

theorem modules?_of_abridged {datum : Datum} (hordered : registry.Ordered)
    (hentries : ∀ entry ∈ registry.entries, entry.2.Fits)
    (h : Abridged (.object (registry.entries.map fun (name, module) => (name, module.toDatum)))
      datum) : modules? datum = some registry := by
  obtain ⟨shorter, written, rfl, hshorter, horder⟩ := h.of_object
  obtain ⟨listing, hwritten, hlisting⟩ :=
    List.perm_comp_forall₂ horder.symm (forall₂_of_abridgedFields hentries hshorter)
  rw [← hordered.ofListing_eq hlisting]
  exact foldlM_addField?_eq hwritten {}

theorem ofDatum?_of_abridged {datum : Datum} (hordered : registry.Ordered)
    (hentries : ∀ entry ∈ registry.entries, entry.2.Fits)
    (h : Abridged registry.toDatum datum) : ofDatum? datum = some registry := by
  obtain ⟨found, hfields, hfound⟩ := fields?_of_abridged h (by simp)
  match found, hfound with
  | [modules], .cons hmodules .nil =>
  have hmodules : Datum.orDefault {} modules? modules = some registry := by
    refine hmodules.orDefault (modules?_of_abridged hordered hentries) fun hspare => ?_
    have hnone : registry.entries = [] := by
      simpa [granted, Datum.object] using hspare
    cases registry
    exact congrArg Registry.mk hnone.symm
  have hfields : datum.fields? false ["modules"] = some [modules] := hfields
  rw [ofDatum?, hfields]
  exact hmodules

theorem ofManifest?_of_abridged {datum : Datum} (hordered : registry.Ordered)
    (hentries : ∀ entry ∈ registry.entries, entry.2.Fits)
    (h : Abridged registry.toDatum datum) :
    ofManifest? (Json.pretty datum) = some registry := by
  have hplain : datum.IsPlain := isPlain_of_abridged _ registry.isPlain_toDatum h
  rw [ofManifest?, Json.parse?_pretty hplain, Option.bind_some]
  exact ofDatum?_of_abridged hordered hentries h

/-- **A registry is read from its manifest as it was written**, and also from whatever is left of
the manifest without fields that are taken for granted, as data and as a text. -/
theorem manifest_read_back (registry : Registry) (hordered : registry.Ordered)
    (hentries : ∀ entry ∈ registry.entries, entry.2.Fits) :
    ofDatum? registry.toDatum = some registry ∧
      ofManifest? (Json.pretty registry.toDatum) = some registry ∧
      ∀ datum, Abridged registry.toDatum datum →
        ofDatum? datum = some registry ∧ ofManifest? (Json.pretty datum) = some registry :=
  ⟨ofDatum?_of_abridged hordered hentries (.whole _),
    ofManifest?_of_abridged hordered hentries (.whole _), fun _ h =>
    ⟨ofDatum?_of_abridged hordered hentries h, ofManifest?_of_abridged hordered hentries h⟩⟩

/-- Of a module named like a field nothing needs to be written but its name, and the modules may
stand in any order. -/
theorem manifest_in_another_order :
    ofManifest? (Json.pretty (.object [("modules", .object
      [("source", .object []),
        ("demo", .object
          [("symbols", .list [.object [("line", .natural 7), ("kind", .text "class"),
            ("name", .text "C")]]), ("package", .flag true)])])])) =
      some
        { entries :=
            [("demo",
                { isPackage := true, symbols := [{ name := "C", kind := .class, line := 7 }] }),
              ("source", {})] } := by
  have hsymbol : Abridged (Symbol.toDatum { name := "C", kind := .class, line := 7 })
      (.object [("line", .natural 7), ("kind", .text "class"), ("name", .text "C")]) :=
    .object (.keep (.whole _) (.keep (.whole _) (.leave (by simp [granted, Datum.ofText?])
      (.leave (by simp [granted]) (.keep (.whole _) .nil))))) (List.reverse_perm _).symm
  refine ((manifest_read_back _ ?_ ?_).2.2 _ ?_).2
  · exact List.pairwise_pair.mpr (by decide)
  · simp [Registered.Fits, Datum.naturalLimit]
  · have hsource : Abridged (Registered.toDatum {}) (.object []) :=
      .object (.leave (by simp [granted]) (.leave (by simp [granted])
        (.leave (by simp [granted, Datum.ofText?]) .nil))) (List.Perm.refl _)
    have hdemo : Abridged (Registered.toDatum
          { isPackage := true, symbols := [{ name := "C", kind := .class, line := 7 }] })
        (.object [("symbols", .list [.object [("line", .natural 7), ("kind", .text "class"),
          ("name", .text "C")]]), ("package", .flag true)]) :=
      .object (.keep (.whole _) (.keep (.list (.cons hsymbol .nil))
        (.leave (by simp [granted, Datum.ofText?]) .nil))) (List.Perm.swap _ _ _)
    exact .object (.keep (.object (.keep hdemo (.keep hsource .nil)) (List.Perm.swap _ _ _)) .nil)
      (List.Perm.refl _)

end Registry

end DocStubs
