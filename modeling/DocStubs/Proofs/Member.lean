import DocStubs.Member
import DocStubs.Proofs.Text.ByteOrder
import Mathlib.Data.List.Nodup
import Mathlib.Data.List.Perm.Basic

/-!
# Member lists

Of several symbols of one name some may be members and others not, and a name is listed if one of
them is. Whether it is listed therefore does not depend on the order of the symbols, only its place
does: in the order of declaration it is the place of the first member of that name. The alphabetical
list is that list sorted, so nothing of the order of the symbols is left in it.

## Main definitions

* `firstMember` — the place of the first member of a name

## Main results

* `mem_memberNames_iff` — which names are listed
* `pairwise_firstMember` — where they are listed in the order of declaration
* `member_lists_are_canonical` — both lists, and how they are related
-/

namespace DocStubs

variable {home name : String} {symbols other : List Symbol}

/-! ### First places -/

theorem mem_firsts {α : Type} [BEq α] [LawfulBEq α] {item : α} {items : List α} :
    item ∈ firsts items ↔ item ∈ items := by
  induction items with
  | nil => rfl
  | cons first rest ih =>
    rw [firsts, List.mem_cons, List.mem_cons, List.mem_filter, ih]
    by_cases h : item = first
    · simp [h]
    · simp [h]

theorem nodup_firsts {α : Type} [BEq α] [LawfulBEq α] (items : List α) :
    (firsts items).Nodup := by
  induction items with
  | nil => exact List.nodup_nil
  | cons first rest ih =>
    rw [firsts, List.nodup_cons]
    refine ⟨fun hmem => ?_, ih.filter _⟩
    simpa using (List.mem_filter.mp hmem).2

/-- The place of the first member of a name among symbols. -/
def firstMember (home : String) (symbols : List Symbol) (name : String) : Nat :=
  symbols.findIdx fun symbol => symbol.isMember home && symbol.name = name

/-! ### The order of declaration -/

/-- A symbol that is no member adds no name. -/
theorem memberNames_cons_of_not {symbol : Symbol} (h : symbol.isMember home = false) :
    memberNames home .declaration (symbol :: symbols) = memberNames home .declaration symbols := by
  rw [memberNames, memberNames, List.filter_cons_of_neg (by simp [h])]

/-- A member comes before the names of all others. -/
theorem memberNames_cons {symbol : Symbol} (h : symbol.isMember home = true) :
    memberNames home .declaration (symbol :: symbols) =
      symbol.name :: (memberNames home .declaration symbols).filter fun name =>
        !(name == symbol.name) := by
  rw [memberNames, memberNames, List.filter_cons_of_pos (by simpa using h), List.map_cons,
    firsts]

/-- A name is listed if a member has it. -/
theorem mem_memberNames_declaration :
    name ∈ memberNames home .declaration symbols ↔
      ∃ symbol ∈ symbols, symbol.isMember home = true ∧ symbol.name = name := by
  rw [memberNames, mem_firsts, List.mem_map]
  simp only [List.mem_filter, and_assoc]

theorem nodup_memberNames (home : String) (symbols : List Symbol) :
    (memberNames home .declaration symbols).Nodup :=
  nodup_firsts _

/-- In the order of declaration a name has the place of the first member that has it. -/
theorem pairwise_firstMember (home : String) (symbols : List Symbol) :
    (memberNames home .declaration symbols).Pairwise fun name other =>
      firstMember home symbols name < firstMember home symbols other := by
  induction symbols with
  | nil => exact List.Pairwise.nil
  | cons symbol rest ih =>
    cases hmember : symbol.isMember home with
    | false =>
      -- All places are one further on.
      have hplace : ∀ name, firstMember home (symbol :: rest) name =
          firstMember home rest name + 1 := by
        intro name
        rw [firstMember, List.findIdx_cons]
        simp [hmember, firstMember]
      rw [memberNames_cons_of_not hmember]
      exact ih.imp fun hlt => by simpa only [hplace, Nat.add_lt_add_iff_right] using hlt
    | true =>
      have hfirst : firstMember home (symbol :: rest) symbol.name = 0 := by
        rw [firstMember, List.findIdx_cons]
        simp [hmember]
      have hplace : ∀ name, name ≠ symbol.name →
          firstMember home (symbol :: rest) name = firstMember home rest name + 1 := by
        intro name hne
        rw [firstMember, List.findIdx_cons]
        simp [hmember, Ne.symm hne, firstMember]
      rw [memberNames_cons hmember, List.pairwise_cons]
      have hother : ∀ name ∈ (memberNames home .declaration rest).filter
          (fun name => !(name == symbol.name)), name ≠ symbol.name := by
        intro name hname
        simpa using (List.mem_filter.mp hname).2
      refine ⟨fun name hname => ?_, (ih.filter _).imp_of_mem ?_⟩
      · rw [hfirst, hplace name (hother name hname)]
        exact Nat.succ_pos _
      · intro name other hname hlater hlt
        rw [hplace name (hother name hname), hplace other (hother other hlater)]
        exact Nat.succ_lt_succ hlt

/-! ### The alphabetical order -/

theorem perm_memberNames (home : String) (symbols : List Symbol) :
    (memberNames home .declaration symbols).Perm (memberNames home .alphabetical symbols) :=
  (List.mergeSort_perm _ _).symm

theorem mem_memberNames_iff (order : MemberOrder) :
    name ∈ memberNames home order symbols ↔
      ∃ symbol ∈ symbols, symbol.isMember home = true ∧ symbol.name = name := by
  rw [← mem_memberNames_declaration]
  cases order with
  | alphabetical => exact (perm_memberNames home symbols).mem_iff.symm
  | declaration => exact Iff.rfl

theorem pairwise_lt_memberNames (home : String) (symbols : List Symbol) :
    (memberNames home .alphabetical symbols).Pairwise (· < ·) := by
  have hle : (memberNames home .alphabetical symbols).Pairwise
      fun name other => decide (name ≤ other) = true := by
    refine List.pairwise_mergeSort (fun a b c hab hbc => ?_) (fun a b => ?_) _
    · simp only [decide_eq_true_eq] at hab hbc ⊢
      exact String.le_trans hab hbc
    · simpa using String.le_total a b
  have hne := (perm_memberNames home symbols).nodup_iff.mp (nodup_memberNames home symbols)
  exact (hle.and hne).imp fun ⟨hle, hne⟩ => Std.lt_of_le_of_ne (of_decide_eq_true hle) hne

/-- Two strictly increasing lists of the same names are the same. -/
theorem eq_of_pairwise_lt {names others : List String} (hnames : names.Pairwise (· < ·))
    (hothers : others.Pairwise (· < ·)) (h : ∀ name, name ∈ names ↔ name ∈ others) :
    names = others := by
  have hperm : names.Perm others :=
    (List.perm_ext_iff_of_nodup (hnames.imp Std.ne_of_lt) (hothers.imp Std.ne_of_lt)).mpr h
  refine hperm.eq_of_pairwise (fun a b _ _ hab hba => ?_) hnames hothers
  exact absurd hba (String.lt_asymm hab)

/-- The alphabetical list is strictly increasing, holds the names of the members and does not depend
on the order of the symbols. The list in the order of declaration holds the same names, each once
and at the place of its first member. -/
theorem member_lists_are_canonical (home : String) (symbols : List Symbol) :
    let alphabetical := memberNames home .alphabetical symbols
    let declared := memberNames home .declaration symbols
    alphabetical.Pairwise Bytewise ∧
    (∀ name, name ∈ alphabetical ↔
      ∃ symbol ∈ symbols, symbol.isMember home = true ∧ symbol.name = name) ∧
    (∀ other : List Symbol, other.Perm symbols →
      memberNames home .alphabetical other = alphabetical) ∧
    declared.Nodup ∧
    (∀ name, name ∈ declared ↔
      ∃ symbol ∈ symbols, symbol.isMember home = true ∧ symbol.name = name) ∧
    declared.Pairwise (fun name other =>
      firstMember home symbols name < firstMember home symbols other) ∧
    declared.Perm alphabetical := by
  intro alphabetical declared
  have hsorted := pairwise_lt_memberNames home symbols
  refine ⟨hsorted.imp bytewise_iff_lt.mpr, fun _ => mem_memberNames_iff _, fun other hperm => ?_,
    nodup_memberNames home symbols, fun _ => mem_memberNames_iff _,
    pairwise_firstMember home symbols, perm_memberNames home symbols⟩
  refine eq_of_pairwise_lt (pairwise_lt_memberNames home other) hsorted fun name => ?_
  rw [mem_memberNames_iff, mem_memberNames_iff]
  simp only [hperm.mem_iff]

/-- Two members and an imported function of the same name. -/
def sharedNames : List Symbol :=
  [{ name := "é", kind := .function, declaredIn := some "os" },
    { name := "z", kind := .«class», declaredIn := some "m" },
    { name := "é", kind := .callable, declaredIn := some "m" },
    { name := "z", kind := .data }]

theorem reversed_members :
    sharedNames.reverse.Perm sharedNames ∧
    memberNames "m" .alphabetical sharedNames.reverse = ["z", "é"] ∧
    memberNames "m" .declaration sharedNames = ["z", "é"] := by
  have hperm : sharedNames.reverse.Perm sharedNames := List.reverse_perm sharedNames
  have hdeclared : memberNames "m" .declaration sharedNames = ["z", "é"] := by decide +kernel
  have hsorted : memberNames "m" .alphabetical sharedNames = ["z", "é"] := by
    show (memberNames "m" .declaration sharedNames).mergeSort _ = _
    rw [hdeclared]
    exact List.mergeSort_of_pairwise (by decide)
  obtain ⟨-, -, hsame, -⟩ := member_lists_are_canonical "m" sharedNames
  exact ⟨hperm, (hsame _ hperm).trans hsorted, hdeclared⟩

end DocStubs
