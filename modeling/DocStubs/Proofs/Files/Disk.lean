import DocStubs.Files.Walk
import DocStubs.Proofs.Files.Reach
import Mathlib.Logic.Relation

/-!
# What actions do to a file tree

An action answers and leaves a tree behind; `exec` gives both, and its lemmas take an action
apart. Only two steps ever change a tree: a directory is made under a free name, or a file is put
at the destination of a path. Everything else is a sequence of these, also where it fails half
way, so a fact about trees that both steps keep holds after every action.

## Main definitions

* `Disk.exec` — what an action answers, and the tree after it
* `Disk.Respects` — an action changes trees only as a relation says
* `FileTree.Evolves` — a tree changes step by step

## Main results

* `FileTree.Evolves.grows`, `FileTree.Evolves.wellFormed` — what every sequence of changes keeps
* `Disk.exec_write_cases` — what writing does
* `Disk.respects_makeDirectories`, `Disk.evolves_copyTree` — directories and copies are made step
  by step
-/

namespace DocStubs

open Relation

/-! ### Changes -/

namespace FileTree

variable {before after : FileTree}

/-- A directory is made under a free name. -/
def MakesDirectory (before after : FileTree) : Prop :=
  ∃ path directory name, before.lookup .make path = .ok (.missing directory name) ∧
    after = before.put (directory ++ [name]) .directory

/-- A file is put at the destination of a path. -/
def WritesFile (before after : FileTree) : Prop :=
  ∃ path place content, before.Destination path place ∧ after = before.put place (.file content)

/-- A tree changes step by step. -/
def Evolves : FileTree → FileTree → Prop :=
  ReflTransGen fun before after => before.MakesDirectory after ∨ before.WritesFile after

theorem MakesDirectory.extendsBy (h : before.MakesDirectory after) :
    before.ExtendsBy (· = .directory) after := by
  obtain ⟨path, directory, name, hlookup, rfl⟩ := h
  exact (ExtendsBy.refl _ before).put (by simp) (lookup_eq_ok_iff.mp hlookup).2.node?_eq_none rfl

theorem MakesDirectory.wellFormed (h : before.MakesDirectory after) (hwell : before.WellFormed) :
    after.WellFormed := by
  obtain ⟨path, directory, name, hlookup, rfl⟩ := h
  obtain ⟨hdir, hname⟩ := hwell.landed hlookup
  refine hwell.put hname hdir ?_
  rw [(lookup_eq_ok_iff.mp hlookup).2.node?_eq_none]
  exact fun h => nomatch h

theorem extendsBy_of_makesDirectories (h : ReflTransGen MakesDirectory before after) :
    before.ExtendsBy (· = .directory) after := by
  induction h with
  | refl => exact ExtendsBy.refl _ before
  | tail _ hstep ih => exact ih.trans hstep.extendsBy

/-- Directories are made without links. -/
theorem extendsBy_no_links_of_makesDirectories (h : ReflTransGen MakesDirectory before after) :
    before.ExtendsBy (fun node => node.isLink = false) after := by
  refine (extendsBy_of_makesDirectories h).mono ?_
  rintro node rfl
  rfl

theorem evolves_of_makesDirectories (h : ReflTransGen MakesDirectory before after) :
    before.Evolves after :=
  ReflTransGen.mono (fun _ _ => Or.inl) _ _ h

theorem Destination.evolves {tree : FileTree} {path : String} {place : Place}
    (h : tree.Destination path place) (content : ByteArray) :
    tree.Evolves (tree.put place (.file content)) :=
  ReflTransGen.single (Or.inr ⟨path, place, content, h, rfl⟩)

/-- Everything that was there still is after a tree has changed. -/
theorem Evolves.grows (h : before.Evolves after) : before.Grows after := by
  induction h with
  | refl => exact Grows.refl before
  | tail _ hstep ih =>
    rcases hstep with hmake | ⟨path, place, content, hdest, rfl⟩
    · exact ih.trans hmake.extendsBy.grows
    · exact ih.trans (hdest.grows content)

theorem Evolves.wellFormed (h : before.Evolves after) (hwell : before.WellFormed) :
    after.WellFormed := by
  induction h with
  | refl => exact hwell
  | tail _ hstep ih =>
    rcases hstep with hmake | ⟨path, place, content, hdest, rfl⟩
    · exact hmake.wellFormed ih
    · exact hdest.wellFormed_put ih content

end FileTree

namespace Disk

variable {ε ε' α β : Type} {tree before after : FileTree}

/-! ### Taking actions apart -/

/-- What an action answers, and the tree after it. -/
def exec (action : Disk ε α) (tree : FileTree) : Except ε α × FileTree := action.run.run tree

@[simp] theorem exec_pure (value : α) (tree : FileTree) :
    (pure value : Disk ε α).exec tree = (.ok value, tree) := rfl

@[simp] theorem exec_throw (fault : ε) (tree : FileTree) :
    (throw fault : Disk ε α).exec tree = (.error fault, tree) := rfl

@[simp] theorem exec_get (tree : FileTree) :
    (get : Disk ε FileTree).exec tree = (.ok tree, tree) := rfl

theorem exec_bind (action : Disk ε α) (next : α → Disk ε β) (tree : FileTree) :
    (action >>= next).exec tree =
      match action.exec tree with
      | (.ok value, after) => (next value).exec after
      | (.error fault, after) => (.error fault, after) := by
  show (ExceptT.bindCont next (action.exec tree).1).run (action.exec tree).2 = _
  rcases action.exec tree with ⟨_ | _, after⟩ <;> rfl

theorem exec_bind_of_ok {action : Disk ε α} {value : α} (next : α → Disk ε β)
    (h : action.exec before = (.ok value, after)) :
    (action >>= next).exec before = (next value).exec after := by
  rw [exec_bind, h]

theorem exec_bind_of_error {action : Disk ε α} {fault : ε} (next : α → Disk ε β)
    (h : action.exec before = (.error fault, after)) :
    (action >>= next).exec before = (.error fault, after) := by
  rw [exec_bind, h]

/-- If two actions succeed one after the other, both do. -/
theorem exec_bind_eq_ok {action : Disk ε α} {next : α → Disk ε β} {value : β}
    (h : (action >>= next).exec before = (.ok value, after)) :
    ∃ first middle, action.exec before = (.ok first, middle) ∧
      (next first).exec middle = (.ok value, after) := by
  cases hfirst : action.exec before with
  | mk answer middle =>
    cases answer with
    | ok first => exact ⟨first, middle, rfl, by rwa [exec_bind_of_ok next hfirst] at h⟩
    | error fault =>
      rw [exec_bind_of_error next hfirst] at h
      cases h

@[simp] theorem exec_ask (question : FileTree → α) (tree : FileTree) :
    (ask question : Disk ε α).exec tree = (.ok (question tree), tree) := rfl

@[simp] theorem exec_ask? (question : FileTree → Except ε α) (tree : FileTree) :
    (ask? question).exec tree = (question tree, tree) := by
  rw [ask?]
  rw [exec_bind_of_ok _ (exec_get tree)]
  cases question tree <;> rfl

@[simp] theorem exec_onFault (view : ε → ε') (action : Disk ε α) (tree : FileTree) :
    (onFault view action).exec tree =
      ((action.exec tree).1.mapError view, (action.exec tree).2) := rfl

theorem exec_eq_ok_of_onFault {view : ε → ε'} {action : Disk ε α} {value : α}
    (h : (onFault view action).exec before = (.ok value, after)) :
    action.exec before = (.ok value, after) := by
  rw [exec_onFault] at h
  cases hexec : action.exec before with
  | mk answer middle =>
    rw [hexec] at h
    cases answer with
    | ok _ =>
      cases h
      rfl
    | error fault => cases h

theorem exec_tryCatch (action : Disk ε α) (handler : ε → Disk ε α) (tree : FileTree) :
    (tryCatch action handler).exec tree =
      match action.exec tree with
      | (.ok value, after) => (.ok value, after)
      | (.error fault, after) => (handler fault).exec after := by
  show (tryCatch (fun _ => action.exec tree : Disk ε α) handler).exec tree = _
  rcases action.exec tree with ⟨_ | _, after⟩ <;> rfl

/-! ### Actions that respect a relation -/

/-- An action changes trees only as a relation says: if it succeeds, and where `always` holds, also
if it fails. -/
def Respects (always : Prop) (relation : FileTree → FileTree → Prop) (action : Disk ε α) : Prop :=
  ∀ tree, always ∨ (action.exec tree).1.isOk = true → relation tree (action.exec tree).2

namespace Respects

variable {always : Prop} {relation relation' : FileTree → FileTree → Prop}

theorem of_exec {action : Disk ε α} {answer : Except ε α} (h : action.Respects True relation)
    (hexec : action.exec before = (answer, after)) : relation before after := by
  have hrelation := h before (Or.inl trivial)
  rwa [hexec] at hrelation

theorem mono {action : Disk ε α} (h : action.Respects always relation)
    (himp : ∀ before after, relation before after → relation' before after) :
    action.Respects always relation' :=
  fun tree hgood => himp _ _ (h tree hgood)

theorem onFault {action : Disk ε α} (h : action.Respects always relation) (view : ε → ε') :
    (onFault view action).Respects always relation := by
  intro tree hgood
  refine h tree (hgood.imp id fun hok => ?_)
  rw [exec_onFault] at hok
  cases hanswer : (action.exec tree).1 with
  | ok value => rfl
  | error fault => rw [hanswer] at hok; exact hok

variable [IsPreorder FileTree relation]

/-- An action that leaves every tree as it is. -/
theorem of_unchanged {action : Disk ε α} (h : ∀ tree, (action.exec tree).2 = tree) :
    action.Respects always relation := by
  intro tree _
  rw [h tree]
  exact refl_of relation tree

theorem pure (value : α) : (pure value : Disk ε α).Respects always relation :=
  of_unchanged fun _ => rfl

theorem throw (fault : ε) : (throw fault : Disk ε α).Respects always relation :=
  of_unchanged fun _ => rfl

theorem ask (question : FileTree → α) : (ask question : Disk ε α).Respects always relation :=
  of_unchanged fun _ => rfl

theorem ask? (question : FileTree → Except ε α) : (ask? question).Respects always relation :=
  of_unchanged fun tree => by rw [exec_ask?]

theorem bind {action : Disk ε α} {next : α → Disk ε β} (h : action.Respects always relation)
    (hnext : ∀ value, (next value).Respects always relation) :
    (action >>= next).Respects always relation := by
  intro tree hgood
  cases hanswer : action.exec tree with
  | mk answer middle =>
    have hfirst := h tree
    rw [hanswer] at hfirst
    cases answer with
    | ok value =>
      rw [exec_bind_of_ok next hanswer] at hgood ⊢
      exact trans_of relation (hfirst (Or.inr rfl)) (hnext value middle hgood)
    | error fault =>
      rw [exec_bind_of_error next hanswer] at hgood ⊢
      exact hfirst (hgood.imp id id)

theorem forM {action : α → Disk ε PUnit} {items : List α}
    (h : ∀ item ∈ items, (action item).Respects always relation) :
    (items.forM action).Respects always relation := by
  induction items with
  | nil => exact Respects.pure _
  | cons item rest ih =>
    exact (h item List.mem_cons_self).bind fun _ =>
      ih fun other hother => h other (List.mem_cons_of_mem _ hother)

/-- A copy changes a tree as writing its target does, whatever is written there. -/
theorem copy {source target : String}
    (h : ∀ content, (write target content).Respects always relation) :
    (copy source target).Respects always relation :=
  (Respects.ask? _).bind fun _ => (Respects.ask _).bind fun _ => h _

end Respects

/-! ### Actions that keep a fact -/

instance (invariant : FileTree → Prop) :
    IsPreorder FileTree fun before after => invariant before → invariant after where
  refl _ := id
  trans _ _ _ h h' := h' ∘ h

/-- An action keeps a fact about trees, whether it succeeds or fails. -/
abbrev Keeps (invariant : FileTree → Prop) (action : Disk ε α) : Prop :=
  action.Respects True fun before after => invariant before → invariant after

theorem Keeps.exec {invariant : FileTree → Prop} {action : Disk ε α} (h : action.Keeps invariant)
    (htree : invariant tree) : invariant (action.exec tree).2 :=
  h tree (Or.inl trivial) htree

/-- What follows a question may rest on the fact for the tree that was asked. -/
theorem Keeps.ask_bind {invariant : FileTree → Prop} {question : FileTree → α}
    {next : α → Disk ε β} (h : ∀ tree, invariant tree → (next (question tree)).Keeps invariant) :
    (ask question >>= next).Keeps invariant := by
  intro tree _ htree
  rw [exec_bind_of_ok _ (exec_ask question tree)]
  exact (h tree htree).exec htree

/-! ### Writing a file -/

/-- What writing does: nothing, or it puts a file at the destination. -/
theorem exec_write_cases {path : String} {content : ByteArray} {answer : Except FileFault Unit}
    (h : (write path content).exec before = (answer, after)) :
    (∃ place, answer = .ok () ∧ before.Destination path place ∧
        after = before.put place (.file content)) ∨
      (∃ fault, answer = .error fault) ∧ after = before ∧
        ∀ place, ¬before.Destination path place := by
  rw [write] at h
  cases hlookup : before.lookup .write path with
  | error fault =>
    rw [exec_bind, exec_ask?, hlookup] at h
    cases h
    refine Or.inr ⟨⟨fault, rfl⟩, rfl, ?_⟩
    rintro place (⟨old, hold⟩ | ⟨directory, name, hmissing, -⟩)
    · rw [hlookup] at hold
      cases hold
    · rw [hlookup] at hmissing
      cases hmissing
  | ok found =>
    rw [exec_bind, exec_ask?, hlookup] at h
    cases found with
    | missing directory name =>
      cases h
      exact Or.inl ⟨_, rfl, Or.inr ⟨directory, name, hlookup, rfl⟩, rfl⟩
    | node place node =>
      have hnone (hfile : ∀ old, node ≠ .file old) : ∀ place, ¬before.Destination path place := by
        rintro place (⟨old, hold⟩ | ⟨directory, name, hmissing, -⟩)
        · rw [hlookup] at hold
          cases hold
          exact hfile old rfl
        · rw [hlookup] at hmissing
          cases hmissing
      cases node with
      | file old =>
        cases h
        exact Or.inl ⟨place, rfl, Or.inl ⟨old, hlookup⟩, rfl⟩
      | directory | link _ | special =>
        cases h
        exact Or.inr ⟨⟨_, rfl⟩, rfl, hnone fun _ hfile => nomatch hfile⟩

/-- Writing succeeds at a destination. -/
theorem exec_write {path : String} {place : Place} (h : before.Destination path place)
    (content : ByteArray) :
    (write path content).exec before = (.ok (), before.put place (.file content)) := by
  cases hexec : (write path content).exec before with
  | mk answer after =>
    rcases exec_write_cases hexec with ⟨other, rfl, hother, rfl⟩ | ⟨-, -, hnone⟩
    · rw [h.unique hother]
    · exact absurd h (hnone place)

theorem exec_copy (source target : String) (tree : FileTree) :
    (copy source target).exec tree =
      match tree.read source with
      | .ok content =>
        (write target (if tree.sameFile source target then .empty else content)).exec tree
      | .error fault => (.error fault, tree) := by
  rw [copy]
  rw [exec_bind, exec_ask?]
  cases tree.read source with
  | error fault => rfl
  | ok content => exact exec_bind_of_ok _ (exec_ask _ tree)

/-- A file is written as it was read, unless it is copied to itself. -/
theorem exec_copy_of_read {source target : String} {tree : FileTree} {content : ByteArray}
    (hread : tree.read source = .ok content) (hother : tree.sameFile source target = false) :
    (copy source target).exec tree = (write target content).exec tree := by
  rw [exec_copy, hread, hother]
  rfl

/-! ### Making directories -/

theorem exec_makeDirectory_cases {path : String} {answer : Except FileFault Unit}
    (h : (makeDirectory path).exec before = (answer, after)) :
    (∃ directory name, answer = .ok () ∧
        before.lookup .make path = .ok (.missing directory name) ∧
        after = before.put (directory ++ [name]) .directory) ∨
      (∃ fault, answer = .error fault) ∧ after = before := by
  rw [makeDirectory] at h
  cases hlookup : before.lookup .make path with
  | error fault =>
    rw [exec_bind, exec_ask?, hlookup] at h
    cases h
    exact Or.inr ⟨⟨fault, rfl⟩, rfl⟩
  | ok found =>
    rw [exec_bind, exec_ask?, hlookup] at h
    cases found with
    | node place node =>
      cases h
      exact Or.inr ⟨⟨_, rfl⟩, rfl⟩
    | missing directory name =>
      cases h
      exact Or.inl ⟨directory, name, rfl, rfl, rfl⟩

/-- What trying to make a directory does: it makes one, or changes nothing. It answers that
nothing is missing only if there is a directory then. -/
theorem exec_tryDirectory_cases {path : String} {answer : Except FileFault Bool}
    (h : (tryDirectory path).exec before = (answer, after)) :
    (∃ directory name, answer = .ok false ∧
        before.lookup .make path = .ok (.missing directory name) ∧
        after = before.put (directory ++ [name]) .directory) ∨
      after = before ∧ (answer = .ok false → before.hasDirectory path = true) := by
  rw [tryDirectory] at h
  cases hmake : (makeDirectory path).exec before with
  | mk made middle =>
    rcases exec_makeDirectory_cases hmake with
      ⟨directory, name, rfl, hlookup, rfl⟩ | ⟨⟨fault, rfl⟩, rfl⟩
    · rw [exec_tryCatch, exec_bind_of_ok _ hmake] at h
      cases h
      exact Or.inl ⟨directory, name, rfl, hlookup, rfl⟩
    · rw [exec_tryCatch, exec_bind_of_error _ hmake] at h
      dsimp only at h
      split at h
      · cases h
        exact Or.inr ⟨rfl, fun h => nomatch h⟩
      · rw [exec_bind_of_ok _ (exec_ask _ _)] at h
        split at h
        · cases h
          exact Or.inr ⟨rfl, fun _ => by assumption⟩
        · cases h
          exact Or.inr ⟨rfl, fun h => nomatch h⟩

instance : IsPreorder FileTree (ReflTransGen FileTree.MakesDirectory) where
  refl _ := ReflTransGen.refl
  trans _ _ _ := ReflTransGen.trans

theorem respects_tryDirectory (path : String) :
    (tryDirectory path).Respects True (ReflTransGen FileTree.MakesDirectory) := by
  intro tree _
  cases hexec : (tryDirectory path).exec tree with
  | mk answer after =>
    rcases exec_tryDirectory_cases hexec with ⟨directory, name, -, hlookup, rfl⟩ | ⟨rfl, -⟩
    · exact ReflTransGen.single ⟨path, directory, name, hlookup, rfl⟩
    · exact ReflTransGen.refl

theorem respects_makeDirectoriesFrom (fuel : Nat) (path : String) :
    (makeDirectoriesFrom fuel path).Respects True (ReflTransGen FileTree.MakesDirectory) := by
  induction fuel generalizing path with
  | zero => exact Respects.pure _
  | succ fuel ih =>
    rw [makeDirectoriesFrom]
    split
    · exact Respects.pure _
    · refine (respects_tryDirectory path).bind fun missing => ?_
      split
      · split
        · refine (ih _).bind fun _ => (respects_tryDirectory path).bind fun missing => ?_
          split
          · exact Respects.throw _
          · exact Respects.pure _
        · exact Respects.throw _
      · exact Respects.pure _

theorem respects_makeDirectories (path : String) :
    (makeDirectories path).Respects True (ReflTransGen FileTree.MakesDirectory) :=
  respects_makeDirectoriesFrom _ path

/-! ### Every change is step by step -/

instance : IsPreorder FileTree FileTree.Evolves where
  refl _ := ReflTransGen.refl
  trans _ _ _ := ReflTransGen.trans

theorem evolves_write (path : String) (content : ByteArray) :
    (write path content).Respects True FileTree.Evolves := by
  intro tree _
  cases hexec : (write path content).exec tree with
  | mk answer after =>
    rcases exec_write_cases hexec with ⟨place, -, hdest, rfl⟩ | ⟨-, rfl, -⟩
    · exact hdest.evolves content
    · exact ReflTransGen.refl

theorem evolves_makeDirectories (path : String) :
    (makeDirectories path).Respects True FileTree.Evolves :=
  (respects_makeDirectories path).mono fun _ _ => FileTree.evolves_of_makesDirectories

theorem evolves_copyEntry (target : String) (depth : Nat) (ancestors : List Ancestor)
    (names : List String) (path : String) (node : Node) :
    (copyEntry target depth ancestors names path node).Respects True FileTree.Evolves := by
  induction depth generalizing ancestors names path node with
  | zero => exact Respects.throw _
  | succ depth ih =>
    rw [copyEntry]
    refine ((Respects.ask? _).onFault _).bind fun entry => ?_
    split
    · refine ((Respects.ask? _).onFault _).bind fun reached => ?_
      refine (Respects.ask _).bind fun inside => (Respects.ask _).bind fun nodes => ?_
      refine ((evolves_makeDirectories _).onFault _).bind fun _ => Respects.forM fun item _ => ?_
      exact ih _ _ _ _
    · exact (Respects.copy fun content => evolves_write _ content).onFault _
    · exact Respects.pure _

theorem evolves_copyTree (source target : String) :
    (copyTree source target).Respects True FileTree.Evolves :=
  ((Respects.ask? _).onFault _).bind fun _ => evolves_copyEntry target _ _ _ source _

end Disk

end DocStubs
