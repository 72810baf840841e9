import DocStubs.Source
import Mathlib.Data.List.Forall2

/-!
# What questions answer

A question looks into a file tree and may change what is remembered. `exec` gives its answer and
the state after it, and its lemmas take questions apart. Questions to packages and questions to
sources are of one kind here, with different states.

## Main definitions

* `Query.exec` — what a question answers, and the state after it

## Main results

* `Query.exec_mapM_of_ok`, `Query.exec_mapM_of_steady` — questions that are asked one after the
  other and change nothing
* `Query.forall₂_of_exec_mapM`, `Query.forall_of_exec_mapM_of_grows` — questions that keep a fact
  about the state, or only add to it
-/

namespace DocStubs

/-- Questions that look into a file tree. -/
abbrev Query (σ : Type) := ReaderT FileTree (ExceptT Error (StateM σ))

namespace Query

variable {σ α β : Type} {tree : FileTree} {before after : σ}

/-- What a question answers, and the state after it. -/
def exec (query : Query σ α) (tree : FileTree) (state : σ) : Except Error α × σ :=
  ((query.run tree).run).run state

/-- Questions that always answer the same and leave the same state are the same. -/
theorem ext {query query' : Query σ α}
    (h : ∀ tree state, exec query tree state = exec query' tree state) : query = query' := by
  funext tree state
  exact h tree state

theorem exec_pure (value : α) (tree : FileTree) (state : σ) :
    exec (pure value : Query σ α) tree state = (.ok value, state) := rfl

theorem exec_get (tree : FileTree) (state : σ) :
    exec (get : Query σ σ) tree state = (.ok state, state) := rfl

theorem exec_bind (query : Query σ α) (next : α → Query σ β) (tree : FileTree) (state : σ) :
    exec (query >>= next) tree state =
      match exec query tree state with
      | (.ok value, after) => exec (next value) tree after
      | (.error error, after) => (.error error, after) := by
  show (ExceptT.bindCont (fun value => (next value).run tree) (exec query tree state).1).run
    (exec query tree state).2 = _
  rcases exec query tree state with ⟨_ | _, after⟩ <;> rfl

theorem exec_bind_of_ok {query : Query σ α} {value : α} (next : α → Query σ β)
    (h : exec query tree before = (.ok value, after)) :
    exec (query >>= next) tree before = exec (next value) tree after := by
  rw [exec_bind, h]

theorem exec_bind_of_error {query : Query σ α} {error : Error} (next : α → Query σ β)
    (h : exec query tree before = (.error error, after)) :
    exec (query >>= next) tree before = (.error error, after) := by
  rw [exec_bind, h]

theorem exec_map (f : α → β) (query : Query σ α) (tree : FileTree) (state : σ) :
    exec (f <$> query) tree state =
      ((exec query tree state).1.map f, (exec query tree state).2) := by
  rw [map_eq_pure_bind, exec_bind]
  rcases exec query tree state with ⟨_ | _, after⟩ <;> rfl

/-- If two questions are answered one after the other, both are. -/
theorem exec_bind_eq_ok {query : Query σ α} {next : α → Query σ β} {value : β}
    (h : exec (query >>= next) tree before = (.ok value, after)) :
    ∃ first middle, exec query tree before = (.ok first, middle) ∧
      exec (next first) tree middle = (.ok value, after) := by
  cases hfirst : exec query tree before with
  | mk answer middle =>
    cases answer with
    | ok first => exact ⟨first, middle, rfl, by rwa [exec_bind_of_ok next hfirst] at h⟩
    | error error =>
      rw [exec_bind_of_error next hfirst] at h
      cases h

/-- Questions that are all answered and leave the state as it is are answered together. -/
theorem exec_mapM_of_ok {query : α → Query σ β} {answer : α → β} {items : List α} {state : σ}
    (h : ∀ item ∈ items, exec (query item) tree state = (.ok (answer item), state)) :
    exec (items.mapM query) tree state = (.ok (items.map answer), state) := by
  induction items with
  | nil => rfl
  | cons item rest ih =>
    rw [List.mapM_cons, exec_bind_of_ok _ (h item List.mem_cons_self),
      exec_bind_of_ok _ (ih fun other hother => h other (List.mem_cons_of_mem _ hother))]
    rfl

/-- Questions that leave the state as it is are answered one by one as they are alone, up to the
first failure. -/
theorem exec_mapM_of_steady {query : α → Query σ β} {items : List α} {state : σ}
    (h : ∀ item ∈ items, (exec (query item) tree state).2 = state) :
    exec (items.mapM query) tree state =
      (items.mapM fun item => (exec (query item) tree state).1, state) := by
  induction items with
  | nil => rfl
  | cons item rest ih =>
    have hrest := ih fun other hother => h other (List.mem_cons_of_mem _ hother)
    have hstate := h item List.mem_cons_self
    rw [List.mapM_cons, List.mapM_cons]
    cases hitem : exec (query item) tree state with
    | mk answer after =>
      rw [hitem] at hstate
      subst hstate
      cases answer with
      | error error => rw [exec_bind_of_error _ hitem]; rfl
      | ok value =>
        rw [exec_bind_of_ok _ hitem, exec_bind, hrest]
        cases rest.mapM fun item => (exec (query item) tree after).1 <;> rfl

/-- If questions that are asked one after the other keep a fact about the state, each with the
answer that it gets is of a kind. -/
theorem forall₂_of_exec_mapM (invariant : σ → Prop) (kind : α → β → Prop) {query : α → Query σ β}
    {items : List α} {answers : List β} {before after : σ}
    (hquery : ∀ item ∈ items, ∀ {before answer after}, invariant before →
      exec (query item) tree before = (.ok answer, after) → invariant after ∧ kind item answer)
    (hbefore : invariant before)
    (h : exec (items.mapM query) tree before = (.ok answers, after)) :
    invariant after ∧ List.Forall₂ kind items answers := by
  induction items generalizing answers before with
  | nil =>
    cases h
    exact ⟨hbefore, .nil⟩
  | cons item rest ih =>
    rw [List.mapM_cons] at h
    obtain ⟨first, middle, hfirst, h⟩ := exec_bind_eq_ok h
    obtain ⟨others, last, hothers, h⟩ := exec_bind_eq_ok h
    cases h
    obtain ⟨hmiddle, hkind⟩ := hquery item List.mem_cons_self hbefore hfirst
    obtain ⟨hafter, hrest⟩ :=
      ih (fun other hother => hquery other (List.mem_cons_of_mem _ hother)) hmiddle hothers
    exact ⟨hafter, .cons hkind hrest⟩

/-- If questions that are asked one after the other keep a fact about the state and give good
answers, all answers are good. -/
theorem forall_of_exec_mapM (invariant : σ → Prop) (good : β → Prop) {query : α → Query σ β}
    {items : List α} {answers : List β} {before after : σ}
    (hquery : ∀ item ∈ items, ∀ {before answer after}, invariant before →
      exec (query item) tree before = (.ok answer, after) → invariant after ∧ good answer)
    (hbefore : invariant before)
    (h : exec (items.mapM query) tree before = (.ok answers, after)) :
    invariant after ∧ ∀ answer ∈ answers, good answer := by
  obtain ⟨hafter, hanswers⟩ :=
    forall₂_of_exec_mapM invariant (fun _ answer => good answer) hquery hbefore h
  refine ⟨hafter, ?_⟩
  clear h hquery
  induction hanswers with
  | nil => exact List.forall_mem_nil _
  | cons hgood _ ih => exact List.forall_mem_cons.mpr ⟨hgood, ih⟩

/-- If questions that are asked one after the other only add to what a state holds, and what is
good in a state stays good in one that holds more, all answers are good in the end. -/
theorem forall_of_exec_mapM_of_grows (grows : σ → σ → Prop) (good : β → σ → Prop)
    (hrefl : ∀ state, grows state state)
    (htrans : ∀ {first second third}, grows first second → grows second third → grows first third)
    (hgood : ∀ {answer before after}, grows before after → good answer before → good answer after)
    {query : α → Query σ β} {items : List α} {answers : List β} {base before after : σ}
    (hquery : ∀ item ∈ items, ∀ {before answer after}, grows base before →
      exec (query item) tree before = (.ok answer, after) → grows before after ∧ good answer after)
    (hbase : grows base before)
    (h : exec (items.mapM query) tree before = (.ok answers, after)) :
    grows before after ∧ ∀ answer ∈ answers, good answer after := by
  induction items generalizing answers before with
  | nil =>
    cases h
    exact ⟨hrefl _, List.forall_mem_nil _⟩
  | cons item rest ih =>
    rw [List.mapM_cons] at h
    obtain ⟨first, middle, hfirst, h⟩ := exec_bind_eq_ok h
    obtain ⟨others, last, hothers, h⟩ := exec_bind_eq_ok h
    cases h
    obtain ⟨hmiddle, hfirstgood⟩ := hquery item List.mem_cons_self hbase hfirst
    obtain ⟨hafter, hrest⟩ :=
      ih (fun other hother => hquery other (List.mem_cons_of_mem _ hother))
        (htrans hbase hmiddle) hothers
    exact ⟨htrans hmiddle hafter, List.forall_mem_cons.mpr ⟨hgood hafter hfirstgood, hrest⟩⟩

theorem exec_discard (query : Query σ α) (tree : FileTree) (state : σ) :
    exec (discard query) tree state = exec (query >>= fun _ => pure ()) tree state := by
  show exec ((fun _ => ()) <$> query) tree state = _
  rw [map_eq_pure_bind]

end Query

end DocStubs
