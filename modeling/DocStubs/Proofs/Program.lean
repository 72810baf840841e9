import DocStubs.Program
import DocStubs.Proofs.Generate.Failure

/-!
# What a command leaves behind

A command first works out its configuration and the modules of the package. Both only look at the
file tree. So a command that makes no pages changes nothing, and one that makes pages changes
nothing before it begins with that; from then on, errors in what it was told, in what it reads or
about hand-written pages are impossible.

## Main results

* `Program.exec_execute_cases` — a command looks, and may then make pages
* `Program.early_failures_leave_no_trace` — what fails early changes nothing
-/

namespace DocStubs

namespace Disk

/-- A question leaves the tree as it is: if it fails, nothing else happens. -/
theorem exec_ask?_bind_cases {ε α β : Type} {question : FileTree → Except ε α}
    {next : α → Disk ε β} {answer : Except ε β} {before after : FileTree}
    (h : (ask? question >>= next).exec before = (answer, after)) :
    after = before ∨
      ∃ value, question before = .ok value ∧ (next value).exec before = (answer, after) := by
  rw [exec_bind, exec_ask?] at h
  cases hquestion : question before with
  | ok value =>
    rw [hquestion] at h
    exact Or.inr ⟨value, rfl, h⟩
  | error fault =>
    rw [hquestion] at h
    cases h
    exact Or.inl rfl

end Disk

/-- Whether a command only looks at files. -/
def Command.onlyReads : Command → Bool
  | .generate _ _ => false
  | .inspect _ _ | .version => true

namespace Program

open Disk

variable {command : Command} {before after : FileTree}

/-- What a command does to a file tree: nothing, or what making pages does to it. An error is then
that of making pages. -/
theorem exec_execute_cases {answer : Except Error String}
    (h : (execute command).exec before = (answer, after)) :
    after = before ∨
      command.onlyReads = false ∧ ∃ config analysis pages,
        (Disk.generate config analysis).exec before = (pages, after) ∧
        ∀ fault, answer = .error fault → pages = .error fault := by
  cases command with
  | generate discovery output =>
    rw [execute] at h
    obtain hsame | ⟨config, -, h⟩ := exec_ask?_bind_cases h
    · exact Or.inl hsame
    obtain hsame | ⟨analysis, -, h⟩ := exec_ask?_bind_cases h
    · exact Or.inl hsame
    refine Or.inr ⟨rfl, config, analysis, ?_⟩
    rw [exec_bind] at h
    cases hpages : (Disk.generate config analysis).exec before with
    | mk pages last =>
      rw [hpages] at h
      cases pages with
      | ok report =>
        cases h
        exact ⟨_, rfl, fun fault hfault => nomatch hfault⟩
      | error first =>
        cases h
        refine ⟨_, rfl, fun fault hfault => ?_⟩
        cases hfault
        rfl
  | inspect discovery json =>
    rw [execute] at h
    obtain hsame | ⟨config, -, h⟩ := exec_ask?_bind_cases h
    · exact Or.inl hsame
    obtain hsame | ⟨analysis, -, h⟩ := exec_ask?_bind_cases h
    · exact Or.inl hsame
    cases h
    exact Or.inl rfl
  | version =>
    cases h
    exact Or.inl rfl

/-- If a command fails because of its configuration, an exclusion pattern, a manifest, a module
that cannot be imported or a missing index of hand-written pages, the tree is exactly as it was.
And a command that only looks at files leaves the tree as it was, however it ends. -/
theorem early_failures_leave_no_trace (command : Command) (tree : FileTree) :
    (∀ fault, ((execute command).exec tree).1 = .error fault → fault.isEarly = true →
        ((execute command).exec tree).2 = tree) ∧
      (command.onlyReads = true → ((execute command).exec tree).2 = tree) := by
  cases hexec : (execute command).exec tree with
  | mk answer after =>
    constructor
    · rintro fault rfl hearly
      rcases exec_execute_cases hexec with hsame | ⟨-, config, analysis, pages, hpages, hfault⟩
      · exact hsame
      · rw [hfault fault rfl] at hpages
        exact unchanged_of_isEarly hpages hearly
    · intro hreads
      rcases exec_execute_cases hexec with hsame | ⟨hmakes, -⟩
      · exact hsame
      · rw [hreads] at hmakes
        cases hmakes

/-- A tree with a manifest and a directory for hand-written pages that holds no index. -/
def unindexedTree : FileTree :=
  { entries := [(["m.json"],
        .file "\x7b\"modules\": \x7b\"p\": \x7b\"package\": true\x7d\x7d\x7d".toUTF8),
      (["s"], .directory), (["s", "written"], .directory)] }

/-- Makes the pages of a package from a manifest, with the index of the output directory. -/
def indexedPages : Command :=
  .generate { package := "p", manifest := some "m.json" } { source := some "s", writeIndex := true }

theorem missing_index_leaves_no_trace :
    (execute indexedPages).exec unindexedTree =
      (.error (.handWrittenIndex "s/written" "s/written/index.rst"), unindexedTree) := by
  have hfault : ((execute indexedPages).exec unindexedTree).1 =
      .error (.handWrittenIndex "s/written" "s/written/index.rst") := by
    decide +kernel
  exact Prod.ext hfault
    ((early_failures_leave_no_trace indexedPages unindexedTree).1 _ hfault rfl)

end Program

end DocStubs
