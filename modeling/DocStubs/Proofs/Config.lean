import DocStubs.Program
import DocStubs.Proofs.Packages.Listing

/-!
# Configurations that are accepted

A configuration is accepted if what it says about modules and what it says about pages is valid,
each for itself; the rest of it is not checked. Values that replace some of it are checked together
with what they do not replace.

## Main definitions

* `Discovery.Valid`, `Output.Valid` — what is checked

## Main results

* `Config.check_eq_ok_iff` — a configuration is accepted if both of its parts are valid
* `Config.check_of_loadOrDefault` — a configuration that was loaded is accepted
-/

namespace DocStubs

/-- What is said about modules: there is a search path, and the pattern can be read. -/
structure Discovery.Valid (discovery : Discovery) : Prop where
  searchPaths : discovery.searchPaths ≠ []
  exclude : ∀ text, discovery.exclude = some text → (Pattern.parse? text).isSome = true

/-- What is said about pages: three paths below the output directory, and texts that are not
empty. -/
structure Output.Valid (output : Output) : Prop where
  apipath : Config.checkPath "apipath" output.apipath = .ok ()
  docpath : Config.checkPath "docpath" output.docpath = .ok ()
  writtenpath : Config.checkPath "writtenpath" output.writtenpath = .ok ()
  extension : output.extension ≠ ""
  backupMark : output.backupMark ≠ ""

namespace Config

variable {config : Config} {tree : FileTree} {path : String}

/-- A path that was checked is one below a directory. -/
theorem of_checkPath {key value : String} (h : checkPath key value = .ok ()) :
    value ≠ "" ∧ Path.isAbsolute value = false := by
  rw [checkPath] at h
  split at h
  · cases h
  · rename_i hblank
    split at h
    · cases h
    · rename_i habs
      refine ⟨?_, by simpa using habs⟩
      rintro rfl
      exact hblank (by decide +kernel)

theorem valid_of_check (h : config.check = .ok ()) :
    config.discovery.Valid ∧ config.output.Valid := by
  rw [check] at h
  split at h
  · cases h
  rename_i hpaths
  obtain ⟨_, hapi, h⟩ := exists_of_bind_eq_ok h
  obtain ⟨_, hdoc, h⟩ := exists_of_bind_eq_ok h
  obtain ⟨_, hwritten, h⟩ := exists_of_bind_eq_ok h
  cases hextension : config.output.extension.isEmpty with
  | true =>
    rw [hextension] at h
    cases h
  | false =>
    cases hmark : config.output.backupMark.isEmpty with
    | true =>
      rw [hextension, hmark] at h
      cases h
    | false =>
      rw [hextension, hmark] at h
      refine ⟨⟨by simpa using hpaths, fun text htext => ?_⟩,
        ⟨hapi, hdoc, hwritten, by simpa using hextension, by simpa using hmark⟩⟩
      rw [htext] at h
      cases hpattern : Pattern.parse? text with
      | some pattern => rfl
      | none =>
        dsimp only at h
        rw [hpattern] at h
        cases h

theorem check_of_valid (hdiscovery : config.discovery.Valid) (houtput : config.output.Valid) :
    config.check = .ok () := by
  have hpaths : config.discovery.searchPaths.isEmpty = false := by simp [hdiscovery.searchPaths]
  have hextension : config.output.extension.isEmpty = false := by simp [houtput.extension]
  have hmark : config.output.backupMark.isEmpty = false := by simp [houtput.backupMark]
  rw [check]
  rw [hpaths, houtput.apipath, houtput.docpath, houtput.writtenpath, hextension, hmark]
  cases hexclude : config.discovery.exclude with
  | none => rfl
  | some text =>
    have hpattern : (Pattern.parse? text).isNone = false := by
      simpa using hdiscovery.exclude text hexclude
    dsimp only
    rw [hpattern]
    rfl

/-- A configuration is accepted if what it says about modules and about pages is valid. -/
theorem check_eq_ok_iff : config.check = .ok () ↔ config.discovery.Valid ∧ config.output.Valid :=
  ⟨valid_of_check, fun h => check_of_valid h.1 h.2⟩

theorem check_of_load (h : load tree path = .ok config) : config.check = .ok () := by
  rw [load] at h
  split at h
  · cases h
  · split at h
    · obtain ⟨_, hcheck, rfl⟩ := exists_of_map_eq_ok h
      exact hcheck
    · cases h

/-- A configuration that was loaded is accepted, and so is the default one. -/
theorem check_of_loadOrDefault (h : loadOrDefault tree path = .ok config) :
    config.check = .ok () := by
  rw [loadOrDefault] at h
  split at h
  · exact check_of_load h
  · cases h
    decide +kernel

end Config

end DocStubs
