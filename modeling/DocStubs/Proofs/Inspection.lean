import DocStubs.Proofs.Config
import DocStubs.Proofs.Page
import DocStubs.Proofs.Program

/-!
# Inspecting and generating

One command shows the modules of a package and another one makes their pages. Both work out a
configuration of their own from the same file, the second one with more values replaced. These
values are about pages only, so they have no influence on which modules there are. It has to be
shown as well that the first command is not refused where the second one is accepted: the values
that it does not replace come from a file that was accepted when it was loaded.

## Main definitions

* `Config.SameModules` — configurations that ask for the same modules
* `Program.shown` — what is printed about an analysis

## Main results

* `Program.configure_discovery` — a command with fewer values replaced is accepted as well
* `Program.inspect_shows_what_is_generated` — both commands are about the same modules
-/

namespace DocStubs

/-! ### Configurations and their analyses -/

/-- Two configurations ask for the same modules, described in the same way. -/
structure Config.SameModules (config other : Config) : Prop where
  discovery : config.discovery = other.discovery
  memberOrder : config.generation.memberOrder = other.generation.memberOrder

/-- Nothing else of a configuration has an influence on an analysis. -/
theorem Source.analysis_congr {config other : Config} (h : config.SameModules other)
    (tree : FileTree) (package : String) :
    Source.analysis tree config package = Source.analysis tree other package := by
  rw [Source.analysis, Source.analysis, Source.ofConfig, Source.ofConfig, Source.analyzeWith,
    Source.analyzeWith, h.discovery, h.memberOrder]

theorem Config.sameModules_override (config : Config) (output : OutputArguments)
    (given : Overrides) :
    (config.override given).SameModules (config.override (output.overrides given)) :=
  ⟨rfl, rfl⟩

theorem Disk.exec_ask?_of_ok {ε α : Type} {question : FileTree → Except ε α} {value : α}
    {tree : FileTree} (h : question tree = .ok value) :
    (ask? question).exec tree = (.ok value, tree) := by
  rw [exec_ask?, h]

/-! ### Pages that list members -/

/-- The page that lists the members of a module ends with them. -/
theorem Page.exists_heading (config : Config) (module : Descriptor) :
    ∃ heading, (config.apiPage module).artifact.content =
      heading ++ unlines (module.members.map (indent ++ ·) ++ [""]) := by
  rw [Config.apiPage, Page.api, List.append_assoc _ (module.members.map _), unlines_append]
  exact ⟨_, rfl⟩

/-- The pages of a plan that list members are those of the modules, in their order. -/
theorem Config.filter_api_plan {config : Config} {analysis : Analysis}
    (h : config.generation.writeApi = true) (handWritten : Bool) :
    (config.plan analysis handWritten).filter (·.kind = .api) =
      analysis.modules.map config.apiPage := by
  have hindices : (config.indexPages analysis handWritten (indexed analysis)).filter
      (·.kind = .api) = [] := by
    rw [indexPages]
    cases config.generation.writeApi <;> cases config.generation.writeDoc <;>
      cases config.generation.writeIndex <;> simp [indexPage]
  rw [plan, List.filter_append, hindices, List.append_nil]
  induction analysis.modules with
  | nil => rfl
  | cons module rest ih =>
    rw [List.flatMap_cons, List.filter_append, ih, modulePages, h, List.map_cons]
    cases hdoc : config.generation.writeDoc && module.hasDoc <;>
      simp [apiPage, docPage]

namespace Program

open Disk

variable {tree after : FileTree} {discovery : DiscoveryArguments} {output : OutputArguments}
  {config : Config}

/-! ### Working out a configuration -/

/-- The configuration that the values of a command replace. -/
def loaded (tree : FileTree) (discovery : DiscoveryArguments) : Except Error Config :=
  match discovery.config with
  | some path => Config.load tree path
  | none => Config.loadOrDefault tree Config.defaultFile

theorem check_of_loaded (h : loaded tree discovery = .ok config) : config.check = .ok () := by
  rw [loaded] at h
  split at h
  · exact Config.check_of_load h
  · exact Config.check_of_loadOrDefault h

theorem configure_eq_ok_iff {given : Overrides} :
    configure tree discovery given = .ok config ↔
      ∃ base, loaded tree discovery = .ok base ∧ base.override given = config ∧
        config.check = .ok () := by
  have hconfigure : configure tree discovery given =
      loaded tree discovery >>= fun base =>
        (base.override given).check >>= fun _ => .ok (base.override given) := by
    rw [configure, loaded]
    cases discovery.config <;> rfl
  rw [hconfigure]
  constructor
  · intro h
    obtain ⟨base, hbase, h⟩ := exists_of_bind_eq_ok h
    obtain ⟨_, hcheck, h⟩ := exists_of_bind_eq_ok h
    cases h
    exact ⟨base, hbase, rfl, hcheck⟩
  · rintro ⟨base, hbase, rfl, hcheck⟩
    rw [hbase]
    show ((base.override given).check >>= fun _ => .ok (base.override given)) = _
    rw [hcheck]
    rfl

/-- Without the values about pages, a command is accepted if it is with them, and asks for the same
modules. -/
theorem configure_discovery
    (h : configure tree discovery (output.overrides discovery.overrides) = .ok config) :
    ∃ config', configure tree discovery discovery.overrides = .ok config' ∧
      config'.SameModules config := by
  obtain ⟨base, hbase, rfl, hcheck⟩ := configure_eq_ok_iff.mp h
  have hsame := base.sameModules_override output discovery.overrides
  refine ⟨base.override discovery.overrides, configure_eq_ok_iff.mpr ⟨base, hbase, rfl, ?_⟩, hsame⟩
  -- The values about modules are those that were accepted, and no value about pages is replaced.
  obtain ⟨hdiscovery, -⟩ := Config.valid_of_check hcheck
  obtain ⟨-, houtput⟩ := Config.valid_of_check (check_of_loaded hbase)
  exact Config.check_of_valid (hsame.discovery ▸ hdiscovery) houtput

/-! ### Both commands -/

/-- What is printed about an analysis. -/
def shown (json : Bool) (analysis : Analysis) : String :=
  if json then Json.pretty analysis.toDatum ++ "\n" else analysis.listing

theorem exec_inspect (json : Bool)
    (hconfig : configure tree discovery discovery.overrides = .ok config) :
    (execute (.inspect discovery json)).exec tree =
      ((Source.analysis tree config discovery.package).map (shown json), tree) := by
  rw [execute, exec_bind_of_ok _ (exec_ask?_of_ok hconfig), exec_bind, exec_ask?]
  cases Source.analysis tree config discovery.package <;> rfl

theorem exec_generate
    (hconfig : configure tree discovery (output.overrides discovery.overrides) = .ok config) :
    (execute (.generate discovery output)).exec tree =
      match Source.analysis tree config discovery.package with
      | .error fault => (.error fault, tree)
      | .ok analysis => (Disk.generate config analysis >>= fun report => pure (Page.unlines
          [report.summary, "Documentation stubs written to: " ++ config.output.source])).exec
            tree := by
  rw [execute, exec_bind_of_ok _ (exec_ask?_of_ok hconfig), exec_bind, exec_ask?]
  cases Source.analysis tree config discovery.package <;> rfl

/-- What is generated is what inspecting shows. If the command that makes pages is accepted, so is
the one that shows the modules, and both come to the same analysis or fail with the same error. If
pages that list members are made, they are those of the modules that are shown, in that order, and
each of them ends with the members that are shown. -/
theorem inspect_shows_what_is_generated
    (hconfig : configure tree discovery (output.overrides discovery.overrides) = .ok config) :
    (∃ config', configure tree discovery discovery.overrides = .ok config' ∧
      Source.analysis tree config' discovery.package =
        Source.analysis tree config discovery.package) ∧
    (∀ fault, Source.analysis tree config discovery.package = .error fault →
      (execute (.generate discovery output)).exec tree = (.error fault, tree) ∧
        ∀ json, (execute (.inspect discovery json)).exec tree = (.error fault, tree)) ∧
    ∀ text after, (execute (.generate discovery output)).exec tree = (.ok text, after) →
      config.generation.writeApi = true →
      ∃ analysis handWritten start report,
        (∀ json, (execute (.inspect discovery json)).exec tree =
          (.ok (shown json analysis), tree)) ∧
        (makePageDirectories config).exec tree = (.ok (), start) ∧
        (Disk.perform config {} (config.plan analysis handWritten)).exec start =
          (.ok report, after) ∧
        report.written = (config.plan analysis handWritten).map (·.artifact.path) ∧
        (config.plan analysis handWritten).filter (·.kind = .api) =
          analysis.modules.map config.apiPage ∧
        report.apiPages = analysis.modules.length ∧
        ∀ module ∈ analysis.modules, ∃ heading, (config.apiPage module).artifact.content =
          heading ++ Page.unlines (module.members.map (Page.indent ++ ·) ++ [""]) := by
  obtain ⟨config', hconfig', hsame⟩ := configure_discovery hconfig
  have hanalysis := Source.analysis_congr hsame tree discovery.package
  refine ⟨⟨config', hconfig', hanalysis⟩, fun fault hfault => ⟨?_, fun json => ?_⟩,
    fun text after hexec hwrites => ?_⟩
  · rw [exec_generate hconfig, hfault]
  · rw [exec_inspect json hconfig', hanalysis, hfault]
    rfl
  · rw [exec_generate hconfig] at hexec
    cases hfound : Source.analysis tree config discovery.package with
    | error fault =>
      rw [hfound] at hexec
      cases hexec
    | ok analysis =>
      rw [hfound] at hexec
      obtain ⟨report, last, hgenerate, hreturn⟩ := exec_bind_eq_ok hexec
      cases hreturn
      obtain ⟨handWritten, start, -, hmake, hperform⟩ := exec_generate_eq_ok hgenerate
      obtain ⟨hwritten, -, hcount, -⟩ := report_of_exec hperform
      have hpages : (config.plan analysis handWritten).filter (·.kind = .api) =
          analysis.modules.map config.apiPage := Config.filter_api_plan hwrites handWritten
      refine ⟨analysis, handWritten, start, report, fun json => ?_, hmake, hperform,
        by simpa using hwritten, hpages, ?_, fun module _ => Page.exists_heading config module⟩
      · rw [exec_inspect json hconfig', hanalysis, hfound]
        rfl
      · rw [hcount, List.countP_eq_length_filter, hpages, List.length_map]
        exact Nat.zero_add _

/-- A tree with a manifest of a package with one module. -/
def manifestTree : FileTree :=
  { entries := [(["m.json"],
      .file ("\x7b\"modules\":" ++
        "\x7b\"p\":[true],\"p.a\":[false,[[\"f\",\"function\"]]]\x7d\x7d").toUTF8)] }

/-- A command on that package. -/
def manifestArguments : DiscoveryArguments := { package := "p", manifest := some "m.json" }

/-- Pages of both kinds in an output directory. -/
def bothKinds : OutputArguments := { source := some "s", writeDoc := true }

/-- The configuration of a command that makes these pages. -/
def manifestConfig : Config :=
  { discovery := { manifest := some "m.json" }
    output := { source := "s" }
    generation := { writeDoc := true } }

/-- The modules of that package. -/
def manifestAnalysis : Analysis :=
  { package := "p", modules := [{ name := "p.a", members := ["f"] }] }

theorem inspected_module_is_generated :
    configure manifestTree manifestArguments
        (bothKinds.overrides manifestArguments.overrides) = .ok manifestConfig ∧
      manifestConfig.generation.writeApi = true ∧
      ∃ text after analysis,
        (execute (.generate manifestArguments bothKinds)).exec manifestTree = (.ok text, after) ∧
        (∀ json, (execute (.inspect manifestArguments json)).exec manifestTree =
          (.ok (shown json analysis), manifestTree)) ∧
        shown false analysis = "p.a\n    f\n1 modules in p\n" := by
  have hconfig : configure manifestTree manifestArguments
      (bothKinds.overrides manifestArguments.overrides) = .ok manifestConfig := by
    decide +kernel
  have hanalysis : Source.analysis manifestTree manifestConfig "p" = .ok manifestAnalysis := by
    decide +kernel
  have hok : ((Disk.generate manifestConfig manifestAnalysis).exec manifestTree).1.isOk = true := by
    decide +kernel
  have hlisted : ((execute (.inspect manifestArguments false)).exec manifestTree).1 =
      .ok "p.a\n    f\n1 modules in p\n" := by
    decide +kernel
  refine ⟨hconfig, rfl, ?_⟩
  cases hgenerate : (Disk.generate manifestConfig manifestAnalysis).exec manifestTree with
  | mk answer after =>
    rw [hgenerate] at hok
    cases answer with
    | error fault => cases hok
    | ok report =>
      have hexec := exec_generate hconfig
      rw [show manifestArguments.package = "p" from rfl, hanalysis] at hexec
      dsimp only at hexec
      rw [exec_bind_of_ok _ hgenerate, exec_pure] at hexec
      obtain ⟨-, -, hpages⟩ := inspect_shows_what_is_generated hconfig
      obtain ⟨analysis, _, _, _, hshown, -⟩ := hpages _ _ hexec rfl
      refine ⟨_, _, analysis, hexec, hshown, ?_⟩
      rw [hshown false] at hlisted
      exact Except.ok.inj hlisted

end Program

end DocStubs
