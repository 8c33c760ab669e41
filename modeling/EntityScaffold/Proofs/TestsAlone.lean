import EntityScaffold.Proofs.Project
import EntityScaffold.Proofs.Regeneration

/-!
Making the tests of an entity alone. They are the tests that are made together with its model. The
fields of the model have no say in them, unless the model is written over their template.
-/

namespace EntityScaffold

variable {fs after : FileSystem}

namespace Generator

variable {layout : Layout} {root : Path} {entity : Entity} {store : Template.Store}

/-- The directory of the tests decides where they go and nothing else. -/
theorem shown_tests (dir : Option Path) {tests : Preview}
    (h : (Generator.tests layout root entity).shown store fs = .ok tests) :
    (Generator.tests layout root entity dir).shown store fs =
      .ok ⟨layout.testsPathIn (dir.getD layout.testsDir) root entity.className,
        tests.content⟩ := by
  unfold shown at h ⊢
  dsimp only [Generator.tests] at h ⊢
  cases hl : store.loaded "Tests" fs with
  | error failure =>
    rw [hl] at h
    cases h
  | ok template =>
    rw [hl] at h
    cases h
    rfl

end Generator

namespace Scaffold

variable {scaffold : Scaffold} {request : Request} {files : ScaffoldedFiles}

/-- Whatever the fields are, a run makes the same tests, as long as their template is not written
over on the way. -/
theorem attempt_fields {fields : List Field} {ignored : List String}
    (hkeeps : scaffold.KeepsTests request fs)
    (hkeeps' : scaffold.KeepsTests { request with fields, ignored } fs)
    (h : scaffold.attempt request fs = (.ok files, after)) :
    ∃ final content, scaffold.attempt { request with fields, ignored } fs = (.ok files, final) ∧
      after.readText (scaffold.tests request).destination = .ok content ∧
      final.readText (scaffold.tests request).destination = .ok content := by
  have hends := scaffold.attempt_ends request fs
  rw [h] at hends
  cases hends with
  | complete hm ht =>
    obtain ⟨model, hsm, -, hwm⟩ := Generator.attempt_ok hm
    obtain ⟨tests, hst, -, hwt⟩ := Generator.attempt_ok ht
    -- the other model goes to the same place, and differs in nothing but its content
    obtain ⟨content, hother⟩ :=
      Generator.shown_other (scaffold.model { request with fields, ignored }) hsm rfl
    obtain ⟨anew, hanew, halike⟩ := (FileSystem.Alike.refl fs).write hwm (.text content)
    obtain ⟨final, hfinal, -⟩ := halike.write hwt (.text tests.content)
    have hmodel := Generator.attempt_of_write hother hanew
    have hsame : (scaffold.tests request).shown scaffold.store anew = .ok tests :=
      (hkeeps'.shown hmodel).trans ((hkeeps.shown hm).symm.trans hst)
    have htests := Generator.attempt_of_write hsame hfinal
    rw [halike.present_eq] at htests
    cases hm.symm.trans (Generator.attempt_of_write hsm hwm)
    cases ht.symm.trans (Generator.attempt_of_write hst hwt)
    exact ⟨final, tests.content, attempt_of_attempts hmodel htests,
      FileSystem.readText_write hwt, FileSystem.readText_write hfinal⟩

end Scaffold

namespace Project

variable {project : Project} {request : Request} {report : GenerationReport}

/-- What becomes of the files of a request, and the file system they leave. -/
def attemptModel (project : Project) (request : Request) (dryRun : Bool) (fs : FileSystem) :
    Except Failure GenerationReport × FileSystem :=
  (project.model request dryRun : ExceptT Failure (StateM FileSystem) GenerationReport).run fs

/-- What becomes of the tests of an entity that are made alone, and the file system they leave. -/
def attemptTests (project : Project) (entity : Entity) (dir : Option Path) (dryRun : Bool)
    (fs : FileSystem) : Except Failure GenerationReport × FileSystem :=
  (project.tests entity dir dryRun : ExceptT Failure (StateM FileSystem) GenerationReport).run fs

/-- The report on a request whose files came to this. -/
def modelReport (request : Request) (result : Generation) : GenerationReport where
  subject := "Model '" ++ request.entity.name ++ "'"
  fields := some (request.fields.map Field.text)
  warnings := request.ignored.map ignoredWarning
  result := result

def testsReport (entity : Entity) (result : Generation) : GenerationReport where
  subject := "Tests for '" ++ entity.name ++ "'"
  fields := none
  warnings := []
  result := result

theorem attemptModel_dry (project : Project) (request : Request) (fs : FileSystem) :
    project.attemptModel request true fs =
      ((project.scaffold.shown request fs).map fun files =>
        modelReport request (.previewed files), fs) := by
  unfold attemptModel
  simp only [model, bind_pure_comp]
  rw [run_map, modelFiles, if_pos rfl, run_map, Scaffold.run_preview]
  cases project.scaffold.shown request fs <;> rfl

theorem attemptModel_real (project : Project) (request : Request) (fs : FileSystem) :
    let made := project.scaffold.attempt request fs
    project.attemptModel request false fs =
      (made.1.map fun files => modelReport request (.written [files.model, files.tests]),
        made.2) := by
  intro made
  unfold attemptModel
  simp only [model, bind_pure_comp]
  rw [run_map, modelFiles, if_neg Bool.false_ne_true, run_map]
  change (Except.map _ (Except.map _ made.1), made.2) = _
  cases made.1 <;> rfl

theorem attemptTests_dry (project : Project) (entity : Entity) (dir : Option Path)
    (fs : FileSystem) :
    project.attemptTests entity dir true fs =
      (((Generator.tests project.settings.layout project.root entity dir).shown project.store
        fs).map fun file => testsReport entity (.previewed [file]), fs) := by
  unfold attemptTests
  simp only [tests, bind_pure_comp]
  rw [run_map, testsFiles, if_pos rfl, run_map, Generator.run_preview]
  cases (Generator.tests project.settings.layout project.root entity dir).shown project.store fs
    <;> rfl

theorem attemptTests_real (project : Project) (entity : Entity) (dir : Option Path)
    (fs : FileSystem) :
    let made := (Generator.tests project.settings.layout project.root entity dir).attempt
      project.store fs
    project.attemptTests entity dir false fs =
      (made.1.map fun file => testsReport entity (.written [file]), made.2) := by
  intro made
  unfold attemptTests
  simp only [tests, bind_pure_comp]
  rw [run_map, testsFiles, if_neg Bool.false_ne_true, run_map]
  change (Except.map _ (Except.map _ made.1), made.2) = _
  cases made.1 <;> rfl

/-- A dry run that succeeds shows the model and the tests. -/
theorem attemptModel_dry_ok (h : project.attemptModel request true fs = (.ok report, after)) :
    ∃ model tests, (project.scaffold.model request).shown project.scaffold.store fs = .ok model ∧
      (project.scaffold.tests request).shown project.scaffold.store fs = .ok tests ∧
      report.result = .previewed [model, tests] := by
  rw [attemptModel_dry] at h
  cases hs : project.scaffold.shown request fs with
  | error failure =>
    rw [hs] at h
    cases h
  | ok previews =>
    obtain ⟨model, tests, hm, ht, rfl⟩ := Scaffold.shown_ok hs
    rw [hs] at h
    cases h
    exact ⟨model, tests, hm, ht, rfl⟩

theorem attemptModel_real_ok (h : project.attemptModel request false fs = (.ok report, after)) :
    ∃ files, project.scaffold.attempt request fs = (.ok files, after) ∧
      report.result = .written [files.model, files.tests] := by
  rw [attemptModel_real] at h
  rcases hrun : project.scaffold.attempt request fs with ⟨result, left⟩
  rw [hrun] at h
  cases result with
  | error failure => cases h
  | ok files =>
    cases h
    exact ⟨files, rfl, rfl⟩

/-- The tests that are shown with a model are shown alone, in any directory. -/
theorem attemptTests_shown {tests : Preview}
    (h : (project.scaffold.tests request).shown project.scaffold.store fs = .ok tests)
    (dir : Option Path) :
    project.attemptTests request.entity dir true fs =
      (.ok (testsReport request.entity
        (.previewed [⟨project.testsPath request.entity dir, tests.content⟩])), fs) := by
  have hshown : (Generator.tests project.settings.layout project.root request.entity).shown
      project.store fs = .ok tests := h
  rw [attemptTests_dry, Generator.shown_tests dir hshown]
  rfl

/-- Whatever the fields are, a dry run shows the same tests. -/
theorem attemptModel_shown {model tests : Preview}
    (hm : (project.scaffold.model request).shown project.scaffold.store fs = .ok model)
    (ht : (project.scaffold.tests request).shown project.scaffold.store fs = .ok tests)
    (fields : List Field) (ignored : List String) :
    ∃ report model', project.attemptModel { request with fields, ignored } true fs =
      (.ok report, fs) ∧ report.result = .previewed [model', tests] := by
  let other : Request := { request with fields, ignored }
  obtain ⟨content, hc⟩ := Generator.shown_other (project.scaffold.model other) hm rfl
  have htests : (project.scaffold.tests other).shown project.scaffold.store fs = .ok tests := ht
  have hshown : project.scaffold.shown other fs =
      .ok [⟨(project.scaffold.model other).destination, content⟩, tests] := by
    rw [Scaffold.shown_eq, hc, htests]
    rfl
  rw [attemptModel_dry, hshown]
  exact ⟨_, _, rfl, rfl⟩

/-- With the built-in templates, the tests are made again over those that came with the model, and
nothing changes. -/
theorem attemptTests_after (hb : project.store.directory = none)
    (h : project.attemptModel request false fs = (.ok report, after)) :
    project.attemptTests request.entity none false after =
      (.ok (testsReport request.entity
        (.written [⟨project.testsPath request.entity none, .overwritten⟩])), after) := by
  obtain ⟨files, hrun, -⟩ := attemptModel_real_ok h
  have hends := project.scaffold.attempt_ends request fs
  rw [hrun] at hends
  cases hends with
  | complete _ htests =>
    obtain ⟨tests, hs, -, hwrite⟩ := Generator.attempt_ok htests
    have hagain := Generator.attempt_of_write ((Generator.shown_builtin hb _ after).trans hs)
      (FileSystem.write_again hwrite)
    rw [if_pos (FileSystem.holds_of_write hwrite).present] at hagain
    have hmade : (Generator.tests project.settings.layout project.root request.entity).attempt
        project.store after = (.ok ⟨project.testsPath request.entity none, .overwritten⟩, after) :=
      hagain
    rw [attemptTests_real, hmade]
    rfl

/-- Whatever the fields are, a real run leaves the same tests, as long as their template is not
written over on the way. -/
theorem attemptModel_fields {fields : List Field} {ignored : List String}
    (hkeeps : project.scaffold.KeepsTests request fs)
    (hkeeps' : project.scaffold.KeepsTests { request with fields, ignored } fs)
    (h : project.attemptModel request false fs = (.ok report, after)) :
    ∃ report' after' content,
      project.attemptModel { request with fields, ignored } false fs = (.ok report', after') ∧
      report'.result = report.result ∧
      after.readText (project.testsPath request.entity none) = .ok content ∧
      after'.readText (project.testsPath request.entity none) = .ok content := by
  obtain ⟨files, hrun, hresult⟩ := attemptModel_real_ok h
  obtain ⟨final, content, hother, hread, hread'⟩ := Scaffold.attempt_fields hkeeps hkeeps' hrun
  refine ⟨modelReport { request with fields, ignored } (.written [files.model, files.tests]),
    final, content, ?_, hresult.symm, hread, hread'⟩
  rw [attemptModel_real, hother]
  rfl

/-- The tests that are made alone are those that are made with the model: a dry run shows the same
file, or its content at the directory that is asked for, and with the built-in templates nothing is
left to be done after a real run. The fields have no say in the tests, unless the model is written
over their template. -/
theorem tests_agree (project : Project) (request : Request) (fs : FileSystem) :
    (∀ report after, project.attemptModel request true fs = (.ok report, after) →
      ∃ model tests, report.result = .previewed [model, tests] ∧
        (∃ alone, project.attemptTests request.entity none true fs = (.ok alone, fs) ∧
          alone.result = .previewed [tests]) ∧
        (∀ dir, ∃ alone,
          project.attemptTests request.entity (some dir) true fs = (.ok alone, fs) ∧
          alone.result = .previewed [⟨(project.root.join dir).join
            ⟨project.settings.layout.testsFileName request.entity.className⟩, tests.content⟩]) ∧
        ∀ fields ignored, ∃ report' model',
          project.attemptModel { request with fields, ignored } true fs = (.ok report', fs) ∧
          report'.result = .previewed [model', tests]) ∧
    (project.store.directory = none →
      project.scaffold.KeepsTests request fs ∧
      ∀ report after, project.attemptModel request false fs = (.ok report, after) →
        ∃ alone, project.attemptTests request.entity none false after = (.ok alone, after) ∧
          alone.result =
            .written [⟨project.testsPath request.entity none, .overwritten⟩]) ∧
    ∀ fields ignored, project.scaffold.KeepsTests request fs →
      project.scaffold.KeepsTests { request with fields, ignored } fs →
      ∀ report after, project.attemptModel request false fs = (.ok report, after) →
        ∃ report' after' content,
          project.attemptModel { request with fields, ignored } false fs = (.ok report', after') ∧
          report'.result = report.result ∧
          after.readText (project.testsPath request.entity none) = .ok content ∧
          after'.readText (project.testsPath request.entity none) = .ok content := by
  refine ⟨fun report after h => ?_, fun hb => ⟨Scaffold.keepsTests_builtin hb, ?_⟩, ?_⟩
  · obtain ⟨model, tests, hm, ht, hresult⟩ := attemptModel_dry_ok h
    have hpath : tests.path = project.testsPath request.entity none := Generator.shown_path ht
    refine ⟨model, tests, hresult, ⟨_, attemptTests_shown ht none, ?_⟩, fun dir => ?_,
      fun fields ignored => attemptModel_shown hm ht fields ignored⟩
    · rw [← hpath]
      rfl
    · exact ⟨_, attemptTests_shown ht (some dir), rfl⟩
  · intro report after h
    exact ⟨_, attemptTests_after hb h, rfl⟩
  · intro fields ignored hkeeps hkeeps' report after h
    exact attemptModel_fields hkeeps hkeeps' h

/-- Templates of a project's own that no model is written over. -/
theorem tests_agree_own_templates :
    let project : Project := ⟨⟨"app"⟩, {}, { directory := some ⟨"own"⟩ }⟩
    let fs := ((FileSystem.empty.put ["own"] .directory).put ["Model.template", "own"]
      (.file (.text "_DEFAULT_INIT_PARAMS_"))).put ["Tests.template", "own"]
        (.file (.text "_CLASS_NAME_Tests"))
    let request : Request := ⟨⟨"post"⟩, [], []⟩
    ∃ report report' after after', project.attemptModel request false fs = (.ok report, after) ∧
      project.attemptModel { request with fields := [⟨"title", "string"⟩] } false fs =
        (.ok report', after') ∧
      report'.result = report.result ∧
      after.readText (project.testsPath request.entity none) = .ok "PostTests" ∧
      after'.readText (project.testsPath request.entity none) = .ok "PostTests" := by
  intro project fs request
  have hkeeps (fields : List Field) (h : project.scaffold.store.loaded "Tests"
      ((project.scaffold.model { request with fields }).attempt project.scaffold.store fs).2 =
        .ok "_CLASS_NAME_Tests") :
      project.scaffold.KeepsTests { request with fields } fs := by
    intro file between hm
    rw [hm] at h
    exact h.trans (eq_ok_of_toOption (by decide +kernel)).symm
  have hmade : (project.attemptModel request false fs).1.isOk = true ∧
      (project.attemptModel request false fs).2.readText (project.testsPath request.entity none) =
        .ok "PostTests" := by decide +kernel
  obtain ⟨report, hrun⟩ := exists_of_isOk hmade.1
  obtain ⟨report', after', content, hother, hresult, hread, hread'⟩ :=
    (tests_agree project request fs).2.2 [⟨"title", "string"⟩] []
      (hkeeps [] (eq_ok_of_toOption (by decide +kernel)))
      (hkeeps [⟨"title", "string"⟩] (eq_ok_of_toOption (by decide +kernel))) report _ hrun
  obtain rfl := Except.ok.inj (hmade.2.symm.trans hread)
  exact ⟨report, report', _, after', hrun, hother, hresult, hread, hread'⟩

/-- A layout that sends the model of an entity over the template of the tests. The tests that are
made then are the model once more, with its fields. -/
theorem tests_with_fields :
    let config := "[layout]\nmodels_dir = \"own\"\ntests_dir = \"tests\"\n" ++
      "extension = \"template\"\n\n[templates]\ndir = \"own\"\n"
    let fs := ((FileSystem.empty.put ["forge.toml"] (.file (.text config))).put ["own"]
      .directory).put ["Model.template", "own"] (.file (.text "_DEFAULT_INIT_PARAMS_"))
    let request : Request := ⟨⟨"tests"⟩, [], []⟩
    ∃ project report report' after after', opened ⟨"."⟩ none none fs = .ok project ∧
      project.attemptModel request false fs = (.ok report, after) ∧
      project.attemptModel { request with fields := [⟨"a", "string"⟩] } false fs =
        (.ok report', after') ∧
      after.readText (project.testsPath request.entity none) = .ok "" ∧
      after'.readText (project.testsPath request.entity none) = .ok "a:String" := by
  intro config fs request
  let project : Project := ⟨⟨"."⟩, ⟨⟨⟨"own"⟩, ⟨"tests"⟩, "template"⟩, some ⟨"own"⟩⟩,
    { directory := some ⟨"./own"⟩ }⟩
  let other : Request := { request with fields := [⟨"a", "string"⟩] }
  have hopened : opened ⟨"."⟩ none none fs = .ok project := eq_ok_of_toOption (by decide +kernel)
  have hmade : (project.attemptModel request false fs).1.isOk = true ∧
      (project.attemptModel other false fs).1.isOk = true ∧
      (project.attemptModel request false fs).2.readText (project.testsPath request.entity none) =
        .ok "" ∧
      (project.attemptModel other false fs).2.readText (project.testsPath request.entity none) =
        .ok "a:String" := by decide +kernel
  obtain ⟨hok, hok', hread, hread'⟩ := hmade
  obtain ⟨report, hrun⟩ := exists_of_isOk hok
  obtain ⟨report', hrun'⟩ := exists_of_isOk hok'
  exact ⟨project, report, report', _, _, hopened, hrun, hrun', hread, hread'⟩

end Project

end EntityScaffold
