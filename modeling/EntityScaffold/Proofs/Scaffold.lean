import EntityScaffold.Proofs.Generation
import EntityScaffold.Scaffold

/-!
Making a model and its tests. A run that fails does so in one of three ways, each with its own
failure and its own traces; and what a run writes is what was shown before it.
-/

namespace EntityScaffold.Scaffold

variable {scaffold : Scaffold} {request : Request} {fs after : FileSystem} {failure : Failure}

/-- Both files as they would be written. -/
def shown (scaffold : Scaffold) (request : Request) (fs : FileSystem) :
    Except Failure (List Preview) :=
  ((scaffold.preview request : ExceptT Failure (StateM FileSystem) (List Preview)).run fs).1

theorem run_preview_eq (scaffold : Scaffold) (request : Request) (fs : FileSystem) :
    (scaffold.preview request : ExceptT Failure (StateM FileSystem) (List Preview)).run fs =
      (((scaffold.model request).shown scaffold.store fs).bind fun model =>
        ((scaffold.tests request).shown scaffold.store fs).map fun tests => [model, tests], fs) := by
  rw [preview, run_bind, Generator.run_preview]
  cases (scaffold.model request).shown scaffold.store fs with
  | error failure => rfl
  | ok model =>
    dsimp only
    rw [run_bind, Generator.run_preview]
    cases (scaffold.tests request).shown scaffold.store fs <;> rfl

/-- Showing the files changes nothing. -/
theorem run_preview (scaffold : Scaffold) (request : Request) (fs : FileSystem) :
    (scaffold.preview request : ExceptT Failure (StateM FileSystem) (List Preview)).run fs =
      (scaffold.shown request fs, fs) := by
  rw [shown, run_preview_eq]

theorem shown_eq (scaffold : Scaffold) (request : Request) (fs : FileSystem) :
    scaffold.shown request fs =
      ((scaffold.model request).shown scaffold.store fs).bind fun model =>
        ((scaffold.tests request).shown scaffold.store fs).map fun tests => [model, tests] := by
  rw [shown, run_preview_eq]

theorem shown_of_loaded {model tests : String} (hm : scaffold.store.loaded "Model" fs = .ok model)
    (ht : scaffold.store.loaded "Tests" fs = .ok tests) :
    scaffold.shown request fs =
      .ok [⟨(scaffold.model request).destination,
          (scaffold.model request).bindings.substitute model⟩,
        ⟨(scaffold.tests request).destination,
          (scaffold.tests request).bindings.substitute tests⟩] := by
  have hmodel : scaffold.store.loaded (scaffold.model request).templateName fs = .ok model := hm
  have htests : scaffold.store.loaded (scaffold.tests request).templateName fs = .ok tests := ht
  rw [shown_eq, Generator.shown, Generator.shown, hmodel, htests]
  rfl

theorem shown_ok {previews : List Preview} (h : scaffold.shown request fs = .ok previews) :
    ∃ model tests, (scaffold.model request).shown scaffold.store fs = .ok model ∧
      (scaffold.tests request).shown scaffold.store fs = .ok tests ∧ previews = [model, tests] := by
  rw [shown_eq] at h
  cases hm : (scaffold.model request).shown scaffold.store fs with
  | error failure =>
    rw [hm] at h
    cases h
  | ok model =>
    cases ht : (scaffold.tests request).shown scaffold.store fs with
    | error failure =>
      rw [hm, ht] at h
      cases h
    | ok tests =>
      rw [hm, ht] at h
      cases h
      exact ⟨model, tests, rfl, rfl, rfl⟩

/-- What becomes of both files, and the file system they leave. -/
def attempt (scaffold : Scaffold) (request : Request) (fs : FileSystem) :
    Except Failure ScaffoldedFiles × FileSystem :=
  (scaffold.run request : ExceptT Failure (StateM FileSystem) ScaffoldedFiles).run fs

/-- A run ends with its model, or with its tests. -/
inductive Ends (scaffold : Scaffold) (request : Request) (fs : FileSystem) :
    Except Failure ScaffoldedFiles × FileSystem → Prop where
  | inModel {failure : Failure} {after : FileSystem}
    (model : (scaffold.model request).attempt scaffold.store fs = (.error failure, after)) :
    Ends scaffold request fs (.error failure, after)
  | inTests {file : WrittenFile} {between : FileSystem} {failure : Failure} {after : FileSystem}
    (model : (scaffold.model request).attempt scaffold.store fs = (.ok file, between))
    (tests : (scaffold.tests request).attempt scaffold.store between = (.error failure, after)) :
    Ends scaffold request fs (.error failure, after)
  | complete {file other : WrittenFile} {between after : FileSystem}
    (model : (scaffold.model request).attempt scaffold.store fs = (.ok file, between))
    (tests : (scaffold.tests request).attempt scaffold.store between = (.ok other, after)) :
    Ends scaffold request fs (.ok ⟨file, other⟩, after)

theorem attempt_ends (scaffold : Scaffold) (request : Request) (fs : FileSystem) :
    Ends scaffold request fs (scaffold.attempt request fs) := by
  rw [attempt, run, run_bind]
  rcases hm : (scaffold.model request).attempt scaffold.store fs with ⟨model, between⟩
  have hmodel := hm
  rw [Generator.attempt] at hm
  rw [hm]
  cases model with
  | error failure => exact .inModel hmodel
  | ok file =>
    dsimp only
    rw [run_bind]
    rcases ht : (scaffold.tests request).attempt scaffold.store between with ⟨tests, after⟩
    have htests := ht
    rw [Generator.attempt] at ht
    rw [ht]
    cases tests with
    | error failure => exact .inTests hmodel htests
    | ok other => exact .complete hmodel htests

/-- A run adds folders on the ways of its files, and may give the files a content. -/
theorem within_attempt (scaffold : Scaffold) (request : Request) (fs : FileSystem) :
    FileSystem.Within [(scaffold.model request).destination, (scaffold.tests request).destination]
      fs (scaffold.attempt request fs).2 := by
  have hends := scaffold.attempt_ends request fs
  generalize scaffold.attempt request fs = result at hends
  cases hends with
  | inModel model => exact (Generator.within_attempt model).mono (by simp)
  | inTests model tests =>
    exact ((Generator.within_attempt model).mono (by simp)).trans
      ((Generator.within_attempt tests).mono (by simp))
  | complete model tests =>
    exact ((Generator.within_attempt model).mono (by simp)).trans
      ((Generator.within_attempt tests).mono (by simp))

/-! ### Failing -/

/-- The template of the model was not loaded, and nothing was done. -/
structure Unloaded (scaffold : Scaffold) (request : Request) (fs after : FileSystem)
    (failure : Failure) : Prop where
  loading : scaffold.store.loaded "Model" fs = .error failure
  unchanged : after = fs

/-- The model was not written. All that was made are folders on its way. -/
structure Unwritten (scaffold : Scaffold) (request : Request) (fs after : FileSystem)
    (failure : Failure) : Prop where
  writing : ∃ model problem, (scaffold.model request).shown scaffold.store fs = .ok model ∧
    fs.write (scaffold.model request).destination (.text model.content) = (.error problem, after)
  reason : failure = .unwritable (scaffold.model request).destination
  confined : FileSystem.Confined (· ∈ fs.way (scaffold.model request).destination)
    (fun _ _ => False) fs after

/-- The model was written as a whole, and its tests were not. Beyond the model all that was made
are folders on the way of the tests. -/
structure Untested (scaffold : Scaffold) (request : Request) (fs after : FileSystem)
    (failure : Failure) : Prop where
  written : ∃ model between, (scaffold.model request).shown scaffold.store fs = .ok model ∧
    fs.write (scaffold.model request).destination (.text model.content) = (.ok (), between) ∧
    after.node? (fs.destination (scaffold.model request).destination) =
      some (.file (.text model.content)) ∧
    FileSystem.Confined (· ∈ fs.way (scaffold.model request).destination)
      (fun place found => place = fs.destination (scaffold.model request).destination ∧
        found = .text model.content) fs between ∧
    FileSystem.Confined (· ∈ fs.way (scaffold.tests request).destination) (fun _ _ => False)
      between after
  reason : failure = .templateNotFound "Tests" (scaffold.store.places "Tests") ∨
    (∃ dir, scaffold.store.directory = some dir ∧
      failure = .unreadable (Template.Store.templatePath dir "Tests")) ∨
    failure = .unwritable (scaffold.tests request).destination

theorem unloaded_or_unwritten
    (h : (scaffold.model request).attempt scaffold.store fs = (.error failure, after)) :
    Unloaded scaffold request fs after failure ∨ Unwritten scaffold request fs after failure := by
  rcases Generator.attempt_error h with ⟨hs, hsame⟩ | ⟨hreason, model, problem, hs, hwrite⟩
  · exact .inl ⟨Generator.shown_error_iff.mp hs, hsame⟩
  · exact .inr ⟨⟨model, problem, hs, hwrite⟩, hreason, FileSystem.confined_of_write_error hwrite⟩

/-- The tests fail for a reason of their own, and leave folders on their way at most. -/
theorem tests_failure {between : FileSystem}
    (h : (scaffold.tests request).attempt scaffold.store between = (.error failure, after)) :
    FileSystem.Confined (· ∈ between.way (scaffold.tests request).destination) (fun _ _ => False)
        between after ∧
      (failure = .templateNotFound "Tests" (scaffold.store.places "Tests") ∨
        (∃ dir, scaffold.store.directory = some dir ∧
          failure = .unreadable (Template.Store.templatePath dir "Tests")) ∨
        failure = .unwritable (scaffold.tests request).destination) := by
  rcases Generator.attempt_error h with ⟨hs, rfl⟩ | ⟨hreason, tests, problem, -, hwrite⟩
  · refine ⟨.refl _, ?_⟩
    rcases Template.Store.loaded_error (Generator.shown_error_iff.mp hs) with hn | hr
    · exact .inl hn
    · exact .inr (.inl hr)
  · exact ⟨FileSystem.confined_of_write_error hwrite, .inr (.inr hreason)⟩

theorem untested {file : WrittenFile} {between : FileSystem}
    (hm : (scaffold.model request).attempt scaffold.store fs = (.ok file, between))
    (ht : (scaffold.tests request).attempt scaffold.store between = (.error failure, after)) :
    Untested scaffold request fs after failure := by
  obtain ⟨hfolders, hreason⟩ := tests_failure ht
  obtain ⟨model, hs, -, hwrite⟩ := Generator.attempt_ok hm
  have hc := FileSystem.confined_of_write_ok hwrite
  rw [hc.way_eq] at hfolders
  have hnode := FileSystem.node?_write (congrArg Prod.fst hwrite)
  rw [hwrite] at hnode
  exact ⟨⟨model, between, hs, hwrite, (hfolders.file hnode).resolve_right (by simp), hc,
    hfolders⟩, hreason⟩

theorem ways_of_failure (h : scaffold.attempt request fs = (.error failure, after)) :
    Unloaded scaffold request fs after failure ∨ Unwritten scaffold request fs after failure ∨
      Untested scaffold request fs after failure := by
  have hends := scaffold.attempt_ends request fs
  rw [h] at hends
  cases hends with
  | inModel model =>
    rcases unloaded_or_unwritten model with hu | hw
    · exact .inl hu
    · exact .inr (.inl hw)
  | inTests model tests => exact .inr (.inr (untested model tests))

theorem Unloaded.not_shown (h : Unloaded scaffold request fs after failure) (model : Preview) :
    (scaffold.model request).shown scaffold.store fs ≠ .ok model := by
  rw [Generator.shown_error_iff.mpr h.loading]
  exact nofun

theorem Unloaded.not_unwritten (h : Unloaded scaffold request fs after failure) :
    ¬ Unwritten scaffold request fs after failure := by
  intro hw
  obtain ⟨model, problem, hs, -⟩ := hw.writing
  exact h.not_shown model hs

theorem Unloaded.not_untested (h : Unloaded scaffold request fs after failure) :
    ¬ Untested scaffold request fs after failure := by
  intro ht
  obtain ⟨model, between, hs, -⟩ := ht.written
  exact h.not_shown model hs

theorem Unwritten.not_untested (h : Unwritten scaffold request fs after failure) :
    ¬ Untested scaffold request fs after failure := by
  intro ht
  obtain ⟨model, problem, hs, hwrite⟩ := h.writing
  obtain ⟨other, between, hs', hwrite', -⟩ := ht.written
  obtain rfl := Except.ok.inj (hs.symm.trans hs')
  simp [hwrite] at hwrite'

/-- No file is left half written: it is as it was, or it is the model. -/
theorem file_of_failure (h : scaffold.attempt request fs = (.error failure, after))
    {place : Location} {content : Content} (hf : after.node? place = some (.file content)) :
    fs.node? place = some (.file content) ∨
      place = fs.destination (scaffold.model request).destination ∧
        ∃ model, (scaffold.model request).shown scaffold.store fs = .ok model ∧
          content = .text model.content := by
  rcases ways_of_failure h with hu | hw | ht
  · exact .inl (hu.unchanged ▸ hf)
  · exact .inl ((hw.confined.file_before hf).resolve_right (by simp))
  · obtain ⟨model, between, hs, -, -, hmodel, htests⟩ := ht.written
    have hbetween := (htests.file_before hf).resolve_right (by simp)
    rcases hmodel.file_before hbetween with hsame | ⟨hp, hc⟩
    · exact .inl hsame
    · exact .inr ⟨hp, model, hs, hc⟩

/-- A run that fails ends in exactly one of three ways. In each of them all that was there still
is, and every file is either as it was or holds the whole model. -/
theorem attempt_failure (h : scaffold.attempt request fs = (.error failure, after)) :
    (Unloaded scaffold request fs after failure ∨ Unwritten scaffold request fs after failure ∨
      Untested scaffold request fs after failure) ∧
    ¬ (Unloaded scaffold request fs after failure ∧ Unwritten scaffold request fs after failure) ∧
    ¬ (Unloaded scaffold request fs after failure ∧ Untested scaffold request fs after failure) ∧
    ¬ (Unwritten scaffold request fs after failure ∧
      Untested scaffold request fs after failure) ∧
    FileSystem.Keeps fs after ∧
    ∀ place content, after.node? place = some (.file content) →
      fs.node? place = some (.file content) ∨
        place = fs.destination (scaffold.model request).destination ∧
          ∃ model, (scaffold.model request).shown scaffold.store fs = .ok model ∧
            content = .text model.content := by
  have hwithin := scaffold.within_attempt request fs
  rw [h] at hwithin
  exact ⟨ways_of_failure h, fun ⟨hu, hw⟩ => hu.not_unwritten hw,
    fun ⟨hu, ht⟩ => hu.not_untested ht, fun ⟨hw, ht⟩ => hw.not_untested ht, hwithin.keeps,
    fun _ _ hf => file_of_failure h hf⟩

/-- A directory where the template of the tests is looked for lets a run end with its model. -/
theorem attempt_failure_unreadable_tests :
    let scaffold : Scaffold := ⟨⟨"app"⟩, {}, { directory := some ⟨"own"⟩ }⟩
    let request : Request := ⟨⟨"post"⟩, [], []⟩
    let fs := (FileSystem.empty.put ["own"] .directory).put ["Tests.template", "own"] .directory
    ∃ failure after, scaffold.attempt request fs = (.error failure, after) ∧
      Untested scaffold request fs after failure := by
  intro scaffold request fs
  let place : Location := ["Post.swift", "Models", "App", "Sources", "app"]
  have hfails : (scaffold.attempt request fs).1.isOk = false ∧ fs.node? place = none ∧
      (scaffold.attempt request fs).2.node? place ≠ none ∧
      (scaffold.attempt request fs).2.node? place ≠ some .directory := by decide +kernel
  rcases hrun : scaffold.attempt request fs with ⟨result, after⟩
  rw [hrun] at hfails
  obtain ⟨hresult, hbefore, hthere, hfile⟩ := hfails
  cases result with
  | ok files => cases hresult
  | error failure =>
    refine ⟨failure, after, rfl, ?_⟩
    rcases (attempt_failure hrun).1 with hu | hw | ht
    · rw [hu.unchanged] at hthere
      exact absurd hbefore hthere
    · have hplace := hw.confined.change place
      rw [hbefore] at hplace
      generalize after.node? place = new at hplace hthere hfile
      cases hplace with
      | same => exact absurd rfl hthere
      | folder => exact absurd rfl hfile
      | content _ hno => exact hno.elim
    · exact ht

/-! ### Showing first -/

/-- The template of the tests is the same after the model was written. -/
def KeepsTests (scaffold : Scaffold) (request : Request) (fs : FileSystem) : Prop :=
  ∀ file between, (scaffold.model request).attempt scaffold.store fs = (.ok file, between) →
    scaffold.store.loaded "Tests" between = scaffold.store.loaded "Tests" fs

theorem keepsTests_builtin (h : scaffold.store.directory = none) :
    scaffold.KeepsTests request fs := by
  intro file between _
  rw [Template.Store.loaded_eq, Template.Store.loaded_eq, h]

theorem KeepsTests.shown (h : scaffold.KeepsTests request fs) {file : WrittenFile}
    {between : FileSystem}
    (hm : (scaffold.model request).attempt scaffold.store fs = (.ok file, between)) :
    (scaffold.tests request).shown scaffold.store between =
      (scaffold.tests request).shown scaffold.store fs := by
  have hl : scaffold.store.loaded (scaffold.tests request).templateName between =
      scaffold.store.loaded (scaffold.tests request).templateName fs := h file between hm
  rw [Generator.shown, Generator.shown, hl]

/-- A run that ends well has written what was shown. -/
theorem KeepsTests.foretold (hkeeps : scaffold.KeepsTests request fs) {files : ScaffoldedFiles}
    (h : scaffold.attempt request fs = (.ok files, after)) :
    ∃ model tests, scaffold.shown request fs = .ok [model, tests] ∧
      files.model.path = model.path ∧ files.tests.path = tests.path ∧
      after.readText tests.path = .ok tests.content ∧
      after.readText model.path =
        .ok (if after.resolve model.path = after.resolve tests.path then tests.content
          else model.content) := by
  have hends := scaffold.attempt_ends request fs
  rw [h] at hends
  cases hends with
  | complete hmodel htests =>
    obtain ⟨model, hm, hmp, hmw⟩ := Generator.attempt_ok hmodel
    obtain ⟨tests, ht, htp, htw⟩ := Generator.attempt_ok htests
    rw [hkeeps.shown hmodel] at ht
    have hpaths := Generator.shown_path hm
    have hpatht := Generator.shown_path ht
    refine ⟨model, tests, by rw [shown_eq, hm, ht]; rfl, by rw [hmp, hpaths],
      by rw [htp, hpatht], ?_⟩
    rw [hpaths, hpatht]
    exact FileSystem.readText_of_writes hmw htw

/-- Once both files were shown, a run fails only in writing one of them. -/
theorem KeepsTests.refused (hkeeps : scaffold.KeepsTests request fs) {previews : List Preview}
    (hs : scaffold.shown request fs = .ok previews)
    (h : scaffold.attempt request fs = (.error failure, after)) :
    ∃ preview ∈ previews, failure = .unwritable preview.path := by
  obtain ⟨model, tests, hm, ht, rfl⟩ := shown_ok hs
  have hends := scaffold.attempt_ends request fs
  rw [h] at hends
  cases hends with
  | inModel hmodel =>
    rcases Generator.attempt_error hmodel with ⟨he, -⟩ | ⟨hreason, -⟩
    · simp [hm] at he
    · exact ⟨model, by simp, by rw [hreason, Generator.shown_path hm]⟩
  | inTests hmodel htests =>
    rcases Generator.attempt_error htests with ⟨he, -⟩ | ⟨hreason, -⟩
    · simp [hkeeps.shown hmodel, ht] at he
    · exact ⟨tests, by simp, by rw [hreason, Generator.shown_path ht]⟩

/-- A run of what cannot be shown fails for the same reason, unless the model cannot be written
either. -/
theorem KeepsTests.refused_unshown (hkeeps : scaffold.KeepsTests request fs)
    (hs : scaffold.shown request fs = .error failure) :
    ∃ other after, scaffold.attempt request fs = (.error other, after) ∧
      (other = failure ∨ other = .unwritable (scaffold.model request).destination) := by
  have hends := scaffold.attempt_ends request fs
  generalize hrun : scaffold.attempt request fs = result at hends
  cases hends with
  | inModel hmodel =>
    refine ⟨_, _, rfl, ?_⟩
    rcases Generator.attempt_error hmodel with ⟨he, -⟩ | ⟨hreason, -⟩
    · rw [shown_eq, he] at hs
      exact .inl (Except.error.inj hs)
    · exact .inr hreason
  | inTests hmodel htests =>
    refine ⟨_, _, rfl, .inl ?_⟩
    obtain ⟨model, hm, -⟩ := Generator.attempt_ok hmodel
    rw [shown_eq, hm, ← hkeeps.shown hmodel] at hs
    rcases Generator.attempt_error htests with ⟨he, -⟩ | ⟨-, tests, problem, ht, -⟩
    · rw [he] at hs
      exact Except.error.inj hs
    · rw [ht] at hs
      cases hs
  | complete =>
    obtain ⟨model, tests, hshown, -⟩ := hkeeps.foretold hrun
    simp [hs] at hshown

/-- What is shown of a request is what making its files writes, as long as the template of the
tests is not written over on the way. -/
theorem shown_foretells (scaffold : Scaffold) (request : Request) (fs : FileSystem) :
    (scaffold.store.directory = none → scaffold.KeepsTests request fs) ∧
    (scaffold.KeepsTests request fs →
      (∀ files after, scaffold.attempt request fs = (.ok files, after) →
        ∃ model tests, scaffold.shown request fs = .ok [model, tests] ∧
          files.model.path = model.path ∧ files.tests.path = tests.path ∧
          after.readText tests.path = .ok tests.content ∧
          after.readText model.path =
            .ok (if after.resolve model.path = after.resolve tests.path then tests.content
              else model.content)) ∧
      (∀ previews failure after, scaffold.shown request fs = .ok previews →
        scaffold.attempt request fs = (.error failure, after) →
        ∃ preview ∈ previews, failure = .unwritable preview.path) ∧
      ∀ failure, scaffold.shown request fs = .error failure →
        ∃ other after, scaffold.attempt request fs = (.error other, after) ∧
          (other = failure ∨ other = .unwritable (scaffold.model request).destination)) :=
  ⟨keepsTests_builtin, fun hkeeps =>
    ⟨fun _ _ h => hkeeps.foretold h, fun _ _ _ hs h => hkeeps.refused hs h,
      fun _ hs => hkeeps.refused_unshown hs⟩⟩

/-- An extension with a step up in it brings both files to one place. -/
theorem shown_foretells_one_place :
    let scaffold : Scaffold :=
      ⟨⟨"app"⟩, { modelsDir := ⟨"src"⟩, testsDir := ⟨"src"⟩, extension := "d/../One" }, {}⟩
    let request : Request := ⟨⟨"post"⟩, [], []⟩
    ∃ files after model tests, scaffold.attempt request .empty = (.ok files, after) ∧
      scaffold.shown request .empty = .ok [model, tests] ∧ model.path ≠ tests.path ∧
      after.readText model.path = .ok tests.content := by
  intro scaffold request
  have hends : (scaffold.attempt request .empty).1.isOk = true ∧
      (scaffold.attempt request .empty).2.resolve (scaffold.model request).destination =
        (scaffold.attempt request .empty).2.resolve (scaffold.tests request).destination ∧
      (scaffold.model request).destination ≠ (scaffold.tests request).destination := by
    decide +kernel
  rcases hrun : scaffold.attempt request .empty with ⟨result, after⟩
  rw [hrun] at hends
  obtain ⟨hresult, hplace, hpaths⟩ := hends
  cases result with
  | error failure => cases hresult
  | ok files =>
    obtain ⟨hbuiltin, hforetells⟩ := shown_foretells scaffold request .empty
    obtain ⟨model, tests, hshown, -, -, -, hread⟩ := (hforetells (hbuiltin rfl)).1 files after hrun
    obtain ⟨_, _, hm, ht, heq⟩ := shown_ok hshown
    simp only [List.cons.injEq, and_true] at heq
    obtain ⟨rfl, rfl⟩ := heq
    rw [Generator.shown_path hm, Generator.shown_path ht, if_pos hplace] at hread
    refine ⟨files, after, model, tests, rfl, hshown, ?_, ?_⟩
    · rw [Generator.shown_path hm, Generator.shown_path ht]
      exact hpaths
    · rw [Generator.shown_path hm]
      exact hread

end EntityScaffold.Scaffold
