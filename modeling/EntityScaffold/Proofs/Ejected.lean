import EntityScaffold.Proofs.Project
import EntityScaffold.Proofs.Settings
import EntityScaffold.Proofs.Setup

/-!
Setting up a project does not change what is made in it: the project that is opened afterwards
finds its settings and its templates in the new files, and they say what held without them.
-/

namespace EntityScaffold.Project
open Template.Store (loaded_default)

variable {root : Path} {templatesDir : Option Path} {fs : FileSystem}

/-- The project that setting up is to leave: its own templates, and all else as by default. -/
def ejected (root : Path) (templatesDir : Option Path) : Project :=
  let dir := templatesDir.getD Settings.standardTemplatesDir
  { root
    settings := { layout := {}, templatesDir := some dir }
    store := { directory := some (root.join dir) } }

/-- The file where a template is put. -/
def ejectedPath (root : Path) (templatesDir : Option Path) (name : String) : Path :=
  Template.Store.templatePath (root.join (templatesDir.getD Settings.standardTemplatesDir)) name

theorem opened_default (h : fs.readText (root.join Settings.fileName) = .error .notFound) :
    opened root none none fs = .ok ⟨root, {}, {}⟩ := by
  rw [opened_own, Settings.inFileOrDefault, h]
  rfl

theorem opened_ejected
    (h : fs.readText (root.join Settings.fileName) =
      .ok (Settings.fileContent (templatesDir.getD Settings.standardTemplatesDir))) :
    opened root none none fs = .ok (ejected root templatesDir) := by
  rw [opened_own, Settings.inFileOrDefault, h]
  dsimp only [Settings.parseFile]
  rw [Settings.parse_fileContent]
  rfl

theorem loaded_ejected {name text : String}
    (h : fs.readText (ejectedPath root templatesDir name) = .ok text) :
    (ejected root templatesDir).store.loaded name fs = .ok text := by
  rw [Template.Store.loaded_eq]
  dsimp only [ejected]
  rw [ejectedPath] at h
  rw [h]

theorem mem_builtin {name : String} (h : name ∈ ["Model", "Tests"]) :
    ∃ text, Template.builtin.lookup name = some text ∧ (name, text) ∈ Template.builtin := by
  simp only [List.mem_cons, List.not_mem_nil, or_false] at h
  rcases h with rfl | rfl
  · exact ⟨_, rfl, List.mem_cons_self ..⟩
  · exact ⟨_, rfl, List.mem_cons_of_mem _ (List.mem_cons_self ..)⟩

/-- What the files hold after all of them were created. -/
theorem readText_after_setup {after : FileSystem}
    (h : (setup root templatesDir : ExceptT SetupFailure (StateM FileSystem) SetupReport).run fs =
      (.ok ⟨root, (setupFiles root templatesDir).map fun file => ⟨file.path, .created⟩⟩, after)) :
    fs.readText (root.join Settings.fileName) = .error .notFound ∧
      after.readText (root.join Settings.fileName) =
        .ok (Settings.fileContent (templatesDir.getD Settings.standardTemplatesDir)) ∧
      ∀ template ∈ Template.builtin,
        after.readText (ejectedPath root templatesDir template.1) = .ok template.2 := by
  rw [run_setup] at h
  rcases hrun : runAll (setupFiles root templatesDir) fs with ⟨written, left⟩
  rw [hrun] at h
  cases written with
  | error failure => cases h
  | ok written =>
    obtain ⟨rfl, rfl⟩ : written = (setupFiles root templatesDir).map (fun file =>
        ⟨file.path, .created⟩) ∧ left = after :=
      ⟨congrArg SetupReport.files (Except.ok.inj (congrArg Prod.fst h)), congrArg Prod.snd h⟩
    obtain ⟨hread, hmissing⟩ := readText_of_created (setupFiles_nodup root templatesDir fs) hrun
    let settings : OutputFile := {
      path := root.join Settings.fileName
      content := Settings.fileContent (templatesDir.getD Settings.standardTemplatesDir)
      overwrite := .ifMissing }
    refine ⟨hmissing settings (Option.mem_some_self _), hread settings (List.mem_cons_self ..), ?_⟩
    rintro ⟨name, text⟩ ht
    let template : OutputFile := {
      path := ejectedPath root templatesDir name
      content := text
      overwrite := .ifMissing }
    have hmem : template ∈ setupFiles root templatesDir :=
      List.mem_cons_of_mem _ (List.mem_map.mpr ⟨(name, text), ht, rfl⟩)
    exact hread template hmem

/-- Of a project that was set up with all its files created, the new settings and the new templates
are read, and what is shown of every request is what was shown before. -/
theorem opened_after_setup (root : Path) (templatesDir : Option Path) (fs after : FileSystem)
    (h : (setup root templatesDir : ExceptT SetupFailure (StateM FileSystem) SetupReport).run fs =
      (.ok ⟨root, (setupFiles root templatesDir).map fun file => ⟨file.path, .created⟩⟩, after)) :
    opened root none none after = .ok (ejected root templatesDir) ∧
      (∀ name ∈ ["Model", "Tests"], ∃ text, Template.builtin.lookup name = some text ∧
        after.readText (ejectedPath root templatesDir name) = .ok text ∧
        (ejected root templatesDir).store.loaded name after = .ok text) ∧
      ∃ before, opened root none none fs = .ok before ∧
        ∀ request, ∃ files, before.scaffold.shown request fs = .ok files ∧
          (ejected root templatesDir).scaffold.shown request after = .ok files := by
  obtain ⟨hmissing, hsettings, htemplates⟩ := readText_after_setup h
  have hloaded : ∀ name ∈ ["Model", "Tests"], ∃ text, Template.builtin.lookup name = some text ∧
      after.readText (ejectedPath root templatesDir name) = .ok text ∧
      (ejected root templatesDir).store.loaded name after = .ok text := by
    intro name hn
    obtain ⟨text, hlookup, ht⟩ := mem_builtin hn
    have hread := htemplates (name, text) ht
    exact ⟨text, hlookup, hread, loaded_ejected hread⟩
  refine ⟨opened_ejected hsettings, hloaded, _, opened_default hmissing, fun request => ?_⟩
  obtain ⟨model, hm, -, hm'⟩ := hloaded "Model" (by simp)
  obtain ⟨tests, ht, -, ht'⟩ := hloaded "Tests" (by simp)
  exact ⟨_, Scaffold.shown_of_loaded (loaded_default hm) (loaded_default ht),
    Scaffold.shown_of_loaded hm' ht'⟩

/-- A directory whose name has to be quoted. -/
theorem opened_after_setup_quoted :
    let root : Path := ⟨"a/../b"⟩
    let templatesDir : Option Path := some ⟨"\"own\"\\#"⟩
    let after := ((setup root templatesDir :
      ExceptT SetupFailure (StateM FileSystem) SetupReport).run .empty).2
    opened root none none after = .ok (ejected root templatesDir) := by
  intro root templatesDir after
  have hcreated : ((setup root templatesDir :
      ExceptT SetupFailure (StateM FileSystem) SetupReport).run .empty).1 =
        .ok ⟨root, (setupFiles root templatesDir).map fun file => ⟨file.path, .created⟩⟩ := by
    decide +kernel
  exact (opened_after_setup root templatesDir .empty after (Prod.ext hcreated rfl)).1

end EntityScaffold.Project
