import EntityScaffold.Proofs.FileSystem.Reading
import EntityScaffold.Proofs.Project

/-!
Which settings a project is opened with, and where its templates come from. Each layer gives way to
the next one only where its file is absent; a file that cannot be read ends the search.
-/

namespace EntityScaffold

namespace Template.Store

variable {fs other : FileSystem} {name : String} {directory : Option Path} {dir : Path}
  {result : Except Failure String}

/-- What loading a template from a directory and the built-in templates comes to. -/
inductive Loads (fs : FileSystem) (name : String) : Option Path → Except Failure String → Prop where
  | own {dir : Path} {text : String} (read : fs.readText (templatePath dir name) = .ok text) :
    Loads fs name (some dir) (.ok text)
  | builtin {directory : Option Path} {text : String}
      (absent : ∀ dir ∈ directory, fs.Absent (templatePath dir name))
      (known : Template.builtin.lookup name = some text) : Loads fs name directory (.ok text)
  | unreadable {dir : Path} (unreadable : fs.Unreadable (templatePath dir name)) :
    Loads fs name (some dir) (.error (.unreadable (templatePath dir name)))
  | nowhere {directory : Option Path}
      (absent : ∀ dir ∈ directory, fs.Absent (templatePath dir name))
      (unknown : Template.builtin.lookup name = none) :
    Loads fs name directory (.error (.templateNotFound name
      ((directory.map fun dir => "'" ++ (templatePath dir name).text ++ "'").toList ++
        ["the built-in templates"])))

theorem loaded_unreadable (h : fs.Unreadable (templatePath dir name)) :
    ({ directory := some dir } : Store).loaded name fs =
      .error (.unreadable (templatePath dir name)) := by
  obtain ⟨problem, hread, hne⟩ := h.readText
  rw [loaded_eq]
  dsimp only
  rw [hread]
  cases problem with
  | notFound => exact absurd rfl hne
  | _ => rfl

theorem loaded_absent (h : ∀ dir ∈ directory, fs.Absent (templatePath dir name)) :
    ({ directory } : Store).loaded name fs = ({ directory } : Store).loadBuiltin name := by
  rw [loaded_eq]
  cases directory with
  | none => rfl
  | some dir =>
    dsimp only
    rw [(h dir rfl).readText]

theorem loadBuiltin_known {text : String} (h : Template.builtin.lookup name = some text) :
    ({ directory } : Store).loadBuiltin name = .ok text := by
  rw [loadBuiltin]
  dsimp only
  rw [if_pos rfl, h]

theorem loadBuiltin_unknown (h : Template.builtin.lookup name = none) :
    ({ directory } : Store).loadBuiltin name = .error (.templateNotFound name
      ((directory.map fun dir => "'" ++ (templatePath dir name).text ++ "'").toList ++
        ["the built-in templates"])) := by
  rw [loadBuiltin]
  dsimp only
  rw [if_pos rfl, h]
  cases directory <;> rfl

theorem Loads.loaded (h : Loads fs name directory result) :
    ({ directory } : Store).loaded name fs = result := by
  cases h with
  | own read =>
    rw [loaded_eq]
    dsimp only
    rw [read]
  | builtin absent known => rw [loaded_absent absent, loadBuiltin_known known]
  | unreadable unreadable => exact loaded_unreadable unreadable
  | nowhere absent unknown => rw [loaded_absent absent, loadBuiltin_unknown unknown]

theorem exists_loads (fs : FileSystem) (name : String) (directory : Option Path) :
    ∃ result, Loads fs name directory result := by
  have hbuiltin (absent : ∀ dir ∈ directory, fs.Absent (templatePath dir name)) :
      ∃ result, Loads fs name directory result := by
    cases hl : Template.builtin.lookup name with
    | none => exact ⟨_, .nowhere absent hl⟩
    | some text => exact ⟨_, .builtin absent hl⟩
  cases directory with
  | none => exact hbuiltin (by simp)
  | some dir =>
    by_cases hread : ∃ text, fs.readText (templatePath dir name) = .ok text
    · obtain ⟨text, hread⟩ := hread
      exact ⟨_, .own hread⟩
    · rcases FileSystem.absent_or_unreadable (not_exists.mp hread) with ha | hu
      · exact hbuiltin (by simpa using ha)
      · exact ⟨_, .unreadable hu⟩

/-- The ways to load a template exclude each other, and one of them is taken. -/
theorem loaded_eq_iff : ({ directory } : Store).loaded name fs = result ↔
    Loads fs name directory result := by
  constructor
  · rintro rfl
    obtain ⟨result, h⟩ := exists_loads fs name directory
    rwa [h.loaded]
  · exact fun h => h.loaded

/-- A template depends on nothing but its own file, and if that gives no text, on whether it is
absent. -/
theorem Loads.congr (h : Loads fs name (some dir) result)
    (ht : ∀ text, fs.readText (templatePath dir name) = .ok text ↔
      other.readText (templatePath dir name) = .ok text)
    (ha : fs.Absent (templatePath dir name) ↔ other.Absent (templatePath dir name)) :
    Loads other name (some dir) result := by
  have habsent (absent : ∀ dir' ∈ some dir, fs.Absent (templatePath dir' name)) :
      ∀ dir' ∈ some dir, other.Absent (templatePath dir' name) := by
    rintro dir' ⟨⟩
    exact ha.mp (absent dir rfl)
  cases h with
  | own read => exact .own ((ht _).mp read)
  | builtin absent known => exact .builtin (habsent absent) known
  | nowhere absent unknown => exact .nowhere (habsent absent) unknown
  | unreadable unreadable =>
    obtain ⟨problem, hread, hne⟩ := unreadable.readText
    have hnone : ∀ text, other.readText (templatePath dir name) ≠ .ok text := by
      intro text hother
      rw [(ht text).mpr hother] at hread
      cases hread
    rcases FileSystem.absent_or_unreadable hnone with ha' | hu
    · rw [(ha.mpr ha').readText] at hread
      exact absurd (Except.error.inj hread).symm hne
    · exact .unreadable hu

end Template.Store

namespace Project

variable {fs other : FileSystem} {root : Path} {config templates : Option Path}
  {result : Except Failure Project}

/-- Where a project's settings are: in the file that is asked for, or else below its root. -/
def settingsPath (root : Path) (config : Option Path) : Path :=
  config.getD (root.join Settings.fileName)

/-- The directory where the templates of a project are looked for first. -/
def templatesPath (root : Path) (templates : Option Path) (settings : Settings) : Option Path :=
  (templates <|> settings.templatesDir).map root.join

/-- The project that settings make of a root. -/
def ofSettings (root : Path) (templates : Option Path) (settings : Settings) : Project :=
  ⟨root, settings, { directory := templatesPath root templates settings }⟩

/-- What opening a project comes to. -/
inductive Opens (fs : FileSystem) (root : Path) (templates : Option Path) :
    Option Path → Except Failure Project → Prop where
  | settings {config : Option Path} {content : String}
      (read : fs.readText (settingsPath root config) = .ok content) :
    Opens fs root templates config
      ((Settings.parseFile (settingsPath root config).text content).map (ofSettings root templates))
  | default (absent : fs.Absent (root.join Settings.fileName)) :
    Opens fs root templates none (.ok (ofSettings root templates {}))
  | missing {path : Path} (absent : fs.Absent path) :
    Opens fs root templates (some path) (.error (.unreadable path))
  | unreadable {config : Option Path} (unreadable : fs.Unreadable (settingsPath root config)) :
    Opens fs root templates config (.error (.unreadable (settingsPath root config)))

/-- A settings file that is asked for, by what reading it gives. -/
theorem opened_some (path : Path) :
    opened root (some path) templates fs =
      (Settings.inFile path fs).map (ofSettings root templates) := by
  rw [opened, run_openAt_eq]
  rfl

theorem opened_none :
    opened root none templates fs =
      (Settings.inFileOrDefault (root.join Settings.fileName) fs).map
        (ofSettings root templates) := by
  rw [opened_own]
  rfl

theorem Opens.opened (h : Opens fs root templates config result) :
    opened root config templates fs = result := by
  cases h with
  | settings read =>
    cases config with
    | none =>
      dsimp only [settingsPath, Option.getD_none] at read
      rw [opened_none, Settings.inFileOrDefault, read]
      rfl
    | some path =>
      dsimp only [settingsPath, Option.getD_some] at read
      rw [opened_some, Settings.inFile, read]
      rfl
  | default absent =>
    rw [opened_none, Settings.inFileOrDefault, absent.readText]
    rfl
  | missing absent =>
    rw [opened_some, Settings.inFile, absent.readText]
    rfl
  | unreadable unreadable =>
    obtain ⟨problem, hread, hne⟩ := unreadable.readText
    cases config with
    | none =>
      dsimp only [settingsPath, Option.getD_none] at hread ⊢
      rw [opened_none, Settings.inFileOrDefault, hread]
      cases problem with
      | notFound => exact absurd rfl hne
      | _ => rfl
    | some path =>
      dsimp only [settingsPath, Option.getD_some] at hread ⊢
      rw [opened_some, Settings.inFile, hread]
      rfl

theorem exists_opens (fs : FileSystem) (root : Path) (config templates : Option Path) :
    ∃ result, Opens fs root templates config result := by
  by_cases hread : ∃ content, fs.readText (settingsPath root config) = .ok content
  · obtain ⟨content, hread⟩ := hread
    exact ⟨_, .settings hread⟩
  · rcases FileSystem.absent_or_unreadable (not_exists.mp hread) with ha | hu
    · cases config with
      | none => exact ⟨_, .default ha⟩
      | some path => exact ⟨_, .missing ha⟩
    · exact ⟨_, .unreadable hu⟩

/-- The ways to open a project exclude each other, and one of them is taken. -/
theorem opened_eq_iff :
    opened root config templates fs = result ↔ Opens fs root templates config result := by
  constructor
  · rintro rfl
    obtain ⟨result, h⟩ := exists_opens fs root config templates
    rwa [h.opened]
  · exact fun h => h.opened

/-- A project that was opened looks for its templates where its settings say, unless another
directory was asked for. -/
theorem store_of_opened {project : Project} (h : opened root config templates fs = .ok project) :
    project.store = { directory := templatesPath root templates project.settings } := by
  have hsettings {read : Except Failure Settings}
      (h : read.map (ofSettings root templates) = .ok project) :
      project.store = { directory := templatesPath root templates project.settings } := by
    cases read with
    | error failure => cases h
    | ok settings =>
      cases h
      rfl
  cases config with
  | none => exact hsettings (opened_none.symm.trans h)
  | some path => exact hsettings ((opened_some path).symm.trans h)

/-- A project is opened with the settings of the file that is asked for and of no other, or of the
root's own file, which may be absent. Of a project that was opened, a template is the text of its
own file, or the built-in text if that file is absent; what cannot be read is a failure. With a
directory of templates that is asked for, the settings have no say in it. -/
theorem opened_and_loaded (root : Path) (templates : Option Path) (fs : FileSystem) :
    (∀ config result, opened root config templates fs = result ↔
      Opens fs root templates config result) ∧
    (∀ (path : Path) (other : FileSystem), other.readText path = fs.readText path →
      opened root (some path) templates other = opened root (some path) templates fs) ∧
    (∀ config project, opened root config templates fs = .ok project → ∀ name result,
      project.store.loaded name fs = result ↔
        Template.Store.Loads fs name (templatesPath root templates project.settings) result) ∧
    ∀ (dir : Path) (other : FileSystem) (config config' : Option Path) (project project' : Project),
      templates = some dir → opened root config templates fs = .ok project →
      opened root config' templates other = .ok project' → ∀ name,
        let file := Template.Store.templatePath (root.join dir) name
        (∀ text, fs.readText file = .ok text ↔ other.readText file = .ok text) →
        (fs.Absent file ↔ other.Absent file) →
        project.store.loaded name fs = project'.store.loaded name other := by
  refine ⟨fun config result => opened_eq_iff, ?_, ?_, ?_⟩
  · intro path other h
    rw [opened_some, opened_some, Settings.inFile, Settings.inFile, h]
  · intro config project h name result
    rw [store_of_opened h]
    exact Template.Store.loaded_eq_iff
  · rintro dir other config config' project project' rfl h h' name file ht ha
    obtain ⟨result, hl⟩ := Template.Store.exists_loads fs name (some (root.join dir))
    rw [store_of_opened h, store_of_opened h']
    exact hl.loaded.trans (hl.congr ht ha).loaded.symm

/-- Two projects with other settings each, and the template that is asked for is a directory in one
of them and lies below a file in the other. -/
theorem opened_and_loaded_unreadable :
    let fs := ((FileSystem.empty.write ⟨"forge.toml"⟩
      (.text "templates.dir = \"own\"\n")).2.makeDirectories ⟨"flag/Model.template"⟩).2
    let other := ((FileSystem.empty.write ⟨"x.toml"⟩
      (.text "[templates]\ndir = 'else'")).2.write ⟨"flag"⟩ (.text "")).2
    ∃ project project',
      opened ⟨"."⟩ none (some ⟨"flag"⟩) fs = .ok project ∧
      opened ⟨"."⟩ (some ⟨"x.toml"⟩) (some ⟨"flag"⟩) other = .ok project' ∧
      project.settings.templatesDir = some ⟨"own"⟩ ∧
      project'.settings.templatesDir = some ⟨"else"⟩ ∧
      project.store.loaded "Model" fs = .error (.unreadable ⟨"./flag/Model.template"⟩) ∧
      project.store.loaded "Model" fs = project'.store.loaded "Model" other := by
  intro fs other
  have hopened : opened ⟨"."⟩ none (some ⟨"flag"⟩) fs =
      .ok (ofSettings ⟨"."⟩ (some ⟨"flag"⟩) { templatesDir := some ⟨"own"⟩ }) :=
    eq_ok_of_toOption (by decide +kernel)
  have hopened' : opened ⟨"."⟩ (some ⟨"x.toml"⟩) (some ⟨"flag"⟩) other =
      .ok (ofSettings ⟨"."⟩ (some ⟨"flag"⟩) { templatesDir := some ⟨"else"⟩ }) :=
    eq_ok_of_toOption (by decide +kernel)
  have hfile : Template.Store.templatePath (Path.join ⟨"."⟩ ⟨"flag"⟩) "Model" =
      ⟨"./flag/Model.template"⟩ := by
    decide +kernel
  have hread : fs.readText ⟨"./flag/Model.template"⟩ = .error .isDirectory := by decide +kernel
  have hread' : other.readText ⟨"./flag/Model.template"⟩ = .error .notDirectory := by
    decide +kernel
  refine ⟨_, _, hopened, hopened', rfl, rfl, ?_, ?_⟩
  · apply ((opened_and_loaded ⟨"."⟩ (some ⟨"flag"⟩) fs).2.2.1 none _ hopened "Model" _).mpr
    rw [← hfile]
    apply Template.Store.Loads.unreadable
    rw [hfile]
    exact FileSystem.unreadable_iff.mpr ⟨_, hread, by decide⟩
  · apply (opened_and_loaded ⟨"."⟩ (some ⟨"flag"⟩) fs).2.2.2 ⟨"flag"⟩ other none (some ⟨"x.toml"⟩)
      _ _ rfl hopened hopened' "Model"
    · rw [hfile, hread, hread']
      simp
    · rw [hfile, FileSystem.absent_iff, FileSystem.absent_iff, hread, hread']
      simp

end Project

end EntityScaffold
