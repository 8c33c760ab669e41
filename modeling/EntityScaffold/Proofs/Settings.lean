import EntityScaffold.Failure
import EntityScaffold.Proofs.Text.Joined
import EntityScaffold.Proofs.Text.Spelled
import EntityScaffold.Proofs.Toml.Lines

/-!
The settings file of a new project is read as the default layout and the directory it was made
for, whatever the directory's text.
-/

namespace EntityScaffold.Settings
open Toml

/-- The lines that are the same for every directory. -/
def fixedLines : List Line :=
  [.remark " modelforge configuration".toList,
    .blank,
    .header "layout",
    .setting "models_dir" "Sources/App/Models",
    .setting "tests_dir" "Tests/AppTests/Models",
    .setting "extension" "swift",
    .blank,
    .header "templates",
    .remark " Templates in this directory take precedence over the built-in ones.".toList]

def fileLines (dir : String) : List Line := fixedLines ++ [.setting "dir" dir]

theorem toList_fileContent (dir : Path) :
    (fileContent dir).toList = Line.document (fileLines dir.text) := by
  have hlast : Line.document (fileLines dir.text) =
      Line.document fixedLines ++ "dir = ".toList ++ (spell dir.text).toList ++ "\n".toList := by
    simp [fileLines, Line.document, Line.text]
  unfold fileContent
  simp only [String.toList_append, hlast, List.append_cancel_right_eq]
  apply Text.Spelled.toList_eq
  · apply Text.Spelled.cons
    exact .nil
  · decide +kernel

/-- The last section first, as `Toml.Line.add?` gives them. -/
def fileSections (layout : Layout) (dir : String) : List Section :=
  [("templates", [("dir", dir)]),
    ("layout", [("models_dir", layout.modelsDir.text), ("tests_dir", layout.testsDir.text),
      ("extension", layout.extension)])]

theorem sections_fileLines (dir : String) :
    (fileLines dir).foldlM Line.add? [] = some (fileSections {} dir) := by
  have hfixed : fixedLines.foldlM Line.add? [] =
      some [("templates", []), ("layout", [("models_dir", "Sources/App/Models"),
        ("tests_dir", "Tests/AppTests/Models"), ("extension", "swift")])] := by
    decide +kernel
  have hdir : IsName "dir" := by decide
  rw [fileLines, List.foldlM_append, hfixed]
  simp [Line.add?, hdir, fileSections]

theorem readLayout_strings (span : Span) (standing : Standing) {entries : List Entry}
    {layout : Layout}
    (h : List.Forall₂ ShowsSetting entries
      [("models_dir", layout.modelsDir.text), ("tests_dir", layout.testsDir.text),
        ("extension", layout.extension)]) :
    readLayout span (.table standing entries) = .ok layout := by
  simp only [List.forall₂_cons_right_iff, List.forall₂_nil_right_iff] at h
  obtain ⟨⟨⟨_, _⟩, _, _⟩, _, ⟨rfl, rfl⟩, ⟨⟨⟨_, _⟩, _, _⟩, _, ⟨rfl, rfl⟩,
    ⟨⟨⟨_, _⟩, _, _⟩, _, ⟨rfl, rfl⟩, rfl, rfl⟩, rfl⟩, rfl⟩ := h
  -- the keys are looked at in ascending order: the extension first
  have hfirst : "extension" < "tests_dir" ∧ "extension" < "models_dir" := by decide
  have hlast : ¬ "tests_dir" < "models_dir" := by decide
  simp only [readLayout, inOrder, List.foldr_cons, List.foldr_nil, insertInOrder, hfirst, hlast,
    if_true, if_false]
  rfl

theorem readTemplates_strings (span : Span) (standing : Standing) {entries : List Entry}
    {dir : String} (h : List.Forall₂ ShowsSetting entries [("dir", dir)]) :
    readTemplates span (.table standing entries) = .ok (some ⟨dir⟩) := by
  simp only [List.forall₂_cons_right_iff, List.forall₂_nil_right_iff] at h
  obtain ⟨⟨⟨_, _⟩, _, _⟩, _, ⟨rfl, rfl⟩, rfl, rfl⟩ := h
  rfl

theorem ofEntries_sections {entries : List Entry} {layout : Layout} {dir : String}
    (h : List.Forall₂ ShowsSection entries.reverse (fileSections layout dir)) :
    ofEntries entries = .ok { layout, templatesDir := some ⟨dir⟩ } := by
  simp only [fileSections, List.forall₂_cons_right_iff, List.forall₂_nil_right_iff] at h
  obtain ⟨⟨⟨_, _⟩, _, _⟩, _, ⟨rfl, templates, rfl, hdir⟩, ⟨⟨⟨_, _⟩, _, _⟩, _,
    ⟨rfl, keys, rfl, hkeys⟩, rfl, rfl⟩, hr⟩ := h
  rw [List.reverse_eq_iff] at hr
  subst hr
  have horder : ¬ "templates" < "layout" := by decide
  simp only [ofEntries, List.reverse_cons, List.reverse_nil, List.nil_append, List.cons_append,
    inOrder, List.foldr_cons, List.foldr_nil, insertInOrder, horder, if_false]
  simp only [List.foldlM_cons, List.foldlM_nil, readEntry, if_true,
    readLayout_strings _ _ hkeys, readTemplates_strings _ _ hdir]
  rfl

theorem parse?_fileContent (dir : Path) :
    ∃ entries, parse? (fileContent dir) = some entries ∧
      List.Forall₂ ShowsSection entries.reverse (fileSections {} dir.text) := by
  have htext : fileContent dir = .ofList (Line.document (fileLines dir.text)) := by
    rw [← toList_fileContent, String.ofList_toList]
  rw [htext]
  exact parse?_document (sections_fileLines dir.text)

theorem parse_fileContent (dir : Path) :
    parse (fileContent dir) = .ok { templatesDir := some dir } := by
  obtain ⟨entries, hread, hshown⟩ := parse?_fileContent dir
  rw [parse, hread]
  exact ofEntries_sections hshown

/-! ### Recording a directory -/

/-- The settings file of a project for which no directory was given. -/
def standardContent : String :=
"# modelforge configuration

[layout]
models_dir = \"Sources/App/Models\"
tests_dir = \"Tests/AppTests/Models\"
extension = \"swift\"

[templates]
# Templates in this directory take precedence over the built-in ones.
dir = \"Resources/Templates\"
"

/-- The setting that gives way to the one with another directory. -/
def standardSetting : String := "dir = \"Resources/Templates\""

theorem toList_standardContent :
    standardContent.toList = Line.document fixedLines ++ standardSetting.toList ++ ['\n'] := by
  unfold standardContent
  apply Text.Spelled.toList_eq
  · apply Text.Spelled.cons
    exact .nil
  · decide +kernel

/-- The directory is set in one place of the standard file, and nothing follows it there. -/
theorem cutAt_standardContent :
    Text.cutAt standardSetting.toList standardContent.toList =
      [Line.document fixedLines, ['\n']] := by
  rw [toList_standardContent]
  decide +kernel

theorem fileContent_standard : fileContent standardTemplatesDir = standardContent := by
  apply String.toList_injective
  rw [toList_fileContent, toList_standardContent]
  decide +kernel

/-- The settings file for a directory is the standard one, where the directory's setting stands in
the place of the standard one. Whatever the directory is called, the file is a document of two
tables that holds nothing else, and it is read as the default layout and that directory. -/
theorem recorded_directory (dir : Path) :
    fileContent standardTemplatesDir = standardContent ∧
    (∃ before after,
      Text.cutAt standardSetting.toList standardContent.toList = [before, after] ∧
      (fileContent dir).toList = before ++ ("dir = " ++ spell dir.text).toList ++ after) ∧
    (∃ entries, parse? (fileContent dir) = some entries ∧
      List.Forall₂ ShowsSection entries
        [("layout", [("models_dir", "Sources/App/Models"), ("tests_dir", "Tests/AppTests/Models"),
            ("extension", "swift")]),
          ("templates", [("dir", dir.text)])]) ∧
    ∀ file, parseFile file (fileContent dir) = .ok { layout := {}, templatesDir := some dir } := by
  refine ⟨fileContent_standard, ⟨_, _, cutAt_standardContent, ?_⟩, ?_, fun file => ?_⟩
  · rw [toList_fileContent]
    simp [fileLines, Line.document, Line.text]
  · obtain ⟨entries, hread, hshown⟩ := parse?_fileContent dir
    refine ⟨entries, hread, ?_⟩
    simpa [fileSections] using List.rel_reverse hshown
  · rw [parseFile, parse_fileContent]
    rfl

end EntityScaffold.Settings
