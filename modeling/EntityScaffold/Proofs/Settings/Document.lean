import Mathlib
import EntityScaffold.Failure
import EntityScaffold.Proofs.Settings.Reordered

/-!
Which documents are settings files, what settings one gives, and what is reported of one that is
none.
-/

namespace EntityScaffold.Settings
open Toml

variable {entries : List Entry}

/-- A document of two sections, both of which may be missing. -/
structure FitsSettings (entries : List Entry) : Prop where
  sections : ∀ entry ∈ entries, entry.1.name = "layout" ∨ entry.1.name = "templates"
  layout : ∀ entry ∈ entries, entry.1.name = "layout" →
    Fits ["models_dir", "tests_dir", "extension"] entry.2.2
  templates : ∀ entry ∈ entries, entry.1.name = "templates" → Fits ["dir"] entry.2.2

/-- The text given for a setting of a section. -/
def given? (entries : List Entry) (part : String) (position : Nat) (name : String) :
    Option String := do
  let (_, _, value) ← find? entries part
  (setting? position name value).bind Value.text?

/-- The settings of a document, those that it does not give by default. -/
def givenSettings (entries : List Entry) : Settings where
  layout := {
    modelsDir := ⟨(given? entries "layout" 0 "models_dir").getD "Sources/App/Models"⟩
    testsDir := ⟨(given? entries "layout" 1 "tests_dir").getD "Tests/AppTests/Models"⟩
    extension := (given? entries "layout" 2 "extension").getD "swift" }
  templatesDir := (given? entries "templates" 0 "dir").map Path.mk

/-- What can be wrong with an entry of a document, and where in its value. -/
inductive EntryOffends (entry : Entry) : Place → Problem → Prop where
  | key (layout : entry.1.name ≠ "layout") (templates : entry.1.name ≠ "templates") :
    EntryOffends entry [] (.unknownKey entry.1.name ["layout", "templates"] entry.1.span)
  | layout {place : Place} {problem : Problem} (name : entry.1.name = "layout")
      (found : layoutShape.Offends entry.2.1 entry.2.2 place problem) :
    EntryOffends entry place problem
  | templates {place : Place} {problem : Problem} (name : entry.1.name = "templates")
      (found : templatesShape.Offends entry.2.1 entry.2.2 place problem) :
    EntryOffends entry place problem

/-- What can be wrong with a document, and where. -/
def Offends (entries : List Entry) : Place → Problem → Prop :=
  Among (fun entry => .key entry.1.name) EntryOffends entries

theorem fitsSettings_iff : FitsSettings entries ↔
    ∀ place problem, ¬ Offends entries place problem := by
  constructor
  · rintro h place problem ⟨hm, ho⟩
    cases ho with
    | key layout templates => exact (h.sections _ hm).elim layout templates
    | layout name found => exact (layoutShape.fits_iff _ _).mp (h.layout _ hm name) _ _ found
    | templates name found =>
      exact (templatesShape.fits_iff _ _).mp (h.templates _ hm name) _ _ found
  · intro hnone
    refine ⟨fun entry hm => ?_, fun entry hm hname => ?_, fun entry hm hname => ?_⟩
    · by_contra hno
      obtain ⟨layout, templates⟩ := not_or.mp hno
      exact hnone _ _ ⟨hm, .key layout templates⟩
    · exact (layoutShape.fits_iff entry.2.1 _).mpr fun place problem found =>
        hnone _ _ ⟨hm, .layout hname found⟩
    · exact (templatesShape.fits_iff entry.2.1 _).mpr fun place problem found =>
        hnone _ _ ⟨hm, .templates hname found⟩

/-! ### The first problem -/

theorem readEntry_finds (settings : Settings) {entry : Entry} (hd : entry.2.2.Distinct) :
    Finds (EntryOffends entry) (readEntry settings entry) := by
  rw [readEntry]
  split_ifs with hlayout htemplates
  · rw [readLayout_eq]
    refine ((layoutForm.read_finds _ hd).map _).congr fun place problem => ⟨.layout hlayout, ?_⟩
    intro ho
    cases ho with
    | key layout => exact absurd hlayout layout
    | layout _ found => exact found
    | templates name => exact absurd (hlayout.symm.trans name) (by decide)
  · rw [readTemplates_eq]
    refine ((templatesForm.read_finds _ hd).map _).congr fun place problem =>
      ⟨.templates htemplates, ?_⟩
    intro ho
    cases ho with
    | key _ templates => exact absurd htemplates templates
    | layout name => exact absurd name hlayout
    | templates _ found => exact found
  · apply Finds.here
    intro place problem
    constructor
    · intro ho
      cases ho with
      | key => exact ⟨rfl, rfl⟩
      | layout name => exact absurd name hlayout
      | templates name => exact absurd name htemplates
    · rintro ⟨rfl, rfl⟩
      exact .key hlayout htemplates

theorem ofEntries_finds (h : DistinctKeys entries) :
    Finds (Offends entries) (ofEntries entries) := by
  have hall := Finds.foldlM
    (fun settings entry hm => readEntry_finds settings
      (h.within entry ((inOrder_perm entries).mem_iff.mp hm)))
    (inOrder_before h.keys) {}
  exact hall.congr fun place problem =>
    ⟨fun ⟨hm, ho⟩ => ⟨(inOrder_perm entries).mem_iff.mp hm, ho⟩,
      fun ⟨hm, ho⟩ => ⟨(inOrder_perm entries).mem_iff.mpr hm, ho⟩⟩

/-! ### The settings -/

/-- A section of the settings: under which key it is read, and what is kept of it. -/
structure Branch {shape : Shape} {σ : Type} (form : Form shape σ) where
  name : String
  kept : Settings → σ
  start : kept {} = form.initial
  reads : ∀ {entry : Entry}, entry.1.name = name → ∀ {settings after},
    readEntry settings entry = .ok after → form.read entry.2.1 entry.2.2 = .ok (kept after)
  keeps : ∀ {entry : Entry}, entry.1.name ≠ name → ∀ {settings after},
    readEntry settings entry = .ok after → kept after = kept settings

def layoutBranch : Branch layoutForm where
  name := "layout"
  kept := Settings.layout
  start := rfl
  reads {entry} hname settings after h := by
    rw [readEntry, if_pos hname, readLayout_eq] at h
    obtain ⟨layout, hread, rfl⟩ := exists_of_map_ok h
    exact hread
  keeps {entry} hname settings after h := by
    rw [readEntry, if_neg hname] at h
    split_ifs at h
    obtain ⟨templatesDir, -, rfl⟩ := exists_of_map_ok h
    rfl

def templatesBranch : Branch templatesForm where
  name := "templates"
  kept := Settings.templatesDir
  start := rfl
  reads {entry} hname settings after h := by
    have hne : entry.1.name ≠ "layout" := by rw [hname]; decide
    rw [readEntry, if_neg hne, if_pos hname, readTemplates_eq] at h
    obtain ⟨templatesDir, hread, rfl⟩ := exists_of_map_ok h
    exact hread
  keeps {entry} hname settings after h := by
    rw [readEntry, if_neg hname] at h
    split_ifs at h
    obtain ⟨layout, -, rfl⟩ := exists_of_map_ok h
    rfl

theorem Branch.get {shape : Shape} {σ : Type} {form : Form shape σ} (branch : Branch form)
    (hd : DistinctKeys entries) {settings : Settings} (h : ofEntries entries = .ok settings)
    (position : Nat) {field : String × String} (hf : shape.fields[position]? = some field) :
    form.get (branch.kept settings) field.1 =
      (given? entries branch.name position field.1).or (form.get form.initial field.1) := by
  let get (settings : Settings) := form.get (branch.kept settings) field.1
  have hkeeps : ∀ entry ∈ inOrder entries, branch.name ≠ entry.1.name → ∀ settings after,
      readEntry settings entry = .ok after → get after = get settings := by
    intro entry _ hne settings after hr
    exact congrArg (form.get · field.1) (branch.keeps hne.symm hr)
  rw [given?, ← branch.start]
  cases hfind : find? entries branch.name with
  | none =>
    refine get_foldlM get (fun entry hm => hkeeps entry hm ?_) h
    exact (ne_of_find? hfind entry ((inOrder_perm entries).mem_iff.mp hm)).symm
  | some entry =>
    obtain ⟨hm, hname⟩ := mem_of_find? hfind
    refine get_foldlM_of_mem get ((inOrder_perm entries).mem_iff.mpr hm) (inOrder_apart hd.keys)
      (fun settings after hr => ?_) (fun other ho hne => hkeeps other ho (hname ▸ hne)) h
    rw [branch.start]
    exact form.read_get (hd.within entry hm) hf (branch.reads hname hr)

theorem ofEntries_ok (hd : DistinctKeys entries) {settings : Settings}
    (h : ofEntries entries = .ok settings) : settings = givenSettings entries := by
  have hmodels : some settings.layout.modelsDir.text =
      (given? entries "layout" 0 "models_dir").or (some "Sources/App/Models") :=
    layoutBranch.get hd h 0 rfl
  have htests : some settings.layout.testsDir.text =
      (given? entries "layout" 1 "tests_dir").or (some "Tests/AppTests/Models") :=
    layoutBranch.get hd h 1 rfl
  have hextension : some settings.layout.extension =
      (given? entries "layout" 2 "extension").or (some "swift") :=
    layoutBranch.get hd h 2 rfl
  have htemplates : settings.templatesDir.map Path.text =
      (given? entries "templates" 0 "dir").or none :=
    templatesBranch.get hd h 0 rfl
  rw [Option.or_some, Option.some_inj] at hmodels htests hextension
  rw [Option.or_none] at htemplates
  rw [givenSettings, ← hmodels, ← htests, ← hextension, ← htemplates, Option.map_map]
  obtain ⟨⟨_, _, _⟩, templatesDir⟩ := settings
  cases templatesDir <;> rfl

/-! ### Reading a document -/

theorem given?_reordered {others : List Entry}
    (h : Reordered (.table .declared entries) (.table .declared others)) (part : String)
    (position : Nat) (name : String) :
    given? entries part position name = given? others part position name := by
  cases h with
  | scalar scalar => cases scalar
  | list elements => cases elements
  | table keys within =>
    rw [given?, given?]
    rcases find?_of_keys keys part with ⟨he, ho⟩ | ⟨entry, hm, other, hm', hname, he, ho⟩
    · rw [he, ho]
    · rw [he, ho]
      exact (within _ hm _ hm' hname).setting?_text position name

theorem offends_reordered {others : List Entry}
    (h : Reordered (.table .declared entries) (.table .declared others)) {place : Place}
    {problem : Problem} (ho : Offends entries place problem) :
    ∃ another, Offends others place another ∧ another.detail? = problem.detail? := by
  cases h with
  | scalar scalar => cases scalar
  | list elements => cases elements
  | table keys within =>
    obtain ⟨mem, ho⟩ := ho
    obtain ⟨other, hm, hname⟩ := mem_of_keys keys mem
    have hsame := within _ mem _ hm hname.symm
    rw [← hname]
    cases ho with
    | key layout templates =>
      rw [← hname] at layout templates ⊢
      exact ⟨_, ⟨hm, .key layout templates⟩, rfl⟩
    | layout name found =>
      obtain ⟨another, hfound, hdetail⟩ := hsame.offends found other.2.1
      exact ⟨another, ⟨hm, .layout (hname.trans name) hfound⟩, hdetail⟩
    | templates name found =>
      obtain ⟨another, hfound, hdetail⟩ := hsame.offends found other.2.1
      exact ⟨another, ⟨hm, .templates (hname.trans name) hfound⟩, hdetail⟩

section Parse

variable {content : String} (h : parse? content = some entries)
include h

theorem parse_finds : Finds (Offends entries) (parse content) := by
  rw [parse, h]
  exact ofEntries_finds (distinct_parse? h)

theorem parse_ok_iff (settings : Settings) :
    parse content = .ok settings ↔ FitsSettings entries ∧ settings = givenSettings entries := by
  have hvalue {settings : Settings} (hok : parse content = .ok settings) :
      settings = givenSettings entries := by
    rw [parse, h] at hok
    exact ofEntries_ok (distinct_parse? h) hok
  constructor
  · intro hok
    exact ⟨fitsSettings_iff.mpr ((parse_finds h).ok_iff.mp ⟨settings, hok⟩), hvalue hok⟩
  · rintro ⟨hfits, rfl⟩
    obtain ⟨settings, hok⟩ := (parse_finds h).ok_iff.mpr (fitsSettings_iff.mp hfits)
    rw [hok, hvalue hok]

theorem parse_first (hfits : ¬ FitsSettings entries) :
    ∃ place problem, First (Offends entries) place problem ∧ parse content = .error problem := by
  have hfinds := parse_finds h
  revert hfinds
  generalize parse content = result
  intro hfinds
  cases hfinds with
  | clean none => exact absurd (fitsSettings_iff.mpr none) hfits
  | first first => exact ⟨_, _, first, rfl⟩

end Parse

theorem parseFile_ok_iff {file content : String} {settings : Settings} :
    parseFile file content = .ok settings ↔ parse content = .ok settings := by
  rw [parseFile]
  cases parse content with
  | error => simp [Except.mapError]
  | ok => simp [Except.mapError]

theorem parseFile_error {content : String} {problem : Problem}
    (h : parse content = .error problem) (file : String) :
    parseFile file content = .error (.malformed file content.utf8ByteSize problem) := by
  rw [parseFile, h]
  rfl

/-- A document is a settings file exactly if it fits. It gives the settings it says, and the
default of any other. Of what does not fit the first problem is reported, where the keys of every
table are visited in the order of their bytes, each together with what it holds. So documents that
differ only in the order of their keys give the same settings, or the same problem at the same
place. -/
theorem settings_or_first_problem {content : String} (h : parse? content = some entries)
    (file : String) :
    (∀ settings, parseFile file content = .ok settings ↔
      FitsSettings entries ∧ settings = givenSettings entries) ∧
    (¬ FitsSettings entries → ∃ place problem, First (Offends entries) place problem ∧
      parseFile file content = .error (.malformed file content.utf8ByteSize problem)) ∧
    ∀ again others, parse? again = some others →
      Reordered (.table .declared entries) (.table .declared others) →
      (∀ settings, parseFile file content = .ok settings → parseFile file again = .ok settings) ∧
      ∀ place problem, First (Offends entries) place problem →
        ∃ another, First (Offends others) place another ∧ another.detail? = problem.detail? ∧
          parseFile file again = .error (.malformed file again.utf8ByteSize another) := by
  refine ⟨fun settings => parseFile_ok_iff.trans (parse_ok_iff h settings), ?_, ?_⟩
  · intro hfits
    obtain ⟨place, problem, first, herror⟩ := parse_first h hfits
    exact ⟨place, problem, first, parseFile_error herror file⟩
  · intro again others hagain hsame
    refine ⟨fun settings hok => ?_, fun place problem first => ?_⟩
    · rw [parseFile_ok_iff, parse_ok_iff h, fitsSettings_iff] at hok
      rw [parseFile_ok_iff, parse_ok_iff hagain, fitsSettings_iff]
      obtain ⟨hnone, rfl⟩ := hok
      refine ⟨fun place problem ho => ?_, ?_⟩
      · obtain ⟨another, hback, -⟩ := offends_reordered hsame.symm ho
        exact hnone _ _ hback
      · simp only [givenSettings, given?_reordered hsame]
    · obtain ⟨another, herror, hfirst, hdetail⟩ :=
        first.transfer (parse_finds hagain) (fun _ _ => offends_reordered hsame)
          fun _ _ => offends_reordered hsame.symm
      exact ⟨another, hfirst, hdetail, parseFile_error herror file⟩

/-- The entries of `"layout.extension = 3\ntemplates = []\n"`. -/
def dottedNumber : List Entry :=
  [(⟨"layout", ⟨36, 30⟩⟩, ⟨36, 30⟩, .table .dotted
      [(⟨"extension", ⟨29, 20⟩⟩, ⟨17, 16⟩, .integer 3)]),
    (⟨"templates", ⟨15, 6⟩⟩, ⟨3, 1⟩, .array [])]

/-- The entries of `"templates = []\n[layout]\nextension = 3\n"`. -/
def headedNumber : List Entry :=
  [(⟨"templates", ⟨38, 29⟩⟩, ⟨26, 24⟩, .array []),
    (⟨"layout", ⟨22, 16⟩⟩, ⟨23, 15⟩, .table .declared
      [(⟨"extension", ⟨14, 5⟩⟩, ⟨2, 1⟩, .integer 3)])]

theorem reordered_number :
    Reordered (.table .declared dottedNumber) (.table .declared headedNumber) := by
  refine .table (List.Perm.swap _ _ _) ?_
  intro entry he other ho hname
  simp only [dottedNumber, headedNumber, List.mem_cons, List.not_mem_nil, or_false] at he ho
  rcases he with rfl | rfl <;> rcases ho with rfl | rfl
  · exact absurd hname (by decide)
  · refine .table (List.Perm.refl _) ?_
    intro entry he other ho _
    rw [List.mem_singleton.mp he, List.mem_singleton.mp ho]
    exact .scalar rfl
  · exact .list rfl rfl rfl fun position item another hi _ => by cases hi
  · exact absurd hname (by decide)

/-- A number where a text has to be, with the keys of the document in one order and the other. -/
theorem settings_or_first_problem_number :
    ∃ problem another,
      parseFile "forge.toml" "layout.extension = 3\ntemplates = []\n" =
        .error (.malformed "forge.toml" 36 problem) ∧
      parseFile "forge.toml" "templates = []\n[layout]\nextension = 3\n" =
        .error (.malformed "forge.toml" 38 another) ∧
      another.detail? = problem.detail? := by
  have hread : parse? "layout.extension = 3\ntemplates = []\n" = some dottedNumber := by cbv
  have hagain : parse? "templates = []\n[layout]\nextension = 3\n" = some headedNumber := by cbv
  have hfits : ¬ FitsSettings dottedNumber := by
    intro h
    cases h.layout _ List.mem_cons_self rfl with
    | table _ strings =>
      obtain ⟨text, htext⟩ := strings _ List.mem_cons_self
      cases htext
    | list elements => cases elements
  obtain ⟨-, hfirst, hother⟩ := settings_or_first_problem hread "forge.toml"
  obtain ⟨place, problem, first, herror⟩ := hfirst hfits
  obtain ⟨another, -, hdetail, hanother⟩ := (hother _ _ hagain reordered_number).2 _ _ first
  exact ⟨problem, another, herror, hanother, hdetail⟩

end EntityScaffold.Settings
