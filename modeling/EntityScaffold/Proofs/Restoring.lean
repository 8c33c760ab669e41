import EntityScaffold.Proofs.FileSystem.Removing
import EntityScaffold.Proofs.Setup

/-!
Setting up a project again. Nothing is done where its files are, and where some of them were removed
just these are made again, with what they held.
-/

namespace EntityScaffold

variable {fs whole lacking after : FileSystem}

namespace OutputFile

variable {file : OutputFile} {outcome : Written} {missing : Location → Prop}

/-- A file that is there is skipped. -/
theorem run_present (hk : file.overwrite = .ifMissing) (hp : fs.present file.path) :
    file.run fs = (.ok .skipped, fs) := by
  rw [run_eq, hk, hp]
  rfl

/-- A file that is gone is created with what it held. -/
theorem run_missing (hl : lacking.Lacks whole missing) (hr : whole.Reaches file.path)
    (hf : whole.node? (whole.destination file.path) = some (.file (.text file.content)))
    (hm : missing (whole.destination file.path)) :
    ∃ after, file.run lacking = (.ok .created, after) ∧
      after.Lacks whole fun place => missing place ∧ place ≠ whole.destination file.path := by
  obtain ⟨after, hwrite, hafter⟩ := hl.restore hr hf hm
  refine ⟨after, ?_, hafter⟩
  rw [run_eq, hl.not_present hm, hwrite]
  rfl

end OutputFile

namespace Project

variable {files : List OutputFile} {written : List WrittenFile}

/-- Files that are to be kept are made again where they are gone, and skipped where they are not. -/
theorem runAll_restores (hk : ∀ file ∈ files, file.overwrite = .ifMissing)
    (hd : (files.map fun file => whole.destination file.path).Nodup)
    (hp : ∀ file ∈ files, whole.present file.path) {gone : List Path}
    (hg : ∀ file ∈ files, file.path ∈ gone →
      whole.node? (whole.destination file.path) = some (.file (.text file.content)))
    (hl : fs.Lacks whole fun place =>
      ∃ file ∈ files, file.path ∈ gone ∧ place = whole.destination file.path) :
    runAll files fs =
      (.ok (files.map fun file =>
        ⟨file.path, if file.path ∈ gone then .created else .skipped⟩), whole) := by
  induction files generalizing fs with
  | nil =>
    rw [hl.eq fun place => by simp]
    rfl
  | cons file rest ih =>
    rw [List.map_cons, List.nodup_cons] at hd
    -- no later file goes where this one does
    have hapart (other : OutputFile) (ho : other ∈ rest) :
        whole.destination other.path ≠ whole.destination file.path := fun he =>
      hd.1 (List.mem_map.mpr ⟨other, ho, he⟩)
    have hrest {fs : FileSystem} (hl : fs.Lacks whole fun place =>
        ∃ other ∈ rest, other.path ∈ gone ∧ place = whole.destination other.path) :=
      ih (fun other ho => hk other (List.mem_cons_of_mem _ ho)) hd.2
        (fun other ho => hp other (List.mem_cons_of_mem _ ho))
        (fun other ho => hg other (List.mem_cons_of_mem _ ho)) hl
    have hthere := hp file List.mem_cons_self
    by_cases hf : file.path ∈ gone
    · obtain ⟨after, hrun, hafter⟩ := OutputFile.run_missing hl
        (FileSystem.present_iff.mp hthere).1 (hg file List.mem_cons_self hf)
        ⟨file, List.mem_cons_self, hf, rfl⟩
      have hothers := hrest (hafter.congr fun place => by
        rw [List.exists_mem_cons_iff]
        constructor
        · rintro ⟨⟨-, rfl⟩ | hm, hne⟩
          · exact absurd rfl hne
          · exact hm
        · rintro ⟨other, ho, hog, rfl⟩
          exact ⟨.inr ⟨other, ho, hog, rfl⟩, hapart other ho⟩)
      rw [runAll_cons, hrun]
      simp [hothers, hf, Except.map]
    · have hkept : ¬ ∃ other ∈ file :: rest, other.path ∈ gone ∧
          whole.destination file.path = whole.destination other.path := by
        rw [List.exists_mem_cons_iff, not_or]
        exact ⟨fun h => hf h.1, fun ⟨other, ho, _, he⟩ => hapart other ho he.symm⟩
      have hothers := hrest (hl.congr fun place => by simp [hf])
      rw [runAll_cons, OutputFile.run_present (hk file List.mem_cons_self)
        (hl.present hkept hthere)]
      simp [hothers, hf, Except.map]

/-- What becomes of setting up a project, and the file system it leaves. -/
def attemptSetup (root : Path) (templatesDir : Option Path) (fs : FileSystem) :
    Except SetupFailure SetupReport × FileSystem :=
  (setup root templatesDir : ExceptT SetupFailure (StateM FileSystem) SetupReport).run fs

theorem attemptSetup_eq (root : Path) (templatesDir : Option Path) (fs : FileSystem) :
    attemptSetup root templatesDir fs =
      ((runAll (setupFiles root templatesDir) fs).1.map (⟨root, ·⟩),
        (runAll (setupFiles root templatesDir) fs).2) :=
  run_setup root templatesDir fs

theorem attemptSetup_ok {root : Path} {templatesDir : Option Path} {report : SetupReport}
    (h : attemptSetup root templatesDir fs = (.ok report, after)) :
    runAll (setupFiles root templatesDir) fs = (.ok report.files, after) := by
  rw [attemptSetup_eq] at h
  rcases hrun : runAll (setupFiles root templatesDir) fs with ⟨result, left⟩
  rw [hrun] at h
  cases result with
  | error failure => cases h
  | ok written =>
    cases h
    rfl

/-- What setting up a project reports as created is one of its files, and holds its content. -/
theorem created_of_attemptSetup {root : Path} {templatesDir : Option Path} {report : SetupReport}
    (h : attemptSetup root templatesDir fs = (.ok report, after)) {path : Path}
    (hc : ⟨path, .created⟩ ∈ report.files) :
    ∃ file ∈ setupFiles root templatesDir, file.path = path ∧ after.Holds path := by
  obtain ⟨hpaths, hsettled⟩ :=
    settled_of_runAll (setupFiles_nodup root templatesDir fs) (attemptSetup_ok h)
  have hpath : path ∈ report.files.map WrittenFile.path := List.mem_map_of_mem hc
  rw [hpaths] at hpath
  obtain ⟨file, hm, rfl⟩ := List.mem_map.mp hpath
  obtain ⟨hpresent, hnode⟩ := hsettled file hm
  exact ⟨file, hm, rfl, (FileSystem.present_iff.mp hpresent).1, _, hnode hc⟩

/-- Where files are gone that setting up a project has created, setting it up again makes these and
no others, and the end is the same. -/
theorem attemptSetup_restores {root : Path} {templatesDir : Option Path} {report : SetupReport}
    (h : attemptSetup root templatesDir fs = (.ok report, after)) {gone : List Path}
    (hg : ∀ path ∈ gone, ⟨path, .created⟩ ∈ report.files)
    (hl : lacking.Lacks after fun place => ∃ path ∈ gone, place = after.destination path) :
    attemptSetup root templatesDir lacking =
      (.ok ⟨root, report.files.map fun file =>
        ⟨file.path, if file.path ∈ gone then .created else .skipped⟩⟩, after) := by
  obtain ⟨hpaths, hsettled⟩ :=
    settled_of_runAll (setupFiles_nodup root templatesDir fs) (attemptSetup_ok h)
  let remade (path : Path) : WrittenFile := ⟨path, if path ∈ gone then .created else .skipped⟩
  have hlacks : lacking.Lacks after fun place => ∃ file ∈ setupFiles root templatesDir,
      file.path ∈ gone ∧ place = after.destination file.path := by
    refine hl.congr fun place => ⟨?_, ?_⟩
    · rintro ⟨path, hp, rfl⟩
      obtain ⟨file, hm, rfl, -⟩ := created_of_attemptSetup h (hg path hp)
      exact ⟨file, hm, hp, rfl⟩
    · rintro ⟨file, -, hp, rfl⟩
      exact ⟨file.path, hp, rfl⟩
  have hagain : runAll (setupFiles root templatesDir) lacking =
      (.ok ((setupFiles root templatesDir).map fun file => remade file.path), after) :=
    runAll_restores (setupFiles_ifMissing root templatesDir)
      (setupFiles_nodup root templatesDir after) (fun file hm => (hsettled file hm).1)
      (fun file hm hp => (hsettled file hm).2 (hg file.path hp)) hlacks
  have hreported : report.files.map (fun file => remade file.path) =
      (setupFiles root templatesDir).map fun file => remade file.path := by
    simpa only [List.map_map, Function.comp_def] using congrArg (List.map remade) hpaths
  rw [attemptSetup_eq, hagain, ← hreported]
  rfl

/-- A project that was set up can be set up again. All its files are skipped then and nothing
changes. Where some of the files were removed that were created, these are created again and the
others are skipped, and the end is the same. -/
theorem setup_again {root : Path} {templatesDir : Option Path} {fs after : FileSystem}
    {report : SetupReport} (h : attemptSetup root templatesDir fs = (.ok report, after)) :
    report.files.map WrittenFile.path = (setupFiles root templatesDir).map OutputFile.path ∧
    attemptSetup root templatesDir after =
      (.ok ⟨root, report.files.map fun file => ⟨file.path, .skipped⟩⟩, after) ∧
    ∀ gone : List Path, (∀ path ∈ gone, ⟨path, .created⟩ ∈ report.files) →
      (gone.foldl FileSystem.remove after).Lacks after
          (fun place => ∃ path ∈ gone, place = after.destination path) ∧
        attemptSetup root templatesDir (gone.foldl FileSystem.remove after) =
          (.ok ⟨root, report.files.map fun file =>
            ⟨file.path, if file.path ∈ gone then .created else .skipped⟩⟩, after) := by
  refine ⟨?_, ?_, fun gone hg => ?_⟩
  · exact (settled_of_runAll (setupFiles_nodup root templatesDir fs) (attemptSetup_ok h)).1
  · have hagain := attemptSetup_restores h (List.forall_mem_nil _)
      ((FileSystem.Lacks.refl after).congr fun place => by simp)
    simpa using hagain
  · have hl : (gone.foldl FileSystem.remove after).Lacks after
        fun place => ∃ path ∈ gone, place = after.destination path :=
      FileSystem.lacks_of_removed fun path hp => by
        obtain ⟨-, -, -, hholds⟩ := created_of_attemptSetup h (hg path hp)
        exact hholds
    exact ⟨hl, attemptSetup_restores h hg hl⟩

/-- One template is kept although it is a directory, and two files are removed and made again. -/
theorem setup_again_partly :
    let root : Path := ⟨"new/.."⟩
    let templatesDir : Option Path := some ⟨"own//."⟩
    let fs := (FileSystem.empty.makeDirectories ⟨"own/Model.template"⟩).2
    let gone : List Path := [⟨"new/../own//./Tests.template"⟩, ⟨"new/../forge.toml"⟩]
    ∃ report after, attemptSetup root templatesDir fs = (.ok report, after) ∧
      report.files.map WrittenFile.outcome = [.created, .skipped, .created] ∧
      (gone.foldl FileSystem.remove after).node? ["forge.toml"] = none ∧
      attemptSetup root templatesDir (gone.foldl FileSystem.remove after) = (.ok report, after) := by
  intro root templatesDir fs gone
  let report : SetupReport := ⟨root, [⟨⟨"new/../forge.toml"⟩, .created⟩,
    ⟨⟨"new/../own//./Model.template"⟩, .skipped⟩, ⟨⟨"new/../own//./Tests.template"⟩, .created⟩]⟩
  have hreport : (attemptSetup root templatesDir fs).1 = .ok report := by decide +kernel
  have hrun : attemptSetup root templatesDir fs =
      (.ok report, (attemptSetup root templatesDir fs).2) := Prod.ext hreport rfl
  have hcreated : ∀ path ∈ gone, ⟨path, .created⟩ ∈ report.files := by decide
  obtain ⟨-, -, hagain⟩ := setup_again hrun
  obtain ⟨hlacks, hsame⟩ := hagain gone hcreated
  refine ⟨report, _, hrun, rfl, ?_, hsame⟩
  exact hlacks.gone _ ⟨⟨"new/../forge.toml"⟩, by decide, by decide +kernel⟩

end Project

end EntityScaffold
