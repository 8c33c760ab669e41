import Mathlib.Data.List.Nodup
import EntityScaffold.Project
import EntityScaffold.Proofs.Files

/-!
Setting up a project: what it adds to a file system, and which files it does not keep although
they exist.
-/

namespace EntityScaffold.Project

variable {files : List OutputFile} {fs : FileSystem}

/-- What becomes of files that are written in order, and the file system they leave. -/
def runAll (files : List OutputFile) (fs : FileSystem) :
    Except SetupFailure (List WrittenFile) × FileSystem :=
  (writeAll files : ExceptT SetupFailure (StateM FileSystem) (List WrittenFile)).run fs

theorem runAll_cons (file : OutputFile) (rest : List OutputFile) (fs : FileSystem) :
    runAll (file :: rest) fs =
      match file.run fs with
      | (.error _, after) => (.error ⟨file.path⟩, after)
      | (.ok outcome, after) =>
        ((runAll rest after).1.map (⟨file.path, outcome⟩ :: ·), (runAll rest after).2) := by
  unfold runAll OutputFile.run
  rw [writeAll, run_bind, run_lift]
  rcases (file.write : StateM FileSystem (Except PathError Written)) fs with ⟨result, after⟩
  cases result with
  | error problem => rfl
  | ok outcome =>
    dsimp only
    rw [run_bind]
    rcases (writeAll rest : ExceptT SetupFailure (StateM FileSystem) _).run after with
      ⟨written, left⟩
    cases written <;> rfl

/-- Files that are written in order, each with the file system it is written to. Nothing follows a
file that cannot be written. -/
def turns : List OutputFile → FileSystem → List (OutputFile × FileSystem)
  | [], _ => []
  | file :: rest, fs =>
    (file, fs) ::
      match file.run fs with
      | (.error _, _) => []
      | (.ok _, after) => turns rest after

theorem turns_cons (file : OutputFile) (rest : List OutputFile) (fs : FileSystem) :
    turns (file :: rest) fs =
      (file, fs) ::
        match file.run fs with
        | (.error _, _) => []
        | (.ok _, after) => turns rest after := rfl

/-- All that is different are directories on the way to files, and the contents of the files. -/
def ConfinedTo (files : List OutputFile) (before after : FileSystem) : Prop :=
  FileSystem.Confined (fun place => ∃ file ∈ files, place ∈ before.way file.path)
    (fun place found => ∃ file ∈ files,
      place = before.destination file.path ∧ found = .text file.content)
    before after

theorem confinedTo_runAll (files : List OutputFile) (fs : FileSystem) :
    ConfinedTo files fs (runAll files fs).2 := by
  induction files generalizing fs with
  | nil => exact .refl fs
  | cons file rest ih =>
    have hfirst := file.confined_run fs
    have hfile : ConfinedTo (file :: rest) fs (file.run fs).2 :=
      hfirst.mono (fun place hp => ⟨file, by simp, hp⟩) (fun place found hf => ⟨file, by simp, hf⟩)
    rw [runAll_cons]
    rcases hr : file.run fs with ⟨result, after⟩
    rw [hr] at hfirst hfile
    cases result with
    | error problem => exact hfile
    | ok outcome =>
      refine hfile.trans ((ih after).mono ?_ ?_)
      · rintro place ⟨other, ho, hp⟩
        rw [hfirst.way_eq] at hp
        exact ⟨other, List.mem_cons_of_mem _ ho, hp⟩
      · rintro place found ⟨other, ho, hp⟩
        rw [hfirst.destination_eq] at hp
        exact ⟨other, List.mem_cons_of_mem _ ho, hp⟩

theorem within_runAll (files : List OutputFile) (fs : FileSystem) :
    FileSystem.Within (files.map OutputFile.path) fs (runAll files fs).2 := by
  refine FileSystem.Confined.mono (confinedTo_runAll files fs) ?_ ?_
  · rintro place ⟨file, hm, hp⟩
    exact ⟨file.path, List.mem_map_of_mem hm, hp⟩
  · rintro place found ⟨file, hm, hp, -⟩
    exact ⟨file.path, List.mem_map_of_mem hm, hp⟩

/-- Of files that go to different places, and that are to be kept, those are lost that are
overlooked at their turn. -/
theorem runAll_keeps_iff (hk : ∀ file ∈ files, file.overwrite = .ifMissing)
    (hd : (files.map fun file => fs.destination file.path).Nodup) {place : Location}
    {content : Content} (hf : fs.node? place = some (.file content)) :
    (runAll files fs).2.node? place = some (.file content) ↔
      ¬ ∃ turn ∈ turns files fs, turn.1.Overlooks turn.2 ∧
        place = fs.destination turn.1.path := by
  induction files generalizing fs with
  | nil => exact iff_of_true hf fun ⟨_, ht, _⟩ => List.not_mem_nil ht
  | cons file rest ih =>
    rw [List.map_cons, List.nodup_cons] at hd
    have hfirst := file.confined_run fs
    have hkeeps := file.run_keeps (hk file (by simp)) hf
    rw [runAll_cons, turns_cons]
    rcases hr : file.run fs with ⟨result, after⟩
    rw [hr] at hfirst hkeeps
    cases result with
    | error problem =>
      have hn : ¬ file.Overlooks fs := fun ho => by simpa [hr] using ho.lost.1
      simpa [hn] using hkeeps
    | ok outcome =>
      dsimp only
      rw [List.exists_mem_cons_iff, not_or]
      by_cases ho : file.Overlooks fs ∧ place = fs.destination file.path
      · obtain ⟨hlost, rfl⟩ := ho
        have hnew := hlost.lost.2
        rw [hr] at hnew
        obtain ⟨old, hold, hne⟩ := hlost.other
        -- no later file goes there, so the new content stays
        have hstay : (runAll rest after).2.node? (fs.destination file.path) =
            some (.file (.text file.content)) := by
          refine ((confinedTo_runAll rest after).file hnew).resolve_right ?_
          rintro ⟨found, ⟨other, hm, hp, -⟩, -⟩
          rw [hfirst.destination_eq] at hp
          exact hd.1 (List.mem_map.mpr ⟨other, hm, hp.symm⟩)
        have heq : content = old := by simpa [hf] using hold
        refine iff_of_false (fun h => hne ?_) (fun h => h.1 ⟨hlost, rfl⟩)
        rw [hstay] at h
        simpa [heq, eq_comm] using h
      · have hrest := ih (fun other hm => hk other (by simp [hm]))
          (by simpa [hfirst.destination_eq] using hd.2) (hkeeps ho)
        simp only [hfirst.destination_eq] at hrest
        rw [hrest]
        exact (and_iff_right ho).symm

/-- The files of a new project go to different places. -/
theorem setupFiles_nodup (root : Path) (templatesDir : Option Path) (fs : FileSystem) :
    ((setupFiles root templatesDir).map fun file => fs.destination file.path).Nodup := by
  apply List.Nodup.of_map List.head?
  have hnames : ((setupFiles root templatesDir).map fun file =>
      fs.destination file.path).map List.head? =
        [some "forge.toml", some "Model.template", some "Tests.template"] := by
    simp only [setupFiles, Template.builtin, List.map_cons, List.map_nil,
      Template.Store.templatePath, Settings.fileName]
    rw [fs.destination_join _ (by decide) (by decide) (by decide),
      fs.destination_join _ (by decide) (by decide) (by decide),
      fs.destination_join _ (by decide) (by decide) (by decide)]
    rfl
  rw [hnames]
  decide

theorem setupFiles_ifMissing (root : Path) (templatesDir : Option Path) :
    ∀ file ∈ setupFiles root templatesDir, file.overwrite = .ifMissing := by
  intro file hf
  rcases List.mem_cons.mp hf with rfl | hf
  · rfl
  · obtain ⟨template, -, rfl⟩ := List.mem_map.mp hf
    rfl

theorem run_setup (root : Path) (templatesDir : Option Path) (fs : FileSystem) :
    (setup root templatesDir : ExceptT SetupFailure (StateM FileSystem) SetupReport).run fs =
      ((runAll (setupFiles root templatesDir) fs).1.map (⟨root, ·⟩),
        (runAll (setupFiles root templatesDir) fs).2) := by
  unfold runAll
  rw [setup, run_bind]
  rcases (writeAll (setupFiles root templatesDir) :
    ExceptT SetupFailure (StateM FileSystem) _).run fs with ⟨written, left⟩
  cases written <;> rfl

theorem setup_snd (root : Path) (templatesDir : Option Path) (fs : FileSystem) :
    ((setup root templatesDir : ExceptT SetupFailure (StateM FileSystem) SetupReport).run fs).2 =
      (runAll (setupFiles root templatesDir) fs).2 := by
  rw [run_setup]

theorem runAll_cons_ok {file : OutputFile} {rest : List OutputFile} {written : List WrittenFile}
    {after : FileSystem} (h : runAll (file :: rest) fs = (.ok written, after)) :
    ∃ outcome between others, file.run fs = (.ok outcome, between) ∧
      runAll rest between = (.ok others, after) ∧ written = ⟨file.path, outcome⟩ :: others := by
  rw [runAll_cons] at h
  rcases hr : file.run fs with ⟨result, between⟩
  rw [hr] at h
  cases result with
  | error problem => cases h
  | ok outcome =>
    rcases hrest : runAll rest between with ⟨others, left⟩
    simp only [hrest] at h
    cases others with
    | error failure => cases h
    | ok others =>
      cases h
      exact ⟨outcome, between, others, rfl, hrest, rfl⟩

/-- After files were written in order, each of them is reported and is there. Those that were
created hold their contents, as long as the files go to different places. -/
theorem settled_of_runAll {written : List WrittenFile} {after : FileSystem}
    (hd : (files.map fun file => fs.destination file.path).Nodup)
    (h : runAll files fs = (.ok written, after)) :
    written.map WrittenFile.path = files.map OutputFile.path ∧
      ∀ file ∈ files, after.present file.path ∧
        (⟨file.path, .created⟩ ∈ written →
          after.node? (after.destination file.path) = some (.file (.text file.content))) := by
  induction files generalizing fs written with
  | nil =>
    cases h
    simp
  | cons file rest ih =>
    obtain ⟨outcome, between, others, hrun, hrest, rfl⟩ := runAll_cons_ok h
    rw [List.map_cons, List.nodup_cons] at hd
    have hfirst := file.confined_run fs
    have hlater := confinedTo_runAll rest between
    rw [hrun] at hfirst
    rw [hrest] at hlater
    obtain ⟨hpaths, hothers⟩ := ih (by simpa only [hfirst.destination_eq] using hd.2) hrest
    -- no later file has the path of this one, nor the place
    have hapart (other : OutputFile) (ho : other ∈ rest) :
        fs.destination other.path ≠ fs.destination file.path := fun he =>
      hd.1 (List.mem_map.mpr ⟨other, ho, he⟩)
    have hnone (found : Written) : ⟨file.path, found⟩ ∉ others := by
      intro hm
      have hpath : file.path ∈ others.map WrittenFile.path := List.mem_map_of_mem hm
      rw [hpaths] at hpath
      obtain ⟨other, ho, he⟩ := List.mem_map.mp hpath
      exact hapart other ho (congrArg fs.destination he)
    refine ⟨by rw [List.map_cons, List.map_cons, hpaths], List.forall_mem_cons.mpr ⟨⟨?_, ?_⟩, ?_⟩⟩
    · exact hlater.present (OutputFile.present_of_run hrun)
    · intro hm
      have hcreated : outcome = .created := by
        rcases List.mem_cons.mp hm with he | hm
        · exact (congrArg WrittenFile.outcome he).symm
        · exact absurd hm (hnone _)
      subst hcreated
      rw [hlater.destination_eq, hfirst.destination_eq]
      refine (hlater.file (OutputFile.node?_of_created hrun)).resolve_right ?_
      rintro ⟨found, ⟨other, ho, hp, -⟩, -⟩
      rw [hfirst.destination_eq] at hp
      exact hapart other ho hp.symm
    · intro other ho
      refine ⟨(hothers other ho).1, fun hm => (hothers other ho).2 ?_⟩
      rcases List.mem_cons.mp hm with he | hm
      · exact absurd (congrArg (fs.destination ∘ WrittenFile.path) he) (hapart other ho)
      · exact hm

/-- Files that were all created hold their contents, and the first one was missing before. -/
theorem readText_of_created {after : FileSystem}
    (hd : (files.map fun file => fs.destination file.path).Nodup)
    (h : runAll files fs = (.ok (files.map fun file => ⟨file.path, .created⟩), after)) :
    (∀ file ∈ files, after.readText file.path = .ok file.content) ∧
      ∀ file ∈ files.head?, fs.readText file.path = .error .notFound := by
  obtain ⟨-, hsettled⟩ := settled_of_runAll hd h
  constructor
  · intro file hm
    obtain ⟨hpresent, hnode⟩ := hsettled file hm
    refine FileSystem.readText_eq_ok_iff.mpr ⟨(FileSystem.present_iff.mp hpresent).1, ?_⟩
    exact hnode (List.mem_map.mpr ⟨file, hm, rfl⟩)
  · cases files with
    | nil => simp
    | cons file rest =>
      rintro first ⟨⟩
      obtain ⟨outcome, between, others, hrun, -, hwritten⟩ := runAll_cons_ok h
      rw [List.map_cons, List.cons.injEq] at hwritten
      obtain rfl : Written.created = outcome := congrArg WrittenFile.outcome hwritten.1
      exact OutputFile.missing_of_created hrun

theorem fst_mem_of_mem_turns {turn : OutputFile × FileSystem} (h : turn ∈ turns files fs) :
    turn.1 ∈ files := by
  induction files generalizing fs with
  | nil => cases h
  | cons file rest ih =>
    rw [turns_cons] at h
    rcases List.mem_cons.mp h with rfl | h
    · exact List.mem_cons_self ..
    · split at h
      · cases h
      · exact List.mem_cons_of_mem _ (ih h)

/-- The files have no step up in their paths beyond those of the root and of the directory. -/
theorem setupFiles_steps_up {root : Path} {templatesDir : Option Path} (hr : ".." ∉ root.segments)
    (hd : ∀ dir ∈ templatesDir, ".." ∉ dir.segments) :
    ∀ file ∈ setupFiles root templatesDir, ".." ∉ file.path.segments := by
  have hdir : ".." ∉ (templatesDir.getD Settings.standardTemplatesDir).segments := by
    cases templatesDir with
    | none => decide
    | some dir => exact hd dir rfl
  intro file hf hup
  rcases List.mem_cons.mp hf with rfl | hf
  · rcases Path.mem_segments_join hup with h | h
    · exact hr h
    · exact absurd h (by decide)
  · obtain ⟨⟨name, text⟩, ht, rfl⟩ := List.mem_map.mp hf
    have hname : ".." ∉ Path.segments ⟨name ++ ".template"⟩ := by
      simp only [Template.builtin, List.mem_cons, Prod.mk.injEq, List.not_mem_nil, or_false] at ht
      rcases ht with ⟨rfl, -⟩ | ⟨rfl, -⟩ <;> decide
    rcases Path.mem_segments_join hup with h | h
    · rcases Path.mem_segments_join h with h | h
      · exact hr h
      · exact hdir h
    · exact hname h

/-- Setting up a project takes nothing away and adds only its files and their folders, whether it
succeeds or not. A file that was there keeps its content unless it is overlooked: its path does not
lead to it until the folders are made. -/
theorem setup_keeps_unless_overlooked (root : Path) (templatesDir : Option Path)
    (fs : FileSystem) :
    let files := setupFiles root templatesDir
    let after :=
      ((setup root templatesDir : ExceptT SetupFailure (StateM FileSystem) SetupReport).run fs).2
    after.current = fs.current ∧
      (∀ place, fs.node? place = some .directory → after.node? place = some .directory) ∧
      (∀ place content, fs.node? place = some (.file content) →
        (∃ left, after.node? place = some (.file left)) ∧
          (after.node? place = some (.file content) ↔
            ¬ ∃ turn ∈ turns files fs, turn.1.Overlooks turn.2 ∧
              place = fs.destination turn.1.path)) ∧
      ∀ place, fs.node? place = none →
        after.node? place = none ∨
          (after.node? place = some .directory ∧ ∃ file ∈ files, place ∈ fs.way file.path) ∨
          ∃ file ∈ files, place = fs.destination file.path ∧
            after.node? place = some (.file (.text file.content)) := by
  intro files after
  have hafter : after = (runAll files fs).2 := setup_snd root templatesDir fs
  rw [hafter]
  have hc := confinedTo_runAll files fs
  refine ⟨hc.current, fun place hd => hc.directory hd, fun place content hf => ⟨?_, ?_⟩,
    fun place hn => ?_⟩
  · rcases hc.file hf with h | ⟨found, -, h⟩
    · exact ⟨content, h⟩
    · exact ⟨found, h⟩
  · exact runAll_keeps_iff (setupFiles_ifMissing root templatesDir)
      (setupFiles_nodup root templatesDir fs) hf
  · have hp := hc.change place
    rw [hn] at hp
    generalize (runAll files fs).2.node? place = new at hp
    cases hp with
    | same => exact .inl rfl
    | folder hw => exact .inr (.inl ⟨rfl, hw⟩)
    | content _ hw =>
      obtain ⟨file, hm, hp, rfl⟩ := hw
      exact .inr (.inr ⟨file, hm, hp, rfl⟩)

/-- With a missing directory and a step up from it, the settings that exist are written over. -/
theorem setup_overwrites_overlooked :
    let fs := FileSystem.empty.put ["forge.toml"] (.file (.text "kept"))
    let after := ((setup ⟨"new/.."⟩ none :
      ExceptT SetupFailure (StateM FileSystem) SetupReport).run fs).2
    fs.node? ["forge.toml"] = some (.file (.text "kept")) ∧
      after.node? ["forge.toml"] ≠ some (.file (.text "kept")) := by
  decide +kernel

/-- No file is lost when neither the root nor the directory of the templates has a step up. -/
theorem setup_keeps_files {root : Path} {templatesDir : Option Path} (hr : ".." ∉ root.segments)
    (hd : ∀ dir ∈ templatesDir, ".." ∉ dir.segments) {place : Location} {content : Content}
    (hf : fs.node? place = some (.file content)) :
    ((setup root templatesDir : ExceptT SetupFailure (StateM FileSystem) SetupReport).run
      fs).2.node? place = some (.file content) := by
  rw [setup_snd]
  refine (runAll_keeps_iff (setupFiles_ifMissing root templatesDir)
    (setupFiles_nodup root templatesDir fs) hf).mpr ?_
  rintro ⟨turn, ht, ho, -⟩
  exact OutputFile.not_overlooks (setupFiles_steps_up hr hd _ (fst_mem_of_mem_turns ht)) ho

end EntityScaffold.Project
