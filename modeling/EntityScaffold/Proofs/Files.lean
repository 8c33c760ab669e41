import EntityScaffold.Files
import EntityScaffold.Proofs.FileSystem.Writing

/-!
What writing an output file does to a file system, and when a file that is to be kept is lost.
-/

namespace EntityScaffold

section Failing

variable {ε α β : Type}

/-- A computation that fails ends there, and leaves what it did. -/
theorem run_bind (x : ExceptT ε (StateM FileSystem) α) (f : α → ExceptT ε (StateM FileSystem) β)
    (fs : FileSystem) :
    (x >>= f).run fs =
      match x.run fs with
      | (.error problem, after) => (.error problem, after)
      | (.ok value, after) => (f value).run after := by
  simp only [ExceptT.run, bind, ExceptT.bind, ExceptT.mk, StateT.bind]
  rcases (x : StateM FileSystem (Except ε α)) fs with ⟨result, after⟩
  cases result <;> rfl

theorem run_lift (x : StateM FileSystem α) (fs : FileSystem) :
    (liftM x : ExceptT ε (StateM FileSystem) α).run fs = (.ok (x fs).1, (x fs).2) := rfl

theorem run_map (f : α → β) (x : ExceptT ε (StateM FileSystem) α) (fs : FileSystem) :
    (f <$> x).run fs = ((x.run fs).1.map f, (x.run fs).2) := by
  rw [map_eq_pure_bind, run_bind]
  rcases x.run fs with ⟨result, after⟩
  cases result <;> rfl

theorem eq_ok_of_toOption {made : Except ε α} {value : α} (h : made.toOption = some value) :
    made = .ok value := by
  cases made with
  | error _ => cases h
  | ok other => exact congrArg Except.ok (Option.some.inj h)

theorem exists_of_isOk {made : Except ε α × β} (h : made.1.isOk = true) :
    ∃ value, made = (.ok value, made.2) := by
  rcases made with ⟨result, left⟩
  cases result with
  | error _ => cases h
  | ok value => exact ⟨value, rfl⟩

end Failing

namespace OutputFile

variable {file : OutputFile} {fs : FileSystem}

/-- What becomes of a file, and the file system it leaves. -/
def run (file : OutputFile) (fs : FileSystem) : Except PathError Written × FileSystem :=
  (file.write : StateM FileSystem (Except PathError Written)) fs

theorem run_eq (file : OutputFile) (fs : FileSystem) :
    file.run fs =
      if fs.present file.path && file.overwrite == .ifMissing then (.ok .skipped, fs)
      else
        ((fs.write file.path (.text file.content)).1.map fun _ =>
          if fs.present file.path then .overwritten else .created,
          (fs.write file.path (.text file.content)).2) := by
  unfold run OutputFile.write
  simp only [bind, StateT.bind, Files.present, Files.writeText, pure]
  split
  · rfl
  · simp only [StateT.bind]
    rcases fs.write file.path (.text file.content) with ⟨result, after⟩
    cases result <;> rfl

/-- A file that is written anyway is written as its path and its content say. -/
theorem run_always (path : Path) (content : String) (fs : FileSystem) :
    OutputFile.run { path, content } fs =
      ((fs.write path (.text content)).1.map fun _ =>
        if fs.present path then .overwritten else .created,
        (fs.write path (.text content)).2) := by
  have hoverwrite : (Overwrite.always == Overwrite.ifMissing) = false := rfl
  rw [run_eq, hoverwrite, Bool.and_false, if_neg Bool.false_ne_true]

/-- Writing an output file adds directories on its way, and may give the file its content. -/
theorem confined_run (file : OutputFile) (fs : FileSystem) :
    FileSystem.Confined (· ∈ fs.way file.path)
      (fun place found => place = fs.destination file.path ∧ found = .text file.content)
      fs (file.run fs).2 := by
  rw [run_eq]
  split
  · exact .refl fs
  · dsimp only
    exact (fs.confined_write file.path (.text file.content)).mono (fun _ hp => hp)
      fun _ _ hf => hf.2

theorem write_of_run {outcome : Written} {after : FileSystem}
    (h : file.run fs = (.ok outcome, after)) (hw : outcome ≠ .skipped) :
    fs.write file.path (.text file.content) = (.ok (), after) ∧
      outcome = if fs.present file.path then .overwritten else .created := by
  rw [run_eq] at h
  split at h
  · cases h
    exact absurd rfl hw
  · rcases hwrite : fs.write file.path (.text file.content) with ⟨result, left⟩
    rw [hwrite] at h
    cases result with
    | error problem => cases h
    | ok _ =>
      cases h
      exact ⟨rfl, rfl⟩

/-- A file is skipped only if it is there and to be kept, and then nothing is done. -/
theorem present_of_skipped {after : FileSystem} (h : file.run fs = (.ok .skipped, after)) :
    fs.present file.path ∧ file.overwrite = .ifMissing ∧ after = fs := by
  rw [run_eq] at h
  split at h
  · next hkept =>
    cases h
    obtain ⟨hp, ho⟩ := Bool.and_eq_true_iff.mp hkept
    exact ⟨hp, eq_of_beq ho, rfl⟩
  · rcases hwrite : fs.write file.path (.text file.content) with ⟨result, left⟩
    rw [hwrite] at h
    cases result with
    | error problem => cases h
    | ok _ =>
      simp only [Except.map, Prod.mk.injEq, Except.ok.injEq] at h
      split_ifs at h <;> cases h.1

/-- A file that did not fail is there afterwards, skipped or not. -/
theorem present_of_run {outcome : Written} {after : FileSystem}
    (h : file.run fs = (.ok outcome, after)) : after.present file.path := by
  by_cases hs : outcome = .skipped
  · subst hs
    obtain ⟨hp, -, rfl⟩ := present_of_skipped h
    exact hp
  · obtain ⟨hwrite, -⟩ := write_of_run h hs
    have hread := FileSystem.readText_write hwrite
    obtain ⟨hr, hn⟩ := FileSystem.readText_eq_ok_iff.mp hread
    exact FileSystem.present_iff.mpr ⟨hr, _, hn⟩

/-- A file that was created is there with its content. -/
theorem node?_of_created {after : FileSystem} (h : file.run fs = (.ok .created, after)) :
    after.node? (fs.destination file.path) = some (.file (.text file.content)) := by
  have hwrite := (write_of_run h (by decide)).1
  have hnode := FileSystem.node?_write (congrArg Prod.fst hwrite)
  rwa [hwrite] at hnode

theorem write_of_refused {problem : PathError} {after : FileSystem}
    (h : file.run fs = (.error problem, after)) :
    fs.write file.path (.text file.content) = (.error problem, after) := by
  rw [run_eq] at h
  split at h
  · cases h
  · rcases hwrite : fs.write file.path (.text file.content) with ⟨result, left⟩
    rw [hwrite] at h
    cases result with
    | error other =>
      cases h
      rfl
    | ok _ => cases h

/-- Writing a file without regard to what was there. It succeeds exactly if the way can be completed
and the place at its end is neither a directory nor becomes one. Then the path leads to the content,
and nothing else has changed but for folders on the way; if it fails, such folders are all that was
made. Whatever was there before still is, as the same kind. -/
theorem written_or_refused (path : Path) (content : String) (fs : FileSystem) :
    let file : OutputFile := { path, content }
    ((∃ outcome after, file.run fs = (.ok outcome, after)) ↔
      fs.Passable path ∧ fs.node? (fs.destination path) ≠ some .directory ∧
        fs.destination path ∉ fs.way path) ∧
    (∀ outcome after, file.run fs = (.ok outcome, after) →
      after.readText path = .ok content ∧
      (∀ place found, place ≠ fs.destination path →
        (after.node? place = some (.file found) ↔ fs.node? place = some (.file found))) ∧
      (∀ place, after.node? place = some .directory →
        fs.node? place = some .directory ∨ fs.node? place = none ∧ place ∈ fs.way path) ∧
      outcome = if fs.present path then .overwritten else .created) ∧
    (∀ problem after, file.run fs = (.error problem, after) →
      (∀ place found,
        after.node? place = some (.file found) ↔ fs.node? place = some (.file found)) ∧
      ∀ place, after.node? place = some .directory →
        fs.node? place = some .directory ∨ fs.node? place = none ∧ place ∈ fs.way path) ∧
    FileSystem.Keeps fs (file.run fs).2 := by
  intro file
  refine ⟨?_, ?_, ?_, (file.confined_run fs).keeps⟩
  · have hpassable : (fs.write path (.text content)).1 = .ok () ↔ _ := FileSystem.write_ok_iff
    rw [← hpassable, run_always]
    rcases fs.write path (.text content) with ⟨result, after⟩
    cases result <;> simp [Except.map]
  · intro outcome after h
    have hskipped : outcome ≠ .skipped := by
      rintro rfl
      cases (present_of_skipped h).2.1
    obtain ⟨hwrite, houtcome⟩ := write_of_run h hskipped
    have hc := FileSystem.confined_of_write_ok hwrite
    refine ⟨FileSystem.readText_write hwrite, fun place found hne => ?_,
      fun place hd => hc.directory_before hd, houtcome⟩
    exact hc.file_iff fun _ hf => hne hf.1
  · intro problem after h
    have hc := FileSystem.confined_of_write_error (write_of_refused h)
    exact ⟨fun place found => hc.file_iff fun _ => id, fun place hd => hc.directory_before hd⟩

/-- A file stands on the way, behind a directory that is missing and is made all the same. -/
theorem written_or_refused_below_file :
    let fs := FileSystem.empty.put ["post"] (.file (.text "kept"))
    let file : OutputFile := { path := ⟨"new/../post/text"⟩, content := "text" }
    ∃ problem after, file.run fs = (.error problem, after) ∧
      fs.node? ["new"] = none ∧ after.node? ["new"] = some .directory ∧
      after.node? ["post"] = some (.file (.text "kept")) := by
  intro fs file
  have hfails : (file.run fs).1.isOk = false ∧ fs.node? ["new"] = none ∧
      (file.run fs).2.node? ["new"] = some .directory ∧
      fs.node? ["post"] = some (.file (.text "kept")) := by decide +kernel
  rcases hrun : file.run fs with ⟨result, after⟩
  rw [hrun] at hfails
  obtain ⟨hresult, hmissing, hmade, hthere⟩ := hfails
  cases result with
  | ok outcome => cases hresult
  | error problem =>
    have hrefused := (written_or_refused file.path file.content fs).2.2.1 problem after hrun
    exact ⟨problem, after, rfl, hmissing, hmade, (hrefused.1 _ _).mpr hthere⟩

/-- A file that was created was missing before. -/
theorem missing_of_created {after : FileSystem} (h : file.run fs = (.ok .created, after)) :
    fs.readText file.path = .error .notFound := by
  obtain ⟨hwrite, houtcome⟩ := write_of_run h (by decide)
  have habsent : fs.present file.path = false := by
    rw [Bool.eq_false_iff]
    intro hp
    rw [if_pos hp] at houtcome
    cases houtcome
  have hpassable := (FileSystem.write_ok_iff.mp (congrArg Prod.fst hwrite)).1
  exact hpassable.readText_absent habsent

/-- A file is overlooked if its path does not lead to it, but only because directories are missing
on the way that writing makes, and if it holds something else than what is to be written. -/
structure Overlooks (file : OutputFile) (fs : FileSystem) : Prop where
  passable : fs.Passable file.path
  broken : ∃ passed ∈ fs.way file.path, fs.node? passed = none
  other : ∃ content, fs.node? (fs.destination file.path) = some (.file content) ∧
    content ≠ .text file.content

/-- An overlooked file is written over. -/
theorem Overlooks.lost (h : file.Overlooks fs) :
    (file.run fs).1 = .ok .created ∧
      (file.run fs).2.node? (fs.destination file.path) = some (.file (.text file.content)) := by
  obtain ⟨passed, hp, hm⟩ := h.broken
  obtain ⟨content, hc, -⟩ := h.other
  have habsent : fs.present file.path = false := by
    rw [Bool.eq_false_iff]
    intro hpresent
    have hd := (FileSystem.present_iff.mp hpresent).1.passes passed hp
    simp [hm] at hd
  have hok : (fs.write file.path (.text file.content)).1 = .ok () :=
    FileSystem.write_ok_iff.mpr ⟨h.passable, by simp [hc], fun hl => h.passable.clear _ hl _ hc⟩
  rw [run_eq, habsent]
  simp [hok, FileSystem.node?_write hok, Except.map]

/-- A file that is to be kept is kept unless it is overlooked. -/
theorem run_keeps (hk : file.overwrite = .ifMissing) {place : Location} {content : Content}
    (hf : fs.node? place = some (.file content))
    (hn : ¬ (file.Overlooks fs ∧ place = fs.destination file.path)) :
    (file.run fs).2.node? place = some (.file content) := by
  rw [run_eq, hk]
  split
  · exact hf
  · next hpresent =>
    dsimp only
    have hw := fs.confined_write file.path (.text file.content)
    rcases hw.file hf with hsame | ⟨found, ⟨hok, rfl, rfl⟩, ha⟩
    · exact hsame
    · obtain ⟨hp, -, -⟩ := FileSystem.write_ok_iff.mp hok
      by_cases hsame : content = .text file.content
      · rw [ha, hsame]
      · refine absurd ⟨⟨hp, ?_, content, hf, hsame⟩, rfl⟩ hn
        by_contra hall
        simp only [not_exists, not_and] at hall
        refine hpresent ?_
        simp only [beq_self_eq_true, Bool.and_true]
        refine FileSystem.present_iff.mpr ⟨⟨hp.usable, fun passed hm => ?_⟩, _, hf⟩
        cases hnode : fs.node? passed with
        | none => exact absurd hnode (hall passed hm)
        | some node =>
          cases node with
          | directory => rfl
          | file content => exact absurd hnode (hp.clear passed hm content)

/-- No file is overlooked whose path has no step up: what a file lies in are directories. -/
theorem not_overlooks (h : ".." ∉ file.path.segments) : ¬ file.Overlooks fs := by
  rintro ⟨hp, ⟨passed, hm, hmissing⟩, content, hc, -⟩
  have hs : passed <:+ fs.destination file.path := Location.way_suffix h hm
  by_cases he : passed = fs.destination file.path
  · simp [he, hc] at hmissing
  · simp [fs.node?_of_suffix hc hs he] at hmissing

end OutputFile

end EntityScaffold
