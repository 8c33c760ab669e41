import EntityScaffold.Proofs.FileSystem.Rewriting

/-!
Removing files, and writing them again. A file system that lacks some files of another one still
has all their folders, so each of the files can be written where it was.
-/

namespace EntityScaffold.FileSystem

variable {fs whole lacking : FileSystem} {path : Path} {place : Location}
  {missing : Location → Prop}

/-- Nothing lies below a place that is no directory. -/
theorem node?_within (ht : fs.node? place ≠ some .directory) {below : Location}
    (hw : isWithin place below) (hne : below ≠ place) : fs.node? below = none := by
  rw [isWithin, List.isSuffixOf_iff_suffix] at hw
  rw [Option.eq_none_iff_forall_ne_some]
  intro node hn
  exact ht (fs.node?_of_suffix hn hw (Ne.symm hne))

theorem node?_without (hp : place ≠ []) (other : Location) :
    (fs.without place).node? other = if isWithin place other then none else fs.node? other := by
  unfold node? without
  dsimp only
  by_cases ho : other = []
  · subst ho
    have hn : isWithin place [] = false := by
      rw [isWithin, Bool.eq_false_iff, ne_eq, List.isSuffixOf_iff_suffix, List.suffix_nil]
      exact hp
    simp [hn]
  · rw [if_neg ho, if_neg ho, Std.ExtTreeMap.getElem?_filter']
    cases isWithin place other <;> cases fs.nodes[other]? <;> simp

/-- Without a file only that one is gone. -/
theorem node?_without_file (ht : fs.node? place ≠ some .directory) (other : Location) :
    (fs.without place).node? other = if other = place then none else fs.node? other := by
  have hp : place ≠ [] := by
    rintro rfl
    exact ht fs.node?_root
  rw [node?_without hp]
  by_cases ho : other = place
  · have hw : isWithin place place := by
      rw [isWithin, List.isSuffixOf_iff_suffix]
    rw [ho, if_pos hw, if_pos rfl]
  · rw [if_neg ho]
    split
    · next hw => exact (node?_within ht hw ho).symm
    · rfl

/-- The same as in another file system, but that some of its files are gone. -/
structure Lacks (lacking whole : FileSystem) (missing : Location → Prop) : Prop where
  current : lacking.current = whole.current
  file : ∀ place, missing place → ∃ content, whole.node? place = some (.file content)
  gone : ∀ place, missing place → lacking.node? place = none
  kept : ∀ place, ¬ missing place → lacking.node? place = whole.node? place

namespace Lacks

theorem refl (fs : FileSystem) : fs.Lacks fs fun _ => False :=
  ⟨rfl, fun _ h => h.elim, fun _ h => h.elim, fun _ _ => rfl⟩

theorem congr (h : lacking.Lacks whole missing) {missing' : Location → Prop}
    (hm : ∀ place, missing place ↔ missing' place) : lacking.Lacks whole missing' :=
  ⟨h.current, fun place hp => h.file place ((hm place).mpr hp),
    fun place hp => h.gone place ((hm place).mpr hp),
    fun place hp => h.kept place fun hn => hp ((hm place).mp hn)⟩

theorem eq (h : lacking.Lacks whole missing) (hm : ∀ place, ¬ missing place) : lacking = whole :=
  FileSystem.ext (fun place => h.kept place (hm place)) h.current

theorem destination_eq (h : lacking.Lacks whole missing) (path : Path) :
    lacking.destination path = whole.destination path := by
  simp only [destination, base, h.current]

theorem way_eq (h : lacking.Lacks whole missing) (path : Path) :
    lacking.way path = whole.way path := by
  simp only [way, base, h.current]

theorem directory (h : lacking.Lacks whole missing) (hd : whole.node? place = some .directory) :
    lacking.node? place = some .directory := by
  rw [h.kept place, hd]
  intro hm
  obtain ⟨content, hf⟩ := h.file place hm
  simp [hd] at hf

/-- No folder is gone, so every path leads where it led. -/
theorem reaches (h : lacking.Lacks whole missing) (hr : whole.Reaches path) :
    lacking.Reaches path :=
  ⟨hr.usable, fun passed hp => h.directory (hr.passes passed (h.way_eq path ▸ hp))⟩

theorem not_present (h : lacking.Lacks whole missing) (hm : missing (whole.destination path)) :
    lacking.present path = false := by
  rw [Bool.eq_false_iff, ne_eq, present_iff]
  rintro ⟨-, node, hn⟩
  rw [h.destination_eq, h.gone _ hm] at hn
  cases hn

theorem present (h : lacking.Lacks whole missing) (hm : ¬ missing (whole.destination path))
    (hp : whole.present path) : lacking.present path := by
  obtain ⟨hr, node, hn⟩ := present_iff.mp hp
  refine present_iff.mpr ⟨h.reaches hr, node, ?_⟩
  rw [h.destination_eq, h.kept _ hm, hn]

theorem remove (h : lacking.Lacks whole missing) (hh : whole.Holds path) :
    (lacking.remove path).Lacks whole
      fun place => place = whole.destination path ∨ missing place := by
  obtain ⟨content, hf⟩ := hh.file
  have hd : lacking.node? (whole.destination path) ≠ some .directory := by
    intro hd
    by_cases hm : missing (whole.destination path)
    · simp [h.gone _ hm] at hd
    · simp [h.kept _ hm, hf] at hd
  rw [FileSystem.remove, (h.reaches hh.reaches).resolve, h.destination_eq]
  dsimp only
  refine ⟨h.current, ?_, ?_, ?_⟩
  · rintro place (rfl | hm)
    · exact ⟨content, hf⟩
    · exact h.file place hm
  · intro place hm
    rw [node?_without_file hd]
    split
    · rfl
    · next hne => exact h.gone place (hm.resolve_left hne)
  · intro place hm
    rw [not_or] at hm
    rw [node?_without_file hd, if_neg hm.1, h.kept place hm.2]

/-- A file that is gone can be written where it was, and then it is no longer missing. -/
theorem restore (h : lacking.Lacks whole missing) (hr : whole.Reaches path) {content : Content}
    (hf : whole.node? (whole.destination path) = some (.file content))
    (hm : missing (whole.destination path)) :
    ∃ after, lacking.write path content = (.ok (), after) ∧
      after.Lacks whole fun place => missing place ∧ place ≠ whole.destination path := by
  have hreach := h.reaches hr
  have hfree : lacking.node? (lacking.destination path) ≠ some .directory := by
    rw [h.destination_eq, h.gone _ hm]
    simp
  obtain ⟨after, hw⟩ := hreach.write hfree content
  refine ⟨after, hw, (current_of_write hw).trans h.current, fun place hp => h.file place hp.1,
    fun place hp => ?_, fun place hp => ?_⟩
  · rw [node?_of_write hw, h.destination_eq, h.way_eq, if_neg hp.2, if_neg]
    · exact h.gone place hp.1
    · intro hway
      obtain ⟨found, hfile⟩ := h.file place hp.1
      simp [hr.passes place hway] at hfile
  · rw [node?_of_write hw, h.destination_eq, h.way_eq]
    split
    · next he => rw [he, hf]
    · next he =>
      split
      · next hway => exact (hr.passes place hway).symm
      · exact h.kept place fun hn => hp ⟨hn, he⟩

end Lacks

/-- Removing files takes nothing but them. -/
theorem lacks_of_removed {gone : List Path} (hg : ∀ path ∈ gone, fs.Holds path) :
    (gone.foldl FileSystem.remove fs).Lacks fs
      fun place => ∃ path ∈ gone, place = fs.destination path := by
  have hfold (lacking : FileSystem) (missing : Location → Prop) (h : lacking.Lacks fs missing) :
      (gone.foldl FileSystem.remove lacking).Lacks fs
        fun place => missing place ∨ ∃ path ∈ gone, place = fs.destination path := by
    induction gone generalizing lacking missing with
    | nil => exact h.congr fun place => by simp
    | cons path rest ih =>
      have hrest := ih (fun other ho => hg other (List.mem_cons_of_mem _ ho)) _ _
        (h.remove (hg path List.mem_cons_self))
      refine hrest.congr fun place => ?_
      rw [List.exists_mem_cons_iff]
      tauto
  exact (hfold fs _ (.refl fs)).congr fun place => by simp

end EntityScaffold.FileSystem
