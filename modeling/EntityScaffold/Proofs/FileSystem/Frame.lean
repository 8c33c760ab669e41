import EntityScaffold.Proofs.FileSystem.Way

/-!
What a change of a file system leaves as it was. Making directories and writing files never takes
anything away, and all that they add or replace lies on the way of a path or at its end.
-/

namespace EntityScaffold.FileSystem

/-- What a change may do at a place: nothing, make a directory where nothing lay, or give a file a
content. -/
inductive Change (folders : Location → Prop) (files : Location → Content → Prop)
    (place : Location) : Option Node → Option Node → Prop where
  | same (node : Option Node) : Change folders files place node node
  | folder (h : folders place) : Change folders files place none (some .directory)
  | content {before : Option Node} {content : Content} (hb : before ≠ some .directory)
      (h : files place content) : Change folders files place before (some (.file content))

/-- All that is different lies at the given places. -/
structure Confined (folders : Location → Prop) (files : Location → Content → Prop)
    (before after : FileSystem) : Prop where
  current : after.current = before.current
  change (place : Location) :
    Change folders files place (before.node? place) (after.node? place)

variable {folders folders' : Location → Prop} {files files' : Location → Content → Prop}
  {before between after : FileSystem} {place : Location} {content : Content}

theorem Confined.refl (fs : FileSystem) : Confined folders files fs fs := ⟨rfl, fun _ => .same _⟩

theorem Change.mono {old new : Option Node} (h : Change folders files place old new)
    (hd : folders place → folders' place)
    (hf : ∀ content, files place content → files' place content) :
    Change folders' files' place old new := by
  cases h with
  | same => exact .same _
  | folder h => exact .folder (hd h)
  | content hb h => exact .content hb (hf _ h)

theorem Confined.mono (h : Confined folders files before after)
    (hd : ∀ place, folders place → folders' place)
    (hf : ∀ place content, files place content → files' place content) :
    Confined folders' files' before after :=
  ⟨h.current, fun place => (h.change place).mono (hd place) (hf place)⟩

theorem Change.trans {old mid new : Option Node} (h : Change folders files place old mid)
    (h' : Change folders files place mid new) : Change folders files place old new := by
  cases h' with
  | same => exact h
  | folder hd =>
    cases h with
    | same => exact .folder hd
  | content hb hf =>
    refine .content ?_ hf
    rintro rfl
    cases h with
    | same => exact hb rfl
    | content hd => exact hd rfl

theorem Confined.trans (h : Confined folders files before between)
    (h' : Confined folders files between after) : Confined folders files before after :=
  ⟨h'.current.trans h.current, fun place => (h.change place).trans (h'.change place)⟩

theorem Confined.directory (h : Confined folders files before after)
    (hd : before.node? place = some .directory) : after.node? place = some .directory := by
  have hc := h.change place
  rw [hd] at hc
  generalize after.node? place = new at hc
  cases hc with
  | same => rfl
  | content hb => exact absurd rfl hb

theorem Confined.file (h : Confined folders files before after)
    (hf : before.node? place = some (.file content)) :
    after.node? place = some (.file content) ∨
      ∃ other, files place other ∧ after.node? place = some (.file other) := by
  have hc := h.change place
  rw [hf] at hc
  generalize after.node? place = new at hc
  cases hc with
  | same => exact .inl rfl
  | content _ hw => exact .inr ⟨_, hw, rfl⟩

/-- A file that is there afterwards was there before, or was given its content. -/
theorem Confined.file_before (h : Confined folders files before after)
    (hf : after.node? place = some (.file content)) :
    before.node? place = some (.file content) ∨ files place content := by
  have hc := h.change place
  rw [hf] at hc
  generalize before.node? place = old at hc
  cases hc with
  | same => exact .inl rfl
  | content _ hw => exact .inr hw

/-- Where no file is given a content, the files are those that were there. -/
theorem Confined.file_iff (h : Confined folders files before after)
    (hn : ∀ content, ¬ files place content) :
    after.node? place = some (.file content) ↔ before.node? place = some (.file content) :=
  ⟨fun hf => (h.file_before hf).resolve_right (hn content),
    fun hf => (h.file hf).resolve_right fun ⟨other, ho, _⟩ => hn other ho⟩

theorem Confined.directory_before (h : Confined folders files before after)
    (hd : after.node? place = some .directory) :
    before.node? place = some .directory ∨ before.node? place = none ∧ folders place := by
  have hc := h.change place
  rw [hd] at hc
  generalize before.node? place = old at hc
  cases hc with
  | same => exact .inl rfl
  | folder hw => exact .inr ⟨rfl, hw⟩

/-- All that was there still is, files as files and directories as directories. -/
def Keeps (before after : FileSystem) : Prop :=
  ∀ place node, before.node? place = some node →
    ∃ left, after.node? place = some left ∧ (left = .directory ↔ node = .directory)

theorem Keeps.refl (fs : FileSystem) : Keeps fs fs := fun _ node h => ⟨node, h, .rfl⟩

theorem Keeps.trans (h : Keeps before between) (h' : Keeps between after) : Keeps before after := by
  intro place node hn
  obtain ⟨mid, hm, hkind⟩ := h place node hn
  obtain ⟨left, hl, hkind'⟩ := h' place mid hm
  exact ⟨left, hl, hkind'.trans hkind⟩

theorem Confined.keeps (h : Confined folders files before after) : Keeps before after := by
  intro place node hn
  cases node with
  | directory => exact ⟨.directory, h.directory hn, .rfl⟩
  | file content =>
    rcases h.file hn with hf | ⟨other, -, hf⟩
    · exact ⟨_, hf, .rfl⟩
    · exact ⟨_, hf, by simp⟩

/-- Where a path leads depends on the current directory alone. -/
theorem Confined.destination_eq (h : Confined folders files before after) (path : Path) :
    after.destination path = before.destination path := by
  simp only [destination, base, h.current]

theorem Confined.way_eq (h : Confined folders files before after) (path : Path) :
    after.way path = before.way path := by
  simp only [way, base, h.current]

/-- A path that led to its destination still does. -/
theorem Confined.reaches (h : Confined folders files before after) {path : Path}
    (hr : before.Reaches path) : after.Reaches path := by
  refine ⟨hr.usable, fun passed hp => ?_⟩
  rw [h.way_eq] at hp
  exact h.directory (hr.passes passed hp)

/-- What was there can still be found. -/
theorem Confined.present (h : Confined folders files before after) {path : Path}
    (hp : before.present path) : after.present path := by
  obtain ⟨hr, node, hn⟩ := present_iff.mp hp
  obtain ⟨left, hl, -⟩ := h.keeps _ _ hn
  exact present_iff.mpr ⟨h.reaches hr, left, by rw [h.destination_eq, hl]⟩

/-- A text that can be read still can, unless its file was given another one. -/
theorem Confined.readText (h : Confined folders files before after) {path : Path} {text : String}
    (hr : before.readText path = .ok text)
    (hf : ∀ found, files (before.destination path) found → found = .text text) :
    after.readText path = .ok text := by
  obtain ⟨hreach, hnode⟩ := readText_eq_ok_iff.mp hr
  refine readText_eq_ok_iff.mpr ⟨h.reaches hreach, ?_⟩
  rw [h.destination_eq]
  rcases h.file hnode with hsame | ⟨found, hfound, hnew⟩
  · exact hsame
  · rw [hnew, hf found hfound]

/-- All that is different are folders on the way of paths, and files where the paths lead. -/
def Within (paths : List Path) (before after : FileSystem) : Prop :=
  Confined (fun place => ∃ path ∈ paths, place ∈ before.way path)
    (fun place _ => ∃ path ∈ paths, place = before.destination path) before after

variable {paths paths' : List Path}

theorem Within.mono (h : Within paths before after) (hs : paths ⊆ paths') :
    Within paths' before after :=
  Confined.mono h (fun _ ⟨path, hm, hp⟩ => ⟨path, hs hm, hp⟩)
    fun _ _ ⟨path, hm, hp⟩ => ⟨path, hs hm, hp⟩

theorem Within.trans (h : Within paths before between) (h' : Within paths between after) :
    Within paths before after := by
  refine Confined.trans h (Confined.mono h' ?_ ?_)
  · rintro place ⟨path, hm, hp⟩
    exact ⟨path, hm, Confined.way_eq h path ▸ hp⟩
  · rintro place _ ⟨path, hm, hp⟩
    exact ⟨path, hm, Confined.destination_eq h path ▸ hp⟩

/-! ### Making directories -/

theorem confined_put {fs : FileSystem} {node : Node} (h : fs.Admits place node)
    (hd : node = .directory → fs.node? place = none ∧ folders place)
    (hf : ∀ content, node = .file content → files place content) :
    Confined folders files fs (fs.put place node) := by
  refine ⟨fs.current_put place node, fun other => ?_⟩
  rw [node?_put h]
  by_cases he : other = place
  · subst he
    rw [if_pos rfl]
    cases node with
    | directory =>
      obtain ⟨hn, hw⟩ := hd rfl
      rw [hn]
      exact .folder hw
    | file content => exact .content (h.2.2.resolve_left (by simp)) (hf content rfl)
  · rw [if_neg he]
    exact .same _

theorem confined_addDirectory (fs : FileSystem) (place : Location) :
    Confined (· = place) (fun _ _ => False) fs (fs.addDirectory place) := by
  unfold addDirectory
  split
  · next hn =>
    by_cases ha : fs.Admits place .directory
    · exact confined_put ha (fun _ => ⟨by simpa using hn, rfl⟩) (by simp)
    · rw [put, dif_neg ha]
      exact .refl fs
  · exact .refl fs

theorem addDirectory_eq_self {fs : FileSystem} (h : fs.node? place = some .directory) :
    fs.addDirectory place = fs := by
  simp [addDirectory, h]

/-- The place one segment further is a directory then, unless a file is in the way. -/
theorem node?_addDirectory_advance {fs : FileSystem} {segment : String}
    (h : fs.node? place = some .directory)
    (hf : ∀ content, fs.node? (place.advance segment) ≠ some (.file content)) :
    (fs.addDirectory (place.advance segment)).node? (place.advance segment) =
      some .directory := by
  cases hn : fs.node? (place.advance segment) with
  | some node =>
    cases node with
    | directory => rw [addDirectory_eq_self hn, hn]
    | file content => exact absurd hn (hf content)
  | none =>
    have ha : fs.Admits (place.advance segment) .directory := by
      unfold Location.advance at hn ⊢
      split at hn
      · simp [h] at hn
      · split at hn
        · simp [fs.node?_up h] at hn
        · next hi hu =>
          rw [if_neg hi, if_neg hu]
          exact ⟨by simp, h, .inl rfl⟩
    simp [addDirectory, hn, node?_put ha]

theorem makeFrom_cons (place : Location) (segment : String) (rest : List String)
    (fs : FileSystem) :
    makeFrom place (segment :: rest) fs =
      match fs.node? place with
      | none => (.error .notFound, fs)
      | some (.file _) => (.error .notDirectory, fs)
      | some .directory =>
        if segment.utf8ByteSize ≤ Path.maxNameBytes then
          makeFrom (place.advance segment) rest (fs.addDirectory (place.advance segment))
        else (.error .nameTooLong, fs) := by
  rw [makeFrom]
  unfold Location.advance
  cases hn : fs.node? place with
  | none => rfl
  | some node =>
    cases node with
    | file content => rfl
    | directory =>
      by_cases hi : Path.isIdle segment
      · simp [hi, fits_of_idle hi, addDirectory_eq_self hn]
      · by_cases hu : segment = ".."
        · subst hu
          rw [if_neg hi, if_pos rfl, if_neg hi, if_pos rfl, if_pos (by decide),
            addDirectory_eq_self (fs.node?_up hn)]
        · by_cases hl : Path.maxNameBytes < segment.utf8ByteSize
          · simp [hi, hu, hl, Nat.not_le.mpr hl]
          · simp [hi, hu, hl, Nat.not_lt.mp hl]

/-- Making directories adds directories on the way, and nothing else. -/
theorem confined_makeFrom (place : Location) (segments : List String) (fs : FileSystem) :
    Confined (· ∈ place.stops segments) (fun _ _ => False) fs
      (makeFrom place segments fs).2 := by
  induction segments generalizing place fs with
  | nil =>
    rw [makeFrom]
    split <;> exact .refl fs
  | cons segment rest ih =>
    rw [makeFrom_cons]
    split
    · exact .refl fs
    · exact .refl fs
    · split
      · refine ((confined_addDirectory fs (place.advance segment)).mono ?_ (by simp)).trans
          ((ih (place.advance segment) _).mono ?_ (by simp))
        · rintro added rfl
          exact List.mem_cons_of_mem _ (Location.start_mem_stops _ rest)
        · intro added ha
          exact List.mem_cons_of_mem _ ha
      · exact .refl fs

theorem makeFrom_directory {place : Location} {segments : List String} {fs : FileSystem}
    (h : (makeFrom place segments fs).1 = .ok ()) {stop : Location}
    (hs : stop ∈ place.stops segments) :
    (makeFrom place segments fs).2.node? stop = some .directory := by
  induction segments generalizing place fs with
  | nil =>
    rw [makeFrom] at h ⊢
    obtain rfl : stop = place := List.mem_singleton.mp hs
    split at h <;> simp_all
  | cons segment rest ih =>
    rw [makeFrom_cons] at h ⊢
    split at h
    · cases h
    · cases h
    · next hn =>
      split at h
      · next hf =>
        simp only [hf, if_true]
        rcases List.mem_cons.mp hs with rfl | hs
        · have hc := confined_makeFrom (stop.advance segment) rest
            (fs.addDirectory (stop.advance segment))
          exact hc.directory ((confined_addDirectory _ _).directory hn)
        · exact ih h hs
      · cases h

/-- Directories can be made on a way that starts in one, on which no file stands and no name is
too long. -/
theorem makeFrom_ok_iff {place : Location} {segments : List String} {fs : FileSystem} :
    (makeFrom place segments fs).1 = .ok () ↔
      fs.node? place = some .directory ∧
        (∀ stop ∈ place.stops segments, ∀ content, fs.node? stop ≠ some (.file content)) ∧
        ∀ segment ∈ segments, segment.utf8ByteSize ≤ Path.maxNameBytes := by
  induction segments generalizing place fs with
  | nil =>
    rw [makeFrom]
    split
    · simp_all
    · simp_all
    · next hn => simp [Location.stops, hn]
  | cons segment rest ih =>
    have ha := confined_addDirectory fs (place.advance segment)
    have hfiles (stop : Location) (content : Content) :
        (fs.addDirectory (place.advance segment)).node? stop = some (.file content) ↔
          fs.node? stop = some (.file content) :=
      ha.file_iff fun _ => id
    rw [makeFrom_cons]
    split
    · simp_all
    · simp_all
    · next hn =>
      split
      · next hf =>
        rw [ih]
        simp only [ne_eq, hfiles, Location.stops, List.forall_mem_cons, hn, hf, true_and]
        constructor
        · rintro ⟨-, hs, hr⟩
          exact ⟨⟨by simp, hs⟩, hr⟩
        · rintro ⟨⟨-, hs⟩, hr⟩
          exact ⟨node?_addDirectory_advance hn (hs _ (Location.start_mem_stops _ rest)), hs, hr⟩
      · next hf => simp [hf]

end EntityScaffold.FileSystem
