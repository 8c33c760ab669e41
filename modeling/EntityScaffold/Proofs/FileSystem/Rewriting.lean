import EntityScaffold.Proofs.FileSystem.Writing

/-!
Writing files again. Whether a file can be written, and what directories that adds, does not hang
on what the files hold; and a file that lies where its path leads can always be written over.
-/

namespace EntityScaffold

def Node.isDirectory : Node → Bool
  | .directory => true
  | .file _ => false

namespace FileSystem

variable {fs left right after : FileSystem} {path : Path} {content : Content}

theorem eq_of_write_ok (h : (fs.write path content).1 = .ok ()) :
    ∃ after, fs.write path content = (.ok (), after) := by
  rcases hw : fs.write path content with ⟨result, after⟩
  rw [hw] at h
  exact ⟨after, congrArg (·, after) h⟩

theorem current_of_write (h : fs.write path content = (.ok (), after)) :
    after.current = fs.current := (confined_of_write_ok h).current

theorem destination_of_write (h : fs.write path content = (.ok (), after)) (other : Path) :
    after.destination other = fs.destination other := (confined_of_write_ok h).destination_eq other

theorem way_of_write (h : fs.write path content = (.ok (), after)) (other : Path) :
    after.way other = fs.way other := (confined_of_write_ok h).way_eq other

/-- What lies at each place after writing. -/
theorem node?_of_write (h : fs.write path content = (.ok (), after)) (place : Location) :
    after.node? place =
      if place = fs.destination path then some (.file content)
      else if place ∈ fs.way path then some .directory
      else fs.node? place := by
  have hok : (fs.write path content).1 = .ok () := congrArg Prod.fst h
  have hc := confined_of_write_ok h
  split
  · next hp =>
    have hnode := node?_write hok
    rwa [h, ← hp] at hnode
  · next hp =>
    split
    · next hw =>
      have hreach := reaches_write hok
      rw [h] at hreach
      exact hreach.passes place (hc.way_eq path ▸ hw)
    · next hw =>
      have hplace := hc.change place
      generalize after.node? place = new at hplace
      generalize fs.node? place = old at hplace
      cases hplace with
      | same => rfl
      | folder hf => exact absurd hf hw
      | content _ hf => exact absurd hf.1 hp

/-! ### Files of other contents -/

/-- The same directories and the same files, whatever the files hold. -/
structure Alike (left right : FileSystem) : Prop where
  current : right.current = left.current
  kind (place : Location) :
    (right.node? place).map Node.isDirectory = (left.node? place).map Node.isDirectory

theorem Alike.refl (fs : FileSystem) : Alike fs fs := ⟨rfl, fun _ => rfl⟩

theorem Alike.destination_eq (h : Alike left right) (path : Path) :
    right.destination path = left.destination path := by
  simp only [destination, base, h.current]

theorem Alike.way_eq (h : Alike left right) (path : Path) : right.way path = left.way path := by
  simp only [way, base, h.current]

theorem map_isDirectory_eq_iff {node : Option Node} :
    node.map Node.isDirectory = some true ↔ node = some .directory := by
  rcases node with _ | _ | content <;> simp [Node.isDirectory]

theorem map_isDirectory_eq_false_iff {node : Option Node} :
    node.map Node.isDirectory = some false ↔ ∃ content, node = some (.file content) := by
  rcases node with _ | _ | content <;> simp [Node.isDirectory]

theorem Alike.directory_iff (h : Alike left right) (place : Location) :
    right.node? place = some .directory ↔ left.node? place = some .directory := by
  rw [← map_isDirectory_eq_iff, h.kind, map_isDirectory_eq_iff]

theorem Alike.file_iff (h : Alike left right) (place : Location) :
    (∃ content, right.node? place = some (.file content)) ↔
      ∃ content, left.node? place = some (.file content) := by
  rw [← map_isDirectory_eq_false_iff, h.kind, map_isDirectory_eq_false_iff]

theorem Alike.passable (h : Alike left right) (hp : left.Passable path) : right.Passable path where
  usable := hp.usable
  begins := by
    have hbase : right.base path = left.base path := by simp only [base, h.current]
    rw [hbase, h.directory_iff]
    exact hp.begins
  clear := by
    intro passed hm content hf
    rw [h.way_eq] at hm
    obtain ⟨found, hfound⟩ := (h.file_iff passed).mp ⟨content, hf⟩
    exact hp.clear passed hm found hfound

theorem Alike.reaches (h : Alike left right) (hr : left.Reaches path) : right.Reaches path where
  usable := hr.usable
  passes := by
    intro passed hm
    rw [h.way_eq] at hm
    exact (h.directory_iff passed).mpr (hr.passes passed hm)

theorem Alike.symm (h : Alike left right) : Alike right left :=
  ⟨h.current.symm, fun place => (h.kind place).symm⟩

theorem Alike.present_of_present (h : Alike left right) (hp : left.present path) :
    right.present path := by
  obtain ⟨hr, node, hn⟩ := present_iff.mp hp
  refine present_iff.mpr ⟨h.reaches hr, ?_⟩
  rw [h.destination_eq]
  cases node with
  | directory => exact ⟨_, (h.directory_iff _).mpr hn⟩
  | file content =>
    obtain ⟨found, hf⟩ := (h.file_iff _).mpr ⟨content, hn⟩
    exact ⟨_, hf⟩

theorem Alike.present_eq (h : Alike left right) (path : Path) :
    right.present path = left.present path :=
  Bool.eq_iff_iff.mpr ⟨h.symm.present_of_present, h.present_of_present⟩

/-- What can be written in one of two states that are alike can be written in the other one, with
any content, and they stay alike. -/
theorem Alike.write (h : Alike left right) (hw : left.write path content = (.ok (), after))
    (other : Content) :
    ∃ final, right.write path other = (.ok (), final) ∧ Alike after final := by
  obtain ⟨hp, hd, hl⟩ := write_ok_iff.mp (congrArg Prod.fst hw)
  have hok : (right.write path other).1 = .ok () := by
    refine write_ok_iff.mpr ⟨h.passable hp, ?_, ?_⟩
    · rwa [h.destination_eq, ne_eq, h.directory_iff]
    · rwa [h.destination_eq, h.way_eq]
  obtain ⟨final, hright⟩ := eq_of_write_ok hok
  refine ⟨final, hright, ?_, fun place => ?_⟩
  · rw [current_of_write hright, current_of_write hw, h.current]
  · rw [node?_of_write hright, node?_of_write hw, h.destination_eq, h.way_eq]
    split
    · rfl
    · split
      · rfl
      · exact h.kind place

/-! ### Files that are there -/

/-- A file lies where a path leads. -/
structure Holds (fs : FileSystem) (path : Path) : Prop where
  reaches : fs.Reaches path
  file : ∃ content, fs.node? (fs.destination path) = some (.file content)

theorem holds_of_write (h : fs.write path content = (.ok (), after)) : after.Holds path := by
  have hreach := reaches_write (congrArg Prod.fst h)
  rw [h] at hreach
  refine ⟨hreach, content, ?_⟩
  rw [(confined_of_write_ok h).destination_eq, node?_of_write h, if_pos rfl]

/-- Nothing that is written takes a file away. -/
theorem Confined.holds {folders : Location → Prop} {files : Location → Content → Prop}
    (h : Confined folders files fs after) (hh : fs.Holds path) : after.Holds path := by
  obtain ⟨found, hf⟩ := hh.file
  refine ⟨h.reaches hh.reaches, ?_⟩
  rw [h.destination_eq]
  rcases h.file hf with hsame | ⟨new, -, hnew⟩
  · exact ⟨found, hsame⟩
  · exact ⟨new, hnew⟩

theorem Holds.present (h : fs.Holds path) : fs.present path := by
  obtain ⟨found, hf⟩ := h.file
  exact present_iff.mpr ⟨h.reaches, _, hf⟩

theorem Holds.not_mem_way (h : fs.Holds path) {passing : Path} (hp : fs.Reaches passing) :
    fs.destination path ∉ fs.way passing := by
  intro hm
  obtain ⟨found, hf⟩ := h.file
  simp [hp.passes _ hm] at hf

/-- A path that can be followed can be written to, unless it leads to a directory. -/
theorem Reaches.write (h : fs.Reaches path)
    (hd : fs.node? (fs.destination path) ≠ some .directory) (content : Content) :
    ∃ after, fs.write path content = (.ok (), after) := by
  refine eq_of_write_ok (write_ok_iff.mpr ⟨⟨h.usable, ?_, ?_⟩, hd, fun hm => ?_⟩)
  · exact h.passes _ (fs.base_mem_way path)
  · intro passed hp content hc
    simp [h.passes passed hp] at hc
  · exact hd (h.passes _ hm)

/-- A file that is there can be written over. -/
theorem Holds.write (h : fs.Holds path) (content : Content) :
    ∃ after, fs.write path content = (.ok (), after) := by
  obtain ⟨found, hf⟩ := h.file
  exact h.reaches.write (by simp [hf]) content

/-- What was written can be written again, and that changes nothing. -/
theorem write_again (h : fs.write path content = (.ok (), after)) :
    after.write path content = (.ok (), after) := by
  obtain ⟨final, hfinal⟩ := (holds_of_write h).write content
  have hsame : final = after := by
    refine FileSystem.ext (fun place => ?_) (current_of_write hfinal)
    rw [node?_of_write hfinal, node?_of_write h, destination_of_write h, way_of_write h]
    split_ifs <;> rfl
  rw [hfinal, hsame]

/-! ### Two files in order -/

section Writes

variable {first second : Path} {text text' : Content} {between : FileSystem}

/-- What lies at each place after two files were written. Where both go to one place, the second
one is there. -/
theorem node?_of_writes (hf : fs.write first text = (.ok (), between))
    (hs : between.write second text' = (.ok (), after)) (place : Location) :
    after.node? place =
      if place = fs.destination second then some (.file text')
      else if place = fs.destination first then some (.file text)
      else if place ∈ fs.way first ∨ place ∈ fs.way second then some .directory
      else fs.node? place := by
  have hfirst : after.Holds first := (confined_of_write_ok hs).holds (holds_of_write hf)
  -- the second way leads through directories, and the first file is none
  have hapart := hfirst.not_mem_way (holds_of_write hs).reaches
  rw [destination_of_write hs, destination_of_write hf, way_of_write hs, way_of_write hf] at hapart
  rw [node?_of_write hs, node?_of_write hf, destination_of_write hf, way_of_write hf]
  by_cases hp : place = fs.destination first
  · simp [hp, hapart]
  · by_cases hw : place ∈ fs.way second <;> simp [hp, hw]

/-- Files that can be written in order can be written again with other contents, instead of the
first time or after it, and the end is the same. -/
theorem writes_again (hf : fs.write first text = (.ok (), between))
    (hs : between.write second text' = (.ok (), after)) (newText newText' : Content) :
    ∃ anew renewed final,
      fs.write first newText = (.ok (), anew) ∧
      anew.write second newText' = (.ok (), final) ∧
      after.write first newText = (.ok (), renewed) ∧
      renewed.write second newText' = (.ok (), final) ∧
      after.Holds first ∧ renewed.Holds second := by
  obtain ⟨anew, hanew, halike⟩ := (Alike.refl fs).write hf newText
  obtain ⟨final, hfinal, -⟩ := halike.write hs newText'
  have hfirst : after.Holds first := (confined_of_write_ok hs).holds (holds_of_write hf)
  obtain ⟨renewed, hrenewed⟩ := hfirst.write newText
  have hsecond : renewed.Holds second := (confined_of_write_ok hrenewed).holds (holds_of_write hs)
  obtain ⟨last, hlast⟩ := hsecond.write newText'
  have hsame : last = final := by
    refine FileSystem.ext (fun place => ?_) ?_
    · rw [node?_of_writes hrenewed hlast, node?_of_writes hf hs, node?_of_writes hanew hfinal]
      simp only [destination_of_write hs, destination_of_write hf, way_of_write hs,
        way_of_write hf]
      split_ifs <;> rfl
    · rw [current_of_write hlast, current_of_write hrenewed, current_of_write hs,
        current_of_write hf, current_of_write hfinal, current_of_write hanew]
  exact ⟨anew, renewed, final, hanew, hfinal, hrenewed, hsame ▸ hlast, hfirst, hsecond⟩

end Writes

end FileSystem

end EntityScaffold
