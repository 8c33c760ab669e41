import EntityScaffold.Proofs.FileSystem.Frame

/-!
Writing a file: the folder's directories are made, and then the path leads to the place where the
file goes.
-/

namespace EntityScaffold.FileSystem

variable {fs : FileSystem} {path : Path} {content : Content}

theorem makeDirectories_eq (fs : FileSystem) (path : Path) :
    fs.makeDirectories path =
      if path.text = "" then (.ok (), fs)
      else
        match allowed path with
        | .error problem => (.error problem, fs)
        | .ok () => makeFrom (fs.base path) path.segments fs := by
  have hs : makeFrom (fs.start path).1 (fs.start path).2 fs =
      makeFrom (fs.base path) path.segments fs := by
    unfold start base
    split
    · next h =>
      obtain ⟨rest, hr⟩ := Path.segments_of_absolute h
      rw [hr, makeFrom_cons, Location.advance_idle (by decide), addDirectory_eq_self fs.node?_root]
      simp
    · rfl
  rw [← hs]
  rfl

theorem base_folder (fs : FileSystem) {path : Path} (h : path.folder.text ≠ "") :
    fs.base path.folder = fs.base path := by
  unfold base
  rw [Path.isAbsolute_folder h]

/-- Making the folder of a path adds directories on the way of the path only. -/
theorem confined_makeFolder (fs : FileSystem) (path : Path) :
    Confined (· ∈ fs.way path) (fun _ _ => False) fs (fs.makeDirectories path.folder).2 := by
  rw [makeDirectories_eq]
  split
  · exact .refl fs
  · next h =>
    split
    · exact .refl fs
    · refine (confined_makeFrom _ _ fs).mono (fun added ha => ?_) (by simp)
      obtain ⟨rest, hr, hs⟩ := path.segments_eq_folderSegments
      rw [Path.segments_folder h, base_folder fs h] at ha
      rw [way, hs]
      exact Location.stops_subset_way _ _ hr ha

/-- A place that a path comes to lies in a directory. -/
theorem Reaches.node?_tail (h : fs.Reaches path) :
    fs.node? (fs.destination path).tail = some .directory := by
  have hw := h.passes
  unfold way at hw
  unfold destination
  have hne := path.segments_ne_nil
  generalize fs.base path = place at hw
  generalize path.segments = segments at hw hne
  induction segments generalizing place with
  | nil => contradiction
  | cons segment rest ih =>
    have hd := hw place (List.mem_cons_self ..)
    by_cases hr : rest = []
    · subst hr
      rw [Location.reach_cons, Location.reach_nil]
      unfold Location.advance
      split
      · exact fs.node?_up hd
      · split
        · exact fs.node?_up (fs.node?_up hd)
        · exact hd
    · exact ih _ (fun passed hp => hw passed (List.mem_cons_of_mem _ hp)) hr

theorem Reaches.admits (h : fs.Reaches path)
    (hd : fs.node? (fs.destination path) ≠ some .directory) :
    fs.Admits (fs.destination path) (.file content) := by
  refine ⟨fun hp => ?_, h.node?_tail, .inr hd⟩
  rw [hp] at hd
  exact hd (node?_root fs)

theorem Reaches.replace (h : fs.Reaches path)
    (hd : fs.node? (fs.destination path) ≠ some .directory) (content : Content) :
    fs.replace path content = (.ok (), fs.put (fs.destination path) (.file content)) := by
  unfold FileSystem.replace
  rw [h.resolve]
  cases hn : fs.node? (fs.destination path) with
  | none => simp [hn]
  | some node =>
    cases node with
    | directory => exact absurd hn hd
    | file old => simp [hn]

theorem replace_cases (fs : FileSystem) (path : Path) (content : Content) :
    (∃ problem, fs.replace path content = (.error problem, fs)) ∨
      fs.Reaches path ∧ fs.node? (fs.destination path) ≠ some .directory := by
  unfold FileSystem.replace
  cases hr : fs.resolve path with
  | error problem => exact .inl ⟨problem, rfl⟩
  | ok place =>
    obtain ⟨hreach, rfl⟩ := resolve_eq_ok_iff.mp hr
    by_cases hd : fs.node? (fs.destination path) = some .directory
    · exact .inl ⟨.isDirectory, by simp [hd]⟩
    · exact .inr ⟨hreach, hd⟩

/-- Writing fails and leaves the directories it made, or it comes to a place that is no directory
and lets the file lie there. -/
theorem write_cases (fs : FileSystem) (path : Path) (content : Content) :
    (∃ problem, fs.write path content = (.error problem, (fs.makeDirectories path.folder).2)) ∨
      ∃ made, fs.makeDirectories path.folder = (.ok (), made) ∧ made.Reaches path ∧
        made.node? (made.destination path) ≠ some .directory ∧
        fs.write path content = (.ok (), made.put (made.destination path) (.file content)) := by
  unfold write
  rcases fs.makeDirectories path.folder with ⟨result, made⟩
  cases result with
  | error problem => exact .inl ⟨problem, rfl⟩
  | ok _ =>
    rcases made.replace_cases path content with ⟨problem, hr⟩ | ⟨hreach, hd⟩
    · exact .inl ⟨problem, hr⟩
    · exact .inr ⟨made, rfl, hreach, hd, hreach.replace hd content⟩

/-- Writing adds directories on the way of the path. If it does not fail, the file at the end of
the path is given its content. -/
theorem confined_write (fs : FileSystem) (path : Path) (content : Content) :
    Confined (· ∈ fs.way path)
      (fun place found => (fs.write path content).1 = .ok () ∧
        place = fs.destination path ∧ found = content) fs (fs.write path content).2 := by
  have hc := confined_makeFolder fs path
  rcases write_cases fs path content with ⟨problem, hw⟩ | ⟨made, hm, hreach, hd, hw⟩
  · generalize (fs.makeDirectories path.folder).2 = made at hc hw
    rw [hw]
    exact hc.mono (fun _ hp => hp) (by simp)
  · rw [hm] at hc
    rw [hw, ← hc.destination_eq path]
    refine (hc.mono (fun _ hp => hp) (by simp)).trans (confined_put (hreach.admits hd) (by simp) ?_)
    rintro found hf
    exact ⟨rfl, rfl, Node.file.inj hf.symm⟩

/-- Writing that fails makes folders on its way and nothing else. -/
theorem confined_of_write_error {fs after : FileSystem} {problem : PathError}
    (h : fs.write path content = (.error problem, after)) :
    Confined (· ∈ fs.way path) (fun _ _ => False) fs after := by
  have hc := confined_write fs path content
  rw [h] at hc
  exact hc.mono (fun _ hp => hp) (by simp)

theorem confined_of_write_ok {fs after : FileSystem}
    (h : fs.write path content = (.ok (), after)) :
    Confined (· ∈ fs.way path) (fun place found => place = fs.destination path ∧ found = content)
      fs after := by
  have hc := confined_write fs path content
  rw [h] at hc
  exact hc.mono (fun _ hp => hp) fun _ _ hf => hf.2

theorem node?_write {fs : FileSystem} (h : (fs.write path content).1 = .ok ()) :
    (fs.write path content).2.node? (fs.destination path) = some (.file content) := by
  have hc := confined_makeFolder fs path
  rcases write_cases fs path content with ⟨problem, hw⟩ | ⟨made, hm, hreach, hd, hw⟩
  · simp [hw] at h
  · rw [hm] at hc
    rw [hw, ← hc.destination_eq path, node?_put (hreach.admits hd), if_pos rfl]

/-- What was written can be followed to. -/
theorem reaches_write {fs : FileSystem} (h : (fs.write path content).1 = .ok ()) :
    (fs.write path content).2.Reaches path := by
  rcases write_cases fs path content with ⟨problem, hw⟩ | ⟨made, -, hreach, hd, hw⟩
  · simp [hw] at h
  · rw [hw]
    have hc : Confined (fun _ => False) (fun _ _ => True) made
        (made.put (made.destination path) (.file content)) :=
      confined_put (hreach.admits hd) (by simp) (by simp)
    exact hc.reaches hreach

/-- What was written is read. -/
theorem readText_write {fs after : FileSystem} {text : String}
    (h : fs.write path (.text text) = (.ok (), after)) : after.readText path = .ok text := by
  have hok : (fs.write path (.text text)).1 = .ok () := congrArg Prod.fst h
  have hreach := reaches_write hok
  have hnode := node?_write hok
  have hc := confined_write fs path (.text text)
  rw [h] at hreach hnode hc
  exact readText_eq_ok_iff.mpr ⟨hreach, by rw [hc.destination_eq, hnode]⟩

/-- What the two paths hold after two files were written in order: each its own file, unless both
lead to one place, which holds the second one. -/
theorem readText_of_writes {first second : Path} {text other : String} {fs between after : FileSystem}
    (hf : fs.write first (.text text) = (.ok (), between))
    (hs : between.write second (.text other) = (.ok (), after)) :
    after.readText second = .ok other ∧
      after.readText first =
        .ok (if after.resolve first = after.resolve second then other else text) := by
  have hsecond := confined_of_write_ok hs
  have hread := readText_write hf
  have hother := readText_write hs
  obtain ⟨hreach, hnode⟩ := readText_eq_ok_iff.mp hother
  have hreach' := hsecond.reaches (readText_eq_ok_iff.mp hread).1
  rw [hreach'.resolve, hreach.resolve]
  refine ⟨hother, ?_⟩
  split
  · next he => exact readText_eq_ok_iff.mpr ⟨hreach', Except.ok.inj he ▸ hnode⟩
  · next hne =>
    refine hsecond.readText hread ?_
    rintro found ⟨hp, -⟩
    rw [hsecond.destination_eq, hsecond.destination_eq, hp] at hne
    exact absurd rfl hne

/-- The way of the path can be completed: it begins in a directory, and no file stands on it. -/
structure Passable (fs : FileSystem) (path : Path) : Prop where
  usable : Usable path
  begins : fs.node? (fs.base path) = some .directory
  clear : ∀ passed ∈ fs.way path, ∀ content, fs.node? passed ≠ some (.file content)

/-- Following segments past directories comes to a place, or nothing is there. -/
theorem follow_of_clear {fs : FileSystem} {place : Location} {segments : List String}
    (hc : ∀ passed ∈ place.way segments, ∀ content, fs.node? passed ≠ some (.file content))
    (hf : ∀ segment ∈ segments, segment.utf8ByteSize ≤ Path.maxNameBytes) :
    (∃ found, fs.follow place segments = .ok found) ∨
      fs.follow place segments = .error .notFound := by
  induction segments generalizing place with
  | nil => exact .inl ⟨place, by rw [follow]⟩
  | cons segment rest ih =>
    rw [follow_cons]
    cases hn : fs.node? place with
    | none => exact .inr rfl
    | some node =>
      cases node with
      | file content => exact absurd hn (hc place (by simp [Location.way]) content)
      | directory =>
        dsimp only
        rw [if_pos (hf segment (by simp))]
        exact ih (fun passed hp => hc passed (List.mem_cons_of_mem _ hp))
          fun other ho => hf other (List.mem_cons_of_mem _ ho)

/-- A path that could be written to, but where nothing is, is found missing. -/
theorem Passable.readText_absent (h : fs.Passable path) (ha : fs.present path = false) :
    fs.readText path = .error .notFound := by
  have hlookup : fs.lookup path = .error .notFound := by
    rw [present] at ha
    rw [lookup, resolve_eq, h.usable.allowed] at ha ⊢
    simp only [h.usable.named, if_false] at ha ⊢
    rcases follow_of_clear h.clear h.usable.fits with ⟨found, hf⟩ | hf
    · rw [hf] at ha ⊢
      cases hn : fs.node? found with
      | none => simp [hn, bind, Except.bind]
      | some node => simp [hn, bind, Except.bind, Except.isOk, Except.toBool] at ha
    · rw [hf]
      rfl
  rw [readText, hlookup]
  rfl

theorem allowed_folder {path : Path} (ha : allowed path = .ok ()) (h : path.folder.text ≠ "") :
    allowed path.folder = .ok () := by
  obtain ⟨rest, hr⟩ := Path.folder_prefix h
  have ht : path.text = path.folder.text ++ .ofList rest := String.toList_injective (by simp [hr])
  simp only [allowed, ht, String.toList_append, List.mem_append, String.utf8ByteSize_append] at ha ⊢
  split at ha
  · cases ha
  · next hz =>
    split at ha
    · cases ha
    · next hl =>
      rw [if_neg (fun hm => hz (.inl hm)), if_neg (by omega)]

/-- The last segment of a path whose destination is not passed is a name. -/
theorem segments_concat_name (h : fs.destination path ∉ fs.way path) :
    ∃ front name, path.segments = front ++ [name] ∧ Path.isIdle name = false := by
  obtain ⟨front, name, hs⟩ :=
    (List.eq_nil_or_concat' path.segments).resolve_left path.segments_ne_nil
  refine ⟨front, name, hs, Bool.eq_false_iff.mpr fun hi => h ?_⟩
  rw [destination, way, hs, Location.reach_append, Location.reach_cons, Location.advance_idle hi]
  exact Location.stops_subset_way _ _ (by simp) (Location.reach_mem_stops _ front)

/-- When the folder is made, the path comes to its destination. -/
theorem Passable.makeFolder (h : fs.Passable path) (hl : fs.destination path ∉ fs.way path) :
    (fs.makeDirectories path.folder).1 = .ok () ∧
      (fs.makeDirectories path.folder).2.Reaches path := by
  obtain ⟨front, name, hs, hn⟩ := segments_concat_name hl
  obtain ⟨idle, hf, hi⟩ := Path.segments_of_name hs hn
  rw [hf] at hs
  have hway : ∀ passed ∈ fs.way path, passed ∈ (fs.base path).stops path.folderSegments := by
    intro passed hp
    rw [way, hs] at hp
    exact Location.way_idle_name hi hp
  rw [makeDirectories_eq]
  split
  · next he =>
    refine ⟨rfl, h.usable, fun passed hp => ?_⟩
    have hidle : ∀ segment ∈ path.folderSegments ++ idle, Path.isIdle segment := fun segment hm =>
      (List.mem_append.mp hm).elim (Path.idle_of_folder_empty he segment) (hi segment)
    have hp : passed ∈ (fs.base path).way ([] ++ (path.folderSegments ++ idle) ++ [name]) := by
      simpa [way, hs] using hp
    rw [List.mem_singleton.mp (Location.way_idle_name hidle hp)]
    exact h.begins
  · next he =>
    rw [allowed_folder h.usable.allowed he, Path.segments_folder he, base_folder fs he]
    have hok : (makeFrom (fs.base path) path.folderSegments fs).1 = .ok () := by
      refine makeFrom_ok_iff.mpr ⟨h.begins, fun stop hp => h.clear stop ?_, fun segment hm => ?_⟩
      · rw [way, hs, List.append_assoc]
        exact Location.stops_subset_way _ _ (by simp) hp
      · exact h.usable.fits segment (path.folderSegments_prefix.subset hm)
    refine ⟨hok, h.usable, fun passed hp => makeFrom_directory hok (hway passed ?_)⟩
    rwa [(confined_makeFrom _ _ fs).way_eq] at hp

/-- Writing succeeds exactly if the way can be completed, and the place at its end is neither a
directory nor becomes one on the way. -/
theorem write_ok_iff {fs : FileSystem} {path : Path} {content : Content} :
    (fs.write path content).1 = .ok () ↔
      fs.Passable path ∧ fs.node? (fs.destination path) ≠ some .directory ∧
        fs.destination path ∉ fs.way path := by
  have hc := confined_makeFolder fs path
  constructor
  · intro h
    rcases write_cases fs path content with ⟨problem, hw⟩ | ⟨made, hm, hreach, hd, hw⟩
    · simp [hw] at h
    · rw [hm] at hc
      have hway := hreach.passes
      rw [hc.way_eq] at hway
      rw [hc.destination_eq] at hd
      refine ⟨⟨hreach.usable, ?_, fun passed hp content hf => ?_⟩, fun hn => hd (hc.directory hn),
        fun hp => hd (hway _ hp)⟩
      · rw [makeDirectories_eq] at hm
        split at hm
        · have hfs : fs = made := congrArg Prod.snd hm
          subst hfs
          exact hway _ (fs.base_mem_way path)
        · next he =>
          split at hm
          · cases hm
          · rw [base_folder fs he] at hm
            exact (makeFrom_ok_iff.mp (by rw [hm])).1
      · have hf := (hc.file hf).resolve_right (by simp)
        simp [hway passed hp] at hf
  · rintro ⟨hp, hn, hl⟩
    obtain ⟨hok, hreach⟩ := hp.makeFolder hl
    unfold write
    rcases hm : fs.makeDirectories path.folder with ⟨result, made⟩
    rw [hm] at hc hok hreach
    obtain rfl : result = .ok () := hok
    have hd : made.node? (made.destination path) ≠ some .directory := by
      intro hd
      rw [hc.destination_eq] at hd
      rcases hc.directory_before hd with hd | hd
      · exact hn hd
      · exact hl hd.2
    simp [hreach.replace hd content]

end EntityScaffold.FileSystem
