import EntityScaffold.FileSystem.Write
import EntityScaffold.Proofs.Path

/-!
Where a path leads, and the places it passes on its way there, as far as its text says. Following
the path comes to the same place if all that it passes are directories.
-/

namespace EntityScaffold

namespace Location

/-- The place one segment further. -/
def advance (place : Location) (segment : String) : Location :=
  if Path.isIdle segment then place
  else if segment = ".." then place.tail
  else segment :: place

/-- The place that segments lead to. -/
def reach (place : Location) (segments : List String) : Location := segments.foldl advance place

/-- The places that segments are followed from. -/
def way : Location → List String → List Location
  | _, [] => []
  | place, segment :: rest => place :: way (advance place segment) rest

/-- The places that segments come to, the first and the last one included. -/
def stops : Location → List String → List Location
  | place, [] => [place]
  | place, segment :: rest => place :: stops (advance place segment) rest

@[simp] theorem reach_nil (place : Location) : reach place [] = place := rfl

@[simp] theorem reach_cons (place : Location) (segment : String) (rest : List String) :
    reach place (segment :: rest) = reach (advance place segment) rest := rfl

theorem reach_append (place : Location) (front rest : List String) :
    reach place (front ++ rest) = reach (reach place front) rest := List.foldl_append

theorem way_append (place : Location) (front rest : List String) :
    way place (front ++ rest) = way place front ++ way (reach place front) rest := by
  induction front generalizing place with
  | nil => rfl
  | cons segment front ih => simp [way, ih]

theorem mem_way_start {place : Location} {segments : List String} (h : segments ≠ []) :
    place ∈ way place segments := by
  cases segments with
  | nil => contradiction
  | cons segment rest => simp [way]

theorem start_mem_stops (place : Location) (segments : List String) :
    place ∈ stops place segments := by
  cases segments <;> simp [stops]

theorem way_subset_stops (place : Location) (segments : List String) :
    way place segments ⊆ stops place segments := by
  induction segments generalizing place with
  | nil => simp [way]
  | cons segment rest ih => exact List.cons_subset_cons _ (ih _)

theorem reach_mem_stops (place : Location) (segments : List String) :
    reach place segments ∈ stops place segments := by
  induction segments generalizing place with
  | nil => simp [stops]
  | cons segment rest ih => exact List.mem_cons_of_mem _ (ih _)

/-- Whoever goes on from a place has come to it. -/
theorem stops_subset_way (place : Location) (front : List String) {rest : List String}
    (h : rest ≠ []) : stops place front ⊆ way place (front ++ rest) := by
  induction front generalizing place with
  | nil =>
    intro stop hs
    rw [List.mem_singleton.mp hs]
    exact mem_way_start h
  | cons segment front ih => exact List.cons_subset_cons _ (ih _)

theorem advance_idle {segment : String} (h : Path.isIdle segment) (place : Location) :
    advance place segment = place := if_pos h

theorem reach_idle {idle : List String} (h : ∀ segment ∈ idle, Path.isIdle segment)
    (place : Location) : reach place idle = place := by
  induction idle with
  | nil => rfl
  | cons segment rest ih =>
    rw [reach_cons, advance_idle (h segment (by simp))]
    exact ih fun other ho => h other (by simp [ho])

theorem mem_way_idle {idle : List String} (h : ∀ segment ∈ idle, Path.isIdle segment)
    {place passed : Location} (hp : passed ∈ way place idle) : passed = place := by
  induction idle with
  | nil => cases hp
  | cons segment rest ih =>
    rw [way, advance_idle (h segment (by simp))] at hp
    rcases List.mem_cons.mp hp with rfl | hp
    · rfl
    · exact ih (fun other ho => h other (by simp [ho])) hp

/-- Idle segments before a name do not come to another place. -/
theorem way_idle_name {place passed : Location} {front idle : List String} {name : String}
    (hi : ∀ segment ∈ idle, Path.isIdle segment)
    (hp : passed ∈ way place (front ++ idle ++ [name])) : passed ∈ stops place front := by
  rw [way_append, way_append, reach_append, reach_idle hi, List.mem_append,
    List.mem_append] at hp
  rcases hp with (hp | hp) | hp
  · exact way_subset_stops place front hp
  · rw [mem_way_idle hi hp]
    exact reach_mem_stops place front
  · rw [List.mem_singleton.mp hp]
    exact reach_mem_stops place front

theorem suffix_advance {segment : String} (h : segment ≠ "..") (place : Location) :
    place <:+ advance place segment := by
  unfold advance
  rw [if_neg h]
  split
  · exact List.suffix_refl place
  · exact List.suffix_cons segment place

theorem suffix_reach {segments : List String} (h : ".." ∉ segments) (place : Location) :
    place <:+ reach place segments := by
  induction segments generalizing place with
  | nil => exact List.suffix_refl place
  | cons segment rest ih =>
    rw [List.mem_cons, not_or] at h
    exact (suffix_advance (Ne.symm h.1) place).trans (ih h.2 _)

/-- Without a step up, the way to a place leads through what the place lies in. -/
theorem way_suffix {segments : List String} (h : ".." ∉ segments) {place passed : Location}
    (hp : passed ∈ way place segments) : passed <:+ reach place segments := by
  induction segments generalizing place with
  | nil => cases hp
  | cons segment rest ih =>
    rcases List.mem_cons.mp hp with rfl | hp
    · exact suffix_reach h _
    · exact ih (fun hm => h (List.mem_cons_of_mem _ hm)) hp

end Location

namespace FileSystem

variable {fs : FileSystem}

/-- Where the following of a path begins. -/
def base (fs : FileSystem) (path : Path) : Location := if path.isAbsolute then [] else fs.current

/-- The place a path leads to. -/
def destination (fs : FileSystem) (path : Path) : Location := (fs.base path).reach path.segments

/-- The places a path is followed from. -/
def way (fs : FileSystem) (path : Path) : List Location := (fs.base path).way path.segments

theorem base_mem_way (fs : FileSystem) (path : Path) : fs.base path ∈ fs.way path :=
  Location.mem_way_start path.segments_ne_nil

/-- A path that was joined with a name leads to a place of that name. -/
theorem destination_join (fs : FileSystem) (front : Path) {name : String}
    (hs : '/' ∉ name.toList) (hi : Path.isIdle name = false) (hu : name ≠ "..") :
    (fs.destination (front.join ⟨name⟩)).head? = some name := by
  obtain ⟨segments, hf, -⟩ := Path.segments_join front (Path.isAbsolute_name hs)
  rw [destination, hf, Path.segments_name hs, Location.reach_append]
  simp [Location.advance, hi, hu]

/-- The path and its names are neither too long nor empty, and hold nothing forbidden. -/
structure Usable (path : Path) : Prop where
  allowed : allowed path = .ok ()
  named : path.text ≠ ""
  fits : ∀ segment ∈ path.segments, segment.utf8ByteSize ≤ Path.maxNameBytes

/-- Following the path comes to its destination, whether anything lies there or not. -/
structure Reaches (fs : FileSystem) (path : Path) : Prop where
  usable : Usable path
  passes : ∀ passed ∈ fs.way path, fs.node? passed = some .directory

theorem fits_of_idle {segment : String} (h : Path.isIdle segment) :
    segment.utf8ByteSize ≤ Path.maxNameBytes := by
  simp only [Path.isIdle, Bool.or_eq_true, beq_iff_eq] at h
  rcases h with rfl | rfl <;> decide

theorem follow_cons (fs : FileSystem) (place : Location) (segment : String) (rest : List String) :
    fs.follow place (segment :: rest) =
      match fs.node? place with
      | none => .error .notFound
      | some (.file _) => .error .notDirectory
      | some .directory =>
        if segment.utf8ByteSize ≤ Path.maxNameBytes then fs.follow (place.advance segment) rest
        else .error .nameTooLong := by
  rw [follow]
  unfold Location.advance
  cases fs.node? place with
  | none => rfl
  | some node =>
    cases node with
    | file content => rfl
    | directory =>
      by_cases hi : Path.isIdle segment
      · simp [hi, fits_of_idle hi]
      · by_cases hu : segment = ".."
        · subst hu
          rw [if_neg hi, if_pos rfl, if_neg hi, if_pos rfl, if_pos (by decide)]
        · by_cases hl : Path.maxNameBytes < segment.utf8ByteSize
          · simp [hi, hu, hl, Nat.not_le.mpr hl]
          · simp [hi, hu, hl, Nat.not_lt.mp hl]

/-- Segments are followed through directories only, by names that are not too long. -/
theorem follow_eq_ok_iff {place found : Location} {segments : List String} :
    fs.follow place segments = .ok found ↔
      found = place.reach segments ∧
        (∀ passed ∈ place.way segments, fs.node? passed = some .directory) ∧
        ∀ segment ∈ segments, segment.utf8ByteSize ≤ Path.maxNameBytes := by
  induction segments generalizing place with
  | nil => simp [follow, Location.way, eq_comm]
  | cons segment rest ih =>
    rw [follow_cons]
    cases hn : fs.node? place with
    | none => simp [Location.way, hn]
    | some node =>
      cases node with
      | file content => simp [Location.way, hn]
      | directory =>
        by_cases hs : segment.utf8ByteSize ≤ Path.maxNameBytes
        · simp [Location.way, hn, hs, ih]
        · simp [hs]

theorem follow_start (fs : FileSystem) (path : Path) :
    fs.follow (fs.start path).1 (fs.start path).2 = fs.follow (fs.base path) path.segments := by
  unfold start base
  split
  · next h =>
    obtain ⟨rest, hr⟩ := Path.segments_of_absolute h
    rw [hr, follow_cons, Location.advance_idle (by decide)]
    simp
  · rfl

theorem resolve_eq (fs : FileSystem) (path : Path) :
    fs.resolve path =
      match allowed path with
      | .error problem => .error problem
      | .ok () =>
        if path.text = "" then .error .notFound else fs.follow (fs.base path) path.segments := by
  rw [← follow_start]
  unfold resolve
  cases allowed path with
  | error problem => rfl
  | ok _ => by_cases ht : path.text = "" <;> simp only [ht] <;> rfl

theorem resolve_eq_ok_iff {path : Path} {place : Location} :
    fs.resolve path = .ok place ↔ fs.Reaches path ∧ place = fs.destination path := by
  rw [resolve_eq]
  constructor
  · intro h
    split at h
    · cases h
    · next ha =>
      split at h
      · cases h
      · next ht =>
        obtain ⟨hp, hw, hf⟩ := follow_eq_ok_iff.mp h
        exact ⟨⟨⟨ha, ht, hf⟩, hw⟩, hp⟩
  · rintro ⟨⟨⟨ha, ht, hf⟩, hw⟩, hp⟩
    rw [ha]
    simp only [ht, if_false]
    exact follow_eq_ok_iff.mpr ⟨hp, hw, hf⟩

theorem Reaches.resolve {path : Path} (h : fs.Reaches path) :
    fs.resolve path = .ok (fs.destination path) := resolve_eq_ok_iff.mpr ⟨h, rfl⟩

theorem lookup_eq_ok_iff {path : Path} {node : Node} :
    fs.lookup path = .ok node ↔
      fs.Reaches path ∧ fs.node? (fs.destination path) = some node := by
  unfold lookup
  cases hr : fs.resolve path with
  | error problem =>
    have hn : ¬ fs.Reaches path := fun h => by simp [h.resolve] at hr
    simp only [hn, false_and, iff_false]
    exact fun h => by cases h
  | ok place =>
    obtain ⟨hp, rfl⟩ := resolve_eq_ok_iff.mp hr
    simp only [bind, Except.bind]
    cases fs.node? (fs.destination path) with
    | none => simp
    | some found => simp [hp]

theorem present_iff {path : Path} :
    fs.present path ↔ fs.Reaches path ∧ ∃ node, fs.node? (fs.destination path) = some node := by
  rw [← exists_and_left]
  simp only [← lookup_eq_ok_iff]
  unfold present
  cases fs.lookup path with
  | error problem => simp [Except.isOk, Except.toBool]
  | ok node => simp [Except.isOk, Except.toBool]

theorem readText_eq_ok_iff {path : Path} {text : String} :
    fs.readText path = .ok text ↔
      fs.Reaches path ∧ fs.node? (fs.destination path) = some (.file (.text text)) := by
  rw [← lookup_eq_ok_iff]
  unfold readText
  cases fs.lookup path with
  | error problem => simp [bind, Except.bind]
  | ok node =>
    cases node with
    | directory => simp [bind, Except.bind]
    | file content => cases content <;> simp [bind, Except.bind]

/-- All that something lies in are directories. -/
theorem node?_of_suffix {place top : Location} {node : Node} (h : fs.node? place = some node)
    (hs : top <:+ place) (hne : top ≠ place) : fs.node? top = some .directory := by
  induction place generalizing node with
  | nil => exact absurd (List.suffix_nil.mp hs) hne
  | cons name rest ih =>
    have hd : fs.node? rest = some .directory := fs.node?_tail (by simp) h
    rcases List.suffix_cons_iff.mp hs with rfl | hs
    · contradiction
    · by_cases he : top = rest
      · rw [he, hd]
      · exact ih hd hs he

end FileSystem

end EntityScaffold
