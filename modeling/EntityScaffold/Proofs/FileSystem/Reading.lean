import EntityScaffold.Proofs.FileSystem.Way

/-!
When reading a path gives no text. Either the path leads to nothing, so that something else may
stand in for it, or something is in the way that must not be passed over. What lies in the file
system decides which of the two it is.
-/

namespace EntityScaffold.FileSystem

/-- The first segments of a path lead through directories. What lies where they end is left open. -/
structure Follows (fs : FileSystem) (path : Path) (front : List String) : Prop where
  allowed : allowed path = .ok ()
  named : path.text ≠ ""
  begins : front <+: path.segments
  passes : ∀ passed ∈ (fs.base path).way front, fs.node? passed = some .directory
  fits : ∀ segment ∈ front, segment.utf8ByteSize ≤ Path.maxNameBytes

/-- A path has no name, or nothing lies where it leads, or a directory on its way is missing. -/
inductive Absent (fs : FileSystem) (path : Path) : Prop where
  | unnamed (allowed : allowed path = .ok ()) (empty : path.text = "")
  | missing {front : List String} (follows : fs.Follows path front)
      (nothing : fs.node? ((fs.base path).reach front) = none)

/-- Something lies at the path or on its way, and it is no text that could be read. Or the path is
one that cannot be used anywhere. -/
inductive Unreadable (fs : FileSystem) (path : Path) : Prop where
  | directory (reaches : fs.Reaches path)
      (found : fs.node? (fs.destination path) = some .directory)
  | binary {bytes : List UInt8} (reaches : fs.Reaches path)
      (found : fs.node? (fs.destination path) = some (.file (.binary bytes)))
  | belowFile {front : List String} {content : Content} (follows : fs.Follows path front)
      (further : front ≠ path.segments)
      (found : fs.node? ((fs.base path).reach front) = some (.file content))
  | longName {front : List String} {name : String} (follows : fs.Follows path front)
      (found : fs.node? ((fs.base path).reach front) = some .directory)
      (next : front ++ [name] <+: path.segments) (long : Path.maxNameBytes < name.utf8ByteSize)
  | refused {problem : PathError} (problem : allowed path = .error problem)

variable {fs : FileSystem} {path : Path} {front : List String}

theorem follows_segments_iff :
    fs.Follows path path.segments ↔ fs.Reaches path := by
  constructor
  · intro h
    exact ⟨⟨h.allowed, h.named, h.fits⟩, h.passes⟩
  · intro h
    exact ⟨h.usable.allowed, h.usable.named, List.prefix_rfl, h.passes, h.usable.fits⟩

theorem follow_append {place : Location} {rest : List String}
    (hp : ∀ passed ∈ place.way front, fs.node? passed = some .directory)
    (hf : ∀ segment ∈ front, segment.utf8ByteSize ≤ Path.maxNameBytes) :
    fs.follow place (front ++ rest) = fs.follow (place.reach front) rest := by
  induction front generalizing place with
  | nil => rfl
  | cons segment front ih =>
    have hplace : fs.node? place = some .directory := hp place (by simp [Location.way])
    rw [List.cons_append, follow_cons, hplace]
    dsimp only
    rw [if_pos (hf segment List.mem_cons_self)]
    exact ih (fun passed hm => hp passed (List.mem_cons_of_mem _ hm))
      fun other ho => hf other (List.mem_cons_of_mem _ ho)

theorem Follows.resolve (h : fs.Follows path front) {rest : List String}
    (hr : path.segments = front ++ rest) :
    fs.resolve path = fs.follow ((fs.base path).reach front) rest := by
  rw [resolve_eq, h.allowed]
  dsimp only
  rw [if_neg h.named, hr, follow_append h.passes h.fits]

theorem readText_of_resolve_error {problem : PathError} (h : fs.resolve path = .error problem) :
    fs.readText path = .error problem := by
  rw [readText, lookup, h]
  rfl

/-- How far segments are followed: up to the last one, or up to where no directory lies, or up to
a name that is too long. -/
theorem exists_followed (fs : FileSystem) (place : Location) (segments : List String) :
    ∃ front rest, segments = front ++ rest ∧
      (∀ passed ∈ place.way front, fs.node? passed = some .directory) ∧
      (∀ segment ∈ front, segment.utf8ByteSize ≤ Path.maxNameBytes) ∧
      ∀ name tail, rest = name :: tail →
        fs.node? (place.reach front) = some .directory → Path.maxNameBytes < name.utf8ByteSize := by
  induction segments generalizing place with
  | nil => exact ⟨[], [], rfl, by simp [Location.way], by simp, by simp⟩
  | cons segment rest ih =>
    by_cases hplace : fs.node? place = some .directory
    · by_cases hfits : segment.utf8ByteSize ≤ Path.maxNameBytes
      · obtain ⟨front, tail, hs, hp, hf, hstop⟩ := ih (place.advance segment)
        refine ⟨segment :: front, tail, by rw [hs, List.cons_append], ?_, ?_, hstop⟩
        · intro passed hm
          rcases List.mem_cons.mp hm with rfl | hm
          · exact hplace
          · exact hp passed hm
        · intro other hm
          rcases List.mem_cons.mp hm with rfl | hm
          · exact hfits
          · exact hf other hm
      · refine ⟨[], segment :: rest, rfl, by simp [Location.way], by simp, ?_⟩
        intro name tail hr _
        cases hr
        exact Nat.lt_of_not_le hfits
    · refine ⟨[], segment :: rest, rfl, by simp [Location.way], by simp, ?_⟩
      intro name tail _ hd
      exact absurd hd hplace

/-- A path that gives no text is absent or unreadable. -/
theorem absent_or_unreadable (h : ∀ text, fs.readText path ≠ .ok text) :
    fs.Absent path ∨ fs.Unreadable path := by
  cases ha : allowed path with
  | error problem => exact .inr (.refused ha)
  | ok _ =>
    by_cases ht : path.text = ""
    · exact .inl (.unnamed ha ht)
    · obtain ⟨front, rest, hs, hp, hf, hstop⟩ := exists_followed fs (fs.base path) path.segments
      have hfollows : fs.Follows path front :=
        ⟨ha, ht, hs ▸ List.prefix_append front rest, hp, hf⟩
      cases rest with
      | nil =>
        rw [List.append_nil] at hs
        have hreaches : fs.Reaches path := follows_segments_iff.mp (hs ▸ hfollows)
        cases hn : fs.node? (fs.destination path) with
        | none =>
          rw [destination, hs] at hn
          exact .inl (.missing hfollows hn)
        | some node =>
          cases node with
          | directory => exact .inr (.directory hreaches hn)
          | file content =>
            cases content with
            | binary bytes => exact .inr (.binary hreaches hn)
            | text text => exact absurd (readText_eq_ok_iff.mpr ⟨hreaches, hn⟩) (h text)
      | cons name tail =>
        cases hn : fs.node? ((fs.base path).reach front) with
        | none => exact .inl (.missing hfollows hn)
        | some node =>
          cases node with
          | file content =>
            refine .inr (.belowFile hfollows ?_ hn)
            intro he
            rw [← he] at hs
            simp at hs
          | directory =>
            refine .inr (.longName hfollows hn ⟨tail, ?_⟩ (hstop name tail rfl hn))
            rw [hs, List.append_assoc, List.singleton_append]

theorem Absent.readText (h : fs.Absent path) : fs.readText path = .error .notFound := by
  cases h with
  | unnamed ha ht =>
    apply readText_of_resolve_error
    rw [resolve_eq, ha]
    dsimp only
    rw [if_pos ht]
  | missing follows nothing =>
    obtain ⟨rest, hr⟩ := follows.begins
    have hresolve := follows.resolve hr.symm
    cases rest with
    | nil =>
      rw [FileSystem.readText, lookup, hresolve, follow]
      simp only [bind, Except.bind, nothing]
    | cons segment rest =>
      apply readText_of_resolve_error
      rw [hresolve, follow_cons, nothing]

/-- A path that cannot be read is never taken for one where nothing is. -/
theorem Unreadable.readText (h : fs.Unreadable path) :
    ∃ problem, fs.readText path = .error problem ∧ problem ≠ .notFound := by
  cases h with
  | directory reaches found =>
    refine ⟨.isDirectory, ?_, by decide⟩
    rw [FileSystem.readText, lookup_eq_ok_iff.mpr ⟨reaches, found⟩]
    rfl
  | binary reaches found =>
    refine ⟨.notText, ?_, by decide⟩
    rw [FileSystem.readText, lookup_eq_ok_iff.mpr ⟨reaches, found⟩]
    rfl
  | @belowFile front content follows further found =>
    obtain ⟨rest, hr⟩ := follows.begins
    refine ⟨.notDirectory, readText_of_resolve_error ?_, by decide⟩
    rw [follows.resolve hr.symm]
    cases rest with
    | nil => exact absurd (by rw [← hr, List.append_nil]) further
    | cons segment rest => rw [follow_cons, found]
  | @longName front name follows found next long =>
    obtain ⟨tail, ht⟩ := next
    have hr : path.segments = front ++ name :: tail := by
      rw [← ht, List.append_assoc, List.singleton_append]
    refine ⟨.nameTooLong, readText_of_resolve_error ?_, by decide⟩
    rw [follows.resolve hr, follow_cons, found]
    dsimp only
    rw [if_neg (Nat.not_le.mpr long)]
  | refused ha =>
    refine ⟨_, readText_of_resolve_error (by rw [resolve_eq, ha]), ?_⟩
    unfold allowed at ha
    split at ha
    · cases ha
      decide
    · split at ha
      · cases ha
        decide
      · cases ha

theorem absent_iff : fs.Absent path ↔ fs.readText path = .error .notFound := by
  constructor
  · exact fun h => h.readText
  · intro h
    have hno : ∀ text, fs.readText path ≠ .ok text := by simp [h]
    rcases absent_or_unreadable hno with ha | hu
    · exact ha
    · obtain ⟨problem, hp, hne⟩ := hu.readText
      rw [h] at hp
      exact absurd (Except.error.inj hp).symm hne

theorem unreadable_iff :
    fs.Unreadable path ↔ ∃ problem, fs.readText path = .error problem ∧ problem ≠ .notFound := by
  constructor
  · exact fun h => h.readText
  · rintro ⟨problem, hp, hne⟩
    have hno : ∀ text, fs.readText path ≠ .ok text := by simp [hp]
    rcases absent_or_unreadable hno with ha | hu
    · rw [ha.readText] at hp
      exact absurd (Except.error.inj hp).symm hne
    · exact hu

end EntityScaffold.FileSystem
