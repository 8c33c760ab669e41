import EntityScaffold.FileSystem.Basic

/-!
Changing a file system: making directories, writing files, removing things. A change that fails
may have made directories before.
-/

namespace EntityScaffold.FileSystem

/-- A directory where nothing lies yet. -/
def addDirectory (fs : FileSystem) (place : Location) : FileSystem :=
  if (fs.node? place).isNone then fs.put place .directory else fs

/-- Follow segments from a place and make the directories that are missing on the way. -/
def makeFrom : Location → List String → FileSystem → Except PathError Unit × FileSystem
  | place, [], fs =>
    match fs.node? place with
    | none => (.error .notFound, fs)
    | some (.file _) => (.error .notDirectory, fs)
    | some .directory => (.ok (), fs)
  | place, segment :: rest, fs =>
    match fs.node? place with
    | none => (.error .notFound, fs)
    | some (.file _) => (.error .notDirectory, fs)
    | some .directory =>
      if Path.isIdle segment then makeFrom place rest fs
      else if segment = ".." then makeFrom place.tail rest fs
      else if Path.maxNameBytes < segment.utf8ByteSize then (.error .nameTooLong, fs)
      else makeFrom (segment :: place) rest (fs.addDirectory (segment :: place))

/-- Make the directory a path names and all that lead to it. The empty path asks for nothing. -/
def makeDirectories (fs : FileSystem) (path : Path) : Except PathError Unit × FileSystem :=
  if path.text = "" then (.ok (), fs)
  else
    match allowed path with
    | .error problem => (.error problem, fs)
    | .ok () =>
      let (place, segments) := fs.start path
      makeFrom place segments fs

/-- Give the file a path names a content. Its folder has to exist. -/
def replace (fs : FileSystem) (path : Path) (content : Content) :
    Except PathError Unit × FileSystem :=
  match fs.resolve path with
  | .error problem => (.error problem, fs)
  | .ok place =>
    match fs.node? place with
    | some .directory => (.error .isDirectory, fs)
    | _ => (.ok (), fs.put place (.file content))

/-- Write a file and make the missing directories of its folder first. They stay when the
writing fails. -/
def write (fs : FileSystem) (path : Path) (content : Content) :
    Except PathError Unit × FileSystem :=
  match fs.makeDirectories path.folder with
  | (.error problem, made) => (.error problem, made)
  | (.ok (), made) => made.replace path content

/-- Whether a place is another one or lies below it. -/
def isWithin (top place : Location) : Bool := top.isSuffixOf place

theorem isWithin_of_tail {top place : Location} (h : isWithin top place.tail) :
    isWithin top place := by
  unfold isWithin at h ⊢
  rw [List.isSuffixOf_iff_suffix] at h ⊢
  exact h.trans (List.tail_suffix place)

def without (fs : FileSystem) (top : Location) : FileSystem where
  nodes := fs.nodes.filter fun place _ => !isWithin top place
  current := fs.current
  rooted place node h := by
    rw [Std.ExtTreeMap.getElem?_filter', Option.filter_eq_some_iff] at h
    obtain ⟨hn, hk⟩ := h
    obtain ⟨hp, ht⟩ := fs.rooted place node hn
    refine ⟨hp, ht.imp id fun hd => ?_⟩
    rw [Std.ExtTreeMap.getElem?_filter', Option.filter_eq_some_iff]
    refine ⟨hd, ?_⟩
    simp only [Bool.not_eq_true', Bool.eq_false_iff] at hk ⊢
    exact fun h => hk (isWithin_of_tail h)

/-- Remove what a path leads to, with all that lies below it. -/
def remove (fs : FileSystem) (path : Path) : FileSystem :=
  match fs.resolve path with
  | .error _ => fs
  | .ok top => fs.without top

end EntityScaffold.FileSystem
