import Std.Data.ExtTreeMap
import EntityScaffold.Path

/-!
A file system: what lies at each place, and how a path is followed to its place. Two file
systems are equal when the same lies at every place and the same directory is the current one.
-/

namespace EntityScaffold

/-- What a file holds: a text, or bytes that are none. -/
inductive Content where
  | text (text : String)
  | binary (bytes : List UInt8)
  deriving DecidableEq

/-- The content that bytes make. They are a text if they are its UTF-8 form. -/
def Content.ofBytes (bytes : List UInt8) : Content :=
  match String.fromUTF8? ⟨bytes.toArray⟩ with
  | some decoded => .text decoded
  | none => .binary bytes

inductive Node where
  | directory
  | file (content : Content)
  deriving DecidableEq

/-- A place in the tree: the names on the way up to the root, its own name first. -/
abbrev Location := List String

/-- Why a path cannot be used. -/
inductive PathError where
  | notFound
  | notDirectory
  | isDirectory
  | nameTooLong
  | unusable
  | notText
  deriving DecidableEq, Repr

/-- A tree of directories and files with a current directory. -/
structure FileSystem where
  /-- All that lies below the root. -/
  nodes : Std.ExtTreeMap Location Node
  /-- The directory where relative paths begin. -/
  current : Location
  /-- Whatever lies somewhere lies in a directory. -/
  rooted : ∀ (place : Location) (node : Node), nodes[place]? = some node →
    place ≠ [] ∧ (place.tail = [] ∨ nodes[place.tail]? = some Node.directory)

namespace FileSystem

def empty : FileSystem := ⟨∅, [], by simp⟩

/-- What lies at a place. The root is always a directory. -/
def node? (fs : FileSystem) (place : Location) : Option Node :=
  if place = [] then some .directory else fs.nodes[place]?

@[simp] theorem node?_root (fs : FileSystem) : fs.node? [] = some .directory := rfl

theorem node?_tail (fs : FileSystem) {place : Location} {node : Node} (hp : place ≠ [])
    (h : fs.node? place = some node) : fs.node? place.tail = some .directory := by
  unfold node? at h ⊢
  rw [if_neg hp] at h
  rcases (fs.rooted place node h).2 with ht | ht
  · simp [ht]
  · simp [ht]

/-- The way up from a directory leads through directories. -/
theorem node?_up (fs : FileSystem) {place : Location} (h : fs.node? place = some .directory) :
    fs.node? place.tail = some .directory := by
  by_cases hp : place = []
  · simp [hp]
  · exact fs.node?_tail hp h

/-- The same lies at every place, and the same directory is the current one. -/
theorem ext {left right : FileSystem} (hn : ∀ place, left.node? place = right.node? place)
    (hc : left.current = right.current) : left = right := by
  obtain ⟨ln, lc, lr⟩ := left
  obtain ⟨rn, rc, rr⟩ := right
  have hnodes : ln = rn := by
    apply Std.ExtTreeMap.ext_getElem?
    intro place
    by_cases hp : place = []
    · have hl : ln[place]? = none :=
        Option.eq_none_iff_forall_ne_some.mpr fun node h => (lr place node h).1 hp
      have hr : rn[place]? = none :=
        Option.eq_none_iff_forall_ne_some.mpr fun node h => (rr place node h).1 hp
      rw [hl, hr]
    · simpa [node?, hp] using hn place
  subst hnodes hc
  rfl

/-- Something may lie in a directory, but a file never where a directory is. -/
def Admits (fs : FileSystem) (place : Location) (node : Node) : Prop :=
  place ≠ [] ∧ fs.node? place.tail = some .directory ∧
    (node = .directory ∨ fs.node? place ≠ some .directory)

instance (fs : FileSystem) (place : Location) (node : Node) : Decidable (fs.Admits place node) :=
  inferInstanceAs (Decidable (_ ∧ _ ∧ _))

theorem Admits.rooted {fs : FileSystem} {place : Location} {node : Node}
    (h : fs.Admits place node) (other : Location) (found : Node)
    (hf : (fs.nodes.insert place node)[other]? = some found) :
    other ≠ [] ∧
      (other.tail = [] ∨ (fs.nodes.insert place node)[other.tail]? = some .directory) := by
  obtain ⟨hp, hup, hnode⟩ := h
  by_cases he : other = place
  · subst he
    refine ⟨hp, ?_⟩
    by_cases ht : other.tail = []
    · exact .inl ht
    · have hne : other.tail ≠ other := by cases other <;> simp_all
      rw [node?, if_neg ht] at hup
      simp [Std.ExtTreeMap.getElem?_insert, hne.symm, hup]
  · rw [Std.ExtTreeMap.getElem?_insert] at hf
    simp only [Std.compare_eq_iff_eq, Ne.symm he, if_false] at hf
    obtain ⟨ho, ht⟩ := fs.rooted other found hf
    refine ⟨ho, ht.imp id fun hd => ?_⟩
    by_cases hq : other.tail = place
    · rcases hnode with rfl | hn
      · simp [hq]
      · rw [node?, if_neg hp, ← hq] at hn
        exact absurd hd hn
    · simp [Std.ExtTreeMap.getElem?_insert, Ne.symm hq, hd]

/-- Let something lie at a place that admits it, instead of what lies there. -/
def put (fs : FileSystem) (place : Location) (node : Node) : FileSystem :=
  if h : fs.Admits place node then
    { fs with nodes := fs.nodes.insert place node, rooted := h.rooted }
  else fs

@[simp] theorem current_put (fs : FileSystem) (place : Location) (node : Node) :
    (fs.put place node).current = fs.current := by
  unfold put
  split <;> rfl

theorem node?_put {fs : FileSystem} {place : Location} {node : Node} (h : fs.Admits place node)
    (other : Location) :
    (fs.put place node).node? other = if other = place then some node else fs.node? other := by
  have hp := h.1
  rw [put, dif_pos h]
  unfold node?
  by_cases hr : other = []
  · subst hr; simp [Ne.symm hp]
  · by_cases he : other = place
    · subst he; simp [hr]
    · simp [hr, he, Std.ExtTreeMap.getElem?_insert, Ne.symm he]

/-- Where a path begins, and the segments that follow. -/
def start (fs : FileSystem) (path : Path) : Location × List String :=
  if path.isAbsolute then ([], path.segments.drop 1) else (fs.current, path.segments)

/-- Refuse a path that cannot even be looked up. -/
def allowed (path : Path) : Except PathError Unit :=
  if '\x00' ∈ path.text.toList then .error .unusable
  else if Path.maxPathBytes < path.text.utf8ByteSize then .error .nameTooLong
  else .ok ()

/-- Follow segments from a place. Each step, also one that goes nowhere, starts from a directory;
the place reached last need not exist. -/
def follow (fs : FileSystem) : Location → List String → Except PathError Location
  | place, [] => .ok place
  | place, segment :: rest =>
    match fs.node? place with
    | none => .error .notFound
    | some (.file _) => .error .notDirectory
    | some .directory =>
      if Path.isIdle segment then fs.follow place rest
      else if segment = ".." then fs.follow place.tail rest
      else if Path.maxNameBytes < segment.utf8ByteSize then .error .nameTooLong
      else fs.follow (segment :: place) rest

/-- The place a path names, whether anything lies there or not. The empty path names none. -/
def resolve (fs : FileSystem) (path : Path) : Except PathError Location := do
  allowed path
  if path.text = "" then .error .notFound
  let (place, segments) := fs.start path
  fs.follow place segments

def lookup (fs : FileSystem) (path : Path) : Except PathError Node := do
  match fs.node? (← fs.resolve path) with
  | none => .error .notFound
  | some node => .ok node

/-- Whether a path leads to a file or a directory. -/
def present (fs : FileSystem) (path : Path) : Bool := (fs.lookup path).isOk

def readText (fs : FileSystem) (path : Path) : Except PathError String := do
  match ← fs.lookup path with
  | .directory => .error .isDirectory
  | .file (.binary _) => .error .notText
  | .file (.text text) => .ok text

end FileSystem

end EntityScaffold
