/-!
The characters of written-out lines. Computing them from a literal takes long; here they are
found while the lines are matched one by one, and properties can be decided of them.
-/

namespace EntityScaffold.Text

/-- Lines with the characters that spell them. -/
inductive Spelled : List String → List (List Char) → Prop where
  | nil : Spelled [] []
  | cons {line : List Char} {lines : List String} {rest : List (List Char)} :
    Spelled lines rest → Spelled (String.ofList line :: lines) (line :: rest)

theorem Spelled.map_toList {lines : List String} {spelling : List (List Char)}
    (h : Spelled lines spelling) : lines.map String.toList = spelling := by
  induction h with
  | nil => rfl
  | cons _ ih => simp [ih]

theorem Spelled.forall_mem {lines : List String} {spelling : List (List Char)}
    {p : List Char → Prop} (hs : Spelled lines spelling) (h : ∀ line ∈ spelling, p line) :
    ∀ line ∈ lines, p line.toList :=
  fun line hl => h line.toList (hs.map_toList ▸ List.mem_map_of_mem hl)

theorem Spelled.toList_eq {text : String} {line chars : List Char} (h : Spelled [text] [line])
    (hl : line = chars) : text.toList = chars := by
  simpa [hl] using h.map_toList

end EntityScaffold.Text
