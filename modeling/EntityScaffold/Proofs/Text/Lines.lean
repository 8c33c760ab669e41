import EntityScaffold.Proofs.Text.Joined

/-!
What the lines of a text show: each line without the white space around it. Indentation does not
show, and what shows of a text decides what shows of the text when it is trimmed.
-/

namespace EntityScaffold.Text

/-- The lines of a text, each without the white space around it. -/
def shownLines (text : List Char) : List (List Char) := (text.splitOn '\n').map trimChars

/-- A text is one line, or a line with its end and more text behind it. -/
@[elab_as_elim]
theorem lines_induction {motive : List Char → Prop}
    (last : ∀ line, '\n' ∉ line → motive line)
    (next : ∀ line rest, '\n' ∉ line → motive rest → motive (line ++ '\n' :: rest))
    (text : List Char) : motive text := by
  by_cases h : '\n' ∈ text
  · obtain ⟨line, rest, rfl, hl⟩ := List.eq_append_cons_of_mem h
    exact next line rest hl (lines_induction last next rest)
  · exact last text h
termination_by text.length

theorem shownLines_ne_nil (text : List Char) : shownLines text ≠ [] := by
  simp [shownLines]

theorem shownLines_line {line : List Char} (h : '\n' ∉ line) :
    shownLines line = [trimChars line] := by
  rw [shownLines, List.splitOn_eq_singleton h, List.map_singleton]

theorem shownLines_next (front rest : List Char) :
    shownLines (front ++ '\n' :: rest) = shownLines front ++ shownLines rest := by
  rw [shownLines, List.splitOn_append_cons_self, List.map_append, shownLines, shownLines]

theorem shownLines_margin {margin : List Char} (hb : Blank margin) (hn : '\n' ∉ margin)
    (text : List Char) : shownLines (margin ++ text) = shownLines text := by
  induction text using lines_induction with
  | last line hl =>
    rw [shownLines_line (by simp [hn, hl]), shownLines_line hl, trimChars_blank_append hb]
  | next line rest hl _ =>
    rw [← List.append_assoc, shownLines_next, shownLines_next, shownLines_line (by simp [hn, hl]),
      shownLines_line hl, trimChars_blank_append hb]

/-- Joined pieces show the same whatever the margin that every line end is followed by. -/
theorem shownLines_intercalate {margin : List Char} (hb : Blank margin) (hn : '\n' ∉ margin)
    (ending : List Char) (pieces : List (List Char)) :
    shownLines ((ending ++ '\n' :: margin).intercalate pieces) =
      shownLines ((ending ++ ['\n']).intercalate pieces) := by
  induction pieces with
  | nil => rfl
  | cons first rest ih =>
    cases rest with
    | nil => simp
    | cons second rest =>
      have hjoint (behind text : List Char) :
          first ++ (ending ++ '\n' :: behind) ++ text =
            (first ++ ending) ++ '\n' :: (behind ++ text) := by simp
      rw [List.intercalate_cons_cons, List.intercalate_cons_cons, hjoint, hjoint, shownLines_next,
        shownLines_next, shownLines_margin hb hn, ih, List.nil_append]

/-! ### Trimming -/

theorem blank_iff_shownLines {text : List Char} :
    Blank text ↔ ∀ line ∈ shownLines text, line = [] := by
  induction text using lines_induction with
  | last line hl => simp [shownLines_line hl, trimChars_eq_nil_iff]
  | next line rest hl ih =>
    rw [shownLines_next, shownLines_line hl, List.forall_mem_append, List.forall_mem_singleton,
      trimChars_eq_nil_iff, ← ih]
    simp only [Blank, List.forall_mem_append, List.forall_mem_cons, isBlank_newline, true_and]

/-- Leave out the empty lines at the beginning. One line stays. -/
def withoutFirstEmpty : List (List Char) → List (List Char)
  | [] :: next :: rest => withoutFirstEmpty (next :: rest)
  | lines => lines

/-- Leave out the empty lines at the end. One line stays. -/
def withoutLastEmpty : List (List Char) → List (List Char)
  | [] => []
  | line :: rest => if ∀ other ∈ rest, other = [] then [line] else line :: withoutLastEmpty rest

theorem withoutFirstEmpty_empty {lines : List (List Char)} (h : lines ≠ []) :
    withoutFirstEmpty ([] :: lines) = withoutFirstEmpty lines := by
  obtain ⟨next, rest, rfl⟩ := List.exists_cons_of_ne_nil h
  rw [withoutFirstEmpty]

theorem withoutFirstEmpty_shown {line : List Char} (h : line ≠ []) (rest : List (List Char)) :
    withoutFirstEmpty (line :: rest) = line :: rest := by
  obtain ⟨c, chars, rfl⟩ := List.exists_cons_of_ne_nil h
  rfl

theorem withoutFirstEmpty_singleton (line : List Char) : withoutFirstEmpty [line] = [line] := by
  cases line <;> rfl

theorem shownLines_dropWhile (text : List Char) :
    shownLines (text.dropWhile isBlank) = withoutFirstEmpty (shownLines text) := by
  have hone {line : List Char} (hl : '\n' ∉ line) : '\n' ∉ line.dropWhile isBlank :=
    fun hm => hl ((List.dropWhile_suffix _).subset hm)
  induction text using lines_induction with
  | last line hl =>
    rw [shownLines_line (hone hl), shownLines_line hl, trimChars_dropWhile,
      withoutFirstEmpty_singleton]
  | next line rest hl ih =>
    rw [shownLines_next, shownLines_line hl, List.singleton_append]
    by_cases hb : Blank line
    · rw [List.dropWhile_append_of_pos hb, List.dropWhile_cons_of_pos isBlank_newline, ih,
        trimChars_eq_nil_iff.mpr hb, withoutFirstEmpty_empty (shownLines_ne_nil rest)]
    · rw [dropWhile_append_left hb, shownLines_next, shownLines_line (hone hl),
        trimChars_dropWhile, withoutFirstEmpty_shown (trimChars_ne_nil hb), List.singleton_append]

theorem shownLines_rdropWhile (text : List Char) :
    shownLines (text.rdropWhile isBlank) = withoutLastEmpty (shownLines text) := by
  have hone {line : List Char} (hl : '\n' ∉ line) : '\n' ∉ line.rdropWhile isBlank :=
    fun hm => hl ((List.rdropWhile_prefix _ _).subset hm)
  induction text using lines_induction with
  | last line hl =>
    rw [shownLines_line (hone hl), shownLines_line hl, trimChars_rdropWhile]
    simp [withoutLastEmpty]
  | next line rest hl ih =>
    rw [shownLines_next, shownLines_line hl, List.singleton_append, withoutLastEmpty]
    by_cases hb : Blank rest
    · have hend : Blank ('\n' :: rest) := List.forall_mem_cons.mpr ⟨isBlank_newline, hb⟩
      rw [if_pos (blank_iff_shownLines.mp hb), rdropWhile_append_blank _ hend,
        shownLines_line (hone hl), trimChars_rdropWhile]
    · have hsplit (text : List Char) : line ++ '\n' :: text = line ++ ['\n'] ++ text := by simp
      rw [if_neg (mt blank_iff_shownLines.mpr hb), hsplit, rdropWhile_append_right hb, ← hsplit,
        shownLines_next, shownLines_line hl, ih, List.singleton_append]

/-- What a trimmed text shows is what the text shows, without the empty lines at its ends. -/
theorem shownLines_trimChars (text : List Char) :
    shownLines (trimChars text) = withoutLastEmpty (withoutFirstEmpty (shownLines text)) := by
  rw [trimChars_eq, shownLines_rdropWhile, shownLines_dropWhile]

end EntityScaffold.Text
