import EntityScaffold.Path
import EntityScaffold.Proofs.Text.Joined

/-!
The segments of a path that was put together from two, and of its folder.
-/

namespace EntityScaffold.Path

theorem toList_segments (path : Path) :
    path.segments.map String.toList = path.text.toList.splitOn '/' := by
  simp [segments, Text.splitOn, Function.comp_def]

theorem segments_ne_nil (path : Path) : path.segments ≠ [] := by
  simp [segments, Text.splitOn]

theorem text_eq_intercalate (path : Path) :
    path.text.toList = ['/'].intercalate (path.segments.map String.toList) := by
  rw [toList_segments, List.intercalate_splitOn]

theorem segments_eq_of_text {path other : Path} {front : List String}
    (h : path.text.toList.splitOn '/' = front.map String.toList ++ other.text.toList.splitOn '/') :
    path.segments = front ++ other.segments := by
  simp [segments, Text.splitOn, h, Function.comp_def]

theorem segments_empty {path : Path} (h : path.text = "") : path.segments = [""] := by
  simp [segments, Text.splitOn, h]

theorem segments_name {name : String} (h : '/' ∉ name.toList) : segments ⟨name⟩ = [name] := by
  simp [segments, Text.splitOn, List.splitOn_eq_singleton h]

theorem segments_of_absolute {path : Path} (h : path.isAbsolute) :
    ∃ rest, path.segments = "" :: rest := by
  obtain ⟨text, ht⟩ := List.head?_eq_some_iff.mp (beq_iff_eq.mp h)
  refine ⟨(text.splitOn '/').map .ofList, ?_⟩
  simp [segments, Text.splitOn, ht, List.splitOn_cons_eq_if_modifyHead]

/-- Joining keeps the segments of both paths. Only the empty one at the end of the base, which a
slash there leaves, is gone. -/
theorem segments_join (base : Path) {rest : Path} (h : rest.isAbsolute = false) :
    ∃ front, (base.join rest).segments = front ++ rest.segments ∧
      (base.segments = front ∨ base.segments = front ++ [""]) := by
  rw [join, if_neg (by simp [h])]
  by_cases he : base.text = ""
  · refine ⟨[], ?_, .inr (segments_empty he)⟩
    rw [if_pos (.inl he), he]
    simp
  · by_cases hs : base.text.toList.getLast? = some '/'
    · obtain ⟨front, hf⟩ := List.getLast?_eq_some_iff.mp hs
      have hb : base.segments = (segments ⟨.ofList front⟩) ++ [""] := by
        simp [segments, Text.splitOn, hf, List.splitOn_append_cons_self]
      refine ⟨segments ⟨.ofList front⟩, ?_, .inr hb⟩
      rw [if_pos (.inr hs)]
      apply segments_eq_of_text
      rw [toList_segments]
      simp [hf, List.splitOn_append_cons_self]
    · refine ⟨base.segments, ?_, .inl rfl⟩
      rw [if_neg (by simp [he, hs])]
      apply segments_eq_of_text
      rw [toList_segments]
      simp [List.splitOn_append_cons_self]

theorem isAbsolute_name {name : String} (h : '/' ∉ name.toList) : isAbsolute ⟨name⟩ = false := by
  unfold isAbsolute
  rw [beq_eq_false_iff_ne]
  exact fun ha => h (List.mem_of_mem_head? ha)

theorem mem_segments_join {base rest : Path} {segment : String}
    (h : segment ∈ (base.join rest).segments) :
    segment ∈ base.segments ∨ segment ∈ rest.segments := by
  by_cases ha : rest.isAbsolute
  · rw [join, if_pos ha] at h
    exact .inr h
  · obtain ⟨front, hs, hb⟩ := segments_join base (Bool.eq_false_iff.mpr ha)
    rw [hs, List.mem_append] at h
    refine h.imp_left fun hf => ?_
    rcases hb with hb | hb <;> simp [hb, hf]

theorem not_mem_piece {cut : Char} {text piece : List Char} (h : piece ∈ text.splitOn cut) :
    cut ∉ piece := by
  rw [List.splitOn_eq_splitOnP] at h
  intro hm
  simpa using Text.of_mem_splitOnP h cut hm

theorem not_slash_mem_segment {path : Path} {segment : String} (h : segment ∈ path.segments) :
    '/' ∉ segment.toList := by
  obtain ⟨piece, hp, rfl⟩ := List.mem_map.mp h
  simpa using not_mem_piece hp

theorem segments_of_text {path : Path} {segments : List String} (hn : segments ≠ [])
    (hs : ∀ segment ∈ segments, '/' ∉ segment.toList)
    (ht : path.text.toList = ['/'].intercalate (segments.map String.toList)) :
    path.segments = segments := by
  have hm : path.segments.map String.toList = segments.map String.toList := by
    rw [toList_segments, ht, List.splitOn_intercalate]
    · intro piece hp
      obtain ⟨segment, hm, rfl⟩ := List.mem_map.mp hp
      exact hs segment hm
    · simpa using hn
  exact (List.map_inj_right fun _ _ => String.toList_inj.mp).mp hm

theorem isAbsolute_append {name tail : String} (h : isAbsolute ⟨tail⟩ = false) :
    isAbsolute ⟨name ++ tail⟩ = isAbsolute ⟨name⟩ := by
  unfold isAbsolute at h ⊢
  rw [String.toList_append]
  cases hn : name.toList with
  | nil => simpa using h
  | cons c text => simp

/-- What follows a name that is joined follows the joined path. -/
theorem text_join_append (base : Path) {name tail : String} (h : isAbsolute ⟨tail⟩ = false) :
    (base.join ⟨name ++ tail⟩).text = (base.join ⟨name⟩).text ++ tail := by
  unfold join
  rw [isAbsolute_append h]
  split
  · rfl
  · split <;> simp only [String.append_assoc]

/-- Joining leaves the last segment of what is joined as it is. -/
theorem getLast?_segments_join (base rest : Path) :
    (base.join rest).segments.getLast? = rest.segments.getLast? := by
  by_cases ha : rest.isAbsolute
  · rw [join, if_pos ha]
  · obtain ⟨front, hs, -⟩ := segments_join base (Bool.eq_false_iff.mpr ha)
    rw [hs, List.getLast?_append_of_ne_nil _ rest.segments_ne_nil]

/-- A text without a slash makes the last segment longer. -/
theorem segments_append (text : String) {tail : String} (h : '/' ∉ tail.toList) :
    ∃ front last, segments ⟨text⟩ = front ++ [last] ∧
      segments ⟨text ++ tail⟩ = front ++ [last ++ tail] := by
  obtain ⟨front, last, hs⟩ :=
    (List.eq_nil_or_concat' (segments ⟨text⟩)).resolve_left (segments_ne_nil ⟨text⟩)
  refine ⟨front, last, hs, segments_of_text (by simp) ?_ ?_⟩
  · intro segment hm
    have hslash (other : String) (ho : other ∈ front ++ [last]) : '/' ∉ other.toList :=
      not_slash_mem_segment (hs ▸ ho)
    rcases List.mem_append.mp hm with hf | hl
    · exact hslash segment (List.mem_append_left _ hf)
    · rw [List.mem_singleton.mp hl, String.toList_append, List.mem_append, not_or]
      exact ⟨hslash last (by simp), h⟩
  · have ht := text_eq_intercalate ⟨text⟩
    rw [hs] at ht
    simp only [String.toList_append] at ht ⊢
    rw [ht]
    cases front with
    | nil => simp
    | cons first rest => simp [Text.intercalate_cons]

/-- The segments before the last name, without the idle ones at their end. -/
def folderSegments (path : Path) : List String :=
  (path.segments.rdropWhile isIdle).dropLast.rdropWhile isIdle

theorem folderSegments_prefix (path : Path) : path.folderSegments <+: path.segments :=
  calc
    _ <+: (path.segments.rdropWhile isIdle).dropLast := List.rdropWhile_prefix isIdle _
    _ <+: path.segments.rdropWhile isIdle := List.dropLast_prefix _
    _ <+: path.segments := List.rdropWhile_prefix isIdle _

theorem length_folderSegments_lt (path : Path) :
    path.folderSegments.length < path.segments.length := by
  have hd := (List.rdropWhile_prefix isIdle (path.segments.rdropWhile isIdle).dropLast).length_le
  have hr := (List.rdropWhile_prefix isIdle path.segments).length_le
  have hs := List.length_pos_iff.mpr path.segments_ne_nil
  rw [List.length_dropLast] at hd
  change path.folderSegments.length ≤ _ at hd
  omega

/-- The folder's segments are the first ones of the path, which always has more. -/
theorem segments_eq_folderSegments (path : Path) :
    ∃ rest, rest ≠ [] ∧ path.segments = path.folderSegments ++ rest := by
  obtain ⟨rest, hr⟩ := path.folderSegments_prefix
  refine ⟨rest, ?_, hr.symm⟩
  rintro rfl
  have hl := path.length_folderSegments_lt
  simp [← hr] at hl

theorem folder_text (path : Path) :
    path.folder.text.toList = ['/'].intercalate (path.folderSegments.map String.toList) := by
  have hs : (((path.segments.reverse.dropWhile isIdle).drop 1).dropWhile isIdle).reverse =
      path.folderSegments := by
    simp [folderSegments, List.rdropWhile]
  rw [folder, String.toList_intercalate, hs]
  rfl

theorem folderSegments_ne_nil {path : Path} (h : path.folder.text ≠ "") :
    path.folderSegments ≠ [] := by
  intro hn
  apply h
  apply String.toList_injective
  simp [folder_text, hn]

theorem segments_folder {path : Path} (h : path.folder.text ≠ "") :
    path.folder.segments = path.folderSegments :=
  segments_of_text (folderSegments_ne_nil h)
    (fun _ hs => not_slash_mem_segment (path.folderSegments_prefix.subset hs)) path.folder_text

/-- The folder's text is where the path's text begins. -/
theorem folder_prefix {path : Path} (h : path.folder.text ≠ "") :
    path.folder.text.toList <+: path.text.toList := by
  obtain ⟨rest, hr, hs⟩ := path.segments_eq_folderSegments
  rw [path.text_eq_intercalate, folder_text, hs]
  cases hf : path.folderSegments with
  | nil => exact absurd hf (folderSegments_ne_nil h)
  | cons first front => simp [Text.intercalate_cons, ← List.append_assoc]

/-- The empty folder names nothing. -/
theorem idle_of_folder_empty {path : Path} (h : path.folder.text = "") :
    ∀ segment ∈ path.folderSegments, isIdle segment := by
  have ht := path.folder_text
  rw [h] at ht
  cases hf : path.folderSegments with
  | nil => simp
  | cons first rest =>
    rw [hf, List.map_cons, Text.intercalate_cons] at ht
    obtain ⟨hfirst, hrest⟩ := List.append_eq_nil_iff.mp ht.symm
    obtain rfl : first = "" := String.toList_injective hfirst
    obtain rfl : rest = [] := by
      cases rest with
      | nil => rfl
      | cons second rest => simp at hrest
    simp [isIdle]

theorem isAbsolute_folder {path : Path} (h : path.folder.text ≠ "") :
    path.folder.isAbsolute = path.isAbsolute := by
  obtain ⟨rest, hr⟩ := folder_prefix h
  unfold isAbsolute
  rw [← hr]
  cases hf : path.folder.text.toList with
  | nil => exact absurd (String.toList_eq_nil_iff.mp hf) h
  | cons c text => simp

/-- In a path that ends in a name, only idle segments stand between its folder and the name. -/
theorem segments_of_name {path : Path} {front : List String} {name : String}
    (h : path.segments = front ++ [name]) (hn : isIdle name = false) :
    ∃ idle, front = path.folderSegments ++ idle ∧ ∀ segment ∈ idle, isIdle segment := by
  refine ⟨front.rtakeWhile isIdle, ?_, fun segment hs => List.mem_rtakeWhile_imp hs⟩
  rw [folderSegments, h, List.rdropWhile_concat_neg _ _ _ (by simp [hn]), List.dropLast_concat]
  exact List.rdropWhile_append_rtakeWhile.symm

end EntityScaffold.Path
