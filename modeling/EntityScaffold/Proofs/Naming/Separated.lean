import EntityScaffold.Naming
import EntityScaffold.Proofs.Text.Joined
import EntityScaffold.Proofs.Text.Lowering

/-!
The names that separating gives: words in small letters, joined by single underscores. Such a name
is its own separated form, so separating twice is separating once.
-/

namespace EntityScaffold.Naming
open Text

/-! ### Segments -/

/-- What is between words splits the segments, and all about segments follows from that. -/
theorem segments_break {c : Char} (hc : isAlphanumeric c = false) (front rest : List Char) :
    segments (front ++ c :: rest) = segments front ++ segments rest := by
  unfold segments
  rw [List.splitOnP_append_cons front rest (by simp [hc]), List.filter_append]

theorem segments_run {run : List Char} (hne : run ≠ []) (h : ∀ c ∈ run, isAlphanumeric c) :
    segments run = [run] := by
  have hs : run.splitOnP (fun c => !isAlphanumeric c) = [run] :=
    List.splitOnP_eq_singleton fun c hc => by simp [h c hc]
  simp [segments, hs, hne]

/-- A segment is a run of characters of words. -/
theorem of_mem_segments {name run : List Char} (h : run ∈ segments name) :
    run ≠ [] ∧ ∀ c ∈ run, isAlphanumeric c := by
  obtain ⟨hs, hne⟩ := List.mem_filter.mp h
  exact ⟨by simpa using hne, fun c hc => by simpa using of_mem_splitOnP hs c hc⟩

/-! ### The words of a segment -/

/-- Characters that lowering leaves alone begin no words. -/
theorem splitWords_small (started : Bool) {front : List Char}
    (h : ∀ c ∈ front, isLowered c = false) (rest : List Char) :
    splitWords started (front ++ rest) =
      front.filter isAlphanumeric ++
        splitWords (started || !(front.filter isAlphanumeric).isEmpty) rest := by
  induction front generalizing started with
  | nil => simp
  | cons c front ih =>
    have hc := h c (by simp)
    rw [List.cons_append, splitWords, isLowered_eq_false_iff.mp hc, hc,
      ih _ fun x hx => h x (by simp [hx])]
    by_cases ha : isAlphanumeric c <;> simp [ha]

/-- A small first letter makes no difference to the words: the first one begins there anyway. -/
theorem splitWords_decapitalize (run : List Char) :
    splitWords false (decapitalizeChars run) = splitWords false run := by
  cases run with
  | nil => rfl
  | cons c rest =>
    rw [decapitalizeChars]
    split
    · rfl
    · rw [splitWords_small false (fun x hx => isLowered_of_mem_lowerChar hx) rest, splitWords]
      simp

theorem separatorChars_eq (name : List Char) :
    separatorChars name = ['_'].intercalate ((segments name).map (splitWords false)) := by
  simp only [separatorChars, splitWords_decapitalize]

/-! ### Words -/

/-- A character of a word in small letters. -/
def Small (c : Char) : Prop := isAlphanumeric c ∧ isLowered c = false

/-- A word in small letters. -/
def IsWord (word : List Char) : Prop := word ≠ [] ∧ ∀ c ∈ word, Small c

theorem IsWord.append {word rest : List Char} (h : IsWord word) (hr : ∀ c ∈ rest, Small c) :
    IsWord (word ++ rest) :=
  ⟨by simp [h.1], List.forall_mem_append.mpr ⟨h.2, hr⟩⟩

/-- The small form of a character of a word, without its marks, is a word. -/
theorem isWord_lowerChar {c : Char} (h : isAlphanumeric c) :
    IsWord ((lowerChar c).filter isAlphanumeric) := by
  obtain ⟨x, rest, hl, hx⟩ := lowerChar_of_alphanumeric h
  refine ⟨by simp [hl, hx], fun y hy => ?_⟩
  obtain ⟨hm, ha⟩ := List.mem_filter.mp hy
  exact ⟨ha, isLowered_of_mem_lowerChar hm⟩

/-- So after a character of a word something has been written. -/
theorem lowerChar_starts {c : Char} (h : isAlphanumeric c) :
    ((lowerChar c).filter isAlphanumeric).isEmpty = false := by
  simpa using (isWord_lowerChar h).1

/-- What follows the beginning of a segment goes on with its word, and then has words of its own. -/
theorem splitWords_started {run : List Char} (h : ∀ c ∈ run, isAlphanumeric c) :
    ∃ (front : List Char) (words : List (List Char)),
      splitWords true run = front ++ words.flatMap (['_'] ++ ·) ∧
        (∀ c ∈ front, Small c) ∧ ∀ word ∈ words, IsWord word := by
  induction run with
  | nil => exact ⟨[], [], rfl, by simp, by simp⟩
  | cons c rest ih =>
    obtain ⟨hc, hrest⟩ := List.forall_mem_cons.mp h
    obtain ⟨front, words, hr, hf, hw⟩ := ih hrest
    have hword := (isWord_lowerChar hc).append hf
    rw [splitWords, Bool.true_or, hr]
    cases hl : isLowered c with
    | true =>
      exact ⟨[], ((lowerChar c).filter isAlphanumeric ++ front) :: words, by simp, by simp,
        List.forall_mem_cons.mpr ⟨hword, hw⟩⟩
    | false =>
      exact ⟨(lowerChar c).filter isAlphanumeric ++ front, words, by simp, hword.2, hw⟩

/-- A segment has at least one word. -/
theorem splitWords_segment {run : List Char} (hne : run ≠ []) (h : ∀ c ∈ run, isAlphanumeric c) :
    ∃ words, words ≠ [] ∧ splitWords false run = ['_'].intercalate words ∧
      ∀ word ∈ words, IsWord word := by
  obtain ⟨c, rest, rfl⟩ := List.exists_cons_of_ne_nil hne
  obtain ⟨hc, hrest⟩ := List.forall_mem_cons.mp h
  obtain ⟨front, words, hr, hf, hw⟩ := splitWords_started hrest
  have hstart := lowerChar_starts hc
  have hc := isWord_lowerChar hc
  refine ⟨((lowerChar c).filter isAlphanumeric ++ front) :: words, by simp, ?_,
    List.forall_mem_cons.mpr ⟨hc.append hf, hw⟩⟩
  rw [splitWords, intercalate_cons, hstart]
  simp [hr]

/-- A word in small letters is written as it is. -/
theorem splitWords_word {word : List Char} (h : IsWord word) : splitWords false word = word := by
  have hs := splitWords_small false (fun c hc => (h.2 c hc).2) []
  rw [List.append_nil] at hs
  rw [hs, splitWords, List.append_nil, List.filter_eq_self.mpr fun c hc => (h.2 c hc).1]

/-! ### Separated names -/

/-- Words in small letters, joined by single underscores. -/
def Separated (text : List Char) : Prop :=
  ∃ words, text = ['_'].intercalate words ∧ ∀ word ∈ words, IsWord word

theorem segments_joined {words : List (List Char)} (h : ∀ word ∈ words, IsWord word) :
    segments (['_'].intercalate words) = words := by
  induction words with
  | nil => simp [segments]
  | cons word rest ih =>
    obtain ⟨hword, hrest⟩ := List.forall_mem_cons.mp h
    have hrun := segments_run hword.1 fun c hc => (hword.2 c hc).1
    cases rest with
    | nil => simpa using hrun
    | cons second rest =>
      have hbreak : isAlphanumeric '_' = false := by decide +kernel
      rw [List.intercalate_cons_cons, List.append_assoc, List.singleton_append,
        segments_break hbreak, hrun, ih hrest, List.singleton_append]

theorem separatorChars_separated (name : List Char) : Separated (separatorChars name) := by
  have hwords : ∀ run ∈ segments name, ∃ words, words ≠ [] ∧
      splitWords false run = ['_'].intercalate words ∧ ∀ word ∈ words, IsWord word :=
    fun run hr => splitWords_segment (of_mem_segments hr).1 (of_mem_segments hr).2
  choose! words hne hsplit hword using hwords
  refine ⟨((segments name).map words).flatten, ?_, ?_⟩
  · rw [separatorChars_eq, intercalate_flatten _ (by simpa using hne), List.map_map,
      List.map_congr_left hsplit]
    rfl
  · intro word hw
    obtain ⟨group, hg, hw⟩ := List.mem_flatten.mp hw
    obtain ⟨run, hr, rfl⟩ := List.mem_map.mp hg
    exact hword run hr word hw

theorem Separated.separatorChars {text : List Char} (h : Separated text) :
    separatorChars text = text := by
  obtain ⟨words, rfl, hw⟩ := h
  rw [separatorChars_eq, segments_joined hw,
    List.map_congr_left fun word hm => splitWords_word (hw word hm)]
  simp

theorem underscore_not_small : ¬ Small '_' := fun h => absurd h.1 (by decide +kernel)

/-- Cut at its underscores, a separated name comes apart in words. -/
theorem Separated.pieces {text : List Char} (h : Separated text) (hne : text ≠ []) :
    ∀ piece ∈ text.splitOn '_', IsWord piece := by
  obtain ⟨words, rfl, hw⟩ := h
  have hwords : words ≠ [] := by
    rintro rfl
    exact hne rfl
  have hcut : ∀ word ∈ words, '_' ∉ word :=
    fun word hm hu => underscore_not_small ((hw word hm).2 '_' hu)
  rwa [List.splitOn_intercalate '_' hcut hwords]

/-- Underscores stand between words only: nowhere does a piece without characters lie at one. -/
theorem Separated.not_beside {text front rest : List Char} (h : Separated text)
    (ht : text = front ++ '_' :: rest) :
    front ≠ [] ∧ rest ≠ [] ∧ rest.head? ≠ some '_' := by
  have hempty : [] ∉ text.splitOn '_' :=
    fun hm => (h.pieces (by simp [ht]) [] hm).1 rfl
  rw [ht, List.splitOn_append_cons_self, List.mem_append, not_or] at hempty
  refine ⟨?_, ?_, fun hu => ?_⟩
  · rintro rfl
    exact hempty.1 (by simp)
  · rintro rfl
    exact hempty.2 (by simp)
  · obtain ⟨tail, rfl⟩ := List.head?_eq_some_iff.mp hu
    have hs := List.splitOn_append_cons_self (a := '_') [] tail
    rw [List.nil_append] at hs
    exact hempty.2 (by simp [hs])

theorem Separated.mem {text : List Char} (h : Separated text) {c : Char} (hc : c ∈ text) :
    c = '_' ∨ Small c := by
  obtain ⟨words, rfl, hw⟩ := h
  rcases mem_intercalate hc with hu | ⟨word, hm, hc⟩
  · exact .inl (List.mem_singleton.mp hu)
  · exact .inr ((hw word hm).2 c hc)

theorem Separated.not_mem {text : List Char} (h : Separated text) {c : Char} (hu : c ≠ '_')
    (hc : isAlphanumeric c = false) : c ∉ text := by
  intro hm
  rcases h.mem hm with he | hs
  · exact hu he
  · simp [hs.1] at hc

theorem Separated.not_isUpper {text : List Char} (h : Separated text) {c : Char} (hc : c ∈ text) :
    c.isUpper = false := by
  rcases h.mem hc with rfl | hs
  · rfl
  · exact not_isUpper_of_not_isLowered hs.2

/-- A separated name begins and ends with a character of a word, has no two underscores in a row,
and holds nothing that has to be escaped in a string. -/
theorem Separated.tidy {text : List Char} (h : Separated text) :
    text.head? ≠ some '_' ∧ text.getLast? ≠ some '_' ∧ ¬ ['_', '_'] <:+: text ∧
      '"' ∉ text ∧ '\\' ∉ text ∧ ¬ ∃ c ∈ text, c.isUpper := by
  refine ⟨fun hu => ?_, fun hu => ?_, ?_, h.not_mem (by decide) (by decide +kernel),
    h.not_mem (by decide) (by decide +kernel), ?_⟩
  · obtain ⟨rest, ht⟩ := List.head?_eq_some_iff.mp hu
    rw [← List.nil_append ('_' :: rest)] at ht
    exact (h.not_beside ht).1 rfl
  · obtain ⟨front, ht⟩ := List.getLast?_eq_some_iff.mp hu
    exact (h.not_beside ht).2.1 rfl
  · rintro ⟨front, rest, ht⟩
    rw [List.append_assoc] at ht
    exact (h.not_beside ht.symm).2.2 rfl
  · rintro ⟨c, hm, hu⟩
    simp [h.not_isUpper hm] at hu

/-- Separated names are what separating gives, and what separating leaves alone. -/
theorem separatorCase_normal_form (text : String) :
    Separated (separatorCase text).toList ∧
      (separatorCase text = text ↔ Separated text.toList) ∧
      ((∃ name, separatorCase name = text) ↔ Separated text.toList) ∧
      separatorCase (separatorCase text) = separatorCase text ∧
      let key := (separatorCase text).toList
      key.head? ≠ some '_' ∧ key.getLast? ≠ some '_' ∧ ¬ ['_', '_'] <:+: key ∧
        '"' ∉ key ∧ '\\' ∉ key ∧ ¬ ∃ c ∈ key, c.isUpper := by
  have hseparated (name : String) : Separated (separatorCase name).toList := by
    rw [separatorCase, String.toList_ofList]
    exact separatorChars_separated name.toList
  have hfixed {name : String} (h : Separated name.toList) : separatorCase name = name := by
    rw [separatorCase, h.separatorChars, String.ofList_toList]
  have himage : (∃ name, separatorCase name = text) ↔ Separated text.toList := by
    refine ⟨?_, fun h => ⟨text, hfixed h⟩⟩
    rintro ⟨name, rfl⟩
    exact hseparated name
  exact ⟨hseparated text, ⟨fun he => he ▸ hseparated text, hfixed⟩, himage,
    hfixed (hseparated text), (hseparated text).tidy⟩

/-- A letter whose small form has a mark, a title case letter, a capital without a small form. -/
example : separatorCase "--userİd__ǅemalϒ" = "user_id_ǆemalϒ" := by decide +kernel

end EntityScaffold.Naming
