import EntityScaffold.Proofs.Naming.Separated

/-!
Where the words of a name begin. A delimiter keeps what stands on its two sides apart, and so does
a capital inside a segment; any other place in a segment lies within a word. So all spellings of
the same words have the same separated form.
-/

namespace EntityScaffold.Naming
open Text

/-- A text that does not go on with a segment. -/
def Breaks (text : List Char) : Prop := ∀ c ∈ text.head?, isAlphanumeric c = false

/-! ### Segments of two texts -/

theorem segments_delimiter {d : Char} (hd : isAlphanumeric d = false) (rest : List Char) :
    segments (d :: rest) = segments rest :=
  segments_break hd [] rest

theorem segments_run_append {run rest : List Char} (hne : run ≠ [])
    (h : ∀ c ∈ run, isAlphanumeric c) (hr : Breaks rest) :
    segments (run ++ rest) = run :: segments rest := by
  cases rest with
  | nil => rw [List.append_nil, segments_run hne h]; rfl
  | cons d rest =>
    have hd : isAlphanumeric d = false := hr d rfl
    rw [segments_break hd, segments_run hne h, segments_delimiter hd, List.singleton_append]

/-- A run between two breaks is a segment of its own. -/
theorem segments_append_run {front run : List Char} (hne : run ≠ [])
    (h : ∀ c ∈ run, isAlphanumeric c) (hf : Breaks front.reverse) {rest : List Char}
    (hr : Breaks rest) :
    segments (front ++ (run ++ rest)) = segments front ++ run :: segments rest := by
  rcases List.eq_nil_or_concat front with rfl | ⟨before, d, rfl⟩
  · exact segments_run_append hne h hr
  · have hd : isAlphanumeric d = false := hf d (by simp)
    rw [List.concat_eq_append, List.append_assoc, List.singleton_append, segments_break hd,
      segments_break hd, segments_run_append hne h hr]
    simp [segments]

theorem breaks_dropWhile (text : List Char) : Breaks (text.dropWhile isAlphanumeric) := by
  intro c hc
  have hn := List.head?_dropWhile_not isAlphanumeric text
  rw [Option.mem_def.mp hc] at hn
  exact hn

/-- The segment that a text begins with. -/
theorem exists_first_run (text : List Char) (h : ∃ c ∈ text.head?, isAlphanumeric c) :
    ∃ run rest, text = run ++ rest ∧ run ≠ [] ∧ (∀ c ∈ run, isAlphanumeric c) ∧ Breaks rest := by
  obtain ⟨c, hc, ha⟩ := h
  obtain ⟨tail, rfl⟩ := List.head?_eq_some_iff.mp hc
  exact ⟨(c :: tail).takeWhile isAlphanumeric, (c :: tail).dropWhile isAlphanumeric,
    List.takeWhile_append_dropWhile.symm, by simp [ha], fun _ hm => List.mem_takeWhile_imp hm,
    breaks_dropWhile _⟩

/-- The segment that a text ends with. -/
theorem exists_last_run (text : List Char) (h : ∃ c ∈ text.getLast?, isAlphanumeric c) :
    ∃ front run, text = front ++ run ∧ run ≠ [] ∧ (∀ c ∈ run, isAlphanumeric c) ∧
      Breaks front.reverse := by
  obtain ⟨run, rest, ht, hne, hrun, hr⟩ := exists_first_run text.reverse (by simpa using h)
  refine ⟨rest.reverse, run.reverse, ?_, by simpa using hne, by simpa using hrun, by simpa using hr⟩
  rw [← List.reverse_append, ← ht, List.reverse_reverse]

/-! ### The words of two texts -/

theorem splitWords_true_append (front rest : List Char) :
    splitWords true (front ++ rest) = splitWords true front ++ splitWords true rest := by
  induction front with
  | nil => rfl
  | cons c front ih => simp [splitWords, ih]

/-- What a segment begins with is written before the rest is looked at. -/
theorem splitWords_append {front : List Char} (hne : front ≠ [])
    (h : ∀ c ∈ front, isAlphanumeric c) (rest : List Char) :
    splitWords false (front ++ rest) = splitWords false front ++ splitWords true rest := by
  obtain ⟨c, front, rfl⟩ := List.exists_cons_of_ne_nil hne
  have hstart := lowerChar_starts (h c (by simp))
  rw [List.cons_append, splitWords, splitWords, hstart, Bool.not_false, Bool.or_true,
    splitWords_true_append]
  simp

/-- In the middle of a segment a capital begins a word, and nothing else does. -/
theorem splitWords_true_cons {c : Char} (hc : isAlphanumeric c) (rest : List Char) :
    splitWords true (c :: rest) =
      (if isLowered c then ['_'] else []) ++ splitWords false (c :: rest) := by
  rw [splitWords, splitWords, lowerChar_starts hc]
  simp

theorem intercalate_glue (joint : List Char) (front : List (List Char)) (left right : List Char)
    (rest : List (List Char)) :
    joint.intercalate (front ++ (left ++ right) :: rest) =
      joint.intercalate (front ++ [left]) ++ joint.intercalate (right :: rest) := by
  cases front with
  | nil => simp [intercalate_cons]
  | cons first front => simp [intercalate_cons]

/-- Within a segment a name can be cut anywhere; an underscore takes the place of the cut if a
capital follows it. -/
theorem separatorChars_append {front rest : List Char} {c : Char}
    (hf : ∃ d ∈ front.getLast?, isAlphanumeric d) (hr : c ∈ rest.head?)
    (hc : isAlphanumeric c) :
    separatorChars (front ++ rest) =
      separatorChars front ++ ((if isLowered c then ['_'] else []) ++ separatorChars rest) := by
  obtain ⟨before, left, rfl, hl, hleft, hb⟩ := exists_last_run front hf
  obtain ⟨right, after, rfl, hne, hright, ha⟩ := exists_first_run rest ⟨c, hr, hc⟩
  -- Only the two runs at the cut grow together; all other segments are those of the halves.
  have hnone : Breaks [] := by simp [Breaks]
  have hboth : left ++ right ≠ [] := by simp [hl]
  have hwhole := segments_append_run hboth (List.forall_mem_append.mpr ⟨hleft, hright⟩) hb ha
  have hfront := segments_append_run hl hleft hb hnone
  have hrest := segments_run_append hne hright ha
  have hword : splitWords false (left ++ right) =
      splitWords false left ++ ((if isLowered c then ['_'] else []) ++ splitWords false right) := by
    obtain ⟨first, tail, rfl⟩ := List.exists_cons_of_ne_nil hne
    obtain rfl : first = c := by simpa using hr
    rw [splitWords_append hl hleft, splitWords_true_cons hc]
  rw [List.append_nil] at hfront
  rw [List.append_assoc, ← List.append_assoc left, separatorChars_eq, separatorChars_eq,
    separatorChars_eq, hwhole, hfront, hrest]
  simp only [List.map_append, List.map_cons, hword]
  rw [intercalate_glue]
  simp [intercalate_cons, segments]

/-! ### Joined words -/

/-- Join texts by underscores. Empty ones leave no trace. -/
def joinShown (texts : List (List Char)) : List Char := ['_'].intercalate (texts.filter (· ≠ []))

theorem separatorChars_eq_nil_iff {name : List Char} :
    separatorChars name = [] ↔ segments name = [] := by
  rw [separatorChars_eq]
  refine ⟨fun h => ?_, fun h => by simp [h]⟩
  by_contra hne
  obtain ⟨run, rest, hs⟩ := List.exists_cons_of_ne_nil hne
  have hm : run ∈ segments name := by simp [hs]
  obtain ⟨hrun, ha⟩ := of_mem_segments hm
  obtain ⟨words, hw, hsplit, hword⟩ := splitWords_segment hrun ha
  obtain ⟨word, words, rfl⟩ := List.exists_cons_of_ne_nil hw
  rw [hs, List.map_cons, intercalate_cons, hsplit, intercalate_cons] at h
  simp [(hword word (by simp)).1] at h

theorem joinShown_pair (left right : List Char) :
    joinShown [left, right] =
      if left = [] then right else if right = [] then left else left ++ '_' :: right := by
  by_cases hl : left = [] <;> by_cases hr : right = [] <;> simp [joinShown, hl, hr]

theorem toList_joinShown (texts : List String) :
    ("_".intercalate (texts.filter (· ≠ ""))).toList = joinShown (texts.map String.toList) := by
  rw [String.toList_intercalate, joinShown, List.filter_map]
  simp [Function.comp_def]

/-- A delimiter belongs to no word, so the words of both sides are joined as they are. -/
theorem separatorChars_delimiter {d : Char} (hd : isAlphanumeric d = false)
    (front rest : List Char) :
    separatorChars (front ++ d :: rest) =
      joinShown [separatorChars front, separatorChars rest] := by
  rw [joinShown_pair, separatorChars_eq (front ++ d :: rest), segments_break hd]
  split
  · next hf => rw [separatorChars_eq_nil_iff.mp hf, List.nil_append, separatorChars_eq]
  · next hf =>
    split
    · next hr => rw [separatorChars_eq_nil_iff.mp hr, List.append_nil, separatorChars_eq]
    · next hr =>
      rw [separatorChars_eq_nil_iff] at hf hr
      let groups := [segments front, segments rest].map (·.map (splitWords false))
      have hgroups : ∀ group ∈ groups, group ≠ [] := by simp [groups, hf, hr]
      have hjoin := intercalate_flatten ['_'] hgroups
      rw [List.map_append, separatorChars_eq, separatorChars_eq]
      simpa [groups] using hjoin

theorem separatorChars_cons_delimiter {d : Char} (hd : isAlphanumeric d = false)
    (rest : List Char) : separatorChars (d :: rest) = separatorChars rest := by
  rw [separatorChars_eq, segments_delimiter hd, separatorChars_eq]

/-! ### Spellings of the same words -/

/-- The ways to write words one after the other. The first letter of a word may be a capital, and
between two words there is a delimiter if the second one does not begin with a capital. -/
inductive Spelling : List (List Char) → List Char → Prop where
  | nil : Spelling [] []
  | delimiter {words : List (List Char)} {text : List Char} {d : Char} :
    isAlphanumeric d = false → Spelling words text → Spelling words (d :: text)
  | word {words : List (List Char)} {text tail : List Char} {c : Char} :
    isAlphanumeric c → (∀ x ∈ tail, Small x) → (∀ x ∈ text.head?, ¬ Small x) →
    Spelling words text →
    Spelling (((lowerChar c).filter isAlphanumeric ++ tail) :: words) (c :: tail ++ text)

theorem Spelling.isWord {words : List (List Char)} {text : List Char} (h : Spelling words text) :
    ∀ word ∈ words, IsWord word := by
  induction h with
  | nil => simp
  | delimiter _ _ ih => exact ih
  | word hc ht _ _ ih => exact List.forall_mem_cons.mpr ⟨(isWord_lowerChar hc).append ht, ih⟩

/-- A word with a small or a capital first letter. -/
theorem separatorChars_word {c : Char} {tail : List Char} (hc : isAlphanumeric c)
    (ht : ∀ x ∈ tail, Small x) :
    separatorChars (c :: tail) = (lowerChar c).filter isAlphanumeric ++ tail := by
  have hrun : ∀ x ∈ c :: tail, isAlphanumeric x :=
    List.forall_mem_cons.mpr ⟨hc, fun x hx => (ht x hx).1⟩
  have htail : splitWords true tail = tail := by
    have hs := splitWords_small true (fun x hx => (ht x hx).2) []
    rw [List.append_nil] at hs
    rw [hs, List.filter_eq_self.mpr fun x hx => (ht x hx).1]
    simp [splitWords]
  rw [separatorChars_eq, segments_run (List.cons_ne_nil c tail) hrun, List.map_singleton,
    List.intercalate_singleton, ← List.singleton_append,
    splitWords_append (List.cons_ne_nil c []) (by simpa using hc), htail]
  simp [splitWords]

/-- A character of a word is never lost. -/
theorem segments_ne_nil {name : List Char} {c : Char} (hm : c ∈ name) (hc : isAlphanumeric c) :
    segments name ≠ [] := by
  induction name with
  | nil => cases hm
  | cons d rest ih =>
    cases hd : isAlphanumeric d with
    | true =>
      obtain ⟨run, after, ht, hne, hrun, ha⟩ := exists_first_run (d :: rest) ⟨d, rfl, hd⟩
      rw [ht, segments_run_append hne hrun ha]
      exact List.cons_ne_nil _ _
    | false =>
      rw [segments_delimiter hd]
      rcases List.mem_cons.mp hm with rfl | hm
      · rw [hc] at hd
        cases hd
      · exact ih hm

/-- Two texts are spelled apart if no word reaches from the first one into the second one. -/
theorem separatorChars_apart {front rest : List Char}
    (hf : ∃ d ∈ front.getLast?, isAlphanumeric d) (hr : ∀ c ∈ rest.head?, ¬ Small c) :
    separatorChars (front ++ rest) = joinShown [separatorChars front, separatorChars rest] := by
  cases rest with
  | nil =>
    have hnil : separatorChars [] = [] := rfl
    rw [joinShown_pair, hnil, List.append_nil]
    simp
  | cons c rest =>
    cases hc : isAlphanumeric c with
    | false => rw [separatorChars_delimiter hc, separatorChars_cons_delimiter hc]
    | true =>
      have hl : isLowered c = true := by
        by_contra hn
        exact hr c rfl ⟨hc, by simpa using hn⟩
      obtain ⟨d, hd, hda⟩ := hf
      have hfront : separatorChars front ≠ [] :=
        mt separatorChars_eq_nil_iff.mp (segments_ne_nil (List.mem_of_getLast? hd) hda)
      have hrest : separatorChars (c :: rest) ≠ [] :=
        mt separatorChars_eq_nil_iff.mp (segments_ne_nil List.mem_cons_self hc)
      rw [separatorChars_append ⟨d, hd, hda⟩ rfl hc, joinShown_pair, if_neg hfront,
        if_neg hrest, hl]
      simp

theorem Spelling.separatorChars {words : List (List Char)} {text : List Char}
    (h : Spelling words text) : separatorChars text = ['_'].intercalate words := by
  induction h with
  | nil => rfl
  | delimiter hd _ ih => rw [separatorChars_cons_delimiter hd, ih]
  | @word words text tail c hc ht hnext hrest ih =>
    have hlast : ∃ d ∈ (c :: tail).getLast?, isAlphanumeric d := by
      refine ⟨(c :: tail).getLast (List.cons_ne_nil c tail), List.getLast?_eq_some_getLast _, ?_⟩
      rcases List.mem_cons.mp (List.getLast_mem (List.cons_ne_nil c tail)) with he | hm
      · rw [he]; exact hc
      · exact (ht _ hm).1
    have hword := (isWord_lowerChar hc).append ht
    have hwords := hrest.isWord
    rw [separatorChars_apart hlast hnext, separatorChars_word hc ht, ih, joinShown_pair,
      if_neg hword.1]
    cases words with
    | nil => simp
    | cons second words =>
      have hsecond := (hwords second (by simp)).1
      rw [if_neg (by simp [intercalate_cons, hsecond]), List.intercalate_cons_cons]
      simp

/-- Where the words of a name begin: a delimiter separates, a capital inside a segment does, and a
name cut anywhere else is spelled like its two halves put together again. So every spelling of the
same words has the same separated form, the words in small letters. -/
theorem separatorCase_boundaries (front rest : String) :
    (∀ d : Char, isAlphanumeric d = false →
      separatorCase (front ++ String.singleton d ++ rest) =
        "_".intercalate ([separatorCase front, separatorCase rest].filter (· ≠ ""))) ∧
    (∀ d ∈ front.toList.getLast?, ∀ c ∈ rest.toList.head?, isAlphanumeric d → isAlphanumeric c →
      separatorCase (front ++ rest) =
        separatorCase front ++ (if isLowered c then "_" else "") ++ separatorCase rest) ∧
    ∀ (name : String) (words : List (List Char)), Spelling words name.toList →
      (∀ word ∈ words, IsWord word) ∧
        separatorCase name = "_".intercalate (words.map .ofList) := by
  refine ⟨?_, ?_, ?_⟩
  · intro d hd
    have hs := separatorChars_delimiter hd front.toList rest.toList
    apply String.toList_injective
    rw [toList_joinShown]
    simpa [separatorCase] using hs
  · intro d hd c hc hda hca
    have hs := separatorChars_append ⟨d, hd, hda⟩ hc hca
    apply String.toList_injective
    simp only [separatorCase, String.toList_ofList, String.toList_append, hs]
    cases isLowered c <;> simp
  · intro name words h
    refine ⟨h.isWord, ?_⟩
    apply String.toList_injective
    rw [separatorCase, String.toList_ofList, h.separatorChars, String.toList_intercalate]
    simp

/-- Doubled delimiters, also in front of the name, and a capital behind one. -/
theorem separatorCase_boundaries_delimited :
    Spelling [['v', 'i', 'e', 'w'], ['c', 'o', 'u', 'n', 't']] "__view__Count".toList ∧
      separatorCase "__view__Count" = "view_count" := by
  have hsmall {tail : List Char} (h : tail.all fun x => isAlphanumeric x && !isLowered x) :
      ∀ x ∈ tail, Small x := by
    intro x hx
    simpa [Small] using List.all_eq_true.mp h x hx
  have hline : isAlphanumeric '_' = false := by decide +kernel
  have hv : (lowerChar 'v').filter isAlphanumeric = ['v'] := by decide +kernel
  have hc : (lowerChar 'C').filter isAlphanumeric = ['c'] := by decide +kernel
  have hcount : Spelling [['c', 'o', 'u', 'n', 't']] ['C', 'o', 'u', 'n', 't'] := by
    have ht : ∀ x ∈ ['o', 'u', 'n', 't'], Small x := hsmall (by decide +kernel)
    have hs := Spelling.word (c := 'C') (by decide +kernel) ht (by simp) .nil
    rwa [hc] at hs
  have hview : Spelling [['v', 'i', 'e', 'w'], ['c', 'o', 'u', 'n', 't']]
      ['v', 'i', 'e', 'w', '_', '_', 'C', 'o', 'u', 'n', 't'] := by
    have ht : ∀ x ∈ ['i', 'e', 'w'], Small x := hsmall (by decide +kernel)
    have hs := Spelling.word (c := 'v') (by decide +kernel) ht
      (by simpa using underscore_not_small) (.delimiter hline (.delimiter hline hcount))
    rwa [hv] at hs
  have hname := Spelling.delimiter hline (.delimiter hline hview)
  exact ⟨hname, ((separatorCase_boundaries "" "").2.2 "__view__Count" _ hname).2⟩

/-- Four spellings of two words. -/
example : ["view-count", "__view__Count", "viewCount", "ViewCount"].map separatorCase =
    List.replicate 4 "view_count" := by decide +kernel

end EntityScaffold.Naming
