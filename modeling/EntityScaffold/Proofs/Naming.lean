import EntityScaffold.Proofs.Text.Case
import EntityScaffold.Proofs.Text.Joined

/-!
What spelling a name in another way keeps: no white space and no punctuation comes in.
-/

namespace EntityScaffold

namespace Text

/-- A steady character is its own capital. -/
theorem upperChar_steady {c : Char} (h : Steady c) : upperChar c = [c] := by
  have hruns : ∀ run ∈ upperRuns, ∀ range ∈ steadyRanges,
      range.2 < run.first ∨ run.last < range.1 := by decide +kernel
  have hkeys : ∀ entry ∈ upperLigatures, ∀ range ∈ steadyRanges,
      range.2 < entry.1 ∨ entry.1 < range.1 := by decide +kernel
  obtain ⟨range, hr, hl, hu⟩ := h
  have hlookup : upperLigatures.lookup c.toNat = none := by
    apply List.lookup_eq_none_iff.mpr
    intro entry he
    have := hkeys entry he range hr
    simp only [bne_iff_ne, ne_eq]
    omega
  have himage : CaseRun.image upperRuns c.toNat = c.toNat := by
    apply image_eq_self
    intro run hm
    have := hruns run hm range hr
    omega
  rw [upperChar, hlookup]
  simp [himage]

theorem mem_lowercase_steady {text : String} {x : Char} (hx : Steady x)
    (h : x ∈ (lowercase text).toList) : x ∈ text.toList := by
  rw [lowercase, String.toList_ofList] at h
  exact mem_lowerAfter_steady hx h

end Text

namespace Naming
open Text

/-- A capital first letter makes no separator, and nothing that begins with one. -/
theorem infix_capitalizeFirst {first : Char} {others : List Char} (hs : Steady first)
    {name : String} (h : first :: others <:+: (capitalizeFirst name).toList) :
    first :: others <:+: name.toList := by
  unfold capitalizeFirst at h
  cases hn : name.toList with
  | nil => simp [hn] at h
  | cons c rest =>
    simp only [hn, String.toList_ofList] at h
    by_cases hc : Steady c
    · simpa [upperChar_steady hc] using h
    · have hu : first ∉ upperChar c := fun hm => hc (mem_upperChar_steady hs hm ▸ hs)
      exact (infix_of_not_mem hu h).trans (List.suffix_cons c rest).isInfix

theorem mem_capitalizeFirst_steady {name : String} {x : Char} (hx : Steady x)
    (h : x ∈ (capitalizeFirst name).toList) : x ∈ name.toList := by
  have hi : [x] <:+: (capitalizeFirst name).toList := (List.singleton_infix_iff _ _).mpr h
  exact (List.singleton_infix_iff _ _).mp (infix_capitalizeFirst hx hi)

theorem capitalizeFirst_last {name : String}
    (h : LastShown name.toList) : LastShown (capitalizeFirst name).toList := by
  obtain ⟨c, hc, hb⟩ := h
  unfold capitalizeFirst LastShown
  cases hn : name.toList with
  | nil => simp [hn] at hc
  | cons first rest =>
    rw [hn] at hc
    simp only [String.toList_ofList]
    cases rest with
    | nil =>
      obtain rfl : first = c := by simpa using hc
      refine ⟨(upperChar first).getLast (upperChar_ne_nil first), ?_, ?_⟩
      · simp [List.getLast?_eq_some_getLast (upperChar_ne_nil first)]
      · rw [Bool.eq_false_iff]
        intro hx
        have he := mem_upperChar_steady (steady_of_isBlank hx) (List.getLast_mem _)
        rw [he, hb] at hx
        cases hx
    | cons second rest =>
      exact ⟨c, by simpa [List.getLast?_append] using hc, hb⟩

theorem mem_splitWords {started : Bool} {run : List Char} {x : Char}
    (h : x ∈ splitWords started run) : isAlphanumeric x ∨ x = '_' := by
  induction run generalizing started with
  | nil => simp [splitWords] at h
  | cons c rest ih =>
    simp only [splitWords, List.mem_append] at h
    rcases h with (h | h) | h
    · split at h
      · exact .inr (List.mem_singleton.mp h)
      · cases h
    · exact .inl (List.mem_filter.mp h).2
    · exact ih h

/-- A storage key holds nothing but letters, digits and underscores. -/
theorem mem_separatorCase {name : String} {x : Char} (h : x ∈ (separatorCase name).toList) :
    isAlphanumeric x ∨ x = '_' := by
  rw [separatorCase, String.toList_ofList, separatorChars] at h
  rcases mem_intercalate h with h | ⟨piece, hp, hx⟩
  · exact .inr (List.mem_singleton.mp h)
  · obtain ⟨run, _, rfl⟩ := List.mem_map.mp hp
    exact mem_splitWords hx

end Naming

end EntityScaffold
