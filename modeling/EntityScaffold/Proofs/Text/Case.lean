import EntityScaffold.Naming
import EntityScaffold.Proofs.Text.Trim

/-!
What capital and small letters leave alone. No letter is mapped to white space, to a digit or to
punctuation, so changing the case of a text cannot make a line end or a comma.
-/

namespace EntityScaffold.Text

/-- Code points that are the image of no letter: the ASCII characters without the letters, and
all white space. -/
def steadyRanges : List (Nat × Nat) :=
  [(0x09, 0x40), (0x5B, 0x60), (0x7B, 0xB4), (0x1680, 0x1680), (0x2000, 0x200A),
   (0x2028, 0x2029), (0x202F, 0x202F), (0x205F, 0x205F), (0x3000, 0x3000)]

/-- A character that no other one turns into when its case is changed. -/
def Steady (c : Char) : Prop := ∃ range ∈ steadyRanges, range.1 ≤ c.toNat ∧ c.toNat ≤ range.2

instance : DecidablePred Steady :=
  fun c => inferInstanceAs
    (Decidable (∃ range ∈ steadyRanges, range.1 ≤ c.toNat ∧ c.toNat ≤ range.2))

theorem CharSet.range_of_hasCode {set : CharSet} {code : Nat} (h : set.hasCode code) :
    ∃ range ∈ set, range.1 ≤ code ∧ code ≤ range.2 := by
  induction set with
  | nil => simp [hasCode] at h
  | cons range rest ih =>
    obtain ⟨first, last⟩ := range
    simp only [hasCode] at h
    split at h
    · cases h
    · split at h
      · exact ⟨(first, last), by simp, by omega, by assumption⟩
      · obtain ⟨range, hm, hr⟩ := ih h
        exact ⟨range, List.mem_cons_of_mem _ hm, hr⟩

theorem steady_of_isBlank {c : Char} (h : isBlank c) : Steady c := by
  have hsub : ∀ range ∈ blankSet, ∃ wide ∈ steadyRanges,
      wide.1 ≤ range.1 ∧ range.2 ≤ wide.2 := by decide
  obtain ⟨range, hm, hl, hu⟩ := CharSet.range_of_hasCode h
  obtain ⟨wide, hw, hwl, hwu⟩ := hsub range hm
  exact ⟨wide, hw, Nat.le_trans hwl hl, Nat.le_trans hu hwu⟩

/-- An image is the code point itself, or one of the images of a run. -/
theorem image_eq_or_mem (runs : List CaseRun) (code : Nat) :
    CaseRun.image runs code = code ∨ ∃ run ∈ runs, ∃ distance,
      CaseRun.image runs code = run.target + distance ∧ distance ≤ run.last - run.first ∧
        distance % run.step = 0 := by
  induction runs with
  | nil => exact .inl rfl
  | cons run rest ih =>
    simp only [CaseRun.image]
    split
    · exact .inl rfl
    · split
      · split
        · next hstep => exact .inr ⟨run, by simp, _, rfl, by omega, hstep⟩
        · exact .inl rfl
      · rcases ih with h | ⟨other, hm, hr⟩
        · exact .inl h
        · exact .inr ⟨other, List.mem_cons_of_mem _ hm, hr⟩

/-- A code point that no run holds is its own image. -/
theorem image_eq_self {runs : List CaseRun} {code : Nat}
    (h : ∀ run ∈ runs, code < run.first ∨ run.last < code ∨ (code - run.first) % run.step ≠ 0) :
    CaseRun.image runs code = code := by
  induction runs with
  | nil => rfl
  | cons run rest ih =>
    have hr := h run (by simp)
    have hi := ih fun other ho => h other (by simp [ho])
    simp only [CaseRun.image]
    split
    · rfl
    · split
      · rw [if_neg (by omega)]
      · exact hi

/-- The images of some runs are apart from all steady characters. -/
def RunsApart (runs : List CaseRun) : Prop :=
  ∀ run ∈ runs, ∀ range ∈ steadyRanges,
    run.target + (run.last - run.first) < range.1 ∨ range.2 < run.target

instance (runs : List CaseRun) : Decidable (RunsApart runs) :=
  inferInstanceAs (Decidable (∀ run ∈ runs, ∀ range ∈ steadyRanges,
    run.target + (run.last - run.first) < range.1 ∨ range.2 < run.target))

theorem toNat_ofNat {code : Nat} (h : code.isValidChar) : (Char.ofNat code).toNat = code := by
  rw [show Char.ofNat code = Char.ofNatAux code h from dif_pos h]
  rfl

/-- A number that is no character's code point becomes the null character. -/
theorem ofNat_invalid {code : Nat} (h : ¬ code.isValidChar) : Char.ofNat code = '\x00' := dif_neg h

theorem steady_ofNat {code : Nat} (h : Steady (.ofNat code)) : (Char.ofNat code).toNat = code := by
  by_cases hv : code.isValidChar
  · exact toNat_ofNat hv
  · have hn : ¬ Steady '\x00' := by decide
    rw [ofNat_invalid hv] at h
    exact absurd h hn

theorem ofNat_image_steady {runs : List CaseRun} (ha : RunsApart runs) {c : Char}
    (h : Steady (.ofNat (CaseRun.image runs c.toNat))) :
    Char.ofNat (CaseRun.image runs c.toNat) = c := by
  have he := steady_ofNat h
  rcases image_eq_or_mem runs c.toNat with hi | ⟨run, hm, distance, hi, hd, -⟩
  · rw [hi, Char.ofNat_toNat]
  · obtain ⟨range, hr, hrl, hru⟩ := h
    rw [he] at hrl hru
    have := ha run hm range hr
    omega

theorem mem_lowerChar_steady {c x : Char} (hx : Steady x) (h : x ∈ lowerChar c) : x = c := by
  have ha : RunsApart lowerRuns := by decide +kernel
  unfold lowerChar at h
  split at h
  · have hi : ¬ Steady 'i' := by decide
    have hdot : ¬ Steady '\u0307' := by decide
    simp only [List.mem_cons, List.not_mem_nil, or_false] at h
    rcases h with rfl | rfl
    · exact absurd hx hi
    · exact absurd hx hdot
  · obtain rfl := List.mem_singleton.mp h
    exact ofNat_image_steady ha hx

theorem mem_upperChar_steady {c x : Char} (hx : Steady x) (h : x ∈ upperChar c) : x = c := by
  have ha : RunsApart upperRuns := by decide +kernel
  have hn : ∀ entry ∈ upperLigatures, ∀ code ∈ entry.2, ¬ Steady (.ofNat code) := by
    decide +kernel
  unfold upperChar at h
  split at h
  · rename_i codes hc
    obtain ⟨code, hm, rfl⟩ := List.mem_map.mp h
    obtain ⟨before, after, he, -⟩ := List.lookup_eq_some_iff.mp hc
    exact absurd hx (hn (c.toNat, codes) (by simp [he]) code hm)
  · obtain rfl := List.mem_singleton.mp h
    exact ofNat_image_steady ha hx

theorem upperChar_ne_nil (c : Char) : upperChar c ≠ [] := by
  have hn : ∀ entry ∈ upperLigatures, entry.2 ≠ [] := by decide +kernel
  unfold upperChar
  split
  · rename_i codes hc
    obtain ⟨before, after, he, -⟩ := List.lookup_eq_some_iff.mp hc
    simpa using hn (c.toNat, codes) (by simp [he])
  · simp

theorem mem_lowerAfter_steady {before text : List Char} {x : Char} (hx : Steady x)
    (h : x ∈ lowerAfter before text) : x ∈ text := by
  induction text generalizing before with
  | nil => simp [lowerAfter] at h
  | cons c rest ih =>
    simp only [lowerAfter, List.mem_append] at h
    rcases h with h | h
    · split at h
      · have hfinal : ¬ Steady 'ς' := by decide
        have hinner : ¬ Steady 'σ' := by decide
        split at h
        · exact absurd (List.mem_singleton.mp h ▸ hx) hfinal
        · exact absurd (List.mem_singleton.mp h ▸ hx) hinner
      · rw [mem_lowerChar_steady hx h]
        exact List.mem_cons_self
    · exact List.mem_cons_of_mem _ (ih h)

end EntityScaffold.Text
