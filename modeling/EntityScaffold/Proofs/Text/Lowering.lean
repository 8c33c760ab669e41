import EntityScaffold.Proofs.Text.Case
import EntityScaffold.Text.Alphanumeric

/-!
What lowering a character gives. It need not be done twice, and a character of a word gives at
least one character of a word, the first one.
-/

namespace EntityScaffold.Text

theorem isLowered_eq_false_iff {c : Char} : isLowered c = false ↔ lowerChar c = [c] := by
  simp [isLowered]

/-! ### The table of small letters

The checks over the whole table are written with the comparisons that the kernel computes. -/

/-- No image of a run is held by another run: they lie apart, or alternate. -/
def CaseRun.apart (run other : CaseRun) : Bool :=
  (run.target + (run.last - run.first)).blt other.first || other.last.blt run.target ||
    (other.step == 2 && (run.step == 2 || run.first == run.last) &&
      (run.target + other.first) % 2 == 1)

theorem lowerRuns_apart :
    (lowerRuns.all fun run => lowerRuns.all fun other => run.apart other) = true := by
  decide +kernel

/-- All code points from the first one to the last one lie in one range of the set. -/
def CharSet.spans : CharSet → Nat → Nat → Bool
  | [], _, _ => false
  | (low, high) :: rest, first, last =>
    bif high.blt first then low.ble high && spans rest first last
    else low.ble first && last.ble high

theorem CharSet.hasCode_of_spans {set : CharSet} {first last code : Nat}
    (h : set.spans first last) (hf : first ≤ code) (hl : code ≤ last) : set.hasCode code := by
  induction set with
  | nil => simp [spans] at h
  | cons range rest ih =>
    obtain ⟨low, high⟩ := range
    rw [spans] at h
    cases hb : high.blt first with
    | true =>
      simp only [hb, cond_true, Bool.and_eq_true, Nat.ble_eq] at h
      rw [Nat.blt_eq] at hb
      rw [hasCode, if_neg (by omega), if_neg (by omega)]
      exact ih h.2
    | false =>
      simp only [hb, cond_false, Bool.and_eq_true, Nat.ble_eq] at h
      rw [hasCode, if_neg (by omega), if_pos (by omega)]

/-- The small letters of a run are alphanumeric, and characters at all. -/
theorem lowerRuns_alphanumeric :
    (lowerRuns.all fun run =>
      alphanumericSet.spans run.target (run.target + (run.last - run.first)) &&
        ((run.target + (run.last - run.first)).blt 0xD800 ||
          (Nat.blt 0xDFFF run.target &&
            (run.target + (run.last - run.first)).blt 0x110000))) = true := by
  decide +kernel

theorem lowerRuns_dotted :
    ∀ run ∈ lowerRuns, 0x130 < run.target ∨ run.target + (run.last - run.first) < 0x130 := by
  decide +kernel

/-- No small letter is held by a run. -/
theorem image_lowerRuns_image (code : Nat) :
    CaseRun.image lowerRuns (CaseRun.image lowerRuns code) = CaseRun.image lowerRuns code := by
  rcases image_eq_or_mem lowerRuns code with h | ⟨run, hm, distance, hi, hd, hs⟩
  · rw [h, h]
  · rw [hi]
    apply image_eq_self
    intro other ho
    have ha := List.all_eq_true.mp (List.all_eq_true.mp lowerRuns_apart run hm) other ho
    simp only [CaseRun.apart, Bool.or_eq_true, Bool.and_eq_true, Nat.blt_eq, beq_iff_eq] at ha
    rcases ha with (hb | hb) | ⟨⟨hother, hrun⟩, hparity⟩
    · exact .inl (by omega)
    · exact .inr (.inl (by omega))
    · have heven : distance % 2 = 0 := by
        rcases hrun with hrun | hrun
        · rwa [hrun] at hs
        · omega
      rw [hother]
      omega

theorem image_lowerRuns_ne_dotted {code : Nat} (h : code ≠ 0x130) :
    CaseRun.image lowerRuns code ≠ 0x130 := by
  rcases image_eq_or_mem lowerRuns code with hi | ⟨run, hm, distance, hi, hd, -⟩
  · rwa [hi]
  · have := lowerRuns_dotted run hm
    omega

/-! ### Characters -/

/-- What lowering gives is not changed by lowering. -/
theorem isLowered_of_mem_lowerChar {c x : Char} (h : x ∈ lowerChar c) : isLowered x = false := by
  rw [isLowered_eq_false_iff]
  unfold lowerChar at h
  split at h
  · simp only [List.mem_cons, List.not_mem_nil, or_false] at h
    rcases h with rfl | rfl <;> decide +kernel
  · next hc =>
    have hdotted : CaseRun.image lowerRuns c.toNat ≠ 0x130 :=
      image_lowerRuns_ne_dotted fun he => hc (Char.toNat_inj.mp he)
    obtain rfl := List.mem_singleton.mp h
    by_cases hv : (CaseRun.image lowerRuns c.toNat).isValidChar
    · have hn := toNat_ofNat hv
      have hx : Char.ofNat (CaseRun.image lowerRuns c.toNat) ≠ '\u0130' := by
        intro he
        rw [he] at hn
        exact hdotted hn.symm
      rw [lowerChar, if_neg hx, hn, image_lowerRuns_image]
    · rw [ofNat_invalid hv]
      decide +kernel

/-- What lowering a character of a word gives begins with a character of a word. -/
theorem lowerChar_of_alphanumeric {c : Char} (h : isAlphanumeric c) :
    ∃ x rest, lowerChar c = x :: rest ∧ isAlphanumeric x := by
  unfold lowerChar
  split
  · exact ⟨'i', _, rfl, by decide +kernel⟩
  · refine ⟨_, [], rfl, ?_⟩
    rcases image_eq_or_mem lowerRuns c.toNat with hi | ⟨run, hm, distance, hi, hd, -⟩
    · rwa [hi, Char.ofNat_toNat]
    · have ht := List.all_eq_true.mp lowerRuns_alphanumeric run hm
      simp only [Bool.and_eq_true, Bool.or_eq_true, Nat.blt_eq] at ht
      obtain ⟨hspans, hvalid⟩ := ht
      have hn : (run.target + distance).isValidChar := by
        rcases hvalid with hb | ⟨hl, hu⟩
        · exact .inl (by omega)
        · exact .inr ⟨by omega, by omega⟩
      rw [hi, isAlphanumeric, CharSet.has, toNat_ofNat hn]
      exact CharSet.hasCode_of_spans hspans (by omega) (by omega)

/-- Capital letters of the ASCII characters have small forms. -/
theorem isLowered_of_isUpper {c : Char} (h : c.isUpper) : isLowered c := by
  have hval : 'A'.val ≤ c.val ∧ c.val ≤ 'Z'.val := of_decide_eq_true h
  have hc : 0x41 ≤ c.toNat ∧ c.toNat ≤ 0x5A :=
    hval.imp UInt32.le_iff_toNat_le.mp UInt32.le_iff_toNat_le.mp
  obtain ⟨rest, hruns⟩ : ∃ rest, lowerRuns = ⟨0x41, 0x5A, 1, 0x61⟩ :: rest := ⟨_, rfl⟩
  have himage : CaseRun.image lowerRuns c.toNat = c.toNat + 0x20 := by
    have hlow : ¬ c.toNat < 0x41 := by omega
    rw [hruns]
    simp only [CaseRun.image, hlow, if_false, hc.2, if_true, Nat.mod_one]
    omega
  have hdotted : c ≠ '\u0130' := by
    rintro rfl
    exact absurd hc.2 (by decide)
  have hn : (Char.ofNat (c.toNat + 0x20)).toNat = c.toNat + 0x20 := toNat_ofNat (.inl (by omega))
  rw [isLowered, lowerChar, if_neg hdotted, himage, bne_iff_ne]
  intro he
  rw [List.singleton_inj.mp he] at hn
  omega

/-- No small form is a capital of the ASCII characters. -/
theorem not_isUpper_of_not_isLowered {c : Char} (h : isLowered c = false) : c.isUpper = false := by
  by_contra hu
  have hl := isLowered_of_isUpper (by simpa using hu)
  rw [h] at hl
  cases hl

theorem not_isUpper_of_mem_lowerAfter {before text : List Char} {x : Char}
    (h : x ∈ lowerAfter before text) : x.isUpper = false := by
  induction text generalizing before with
  | nil => cases h
  | cons c rest ih =>
    simp only [lowerAfter, List.mem_append] at h
    rcases h with h | h
    · split at h
      · obtain rfl := List.mem_singleton.mp h
        split <;> decide
      · exact not_isUpper_of_not_isLowered (isLowered_of_mem_lowerChar h)
    · exact ih h

end EntityScaffold.Text
