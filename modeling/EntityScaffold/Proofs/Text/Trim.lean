import Mathlib.Data.List.DropRight
import EntityScaffold.Text.Blank

/-!
Trimming takes the white space off both ends of a text and nothing else. Where the text has a
character that is not blank, the ends can be trimmed one at a time.
-/

namespace EntityScaffold.Text

theorem isBlank_newline : isBlank '\n' := by decide

/-- A text of white space only. -/
def Blank (text : List Char) : Prop := ∀ c ∈ text, isBlank c

/-- A text that begins with a character that is not white space. -/
def FirstShown (text : List Char) : Prop := ∃ c ∈ text.head?, isBlank c = false

/-- A text that ends with a character that is not white space. -/
def LastShown (text : List Char) : Prop := ∃ c ∈ text.getLast?, isBlank c = false

/-- A text without white space at its ends. -/
structure Tidy (text : List Char) : Prop where
  first : FirstShown text
  last : LastShown text

instance (text : List Char) : Decidable (FirstShown text) :=
  decidable_of_iff (text.head?.any fun c => !isBlank c) (by simp [FirstShown, Option.any_eq_true])

instance (text : List Char) : Decidable (LastShown text) :=
  decidable_of_iff (text.getLast?.any fun c => !isBlank c) (by simp [LastShown, Option.any_eq_true])

theorem FirstShown.append {xs : List Char} (h : FirstShown xs) (ys : List Char) :
    FirstShown (xs ++ ys) := by
  obtain ⟨c, hc, hb⟩ := h
  obtain ⟨rest, rfl⟩ := List.head?_eq_some_iff.mp hc
  exact ⟨c, by simp, hb⟩

theorem LastShown.append (xs : List Char) {ys : List Char} (h : LastShown ys) :
    LastShown (xs ++ ys) := by
  obtain ⟨c, hc, hb⟩ := h
  obtain ⟨front, rfl⟩ := List.getLast?_eq_some_iff.mp hc
  exact ⟨c, by simp [← List.append_assoc], hb⟩

theorem Blank.append {xs ys : List Char} (hx : Blank xs) (hy : Blank ys) : Blank (xs ++ ys) :=
  List.forall_mem_append.mpr ⟨hx, hy⟩

theorem blank_replicate {c : Char} (hc : isBlank c) (n : Nat) : Blank (List.replicate n c) :=
  fun _ h => (List.eq_of_mem_replicate h) ▸ hc

theorem trimRight_eq_rdropWhile (text : List Char) :
    trimRight text = text.rdropWhile isBlank := by
  induction text with
  | nil => rfl
  | cons c rest ih =>
    have hd : (c :: rest).rdropWhile isBlank =
        if rest.rdropWhile isBlank = [] then [c].rdropWhile isBlank
        else c :: rest.rdropWhile isBlank := by
      simp only [List.rdropWhile, List.reverse_cons, List.dropWhile_append, List.isEmpty_iff,
        List.reverse_eq_nil_iff]
      split <;> simp
    rw [hd, ← ih, List.rdropWhile_singleton]
    cases hr : trimRight rest with
    | nil => simp [trimRight, hr]
    | cons d kept => simp [trimRight, hr]

theorem trimChars_eq (text : List Char) :
    trimChars text = (text.dropWhile isBlank).rdropWhile isBlank := by
  rw [trimChars, trimRight_eq_rdropWhile]

theorem dropWhile_append_left {xs ys : List Char} (h : ¬ Blank xs) :
    (xs ++ ys).dropWhile isBlank = xs.dropWhile isBlank ++ ys := by
  rw [List.dropWhile_append]
  have hn : xs.dropWhile isBlank ≠ [] := fun he => h (List.dropWhile_eq_nil_iff.mp he)
  simp [hn]

theorem rdropWhile_append_right {xs ys : List Char} (h : ¬ Blank ys) :
    (xs ++ ys).rdropWhile isBlank = xs ++ ys.rdropWhile isBlank := by
  have hr : ¬ Blank ys.reverse := fun hb => h (fun c hc => hb c (List.mem_reverse.mpr hc))
  simp [List.rdropWhile, dropWhile_append_left hr]

theorem rdropWhile_append_blank (xs : List Char) {ys : List Char} (hy : Blank ys) :
    (xs ++ ys).rdropWhile isBlank = xs.rdropWhile isBlank := by
  have hr : ∀ c ∈ ys.reverse, isBlank c := fun c hc => hy c (List.mem_reverse.mp hc)
  rw [List.rdropWhile, List.reverse_append, List.dropWhile_append_of_pos hr, List.rdropWhile]

theorem trimChars_blank_append {xs : List Char} (hx : Blank xs) (ys : List Char) :
    trimChars (xs ++ ys) = trimChars ys := by
  rw [trimChars, List.dropWhile_append_of_pos hx, trimChars]

theorem trimChars_append_blank (xs : List Char) {ys : List Char} (hy : Blank ys) :
    trimChars (xs ++ ys) = trimChars xs := by
  by_cases hx : Blank xs
  · have hxy := List.dropWhile_eq_nil_iff.mpr (hx.append hy)
    rw [trimChars, trimChars, hxy, List.dropWhile_eq_nil_iff.mpr hx]
  · rw [trimChars_eq, trimChars_eq, dropWhile_append_left hx, rdropWhile_append_blank _ hy]

/-- Trimming twice is trimming once, whichever end is trimmed first. -/
theorem trimChars_dropWhile (text : List Char) :
    trimChars (text.dropWhile isBlank) = trimChars text := by
  rw [trimChars, List.dropWhile_idempotent, trimChars]

theorem trimChars_rdropWhile (text : List Char) :
    trimChars (text.rdropWhile isBlank) = trimChars text := by
  have hb : Blank (text.rtakeWhile isBlank) := fun c hc => List.mem_rtakeWhile_imp hc
  conv_rhs => rw [← List.rdropWhile_append_rtakeWhile (p := isBlank) (l := text)]
  exact (trimChars_append_blank _ hb).symm

theorem trimChars_idempotent (text : List Char) : trimChars (trimChars text) = trimChars text := by
  rw [trimChars_eq text, trimChars_rdropWhile, trimChars_dropWhile, trimChars_eq]

theorem trimChars_infix (text : List Char) : trimChars text <:+: text := by
  rw [trimChars_eq]
  exact (List.rdropWhile_prefix _ _).isInfix.trans (List.dropWhile_suffix _).isInfix

theorem trimChars_eq_nil_iff {text : List Char} : trimChars text = [] ↔ Blank text := by
  rw [trimChars_eq, List.rdropWhile_eq_nil_iff]
  refine ⟨fun h => ?_, fun h c hc => h c ((List.dropWhile_suffix _).subset hc)⟩
  have hd : (text.dropWhile isBlank).dropWhile isBlank = [] := List.dropWhile_eq_nil_iff.mpr h
  rw [List.dropWhile_idempotent] at hd
  exact List.dropWhile_eq_nil_iff.mp hd

theorem trimChars_ne_nil {text : List Char} (h : ¬ Blank text) : trimChars text ≠ [] :=
  mt trimChars_eq_nil_iff.mp h

/-- Trimming reaches neither past the first entry of a text nor past its last one. -/
theorem trimChars_append_append {xs zs : List Char} (hx : ¬ Blank xs) (ys : List Char)
    (hz : ¬ Blank zs) :
    trimChars (xs ++ ys ++ zs) = xs.dropWhile isBlank ++ ys ++ zs.rdropWhile isBlank := by
  rw [trimChars_eq, List.append_assoc, dropWhile_append_left hx, ← List.append_assoc,
    rdropWhile_append_right hz]

theorem Tidy.trimChars {text : List Char} (h : Tidy text) : trimChars text = text := by
  obtain ⟨c, hc, hcb⟩ := h.first
  obtain ⟨d, hd, hdb⟩ := h.last
  have hf : text.dropWhile isBlank = text := by
    obtain ⟨rest, rfl⟩ := List.head?_eq_some_iff.mp hc
    simp [hcb]
  rw [trimChars_eq, hf]
  obtain ⟨front, rfl⟩ := List.getLast?_eq_some_iff.mp hd
  simp [hdb]

end EntityScaffold.Text
