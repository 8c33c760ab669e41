import Mathlib.Data.List.Infix
import Mathlib.Data.List.TakeWhile
import EntityScaffold.Proofs.Text.Trim

/-!
Texts joined by a separator, and cutting them again. A text that was joined comes apart in the
same pieces if no piece holds the separator and the separator cannot overlap itself.
-/

namespace EntityScaffold.Text

theorem intercalate_cons (joint first : List Char) (rest : List (List Char)) :
    joint.intercalate (first :: rest) = first ++ rest.flatMap (joint ++ ·) := by
  induction rest generalizing first with
  | nil => simp
  | cons second rest ih => simp [List.intercalate_cons_cons, ih]

/-- What is added to every joint can be added to every piece but the first. -/
theorem intercalate_indented (separator margin first : List Char) (rest : List (List Char)) :
    (separator ++ margin).intercalate (first :: rest) =
      separator.intercalate (first :: rest.map (margin ++ ·)) := by
  simp [intercalate_cons, List.flatMap_map]

theorem mem_intercalate {joint : List Char} {pieces : List (List Char)} {c : Char}
    (h : c ∈ joint.intercalate pieces) : c ∈ joint ∨ ∃ piece ∈ pieces, c ∈ piece := by
  cases pieces with
  | nil => cases h
  | cons first rest =>
    rw [intercalate_cons, List.mem_append] at h
    rcases h with h | h
    · exact .inr ⟨first, by simp, h⟩
    · obtain ⟨piece, hp, hc⟩ := List.mem_flatMap.mp h
      rcases List.mem_append.mp hc with hc | hc
      · exact .inl hc
      · exact .inr ⟨piece, by simp [hp], hc⟩

/-- Pieces that are joined to longer ones and joined again might as well be joined at once. -/
theorem intercalate_flatten (joint : List Char) {groups : List (List (List Char))}
    (h : ∀ group ∈ groups, group ≠ []) :
    joint.intercalate groups.flatten = joint.intercalate (groups.map joint.intercalate) := by
  have hgroups {groups : List (List (List Char))} (h : ∀ group ∈ groups, group ≠ []) :
      groups.flatten.flatMap (joint ++ ·) =
        (groups.map joint.intercalate).flatMap (joint ++ ·) := by
    induction groups with
    | nil => rfl
    | cons group rest ih =>
      obtain ⟨piece, pieces, rfl⟩ := List.exists_cons_of_ne_nil (h group (by simp))
      rw [List.flatten_cons, List.flatMap_append, ih fun other ho => h other (by simp [ho])]
      simp [intercalate_cons]
  cases groups with
  | nil => rfl
  | cons group rest =>
    obtain ⟨piece, pieces, rfl⟩ := List.exists_cons_of_ne_nil (h group (by simp))
    have hrest := hgroups fun other ho => h other (List.mem_cons_of_mem _ ho)
    simp [intercalate_cons, List.flatMap_append, hrest]

/-- No piece holds a character at which the text was split. -/
theorem of_mem_splitOnP {cut : Char → Bool} {text piece : List Char}
    (h : piece ∈ text.splitOnP cut) : ∀ c ∈ piece, cut c = false := by
  induction text generalizing piece with
  | nil => simp_all
  | cons c text ih =>
    rw [List.splitOnP_cons_eq_if_modifyHead] at h
    split at h
    · rcases List.mem_cons.mp h with rfl | h
      · simp
      · exact ih h
    · next hc =>
      obtain ⟨first, pieces, hp⟩ := List.exists_cons_of_ne_nil (List.splitOnP_ne_nil cut text)
      simp only [hp, List.modifyHead_cons, List.mem_cons] at h ih
      rcases h with rfl | h
      · exact List.forall_mem_cons.mpr ⟨by simpa using hc, ih (.inl rfl)⟩
      · exact ih (.inr h)

theorem all_ne_mark {mark : Char} {text : List Char} (h : mark ∉ text) :
    ∀ c ∈ text, decide (c ≠ mark) = true := by
  intro c hc
  have hne : c ≠ mark := fun he => h (he ▸ hc)
  simpa using hne

/-- A text that does not hold a mark is not cut at one. -/
theorem not_cut {mark : Char} {text : List Char} (h : mark ∉ text) :
    text.takeWhile (· ≠ mark) = text ∧ text.dropWhile (· ≠ mark) = [] :=
  ⟨List.takeWhile_eq_self_iff.mpr (all_ne_mark h), List.dropWhile_eq_nil_iff.mpr (all_ne_mark h)⟩

/-- A text is cut at the first mark, which is the one behind what does not hold any. -/
theorem cut_at_mark {mark : Char} {front : List Char} (h : mark ∉ front) (rest : List Char) :
    (front ++ mark :: rest).takeWhile (· ≠ mark) = front ∧
      (front ++ mark :: rest).dropWhile (· ≠ mark) = mark :: rest := by
  rw [List.takeWhile_append_of_pos (all_ne_mark h), List.dropWhile_append_of_pos (all_ne_mark h)]
  simp

theorem prefix_before {pattern xs ys : List Char} {mark : Char} (hm : mark ∉ pattern)
    (h : pattern <+: xs ++ mark :: ys) : pattern <+: xs := by
  have hx : xs ++ [mark] <+: xs ++ mark :: ys := ⟨ys, by simp⟩
  rcases List.prefix_or_prefix_of_prefix h hx with hp | hp
  · rcases List.prefix_concat_iff.mp hp with rfl | hp
    · simp at hm
    · exact hp
  · exact absurd (hp.subset (by simp)) hm

/-- What ends with a character that a text does not hold ends before the text. -/
theorem prefix_before_text {pattern front text : List Char} {last : Char}
    (hl : pattern.getLast? = some last) (hm : last ∉ text) (h : pattern <+: front ++ text) :
    pattern <+: front := by
  rcases List.prefix_or_prefix_of_prefix h (List.prefix_append front text) with hp | ⟨rest, hr⟩
  · exact hp
  · rcases List.eq_nil_or_concat rest with rfl | ⟨before, c, rfl⟩
    · rw [← hr, List.append_nil]
    · rw [← hr] at h hl
      have hrest : before.concat c <+: text := (List.prefix_append_right_inj front).mp h
      have hc : c = last := by simpa [List.concat_eq_append, ← List.append_assoc] using hl
      exact absurd (hrest.subset (by simp [hc])) hm

theorem infix_before_text {pattern front text : List Char} {last : Char}
    (hl : pattern.getLast? = some last) (hm : last ∉ text) (h : pattern <:+: front ++ text) :
    pattern <:+: front := by
  induction front with
  | nil => exact absurd (h.subset (List.mem_of_getLast? hl)) hm
  | cons c front ih =>
    rcases List.infix_cons_iff.mp h with h | h
    · exact (prefix_before_text hl hm (List.cons_append ▸ h)).isInfix
    · exact (ih h).trans (List.suffix_cons c front).isInfix

/-- What begins with a character that a text does not hold begins after the text. -/
theorem infix_of_not_mem {first : Char} {others front rest : List Char} (hf : first ∉ front)
    (h : first :: others <:+: front ++ rest) : first :: others <:+: rest := by
  induction front with
  | nil => exact h
  | cons c front ih =>
    rw [List.mem_cons, not_or] at hf
    rcases List.infix_cons_iff.mp h with h | h
    · exact absurd (List.cons_prefix_cons.mp h).1 hf.1
    · exact ih hf.2 h

/-- What does not hold a mark occurs on one side of it. -/
theorem infix_around {pattern xs ys : List Char} {mark : Char} (hm : mark ∉ pattern)
    (h : pattern <:+: xs ++ mark :: ys) : pattern <:+: xs ∨ pattern <:+: ys := by
  induction xs with
  | nil =>
    rcases List.infix_cons_iff.mp h with h | h
    · have hp : pattern <+: [] := prefix_before hm h
      exact .inl hp.isInfix
    · exact .inr h
  | cons c xs ih =>
    rcases List.infix_cons_iff.mp h with h | h
    · have hp : pattern <+: c :: xs := prefix_before hm h
      exact .inl hp.isInfix
    · exact (ih h).imp_left fun hx => hx.trans (List.suffix_cons c xs).isInfix

/-- Cut a text at a separator, from left to right, after leaving out `skip` characters that
belong to a separator already met. -/
def cutFrom (separator : List Char) (skip : Nat) : List Char → List (List Char)
  | [] => [[]]
  | c :: rest =>
    match skip with
    | skip + 1 => cutFrom separator skip rest
    | 0 =>
      if separator.isPrefixOf (c :: rest) then
        [] :: cutFrom separator (separator.length - 1) rest
      else (cutFrom separator 0 rest).modifyHead (c :: ·)

/-- The pieces of a text between the occurrences of a separator. -/
def cutAt (separator text : List Char) : List (List Char) := cutFrom separator 0 text

/-- No end of the separator is also its beginning, so two occurrences are apart. -/
def Unbordered (separator : List Char) : Prop :=
  ∀ part ∈ separator.inits, part <:+ separator → part = [] ∨ part = separator

instance (separator : List Char) : Decidable (Unbordered separator) :=
  inferInstanceAs (Decidable (∀ part ∈ separator.inits, part <:+ separator →
    part = [] ∨ part = separator))

theorem cutFrom_eq_cutAt (separator : List Char) (skip : Nat) (text : List Char) :
    cutFrom separator skip text = cutAt separator (text.drop skip) := by
  induction text generalizing skip with
  | nil => simp [cutFrom, cutAt]
  | cons c rest ih =>
    cases skip with
    | zero => rfl
    | succ skip => simpa [cutFrom] using ih skip

theorem cutAt_separator {separator : List Char} (hs : separator ≠ []) (rest : List Char) :
    cutAt separator (separator ++ rest) = [] :: cutAt separator rest := by
  obtain ⟨c, others, rfl⟩ := List.exists_cons_of_ne_nil hs
  have hp : (c :: others).isPrefixOf (c :: (others ++ rest)) :=
    List.isPrefixOf_iff_prefix.mpr (List.prefix_append (c :: others) rest)
  rw [List.cons_append, cutAt, cutFrom, if_pos hp, cutFrom_eq_cutAt, List.length_cons,
    Nat.add_sub_cancel, List.drop_left]

theorem cutAt_char {separator : List Char} {c : Char} {rest : List Char}
    (h : ¬ separator <+: c :: rest) :
    cutAt separator (c :: rest) = (cutAt separator rest).modifyHead (c :: ·) := by
  have hp : ¬ separator.isPrefixOf (c :: rest) := mt List.isPrefixOf_iff_prefix.mp h
  rw [cutAt, cutFrom, if_neg hp, cutAt]

theorem cutAt_of_not_infix {separator : List Char} {text : List Char}
    (h : ¬ separator <:+: text) : cutAt separator text = [text] := by
  induction text with
  | nil => rfl
  | cons c rest ih =>
    have hr : ¬ separator <:+: rest := fun hi => h (hi.trans (List.suffix_cons c rest).isInfix)
    rw [cutAt_char (fun hp => h hp.isInfix), ih hr]
    rfl

/-- A separator that begins inside a piece cannot end in the separator behind the piece. -/
theorem not_prefix_append {separator piece : List Char} (hu : Unbordered separator)
    (hne : piece ≠ []) (hp : ¬ separator <:+: piece) (rest : List Char) :
    ¬ separator <+: piece ++ (separator ++ rest) := by
  intro h
  rcases List.prefix_or_prefix_of_prefix h (List.prefix_append piece (separator ++ rest)) with
    hs | ⟨tail, ht⟩
  · exact hp hs.isInfix
  · have hlen : tail.length < separator.length := by
      have := List.length_pos_iff.mpr hne
      rw [← ht, List.length_append]
      omega
    have hpre : tail <+: separator ++ rest := by
      rw [← ht] at h
      simpa [ht] using (List.prefix_append_right_inj piece).mp h
    have hinit : tail <+: separator :=
      List.prefix_of_prefix_length_le hpre (List.prefix_append separator rest) (by omega)
    rcases hu tail ((List.mem_inits _ _).mpr hinit) ⟨piece, ht⟩ with rfl | rfl
    · exact hp (by simp [← ht])
    · omega

theorem cutAt_piece {separator : List Char} (hs : separator ≠ []) (hu : Unbordered separator)
    {piece : List Char} (hp : ¬ separator <:+: piece) (rest : List Char) :
    cutAt separator (piece ++ (separator ++ rest)) = piece :: cutAt separator rest := by
  induction piece with
  | nil => exact cutAt_separator hs rest
  | cons c piece ih =>
    have hr : ¬ separator <:+: piece := fun hi => hp (hi.trans (List.suffix_cons c piece).isInfix)
    have hn := not_prefix_append hu (List.cons_ne_nil c piece) hp rest
    rw [List.cons_append] at hn ⊢
    rw [cutAt_char hn, ih hr]
    rfl

/-- Cutting undoes joining. -/
theorem cutAt_intercalate {separator : List Char} (hs : separator ≠ [])
    (hu : Unbordered separator) {pieces : List (List Char)} (hne : pieces ≠ [])
    (hp : ∀ piece ∈ pieces, ¬ separator <:+: piece) :
    cutAt separator (separator.intercalate pieces) = pieces := by
  induction pieces with
  | nil => exact absurd rfl hne
  | cons first rest ih =>
    have hf := hp first (by simp)
    cases rest with
    | nil => rw [List.intercalate_singleton, cutAt_of_not_infix hf]
    | cons second rest =>
      rw [List.intercalate_cons_cons, List.append_assoc, cutAt_piece hs hu hf,
        ih (by simp) (fun piece hm => hp piece (by simp [hm]))]

theorem tidy_intercalate (separator : List Char) {first : List Char} {rest : List (List Char)}
    (hf : FirstShown first) (hl : ∀ piece ∈ first :: rest, LastShown piece) :
    Tidy (separator.intercalate (first :: rest)) := by
  rw [intercalate_cons]
  refine ⟨hf.append _, ?_⟩
  rcases List.eq_nil_or_concat rest with rfl | ⟨middle, last, rfl⟩
  · simpa using hl first (by simp)
  · have hlast := hl last (by simp)
    rw [List.concat_eq_append, List.flatMap_append, List.flatMap_singleton]
    exact .append _ (.append _ (.append _ hlast))

/-- Trimming a joined text trims its first and its last piece and leaves the joints alone. -/
theorem trimChars_intercalate (separator : List Char) {pieces : List (List Char)}
    (hb : ∀ piece ∈ pieces, ¬ Blank piece) :
    ∃ kept, trimChars (separator.intercalate pieces) = separator.intercalate kept ∧
      kept.map trimChars = pieces.map trimChars ∧
      ∀ piece ∈ kept, ∃ whole ∈ pieces, piece <:+: whole := by
  cases pieces with
  | nil => exact ⟨[], rfl, rfl, by simp⟩
  | cons first rest =>
    rcases List.eq_nil_or_concat rest with rfl | ⟨middle, last, rfl⟩
    · refine ⟨[trimChars first], by simp, by simp [trimChars_idempotent], ?_⟩
      intro piece hp
      obtain rfl := List.mem_singleton.mp hp
      exact ⟨first, by simp, trimChars_infix first⟩
    · refine ⟨first.dropWhile isBlank :: (middle ++ [last.rdropWhile isBlank]), ?_, ?_, ?_⟩
      · have hl : ¬ Blank last := hb last (by simp)
        have hs : separator.intercalate (first :: (middle ++ [last])) =
            first ++ (middle.flatMap (separator ++ ·) ++ separator) ++ last := by
          simp [intercalate_cons]
        rw [List.concat_eq_append, hs, trimChars_append_append (hb first (by simp)) _ hl]
        simp [intercalate_cons]
      · simp [trimChars_dropWhile, trimChars_rdropWhile]
      · intro piece hp
        simp only [List.mem_cons, List.mem_append, List.not_mem_nil, or_false] at hp
        rcases hp with rfl | hm | rfl
        · exact ⟨first, by simp, (List.dropWhile_suffix _).isInfix⟩
        · exact ⟨piece, by simp [hm], List.infix_rfl⟩
        · exact ⟨last, by simp, (List.rdropWhile_prefix _ _).isInfix⟩

/-- Cutting undoes joining up to the white space around the pieces, even when the joined text
was trimmed. -/
theorem map_trim_cutAt {separator : List Char} (hs : separator ≠ []) (hu : Unbordered separator)
    {pieces : List (List Char)} (hne : pieces ≠ [])
    (hp : ∀ piece ∈ pieces, ¬ Blank piece ∧ ¬ separator <:+: piece) :
    (cutAt separator (trimChars (separator.intercalate pieces))).map trimChars =
      pieces.map trimChars := by
  obtain ⟨kept, hk, hm, hsub⟩ := trimChars_intercalate separator fun piece hm => (hp piece hm).1
  have hkept : kept ≠ [] := by
    rintro rfl
    exact hne (List.map_eq_nil_iff.mp hm.symm)
  rw [hk, cutAt_intercalate hs hu hkept, hm]
  intro piece hpiece hi
  obtain ⟨whole, hw, hin⟩ := hsub piece hpiece
  exact (hp whole hw).2 (hi.trans hin)

end EntityScaffold.Text
