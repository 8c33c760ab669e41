import EntityScaffold.Proofs.Text.Joined

/-!
Replacing every occurrence of a pattern in a text, from left to right. What the pattern does not
begin in is passed over.
-/

namespace EntityScaffold.Text

/-- Put a value between the pieces of a text that a pattern stood between. -/
def replaceChars (pattern value text : List Char) : List Char :=
  value.intercalate (cutAt pattern text)

def replaceAll (pattern value text : String) : String :=
  .ofList (replaceChars pattern.toList value.toList text.toList)

theorem cutFrom_ne_nil (separator : List Char) (skip : Nat) (text : List Char) :
    cutFrom separator skip text ≠ [] := by
  induction text generalizing skip with
  | nil => simp [cutFrom]
  | cons c rest ih =>
    cases skip with
    | succ skip => simpa [cutFrom] using ih skip
    | zero =>
      rw [cutFrom]
      split
      · exact List.cons_ne_nil _ _
      · simpa using ih 0

theorem replaceChars_pattern {pattern : List Char} (hp : pattern ≠ []) (value rest : List Char) :
    replaceChars pattern value (pattern ++ rest) = value ++ replaceChars pattern value rest := by
  obtain ⟨first, others, hc⟩ := List.exists_cons_of_ne_nil (cutFrom_ne_nil pattern 0 rest)
  rw [replaceChars, cutAt_separator hp, replaceChars, cutAt, hc, List.intercalate_cons_cons]
  rfl

theorem replaceChars_char {pattern : List Char} {c : Char} {rest : List Char}
    (h : ¬ pattern <+: c :: rest) (value : List Char) :
    replaceChars pattern value (c :: rest) = c :: replaceChars pattern value rest := by
  obtain ⟨first, others, hc⟩ := List.exists_cons_of_ne_nil (cutFrom_ne_nil pattern 0 rest)
  rw [replaceChars, cutAt_char h, replaceChars, cutAt, hc, List.modifyHead_cons, intercalate_cons,
    intercalate_cons, List.cons_append]

theorem replaceChars_of_not_infix {pattern text : List Char} (h : ¬ pattern <:+: text)
    (value : List Char) : replaceChars pattern value text = text := by
  rw [replaceChars, cutAt_of_not_infix h, List.intercalate_singleton]

/-- The pattern begins at no place of the first of two texts. -/
def Passes (pattern front rest : List Char) : Prop :=
  ∀ tail, tail <:+ front → tail ≠ [] → ¬ pattern <+: tail ++ rest

theorem replaceChars_passes {pattern front rest : List Char} (h : Passes pattern front rest)
    (value : List Char) :
    replaceChars pattern value (front ++ rest) = front ++ replaceChars pattern value rest := by
  induction front with
  | nil => rfl
  | cons c front ih =>
    have hc := h (c :: front) List.suffix_rfl (List.cons_ne_nil c front)
    rw [List.cons_append] at hc ⊢
    rw [replaceChars_char hc, ih fun tail ht => h tail (ht.trans (List.suffix_cons c front)),
      List.cons_append]

/-- A pattern that begins with another character than all of a text. -/
theorem passes_of_not_mem {first : Char} {others front : List Char} (h : first ∉ front)
    (rest : List Char) : Passes (first :: others) front rest := by
  intro tail ht hne hp
  obtain ⟨c, tail, rfl⟩ := List.exists_cons_of_ne_nil hne
  obtain rfl := (List.cons_prefix_cons.mp hp).1
  exact h (ht.subset List.mem_cons_self)

end EntityScaffold.Text
