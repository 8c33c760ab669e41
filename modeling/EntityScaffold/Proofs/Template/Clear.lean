import EntityScaffold.Proofs.Template.Tokens
import EntityScaffold.Proofs.Text.Joined

/-!
Texts that hold no token, and how they can be put together without one coming about at a seam. A
token begins and ends with a sigil and has capitals in between, so anything else between two texts
keeps it from reaching from one into the other.
-/

namespace EntityScaffold.Template

/-- A text that no token can reach into or over: it has no sigil, and it has a character that is
in no token. -/
structure Foreign (text : List Char) : Prop where
  noSigil : '_' ∉ text
  notCapital : ∃ c ∈ text, c.isUpper = false

instance (text : List Char) : Decidable (Foreign text) :=
  decidable_of_iff ('_' ∉ text ∧ text.any fun c => !c.isUpper)
    ⟨fun h => ⟨h.1, by simpa using h.2⟩, fun h => ⟨h.noSigil, by simpa using h.notCapital⟩⟩

/-- The first character that is in no token, with what stands around it. -/
theorem Foreign.mark {text : List Char} (h : Foreign text) :
    ∃ before c after, text = before ++ c :: after ∧ '_' ∉ before ∧ '_' ∉ after ∧
      ∀ token : Token, c ∉ token.literal.toList := by
  obtain ⟨hsigil, c, hc, hcapital⟩ := h
  obtain ⟨before, after, rfl⟩ := List.append_of_mem hc
  refine ⟨before, c, after, rfl, fun hm => hsigil (by simp [hm]), fun hm => hsigil (by simp [hm]),
    ?_⟩
  intro token hm
  rcases token.mem_literal hm with hu | rfl
  · simp [hcapital] at hu
  · exact hsigil hc

/-- A token that begins before a foreign text ends before it. -/
theorem Foreign.prefix_before {text : List Char} (h : Foreign text) {token : Token}
    {front rest : List Char} (hp : token.literal.toList <+: front ++ (text ++ rest)) :
    token.literal.toList <+: front := by
  obtain ⟨before, c, after, rfl, hbefore, -, hc⟩ := h.mark
  have hmark : token.literal.toList <+: front ++ before ++ c :: (after ++ rest) := by
    simpa using hp
  exact Text.prefix_before_text token.literal_last hbefore (Text.prefix_before (hc token) hmark)

/-- A text that holds no token. -/
def Clear (text : List Char) : Prop := ∀ token : Token, ¬ token.literal.toList <:+: text

instance (text : List Char) : Decidable (Clear text) :=
  decidable_of_iff (∀ token ∈ Token.all, ¬ token.literal.toList <:+: text)
    ⟨fun h token => h token token.mem_all, fun h token _ => h token⟩

namespace Clear

variable {text front rest : List Char}

theorem of_infix (h : Clear rest) (hi : text <:+: rest) : Clear text :=
  fun token ht => h token (ht.trans hi)

theorem of_no_capital (h : ∀ c ∈ text, c.isUpper = false) : Clear text := by
  intro token ht
  obtain ⟨c, hc, hu⟩ := token.literal_capital
  simp [h c (ht.subset hc)] at hu

theorem append_left (hf : '_' ∉ front) (h : Clear rest) : Clear (front ++ rest) := by
  intro token ht
  obtain ⟨name, hn⟩ := token.literal_sigil
  rw [hn] at ht
  exact h token (hn ▸ Text.infix_of_not_mem hf ht)

theorem append_right (h : Clear front) (hr : '_' ∉ rest) : Clear (front ++ rest) :=
  fun token ht => h token (Text.infix_before_text token.literal_last hr ht)

theorem nil : Clear [] := fun token ht => token.literal_ne_nil (List.infix_nil.mp ht)

/-- Two texts with a foreign one between them. -/
theorem between (h : Foreign text) (hf : Clear front) (hr : Clear rest) :
    Clear (front ++ text ++ rest) := by
  obtain ⟨before, c, after, rfl, hbefore, hafter, hc⟩ := h.mark
  intro token ht
  have hmark : token.literal.toList <:+: front ++ before ++ c :: (after ++ rest) := by
    simpa using ht
  rcases Text.infix_around (hc token) hmark with ht | ht
  · exact hf.append_right hbefore token ht
  · exact append_left hafter hr token ht

/-- Texts that are joined by a foreign one. -/
theorem intercalate {joint : List Char} (hj : Foreign joint) {pieces : List (List Char)}
    (h : ∀ piece ∈ pieces, Clear piece) : Clear (joint.intercalate pieces) := by
  induction pieces with
  | nil => exact nil
  | cons first others ih =>
    have hothers := ih fun piece hp => h piece (by simp [hp])
    cases others with
    | nil => simpa using h first (by simp)
    | cons second others =>
      rw [List.intercalate_cons_cons]
      exact between hj (h first (by simp)) hothers

end Clear

end EntityScaffold.Template
