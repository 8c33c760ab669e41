import EntityScaffold.Proofs.Template.Pieces

/-!
Substitution takes the template apart at the bound tokens and puts their values in between. The
scan passes each character once, so nothing that it wrote is ever looked at again.
-/

namespace EntityScaffold.Template.Bindings

instance (bindings : Bindings) : DecidablePred bindings.Binds :=
  fun token => inferInstanceAs (Decidable ((bindings.get? token).isSome = true))

/-- The text that stands for a token; nothing for one without a value. -/
def value (bindings : Bindings) (token : Token) : String := (bindings.get? token).getD ""

theorem Binds.get? {bindings : Bindings} {token : Token} (h : bindings.Binds token) :
    bindings.get? token = some (bindings.value token) := by
  obtain ⟨text, ht⟩ := Option.isSome_iff_exists.mp h
  simp [value, ht]

/-- Characters that belong to a replaced token are passed over, whatever they are. -/
theorem substituteFrom_drop (bindings : Bindings) (skip : Nat) (text : List Char) :
    bindings.substituteFrom skip text = bindings.substituteFrom 0 (text.drop skip) := by
  induction text generalizing skip with
  | nil => simp [substituteFrom]
  | cons c rest ih =>
    cases skip with
    | zero => rfl
    | succ skip => simpa [substituteFrom] using ih skip

theorem substituteFrom_token (bindings : Bindings) {token : Token} (rest : List Char)
    (h : bindings.Binds token) :
    bindings.substituteFrom 0 (token.literal.toList ++ rest) =
      (bindings.value token).toList ++ bindings.substituteFrom 0 rest := by
  have hm : bindings.match? (token.literal.toList ++ rest) = some (token, bindings.value token) :=
    (bindings.match?_eq_some_iff _ _ _).mpr ⟨h.get?, List.prefix_append _ _⟩
  obtain ⟨name, hn⟩ := token.literal_sigil
  have hl : token.literal.length - 1 = name.length := by
    rw [← String.length_toList, hn, List.length_cons, Nat.add_sub_cancel]
  rw [hn, List.cons_append] at hm ⊢
  simp only [substituteFrom, hm, hl]
  rw [substituteFrom_drop, List.drop_left]

theorem substituteFrom_char (bindings : Bindings) {c : Char} {rest : List Char}
    (h : ¬ Begins bindings.Binds (c :: rest)) :
    bindings.substituteFrom 0 (c :: rest) = c :: bindings.substituteFrom 0 rest := by
  rw [substituteFrom, (bindings.match?_eq_none_iff _).mpr h]

/-- What the scan writes is the template in pieces, with the values between them. -/
theorem substituteFrom_eq_filled (bindings : Bindings) (text : List Char) :
    bindings.substituteFrom 0 text =
      (Pieces.ofText bindings.Binds text).filled bindings.value := by
  induction text using Pieces.text_induction bindings.Binds with
  | nil => rfl
  | token token rest hb ih =>
    rw [bindings.substituteFrom_token rest hb, Pieces.ofText_token _ rest hb, ih]
    rfl
  | char c rest h ih =>
    rw [bindings.substituteFrom_char h, Pieces.ofText_char _ h, Pieces.filled_prepend, ih]

theorem substituteFrom_of_not_occurs (bindings : Bindings) {text : List Char}
    (h : ¬ Occurs bindings.Binds text) : bindings.substituteFrom 0 text = text := by
  have hl : (Pieces.plain text).Leftmost bindings.Binds := h
  have he : Pieces.plain text = Pieces.ofText bindings.Binds text :=
    Pieces.eq_ofText bindings.Binds hl
  rw [substituteFrom_eq_filled, ← he, Pieces.filled]

/-- A text without a sigil holds no token. -/
theorem substituteFrom_plain (bindings : Bindings) {text : List Char} (h : '_' ∉ text)
    (rest : List Char) :
    bindings.substituteFrom 0 (text ++ rest) = text ++ bindings.substituteFrom 0 rest := by
  induction text with
  | nil => rfl
  | cons c text ih =>
    rw [List.mem_cons, not_or] at h
    have hn : ¬ Begins bindings.Binds (c :: (text ++ rest)) := fun hb => h.1 hb.sigil.symm
    rw [List.cons_append, bindings.substituteFrom_char hn, ih h.2, List.cons_append]

theorem substitute_plain (bindings : Bindings) {text : String} (h : '_' ∉ text.toList) :
    bindings.substitute text = text := by
  have hs := bindings.substituteFrom_plain h []
  rw [List.append_nil] at hs
  simp [substitute, hs, substituteFrom]

/-- A token is found at the first sigil, whatever it is glued to. -/
theorem substitute_token (bindings : Bindings) {text : String} (h : '_' ∉ text.toList)
    {token : Token} {value : String} (hv : bindings.get? token = some value) (rest : String) :
    bindings.substitute (text ++ (token.literal ++ rest)) =
      text ++ (value ++ bindings.substitute rest) := by
  have hb : bindings.Binds token := Option.isSome_iff_exists.mpr ⟨value, hv⟩
  obtain rfl : value = bindings.value token := Option.some.inj (hv.symm.trans hb.get?)
  apply String.toList_injective
  simp only [substitute, String.toList_append, String.toList_ofList]
  rw [bindings.substituteFrom_plain h, bindings.substituteFrom_token _ hb]

theorem match?_congr {bindings other : Bindings} {text : List Char}
    (h : ∀ token : Token, token.literal.toList <+: text →
      other.get? token = bindings.get? token) :
    other.match? text = bindings.match? text := by
  ext ⟨token, value⟩
  rw [other.match?_eq_some_iff, bindings.match?_eq_some_iff]
  apply and_congr_left
  intro hp
  rw [h token hp]

theorem substituteFrom_congr {bindings other : Bindings} {text : List Char}
    (h : ∀ token : Token, token.literal.toList <:+: text →
      other.get? token = bindings.get? token) (skip : Nat) :
    other.substituteFrom skip text = bindings.substituteFrom skip text := by
  induction text generalizing skip with
  | nil => simp [substituteFrom]
  | cons c rest ih =>
    have hm : other.match? (c :: rest) = bindings.match? (c :: rest) :=
      match?_congr fun token hp => h token hp.isInfix
    have hrest := ih fun token hi => h token (hi.trans (List.suffix_cons c rest).isInfix)
    cases skip <;> simp only [substituteFrom, hm, hrest]

/-- Only the values of the tokens that occur in a template matter. -/
theorem substitute_congr_of_occurs {bindings other : Bindings} {template : String}
    (h : ∀ token : Token, token.literal.toList <:+: template.toList →
      other.get? token = bindings.get? token) :
    other.substitute template = bindings.substitute template := by
  rw [substitute, substitute, substituteFrom_congr h]

theorem substitute_congr {bindings other : Bindings}
    (h : ∀ token, other.get? token = bindings.get? token) (template : String) :
    other.substitute template = bindings.substitute template :=
  substitute_congr_of_occurs fun token _ => h token

theorem get?_perm {bindings other : Bindings} (h : other.entries.Perm bindings.entries)
    (token : Token) : other.get? token = bindings.get? token := by
  ext value
  rw [get?_eq_some_iff, get?_eq_some_iff, h.mem_iff]

/-- A template has one decomposition at the leftmost bound tokens, and substitution gives the
pieces with the values between them. At each cut one bound token matches and no other, so the
order of the bindings is of no account; and a template without bound tokens stays as it is. -/
theorem substitute_leftmost (bindings : Bindings) (template : String) :
    (∃! pieces : Pieces, pieces.source = template.toList ∧ pieces.Leftmost bindings.Binds) ∧
    (∀ pieces : Pieces, pieces.source = template.toList → pieces.Leftmost bindings.Binds →
      bindings.substitute template = .ofList (pieces.filled bindings.value) ∧
      ∀ place ∈ pieces.cuts, ∀ token,
        bindings.Binds token ∧ token.literal.toList <+: place.2 ↔ token = place.1) ∧
    (∀ other : Bindings, other.entries.Perm bindings.entries →
      other.substitute template = bindings.substitute template) ∧
    (¬ Occurs bindings.Binds template.toList → bindings.substitute template = template) := by
  refine ⟨Pieces.existsUnique_leftmost bindings.Binds _, ?_, ?_, ?_⟩
  · intro pieces hs hl
    refine ⟨?_, hl.token_unique⟩
    rw [substitute, substituteFrom_eq_filled, ← hs, ← Pieces.eq_ofText bindings.Binds hl]
  · exact fun other h => substitute_congr (get?_perm h) template
  · intro h
    rw [substitute, bindings.substituteFrom_of_not_occurs h, String.ofList_toList]

/-- A token right behind another one, and a value that looks like a token. -/
example : (({} : Bindings).bind .className "_IVAR_NAME_" |>.bind .variableName "v").substitute
    "__CLASS_NAME__IVAR_NAME_CLASS_NAME_" = "__IVAR_NAME_vCLASS_NAME_" := by
  decide +kernel

end EntityScaffold.Template.Bindings
