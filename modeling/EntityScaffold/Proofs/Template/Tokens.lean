import EntityScaffold.Template.Bindings

/-!
The literals of the vocabulary, and finding the token a text begins with. No literal is the
beginning of another one, so a text begins with at most one token.
-/

namespace EntityScaffold.Template

namespace Token

theorem mem_all (token : Token) : token ∈ all := by
  cases token with
  | part part => cases part <;> decide
  | _ => decide

theorem literal_prefix_vocabulary :
    ∀ s ∈ all, ∀ t ∈ all, s.literal.toList <+: t.literal.toList → s = t := by
  decide +kernel

/-- Two tokens cannot begin at the same place. -/
theorem literal_prefix_unique {s t : Token} {text : List Char}
    (hs : s.literal.toList <+: text) (ht : t.literal.toList <+: text) : s = t := by
  rcases List.prefix_or_prefix_of_prefix hs ht with h | h
  · exact literal_prefix_vocabulary s s.mem_all t t.mem_all h
  · exact (literal_prefix_vocabulary t t.mem_all s s.mem_all h).symm

theorem literal_sigil (token : Token) : ∃ name, token.literal.toList = '_' :: name := by
  have h : ∀ t ∈ all, t.literal.toList.head? = some '_' := by decide +kernel
  exact ⟨_, (List.head?_eq_some_iff.mp (h token token.mem_all)).choose_spec⟩

theorem literal_ne_nil (token : Token) : token.literal.toList ≠ [] := by
  obtain ⟨name, h⟩ := token.literal_sigil
  simp [h]

/-- No token reaches over the end of a line. -/
theorem literal_one_line (token : Token) : '\n' ∉ token.literal.toList := by
  have h : ∀ t ∈ all, '\n' ∉ t.literal.toList := by decide +kernel
  exact h token token.mem_all

theorem literal_last (token : Token) : token.literal.toList.getLast? = some '_' := by
  have h : ∀ t ∈ all, t.literal.toList.getLast? = some '_' := by decide +kernel
  exact h token token.mem_all

/-- Literals are made of capitals and sigils. -/
theorem mem_literal (token : Token) {c : Char} (h : c ∈ token.literal.toList) :
    c.isUpper ∨ c = '_' := by
  have hall : ∀ t ∈ all, t.literal.toList.all fun c => c.isUpper || c == '_' := by decide +kernel
  simpa using List.all_eq_true.mp (hall token token.mem_all) c h

theorem literal_capital (token : Token) : ∃ c ∈ token.literal.toList, c.isUpper := by
  have hany : ∀ t ∈ all, t.literal.toList.any Char.isUpper := by decide +kernel
  exact List.any_eq_true.mp (hany token token.mem_all)

end Token

/-- A token of a set begins at the start of a text. -/
def Begins (bound : Token → Prop) (text : List Char) : Prop :=
  ∃ token, bound token ∧ token.literal.toList <+: text

/-- A token of a set occurs somewhere in a text. -/
def Occurs (bound : Token → Prop) (text : List Char) : Prop :=
  ∃ token, bound token ∧ token.literal.toList <:+: text

theorem Begins.sigil {bound : Token → Prop} {c : Char} {rest : List Char}
    (h : Begins bound (c :: rest)) : c = '_' := by
  obtain ⟨token, _, hp⟩ := h
  obtain ⟨name, hn⟩ := token.literal_sigil
  rw [hn] at hp
  exact (List.cons_prefix_cons.mp hp).1.symm

theorem occurs_cons {bound : Token → Prop} {c : Char} {rest : List Char} :
    Occurs bound (c :: rest) ↔ Begins bound (c :: rest) ∨ Occurs bound rest := by
  constructor
  · rintro ⟨token, hb, h⟩
    rcases List.infix_cons_iff.mp h with h | h
    · exact .inl ⟨token, hb, h⟩
    · exact .inr ⟨token, hb, h⟩
  · rintro (⟨token, hb, h⟩ | ⟨token, hb, h⟩)
    · exact ⟨token, hb, h.isInfix⟩
    · exact ⟨token, hb, List.infix_cons_iff.mpr (.inr h)⟩

namespace Bindings

/-- A token has a value. -/
def Binds (bindings : Bindings) (token : Token) : Prop := (bindings.get? token).isSome

theorem get?_eq_some_iff (bindings : Bindings) (token : Token) (value : String) :
    bindings.get? token = some value ↔ (token, value) ∈ bindings.entries := by
  unfold get?
  constructor
  · intro h
    obtain ⟨before, after, he, _⟩ := List.lookup_eq_some_iff.mp h
    simp [he]
  · intro h
    obtain ⟨before, after, he⟩ := List.append_of_mem h
    apply List.lookup_eq_some_iff.mpr
    refine ⟨before, after, he, ?_⟩
    intro other ho
    have hd := bindings.distinct
    rw [he, List.map_append, List.nodup_append] at hd
    have hne := hd.2.2 other.1 (List.mem_map_of_mem ho) token (by simp)
    simpa using Ne.symm hne

theorem longest_mem {entries : List (Token × String)} {entry : Token × String}
    (h : longest entries = some entry) : entry ∈ entries := by
  induction entries generalizing entry with
  | nil => simp [longest] at h
  | cons first rest ih =>
    cases hr : longest rest with
    | none =>
      simp only [longest, hr, Option.some.injEq] at h
      simp [h]
    | some best =>
      simp only [longest, hr] at h
      split at h
      · simp [Option.some.inj h]
      · exact List.mem_cons_of_mem _ (Option.some.inj h ▸ ih hr)

theorem longest_eq_none_iff {entries : List (Token × String)} :
    longest entries = none ↔ entries = [] := by
  cases entries with
  | nil => simp [longest]
  | cons first rest =>
    cases hr : longest rest with
    | none => simp [longest, hr]
    | some best =>
      simp only [longest, hr, reduceCtorEq, iff_false]
      split <;> simp

theorem mem_candidates (bindings : Bindings) (text : List Char) (token : Token) (value : String) :
    (token, value) ∈ bindings.entries.filter
        (fun (token, _) => token.literal.toList.isPrefixOf text) ↔
      bindings.get? token = some value ∧ token.literal.toList <+: text := by
  rw [List.mem_filter, get?_eq_some_iff, List.isPrefixOf_iff_prefix]

/-- The longest match is the only one: how the entries are ordered does not matter. -/
theorem match?_eq_some_iff (bindings : Bindings) (text : List Char) (token : Token)
    (value : String) :
    bindings.match? text = some (token, value) ↔
      bindings.get? token = some value ∧ token.literal.toList <+: text := by
  unfold match?
  constructor
  · exact fun h => (bindings.mem_candidates text token value).mp (longest_mem h)
  · intro h
    have hm := (bindings.mem_candidates text token value).mpr h
    cases hl : longest (bindings.entries.filter
        fun (token, _) => token.literal.toList.isPrefixOf text) with
    | none =>
      rw [longest_eq_none_iff.mp hl] at hm
      cases hm
    | some best =>
      obtain ⟨other, text'⟩ := best
      obtain ⟨hg, hp⟩ := (bindings.mem_candidates text other text').mp (longest_mem hl)
      obtain rfl := Token.literal_prefix_unique hp h.2
      rw [Option.some.inj (hg.symm.trans h.1)]

theorem match?_eq_none_iff (bindings : Bindings) (text : List Char) :
    bindings.match? text = none ↔ ¬ Begins bindings.Binds text := by
  constructor
  · rintro h ⟨token, hb, hp⟩
    obtain ⟨value, hv⟩ := Option.isSome_iff_exists.mp hb
    rw [(bindings.match?_eq_some_iff text token value).mpr ⟨hv, hp⟩] at h
    cases h
  · intro h
    cases hm : bindings.match? text with
    | none => rfl
    | some found =>
      obtain ⟨hg, hp⟩ := (bindings.match?_eq_some_iff text found.1 found.2).mp hm
      exact absurd ⟨found.1, Option.isSome_iff_exists.mpr ⟨_, hg⟩, hp⟩ h

end Bindings

end EntityScaffold.Template
