import EntityScaffold.Proofs.Template.Clear
import EntityScaffold.Proofs.Template.Substitution
import EntityScaffold.Proofs.Text.Replacing

/-!
Replacing one token after another. Where the tokens of a template lie apart and no value can be
part of a token, this gives the same text as replacing all of them in one pass, in whatever order
the tokens are taken.
-/

namespace EntityScaffold.Template

/-- Where tokens of a set occur in a text, they have no character in common. -/
def NoOverlap (bound : Token → Prop) (text : List Char) : Prop :=
  ∀ s t, bound s → bound t → ∀ i j, i < j →
    s.literal.toList <+: text.drop i → t.literal.toList <+: text.drop j →
    i + s.literal.length ≤ j

/-- Only places where a token begins have to be looked at. -/
theorem noOverlap_iff {bound : Token → Prop} [DecidablePred bound] {text : List Char} :
    NoOverlap bound text ↔
      ∀ j < text.length, ∀ t ∈ Pieces.tokenAt? bound (text.drop j),
        ∀ i < j, ∀ s ∈ Pieces.tokenAt? bound (text.drop i), i + s.literal.length ≤ j := by
  constructor
  · intro h j _ t ht i hij s hs
    obtain ⟨hbs, hps⟩ := Pieces.tokenAt?_eq_some_iff.mp hs
    obtain ⟨hbt, hpt⟩ := Pieces.tokenAt?_eq_some_iff.mp ht
    exact h s t hbs hbt i j hij hps hpt
  · intro h s t hs ht i j hij hi hj
    have hlen : j < text.length := by
      by_contra hn
      rw [List.drop_eq_nil_of_le (by omega), List.prefix_nil] at hj
      exact t.literal_ne_nil hj
    exact h j hlen t (Pieces.tokenAt?_eq_some_iff.mpr ⟨ht, hj⟩) i hij s
      (Pieces.tokenAt?_eq_some_iff.mpr ⟨hs, hi⟩)

instance (bound : Token → Prop) [DecidablePred bound] (text : List Char) :
    Decidable (NoOverlap bound text) :=
  decidable_of_iff' _ noOverlap_iff

theorem NoOverlap.suffix {bound : Token → Prop} {front rest : List Char}
    (h : NoOverlap bound (front ++ rest)) : NoOverlap bound rest := by
  intro s t hs ht i j hij hi hj
  have hd := h s t hs ht (front.length + i) (front.length + j) (by omega)
  rw [List.drop_append, List.drop_append] at hd
  simp only [List.drop_eq_nil_of_le (Nat.le_add_right _ _), List.nil_append,
    Nat.add_sub_cancel_left] at hd
  have := hd hi hj
  omega

/-- No token begins within another one. -/
theorem NoOverlap.passes {bound : Token → Prop} {s t : Token} {rest : List Char}
    (h : NoOverlap bound (s.literal.toList ++ rest)) (hs : bound s) (ht : bound t) (hne : t ≠ s) :
    Text.Passes t.literal.toList s.literal.toList rest := by
  rintro tail ⟨front, hf⟩ htail hp
  rw [← hf] at h
  -- At its beginning a token is the only one; further inside the two would overlap.
  cases front with
  | nil =>
    rw [List.nil_append] at hf
    rw [hf] at hp
    exact hne (Token.literal_prefix_unique hp (List.prefix_append _ _))
  | cons c front =>
    have hd := h s t hs ht 0 (c :: front).length (by simp) (by simp [hf]) (by simpa using hp)
    rw [← String.length_toList, ← hf] at hd
    have := List.length_pos_iff.mpr htail
    simp only [List.length_append, List.length_cons] at hd
    omega

/-- What stands for a token when some tokens have been replaced: its value, or still its literal. -/
def partly (done : List (Token × String)) (token : Token) : String :=
  (done.lookup token).getD token.literal

theorem partly_cons (token : Token) (value : String) (done : List (Token × String))
    (other : Token) :
    partly ((token, value) :: done) other = if other = token then value else partly done other := by
  by_cases he : other = token
  · simp [partly, he]
  · have hb : (other == token) = false := beq_eq_false_iff_ne.mpr he
    simp [partly, List.lookup_cons, hb, he]

/-- A token stands as it is until it is replaced. -/
theorem partly_new {done : List (Token × String)} {token : Token}
    (h : token ∉ done.map Prod.fst) : partly done token = token.literal := by
  have hl : done.lookup token = none := by
    apply List.lookup_eq_none_iff.mpr
    intro entry he
    simp only [bne_iff_ne, ne_eq]
    rintro rfl
    exact h (List.mem_map_of_mem he)
  rw [partly, hl, Option.getD_none]

theorem partly_cases {done : List (Token × String)} (h : ∀ entry ∈ done, Foreign entry.2.toList)
    (token : Token) : partly done token = token.literal ∨ Foreign (partly done token).toList := by
  unfold partly
  cases hl : done.lookup token with
  | none => exact .inl rfl
  | some value =>
    obtain ⟨before, after, hd, _⟩ := List.lookup_eq_some_iff.mp hl
    exact .inr (h (token, value) (by simp [hd]))

/-- In the end every bound token has its value, wherever it was in the order. -/
theorem partly_all {bindings : Bindings} {order : List (Token × String)}
    (h : order.Perm bindings.entries) {token : Token} (hb : bindings.Binds token) :
    partly order token = bindings.value token := by
  have hkeys : (order.map Prod.fst).Nodup :=
    (h.map Prod.fst).nodup_iff.mpr bindings.distinct
  have hget : Bindings.get? ⟨order, hkeys⟩ token = bindings.get? token := Bindings.get?_perm h token
  have hlookup : order.lookup token = bindings.get? token := hget
  rw [partly, hlookup, hb.get?, Option.getD_some]

namespace Pieces

theorem filled_literal (pieces : Pieces) : pieces.filled Token.literal = pieces.source := by
  induction pieces with
  | plain text => rfl
  | cut before token after ih => rw [filled, source, ih]

/-- Replacing tokens makes no token begin where there was none. -/
theorem prefix_source {done : List (Token × String)} (h : ∀ entry ∈ done, Foreign entry.2.toList)
    {token : Token} {front : List Char} {pieces : Pieces}
    (hp : token.literal.toList <+: front ++ pieces.filled (partly done)) :
    token.literal.toList <+: front ++ pieces.source := by
  induction pieces generalizing front with
  | plain text => exact hp
  | cut before other after ih =>
    rw [filled, List.append_assoc, ← List.append_assoc front] at hp
    rw [source, List.append_assoc, ← List.append_assoc front]
    -- A literal stands there as in the source; no token gets past a value.
    rcases partly_cases h other with hl | hf
    · rw [hl, ← List.append_assoc] at hp
      rw [← List.append_assoc]
      exact ih hp
    · exact (hf.prefix_before hp).trans (List.prefix_append _ _)

/-- No token begins in the text before the first one, whatever was replaced behind it. -/
theorem Leftmost.passes_before {bound : Token → Prop} {before : List Char} {other : Token}
    {after : Pieces} (hl : (cut before other after).Leftmost bound)
    {done : List (Token × String)} (h : ∀ entry ∈ done, Foreign entry.2.toList) {token : Token}
    (hb : bound token) :
    Text.Passes token.literal.toList before
      ((partly done other).toList ++ after.filled (partly done)) := by
  rintro tail ⟨front, rfl⟩ hne hp
  have hs : token.literal.toList <+: tail ++ (cut [] other after).source :=
    prefix_source h (by simpa [filled] using hp)
  have hlen := List.length_pos_iff.mpr hne
  apply hl.2.1.2 front.length (by rw [List.length_append]; omega)
  exact ⟨token, hb, by simpa [source] using hs⟩

/-- Another token begins neither within a token nor within the value that stands for it. -/
theorem passes_value {bound : Token → Prop} {other token : Token} {after : Pieces}
    (ho : NoOverlap bound (other.literal.toList ++ after.source)) (hother : bound other)
    {done : List (Token × String)} (h : ∀ entry ∈ done, Foreign entry.2.toList) (hb : bound token)
    (hne : token ≠ other) :
    Text.Passes token.literal.toList (partly done other).toList (after.filled (partly done)) := by
  rcases partly_cases h other with hl | hf
  · rw [hl]
    intro tail ht htail hp
    exact ho.passes hother hb hne tail ht htail (prefix_source h hp)
  · obtain ⟨name, hn⟩ := token.literal_sigil
    rw [hn]
    exact Text.passes_of_not_mem hf.noSigil _

/-- Replacing one more token. -/
theorem Leftmost.replaceChars {bound : Token → Prop} {pieces : Pieces}
    (hl : pieces.Leftmost bound) (ho : NoOverlap bound pieces.source)
    {done : List (Token × String)} (h : ∀ entry ∈ done, Foreign entry.2.toList) {token : Token}
    (hb : bound token) (hnew : token ∉ done.map Prod.fst) (value : String) :
    Text.replaceChars token.literal.toList value.toList (pieces.filled (partly done)) =
      pieces.filled (partly ((token, value) :: done)) := by
  induction pieces with
  | plain text =>
    have hn : ¬ token.literal.toList <:+: text := fun hi => hl ⟨token, hb, hi⟩
    rw [filled, filled, Text.replaceChars_of_not_infix hn]
  | cut before other after ih =>
    rw [source, List.append_assoc] at ho
    have hrest := ih hl.2.2 ho.suffix.suffix
    rw [filled, filled, List.append_assoc, List.append_assoc,
      Text.replaceChars_passes (hl.passes_before h hb), partly_cons]
    by_cases he : other = token
    · subst he
      rw [partly_new hnew, Text.replaceChars_pattern other.literal_ne_nil, hrest, if_pos rfl]
    · rw [Text.replaceChars_passes (passes_value ho.suffix hl.1 h hb (Ne.symm he)), hrest,
        if_neg he]

end Pieces

/-- Replacing tokens one after the other. -/
theorem Pieces.Leftmost.foldl_replaceChars {bound : Token → Prop} {pieces : Pieces}
    (hl : pieces.Leftmost bound) (ho : NoOverlap bound pieces.source)
    (order done : List (Token × String))
    (h : ∀ entry ∈ order.reverse ++ done, bound entry.1 ∧ Foreign entry.2.toList)
    (hnew : ((order.reverse ++ done).map Prod.fst).Nodup) :
    order.foldl (fun text entry => Text.replaceChars entry.1.literal.toList entry.2.toList text)
        (pieces.filled (partly done)) =
      pieces.filled (partly (order.reverse ++ done)) := by
  induction order generalizing done with
  | nil => rfl
  | cons entry rest ih =>
    rw [List.reverse_cons, List.append_assoc, List.singleton_append] at h hnew ⊢
    have hforeign : ∀ e ∈ done, Foreign e.2.toList := fun e he => (h e (by simp [he])).2
    have hfirst : entry.1 ∉ done.map Prod.fst := by
      rw [List.map_append, List.map_cons] at hnew
      exact (List.nodup_cons.mp (List.nodup_append.mp hnew).2.1).1
    have hstep := hl.replaceChars ho hforeign (h entry (by simp)).1 hfirst entry.2
    rw [List.foldl_cons, hstep]
    exact ih (entry :: done) h hnew

namespace Bindings

/-- Substitution in one pass gives what replacing one token after another gives, in any order of
the bound tokens. -/
theorem substitute_successive (bindings : Bindings) (template : String)
    (hapart : NoOverlap bindings.Binds template.toList)
    (hvalues : ∀ entry ∈ bindings.entries, Foreign entry.2.toList)
    (order : List (Token × String)) (horder : order.Perm bindings.entries) :
    order.foldl (fun text entry => Text.replaceAll entry.1.literal entry.2 text) template =
      bindings.substitute template := by
  let pieces := Pieces.ofText bindings.Binds template.toList
  have hl : pieces.Leftmost bindings.Binds := Pieces.ofText_leftmost _ _
  have hs : pieces.source = template.toList := Pieces.source_ofText _ _
  have hperm : order.reverse.Perm bindings.entries := (List.reverse_perm order).trans horder
  have hkeys : (order.reverse.map Prod.fst).Nodup :=
    (hperm.map Prod.fst).nodup_iff.mpr bindings.distinct
  have hentries : ∀ entry ∈ order.reverse, bindings.Binds entry.1 ∧ Foreign entry.2.toList := by
    intro entry he
    have hm : entry ∈ bindings.entries := hperm.mem_iff.mp he
    have hg := (bindings.get?_eq_some_iff entry.1 entry.2).mpr hm
    exact ⟨Option.isSome_iff_exists.mpr ⟨entry.2, hg⟩, hvalues entry hm⟩
  have hfold := hl.foldl_replaceChars (hs ▸ hapart) order [] (by simpa using hentries)
    (by simpa using hkeys)
  have hstart : pieces.filled (partly []) = template.toList :=
    (Pieces.filled_literal pieces).trans hs
  have hend : pieces.filled (partly order.reverse) = pieces.filled bindings.value := by
    apply Pieces.filled_congr
    intro place hp
    exact partly_all hperm ((hl.token_unique place hp place.1).mpr rfl).1
  apply String.toList_injective
  rw [substitute, String.toList_ofList, substituteFrom_eq_filled, ← hend]
  rw [List.append_nil, hstart] at hfold
  rw [← hfold]
  refine (List.foldl_hom String.toList fun text entry => ?_).symm
  simp [Text.replaceAll]

/-- Replacing a token brings the halves of another one close to each other, but not together. -/
theorem substitute_successive_seams :
    let bindings : Bindings :=
      (({} : Bindings).bind .className "pOST").bind .variableName "X1" |>.bind .tableName "s"
    let template := "_CLASS_IVAR_NAME_NAME_ test_CLASS_NAME__DB_TABLE_NAME_IVAR_NAME"
    (NoOverlap bindings.Binds template.toList ∧
      ∀ entry ∈ bindings.entries, Foreign entry.2.toList) ∧
    [(.tableName, "s"), (.className, "pOST"), (.variableName, "X1")].foldl
        (fun text entry => Text.replaceAll (Token.literal entry.1) entry.2 text) template =
      bindings.substitute template ∧
    bindings.substitute template = "_CLASSX1NAME_ testpOSTsIVAR_NAME" := by
  intro bindings template
  have hapart : NoOverlap bindings.Binds template.toList := by decide +kernel
  have hvalues : ∀ entry ∈ bindings.entries, Foreign entry.2.toList := by decide +kernel
  refine ⟨⟨hapart, hvalues⟩, ?_, by decide +kernel⟩
  apply substitute_successive bindings template hapart hvalues
  decide +kernel

end Bindings

end EntityScaffold.Template
