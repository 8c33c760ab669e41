import EntityScaffold.Proofs.TestsSource

/-!
Bindings that were made one after the other. Of all values a token was given the last one stays,
and a template is filled with the values of its own tokens only.
-/

namespace EntityScaffold

namespace Template.Bindings

/-- Bind tokens one after the other. -/
def bindAll (bindings : Bindings) (history : List (Token × String)) : Bindings :=
  history.foldl (fun bindings entry => bindings.bind entry.1 entry.2) bindings

/-- The last value counts; a token that is not bound again keeps the one it had. -/
theorem get?_bindAll (bindings : Bindings) (history : List (Token × String)) (token : Token) :
    (bindings.bindAll history).get? token =
      (history.reverse.lookup token).or (bindings.get? token) := by
  induction history generalizing bindings with
  | nil => rfl
  | cons entry rest ih =>
    obtain ⟨bound, value⟩ := entry
    have hbind := bindings.get?_bind bound value token
    have hrest := ih (bindings.bind bound value)
    rw [bindAll, List.foldl_cons, ← bindAll, hrest, hbind, List.reverse_cons, List.lookup_append]
    by_cases he : token = bound
    · simp [he]
    · have hb : (token == bound) = false := beq_eq_false_iff_ne.mpr he
      simp [he, List.lookup_cons, hb]

end Template.Bindings

/-- Apart from the tokens for parts, a model binds what its entity binds. -/
theorem Generator.get?_model_entity (layout : Layout) (root : Path) (entity : Entity)
    (fields : List Field) (indent : Indent) {token : Template.Token}
    (h : ∀ part, token ≠ .part part) :
    (model layout root entity fields indent).bindings.get? token = entity.bindings.get? token := by
  have hmodel := names_model layout root entity fields indent
  have hentity := names_tests layout root entity none
  cases token with
  | className => exact hmodel.className.trans hentity.className.symm
  | variableName => exact hmodel.variableName.trans hentity.variableName.symm
  | tableName => exact hmodel.tableName.trans hentity.tableName.symm
  | part part => exact absurd rfl (h part)

namespace Template.Bindings

/-- However bindings came about, a token has the value it was given last, and two histories that
agree on the tokens of a template give the same text. So the order of the bindings, values that
were replaced and tokens the template does not hold never show; and a template without parts
reads alike for a model and for its entity alone. -/
theorem substitute_last_values (template : String) :
    (∀ (history : List (Token × String)) (token : Token),
      (bindAll {} history).get? token = history.reverse.lookup token) ∧
    (∀ first second : List (Token × String),
      (∀ token : Token, token.literal.toList <:+: template.toList →
        first.reverse.lookup token = second.reverse.lookup token) →
      (bindAll {} first).substitute template = (bindAll {} second).substitute template) ∧
    ∀ (layout : Layout) (root : Path) (entity : Entity) (fields : List Field) (indent : Indent),
      (∀ part, ¬ (Token.part part).literal.toList <:+: template.toList) →
      (Generator.model layout root entity fields indent).bindings.substitute template =
        entity.bindings.substitute template := by
  have hlast (history : List (Token × String)) (token : Token) :
      (bindAll {} history).get? token = history.reverse.lookup token := by
    rw [get?_bindAll]
    exact Option.or_none
  refine ⟨hlast, ?_, ?_⟩
  · intro first second h
    apply substitute_congr_of_occurs
    intro token ht
    rw [hlast, hlast, h token ht]
  · intro layout root entity fields indent h
    apply substitute_congr_of_occurs
    intro token ht
    apply Generator.get?_model_entity
    rintro part rfl
    exact h part ht

/-- Two histories with the tokens in another order, a value that was replaced, and a token that
the template does not hold. -/
theorem substitute_last_values_rebound :
    let first : List (Token × String) :=
      [(.className, "Old"), (.variableName, "post"), (.className, "Post")]
    let second : List (Token × String) :=
      [(.part .rowDecode, "x"), (.className, "Post"), (.variableName, "post")]
    (∀ token : Token, token.literal.toList <:+: "_CLASS_NAME_ _IVAR_NAME_".toList →
      first.reverse.lookup token = second.reverse.lookup token) ∧
    (bindAll {} first).substitute "_CLASS_NAME_ _IVAR_NAME_" =
      (bindAll {} second).substitute "_CLASS_NAME_ _IVAR_NAME_" := by
  intro first second
  have h : ∀ token : Token, token.literal.toList <:+: "_CLASS_NAME_ _IVAR_NAME_".toList →
      first.reverse.lookup token = second.reverse.lookup token := by
    intro token ht
    cases token with
    | part part => cases part <;> exact absurd ht (by decide +kernel)
    | tableName => exact absurd ht (by decide +kernel)
    | className => rfl
    | variableName => rfl
  exact ⟨h, (substitute_last_values _).2.1 first second h⟩

end Template.Bindings

end EntityScaffold
