import EntityScaffold.Template.Token

/-!
The texts that stand for the tokens of a template, and putting them in their places.
-/

namespace EntityScaffold.Template

/-- Values for some of the tokens, in the order in which the tokens were first bound. -/
structure Bindings where
  entries : List (Token × String) := []
  /-- No token has two values. -/
  distinct : (entries.map Prod.fst).Nodup := by simp
  deriving DecidableEq, Repr

namespace Bindings

/-- Replace the value of a token, or add the token at the end. -/
def bindIn (token : Token) (value : String) : List (Token × String) → List (Token × String)
  | [] => [(token, value)]
  | (other, text) :: rest =>
    if other = token then (token, value) :: rest else (other, text) :: bindIn token value rest

theorem keys_bindIn (token : Token) (value : String) (entries : List (Token × String)) :
    (bindIn token value entries).map Prod.fst =
      if token ∈ entries.map Prod.fst then entries.map Prod.fst
      else entries.map Prod.fst ++ [token] := by
  induction entries with
  | nil => simp [bindIn]
  | cons entry rest ih =>
    obtain ⟨other, text⟩ := entry
    by_cases he : other = token
    · simp [bindIn, he]
    · simp only [bindIn, he, ↓reduceIte, List.map_cons, ih, List.mem_cons, Ne.symm he, false_or]
      split <;> simp

theorem bindIn_distinct {entries : List (Token × String)} (token : Token) (value : String)
    (h : (entries.map Prod.fst).Nodup) : ((bindIn token value entries).map Prod.fst).Nodup := by
  rw [keys_bindIn]
  split
  · exact h
  · rename_i hn
    exact List.nodup_append.mpr ⟨h, by simp, by
      intro other ho last hl
      rw [List.mem_singleton.mp hl]
      exact fun he => hn (he ▸ ho)⟩

/-- Bind a token. One that is bound already keeps its place and loses its value. -/
def bind (bindings : Bindings) (token : Token) (value : String) : Bindings :=
  ⟨bindIn token value bindings.entries, bindIn_distinct token value bindings.distinct⟩

def get? (bindings : Bindings) (token : Token) : Option String := bindings.entries.lookup token

theorem lookup_bindIn (token : Token) (value : String) (entries : List (Token × String))
    (other : Token) :
    (bindIn token value entries).lookup other =
      if other = token then some value else entries.lookup other := by
  have hlookup (key : Token) (text : String) (rest : List (Token × String)) :
      List.lookup other ((key, text) :: rest) =
        if other = key then some text else rest.lookup other := by
    by_cases he : other = key
    · simp [he]
    · have hb : (other == key) = false := beq_eq_false_iff_ne.mpr he
      rw [List.lookup_cons]
      simp [hb, he]
  induction entries with
  | nil => rw [bindIn, hlookup]
  | cons entry rest ih =>
    obtain ⟨bound, text⟩ := entry
    by_cases hb : bound = token
    · subst hb
      simp only [bindIn, ↓reduceIte, hlookup]
      split <;> rfl
    · simp only [bindIn, hb, ↓reduceIte, hlookup, ih]
      by_cases ho : other = bound
      · simp [ho, hb]
      · simp [ho]

/-- Binding a token leaves the values of all others alone. -/
theorem get?_bind (bindings : Bindings) (token : Token) (value : String) (other : Token) :
    (bindings.bind token value).get? other =
      if other = token then some value else bindings.get? other :=
  lookup_bindIn token value bindings.entries other

def unbound (bindings : Bindings) : List Token :=
  Token.all.filter fun token => (bindings.get? token).isNone

/-- The entry with the longest literal; the last one of equals. -/
def longest : List (Token × String) → Option (Token × String)
  | [] => none
  | entry :: rest =>
    match longest rest with
    | none => some entry
    | some best =>
      if best.1.literal.length < entry.1.literal.length then some entry else some best

/-- The bound token that a text begins with. -/
def match? (bindings : Bindings) (text : List Char) : Option (Token × String) :=
  longest (bindings.entries.filter fun (token, _) => token.literal.toList.isPrefixOf text)

/-- Replace the bound tokens from left to right, after leaving out `skip` characters that belong
to a token already replaced. A value is never searched for tokens. -/
def substituteFrom (bindings : Bindings) (skip : Nat) : List Char → List Char
  | [] => []
  | c :: rest =>
    match skip with
    | skip + 1 => substituteFrom bindings skip rest
    | 0 =>
      match bindings.match? (c :: rest) with
      | some (token, value) =>
        value.toList ++ substituteFrom bindings (token.literal.length - 1) rest
      | none => c :: substituteFrom bindings 0 rest

/-- Replace every occurrence of a bound token in a template. All else is copied. -/
def substitute (bindings : Bindings) (template : String) : String :=
  .ofList (substituteFrom bindings 0 template.toList)

end Bindings

end EntityScaffold.Template
