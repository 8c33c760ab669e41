import Mathlib.Logic.ExistsUnique
import EntityScaffold.Proofs.Template.Tokens

/-!
A text taken apart at the tokens of a set, from left to right. Every text comes apart in one way
only, since no two tokens begin at the same place.
-/

namespace EntityScaffold.Template

/-- The first place in a text where a token of a set begins. -/
def FirstAt (bound : Token → Prop) (text : List Char) (place : Nat) : Prop :=
  Begins bound (text.drop place) ∧ ∀ earlier < place, ¬ Begins bound (text.drop earlier)

/-- Plain text and tokens in turn. -/
inductive Pieces where
  | plain (text : List Char)
  | cut (before : List Char) (token : Token) (after : Pieces)
  deriving DecidableEq, Repr

namespace Pieces

/-- The text that was taken apart. -/
def source : Pieces → List Char
  | plain text => text
  | cut before token after => before ++ token.literal.toList ++ after.source

/-- The text with a value in the place of every token. -/
def filled (value : Token → String) : Pieces → List Char
  | plain text => text
  | cut before token after => before ++ (value token).toList ++ after.filled value

/-- Every token stands where the first one of the set begins in what remains of the text, and
the last piece holds none. -/
def Leftmost (bound : Token → Prop) : Pieces → Prop
  | plain text => ¬ Occurs bound text
  | cut before token after =>
    bound token ∧ FirstAt bound (cut before token after).source before.length ∧
      after.Leftmost bound

/-- The tokens that were cut out, each with the text from there on. -/
def cuts : Pieces → List (Token × List Char)
  | plain _ => []
  | cut _ token after => (token, token.literal.toList ++ after.source) :: after.cuts

/-- Put a character in front of the first piece. -/
def prepend (c : Char) : Pieces → Pieces
  | plain text => plain (c :: text)
  | cut before token after => cut (c :: before) token after

theorem source_prepend (c : Char) (pieces : Pieces) :
    (pieces.prepend c).source = c :: pieces.source := by
  cases pieces <;> simp [prepend, source]

theorem filled_prepend (value : Token → String) (c : Char) (pieces : Pieces) :
    (pieces.prepend c).filled value = c :: pieces.filled value := by
  cases pieces <;> simp [prepend, filled]

theorem filled_congr {pieces : Pieces} {value other : Token → String}
    (h : ∀ place ∈ pieces.cuts, value place.1 = other place.1) :
    pieces.filled value = pieces.filled other := by
  induction pieces with
  | plain text => rfl
  | cut before token after ih =>
    rw [filled, filled, h _ (List.mem_cons_self), ih fun place hp => h place (by simp [cuts, hp])]

theorem Leftmost.cut_nil {bound : Token → Prop} {token : Token} {after : Pieces}
    (ht : bound token) (ha : after.Leftmost bound) : (cut [] token after).Leftmost bound := by
  refine ⟨ht, ⟨⟨token, ht, ?_⟩, ?_⟩, ha⟩
  · simp [source]
  · intro earlier he
    simp at he

/-- A character that begins no token moves all places by one. -/
theorem Leftmost.prepend {bound : Token → Prop} {c : Char} {pieces : Pieces}
    (h : pieces.Leftmost bound) (hc : ¬ Begins bound (c :: pieces.source)) :
    (pieces.prepend c).Leftmost bound := by
  cases pieces with
  | plain text =>
    intro ho
    rcases occurs_cons.mp ho with hb | ho
    · exact hc hb
    · exact h ho
  | cut before token after =>
    obtain ⟨ht, ⟨hb, hf⟩, ha⟩ := h
    refine ⟨ht, ⟨hb, ?_⟩, ha⟩
    intro earlier he
    cases earlier with
    | zero => exact hc
    | succ earlier => exact hf earlier (by simpa using he)

theorem Leftmost.token_unique {bound : Token → Prop} {pieces : Pieces}
    (h : pieces.Leftmost bound) :
    ∀ place ∈ pieces.cuts, ∀ token,
      bound token ∧ token.literal.toList <+: place.2 ↔ token = place.1 := by
  induction pieces with
  | plain text => simp [cuts]
  | cut before first after ih =>
    intro place hp token
    rcases List.mem_cons.mp hp with rfl | hp
    · constructor
      · exact fun ht => Token.literal_prefix_unique ht.2 (List.prefix_append _ _)
      · rintro rfl
        exact ⟨h.1, List.prefix_append _ _⟩
    · exact ih h.2.2 place hp token

theorem FirstAt.unique {bound : Token → Prop} {text : List Char} {m n : Nat}
    (hm : FirstAt bound text m) (hn : FirstAt bound text n) : m = n := by
  rcases Nat.lt_trichotomy m n with h | h | h
  · exact absurd hm.1 (hn.2 m h)
  · exact h
  · exact absurd hn.1 (hm.2 n h)

theorem occurs_source_cut {bound : Token → Prop} (before : List Char) {token : Token}
    (after : Pieces) (ht : bound token) : Occurs bound (cut before token after).source :=
  ⟨token, ht, before, after.source, by simp [source]⟩

/-- Two ways to take a text apart agree. -/
theorem Leftmost.unique {bound : Token → Prop} {xs ys : Pieces}
    (hx : xs.Leftmost bound) (hy : ys.Leftmost bound) (hs : xs.source = ys.source) :
    xs = ys := by
  induction xs generalizing ys with
  | plain text =>
    cases ys with
    | plain other => exact congrArg plain hs
    | cut before token after =>
      have ho := occurs_source_cut before after hy.1
      rw [← hs] at ho
      exact absurd ho hx
  | cut before token after ih =>
    cases ys with
    | plain other =>
      have ho := occurs_source_cut before after hx.1
      rw [hs] at ho
      exact absurd ho hy
    | cut before' token' after' =>
      obtain ⟨-, hf, ha⟩ := hx
      obtain ⟨-, hf', ha'⟩ := hy
      have hl := FirstAt.unique hf (hs ▸ hf')
      simp only [source, List.append_assoc] at hs
      obtain ⟨rfl, hr⟩ := List.append_inj hs hl
      obtain rfl := Token.literal_prefix_unique (List.prefix_append _ _)
        (hr ▸ List.prefix_append _ _)
      rw [ih ha ha' (List.append_cancel_left hr)]

/-- A set without tokens that were not met takes a text apart in the same way. -/
theorem Leftmost.narrow {wide bound : Token → Prop} (hsub : ∀ token, bound token → wide token)
    {pieces : Pieces} (h : pieces.Leftmost wide) (hc : ∀ place ∈ pieces.cuts, bound place.1) :
    pieces.Leftmost bound := by
  have hbegins {text : List Char} : Begins bound text → Begins wide text :=
    fun ⟨token, hb, hp⟩ => ⟨token, hsub token hb, hp⟩
  induction pieces with
  | plain text =>
    rintro ⟨token, hb, hi⟩
    exact h ⟨token, hsub token hb, hi⟩
  | cut before token after ih =>
    obtain ⟨-, ⟨-, hfirst⟩, hafter⟩ := h
    have hb : bound token := hc (token, _) List.mem_cons_self
    refine ⟨hb, ⟨⟨token, hb, by simp [source]⟩, ?_⟩, ih hafter fun place hp => ?_⟩
    · exact fun earlier he hn => hfirst earlier he (hbegins hn)
    · exact hc place (List.mem_cons_of_mem _ hp)

/-- The token of a set that a text begins with. It is looked for only behind a sigil. -/
def tokenAt? (bound : Token → Prop) [DecidablePred bound] : List Char → Option Token
  | [] => none
  | c :: rest =>
    if c = '_' then
      Token.all.find? fun token => decide (bound token) && token.literal.toList.isPrefixOf (c :: rest)
    else none

theorem tokenAt?_eq_some_iff {bound : Token → Prop} [DecidablePred bound] {text : List Char}
    {token : Token} :
    tokenAt? bound text = some token ↔ bound token ∧ token.literal.toList <+: text := by
  cases text with
  | nil =>
    have hn : ¬ token.literal.toList <+: [] := fun h => token.literal_ne_nil (List.prefix_nil.mp h)
    simp [tokenAt?, hn]
  | cons c rest =>
    simp only [tokenAt?]
    constructor
    · intro h
      split at h
      · simpa using List.find?_some h
      · cases h
    · rintro ⟨hb, hp⟩
      rw [if_pos (Begins.sigil ⟨token, hb, hp⟩)]
      cases hf : Token.all.find? fun t =>
          decide (bound t) && t.literal.toList.isPrefixOf (c :: rest) with
      | none => simpa [hb, hp] using List.find?_eq_none.mp hf token token.mem_all
      | some other =>
        have ho := List.find?_some hf
        simp only [Bool.and_eq_true, List.isPrefixOf_iff_prefix] at ho
        rw [Token.literal_prefix_unique ho.2 hp]

theorem tokenAt?_eq_none_iff {bound : Token → Prop} [DecidablePred bound] {text : List Char} :
    tokenAt? bound text = none ↔ ¬ Begins bound text := by
  rw [Option.eq_none_iff_forall_ne_some]
  constructor
  · rintro h ⟨token, ht⟩
    exact h token (tokenAt?_eq_some_iff.mpr ht)
  · exact fun h token ht => h ⟨token, tokenAt?_eq_some_iff.mp ht⟩

/-- Take a text apart, after leaving out `skip` characters. -/
def ofFrom (bound : Token → Prop) [DecidablePred bound] (skip : Nat) : List Char → Pieces
  | [] => plain []
  | c :: rest =>
    match skip with
    | skip + 1 => ofFrom bound skip rest
    | 0 =>
      match tokenAt? bound (c :: rest) with
      | some token => cut [] token (ofFrom bound (token.literal.length - 1) rest)
      | none => (ofFrom bound 0 rest).prepend c

/-- Take a text apart at the tokens of a set. -/
def ofText (bound : Token → Prop) [DecidablePred bound] (text : List Char) : Pieces :=
  ofFrom bound 0 text

/-- Induction over a text in the steps in which it is taken apart. -/
theorem text_induction (bound : Token → Prop) {motive : List Char → Prop} (nil : motive [])
    (token : ∀ token rest, bound token → motive rest → motive (token.literal.toList ++ rest))
    (char : ∀ c rest, ¬ Begins bound (c :: rest) → motive rest → motive (c :: rest))
    (text : List Char) : motive text := by
  match text with
  | [] => exact nil
  | c :: rest =>
    by_cases h : Begins bound (c :: rest)
    · obtain ⟨first, hb, after, ha⟩ := h
      have hlen : after.length < rest.length + 1 := by
        have hc := congrArg List.length ha
        have hne := List.length_pos_iff.mpr first.literal_ne_nil
        simp only [List.length_append, List.length_cons] at hc
        omega
      rw [← ha]
      exact token first after hb (text_induction bound nil token char after)
    · exact char c rest h (text_induction bound nil token char rest)
termination_by text.length

variable (bound : Token → Prop) [DecidablePred bound]

theorem ofFrom_eq_ofText (skip : Nat) (text : List Char) :
    ofFrom bound skip text = ofText bound (text.drop skip) := by
  induction text generalizing skip with
  | nil => simp [ofFrom, ofText]
  | cons c rest ih =>
    cases skip with
    | zero => rfl
    | succ skip => simpa [ofFrom] using ih skip

theorem ofText_token {token : Token} (rest : List Char) (ht : bound token) :
    ofText bound (token.literal.toList ++ rest) = cut [] token (ofText bound rest) := by
  have hm : tokenAt? bound (token.literal.toList ++ rest) = some token :=
    tokenAt?_eq_some_iff.mpr ⟨ht, List.prefix_append _ _⟩
  obtain ⟨name, hn⟩ := token.literal_sigil
  have hl : token.literal.length - 1 = name.length := by
    rw [← String.length_toList, hn, List.length_cons, Nat.add_sub_cancel]
  rw [hn, List.cons_append] at hm ⊢
  simp only [ofText, ofFrom, hm, hl]
  rw [ofFrom_eq_ofText, List.drop_left, ofText]

theorem ofText_char {c : Char} {rest : List Char} (h : ¬ Begins bound (c :: rest)) :
    ofText bound (c :: rest) = (ofText bound rest).prepend c := by
  rw [ofText, ofFrom, tokenAt?_eq_none_iff.mpr h, ofText]

theorem source_ofText (text : List Char) : (ofText bound text).source = text := by
  induction text using text_induction bound with
  | nil => rfl
  | token token rest hb ih => simp [ofText_token bound rest hb, source, ih]
  | char c rest h ih => rw [ofText_char bound h, source_prepend, ih]

theorem ofText_leftmost (text : List Char) : (ofText bound text).Leftmost bound := by
  induction text using text_induction bound with
  | nil =>
    rintro ⟨token, _, h⟩
    exact token.literal_ne_nil (List.infix_nil.mp h)
  | token token rest hb ih =>
    rw [ofText_token bound rest hb]
    exact ih.cut_nil hb
  | char c rest h ih =>
    rw [ofText_char bound h]
    exact ih.prepend (by rwa [source_ofText])

/-- Every text comes apart, and in one way only. -/
theorem existsUnique_leftmost (text : List Char) :
    ∃! pieces : Pieces, pieces.source = text ∧ pieces.Leftmost bound :=
  ⟨ofText bound text, ⟨source_ofText bound text, ofText_leftmost bound text⟩,
    fun _ h => h.2.unique (ofText_leftmost bound text) (h.1.trans (source_ofText bound text).symm)⟩

theorem ofText_congr (other : Token → Prop) [DecidablePred other]
    (h : ∀ token, bound token ↔ other token) (text : List Char) :
    ofText bound text = ofText other text := by
  have hl : (ofText bound text).Leftmost other :=
    (funext fun token => propext (h token) : bound = other) ▸ ofText_leftmost bound text
  apply hl.unique (ofText_leftmost other text)
  rw [source_ofText, source_ofText]

theorem eq_ofText {pieces : Pieces} (h : pieces.Leftmost bound) :
    pieces = ofText bound pieces.source :=
  h.unique (ofText_leftmost bound _) (source_ofText bound _).symm

end Pieces

end EntityScaffold.Template
