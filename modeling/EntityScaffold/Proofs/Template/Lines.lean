import EntityScaffold.Template.Builtin
import EntityScaffold.Text.Split
import EntityScaffold.Proofs.Text.Joined
import EntityScaffold.Proofs.Template.Substitution

/-!
A template may be cut wherever no token is cut through, and its parts are substituted into by
themselves. So it is with the lines of a template, because no token reaches over the end of a line.
-/

namespace EntityScaffold.Template

/-- No bound token begins in the first of two texts and ends in the second one. -/
def Apart (bound : Token → Prop) (front rest : List Char) : Prop :=
  ∀ tail, tail <:+ front → tail ≠ [] → ∀ token, bound token →
    token.literal.toList <+: tail ++ rest → token.literal.toList <+: tail

theorem Apart.suffix {bound : Token → Prop} {front rest tail : List Char}
    (h : Apart bound front rest) (ht : tail <:+ front) : Apart bound tail rest :=
  fun part hp => h part (hp.trans ht)

/-- A bound token occurs in two joined texts, begins in the first one and ends in the second. -/
def Straddles (bound : Token → Prop) (front rest : List Char) : Prop :=
  ∃ token, bound token ∧ ∃ before after,
    front ++ rest = before ++ token.literal.toList ++ after ∧
    before.length < front.length ∧ front.length < (before ++ token.literal.toList).length

theorem apart_iff {bound : Token → Prop} {front rest : List Char} :
    Apart bound front rest ↔ ¬ Straddles bound front rest := by
  constructor
  · rintro h ⟨token, hb, before, after, ht, hbegin, hend⟩
    -- what stands before the token is a beginning of the first text; the tail behind it is not empty
    have hbefore : before <+: front := by
      have hwhole : before <+: front ++ rest := by
        rw [ht, List.append_assoc]
        exact List.prefix_append before _
      exact List.prefix_of_prefix_length_le hwhole (List.prefix_append front rest) hbegin.le
    obtain ⟨tail, rfl⟩ := hbefore
    have hne : tail ≠ [] := by
      intro he
      simp [he] at hbegin
    simp only [List.append_assoc, List.append_cancel_left_eq] at ht
    have hp := h tail (List.suffix_append before tail) hne token hb ⟨after, ht.symm⟩
    have hlen := hp.length_le
    simp only [List.length_append] at hend
    omega
  · intro h tail htail hne token hb hp
    obtain ⟨before, rfl⟩ := htail
    obtain ⟨after, ha⟩ := hp
    have hpos := List.length_pos_iff.mpr hne
    by_contra hn
    apply h
    refine ⟨token, hb, before, after, by rw [List.append_assoc, List.append_assoc, ha], ?_, ?_⟩
    · rw [List.length_append]
      omega
    · by_contra hlen
      apply hn
      apply List.prefix_of_prefix_length_le ⟨after, ha⟩ (List.prefix_append tail rest)
      simp only [List.length_append] at hlen
      omega

instance (bound : Token → Prop) [DecidablePred bound] (front rest : List Char) :
    Decidable (Apart bound front rest) :=
  decidable_of_iff
    (∀ tail ∈ front.tails, tail ≠ [] → ∀ token ∈ Pieces.tokenAt? bound (tail ++ rest),
      token.literal.toList <+: tail) <| by
    simp only [List.mem_tails, Option.mem_def, Pieces.tokenAt?_eq_some_iff, and_imp, Apart]

theorem apart_newline (bound : Token → Prop) (line rest : List Char) :
    Apart bound line ('\n' :: rest) :=
  fun _ _ _ token _ hp => Text.prefix_before token.literal_one_line hp

namespace Bindings

theorem substituteFrom_append (bindings : Bindings) {front rest : List Char}
    (h : Apart bindings.Binds front rest) :
    bindings.substituteFrom 0 (front ++ rest) =
      bindings.substituteFrom 0 front ++ bindings.substituteFrom 0 rest := by
  induction front using Pieces.text_induction bindings.Binds with
  | nil => simp [substituteFrom]
  | token token tail hb ih =>
    rw [List.append_assoc, bindings.substituteFrom_token _ hb, bindings.substituteFrom_token _ hb,
      ih (h.suffix (List.suffix_append _ _)), List.append_assoc]
  | char c tail hn ih =>
    have hn' : ¬ Begins bindings.Binds (c :: (tail ++ rest)) := by
      rintro ⟨token, hb, hp⟩
      exact hn ⟨token, hb, h (c :: tail) List.suffix_rfl (List.cons_ne_nil c tail) token hb hp⟩
    rw [List.cons_append, bindings.substituteFrom_char hn', bindings.substituteFrom_char hn,
      ih (h.suffix (List.suffix_cons c tail)), List.cons_append]

theorem substituteFrom_line (bindings : Bindings) (line rest : List Char) :
    bindings.substituteFrom 0 (line ++ '\n' :: rest) =
      bindings.substituteFrom 0 line ++ '\n' :: bindings.substituteFrom 0 rest := by
  have hn : ¬ Begins bindings.Binds ('\n' :: rest) := fun h => absurd h.sigil (by decide)
  rw [bindings.substituteFrom_append (apart_newline _ line rest), bindings.substituteFrom_char hn]

theorem substitute_append (bindings : Bindings) {front rest : String}
    (h : ¬ Straddles bindings.Binds front.toList rest.toList) :
    bindings.substitute (front ++ rest) =
      bindings.substitute front ++ bindings.substitute rest := by
  apply String.toList_injective
  simp only [substitute, String.toList_append, String.toList_ofList]
  exact bindings.substituteFrom_append (apart_iff.mpr h)

theorem substituteFrom_join (bindings : Bindings) (lines : List (List Char)) :
    bindings.substituteFrom 0 (['\n'].intercalate lines) =
      ['\n'].intercalate (lines.map (bindings.substituteFrom 0)) := by
  induction lines with
  | nil => rfl
  | cons line rest ih =>
    cases rest with
    | nil => simp
    | cons next rest =>
      rw [List.intercalate_cons_cons, List.append_assoc, List.singleton_append,
        bindings.substituteFrom_line, ih]
      simp [List.intercalate_cons_cons]

/-- Lines of any number, with line ends between them only. -/
theorem substitute_join (bindings : Bindings) (lines : List String) :
    bindings.substitute ("\n".intercalate lines) =
      "\n".intercalate (lines.map bindings.substitute) := by
  have htext (text : String) :
      (bindings.substitute text).toList = bindings.substituteFrom 0 text.toList := by
    rw [substitute, String.toList_ofList]
  have hnewline : "\n".toList = ['\n'] := rfl
  apply String.toList_injective
  rw [htext, String.toList_intercalate, String.toList_intercalate, hnewline, substituteFrom_join,
    List.map_map, List.map_map]
  apply congrArg
  apply List.map_congr_left
  intro line _
  exact (htext line).symm

/-- A template is substituted into in two parts if no bound token reaches over the cut. No token
reaches over the end of a line, so the lines of a template are substituted into one by one, and to
put something else in the place of one of them changes nothing in what becomes of the others. -/
theorem substitute_line_by_line (bindings : Bindings) :
    (∀ front rest : String, ¬ Straddles bindings.Binds front.toList rest.toList →
      bindings.substitute (front ++ rest) =
        bindings.substitute front ++ bindings.substitute rest) ∧
    (∀ token : Token, '\n' ∉ token.literal.toList) ∧
    ∀ template : String,
      let lines := Text.splitOn '\n' template
      bindings.substitute template = "\n".intercalate (lines.map bindings.substitute) ∧
      ∀ (place : Nat) (line : String),
        bindings.substitute ("\n".intercalate (lines.set place line)) =
          "\n".intercalate
            ((lines.map bindings.substitute).set place (bindings.substitute line)) := by
  refine ⟨fun front rest h => bindings.substitute_append h, Token.literal_one_line, ?_⟩
  intro template lines
  have hlines : "\n".intercalate lines = template := by
    apply String.toList_injective
    simp [lines, Text.splitOn, Function.comp_def]
  constructor
  · rw [← bindings.substitute_join, hlines]
  · intro place line
    rw [bindings.substitute_join, List.map_set]

/-- The token that reaches over the cut has no value, and the others lie before and behind it. -/
theorem substitute_line_by_line_unbound :
    let bindings := (({} : Bindings).bind .className "Post").bind .tableName "posts"
    ¬ Straddles bindings.Binds "__CLASS_NAME_".toList "IVAR_NAME__DB_TABLE_NAME_".toList ∧
      bindings.substitute ("__CLASS_NAME_" ++ "IVAR_NAME__DB_TABLE_NAME_") =
        bindings.substitute "__CLASS_NAME_" ++ bindings.substitute "IVAR_NAME__DB_TABLE_NAME_" := by
  intro bindings
  have h : ¬ Straddles bindings.Binds "__CLASS_NAME_".toList "IVAR_NAME__DB_TABLE_NAME_".toList :=
    apart_iff.mp (by decide +kernel)
  exact ⟨h, (substitute_line_by_line bindings).1 _ _ h⟩

end Bindings

theorem toList_ofLines (lines : List String) :
    (ofLines lines).toList = lines.flatMap fun line => line.toList ++ ['\n'] := by
  simp [ofLines, String.toList_join, List.flatMap_map]

theorem ofLines_append (front rest : List String) :
    ofLines (front ++ rest) = ofLines front ++ ofLines rest := by
  simp [ofLines, String.join_append]

/-- A template may be substituted into line by line. -/
theorem substitute_ofLines (bindings : Bindings) (lines : List String) :
    bindings.substitute (ofLines lines) = ofLines (lines.map bindings.substitute) := by
  apply String.toList_injective
  rw [Bindings.substitute, String.toList_ofList, toList_ofLines, toList_ofLines]
  induction lines with
  | nil => rfl
  | cons line rest ih =>
    rw [List.flatMap_cons, List.append_assoc, List.singleton_append,
      bindings.substituteFrom_line, ih]
    simp [Bindings.substitute]

end EntityScaffold.Template
