import EntityScaffold.Scaffold
import EntityScaffold.Proofs.Text.Joined

/-!
Reading a request takes its words apart into fields and ignored words. Both keep their order and
their spelling, so the request can be written down again, in as many ways as the two can be merged.
-/

namespace EntityScaffold

/-- Two lists merged into a third one, where each of them keeps its order. -/
inductive Interleaving {α : Type} : List α → List α → List α → Prop where
  | nil : Interleaving [] [] []
  | left {xs ys zs : List α} (x : α) (rest : Interleaving xs ys zs) :
    Interleaving (x :: xs) ys (x :: zs)
  | right {xs ys zs : List α} (y : α) (rest : Interleaving xs ys zs) :
    Interleaving xs (y :: ys) (y :: zs)

namespace Interleaving

variable {α β : Type} {xs ys zs : List α}

/-- A list is merged from what a test accepts and what it refuses. -/
theorem of_filter (p : α → Bool) (zs : List α) :
    Interleaving (zs.filter p) (zs.filter fun z => !p z) zs := by
  induction zs with
  | nil => exact .nil
  | cons z zs ih =>
    cases hz : p z with
    | true =>
      simp only [List.filter_cons, hz, Bool.not_true, Bool.false_eq_true, if_true, if_false]
      exact .left z ih
    | false =>
      simp only [List.filter_cons, hz, Bool.not_false, Bool.false_eq_true, if_true, if_false]
      exact .right z ih

/-- What takes nothing of the second list takes the same from the merged one as from the first. -/
theorem filterMap_left (h : Interleaving xs ys zs) {f : α → Option β}
    (hy : ∀ y ∈ ys, f y = none) : zs.filterMap f = xs.filterMap f := by
  induction h with
  | nil => rfl
  | left x _ ih => rw [List.filterMap_cons, List.filterMap_cons, ih hy]
  | right y _ ih =>
    rw [List.filterMap_cons, hy y List.mem_cons_self]
    exact ih fun z hz => hy z (List.mem_cons_of_mem y hz)

theorem filter_right (h : Interleaving xs ys zs) {p : α → Bool} (hx : ∀ x ∈ xs, p x = false)
    (hy : ∀ y ∈ ys, p y = true) : zs.filter p = ys := by
  induction h with
  | nil => rfl
  | left x _ ih =>
    rw [List.filter_cons_of_neg (by simp [hx x List.mem_cons_self])]
    exact ih (fun z hz => hx z (List.mem_cons_of_mem x hz)) hy
  | right y _ ih =>
    rw [List.filter_cons_of_pos (hy y List.mem_cons_self),
      ih hx fun z hz => hy z (List.mem_cons_of_mem y hz)]

end Interleaving

namespace Field

theorem parse?_eq_none_iff {token : String} : parse? token = none ↔ ':' ∉ token.toList := by
  unfold parse?
  constructor
  · intro h hc
    split at h
    · next hd =>
      have hall := List.dropWhile_eq_nil_iff.mp hd ':' hc
      simp at hall
    · cases h
  · intro h
    rw [(Text.not_cut h).2]

/-- Names and types that a declaration is cut into at its first colon. -/
theorem cut_text {field : Field} (h : ':' ∉ field.name.toList) :
    field.text.toList.takeWhile (· ≠ ':') = field.name.toList ∧
      field.text.toList.dropWhile (· ≠ ':') = ':' :: field.type.toList := by
  have htext : field.text.toList = field.name.toList ++ ':' :: field.type.toList := by
    simp [text]
  rw [htext]
  exact Text.cut_at_mark h _

/-- A declaration is read as a field if the field is written like it. -/
theorem parse?_eq_some_iff {token : String} {field : Field} :
    parse? token = some field ↔ field.text = token ∧ ':' ∉ field.name.toList := by
  constructor
  · intro h
    unfold parse? at h
    split at h
    · cases h
    · next c type hd =>
      obtain rfl := Option.some.inj h
      have hc : c = ':' := by
        have hhead := List.head?_dropWhile_not (fun c => decide (c ≠ ':')) token.toList
        rw [hd] at hhead
        simpa using hhead
      constructor
      · apply String.toList_injective
        have hcut := List.takeWhile_append_dropWhile (p := fun c => decide (c ≠ ':'))
          (l := token.toList)
        rw [hd, hc] at hcut
        simpa [text] using hcut
      · rw [String.toList_ofList]
        intro hm
        have hne := List.mem_takeWhile_imp hm
        simp at hne
  · rintro ⟨rfl, h⟩
    obtain ⟨hname, htype⟩ := cut_text h
    unfold parse?
    rw [htype]
    dsimp only
    rw [hname, String.ofList_toList, String.ofList_toList]

theorem isSome_parse?_iff {token : String} : (parse? token).isSome ↔ ':' ∈ token.toList := by
  rw [← not_iff_not, ← parse?_eq_none_iff, Option.not_isSome_iff_eq_none]

end Field

namespace Request

theorem ofArgs_cons {name : String} (h : name ≠ "") (words : List String) :
    ofArgs (name :: words) = .ok {
      entity := ⟨name⟩
      fields := words.filterMap Field.parse?
      ignored := words.filter fun token => !token.toList.contains ':' } := if_neg h

theorem ofArgs_error_iff {args : List String} :
    (∃ failure, ofArgs args = .error failure) ↔ args = [] ∨ args.head? = some "" := by
  cases args with
  | nil => simp [ofArgs]
  | cons name words =>
    by_cases h : name = ""
    · simp [ofArgs, h]
    · simp [ofArgs_cons h, h]

theorem ofArgs_error {args : List String} {failure : Failure}
    (h : ofArgs args = .error failure) : failure = .missingArgument "name" := by
  unfold ofArgs at h
  split at h
  · cases h
    rfl
  · split at h <;> cases h
    rfl

/-- The words that are read as fields, as the fields are written. -/
theorem map_text_fields (words : List String) :
    (words.filterMap Field.parse?).map Field.text =
      words.filter fun token => token.toList.contains ':' := by
  induction words with
  | nil => rfl
  | cons word rest ih =>
    cases hp : Field.parse? word with
    | none =>
      have hn := Field.parse?_eq_none_iff.mp hp
      rw [List.filterMap_cons, hp, List.filter_cons_of_neg (by simpa using hn)]
      exact ih
    | some field =>
      have hc : ':' ∈ word.toList := Field.isSome_parse?_iff.mp (by rw [hp]; rfl)
      obtain ⟨ht, -⟩ := Field.parse?_eq_some_iff.mp hp
      rw [List.filterMap_cons, hp, List.filter_cons_of_pos (by simpa using hc), List.map_cons, ih,
        ht]

theorem filterMap_parse?_text {fields : List Field}
    (h : ∀ field ∈ fields, ':' ∉ field.name.toList) :
    (fields.map Field.text).filterMap Field.parse? = fields := by
  induction fields with
  | nil => rfl
  | cons field rest ih =>
    have hfield : Field.parse? field.text = some field :=
      Field.parse?_eq_some_iff.mpr ⟨rfl, h field List.mem_cons_self⟩
    rw [List.map_cons, List.filterMap_cons_some hfield,
      ih fun other ho => h other (List.mem_cons_of_mem field ho)]

/-- Fields that were written down are read again, whatever words without a colon stand between. -/
theorem filterMap_parse?_of_interleaving {fields : List Field} {ignored words : List String}
    (h : Interleaving (fields.map Field.text) ignored words)
    (hf : ∀ field ∈ fields, ':' ∉ field.name.toList)
    (hi : ∀ word ∈ ignored, ':' ∉ word.toList) : words.filterMap Field.parse? = fields := by
  rw [h.filterMap_left fun word hw => Field.parse?_eq_none_iff.mpr (hi word hw),
    filterMap_parse?_text hf]

theorem filter_of_interleaving {fields : List Field} {ignored words : List String}
    (h : Interleaving (fields.map Field.text) ignored words)
    (hi : ∀ word ∈ ignored, ':' ∉ word.toList) :
    (words.filter fun token => !token.toList.contains ':') = ignored := by
  apply h.filter_right
  · intro word hw
    obtain ⟨field, -, rfl⟩ := List.mem_map.mp hw
    simp [Field.text]
  · intro word hw
    simpa using hi word hw

/-- A request is refused only if it has no name. Otherwise its name stays as it is, and the words
behind the name are parted: those with a colon are the fields, each of them cut at its first colon,
and the others are ignored. Both keep their order, and from the name and any merging of both the
same request is read again. -/
theorem ofArgs_parts_words :
    (∀ args, (∃ failure, ofArgs args = .error failure) ↔ args = [] ∨ args.head? = some "") ∧
    (∀ args failure, ofArgs args = .error failure → failure = .missingArgument "name") ∧
    ∀ (name : String) (words : List String), name ≠ "" →
      ∃ request, ofArgs (name :: words) = .ok request ∧ request.entity.name = name ∧
        Interleaving (request.fields.map Field.text) request.ignored words ∧
        (∀ word ∈ words, (word ∈ request.fields.map Field.text ↔ ':' ∈ word.toList) ∧
          (word ∈ request.ignored ↔ ':' ∉ word.toList)) ∧
        (∀ field ∈ request.fields, ':' ∉ field.name.toList ∧
          field.text.toList.takeWhile (· ≠ ':') = field.name.toList ∧
          field.text.toList.dropWhile (· ≠ ':') = ':' :: field.type.toList) ∧
        ∀ again, Interleaving (request.fields.map Field.text) request.ignored again →
          ofArgs (request.entity.name :: again) = .ok request := by
  refine ⟨fun args => ofArgs_error_iff, fun args failure h => ofArgs_error h, ?_⟩
  intro name words hname
  have hfields : ∀ field ∈ words.filterMap Field.parse?, ':' ∉ field.name.toList := by
    intro field hf
    obtain ⟨word, -, hp⟩ := List.mem_filterMap.mp hf
    exact (Field.parse?_eq_some_iff.mp hp).2
  have hignored : ∀ word ∈ words.filter fun token => !token.toList.contains ':',
      ':' ∉ word.toList := by
    intro word hw
    simpa using (List.mem_filter.mp hw).2
  refine ⟨_, ofArgs_cons hname words, rfl, ?_, ?_, ?_, ?_⟩
  · rw [map_text_fields]
    exact .of_filter _ words
  · intro word hw
    rw [map_text_fields]
    simp [List.mem_filter, hw]
  · intro field hf
    exact ⟨hfields field hf, Field.cut_text (hfields field hf)⟩
  · intro again h
    dsimp only at h ⊢
    rw [ofArgs_cons hname, filterMap_parse?_of_interleaving h hfields hignored,
      filter_of_interleaving h hignored]

/-- Fields with several colons, without a name and without a type, and the words in another
order. -/
theorem ofArgs_parts_words_merged_anew :
    ∃ request, ofArgs ["Post", "tags:[Int:Int]", "plain", ":t", "", "n:"] = .ok request ∧
      request.ignored = ["plain", ""] ∧
      ofArgs ["Post", "plain", "tags:[Int:Int]", ":t", "n:", ""] = .ok request := by
  obtain ⟨request, hread, hname, -, -, -, hagain⟩ :=
    ofArgs_parts_words.2.2 "Post" ["tags:[Int:Int]", "plain", ":t", "", "n:"] (by decide)
  obtain rfl := Except.ok.inj (hread.symm.trans (ofArgs_cons (by decide) _))
  have hfields : (["tags:[Int:Int]", "plain", ":t", "", "n:"].filterMap Field.parse?).map
      Field.text = ["tags:[Int:Int]", ":t", "n:"] := by
    decide +kernel
  have hignored : (["tags:[Int:Int]", "plain", ":t", "", "n:"].filter
      fun token => !token.toList.contains ':') = ["plain", ""] := by
    decide +kernel
  refine ⟨_, hread, hignored, hagain ["plain", "tags:[Int:Int]", ":t", "n:", ""] ?_⟩
  dsimp only
  rw [hfields, hignored]
  exact .right _ (.left _ (.left _ (.left _ (.right _ .nil))))

end Request

end EntityScaffold
