import EntityScaffold.Proofs.Settings.Sections

/-!
Documents that differ in nothing but the order of their keys. What is wrong with them, and what they
give, is the same.
-/

namespace EntityScaffold.Settings
open Toml

/-- Two values that say the same. Their tables may have the keys in another order, and may have come
to be in another way; the keys and values may stand elsewhere in the text. -/
inductive Reordered : Value → Value → Prop where
  | scalar {value : Value} (scalar : value.isScalar) : Reordered value value
  | list {value other : Value} {items others : List (Span × Value)}
      (elements : elements value = some items) (again : Settings.elements other = some others)
      (length : items.length = others.length)
      (within : ∀ (position : Nat) (item another : Span × Value), items[position]? = some item →
        others[position]? = some another → Reordered item.2 another.2) : Reordered value other
  | table {standing standing' : Standing} {entries others : List Entry}
      (keys : (keyNames entries).Perm (keyNames others))
      (within : ∀ entry ∈ entries, ∀ other ∈ others, entry.1.name = other.1.name →
        Reordered entry.2.2 other.2.2) :
    Reordered (.table standing entries) (.table standing' others)

theorem mem_of_keys {entries others : List Entry} (h : (keyNames entries).Perm (keyNames others))
    {entry : Entry} (hm : entry ∈ entries) : ∃ other ∈ others, other.1.name = entry.1.name :=
  List.mem_map.mp (h.mem_iff.mp (List.mem_map_of_mem hm))

/-- A key is in both tables or in none. -/
theorem find?_of_keys {entries others : List Entry}
    (h : (keyNames entries).Perm (keyNames others)) (name : String) :
    (find? entries name = none ∧ find? others name = none) ∨
    ∃ entry ∈ entries, ∃ other ∈ others, entry.1.name = other.1.name ∧
      find? entries name = some entry ∧ find? others name = some other := by
  cases he : find? entries name with
  | none =>
    cases ho : find? others name with
    | none => exact .inl ⟨rfl, rfl⟩
    | some other =>
      obtain ⟨hm, hname⟩ := mem_of_find? ho
      obtain ⟨entry, hentry, hsame⟩ := mem_of_keys h.symm hm
      exact absurd (hsame.trans hname) (ne_of_find? he entry hentry)
  | some entry =>
    obtain ⟨hm, hname⟩ := mem_of_find? he
    obtain ⟨other, hother, hsame⟩ := mem_of_keys h hm
    cases ho : find? others name with
    | none => exact absurd (hsame.trans hname) (ne_of_find? ho other hother)
    | some another =>
      obtain ⟨hm', hname'⟩ := mem_of_find? ho
      exact .inr ⟨entry, hm, another, hm', hname.trans hname'.symm, rfl, rfl⟩

namespace Reordered

variable {value other : Value}

theorem symm (h : Reordered value other) : Reordered other value := by
  induction h with
  | scalar scalar => exact .scalar scalar
  | list elements again length _ ih =>
    exact .list again elements length.symm fun position item another hi ha => ih _ _ _ ha hi
  | table keys _ ih =>
    exact .table keys.symm fun entry he another ha hname => ih another ha entry he hname.symm

theorem text?_eq (h : Reordered value other) : value.text? = other.text? := by
  have hlist {value : Value} {items : List (Span × Value)} (he : elements value = some items) :
      value.text? = none := by
    cases value with
    | string => cases he
    | _ => rfl
  cases h with
  | scalar => rfl
  | list elements again => rw [hlist elements, hlist again]
  | table => rfl

theorem kindMessage_eq (h : Reordered value other) (wanted : String) :
    kindMessage value wanted = kindMessage other wanted := by
  have hlist {value : Value} {items : List (Span × Value)} (he : elements value = some items) :
      kindMessage value wanted = "invalid type: sequence, expected " ++ wanted := by
    cases value with
    | array => rfl
    | tables => rfl
    | _ => cases he
  cases h with
  | scalar => rfl
  | list elements again => rw [hlist elements, hlist again]
  | table => rfl

/-- A setting is given the same text. -/
theorem setting?_text (h : Reordered value other) (position : Nat) (name : String) :
    (setting? position name value).bind Value.text? =
      (setting? position name other).bind Value.text? := by
  cases h with
  | scalar => rfl
  | @list _ _ items others elements again length within =>
    rw [setting?_of_elements elements, setting?_of_elements again]
    cases hi : items[position]? with
    | none =>
      rw [List.getElem?_eq_none_iff, length, ← List.getElem?_eq_none_iff] at hi
      rw [hi]
    | some item =>
      have hlt := (List.getElem?_eq_some_iff.mp hi).1
      rw [length] at hlt
      have ha := List.getElem?_eq_getElem hlt
      rw [ha]
      exact (within _ _ _ hi ha).text?_eq
  | table keys within =>
    rw [setting?, setting?]
    rcases find?_of_keys keys name with ⟨he, ho⟩ | ⟨entry, hm, another, hm', hname, he, ho⟩
    · rw [he, ho]
    · rw [he, ho]
      exact (within _ hm _ hm' hname).text?_eq

/-- The same is wrong in the same places. -/
theorem offends {shape : Shape} {span : Span} {place : Place} {problem : Problem}
    (h : Reordered value other) (ho : shape.Offends span value place problem) (spot : Span) :
    ∃ another, shape.Offends spot other place another ∧ another.detail? = problem.detail? := by
  cases h with
  | scalar scalar =>
    cases ho with
    | kind _ hm => exact ⟨_, .kind scalar hm, rfl⟩
    | moment => exact ⟨_, .moment, rfl⟩
    | key => cases scalar
    | setting => cases scalar
    | element he => rw [elements_scalar scalar] at he; cases he
  | @list _ _ items others elements again length within =>
    cases ho with
    | kind scalar => rw [elements_scalar scalar] at elements; cases elements
    | moment => cases elements
    | key => cases elements
    | setting => cases elements
    | @element _ _ position item field he hi hf hn =>
      cases Option.some.inj (elements.symm.trans he)
      have hlt := (List.getElem?_eq_some_iff.mp hi).1
      rw [length] at hlt
      have ha := List.getElem?_eq_getElem hlt
      have hsame := within _ _ _ hi ha
      refine ⟨_, .element again ha hf (hsame.text?_eq ▸ hn), ?_⟩
      exact congrArg some (hsame.kindMessage_eq _).symm
  | table keys within =>
    cases ho with
    | kind scalar => cases scalar
    | @key _ _ entry mem unknown =>
      obtain ⟨another, hm, hname⟩ := mem_of_keys keys mem
      rw [← hname] at unknown ⊢
      exact ⟨_, .key hm unknown, rfl⟩
    | @setting _ _ entry wanted mem known hn =>
      obtain ⟨another, hm, hname⟩ := mem_of_keys keys mem
      have hsame := within _ mem _ hm hname.symm
      rw [← hname] at known ⊢
      refine ⟨_, .setting hm known (hsame.text?_eq ▸ hn), ?_⟩
      exact congrArg some (hsame.kindMessage_eq _).symm
    | element he => cases he

end Reordered

end EntityScaffold.Settings
