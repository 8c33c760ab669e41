import EntityScaffold.Proofs.Settings.Form

/-!
Reading a section gives the first of the things that are wrong with it, and otherwise the settings
that it gives.
-/

namespace EntityScaffold.Settings
open Toml

namespace Finds

variable {σ : Type} {offends : Place → Problem → Prop} {problem : Problem}

/-- A value that is refused as a whole. -/
theorem here (h : ∀ place other, offends place other ↔ place = [] ∧ other = problem) :
    Finds offends (.error problem : Except Problem σ) := by
  refine .first ⟨(h [] _).mpr ⟨rfl, rfl⟩, ?_⟩
  intro place other ho
  exact .inl ((h _ _).mp ho)

end Finds

/-- A setting whose value is no string. -/
def FieldOffends (field : String × String) (span : Span) (value : Value) (place : Place)
    (problem : Problem) : Prop :=
  value.text? = none ∧ place = [] ∧ problem = .wrongKind value field.2 span

def Shape.EntryOffends (shape : Shape) (entry : Entry) (place : Place) (problem : Problem) : Prop :=
  (entry.1.name ∉ shape.names ∧ place = [] ∧
    problem = .unknownKey entry.1.name shape.names entry.1.span) ∨
  ∃ field ∈ shape.fields, field.1 = entry.1.name ∧
    FieldOffends field entry.2.1 entry.2.2 place problem

theorem elements_scalar {value : Value} (h : value.isScalar) : elements value = none := by
  cases value with
  | array => cases h
  | tables => cases h
  | _ => rfl

namespace Form

variable {shape : Shape} {σ : Type} {form : Form shape σ} {span : Span} {value : Value}

theorem readField_string {text : String} (h : value.text? = some text) (state : σ)
    (field : String × String) :
    form.readField state field span value = .ok (form.set state field.1 text) := by
  cases value with
  | string => cases h; rfl
  | _ => cases h

theorem readField_other (h : value.text? = none) (state : σ) (field : String × String) :
    form.readField state field span value = .error (.wrongKind value field.2 span) := by
  cases value with
  | string => cases h
  | _ => rfl

theorem readField_finds (state : σ) (field : String × String) :
    Finds (FieldOffends field span value) (form.readField state field span value) := by
  cases h : value.text? with
  | none =>
    rw [readField_other h]
    apply Finds.here
    intro place other
    simp [FieldOffends, h]
  | some text =>
    rw [readField_string h]
    apply Finds.clean
    rintro place problem ⟨hn, -⟩
    rw [h] at hn
    cases hn

theorem readElement_finds (form : Form shape σ) (state : σ)
    (element : (String × String) × (Span × Value)) :
    Finds (FieldOffends element.1 element.2.1 element.2.2) (form.readElement state element) :=
  readField_finds state element.1

theorem find?_field {name : String} {field : String × String}
    (h : shape.fields.find? (fun field => field.1 == name) = some field) :
    field ∈ shape.fields ∧ field.1 = name :=
  ⟨List.mem_of_find?_eq_some h, by simpa using List.find?_some h⟩

theorem find?_field_none {name : String}
    (h : shape.fields.find? (fun field => field.1 == name) = none) : name ∉ shape.names := by
  intro hm
  obtain ⟨field, hf, rfl⟩ := List.mem_map.mp hm
  simpa using List.find?_eq_none.mp h field hf

theorem readEntry_finds (state : σ) (entry : Entry) :
    Finds (shape.EntryOffends entry) (form.readEntry state entry) := by
  rw [readEntry]
  split
  · next field hf =>
    obtain ⟨hmem, hname⟩ := find?_field hf
    refine (readField_finds state field).congr fun place problem => ⟨fun h => ?_, ?_⟩
    · exact .inr ⟨field, hmem, hname, h⟩
    · rintro (⟨hunknown, -⟩ | ⟨other, ho, hother, h⟩)
      · exact absurd (hname ▸ List.mem_map_of_mem hmem) hunknown
      · rwa [← List.inj_on_of_nodup_map shape.distinct ho hmem (hother.trans hname.symm)]
  · next hf =>
    have hunknown := find?_field_none hf
    apply Finds.here
    intro place problem
    refine ⟨?_, fun h => .inl ⟨hunknown, h⟩⟩
    rintro (⟨-, h⟩ | ⟨field, hmem, hname, -⟩)
    · exact h
    · exact absurd (hname ▸ List.mem_map_of_mem hmem) hunknown

/-- The elements of an array with their positions are met in order. -/
theorem zipIdx_before {α : Type} (items : List α) :
    items.zipIdx.Pairwise fun a b => (Step.index a.2).Before (.index b.2) := by
  have h : (items.zipIdx.map Prod.snd).Pairwise (· < ·) := by
    rw [List.zipIdx_map_snd]
    exact List.pairwise_lt_range'
  exact (List.pairwise_map.mp h).imp fun less => .index less

theorem foldlM_zipIdx {α : Type} (f : σ → α → Except Problem σ) (items : List α) (state : σ) :
    items.foldlM f state = items.zipIdx.foldlM (fun state item => f state item.1) state := by
  conv_lhs => rw [← List.zipIdx_map_fst 0 items]
  rw [List.foldlM_map]

theorem readElements_finds {items : List (Span × Value)} (h : elements value = some items)
    (state : σ) :
    Finds (shape.Offends span value) ((shape.fields.zip items).foldlM form.readElement state) := by
  -- an element does not know its position, which is its step
  rw [foldlM_zipIdx]
  have hall := Finds.foldlM
    (fun state item (_ : item ∈ (shape.fields.zip items).zipIdx) =>
      form.readElement_finds state item.1)
    (zipIdx_before _) state
  refine hall.congr fun place problem => ⟨?_, fun ho => ?_⟩
  · rintro ⟨hm, hn, rfl, rfl⟩
    obtain ⟨hf, hi⟩ := List.getElem?_zip_eq_some.mp (List.mk_mem_zipIdx_iff_getElem?.mp hm)
    exact .element h hi hf hn
  · cases ho with
    | kind scalar => rw [elements_scalar scalar] at h; cases h
    | moment => cases h
    | key => cases h
    | setting => cases h
    | @element _ _ position item field he hi hf hn =>
      cases Option.some.inj (h.symm.trans he)
      have hz : (shape.fields.zip items)[position]? = some (field, item) :=
        List.getElem?_zip_eq_some.mpr ⟨hf, hi⟩
      exact ⟨List.mk_mem_zipIdx_iff_getElem?.mpr hz, hn, rfl, rfl⟩

theorem readEntries_finds {standing : Standing} {entries : List Entry}
    (h : (keyNames entries).Nodup) (state : σ) :
    Finds (shape.Offends span (.table standing entries))
      ((inOrder entries).foldlM form.readEntry state) := by
  have hall := Finds.foldlM (fun state entry _ => form.readEntry_finds state entry)
    (inOrder_before h) state
  refine hall.congr fun place problem => ⟨?_, fun ho => ?_⟩
  · rintro ⟨hm, ho⟩
    rw [(inOrder_perm entries).mem_iff] at hm
    rcases ho with ⟨hu, rfl, rfl⟩ | ⟨field, hf, hname, hn, rfl, rfl⟩
    · exact .key hm hu
    · exact .setting hm (hname ▸ hf) hn
  · cases ho with
    | kind scalar => cases scalar
    | key mem unknown =>
      exact ⟨(inOrder_perm entries).mem_iff.mpr mem, .inl ⟨unknown, rfl, rfl⟩⟩
    | setting mem known other =>
      exact ⟨(inOrder_perm entries).mem_iff.mpr mem, .inr ⟨_, known, rfl, other, rfl, rfl⟩⟩
    | element he => cases he

theorem whole_finds (hs : value.isScalar) (hm : value ≠ .moment) :
    Finds (shape.Offends span value)
      (.error (.wrongKind value shape.title span) : Except Problem σ) := by
  apply Finds.here
  intro place problem
  refine ⟨fun ho => ?_, ?_⟩
  · cases ho with
    | kind => exact ⟨rfl, rfl⟩
    | moment => cases hm rfl
    | key => cases hs
    | setting => cases hs
    | element he => rw [elements_scalar hs] at he; cases he
  · rintro ⟨rfl, rfl⟩
    exact .kind hs hm

theorem moment_finds :
    Finds (shape.Offends span .moment)
      (.error (.unknownKey momentKey shape.names span) : Except Problem σ) := by
  apply Finds.here
  intro place problem
  refine ⟨fun ho => ?_, ?_⟩
  · cases ho with
    | kind _ hm => cases hm rfl
    | moment => exact ⟨rfl, rfl⟩
    | element he => cases he
  · rintro ⟨rfl, rfl⟩
    exact .moment

/-- Reading a section gives the first of the things that are wrong with it. -/
theorem read_finds (form : Form shape σ) (span : Span) (h : value.Distinct) :
    Finds (shape.Offends span value) (form.read span value) := by
  cases value with
  | table standing entries => exact readEntries_finds (distinct_table_iff.mp h).keys _
  | array items => exact readElements_finds rfl _
  | tables items => exact readElements_finds rfl _
  | moment => exact moment_finds
  | _ => exact whole_finds rfl (by simp)

end Form

/-! ### What fits -/

theorem exists_string_iff {value : Value} :
    (∃ text, value = .string text) ↔ value.text? ≠ none := by
  cases value <;> simp [Value.text?]

namespace Shape

variable {shape : Shape} {span : Span} {value : Value}

theorem Offends.not_fits {place : Place} {problem : Problem}
    (ho : shape.Offends span value place problem) : ¬ Fits shape.names value := by
  intro h
  cases h with
  | table keys strings =>
    cases ho with
    | kind scalar => cases scalar
    | key mem unknown => exact unknown (keys _ mem)
    | setting mem _ other => exact exists_string_iff.mp (strings _ mem) other
    | element he => cases he
  | list elements strings =>
    cases ho with
    | kind scalar => rw [elements_scalar scalar] at elements; cases elements
    | moment => cases elements
    | key => cases elements
    | setting => cases elements
    | element he hi hf hn =>
      cases Option.some.inj (elements.symm.trans he)
      have hlt := (List.getElem?_eq_some_iff.mp hf).1
      have hmem := List.mem_of_getElem? ((List.getElem?_take_of_lt hlt).trans hi)
      refine exists_string_iff.mp (strings _ ?_) hn
      rwa [names, List.length_map]

theorem fits_table {standing : Standing} {entries : List Entry}
    (hnone : ∀ place problem, ¬ shape.Offends span (.table standing entries) place problem) :
    Fits shape.names (.table standing entries) := by
  have hknown : ∀ entry ∈ entries, entry.1.name ∈ shape.names := fun entry hm =>
    by_contra fun unknown => hnone _ _ (.key hm unknown)
  refine .table hknown fun entry hm => exists_string_iff.mpr fun hn => ?_
  obtain ⟨⟨name, wanted⟩, hf, hname⟩ := List.mem_map.mp (hknown entry hm)
  cases hname
  exact hnone _ _ (.setting hm hf hn)

theorem fits_list {items : List (Span × Value)} (he : elements value = some items)
    (hnone : ∀ place problem, ¬ shape.Offends span value place problem) :
    Fits shape.names value := by
  refine .list he fun item hm => exists_string_iff.mpr fun hn => ?_
  obtain ⟨position, hp⟩ := List.mem_iff_getElem?.mp hm
  have hlt : position < shape.fields.length := by
    have hlength := (List.getElem?_eq_some_iff.mp hp).1
    rw [List.length_take, names, List.length_map] at hlength
    omega
  rw [names, List.length_map, List.getElem?_take_of_lt hlt] at hp
  exact hnone _ _ (.element he hp (List.getElem?_eq_getElem hlt) hn)

theorem fits_iff (shape : Shape) (span : Span) (value : Value) :
    Fits shape.names value ↔ ∀ place problem, ¬ shape.Offends span value place problem := by
  refine ⟨fun h place problem ho => ho.not_fits h, fun hnone => ?_⟩
  cases value with
  | table standing entries => exact fits_table hnone
  | array items => exact fits_list rfl hnone
  | tables items => exact fits_list rfl hnone
  | moment => exact absurd .moment (hnone _ _)
  | _ => exact absurd (.kind rfl (by simp)) (hnone _ _)

end Shape

/-! ### What is given -/

section Fold

variable {σ α β : Type} {read : σ → α → Except Problem σ} {items : List α} {state result : σ}

theorem exists_of_bind_ok {γ : Type} {first : Except Problem σ} {next : σ → Except Problem γ}
    {last : γ} (h : (first >>= next) = .ok last) : ∃ after, first = .ok after ∧
      next after = .ok last := by
  cases first with
  | error => cases h
  | ok after => exact ⟨after, rfl, h⟩

theorem exists_of_map_ok {γ : Type} {made : Except Problem σ} {f : σ → γ} {last : γ}
    (h : made.map f = .ok last) : ∃ value, made = .ok value ∧ f value = last := by
  cases made with
  | error => cases h
  | ok value => exact ⟨value, rfl, Except.ok.inj h⟩

/-- What no item changes stays as it was. -/
theorem get_foldlM (get : σ → β)
    (hkeeps : ∀ item ∈ items, ∀ state after, read state item = .ok after → get after = get state)
    (h : items.foldlM read state = .ok result) : get result = get state := by
  induction items generalizing state with
  | nil => cases h; rfl
  | cons item items ih =>
    rw [List.foldlM_cons] at h
    obtain ⟨after, hread, h⟩ := exists_of_bind_ok h
    rw [ih (fun other hm => hkeeps other (List.mem_cons_of_mem _ hm)) h]
    exact hkeeps item List.mem_cons_self _ _ hread

/-- What only one item sets is in the end what that item sets. -/
theorem get_foldlM_of_mem (get : σ → β) {item : α} {shown : β} {apart : α → α → Prop}
    (hm : item ∈ items) (ha : items.Pairwise apart)
    (hshows : ∀ state after, read state item = .ok after → get after = shown)
    (hkeeps : ∀ other ∈ items, apart item other → ∀ state after, read state other = .ok after →
      get after = get state)
    (h : items.foldlM read state = .ok result) : get result = shown := by
  obtain ⟨front, back, rfl⟩ := List.append_of_mem hm
  have hback := (List.pairwise_cons.mp (List.pairwise_append.mp ha).2.1).1
  rw [List.foldlM_append] at h
  obtain ⟨before, -, h⟩ := exists_of_bind_ok h
  rw [List.foldlM_cons] at h
  obtain ⟨after, hread, h⟩ := exists_of_bind_ok h
  rw [get_foldlM get (fun other ho => hkeeps other (by simp [ho]) (hback other ho)) h]
  exact hshows _ _ hread

end Fold

/-- The value given for a setting: under its name in a table, at its position in an array. -/
def setting? (position : Nat) (name : String) : Value → Option Value
  | .table _ entries => (find? entries name).map fun entry => entry.2.2
  | value => (elements value).bind fun items => items[position]?.map Prod.snd

theorem setting?_of_elements {value : Value} {items : List (Span × Value)}
    (h : elements value = some items) (position : Nat) (name : String) :
    setting? position name value = items[position]?.map Prod.snd := by
  cases value with
  | array => cases h; rfl
  | tables => cases h; rfl
  | _ => cases h

theorem Shape.position_unique (shape : Shape) {i j : Nat} {field other : String × String}
    (hf : shape.fields[i]? = some field) (ho : shape.fields[j]? = some other)
    (h : field.1 = other.1) : i = j := by
  have hlt := (List.getElem?_eq_some_iff.mp hf).1
  apply (List.getElem?_inj (by rwa [List.length_map]) shape.distinct).mp
  rw [List.getElem?_map, List.getElem?_map, hf, ho, Option.map_some, Option.map_some, h]

namespace Form

variable {shape : Shape} {σ : Type} {form : Form shape σ} {state after result : σ}
  {field : String × String} {entry : Entry} {span : Span} {value : Value}

theorem readField_ok (h : form.readField state field span value = .ok after) :
    ∃ text, value.text? = some text ∧ after = form.set state field.1 text := by
  cases ht : value.text? with
  | none =>
    rw [readField_other ht] at h
    cases h
  | some text =>
    rw [readField_string ht] at h
    cases h
    exact ⟨text, rfl, rfl⟩

/-- A value that was read is a text, so nothing stands in for it. -/
theorem readField_get (hm : field ∈ shape.fields)
    (h : form.readField state field span value = .ok after) (other : Option String) :
    form.get after field.1 = value.text?.or other := by
  obtain ⟨text, ht, rfl⟩ := readField_ok h
  rw [ht, form.get_set (List.mem_map_of_mem hm)]
  rfl

theorem readField_get_of_ne (hm : field ∈ shape.fields) {name : String} (hne : name ≠ field.1)
    (h : form.readField state field span value = .ok after) :
    form.get after name = form.get state name := by
  obtain ⟨text, -, rfl⟩ := readField_ok h
  exact form.get_set_of_ne (List.mem_map_of_mem hm) hne _ _

theorem readEntry_ok (h : form.readEntry state entry = .ok after) :
    ∃ field ∈ shape.fields, field.1 = entry.1.name ∧
      form.readField state field entry.2.1 entry.2.2 = .ok after := by
  rw [readEntry] at h
  split at h
  · next field hf =>
    obtain ⟨hm, hname⟩ := find?_field hf
    exact ⟨field, hm, hname, h⟩
  · cases h

/-- The text of an element is set for the field at its position. -/
theorem readElements_get {position : Nat} (hf : shape.fields[position]? = some field)
    {items : List (Span × Value)}
    (h : (shape.fields.zip items).foldlM form.readElement state = .ok result) :
    form.get result field.1 =
      ((items[position]?.map Prod.snd).bind Value.text?).or (form.get state field.1) := by
  rw [foldlM_zipIdx] at h
  have hkeeps : ∀ element ∈ (shape.fields.zip items).zipIdx, position ≠ element.2 →
      ∀ state after, form.readElement state element.1 = .ok after →
        form.get after field.1 = form.get state field.1 := by
    intro element hm hne state after hr
    obtain ⟨hg, -⟩ := List.getElem?_zip_eq_some.mp (List.mk_mem_zipIdx_iff_getElem?.mp hm)
    refine readField_get_of_ne (List.mem_of_getElem? hg) (fun hname => hne ?_) hr
    exact shape.position_unique hf hg hname
  cases hi : items[position]? with
  | none =>
    refine get_foldlM (form.get · field.1) (fun element hm => hkeeps element hm ?_) h
    rintro rfl
    have hz := List.getElem?_zip_eq_some.mp (List.mk_mem_zipIdx_iff_getElem?.mp hm)
    rw [hz.2] at hi
    cases hi
  | some item =>
    have hz : (shape.fields.zip items)[position]? = some (field, item) :=
      List.getElem?_zip_eq_some.mpr ⟨hf, hi⟩
    have hapart : (shape.fields.zip items).zipIdx.Pairwise fun a b => a.2 ≠ b.2 :=
      (zipIdx_before _).imp fun before hsame => before.ne (congrArg Step.index hsame)
    exact get_foldlM_of_mem (form.get · field.1) (List.mk_mem_zipIdx_iff_getElem?.mpr hz) hapart
      (fun _ _ hr => readField_get (List.mem_of_getElem? hf) hr _) hkeeps h

/-- The text under a field's name is set for that field. -/
theorem readEntries_get {entries : List Entry} (hd : (keyNames entries).Nodup) {name : String}
    (h : (inOrder entries).foldlM form.readEntry state = .ok result) :
    form.get result name =
      (((find? entries name).map fun entry => entry.2.2).bind Value.text?).or
        (form.get state name) := by
  have hkeeps : ∀ entry ∈ inOrder entries, name ≠ entry.1.name →
      ∀ state after, form.readEntry state entry = .ok after →
        form.get after name = form.get state name := by
    intro entry hm hne state after hr
    obtain ⟨other, ho, hname, hr⟩ := readEntry_ok hr
    exact readField_get_of_ne ho (hname ▸ hne) hr
  cases hfind : find? entries name with
  | none =>
    refine get_foldlM (form.get · name) (fun entry hm => hkeeps entry hm fun hname => ?_) h
    exact ne_of_find? hfind entry ((inOrder_perm entries).mem_iff.mp hm) hname.symm
  | some entry =>
    obtain ⟨hm, hname⟩ := mem_of_find? hfind
    refine get_foldlM_of_mem (form.get · name) ((inOrder_perm entries).mem_iff.mpr hm)
      (inOrder_apart hd) (fun state after hr => ?_)
      (fun other ho hne => hkeeps other ho (hname ▸ hne)) h
    obtain ⟨other, ho, hsame, hr⟩ := readEntry_ok hr
    rw [← hname, ← hsame]
    exact readField_get ho hr _

/-- A setting that is given has its text, the others keep what they had. -/
theorem read_get (hd : value.Distinct) {position : Nat}
    (hf : shape.fields[position]? = some field) (h : form.read span value = .ok result) :
    form.get result field.1 =
      ((setting? position field.1 value).bind Value.text?).or (form.get form.initial field.1) := by
  cases value with
  | table standing entries => exact readEntries_get (distinct_table_iff.mp hd).keys h
  | array items => exact readElements_get hf h
  | tables items => exact readElements_get hf h
  | _ => cases h

end Form

end EntityScaffold.Settings
