import Mathlib.Tactic.SplitIfs
import EntityScaffold.Toml.Document

/-!
No key is given twice in a document that was read, in no table of it, however deep.
-/

namespace EntityScaffold.Toml

/-- A value that holds no others. -/
def Value.isScalar : Value → Bool
  | .array _ | .tables _ | .table _ _ => false
  | _ => true

def keyNames (entries : List Entry) : List String := entries.map fun entry => entry.1.name

theorem mem_of_find? {entries : List Entry} {name : String} {entry : Entry}
    (h : find? entries name = some entry) : entry ∈ entries ∧ entry.1.name = name :=
  ⟨List.mem_of_find?_eq_some h, by simpa using List.find?_some h⟩

theorem ne_of_find? {entries : List Entry} {name : String} (h : find? entries name = none) :
    ∀ entry ∈ entries, entry.1.name ≠ name := by
  simpa [find?] using h

/-- The keys of every table in a value are distinct. -/
inductive Value.Distinct : Value → Prop where
  | scalar {value : Value} (scalar : value.isScalar) : Distinct value
  | array {items : List (Span × Value)} (within : ∀ item ∈ items, Distinct item.2) :
    Distinct (.array items)
  | tables {items : List (Span × List Entry)}
      (within : ∀ item ∈ items, Distinct (.table .declared item.2)) : Distinct (.tables items)
  | table {standing : Standing} {entries : List Entry} (keys : (keyNames entries).Nodup)
      (within : ∀ entry ∈ entries, Distinct entry.2.2) : Distinct (.table standing entries)

/-- The keys of a table, and of every table in it, are distinct. -/
structure DistinctKeys (entries : List Entry) : Prop where
  keys : (keyNames entries).Nodup
  within : ∀ entry ∈ entries, entry.2.2.Distinct

theorem distinct_table_iff {standing : Standing} {entries : List Entry} :
    (Value.table standing entries).Distinct ↔ DistinctKeys entries := by
  constructor
  · intro h
    cases h with
    | scalar scalar => cases scalar
    | table keys within => exact ⟨keys, within⟩
  · exact fun h => .table h.keys h.within

namespace DistinctKeys

variable {entries after : List Entry} {key : Key} {span : Span} {value : Value}

theorem empty : DistinctKeys [] := ⟨List.nodup_nil, by simp⟩

theorem add (h : DistinctKeys entries) (hn : find? entries key.name = none)
    (hv : value.Distinct) : DistinctKeys (entries ++ [(key, span, value)]) := by
  refine ⟨?_, ?_⟩
  · rw [keyNames, List.map_append, List.nodup_append]
    refine ⟨h.keys, by simp, ?_⟩
    rintro name hm other ho rfl
    obtain ⟨entry, he, rfl⟩ := List.mem_map.mp hm
    exact ne_of_find? hn entry he (by simpa using ho)
  · intro entry he
    rcases List.mem_append.mp he with he | he
    · exact h.within entry he
    · rw [List.mem_singleton.mp he]
      exact hv

theorem replace (h : DistinctKeys entries) (hv : value.Distinct) :
    DistinctKeys (replaceEntry entries (key, span, value)) := by
  refine ⟨?_, ?_⟩
  · have hkeys : keyNames (replaceEntry entries (key, span, value)) = keyNames entries := by
      rw [keyNames, replaceEntry, List.map_map]
      apply List.map_congr_left
      intro old _
      by_cases hk : old.1.name = key.name <;> simp [hk]
    rw [hkeys]
    exact h.keys
  · intro entry he
    obtain ⟨old, ho, rfl⟩ := List.mem_map.mp he
    split
    · exact hv
    · exact h.within old ho

theorem found (h : DistinctKeys entries) {name : String} {entry : Entry}
    (hf : find? entries name = some entry) : entry.2.2.Distinct :=
  h.within entry (mem_of_find? hf).1

/-- What is done at the end of a path of keys leaves all tables on the way with distinct keys. -/
theorem alter {dotted : Bool} {change : Standing → List Entry → Option (List Entry)}
    (hc : ∀ standing entries after, DistinctKeys entries → change standing entries = some after →
      DistinctKeys after)
    {path : List Key} {standing : Standing} (h : DistinctKeys entries)
    (ha : Toml.alter dotted change path standing entries = some after) : DistinctKeys after := by
  induction path generalizing standing entries after with
  | nil => exact hc standing entries after h ha
  | cons key path ih =>
    rw [Toml.alter] at ha
    split at ha
    · next hf =>
      obtain ⟨inner, hi, rfl⟩ := Option.map_eq_some_iff.mp ha
      exact h.add hf (distinct_table_iff.mpr (ih empty hi))
    · next old span standing inner hf =>
      split_ifs at ha
      obtain ⟨made, hm, rfl⟩ := Option.map_eq_some_iff.mp ha
      exact h.replace (distinct_table_iff.mpr (ih (distinct_table_iff.mp (h.found hf)) hm))
    · next old span items hf =>
      cases hl : items.getLast? with
      | none => simp [hl] at ha
      | some item =>
        obtain ⟨itemSpan, inner⟩ := item
        simp only [hl] at ha
        obtain ⟨made, hm, rfl⟩ := Option.map_eq_some_iff.mp ha
        have hitems : ∀ item ∈ items, (Value.table .declared item.2).Distinct := by
          cases h.found hf with
          | scalar scalar => cases scalar
          | tables within => exact within
        have hinner := distinct_table_iff.mp (hitems _ (List.mem_of_getLast? hl))
        apply h.replace
        apply Value.Distinct.tables
        intro item hi
        rcases List.mem_append.mp hi with hi | hi
        · exact hitems item (List.dropLast_subset items hi)
        · rw [List.mem_singleton.mp hi]
          exact distinct_table_iff.mpr (ih hinner hm)
    · cases ha

theorem addValue {path : List Key} {standing : Standing} (h : DistinctKeys entries)
    (hv : value.Distinct) (ha : Toml.addValue path key span value standing entries = some after) :
    DistinctKeys after := by
  refine h.alter ?_ ha
  intro standing entries after h ha
  split_ifs at ha with _ hs
  obtain rfl := Option.some.inj ha
  exact h.add (by simpa using hs) hv

theorem declareTable {path : List Key} (h : DistinctKeys entries)
    (ha : Toml.declareTable path key span entries = some after) : DistinctKeys after := by
  refine h.alter ?_ ha
  intro standing entries after h ha
  split at ha
  · next hf =>
    obtain rfl := Option.some.inj ha
    exact h.add hf (distinct_table_iff.mpr empty)
  · next hf =>
    obtain rfl := Option.some.inj ha
    exact h.replace (distinct_table_iff.mpr (distinct_table_iff.mp (h.found hf)))
  · cases ha

theorem declareItem {path : List Key} (h : DistinctKeys entries)
    (ha : Toml.declareItem path key span entries = some after) : DistinctKeys after := by
  have hnew : (Value.table .declared []).Distinct := distinct_table_iff.mpr empty
  refine h.alter ?_ ha
  intro standing entries after h ha
  split at ha
  · next hf =>
    obtain rfl := Option.some.inj ha
    refine h.add hf (.tables fun item hi => ?_)
    rw [List.mem_singleton.mp hi]
    exact hnew
  · next items hf =>
    obtain rfl := Option.some.inj ha
    refine h.replace (.tables fun item hi => ?_)
    rcases List.mem_append.mp hi with hi | hi
    · cases h.found hf with
      | scalar scalar => cases scalar
      | tables within => exact within item hi
    · rw [List.mem_singleton.mp hi]
      exact hnew
  · cases ha

end DistinctKeys

/-! ### Reading -/

theorem isScalar_of_scalar? {word : List Char} {value : Value} (h : scalar? word = some value) :
    value.isScalar := by
  unfold scalar? at h
  split at h
  · cases h
    rfl
  split at h
  · cases h
    rfl
  split at h
  split at h
  · cases h
    rfl
  split at h
  · cases h
    rfl
  split at h
  · cases h
    rfl
  split at h
  · cases h
    rfl
  split at h
  · cases h
    rfl
  · cases h

theorem distinct_items? {value? : List Char → Option (Value × List Char)}
    (hv : ∀ text value rest, value? text = some (value, rest) → value.Distinct) {fuel : Nat}
    {text rest : List Char} {items : List (Span × Value)}
    (h : items? value? fuel text = some (items, rest)) : ∀ item ∈ items, item.2.Distinct := by
  induction fuel generalizing text rest items with
  | zero => cases h
  | succ fuel ih =>
    rw [items?] at h
    obtain ⟨start, hs, h⟩ := Option.bind_eq_some_iff.mp h
    split at h
    · cases h
      simp
    · obtain ⟨⟨value, left⟩, hvalue, h⟩ := Option.bind_eq_some_iff.mp h
      obtain ⟨next, hn, h⟩ := Option.bind_eq_some_iff.mp h
      have hd := hv _ _ _ hvalue
      split at h
      · obtain ⟨⟨more, last⟩, hm, h⟩ := Option.bind_eq_some_iff.mp h
        cases h
        intro item hi
        rcases List.mem_cons.mp hi with rfl | hi
        · exact hd
        · exact ih hm item hi
      · cases h
        intro item hi
        rw [List.mem_singleton.mp hi]
        exact hd
      · cases h

theorem pair?_cases {value? : List Char → Option (Value × List Char)}
    {add : List Key → Key → Span → Value → Option (List Entry)} {text rest : List Char}
    {entries : List Entry} (h : pair? value? add text = some (entries, rest)) :
    ∃ path key span value start left, value? start = some (value, left) ∧
      add path key span value = some entries := by
  rw [pair?] at h
  obtain ⟨keys, hk, h⟩ := Option.bind_eq_some_iff.mp h
  split at h
  · obtain ⟨⟨value, left⟩, hvalue, h⟩ := Option.bind_eq_some_iff.mp h
    obtain ⟨made, hm, h⟩ := Option.bind_eq_some_iff.mp h
    cases h
    exact ⟨_, _, _, _, _, _, hvalue, hm⟩
  · cases h

theorem distinct_pairs? {value? : List Char → Option (Value × List Char)}
    (hv : ∀ text value rest, value? text = some (value, rest) → value.Distinct) {fuel : Nat}
    {text rest : List Char} {entries after : List Entry} (hd : DistinctKeys entries)
    (h : pairs? value? fuel entries text = some (after, rest)) : DistinctKeys after := by
  induction fuel generalizing text entries with
  | zero => cases h
  | succ fuel ih =>
    rw [pairs?] at h
    obtain ⟨start, hs, h⟩ := Option.bind_eq_some_iff.mp h
    split at h
    · cases h
      exact hd
    · obtain ⟨⟨made, left⟩, hp, h⟩ := Option.bind_eq_some_iff.mp h
      obtain ⟨next, hn, h⟩ := Option.bind_eq_some_iff.mp h
      obtain ⟨path, key, span, value, _, _, hvalue, hadd⟩ := pair?_cases hp
      have hmade := hd.addValue (hv _ _ _ hvalue) hadd
      split at h
      · exact ih hmade h
      · cases h
        exact hmade
      · cases h

/-- A value holds others only if brackets or braces may be nested once more. -/
theorem value?_cases {depth : Nat} {text rest : List Char} {value : Value}
    (h : value? depth text = some (value, rest)) :
    value.isScalar ∨ ∃ inner, depth = inner + 1 ∧ ∃ fuel start,
      (∃ items, items? (value? inner) fuel start = some (items, rest) ∧ value = .array items) ∨
      ∃ entries, pairs? (value? inner) fuel [] start = some (entries, rest) ∧
        value = .table .closed entries := by
  unfold value? at h
  split at h
  · cases h
  split at h
  · obtain ⟨read, -, he⟩ := Option.map_eq_some_iff.mp h
    cases he
    exact .inl rfl
  split at h
  · split at h
    · cases h
    · obtain ⟨⟨items, left⟩, hi, he⟩ := Option.map_eq_some_iff.mp h
      cases he
      exact .inr ⟨_, rfl, _, _, .inl ⟨items, hi, rfl⟩⟩
  split at h
  · split at h
    · cases h
    · obtain ⟨⟨entries, left⟩, hp, he⟩ := Option.map_eq_some_iff.mp h
      cases he
      exact .inr ⟨_, rfl, _, _, .inr ⟨entries, hp, rfl⟩⟩
  · obtain ⟨read, hr, he⟩ := Option.map_eq_some_iff.mp h
    cases he
    exact .inl (isScalar_of_scalar? hr)

theorem distinct_value? {depth : Nat} {text rest : List Char} {value : Value}
    (h : value? depth text = some (value, rest)) : value.Distinct := by
  induction depth generalizing text rest value with
  | zero =>
    rcases value?_cases h with hs | ⟨inner, hd, -⟩
    · exact .scalar hs
    · cases hd
  | succ depth ih =>
    rcases value?_cases h with hs | ⟨inner, hd, fuel, start, ⟨items, hi, rfl⟩ | ⟨entries, hp, rfl⟩⟩
    · exact .scalar hs
    · cases hd
      exact .array (distinct_items? (fun _ _ _ hv => ih hv) hi)
    · cases hd
      exact distinct_table_iff.mpr (distinct_pairs? (fun _ _ _ hv => ih hv) .empty hp)

theorem Document.distinct_line? {document after : Document} {text rest : List Char}
    (hd : DistinctKeys document.entries) (h : document.line? text = some (after, rest)) :
    DistinctKeys after.entries := by
  unfold line? at h
  split at h
  · obtain ⟨⟨path, key, left⟩, -, h⟩ := Option.bind_eq_some_iff.mp h
    obtain ⟨entries, ha, h⟩ := Option.bind_eq_some_iff.mp h
    cases h
    exact hd.declareItem ha
  · obtain ⟨⟨path, key, left⟩, -, h⟩ := Option.bind_eq_some_iff.mp h
    obtain ⟨entries, ha, h⟩ := Option.bind_eq_some_iff.mp h
    cases h
    exact hd.declareTable ha
  · obtain ⟨⟨entries, left⟩, hp, h⟩ := Option.bind_eq_some_iff.mp h
    cases h
    obtain ⟨path, key, span, value, _, _, hv, ha⟩ := pair?_cases hp
    exact hd.alter (fun _ _ _ hinner hadd => hinner.addValue (distinct_value? hv) hadd) ha

theorem Document.distinct_lines? {fuel : Nat} {document after : Document} {text : List Char}
    (hd : DistinctKeys document.entries) (h : lines? fuel document text = some after) :
    DistinctKeys after.entries := by
  induction fuel generalizing document text with
  | zero =>
    cases text with
    | nil =>
      cases h
      exact hd
    | cons c rest => cases h
  | succ fuel ih =>
    cases text with
    | nil =>
      cases h
      exact hd
    | cons c rest =>
      rw [lines?.eq_def] at h
      dsimp only at h
      split at h
      · obtain ⟨⟨between, left⟩, hline, h⟩ := Option.bind_eq_some_iff.mp h
        obtain ⟨next, -, h⟩ := Option.bind_eq_some_iff.mp h
        cases hline
        exact ih hd h
      · obtain ⟨⟨between, left⟩, hline, h⟩ := Option.bind_eq_some_iff.mp h
        obtain ⟨next, -, h⟩ := Option.bind_eq_some_iff.mp h
        exact ih (distinct_line? hd hline) h

theorem distinct_parse? {text : String} {entries : List Entry} (h : parse? text = some entries) :
    DistinctKeys entries := by
  obtain ⟨document, hread, rfl⟩ := Option.map_eq_some_iff.mp h
  exact Document.distinct_lines? .empty hread

end EntityScaffold.Toml
