import EntityScaffold.Proofs.Toml.Strings
import Mathlib.Data.List.Forall2

/-!
Documents of plain lines: remarks, headers, and keys with strings. Such a document is read as the
tables that its lines spell out.
-/

namespace EntityScaffold.Toml

inductive Line where
  | blank
  | remark (text : List Char)
  | header (name : String)
  | setting (name value : String)

namespace Line

def text : Line → List Char
  | .blank => []
  | .remark text => '#' :: text
  | .header name => '[' :: name.toList ++ [']']
  | .setting name value => name.toList ++ ' ' :: '=' :: ' ' :: (spell value).toList

/-- The text of a document with these lines. Each of them is ended. -/
def document (lines : List Line) : List Char := lines.flatMap fun line => line.text ++ ['\n']

theorem document_cons (line : Line) (lines : List Line) :
    document (line :: lines) = line.text ++ '\n' :: document lines := by
  simp [document]

end Line

/-- A table of strings, with its name. -/
abbrev Section := String × List (String × String)

/-- A name that stands for itself as a key. -/
def IsName (name : String) : Prop := name ≠ "" ∧ ∀ c ∈ name.toList, isBare c

instance (name : String) : Decidable (IsName name) :=
  decidable_of_iff (name ≠ "" ∧ name.toList.all isBare) (by simp [IsName])

/-- The sections after one more line, the last section first. Names are not used twice, and a
setting belongs to a section. -/
def Line.add? (sections : List Section) : Line → Option (List Section)
  | .blank => some sections
  | .remark text => if text.all isPlain then some sections else none
  | .header name =>
    if IsName name ∧ name ∉ sections.map Prod.fst then some ((name, []) :: sections) else none
  | .setting name value =>
    match sections with
    | [] => none
    | (title, settings) :: others =>
      if IsName name ∧ name ∉ settings.map Prod.fst then
        some ((title, settings ++ [(name, value)]) :: others)
      else none

/-! ### Keys -/

variable {name : String} {rest : List Char}

theorem takeWhile_name (h : ∀ c ∈ name.toList, isBare c) (hr : rest.head?.all (!isBare ·)) :
    (name.toList ++ rest).takeWhile isBare = name.toList ∧
      (name.toList ++ rest).dropWhile isBare = rest := by
  have hstop : rest.takeWhile isBare = [] ∧ rest.dropWhile isBare = rest := by
    cases rest with
    | nil => simp
    | cons c rest => simp_all
  rw [List.takeWhile_append_of_pos h, List.dropWhile_append_of_pos h, hstop.1, hstop.2]
  simp

theorem IsName.cons (h : IsName name) : ∃ c tail, name.toList = c :: tail ∧ isBare c := by
  cases ht : name.toList with
  | nil => exact absurd (String.toList_eq_nil_iff.mp ht) h.1
  | cons c tail => exact ⟨c, tail, rfl, h.2 c (by simp [ht])⟩

/-- A character of a name has no meaning of its own at the start of a line. -/
theorem bare_ne {c : Char} (h : isBare c) :
    c ∉ ['"', '\x27', ' ', '\t', '[', '#', '\n', '\r', '\uFEFF'] := by
  intro hm
  simp only [List.mem_cons, List.not_mem_nil, or_false] at hm
  rcases hm with rfl | rfl | rfl | rfl | rfl | rfl | rfl | rfl | rfl <;> simp [isBare] at h

theorem key?_name (h : IsName name) (hr : rest.head?.all (!isBare ·)) :
    key? (name.toList ++ rest) =
      some (⟨name, .between (name.toList ++ rest) rest⟩, rest) := by
  obtain ⟨htake, hdrop⟩ := takeWhile_name h.2 hr
  obtain ⟨c, tail, hc, hb⟩ := h.cons
  have hline : lineString? (name.toList ++ rest) = none := by
    have hne := bare_ne hb
    simp only [List.mem_cons, List.not_mem_nil, or_false, not_or] at hne
    rw [hc, List.cons_append]
    unfold lineString?
    split <;> simp_all
  rw [key?, hline]
  simp [htake, hdrop, h.1]

theorem skipPads_of_head {c : Char} {tail : List Char} (h : isPad c = false) :
    skipPads (c :: tail) = c :: tail := by
  rw [skipPads, List.dropWhile_cons, if_neg (by simp [h])]

theorem skipPads_name (h : IsName name) : skipPads (name.toList ++ rest) = name.toList ++ rest := by
  obtain ⟨c, tail, hc, hb⟩ := h.cons
  have hne := bare_ne hb
  simp only [List.mem_cons, List.not_mem_nil, or_false, not_or] at hne
  rw [hc, List.cons_append, skipPads_of_head (by simp [isPad, hne])]

/-- A name that no dot follows is a key of its own. -/
theorem dottedKey?_name (h : IsName name) (hr : rest.head?.all (!isBare ·))
    (hd : (skipPads rest).head? ≠ some '.') (fuel : Nat) :
    dottedKey? (fuel + 1) (name.toList ++ rest) =
      some ([], ⟨name, .between (name.toList ++ rest) rest⟩, skipPads rest) := by
  rw [dottedKey?, skipPads_name h, key?_name h hr]
  simp only [bind, Option.bind]
  split
  · simp_all
  · rfl

/-! ### One line -/

theorem endLine?_newline (rest : List Char) : endLine? ('\n' :: rest) = some rest := by
  rw [endLine?, skipPads_of_head (by decide)]
  rfl

variable {document after : Document} {text left : List Char} {fuel : Nat}

theorem lines?_step (hn : text ≠ []) (hp : skipPads text = text)
    (hl : (if Document.isBlankLine text then some (document, text) else document.line? text) =
      some (after, left))
    (he : endLine? left = some rest) :
    Document.lines? (fuel + 1) document text = Document.lines? fuel after rest := by
  rw [Document.lines?.eq_def]
  cases text with
  | nil => contradiction
  | cons c text =>
    simp only [hp, bind, Option.bind]
    split_ifs at hl ⊢
    · obtain ⟨rfl, rfl⟩ := Prod.mk.inj (Option.some.inj hl)
      simp [he]
    · simp [hl, he]

theorem lines?_blank (rest : List Char) :
    Document.lines? (fuel + 1) document ('\n' :: rest) = Document.lines? fuel document rest :=
  lines?_step (by simp) (skipPads_of_head (by decide)) (by rfl) (endLine?_newline rest)

theorem lines?_remark (h : ∀ c ∈ text, isPlain c) (rest : List Char) :
    Document.lines? (fuel + 1) document ('#' :: text ++ '\n' :: rest) =
      Document.lines? fuel document rest := by
  refine lines?_step (by simp) (skipPads_of_head rfl) rfl ?_
  rw [endLine?, List.cons_append, skipPads_of_head (by decide), skipComment,
    List.dropWhile_append_of_pos h]
  rfl

theorem headerKeys?_name (h : IsName name) (rest : List Char) :
    ∃ span, Document.headerKeys? [']'] (name.toList ++ ']' :: rest) =
      some ([], ⟨name, span⟩, rest) := by
  refine ⟨.between (name.toList ++ ']' :: rest) (']' :: rest), ?_⟩
  have hpads : skipPads (']' :: rest) = ']' :: rest := skipPads_of_head (by decide)
  rw [Document.headerKeys?, dottedKey?_name h rfl (by simp [hpads]), hpads]
  rfl

theorem line?_header (document : Document) {inner : List Char} (h : inner.head? ≠ some '[') :
    document.line? ('[' :: inner) =
      (Document.headerKeys? [']'] inner).bind fun (path, key, rest) =>
        (declareTable path key (.between ('[' :: inner) rest) document.entries).bind fun entries =>
          some (⟨path ++ [key], entries⟩, rest) := by
  rw [Document.line?.eq_def]
  split
  · simp_all
  · next heq => rw [(List.cons.inj heq).2]; rfl
  · next hne => exact absurd rfl (hne inner)

theorem line?_pair (document : Document) (h : text.head? ≠ some '[') :
    document.line? text =
      (pair? (value? maxDepth)
        (fun path key span value =>
          alter false (addValue path key span value) document.header .declared document.entries)
        text).bind fun (entries, rest) => some ({ document with entries }, rest) := by
  rw [Document.line?.eq_def]
  split
  · simp at h
  · simp at h
  · rfl

/-! ### Tables of strings -/

def ShowsSetting (entry : Entry) (setting : String × String) : Prop :=
  entry.1.name = setting.1 ∧ entry.2.2 = .string setting.2

def ShowsSection (entry : Entry) (titled : Section) : Prop :=
  entry.1.name = titled.1 ∧ ∃ entries, entry.2.2 = .table .declared entries ∧
    List.Forall₂ ShowsSetting entries titled.2

/-- A document as far as it has been read shows these sections, the last one first. -/
structure Shows (document : Document) (sections : List Section) : Prop where
  entries : List.Forall₂ ShowsSection document.entries.reverse sections
  header : document.header.map Key.name = (sections.head?.map Prod.fst).toList
  distinct : (sections.map Prod.fst).Nodup

theorem names_eq {α : Type} {entries : List Entry} {items : List (String × α)}
    {shown : Entry → String × α → Prop} (h : List.Forall₂ shown entries items)
    (hs : ∀ entry item, shown entry item → entry.1.name = item.1) :
    entries.map (fun entry => entry.1.name) = items.map Prod.fst := by
  induction h with
  | nil => rfl
  | cons hfirst _ ih => rw [List.map_cons, List.map_cons, hs _ _ hfirst, ih]

theorem find?_eq_none {entries : List Entry}
    (h : name ∉ entries.map fun entry => entry.1.name) : find? entries name = none := by
  rw [find?, List.find?_eq_none]
  intro entry he hn
  exact h (List.mem_map.mpr ⟨entry, he, by simpa using hn⟩)

theorem find?_last {front : List Entry} {entry : Entry} (hn : entry.1.name = name)
    (h : name ∉ front.map fun entry => entry.1.name) :
    find? (front ++ [entry]) name = some entry := by
  have hfront : front.find? (fun entry => entry.1.name == name) = none := find?_eq_none h
  rw [find?, List.find?_append, hfront]
  simp [hn]

theorem replaceEntry_last {front : List Entry} {old entry : Entry}
    (hn : old.1.name = entry.1.name) (h : entry.1.name ∉ front.map fun entry => entry.1.name) :
    replaceEntry (front ++ [old]) entry = front ++ [entry] := by
  have hfront : front.map (fun old => if old.1.name == entry.1.name then entry else old) =
      front := by
    rw [List.map_congr_left (g := id), List.map_id]
    intro other ho
    have hne : other.1.name ≠ entry.1.name := fun he => h (List.mem_map.mpr ⟨other, ho, he⟩)
    simp [hne]
  rw [replaceEntry, List.map_append, hfront]
  simp [hn]

/-- A setting is added to the table of the last header. -/
theorem addValue_last {front entries : List Entry} {header key old : Key} {span tableSpan : Span}
    {value : Value} (hh : header.name = old.name)
    (hf : old.name ∉ front.map fun entry => entry.1.name)
    (he : key.name ∉ entries.map fun entry => entry.1.name) :
    alter false (addValue [] key span value) [header] .declared
        (front ++ [(old, tableSpan, .table .declared entries)]) =
      some (front ++ [(old, tableSpan, .table .declared (entries ++ [(key, span, value)]))]) := by
  have hadd : alter false (addValue [] key span value) [] .declared entries =
      some (entries ++ [(key, span, value)]) := by
    simp [alter, addValue, find?_eq_none he]
  rw [alter, hh, find?_last rfl hf]
  simp only [reduceCtorEq, Bool.false_eq_true, false_and, or_self, if_false, hadd,
    Option.map_some]
  exact congrArg some (replaceEntry_last rfl hf)

theorem declareTable_new {entries : List Entry} {key : Key} {span : Span}
    (h : key.name ∉ entries.map fun entry => entry.1.name) :
    declareTable [] key span entries = some (entries ++ [(key, span, .table .declared [])]) := by
  simp [declareTable, alter, find?_eq_none h]

/-! ### Reading the lines -/

variable {sections : List Section}

theorem Shows.names (h : Shows document sections) :
    document.entries.map (fun entry => entry.1.name) = (sections.map Prod.fst).reverse := by
  rw [← names_eq h.entries fun entry titled hs => hs.1, List.map_reverse, List.reverse_reverse]

theorem Shows.header_line (h : Shows document sections) (hn : IsName name)
    (hf : name ∉ sections.map Prod.fst) (rest : List Char) :
    ∃ after, Shows after ((name, []) :: sections) ∧ ∀ fuel,
      Document.lines? (fuel + 1) document ((Line.header name).text ++ '\n' :: rest) =
        Document.lines? fuel after rest := by
  obtain ⟨span, hkeys⟩ := headerKeys?_name hn ('\n' :: rest)
  have hnew : name ∉ document.entries.map fun entry => entry.1.name := by
    rw [h.names]
    simpa using hf
  have htext : (Line.header name).text ++ '\n' :: rest =
      '[' :: (name.toList ++ ']' :: '\n' :: rest) := by
    simp [Line.text]
  refine ⟨⟨[⟨name, span⟩], document.entries ++ [(⟨name, span⟩,
    .between ('[' :: (name.toList ++ ']' :: '\n' :: rest)) ('\n' :: rest),
    .table .declared [])]⟩, ⟨?_, rfl, List.nodup_cons.mpr ⟨hf, h.distinct⟩⟩, fun fuel => ?_⟩
  · rw [List.reverse_append]
    exact .cons ⟨rfl, [], rfl, .nil⟩ h.entries
  · rw [htext]
    refine lines?_step (by simp) (skipPads_of_head (by decide)) ?_ (endLine?_newline rest)
    obtain ⟨c, tail, hc, hb⟩ := hn.cons
    have hne : (name.toList ++ ']' :: '\n' :: rest).head? ≠ some '[' := by
      rw [hc]
      simpa using fun he => bare_ne hb (by simp [he])
    have hline : Document.isBlankLine ('[' :: (name.toList ++ ']' :: '\n' :: rest)) = false := rfl
    rw [hline, if_neg (by decide), line?_header document hne, hkeys]
    simp only [Option.bind_some, List.nil_append]
    rw [declareTable_new hnew]
    rfl

theorem pair?_setting (hn : IsName name) (value : String)
    (add : List Key → Key → Span → Value → Option (List Entry)) (rest : List Char) :
    ∃ keySpan span, pair? (value? maxDepth) add
        ((Line.setting name value).text ++ '\n' :: rest) =
      (add [] ⟨name, keySpan⟩ span (.string value)).map fun entries => (entries, '\n' :: rest) := by
  obtain ⟨mark, tail, hkind, hs⟩ := spell_head value
  have hvalue : value? maxDepth (mark :: (tail ++ '\n' :: rest)) =
      some (.string value, '\n' :: rest) := by
    rw [← List.cons_append, ← hs]
    exact value?_spell (by simp) (by simp) maxDepth value
  have htext : (Line.setting name value).text ++ '\n' :: rest =
      name.toList ++ ' ' :: '=' :: ' ' :: mark :: (tail ++ '\n' :: rest) := by
    simp [Line.text, hs]
  have hpads : skipPads (' ' :: '=' :: ' ' :: mark :: (tail ++ '\n' :: rest)) =
      '=' :: ' ' :: mark :: (tail ++ '\n' :: rest) := rfl
  have hmark : skipPads (' ' :: mark :: (tail ++ '\n' :: rest)) =
      mark :: (tail ++ '\n' :: rest) := by
    rcases hkind with rfl | rfl <;> rfl
  refine ⟨.between (name.toList ++ ' ' :: '=' :: ' ' :: mark :: (tail ++ '\n' :: rest))
      (' ' :: '=' :: ' ' :: mark :: (tail ++ '\n' :: rest)),
    .between (mark :: (tail ++ '\n' :: rest)) ('\n' :: rest), ?_⟩
  rw [htext, pair?, dottedKey?_name hn rfl (by rw [hpads]; simp), hpads]
  simp only [bind, Option.bind, hmark, hvalue]
  split <;> simp_all

/-- The last header's table is the last entry. -/
theorem Shows.last {title : String} {settings : List (String × String)}
    (h : Shows document ((title, settings) :: sections)) :
    ∃ key old span inner before,
      document = ⟨[key], before.reverse ++ [(old, span, .table .declared inner)]⟩ ∧
        key.name = title ∧ old.name = title ∧ List.Forall₂ ShowsSetting inner settings ∧
        List.Forall₂ ShowsSection before sections := by
  obtain ⟨header, entries⟩ := document
  obtain ⟨hentries, hheader, -⟩ := h
  obtain ⟨key, rfl, hkey⟩ : ∃ key, header = [key] ∧ key.name = title := by
    simpa [List.map_eq_singleton_iff] using hheader
  generalize hr : entries.reverse = reversed at hentries
  obtain rfl : entries = reversed.reverse := by rw [← hr, List.reverse_reverse]
  cases hentries with
  | @cons entry _ before _ hentry hbefore =>
    obtain ⟨old, span, table⟩ := entry
    obtain ⟨hold, inner, htable, hinner⟩ := hentry
    dsimp only at hold htable hinner
    subst htable
    exact ⟨key, old, span, inner, before, by rw [List.reverse_cons], hkey, hold, hinner, hbefore⟩

theorem Shows.setting_line {title : String} {settings : List (String × String)}
    (h : Shows document ((title, settings) :: sections)) (hn : IsName name)
    (hf : name ∉ settings.map Prod.fst) (value : String) (rest : List Char) :
    ∃ after, Shows after ((title, settings ++ [(name, value)]) :: sections) ∧ ∀ fuel,
      Document.lines? (fuel + 1) document ((Line.setting name value).text ++ '\n' :: rest) =
        Document.lines? fuel after rest := by
  have hdistinct := h.distinct
  obtain ⟨key, old, tableSpan, inner, before, rfl, rfl, hold, hinner, hbefore⟩ := h.last
  have hfront : old.name ∉ before.reverse.map fun entry => entry.1.name := by
    rw [List.map_reverse, names_eq hbefore fun entry titled hs => hs.1, hold]
    simpa using (List.nodup_cons.mp hdistinct).1
  have hnew : name ∉ inner.map fun entry => entry.1.name := by
    rw [names_eq hinner fun entry setting hs => hs.1]
    exact hf
  obtain ⟨keySpan, span, hpair⟩ := pair?_setting hn value
    (fun path name span value =>
      alter false (addValue path name span value) [key] .declared
        (before.reverse ++ [(old, tableSpan, .table .declared inner)])) rest
  refine ⟨⟨[key], before.reverse ++ [(old, tableSpan,
    .table .declared (inner ++ [(⟨name, keySpan⟩, span, .string value)]))]⟩,
    ⟨?_, rfl, hdistinct⟩, fun fuel => ?_⟩
  · rw [List.reverse_append, List.reverse_reverse]
    refine .cons ⟨hold, _, rfl, ?_⟩ hbefore
    exact List.rel_append hinner (.cons ⟨rfl, rfl⟩ .nil)
  · obtain ⟨c, tail, hc, hb⟩ := hn.cons
    have hne := bare_ne hb
    simp only [List.mem_cons, List.not_mem_nil, or_false, not_or] at hne
    have htext : (Line.setting name value).text ++ '\n' :: rest =
        c :: (tail ++ ' ' :: '=' :: ' ' :: (spell value).toList ++ '\n' :: rest) := by
      simp [Line.text, hc]
    refine lines?_step (by simp [htext]) ?_ ?_ (endLine?_newline rest)
    · rw [htext, skipPads_of_head (by simp [isPad, hne])]
    · rw [if_neg (by simp [htext, Document.isBlankLine, hne]),
        line?_pair _ (by simp [htext, hne]), hpair,
        addValue_last hold.symm hfront hnew]
      rfl

theorem Line.reads {line : Line} {added : List Section} (h : Shows document sections)
    (ha : line.add? sections = some added) (rest : List Char) :
    ∃ after, Shows after added ∧ ∀ fuel,
      Document.lines? (fuel + 1) document (line.text ++ '\n' :: rest) =
        Document.lines? fuel after rest := by
  cases line with
  | blank =>
    obtain rfl := Option.some.inj ha
    exact ⟨document, h, fun fuel => lines?_blank rest⟩
  | remark text =>
    rw [Line.add?] at ha
    split_ifs at ha with hp
    obtain rfl := Option.some.inj ha
    exact ⟨document, h, fun fuel => lines?_remark (List.all_eq_true.mp hp) rest⟩
  | header name =>
    rw [Line.add?] at ha
    split_ifs at ha with hn
    obtain rfl := Option.some.inj ha
    exact h.header_line hn.1 hn.2 rest
  | setting name value =>
    cases sections with
    | nil => cases ha
    | cons titled others =>
      obtain ⟨title, settings⟩ := titled
      simp only [Line.add?] at ha
      split_ifs at ha with hn
      obtain rfl := Option.some.inj ha
      exact h.setting_line hn.1 hn.2 value rest

/-- The lines of a document are read one by one. -/
theorem lines?_document {lines : List Line} {added : List Section} (h : Shows document sections)
    (ha : lines.foldlM Line.add? sections = some added) (fuel : Nat) :
    ∃ after, Shows after added ∧
      Document.lines? (fuel + lines.length) document (Line.document lines) = some after := by
  induction lines generalizing document sections with
  | nil =>
    obtain rfl := Option.some.inj ha
    exact ⟨document, h, by cases fuel <;> rfl⟩
  | cons line lines ih =>
    rw [List.foldlM_cons] at ha
    obtain ⟨between, hb, ha⟩ := Option.bind_eq_some_iff.mp ha
    obtain ⟨mid, hm, hread⟩ := Line.reads h hb (Line.document lines)
    obtain ⟨after, hafter, hrest⟩ := ih hm ha
    refine ⟨after, hafter, ?_⟩
    rw [Line.document_cons, List.length_cons, ← Nat.add_assoc, hread, hrest]

theorem length_le_document (lines : List Line) : lines.length ≤ (Line.document lines).length := by
  induction lines with
  | nil => simp
  | cons line lines ih =>
    rw [Line.document_cons, List.length_append, List.length_cons, List.length_cons]
    omega

/-- No line that a document begins with can be taken for a mark of the byte order. -/
theorem dropMark_document {lines : List Line}
    (h : lines.foldlM Line.add? [] = some sections) :
    dropMark (Line.document lines) = Line.document lines := by
  cases lines with
  | nil => rfl
  | cons line lines =>
    rw [Line.document_cons]
    cases line with
    | blank | remark | header => rfl
    | setting name value => cases h

theorem parse?_document {lines : List Line} (h : lines.foldlM Line.add? [] = some sections) :
    ∃ entries, parse? (.ofList (Line.document lines)) = some entries ∧
      List.Forall₂ ShowsSection entries.reverse sections := by
  have hlength := length_le_document lines
  obtain ⟨after, hafter, hread⟩ :=
    lines?_document (show Shows {} [] from ⟨.nil, rfl, .nil⟩) h
      ((Line.document lines).length + 1 - lines.length)
  refine ⟨after.entries, ?_, hafter.entries⟩
  rw [Nat.sub_add_cancel (by omega)] at hread
  rw [parse?, String.toList_ofList, dropMark_document h, hread]
  rfl

end EntityScaffold.Toml
