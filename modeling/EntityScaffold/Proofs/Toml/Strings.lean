import EntityScaffold.Toml.Document
import EntityScaffold.Toml.Spelling
import Mathlib.Tactic.SplitIfs

/-!
Every text that is written as a string is read back from it. Each form has its own reader: the
two with escapes take any text, the two without take what their form is chosen for.
-/

namespace EntityScaffold.Toml

/-! ### Escapes -/

/-- What the readers of both kinds of escaped strings do behind a backslash. -/
structure Escapes (body : Pending → List Char → Option (List Char × List Char)) : Prop where
  backslash (folding : Bool) (rest : List Char) :
    body (.plain folding) ('\\' :: rest) = body .escape rest
  letter {letter c : Char} (rest : List Char) (h : escaped? letter = some c) :
    body .escape (letter :: rest) = before c (body (.plain false) rest)
  width {letter : Char} {width : Nat} (rest : List Char) (h : hexWidth? letter = some width) :
    body .escape (letter :: rest) = body (.hex width 0) rest
  digit {c : Char} {value missing code : Nat} (rest : List Char) (h : hexDigit? c = some value)
    (hm : 1 < missing) :
    body (.hex missing code) (c :: rest) = body (.hex (missing - 1) (16 * code + value)) rest
  lastDigit {c d : Char} {value code : Nat} (rest : List Char) (h : hexDigit? c = some value)
    (hc : charOf? (16 * code + value) = some d) :
    body (.hex 1 code) (c :: rest) = before d (body (.plain false) rest)

theorem letter_cases {letter c : Char} (h : escaped? letter = some c) :
    letter ∉ ['\n', '\r', ' ', '\t'] := by
  unfold escaped? at h
  split at h <;> simp_all

theorem width_cases {letter : Char} {width : Nat} (h : hexWidth? letter = some width) :
    letter ∉ ['\n', '\r', ' ', '\t'] ∧ escaped? letter = none := by
  unfold hexWidth? at h
  split at h <;> simp_all <;> decide

theorem basicBody_escapes : Escapes basicBody where
  backslash folding rest := by simp [basicBody]
  letter rest h := by simp [basicBody, h]
  width rest h := by simp [basicBody, h, (width_cases h).2]
  digit rest h hm := by simp [basicBody, h, Nat.not_le.mpr hm]
  lastDigit rest h hc := by simp [basicBody, h, hc]

theorem multiBasicBody_escapes : Escapes multiBasicBody where
  backslash folding rest := by simp [multiBasicBody, isPad, opensNewline]
  letter rest h := by
    have hl := letter_cases h
    simp only [List.mem_cons, List.not_mem_nil, or_false, not_or] at hl
    simp [multiBasicBody, isPad, opensNewline, h, hl]
  width rest h := by
    obtain ⟨hl, hn⟩ := width_cases h
    simp only [List.mem_cons, List.not_mem_nil, or_false, not_or] at hl
    simp [multiBasicBody, isPad, opensNewline, h, hl, hn]
  digit rest h hm := by simp [multiBasicBody, h, Nat.not_le.mpr hm]
  lastDigit rest h hc := by simp [multiBasicBody, h, hc]

/-- The number that digits lead to, behind digits that gave `code`. -/
def hexNumber? (code : Nat) : List Char → Option Nat
  | [] => some code
  | c :: rest => (hexDigit? c).bind fun value => hexNumber? (16 * code + value) rest

variable {body : Pending → List Char → Option (List Char × List Char)} {c : Char}
  {written text rest : List Char}

theorem Escapes.hex (h : Escapes body) {digits : List Char} {code : Nat}
    (hd : digits ≠ []) (hn : hexNumber? code digits = some c.toNat) (rest : List Char) :
    body (.hex digits.length code) (digits ++ rest) = before c (body (.plain false) rest) := by
  induction digits generalizing code with
  | nil => contradiction
  | cons digit digits ih =>
    obtain ⟨value, hv, hn⟩ := Option.bind_eq_some_iff.mp hn
    cases digits with
    | nil =>
      have hc : charOf? (16 * code + value) = some c := by
        have hvalid : c.toNat.isValidChar := c.valid
        rw [Option.some.inj hn, charOf?, if_pos hvalid, Char.ofNat_toNat]
      exact h.lastDigit rest hv hc
    | cons second digits =>
      rw [List.cons_append, h.digit _ hv (by simp)]
      exact ih (by simp) hn

theorem hexNumber?_fourDigits :
    ∀ code < 128, (fourDigits code).length = 4 ∧ hexNumber? 0 (fourDigits code) = some code := by
  decide +kernel

/-- A character that was written as an escape is read from it. -/
theorem Escapes.read (h : Escapes body) (hw : escape? c = some written) (folding : Bool)
    (rest : List Char) :
    body (.plain folding) (written ++ rest) = before c (body (.plain false) rest) := by
  have short (letter : Char) (hl : escaped? letter = some c) (he : written = ['\\', letter]) :
      body (.plain folding) (written ++ rest) = before c (body (.plain false) rest) := by
    rw [he, List.cons_append, h.backslash]
    exact h.letter rest hl
  unfold escape? at hw
  split_ifs at hw with hb ht hf hr hs hc
  · exact short 'b' (by rw [hb]; rfl) (Option.some.inj hw).symm
  · exact short 't' (by rw [ht]; rfl) (Option.some.inj hw).symm
  · exact short 'f' (by rw [hf]; rfl) (Option.some.inj hw).symm
  · exact short 'r' (by rw [hr]; rfl) (Option.some.inj hw).symm
  · exact short '\\' (by rw [hs]; rfl) (Option.some.inj hw).symm
  · have hsmall : c.toNat < 128 := by
      rcases hc with hc | rfl
      · exact Nat.lt_trans (Char.lt_def.mp hc) (by decide)
      · decide
    obtain ⟨hl, hn⟩ := hexNumber?_fourDigits c.toNat hsmall
    have hd : fourDigits c.toNat ≠ [] := List.ne_nil_of_length_pos (by omega)
    have hx := h.hex hd hn rest
    rw [← Option.some.inj hw, List.cons_append, List.cons_append, h.backslash,
      h.width _ (show hexWidth? 'u' = some 4 from rfl), ← hx, hl]

/-- A character that needs no escape is read as it is. -/
theorem plain_of_no_escape (h : escape? c = none) : c ≠ '\\' ∧ isPlain c := by
  unfold escape? at h
  split_ifs at h with hb ht hf hr hs hc
  obtain ⟨hlow, hdelete⟩ := not_or.mp hc
  exact ⟨hs, by simp [isPlain, hdelete, Char.not_lt.mp hlow]⟩

/-! ### Strings with escapes -/

theorem basicBody_plain (hm : c ≠ '"') (hs : c ≠ '\\') (hp : isPlain c) (rest : List Char) :
    basicBody (.plain false) (c :: rest) = before c (basicBody (.plain false) rest) := by
  simp [basicBody, hm, hs, hp]

theorem basicBody_basicText (text rest : List Char) :
    basicBody (.plain false) (basicText false 0 0 text ++ '"' :: rest) = some (text, rest) := by
  induction text with
  | nil => simp [basicText, basicBody]
  | cons c text ih =>
    rw [basicText]
    by_cases hm : c = '"'
    · subst hm
      rw [if_pos rfl, if_pos (Nat.zero_le 0), List.cons_append, List.cons_append,
        basicBody_escapes.backslash, basicBody_escapes.letter (c := '"') _ rfl, ih]
      rfl
    · rw [if_neg hm]
      by_cases hn : c = '\n'
      · subst hn
        rw [if_pos rfl, List.append_assoc]
        simp only [Bool.false_eq_true, if_false, List.cons_append, List.nil_append]
        rw [basicBody_escapes.backslash, basicBody_escapes.letter (c := '\n') _ rfl, ih]
        rfl
      · rw [if_neg hn, List.append_assoc]
        cases he : escape? c with
        | some written =>
          rw [Option.getD_some, basicBody_escapes.read he, ih]
          rfl
        | none =>
          obtain ⟨hs, hp⟩ := plain_of_no_escape he
          rw [Option.getD_none, List.singleton_append, basicBody_plain hm hs hp, ih]
          rfl

theorem backslash_of_escape (h : escape? c = some written) : written.head? = some '\\' := by
  unfold escape? at h
  split_ifs at h <;> rw [← Option.some.inj h] <;> rfl

/-- Of marks in a row, only the first few are written as they are. -/
theorem head?_basicText {multi : Bool} {spare run : Nat} {tail : List Char} :
    (basicText multi spare run (c :: text) ++ tail).head? = some '"' ↔ c = '"' ∧ run < spare := by
  rw [basicText]
  by_cases hm : c = '"'
  · by_cases hs : spare ≤ run
    · simp [hm, hs]
    · simp [hm, hs, Nat.not_le.mp hs]
  · rw [if_neg hm]
    by_cases hn : c = '\n'
    · cases multi <;> simp [hn]
    · rw [if_neg hn, List.append_assoc, List.head?_append]
      cases he : escape? c with
      | some written => simp [backslash_of_escape he, hm]
      | none => simp [hm]

/-- Up to two marks before the three closing ones belong to the string. -/
theorem closeRun_replicate {mark : Char} {count : Nat} (hc : count ≤ 2)
    (hr : rest.head? ≠ some mark) :
    closeRun mark (List.replicate count mark ++ mark :: mark :: rest) =
      (List.replicate count mark, rest) := by
  obtain rfl | rfl | rfl : count = 0 ∨ count = 1 ∨ count = 2 := by omega
  all_goals cases rest <;> simp_all [closeRun, List.replicate]

theorem replicate_marks (mark : Char) (count : Nat) (rest : List Char) :
    List.replicate count mark ++ mark :: mark :: mark :: rest =
      mark :: (List.replicate count mark ++ mark :: mark :: rest) := by
  rw [← List.cons_append, ← List.replicate_succ, List.replicate_succ', List.append_assoc]
  rfl

theorem take_marks {mark : Char} {count : Nat} (hc : count ≤ 2) :
    (List.replicate count mark ++ mark :: mark :: rest).take 2 = [mark, mark] := by
  obtain rfl | rfl | rfl : count = 0 ∨ count = 1 ∨ count = 2 := by omega
  all_goals rfl

theorem multiBasicBody_close (count : Nat) (hc : count ≤ 2) (hr : rest.head? ≠ some '"') :
    multiBasicBody (.plain false) (List.replicate count '"' ++ '"' :: '"' :: '"' :: rest) =
      some (List.replicate count '"', rest) := by
  rw [replicate_marks, multiBasicBody]
  simp [take_marks hc, closeRun_replicate hc hr]

/-- Where two marks follow a mark that was written as it is, the text is at its end. -/
theorem ends_of_marks {run : Nat} {tail : List Char}
    (h : (basicText true 2 (run + 1) text ++ tail).take 2 = ['"', '"']) :
    text = [] ∨ text = ['"'] ∧ run = 0 := by
  cases text with
  | nil => exact .inl rfl
  | cons c text =>
    have hfirst := congrArg List.head? h
    rw [List.head?_take, if_neg (by decide)] at hfirst
    obtain ⟨rfl, hrun⟩ := head?_basicText.mp hfirst
    obtain rfl : run = 0 := by omega
    cases text with
    | nil => exact .inr ⟨rfl, rfl⟩
    | cons d text =>
      -- a third mark in a row is escaped
      have hsecond : (basicText true 2 2 (d :: text) ++ tail).head? = some '"' := by
        rw [basicText, if_pos rfl, if_neg (by decide), List.cons_append, List.take_succ_cons,
          List.cons.injEq] at h
        simpa [List.head?_take] using congrArg List.head? h.2
      exact absurd (head?_basicText.mp hsecond).2 (by decide)

theorem multiBasicBody_plain (hm : c = '"' → rest.take 2 ≠ ['"', '"']) (hs : c ≠ '\\')
    (hp : isPlain c ∨ c = '\n') :
    multiBasicBody (.plain false) (c :: rest) =
      before c (multiBasicBody (.plain false) rest) := by
  have hclose : ¬ (c = '"' ∧ rest.take 2 = ['"', '"']) := fun h => hm h.1 h.2
  have hok : (isPlain c || opensNewline c rest) = true := by
    rcases hp with hp | hp <;> simp [hp, opensNewline]
  simp [multiBasicBody, hclose, hs, hok]

theorem multiBasicBody_basicText (hr : rest.head? ≠ some '"') (text : List Char) {run : Nat}
    (h : run ≤ 2) :
    multiBasicBody (.plain false) (basicText true 2 run text ++ '"' :: '"' :: '"' :: rest) =
      some (text, rest) := by
  induction text generalizing run with
  | nil => exact multiBasicBody_close 0 (by omega) hr
  | cons c text ih =>
    rw [basicText]
    by_cases hm : c = '"'
    · subst hm
      rw [if_pos rfl]
      by_cases hs : 2 ≤ run
      · rw [if_pos hs, List.cons_append, List.cons_append, multiBasicBody_escapes.backslash,
          multiBasicBody_escapes.letter (c := '"') _ rfl, ih (by omega)]
        rfl
      · rw [if_neg hs, List.cons_append]
        by_cases hc : (basicText true 2 (run + 1) text ++ '"' :: '"' :: '"' :: rest).take 2 =
            ['"', '"']
        · rcases ends_of_marks hc with rfl | ⟨rfl, rfl⟩
          · exact multiBasicBody_close 1 (by omega) hr
          · exact multiBasicBody_close 2 (by omega) hr
        · rw [multiBasicBody_plain (fun _ => hc) (by decide) (.inl (by decide)), ih (by omega)]
          rfl
    · rw [if_neg hm]
      by_cases hn : c = '\n'
      · subst hn
        rw [if_pos rfl, if_pos rfl, List.append_assoc, List.singleton_append,
          multiBasicBody_plain (by simp) (by decide) (.inr rfl), ih (by omega)]
        rfl
      · rw [if_neg hn, List.append_assoc]
        cases he : escape? c with
        | some written =>
          rw [Option.getD_some, multiBasicBody_escapes.read he, ih (by omega)]
          rfl
        | none =>
          obtain ⟨hs, hp⟩ := plain_of_no_escape he
          rw [Option.getD_none, List.singleton_append,
            multiBasicBody_plain (fun h => absurd h hm) hs (.inl hp), ih (by omega)]
          rfl

/-! ### Strings without escapes -/

theorem literalBody_append (h : ∀ c ∈ text, isPlain c ∧ c ≠ '\x27') (rest : List Char) :
    literalBody (text ++ '\x27' :: rest) = some (text, rest) := by
  induction text with
  | nil => simp [literalBody]
  | cons c text ih =>
    obtain ⟨hp, hm⟩ := h c (by simp)
    rw [List.cons_append, literalBody, if_neg hm, if_pos hp, ih fun d hd => h d (by simp [hd])]
    rfl

theorem longestRun_tail (mark c : Char) (text : List Char) :
    longestRun mark text ≤ longestRun mark (c :: text) := by
  simp only [longestRun, runs]
  split
  · exact Nat.le_max_left ..
  · exact Nat.le_refl _

theorem longestRun_three (mark : Char) (text : List Char) :
    2 < longestRun mark (mark :: mark :: mark :: text) := by
  simp only [longestRun, runs, if_true]
  omega

/-- Where two marks follow a mark, a text without three in a row is at its end. -/
theorem ends_of_run {mark : Char} {tail : List Char} (hl : longestRun mark (mark :: text) ≤ 2)
    (h : (text ++ tail).take 2 = [mark, mark]) : text = [] ∨ text = [mark] := by
  match text with
  | [] => exact .inl rfl
  | [c] => exact .inr (by simp_all)
  | c :: d :: text =>
    simp only [List.cons_append, List.take_succ_cons, List.take_zero, List.cons.injEq,
      and_true] at h
    obtain ⟨rfl, rfl⟩ := h
    exact absurd (longestRun_three _ _) (Nat.not_lt.mpr hl)

theorem multiLiteralBody_close (count : Nat) (hc : count ≤ 2) (hr : rest.head? ≠ some '\x27') :
    multiLiteralBody (List.replicate count '\x27' ++ '\x27' :: '\x27' :: '\x27' :: rest) =
      some (List.replicate count '\x27', rest) := by
  rw [replicate_marks, multiLiteralBody]
  simp [take_marks hc, closeRun_replicate hc hr]

theorem multiLiteralBody_append (hr : rest.head? ≠ some '\x27')
    (hp : ∀ c ∈ text, isPlain c ∨ c = '\n') (hl : longestRun '\x27' text ≤ 2) :
    multiLiteralBody (text ++ '\x27' :: '\x27' :: '\x27' :: rest) = some (text, rest) := by
  induction text with
  | nil => exact multiLiteralBody_close 0 (by omega) hr
  | cons c text ih =>
    by_cases hc : c = '\x27' ∧
        (text ++ '\x27' :: '\x27' :: '\x27' :: rest).take 2 = ['\x27', '\x27']
    · obtain ⟨rfl, hc⟩ := hc
      rcases ends_of_run hl hc with rfl | rfl
      · exact multiLiteralBody_close 1 (by omega) hr
      · exact multiLiteralBody_close 2 (by omega) hr
    · have hrest := ih (fun d hd => hp d (by simp [hd])) (Nat.le_trans (longestRun_tail _ c text) hl)
      have hok : (isPlain c || opensNewline c (text ++ '\x27' :: '\x27' :: '\x27' :: rest)) =
          true := by
        rcases hp c (by simp) with hp | hp <;> simp [hp, opensNewline]
      rw [List.cons_append, multiLiteralBody, if_neg hc, if_pos hok, hrest]
      rfl

/-! ### All four forms -/

theorem plain_of_not_coded (h : isCoded c = false) : isPlain c ∨ c = '\n' := by
  simp only [isCoded, Bool.or_eq_false_iff, Bool.and_eq_false_iff, decide_eq_false_iff_not] at h
  obtain ⟨(hlow | ht) | hn, hdelete⟩ := h
  · exact .inl (by simp [isPlain, Char.not_lt.mp hlow, hdelete])
  · exact .inl (by simp [isPlain, Decidable.of_not_not ht])
  · exact .inr (Decidable.of_not_not hn)

theorem literal_of_form (h : form text = .literal) :
    ∀ c ∈ text, isPlain c ∧ c ≠ '\x27' := by
  simp only [form] at h
  split_ifs at h with _ hl
  obtain ⟨hcoded, hm, hn⟩ := hl
  intro c hc
  have hplain : isCoded c = false := by simp_all
  refine ⟨(plain_of_not_coded hplain).resolve_right ?_, ?_⟩
  · rintro rfl
    exact hn hc
  · rintro rfl
    exact hm hc

theorem multiLiteral_of_form (h : form text = .multiLiteral) :
    (∀ c ∈ text, isCoded c = false) ∧ longestRun '\x27' text ≤ 2 := by
  simp only [form] at h
  split_ifs at h with _ _ _ hl
  exact ⟨by simpa using hl.1, hl.2⟩

theorem newline?_eq_none (hn : text.head? ≠ some '\n') (hr : text.head? ≠ some '\r') :
    newline? text = none := by
  unfold newline?
  split <;> simp_all

/-- The line end that opens a text of several lines is left out, and no other one. -/
theorem trimNewline_opening (h : '\n' ∉ text → newline? written = none) :
    trimNewline (opening text ++ written) = written := by
  unfold opening trimNewline
  split
  · simp [newline?]
  · next hm => simp [h hm]

theorem head?_of_take_two {a b : Char} (h : (c :: rest).take 2 = [a, b]) :
    rest.head? = some b := by
  cases rest <;> simp_all

theorem string?_basic (hr : rest.head? ≠ some '"') :
    string? (spellAs text .basic ++ rest) = some (text, rest) := by
  have hone : (basicText false 0 0 text ++ '"' :: rest).take 2 ≠ ['"', '"'] := by
    intro h
    have hfirst := congrArg List.head? h
    rw [List.head?_take, if_neg (by decide)] at hfirst
    cases text with
    | nil => exact hr (head?_of_take_two h)
    | cons c text => exact absurd (head?_basicText.mp hfirst).2 (by decide)
  have hline : spellAs text .basic ++ rest = '"' :: (basicText false 0 0 text ++ '"' :: rest) := by
    simp [spellAs]
  rw [hline, string?, List.take_succ_cons, if_neg (by simpa using hone), if_neg (by simp)]
  exact basicBody_basicText text rest

theorem string?_literal (h : ∀ c ∈ text, isPlain c ∧ c ≠ '\x27')
    (hr : rest.head? ≠ some '\x27') :
    string? (spellAs text .literal ++ rest) = some (text, rest) := by
  have hone : (text ++ '\x27' :: rest).take 2 ≠ ['\x27', '\x27'] := by
    intro he
    cases text with
    | nil => exact hr (head?_of_take_two he)
    | cons c text => exact (h c (by simp)).2 (by simpa using congrArg List.head? he)
  have hline : spellAs text .literal ++ rest = '\x27' :: (text ++ '\x27' :: rest) := by
    simp [spellAs]
  rw [hline, string?, List.take_succ_cons, if_neg (by simp), if_neg (by simpa using hone)]
  exact literalBody_append h rest

theorem string?_multiBasic (hr : rest.head? ≠ some '"') :
    string? (spellAs text .multiBasic ++ rest) = some (text, rest) := by
  have hlines : spellAs text .multiBasic ++ rest =
      '"' :: '"' :: '"' ::
        (opening text ++ (basicText true 2 0 text ++ '"' :: '"' :: '"' :: rest)) := by
    simp [spellAs]
  have hbody : '\n' ∉ text →
      newline? (basicText true 2 0 text ++ '"' :: '"' :: '"' :: rest) = none := by
    intro hn
    cases text with
    | nil => rfl
    | cons c text =>
      have hc : c ≠ '\n' := fun h => hn (by simp [h])
      rw [basicText, if_neg hc]
      by_cases hm : c = '"'
      · simp [hm, newline?]
      · rw [if_neg hm]
        cases he : escape? c with
        | some written =>
          obtain ⟨tail, rfl⟩ := List.head?_eq_some_iff.mp (backslash_of_escape he)
          simp [newline?]
        | none =>
          have hr : c ≠ '\r' := by
            rintro rfl
            simp [escape?] at he
          exact newline?_eq_none (by simpa using hc) (by simpa using hr)
  rw [hlines, string?, List.take_succ_cons, List.take_succ_cons, List.take_succ_cons,
    List.take_zero, if_pos rfl]
  simp only [List.drop_succ_cons, List.drop_zero]
  rw [trimNewline_opening hbody]
  exact multiBasicBody_basicText hr text (by omega)

theorem string?_multiLiteral (hp : ∀ c ∈ text, isCoded c = false)
    (hl : longestRun '\x27' text ≤ 2) (hr : rest.head? ≠ some '\x27') :
    string? (spellAs text .multiLiteral ++ rest) = some (text, rest) := by
  have hlines : spellAs text .multiLiteral ++ rest =
      '\x27' :: '\x27' :: '\x27' ::
        (opening text ++ (text ++ '\x27' :: '\x27' :: '\x27' :: rest)) := by
    simp [spellAs]
  have hbody : '\n' ∉ text →
      newline? (text ++ '\x27' :: '\x27' :: '\x27' :: rest) = none := by
    intro hn
    cases text with
    | nil => rfl
    | cons c text =>
      have hc : c ≠ '\n' := fun h => hn (by simp [h])
      have hr : c ≠ '\r' := by
        rintro rfl
        exact absurd (hp '\r' (by simp)) (by decide)
      exact newline?_eq_none (by simpa using hc) (by simpa using hr)
  rw [hlines, string?, List.take_succ_cons, List.take_succ_cons, List.take_succ_cons,
    List.take_zero, if_neg (by decide), if_pos rfl]
  simp only [List.drop_succ_cons, List.drop_zero]
  rw [trimNewline_opening hbody]
  exact multiLiteralBody_append hr (fun c hc => plain_of_not_coded (hp c hc)) hl

/-- A text that is written as a string is read from it, and what follows it is left. -/
theorem string?_spellAs (hm : rest.head? ≠ some '"') (hl : rest.head? ≠ some '\x27') :
    string? (spellAs text (form text) ++ rest) = some (text, rest) := by
  cases hf : form text with
  | basic => exact string?_basic hm
  | literal => exact string?_literal (literal_of_form hf) hl
  | multiBasic => exact string?_multiBasic hm
  | multiLiteral =>
    obtain ⟨hp, hrun⟩ := multiLiteral_of_form hf
    exact string?_multiLiteral hp hrun hl

/-- A string begins with one of its marks. -/
theorem spell_head (text : String) :
    ∃ mark tail, (mark = '"' ∨ mark = '\x27') ∧ (spell text).toList = mark :: tail := by
  rw [spell, String.toList_ofList]
  cases form text.toList with
  | basic | multiBasic => exact ⟨'"', _, .inl rfl, rfl⟩
  | literal | multiLiteral => exact ⟨'\x27', _, .inr rfl, rfl⟩

theorem value?_spell (hm : rest.head? ≠ some '"') (hl : rest.head? ≠ some '\x27') (depth : Nat)
    (text : String) :
    value? depth ((spell text).toList ++ rest) = some (.string text, rest) := by
  obtain ⟨mark, tail, hkind, hs⟩ := spell_head text
  have hread : string? (mark :: (tail ++ rest)) = some (text.toList, rest) := by
    rw [← List.cons_append, ← hs, spell, String.toList_ofList]
    exact string?_spellAs hm hl
  rw [hs, List.cons_append, value?.eq_def]
  simp [hkind, hread]

end EntityScaffold.Toml
