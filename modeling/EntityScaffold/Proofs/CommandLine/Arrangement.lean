import EntityScaffold.Proofs.CommandLine.Invocations

/-!
Arrangements of a command line. The options may stand anywhere among the words, in any order, and
each of them in any of its spellings: the same command is read, and its words keep their order.
-/

namespace EntityScaffold.CommandLine

/-- What one option is to be. -/
inductive Setting where
  | path (option : PathOption) (value : String)
  | dryRun
  deriving DecidableEq, Repr

/-- A value that is not taken for another option, nor for the equals sign before a value. -/
def PlainValue (value : String) : Prop := ∃ c ∈ value.toList.head?, c ≠ '-' ∧ c ≠ '='

namespace Setting

/-- The option, if it is one that has a value. -/
def option? : Setting → Option PathOption
  | .path option _ => some option
  | .dryRun => none

/-- The arguments in which a setting may be spelled. -/
inductive Spelled : Setting → List String → Prop where
  | dryRun : Spelled .dryRun ["--dry-run"]
  | attached (option : PathOption) (value : String) :
    Spelled (.path option value) ["-" ++ String.singleton option.letter ++ value]
  | attachedEquals (option : PathOption) (value : String) :
    Spelled (.path option value) ["-" ++ String.singleton option.letter ++ "=" ++ value]
  | apart (option : PathOption) (value : String) :
    Spelled (.path option value) ["-" ++ String.singleton option.letter, value]
  | longEquals (option : PathOption) (value : String) :
    Spelled (.path option value) ["--" ++ option.name ++ "=" ++ value]
  | longApart (option : PathOption) (value : String) :
    Spelled (.path option value) ["--" ++ option.name, value]

/-- The setting is for an option that is accepted, and its value is plain. -/
def Fits (accepts : Accepts) : Setting → Prop
  | .path option value => option ∈ accepts.paths ∧ PlainValue value
  | .dryRun => accepts.dryRun

end Setting

/-- Words and settings written down as arguments, mixed in any way that keeps both orders. -/
inductive Written : List String → List Setting → List String → Prop where
  | nil : Written [] [] []
  | word {words : List String} {settings : List Setting} {args : List String} (word : String)
    (rest : Written words settings args) : Written (word :: words) settings (word :: args)
  | setting {words : List String} {settings : List Setting} {args : List String}
    {setting : Setting} {spelling : List String} (h : setting.Spelled spelling)
    (rest : Written words settings args) :
    Written words (setting :: settings) (spelling ++ args)

variable {accepts : Accepts} {text : String} {option : PathOption} {value : String}

/-! ### One argument -/

theorem argument_word (h : text.toList.head? ≠ some '-') : argument accepts text = .word := by
  unfold argument
  split <;> simp_all

theorem argument_long {body : List Char} (hb : body ≠ []) (h : text.toList = '-' :: '-' :: body) :
    argument accepts text = longArgument accepts body := by
  obtain ⟨c, rest, rfl⟩ := List.exists_cons_of_ne_nil hb
  rw [argument, h]
  rfl

theorem argument_short {letter : Char} {body : List Char} (h : text.toList = '-' :: letter :: body)
    (hl : letter ≠ '-') : argument accepts text = shortArgument accepts letter body := by
  rw [argument, h]
  split <;> simp_all

/-- An option is found by what no other option has. -/
theorem find?_option {α : Type} [DecidableEq α] {f : PathOption → α} (hf : Function.Injective f)
    {options : List PathOption} (h : option ∈ options) :
    options.find? (fun other => f other = f option) = some option := by
  obtain ⟨found, hfound⟩ := Option.isSome_iff_exists.mp
    (List.find?_isSome (p := fun other => decide (f other = f option)).mpr ⟨option, h, by simp⟩)
  have he : f found = f option := by simpa using List.find?_some hfound
  rw [hfound, hf he]

theorem PathOption.letter_injective : Function.Injective PathOption.letter := by
  intro one other h
  cases one <;> cases other <;> simp_all [letter]

theorem PathOption.name_injective :
    Function.Injective fun option : PathOption => option.name.toList := by
  intro one other h
  cases one <;> cases other <;> simp_all [name]

theorem shortArgument_path (h : option ∈ accepts.paths) (body : List Char) :
    shortArgument accepts option.letter body = .path option (attached body) := by
  rw [shortArgument, find?_option PathOption.letter_injective h]

theorem PathOption.equals_not_mem_name (option : PathOption) : '=' ∉ option.name.toList := by
  cases option <;> decide

theorem longArgument_name (h : option ∈ accepts.paths) :
    longArgument accepts option.name.toList = .path option none := by
  obtain ⟨htake, hdrop⟩ := Text.not_cut option.equals_not_mem_name
  rw [longArgument, htake, find?_option PathOption.name_injective h, hdrop]
  rfl

theorem longArgument_value (h : option ∈ accepts.paths) (value : String) :
    longArgument accepts (option.name.toList ++ '=' :: value.toList) =
      .path option (some value) := by
  obtain ⟨htake, hdrop⟩ := Text.cut_at_mark option.equals_not_mem_name value.toList
  rw [longArgument, htake, find?_option PathOption.name_injective h, hdrop]
  simp

theorem attached_plain (h : PlainValue value) : attached value.toList = some value := by
  obtain ⟨c, hc, -, he⟩ := h
  obtain ⟨rest, ht⟩ := List.head?_eq_some_iff.mp hc
  rw [← value.ofList_toList, String.toList_ofList, ht]
  unfold attached
  split <;> simp_all

theorem PlainValue.ne_empty (h : PlainValue value) : value ≠ "" := by
  rintro rfl
  obtain ⟨c, hc, -⟩ := h
  cases hc

theorem PlainValue.isValue (h : PlainValue value) : Arguments.isValue value := by
  obtain ⟨c, hc, hd, -⟩ := h
  simp [Arguments.isValue, Option.mem_def.mp hc, hd]

/-- An argument that begins a spelling is understood as its option, with the value if that is in
the same argument. -/
theorem argument_spelled {spelling : List String}
    (h : (Setting.path option value).Spelled spelling) (ho : option ∈ accepts.paths)
    (hv : PlainValue value) :
    (∃ text, spelling = [text] ∧ argument accepts text = .path option (some value)) ∨
      ∃ text, spelling = [text, value] ∧ argument accepts text = .path option none := by
  have hname : option.name.toList ≠ [] := by cases option <;> decide
  have hletter : option.letter ≠ '-' := by cases option <;> decide
  have hshort (body : List Char) {text : String} (ht : text.toList = '-' :: option.letter :: body) :
      argument accepts text = .path option (attached body) := by
    rw [argument_short ht hletter, shortArgument_path ho]
  cases h with
  | attached =>
    refine .inl ⟨_, rfl, ?_⟩
    rw [hshort value.toList (by simp), attached_plain hv]
  | attachedEquals =>
    refine .inl ⟨_, rfl, ?_⟩
    rw [hshort ('=' :: value.toList) (by simp), attached, String.ofList_toList]
  | apart =>
    refine .inr ⟨_, rfl, ?_⟩
    rw [hshort [] (by simp), attached]
  | longEquals =>
    refine .inl ⟨_, rfl, ?_⟩
    have hbody : option.name.toList ++ '=' :: value.toList ≠ [] := by simp
    rw [argument_long hbody (by simp), longArgument_value ho]
  | longApart =>
    refine .inr ⟨_, rfl, ?_⟩
    rw [argument_long hname (by simp), longArgument_name ho]

/-! ### What has been read -/

namespace Arguments

variable {arguments : Arguments} {setting : Setting} {words : List String}

/-- A setting is among what has been read. -/
def Holds (arguments : Arguments) : Setting → Prop
  | .path option value => arguments.path? option = some ⟨value⟩
  | .dryRun => arguments.dryRun

/-- Nothing has been read yet for the option of a setting. -/
def Lacks (arguments : Arguments) (setting : Setting) : Prop :=
  ∀ other, other.option? = setting.option? → ¬ arguments.Holds other

def set (arguments : Arguments) : Setting → Arguments
  | .path option value => { arguments with paths := arguments.paths ++ [(option, ⟨value⟩)] }
  | .dryRun => { arguments with dryRun := true }

theorem words_set (arguments : Arguments) (setting : Setting) :
    (arguments.set setting).words = arguments.words := by
  cases setting <;> rfl

theorem Lacks.path? (h : arguments.Lacks (.path option value)) : arguments.path? option = none := by
  cases hp : arguments.path? option with
  | none => rfl
  | some path => exact absurd hp (h (.path option path.text) rfl)

theorem path?_set (other : PathOption) (h : arguments.path? option = none) :
    (arguments.set (.path option value)).path? other =
      if other = option then some ⟨value⟩ else arguments.path? other := by
  unfold Arguments.path? at h ⊢
  rw [set, List.lookup_append]
  by_cases he : other = option
  · simp [he, h]
  · simp [he, List.lookup_cons, beq_false_of_ne he]

theorem holds_set (h : arguments.Lacks setting) (other : Setting) :
    (arguments.set setting).Holds other ↔ other = setting ∨ arguments.Holds other := by
  cases setting with
  | path option value =>
    have hnone := h.path?
    cases other with
    | path another text =>
      by_cases he : another = option
      · obtain rfl := he
        simp [Holds, path?_set another hnone, hnone, eq_comm]
      · simp [Holds, path?_set another hnone, he]
    | dryRun => simp [Holds, set]
  | dryRun =>
    cases other with
    | path another text => simp [Holds, set, Arguments.path?]
    | dryRun => simp [Holds, set]

/-! ### Reading -/

theorem give?_plain (h : arguments.Lacks (.path option value)) (hv : PlainValue value) :
    arguments.give? option value = some (arguments.set (.path option value)) := by
  rw [give?, h.path?, if_neg (by simp [hv.ne_empty]), set]

/-- A setting is read whatever its spelling. -/
theorem read?_spelled {spelling : List String} (hs : setting.Spelled spelling)
    (hf : setting.Fits accepts) (hl : arguments.Lacks setting) (rest : List String) :
    read? accepts arguments (spelling ++ rest) = read? accepts (arguments.set setting) rest := by
  cases setting with
  | dryRun =>
    cases hs
    have hnot : arguments.dryRun = false := by simpa [Holds] using hl .dryRun rfl
    have ha : argument accepts "--dry-run" = .dryRun := by
      rw [argument_dryRun]
      exact if_pos hf
    rw [List.singleton_append, read?, ha]
    simp [hnot, set]
  | path option value =>
    obtain ⟨ho, hv⟩ := hf
    rcases argument_spelled hs ho hv with ⟨text, rfl, ha⟩ | ⟨text, rfl, ha⟩
    · rw [List.singleton_append, read?, ha]
      simp [give?_plain hl hv]
    · rw [List.cons_append, List.singleton_append, read?, ha]
      simp [give?_plain hl hv, hv.isValue]

theorem read?_word (hw : text.toList.head? ≠ some '-') (ht : ∀ words, takes accepts words)
    (rest : List String) :
    read? accepts arguments (text :: rest) =
      read? accepts { arguments with words := arguments.words ++ [text] } rest := by
  rw [read?, argument_word hw]
  simp [addWords?, ht]

/-- However words and settings are arranged, all of them are read: the words in their order, and
every setting. -/
theorem read?_written {settings : List Setting} {args : List String}
    (h : Written words settings args) (hw : ∀ word ∈ words, word.toList.head? ≠ some '-')
    (hf : ∀ setting ∈ settings, setting.Fits accepts)
    (hd : (settings.map Setting.option?).Nodup)
    (hl : ∀ setting ∈ settings, arguments.Lacks setting) (ht : ∀ words, takes accepts words) :
    ∃ result, read? accepts arguments args = some (result, false) ∧
      result.words = arguments.words ++ words ∧
      ∀ setting, result.Holds setting ↔ setting ∈ settings ∨ arguments.Holds setting := by
  induction h generalizing arguments with
  | nil => exact ⟨arguments, rfl, by simp, by simp⟩
  | @word _ settings _ word _ ih =>
    obtain ⟨hword, hw⟩ := List.forall_mem_cons.mp hw
    have hlacks : ∀ setting ∈ settings,
        ({ arguments with words := arguments.words ++ [word] } : Arguments).Lacks setting := hl
    obtain ⟨result, hread, hwords, hholds⟩ := ih hw hf hd hlacks
    exact ⟨result, by rw [read?_word hword ht, hread], by simp [hwords], hholds⟩
  | @setting _ settings _ setting _ hs _ ih =>
    obtain ⟨hfit, hf⟩ := List.forall_mem_cons.mp hf
    obtain ⟨hlacks, hl⟩ := List.forall_mem_cons.mp hl
    rw [List.map_cons, List.nodup_cons] at hd
    have hnext : ∀ other ∈ settings, (arguments.set setting).Lacks other := by
      intro other ho again he hh
      rcases (holds_set hlacks again).mp hh with rfl | hh
      · exact hd.1 (he ▸ List.mem_map_of_mem ho)
      · exact hl other ho again he hh
    obtain ⟨result, hread, hwords, hholds⟩ := ih hw hf hd.2 hnext
    refine ⟨result, by rw [read?_spelled hs hfit hlacks, hread], by rw [hwords, words_set], ?_⟩
    intro other
    rw [hholds, holds_set hlacks, List.mem_cons]
    exact or_left_comm.trans or_assoc.symm

theorem path?_eq_map {value : Option String}
    (h : ∀ text, arguments.Holds (.path option text) ↔ value = some text) :
    arguments.path? option = value.map Path.mk := by
  cases value with
  | some text => exact (h text).mpr rfl
  | none =>
    cases hp : arguments.path? option with
    | none => rfl
    | some path => exact absurd ((h path.text).mp hp) (by simp)

end Arguments

/-! ### Choosing settings -/

/-- The settings for those of the options that have a value, one for each, and the dry run if it is
asked for. -/
def chosen (options : List PathOption) (values : PathOption → Option String) (dryRun : Bool) :
    List Setting :=
  (options.filterMap fun option => (values option).map (.path option)) ++
    if dryRun then [.dryRun] else []

variable {options : List PathOption} {values : PathOption → Option String} {dryRun : Bool}

theorem path_mem_chosen : .path option value ∈ chosen options values dryRun ↔
    option ∈ options ∧ values option = some value := by
  unfold chosen
  cases dryRun <;> simp

theorem dryRun_mem_chosen : .dryRun ∈ chosen options values dryRun ↔ dryRun := by
  unfold chosen
  cases dryRun <;> simp

theorem chosen_distinct (h : options.Nodup) :
    ((chosen options values dryRun).map Setting.option?).Nodup := by
  rw [chosen, List.map_append, List.map_filterMap]
  have hoptions (option : PathOption) (given : Option PathOption) :
      given ∈ ((values option).map (Setting.path option)).map Setting.option? →
        given = some option := by
    cases values option with
    | none => simp
    | some value => simp [Setting.option?, eq_comm]
  refine List.Nodup.append (h.filterMap ?_) (by cases dryRun <;> simp) ?_
  · intro one other given hone hother
    exact Option.some.inj ((hoptions one given hone).symm.trans (hoptions other given hother))
  · -- the dry run is no option with a value
    intro given hg hdry
    obtain ⟨option, -, hm⟩ := List.mem_filterMap.mp hg
    rw [hoptions option given hm] at hdry
    cases dryRun <;> simp [Setting.option?] at hdry

theorem chosen_fits (hd : dryRun → accepts.dryRun)
    (hv : ∀ option ∈ accepts.paths, ∀ value ∈ values option, PlainValue value) :
    ∀ setting ∈ chosen accepts.paths values dryRun, setting.Fits accepts := by
  intro setting hm
  cases setting with
  | path option value =>
    obtain ⟨ho, hvalue⟩ := path_mem_chosen.mp hm
    exact ⟨ho, hv option ho value hvalue⟩
  | dryRun => exact hd (dryRun_mem_chosen.mp hm)

namespace Command

/-- A command is made of the settings that its arguments hold. -/
theorem ofModel_chosen {arguments : Arguments}
    (h : ∀ setting, arguments.Holds setting ↔
      setting ∈ chosen modelAccepts.paths values dryRun) :
    ofModel arguments = some (.model arguments.words
      { root := ((values .output).map Path.mk).getD ⟨"."⟩
        config := (values .config).map Path.mk
        templates := (values .templates).map Path.mk } dryRun) := by
  have hpath {option : PathOption} (ho : option ∈ modelAccepts.paths) :
      arguments.path? option = (values option).map Path.mk :=
    Arguments.path?_eq_map fun value => (h _).trans (path_mem_chosen.trans (and_iff_right ho))
  have hdry : arguments.dryRun = dryRun :=
    Bool.eq_iff_iff.mpr ((h .dryRun).trans dryRun_mem_chosen)
  rw [ofModel, projectOptions, hpath (by decide), hpath (by decide), hpath (by decide), hdry]

/-- A command to make a model may have its options anywhere among the words, in any order and in
any spelling. It is always the same command, its words are those that are written in their order,
and so everything that comes of it is the same too. -/
theorem model_any_arrangement (words : List String) (values : PathOption → Option String)
    (dryRun : Bool) (hwords : ∀ word ∈ words, word.toList.head? ≠ some '-')
    (hvalues : ∀ option ∈ [PathOption.output, .config, .templates], ∀ value ∈ values option,
      PlainValue value) :
    let command := Command.model words
      { root := ((values .output).map Path.mk).getD ⟨"."⟩
        config := (values .config).map Path.mk
        templates := (values .templates).map Path.mk } dryRun
    ∀ settings args, settings.Perm (chosen [.output, .config, .templates] values dryRun) →
      Written words settings args →
      parse? ("model" :: args) = some command ∧
      ∀ fs, perform ("model" :: args) fs = (command.run : StateM FileSystem Outcome) fs := by
  intro command settings args hperm hargs
  have hnone : ∀ setting ∈ settings, ({} : Arguments).Lacks setting := by
    intro setting _ other _ hh
    cases other <;> cases hh
  have hfits : ∀ setting ∈ settings, setting.Fits modelAccepts :=
    fun setting hm => chosen_fits (fun _ => rfl) hvalues setting (hperm.mem_iff.mp hm)
  have hdistinct : (settings.map Setting.option?).Nodup :=
    (hperm.map Setting.option?).nodup_iff.mpr (chosen_distinct (by decide))
  obtain ⟨result, hread, hresult, hholds⟩ :=
    Arguments.read?_written hargs hwords hfits hdistinct hnone fun _ => rfl
  have hchosen (setting : Setting) :
      result.Holds setting ↔ setting ∈ chosen modelAccepts.paths values dryRun := by
    rw [hholds, hperm.mem_iff]
    refine or_iff_left ?_
    cases setting <;> simp [Arguments.Holds, Arguments.path?]
  have hparse : parse? ("model" :: args) = some command := by
    change readWith modelAccepts ofModel args = some command
    rw [readWith, hread]
    change ofModel result = some command
    rw [ofModel_chosen hchosen, hresult, List.nil_append]
  refine ⟨hparse, fun fs => ?_⟩
  rw [perform, CommandLine.run, hparse]

/-- A word that looks like a letter with its value, a value that holds a colon, and the empty word
at the end. -/
theorem model_any_arrangement_mixed :
    let words := ["post", "o:t", ""]
    (∀ word ∈ words, word.toList.head? ≠ some '-') ∧
      parse? ["model", "-t", "t", "post", "--dry-run", "o:t", "-oo:u", ""] =
        some (.model words { root := ⟨"o:u"⟩, templates := some ⟨"t"⟩ } true) := by
  intro words
  let values : PathOption → Option String
    | .output => some "o:u"
    | .templates => some "t"
    | _ => none
  have hwords : ∀ word ∈ words, word.toList.head? ≠ some '-' := by decide
  have hvalues : ∀ option ∈ [PathOption.output, .config, .templates], ∀ value ∈ values option,
      PlainValue value := by
    intro option _ value hv
    cases option <;> cases hv
    · exact ⟨'o', rfl, by decide, by decide⟩
    · exact ⟨'t', rfl, by decide, by decide⟩
  have hperm : [Setting.path .templates "t", .dryRun, .path .output "o:u"].Perm
      (chosen [.output, .config, .templates] values true) := by decide
  have hargs : Written words [.path .templates "t", .dryRun, .path .output "o:u"]
      ["-t", "t", "post", "--dry-run", "o:t", "-oo:u", ""] :=
    .setting (.apart ..) (.word _ (.setting .dryRun (.word _ (.setting (.attached ..)
      (.word _ .nil)))))
  exact ⟨hwords, (model_any_arrangement words values true hwords hvalues _ _ hperm hargs).1⟩

end Command

end EntityScaffold.CommandLine
