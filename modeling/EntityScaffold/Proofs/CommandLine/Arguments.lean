import EntityScaffold.CommandLine.Command

/-!
Asking for a dry run. An argument that does is not overlooked: the command that is read writes
nothing, or none is read at all.
-/

namespace EntityScaffold.CommandLine

variable {accepts : Accepts} {text : String} {rest args : List String}

/-- The arguments before the end of the options. -/
def optionsPart (args : List String) : List String := args.takeWhile (· ≠ "--")

theorem mem_optionsPart_cons {other : String} :
    other ∈ optionsPart (text :: rest) ↔
      text ≠ "--" ∧ (other = text ∨ other ∈ optionsPart rest) := by
  unfold optionsPart
  rw [List.takeWhile_cons]
  by_cases h : text = "--" <;> simp [h]

/-! ### One argument -/

theorem argument_dryRun (accepts : Accepts) :
    argument accepts "--dry-run" = if accepts.dryRun then .dryRun else .unknown := by
  have hname (option : PathOption) : ¬ option.name.toList = "dry-run".toList := by
    cases option <;> decide
  have hnone : (accepts.paths.find? fun option =>
      option.name.toList = "dry-run".toList.takeWhile (· ≠ '=')) = none := by
    rw [List.find?_eq_none]
    intro option _
    simpa using hname option
  have hlong : argument accepts "--dry-run" = longArgument accepts "dry-run".toList := rfl
  rw [hlong, longArgument, hnone]
  simp

/-- What an argument is that begins with a dash and ends no options. -/
inductive Argument.IsOption (accepts : Accepts) : Argument → Prop where
  | path (option : PathOption) (value : Option String) : IsOption accepts (.path option value)
  | help : IsOption accepts .help
  | dryRun (h : accepts.dryRun) : IsOption accepts .dryRun
  | unknown : IsOption accepts .unknown

theorem longArgument_isOption (accepts : Accepts) (body : List Char) :
    (longArgument accepts body).IsOption accepts := by
  unfold longArgument
  dsimp only
  split
  · exact .path ..
  · split
    · exact .help
    · split
      · next hd => exact .dryRun hd.1
      · exact .unknown

theorem shortArgument_isOption (accepts : Accepts) (letter : Char) (body : List Char) :
    (shortArgument accepts letter body).IsOption accepts := by
  unfold shortArgument
  split
  · exact .path ..
  · split
    · exact .help
    · exact .unknown

theorem argument_cases (accepts : Accepts) (text : String) :
    argument accepts text = .word ∨ text = "--" ∧ argument accepts text = .endOfOptions ∨
      (argument accepts text).IsOption accepts := by
  unfold argument
  split
  · next ht => exact .inr (.inl ⟨String.toList_injective ht, rfl⟩)
  · exact .inr (.inr (longArgument_isOption ..))
  · exact .inr (.inr (shortArgument_isOption ..))
  · exact .inl rfl

theorem accepts_dryRun (h : argument accepts text = .dryRun) : accepts.dryRun := by
  rcases argument_cases accepts text with hw | ⟨-, he⟩ | ho
  · simp [h] at hw
  · simp [h] at he
  · rw [h] at ho
    cases ho with
    | dryRun hd => exact hd

theorem eq_of_endOfOptions (h : argument accepts text = .endOfOptions) : text = "--" := by
  rcases argument_cases accepts text with hw | ⟨ht, -⟩ | ho
  · simp [h] at hw
  · exact ht
  · rw [h] at ho
    cases ho

/-- The asking comes later if an argument is understood as something else. -/
theorem mem_optionsPart_rest (hd : argument accepts text ≠ .dryRun)
    (hu : argument accepts text ≠ .unknown) (h : "--dry-run" ∈ optionsPart (text :: rest)) :
    "--dry-run" ∈ optionsPart rest := by
  obtain ⟨-, rfl | h⟩ := mem_optionsPart_cons.mp h
  · rw [argument_dryRun] at hd hu
    split at hd
    · exact absurd rfl hd
    · next hn => exact absurd (if_neg hn) hu
  · exact h

namespace Arguments

variable {arguments result : Arguments} {helpAsked : Bool}

theorem dryRun_give? {option : PathOption} {value : String}
    (h : arguments.give? option value = some result) : result.dryRun = arguments.dryRun := by
  unfold give? at h
  split at h <;> cases h
  rfl

theorem dryRun_addWords? {words : List String}
    (h : arguments.addWords? accepts words = some result) : result.dryRun = arguments.dryRun := by
  unfold addWords? at h
  dsimp only at h
  split at h <;> cases h
  rfl

/-- A dry run is asked for by what was read, or will be by what is still to be read. -/
def AsksDryRun (accepts : Accepts) (arguments : Arguments) (args : List String) : Prop :=
  (arguments.dryRun ∧ accepts.dryRun) ∨ "--dry-run" ∈ optionsPart args

theorem AsksDryRun.next {next : Arguments} (h : AsksDryRun accepts arguments (text :: rest))
    (hd : argument accepts text ≠ .dryRun) (hu : argument accepts text ≠ .unknown)
    (hn : next.dryRun = arguments.dryRun) : AsksDryRun accepts next rest := by
  rcases h with ⟨hr, ha⟩ | hm
  · exact .inl ⟨hn.trans hr, ha⟩
  · exact .inr (mem_optionsPart_rest hd hu hm)

/-- Reading that succeeds ends at a request for help, or finds the dry run where it is accepted. -/
theorem AsksDryRun.read? (ha : AsksDryRun accepts arguments args)
    (h : read? accepts arguments args = some (result, helpAsked)) :
    helpAsked ∨ result.dryRun ∧ accepts.dryRun := by
  fun_induction Arguments.read? accepts arguments args with
  | case1 arguments =>
    cases h
    exact .inr (ha.resolve_right (by simp [optionsPart]))
  | case2 arguments text rest harg ih =>
    obtain ⟨next, hnext, h⟩ := Option.bind_eq_some_iff.mp h
    exact ih next (ha.next (by simp [harg]) (by simp [harg]) (dryRun_addWords? hnext)) h
  | case3 arguments text rest harg =>
    obtain ⟨next, hnext, h⟩ := Option.map_eq_some_iff.mp h
    cases h
    obtain rfl := eq_of_endOfOptions harg
    obtain ⟨hd, haccepts⟩ := ha.resolve_right (by simp [mem_optionsPart_cons])
    exact .inr ⟨(dryRun_addWords? hnext).trans hd, haccepts⟩
  | case4 arguments text rest harg =>
    cases h
    exact .inl rfl
  | case5 => cases h
  | case6 arguments text rest harg hnot ih => exact ih (.inl ⟨rfl, accepts_dryRun harg⟩) h
  | case7 arguments text rest option value harg ih =>
    obtain ⟨next, hnext, h⟩ := Option.bind_eq_some_iff.mp h
    exact ih next (ha.next (by simp [harg]) (by simp [harg]) (dryRun_give? hnext)) h
  | case8 => cases h
  | case9 arguments text option harg value rest hvalue ih =>
    obtain ⟨next, hnext, h⟩ := Option.bind_eq_some_iff.mp h
    have hrest : AsksDryRun accepts next (value :: rest) :=
      ha.next (by simp [harg]) (by simp [harg]) (dryRun_give? hnext)
    refine ih next (hrest.imp_right fun hm => ?_) h
    -- what looks like an option is no value
    obtain ⟨-, rfl | hm⟩ := mem_optionsPart_cons.mp hm
    · exact absurd hvalue (by decide)
    · exact hm
  | case10 => cases h
  | case11 => cases h

end Arguments

end EntityScaffold.CommandLine
