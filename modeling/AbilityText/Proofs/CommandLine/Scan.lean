/-
AbilityText.Proofs.CommandLine.Scan — what an argument list holds.

An argument list is a row of options, each with its value if it takes one, and then one of seven
endings (`Scans`): the list is over, help or the version is asked for, a value is missing, an
argument is no option that there is, or the rest is the text. This says how arguments are written,
and nothing of what they do.

Every list is such a row (`exists_scans`), and is read option by option: what is asked for is what
the ending asks for with the settings that the options have made (`readArguments_of_scans`).
-/
import AbilityText.Proofs.CommandLine.Spellings

namespace AbilityText.CommandLine

/-! ## §1 Options and endings -/

/-- An option with what it sets. -/
inductive Item
  | color (on : Bool)
  | mode (mode : Mode)
  | valued (option : ValueOption) (value : Text)
deriving DecidableEq

/-- The options without a value. -/
def flags : List (Text × Item) :=
  [("--color", .color true), ("--no-color", .color false), ("--list-games", .mode .listGames),
   ("--sentence", .mode .sentences)]

/-- The arguments by which an option is written. An option with a value takes two, or one with an
equals sign: that one gives it the value without the openings at its start. -/
inductive Item.Written : Item → List Text → Prop
  | flag {name : Text} {item : Item} : (name, item) ∈ flags → Written item [name]
  | apart {option : ValueOption} {name value : Text} : name ∈ option.names →
      Written (.valued option value) [name, value]
  | inline {option : ValueOption} {value bare : Text} : option = .game ∨ option = .input →
      IsBare option.opening value bare → Written (.valued option bare) [option.opening ++ value]

/-- The arguments that ask for help. -/
def helpNames : List Text := ["-h", "--help"]

/-- The arguments that ask for the version. -/
def versionNames : List Text := ["-V", "--version"]

/-- The arguments that mean something as they stand. -/
def knownArguments : List Text :=
  helpNames ++ versionNames ++ flags.map Prod.fst ++
    [ValueOption.game, .window, .minComponents, .input].flatMap ValueOption.names ++ [("--" : Text)]

/-- Why no further option is read. -/
inductive Ending
  | finished
  | help
  | version
  /-- The name of an option is the last argument. -/
  | missingValue (option : ValueOption)
  | unknownOption (argument : Text)
  /-- What stands behind two dashes. -/
  | tail (text : Text)
  /-- What the first argument that is no option opens. -/
  | text (text : Text)
deriving DecidableEq

/-- The arguments, down to the last one, by which an ending is written. -/
inductive Ending.Written : Ending → List Text → Prop
  | finished : Written .finished []
  | help {argument : Text} {rest : List Text} : argument ∈ helpNames →
      Written .help (argument :: rest)
  | version {argument : Text} {rest : List Text} : argument ∈ versionNames →
      Written .version (argument :: rest)
  | missingValue {option : ValueOption} {name : Text} : name ∈ option.names →
      Written (.missingValue option) [name]
  | unknownOption {argument : Text} {rest : List Text} : argument.head? = some '-' →
      argument ∉ knownArguments → ¬ValueOption.game.opening <+: argument →
      ¬ValueOption.input.opening <+: argument → Written (.unknownOption argument) (argument :: rest)
  | tail {words : List Text} : Written (.tail (Text.unwords words)) (("--" : Text) :: words)
  | text {word : Text} {rest : List Text} : word.head? ≠ some '-' →
      Written (.text (Text.unwords (word :: rest))) (word :: rest)

/-- The options of an argument list, and how it ends. -/
structure Scan where
  items : List Item
  ending : Ending
deriving DecidableEq

/-- Is the argument list written as these options, one after another, and this ending? -/
inductive Scans : List Text → Scan → Prop
  | ending {arguments : List Text} {ending : Ending} : ending.Written arguments →
      Scans arguments ⟨[], ending⟩
  | item {item : Item} {front rest : List Text} {scan : Scan} : item.Written front →
      Scans rest scan → Scans (front ++ rest) ⟨item :: scan.items, scan.ending⟩

/-! ## §2 How they are read -/

/-- The settings after an option. -/
def Item.apply (settings : Settings) : Item → Except Refusal Settings
  | color on => .ok { settings with color := on }
  | mode chosen => .ok { settings with mode := chosen }
  | valued option value => option.apply settings value

/-- What an ending asks for, with the settings that the options have made. -/
def Ending.request (settings : Settings) : Ending → Except Refusal Request
  | finished => .ok (.work settings)
  | help => .ok .help
  | version => .ok .version
  | missingValue option => .error (.missingValue option.name)
  | unknownOption argument => .error (.unknownOption argument)
  | tail t => if Text.isBlank t then .ok (.work settings) else (settings.withInput t).map .work
  | text t => (settings.withInput t).map .work

section
variable (settings : Settings)

theorem readArguments_item {item : Item} {front : List Text} (h : item.Written front)
    (rest : List Text) : readArguments settings (front ++ rest) =
      (item.apply settings).bind fun settings => readArguments settings rest := by
  cases h with
  | @flag name item listed =>
    have place : Place.ofArgument settings name = .ofSettings (item.apply settings) := by
      simp only [flags, List.mem_cons, Prod.mk.injEq, List.not_mem_nil, or_false] at listed
      rcases listed with ⟨rfl, rfl⟩ | ⟨rfl, rfl⟩ | ⟨rfl, rfl⟩ | ⟨rfl, rfl⟩ <;> rfl
    rw [List.singleton_append, ← Place.resume_ofArgument, place, Place.resume_ofSettings]
  | apart named =>
    rw [List.cons_append, List.singleton_append, ← Place.resume_ofArgument,
      ofArgument_of_mem_names named]
    rfl
  | @inline option value bare inline isBare =>
    have solid : option.opening ≠ [] := by simp [ValueOption.opening]
    have left := IsBare.unique (isBare_dropOpening solid (Nat.le_refl _)) isBare
    rw [List.singleton_append, ← Place.resume_ofArgument, ofArgument_inline inline, left,
      Place.resume_ofSettings]
    rfl

/-- An argument that means nothing as it stands and has no value in it is refused, or opens the
text. -/
theorem ofArgument_of_not_mem {argument : Text} (other : argument ∉ knownArguments)
    (notGame : ¬ValueOption.game.opening <+: argument)
    (notInput : ¬ValueOption.input.opening <+: argument) : Place.ofArgument settings argument =
      if argument.head? = some '-' then .settled (.error (.unknownOption argument))
      else .text settings [argument] := by
  have noGame : inlineValue? "--game=" argument = none :=
    Option.map_eq_none_iff.2 (Text.after?_eq_none notGame)
  have noInput : inlineValue? "--input=" argument = none :=
    Option.map_eq_none_iff.2 (Text.after?_eq_none notInput)
  simp only [knownArguments, helpNames, versionNames, flags, ValueOption.names, List.mem_append,
    List.mem_cons, List.map_cons, List.map_nil, List.flatMap_cons, List.flatMap_nil,
    List.not_mem_nil, or_false, not_or] at other
  simp only [Place.ofArgument, applyFlag?, ValueOption.ofArgument?, other, noGame, noInput,
    decide_false, Bool.or_false, Bool.false_eq_true, if_false]

/-- Whatever means something opens with a dash. -/
theorem head?_of_mem_knownArguments {argument : Text} (h : argument ∈ knownArguments) :
    argument.head? = some '-' := by
  have each : ∀ argument ∈ knownArguments, argument.head? = some '-' := by decide
  exact each argument h

theorem head?_of_opening {option : ValueOption} {argument : Text}
    (h : option.opening <+: argument) : argument.head? = some '-' := by
  obtain ⟨value, rfl⟩ := h
  cases option <;> rfl

theorem readArguments_ending {ending : Ending} {arguments : List Text}
    (h : ending.Written arguments) :
    readArguments settings arguments = ending.request settings := by
  cases h with
  | finished => exact readArguments.eq_1 settings
  | help named =>
    simp only [helpNames, List.mem_cons, List.not_mem_nil, or_false] at named
    rw [← Place.resume_ofArgument]
    rcases named with rfl | rfl <;> rfl
  | version named =>
    simp only [versionNames, List.mem_cons, List.not_mem_nil, or_false] at named
    rw [← Place.resume_ofArgument]
    rcases named with rfl | rfl <;> rfl
  | missingValue named =>
    rw [← Place.resume_ofArgument, ofArgument_of_mem_names named]
    rfl
  | unknownOption dash other notGame notInput =>
    rw [← Place.resume_ofArgument, ofArgument_of_not_mem settings other notGame notInput,
      if_pos dash]
    rfl
  | tail =>
    rw [← Place.resume_ofArgument]
    rfl
  | text plain =>
    rw [← Place.resume_ofArgument, ofArgument_of_not_mem settings
      (fun known => plain (head?_of_mem_knownArguments known))
      (fun opens => plain (head?_of_opening opens)) (fun opens => plain (head?_of_opening opens)),
      if_neg plain]
    rfl

/-- **Options are read one after another, and then the ending.** -/
theorem readArguments_of_scans {arguments : List Text} {scan : Scan} (h : Scans arguments scan) :
    readArguments settings arguments = (scan.items.foldlM Item.apply settings).bind
      fun settings => scan.ending.request settings := by
  induction h generalizing settings with
  | ending written => exact readArguments_ending settings written
  | @item item front rest scan written later ih =>
    rw [readArguments_item settings written, List.foldlM_cons]
    cases applied : item.apply settings with
    | error refusal => rfl
    | ok settings' => exact ih settings'

end

/-! ## §3 Every argument list is a row of options with an ending -/

/-- What an argument may be where an option is read. -/
theorem argument_cases (argument : Text) :
    (∃ item : Item, item.Written [argument]) ∨ (∃ option : ValueOption, argument ∈ option.names) ∨
      ∀ rest, ∃ ending : Ending, ending.Written (argument :: rest) := by
  have inlineCase : ∀ option : ValueOption, option = .game ∨ option = .input →
      option.opening <+: argument → ∃ item : Item, item.Written [argument] := by
    rintro option inline ⟨value, rfl⟩
    have solid : option.opening ≠ [] := by simp [ValueOption.opening]
    exact ⟨_, .inline inline (isBare_dropOpening solid (Nat.le_refl value.length))⟩
  by_cases known : argument ∈ knownArguments
  · simp only [knownArguments, List.mem_append, or_assoc] at known
    rcases known with help | version | flag | option | dashes
    · exact .inr (.inr fun rest => ⟨.help, .help help⟩)
    · exact .inr (.inr fun rest => ⟨.version, .version version⟩)
    · obtain ⟨⟨name, item⟩, listed, rfl⟩ := List.mem_map.1 flag
      exact .inl ⟨item, .flag listed⟩
    · obtain ⟨option, -, named⟩ := List.mem_flatMap.1 option
      exact .inr (.inl ⟨option, named⟩)
    · obtain rfl := List.mem_singleton.1 dashes
      exact .inr (.inr fun rest => ⟨_, .tail⟩)
  · by_cases game : ValueOption.game.opening <+: argument
    · exact .inl (inlineCase .game (.inl rfl) game)
    · by_cases input : ValueOption.input.opening <+: argument
      · exact .inl (inlineCase .input (.inr rfl) input)
      · by_cases dash : argument.head? = some '-'
        · exact .inr (.inr fun rest => ⟨_, .unknownOption dash known game input⟩)
        · exact .inr (.inr fun rest => ⟨_, .text dash⟩)

/-- **Every argument list can be scanned.** -/
theorem exists_scans : ∀ arguments : List Text, ∃ scan, Scans arguments scan
  | [] => ⟨_, .ending .finished⟩
  | argument :: rest => by
    rcases argument_cases argument with ⟨item, written⟩ | ⟨option, named⟩ | ending
    · obtain ⟨scan, later⟩ := exists_scans rest
      exact ⟨_, .item written later⟩
    · cases rest with
      | nil => exact ⟨_, .ending (.missingValue named)⟩
      | cons value more =>
        obtain ⟨scan, later⟩ := exists_scans more
        exact ⟨_, .item (.apart named) later⟩
    · obtain ⟨ending, written⟩ := ending rest
      exact ⟨_, .ending written⟩

end AbilityText.CommandLine
