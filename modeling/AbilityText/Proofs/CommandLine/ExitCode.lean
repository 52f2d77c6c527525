/-
AbilityText.Proofs.CommandLine.ExitCode — the exit code of the command line.

The options and the ending of an argument list say which exit code it leads to. It is two when the
list is refused: for a missing value, an unknown option, a count that is none, or a second text
(`Scan.Refused`). Help and the version come first when they are met before any of these. What is
left is to be worked on: the text may be missing or blank, which gives two as well, and the game may
not be registered, which gives one.

What carries the proof is what options leave behind, whatever their order and number (`Reads`): the
texts that they gave, of which there can be one, and the mode and the game that were set last.
-/
import AbilityText.Proofs.CommandLine.Scan
import AbilityText.Proofs.Registry
import AbilityText.Proofs.Text.Numerals

namespace AbilityText.CommandLine

/-! ## §1 Counts -/

/-- A row of ASCII digits, with a plus sign in front of it or without, for a number that fits into
64 bits. -/
def IsCount (value : Text) : Prop :=
  ∃ digits n, (value = digits ∨ value = '+' :: digits) ∧ Text.Spells digits n ∧ n < 2 ^ 64

theorem isCount_iff {value : Text} : IsCount value ↔ ∃ n, count? value = some n := by
  simp only [count?, Text.unsigned?_eq_some_iff]
  constructor
  · rintro ⟨digits, n, written, spells, small⟩
    exact ⟨n, small, digits, written, spells⟩
  · rintro ⟨n, small, digits, written, spells⟩
    exact ⟨digits, n, written, spells, small⟩

/-- A count is read and set, and nothing else is. -/
theorem readCount_cases (option value : Text) (set : Nat → Settings) :
    (IsCount value ∧ ∃ n, (readCount option value >>= fun n => pure (set n)) = .ok (set n)) ∨
      (¬IsCount value ∧ ∃ refusal,
        (readCount option value >>= fun n => pure (set n)) = .error refusal) := by
  rw [readCount]
  cases found : count? value with
  | some n => exact .inl ⟨isCount_iff.2 ⟨n, found⟩, n, rfl⟩
  | none =>
    refine .inr ⟨fun isCount => ?_, .badCount option value, rfl⟩
    obtain ⟨n, there⟩ := isCount_iff.1 isCount
    exact absurd (found.symm.trans there) (by simp)

/-! ## §2 What options leave behind -/

namespace Item

/-- The mode that the option sets. -/
def mode? : Item → Option Mode
  | mode chosen => some chosen
  | _ => none

/-- The game that the option sets. -/
def game? : Item → Option Text
  | valued .game value => some value
  | _ => none

/-- The text that the option gives. -/
def text? : Item → Option Text
  | valued .input value => some value
  | _ => none

/-- An option that takes a count has a value that is none. -/
inductive HasBadCount : Item → Prop
  | window {value : Text} : ¬IsCount value → HasBadCount (valued .window value)
  | minComponents {value : Text} : ¬IsCount value → HasBadCount (valued .minComponents value)

end Item

/-- What options make of settings when none of them is refused. -/
structure Reads (settings : Settings) (items : List Item) (after : Settings) : Prop where
  counts : ∀ item ∈ items, ¬item.HasBadCount
  texts : after.input.toList = settings.input.toList ++ items.filterMap Item.text?
  mode : after.mode = (items.filterMap Item.mode?).getLast?.getD settings.mode
  game : after.game = (items.filterMap Item.game?).getLast?.getD settings.game

section
variable {settings after : Settings} {item : Item} {items : List Item} {refusal : Refusal}

theorem Reads.append {before behind : List Item} {middle : Settings}
    (h : Reads settings before middle) (h' : Reads middle behind after) :
    Reads settings (before ++ behind) after := by
  constructor
  case counts =>
    intro item listed
    exact (List.mem_append.1 listed).elim (h.counts item) (h'.counts item)
  case texts => rw [h'.texts, h.texts, List.filterMap_append, List.append_assoc]
  case mode => rw [h'.mode, h.mode, List.filterMap_append, List.getLast?_append, Option.getD_or]
  case game => rw [h'.game, h.game, List.filterMap_append, List.getLast?_append, Option.getD_or]

/-- A text is taken when there is none yet. -/
theorem withInput_cases (settings : Settings) (t : Text) :
    (settings.input = none ∧ settings.withInput t = .ok { settings with input := some t }) ∨
      ∃ earlier, settings.input = some earlier ∧
        settings.withInput t = .error .repeatedInput := by
  cases given : settings.input with
  | none => exact .inl ⟨rfl, by simp [Settings.withInput, given]⟩
  | some earlier => exact .inr ⟨earlier, rfl, by simp [Settings.withInput, given]⟩

theorem Reads.singleton (fine : ¬item.HasBadCount)
    (texts : after.input.toList = settings.input.toList ++ item.text?.toList)
    (mode : after.mode = item.mode?.getD settings.mode)
    (game : after.game = item.game?.getD settings.game) : Reads settings [item] after := by
  constructor
  case counts => exact fun other listed => List.mem_singleton.1 listed ▸ fine
  case texts => rw [texts, List.filterMap_cons]; cases item.text? <;> rfl
  case mode => rw [mode, List.filterMap_cons]; cases item.mode? <;> rfl
  case game => rw [game, List.filterMap_cons]; cases item.game? <;> rfl

/-- One option is read, unless it has a bad count or is a second text. -/
theorem apply_cases (settings : Settings) (item : Item) :
    (∃ after, item.apply settings = .ok after ∧ Reads settings [item] after) ∨
      (∃ refusal, item.apply settings = .error refusal) ∧
        (item.HasBadCount ∨ 2 ≤ (settings.input.toList ++ item.text?.toList).length) := by
  have unchanged : settings.input.toList = settings.input.toList ++ [] :=
    (List.append_nil _).symm
  cases item with
  | color on => exact .inl ⟨_, rfl, .singleton (fun bad => nomatch bad) unchanged rfl rfl⟩
  | mode chosen => exact .inl ⟨_, rfl, .singleton (fun bad => nomatch bad) unchanged rfl rfl⟩
  | valued option value =>
    cases option with
    | game => exact .inl ⟨_, rfl, .singleton (fun bad => nomatch bad) unchanged rfl rfl⟩
    | window =>
      rcases readCount_cases ValueOption.window.name value
        fun n => { settings with options.window := some n } with ⟨isCount, n, read⟩ | ⟨bad, refused⟩
      · exact .inl ⟨_, read, .singleton (fun | .window bad => bad isCount) unchanged rfl rfl⟩
      · exact .inr ⟨refused, .inl (.window bad)⟩
    | minComponents =>
      rcases readCount_cases ValueOption.minComponents.name value
        fun n => { settings with options.minComponents := some n } with
        ⟨isCount, n, read⟩ | ⟨bad, refused⟩
      · exact .inl ⟨_, read, .singleton (fun | .minComponents bad => bad isCount) unchanged rfl rfl⟩
      · exact .inr ⟨refused, .inl (.minComponents bad)⟩
    | input =>
      rcases withInput_cases settings value with ⟨first, taken⟩ | ⟨earlier, given, refused⟩
      · refine .inl ⟨_, taken, .singleton (fun bad => nomatch bad) ?_ rfl rfl⟩
        rw [first]
        rfl
      · refine .inr ⟨⟨_, refused⟩, .inr ?_⟩
        rw [given]
        exact Nat.le_refl 2

/-- So do several options. -/
theorem foldlM_cases (settings : Settings) (items : List Item) :
    (∃ after, items.foldlM Item.apply settings = .ok after ∧ Reads settings items after) ∨
      (∃ refusal, items.foldlM Item.apply settings = .error refusal) ∧
        ((∃ item ∈ items, item.HasBadCount) ∨
          2 ≤ (settings.input.toList ++ items.filterMap Item.text?).length) := by
  induction items generalizing settings with
  | nil => exact .inl ⟨settings, rfl, ⟨by simp, by simp, rfl, rfl⟩⟩
  | cons item items ih =>
    rw [List.foldlM_cons]
    rcases apply_cases settings item with ⟨middle, applied, first⟩ | ⟨⟨refusal, refused⟩, why⟩
    · rw [applied]
      rcases ih middle with ⟨after, read, later⟩ | ⟨refused, why⟩
      · exact .inl ⟨after, read, first.append later⟩
      · refine .inr ⟨refused, ?_⟩
        rw [first.texts, List.append_assoc, ← List.filterMap_append] at why
        exact why.imp_left fun ⟨other, listed, bad⟩ => ⟨other, List.mem_cons_of_mem _ listed, bad⟩
    · rw [refused]
      refine .inr ⟨⟨refusal, rfl⟩, ?_⟩
      rcases why with bad | twice
      · exact .inl ⟨item, List.mem_cons_self, bad⟩
      · refine .inr (twice.trans ?_)
        rw [List.filterMap_cons]
        cases item.text? <;> simp

end

/-! ## §3 What the argument list asks for -/

namespace Ending

/-- Does the ending ask for something, or leave work to do? -/
def Readable : Ending → Prop
  | missingValue _ => False
  | unknownOption _ => False
  | _ => True

/-- The text that the ending gives. A blank text behind two dashes is none. -/
def text? : Ending → Option Text
  | tail t => if Text.isBlank t then none else some t
  | text t => some t
  | _ => none

end Ending

/-- The text among the arguments is blank, or there is none and the standard input is blank or no
valid text. -/
def NoText (given stdin : Option Text) : Prop := ∀ t ∈ given.or stdin, Text.isBlank t = true

namespace Scan
variable (scan : Scan)

/-- The texts that are given, in order. -/
def texts : List Text := scan.items.filterMap Item.text? ++ scan.ending.text?.toList

/-- The mode that was set last. -/
def mode : Mode := (scan.items.filterMap Item.mode?).getLast?.getD .parse

/-- The game that was set last. -/
def game : Text := (scan.items.filterMap Item.game?).getLast?.getD "magic"

/-- Is help or the version asked for? -/
def AsksForHelp : Prop := scan.ending = .help ∨ scan.ending = .version

/-- Why an argument list is refused. Nothing of this is met behind a request for help, which ends
the list. -/
inductive Refused : Prop
  | missingValue {option : ValueOption} : scan.ending = .missingValue option → Refused
  | unknownOption {argument : Text} : scan.ending = .unknownOption argument → Refused
  | badCount {item : Item} : item ∈ scan.items → item.HasBadCount → Refused
  | repeatedInput : 2 ≤ scan.texts.length → Refused

/-- What an argument list asks for. -/
inductive Asks : Except Refusal Request → Prop
  | refused {refusal : Refusal} : scan.Refused → Asks (.error refusal)
  | help {request : Request} : ¬scan.Refused → scan.AsksForHelp →
      request ∈ [Request.help, .version] → Asks (.ok request)
  | work {settings : Settings} : ¬scan.Refused → ¬scan.AsksForHelp →
      settings.input = scan.texts.head? → settings.mode = scan.mode → settings.game = scan.game →
      Asks (.ok (.work settings))

end Scan

section
variable {color : Bool} {items : List Item} {ending : Ending} {settings : Settings}
  (reads : Reads { color } items settings)
include reads

theorem texts_of_reads :
    (Scan.mk items ending).texts = settings.input.toList ++ ending.text?.toList := by
  rw [Scan.texts, reads.texts]
  rfl

theorem not_refused_of_reads (readable : ending.Readable)
    (single : (settings.input.toList ++ ending.text?.toList).length ≤ 1) :
    ¬(Scan.mk items ending).Refused := by
  rintro (missing | unknown | ⟨listed, bad⟩ | twice)
  · obtain rfl : ending = _ := missing
    exact readable
  · obtain rfl : ending = _ := unknown
    exact readable
  · exact reads.counts _ listed bad
  · rw [texts_of_reads reads] at twice
    exact absurd (twice.trans single) (by decide)

theorem not_refused_of_plain (readable : ending.Readable) (plain : ending.text? = none) :
    ¬(Scan.mk items ending).Refused := by
  refine not_refused_of_reads reads readable ?_
  rw [plain]
  cases settings.input <;> simp

/-- Where the ending gives no text, the settings are those that the options have made. -/
theorem asks_of_plain (readable : ending.Readable) (help : ¬(Scan.mk items ending).AsksForHelp)
    (plain : ending.text? = none) : (Scan.mk items ending).Asks (.ok (.work settings)) := by
  refine .work (not_refused_of_plain reads readable plain) help ?_ reads.mode reads.game
  rw [texts_of_reads reads, plain]
  cases settings.input <;> rfl

/-- A text at the end is the only one, or the second. -/
theorem asks_of_text {t : Text} (readable : ending.Readable)
    (help : ¬(Scan.mk items ending).AsksForHelp) (given : ending.text? = some t) :
    (Scan.mk items ending).Asks ((settings.withInput t).map .work) := by
  have texts : (Scan.mk items ending).texts = settings.input.toList ++ [t] := by
    rw [texts_of_reads reads, given]
    rfl
  rcases withInput_cases settings t with ⟨first, taken⟩ | ⟨earlier, there, refused⟩
  · rw [first] at texts
    rw [taken]
    refine .work (not_refused_of_reads reads readable ?_) help ?_ reads.mode reads.game
    · rw [first, given]
      exact Nat.le_refl 1
    · rw [texts]
      rfl
  · rw [there] at texts
    rw [refused]
    exact .refused (.repeatedInput (texts ▸ Nat.le_refl 2))

end

theorem asks_readArguments {arguments : List Text} {scan : Scan} (h : Scans arguments scan)
    (color : Bool) : scan.Asks (readArguments { color } arguments) := by
  rw [readArguments_of_scans _ h]
  obtain ⟨items, ending⟩ := scan
  rcases foldlM_cases { color } items with ⟨settings, read, reads⟩ | ⟨⟨refusal, refused⟩, why⟩
  · rw [read]
    change (Scan.mk items ending).Asks (ending.request settings)
    cases ending with
    | missingValue option => exact .refused (.missingValue rfl)
    | unknownOption argument => exact .refused (.unknownOption rfl)
    | help =>
      have fine : ¬(Scan.mk items .help).Refused := not_refused_of_plain reads trivial rfl
      exact .help fine (.inl rfl) (by simp)
    | version =>
      have fine : ¬(Scan.mk items .version).Refused := not_refused_of_plain reads trivial rfl
      exact .help fine (.inr rfl) (by simp)
    | finished => exact asks_of_plain reads trivial (by simp [Scan.AsksForHelp]) rfl
    | tail t =>
      have help : ¬(Scan.mk items (.tail t)).AsksForHelp := by simp [Scan.AsksForHelp]
      rw [Ending.request]
      split
      · next blank => exact asks_of_plain reads trivial help (if_pos blank)
      · next solid => exact asks_of_text reads trivial help (if_neg solid)
    | text t => exact asks_of_text reads trivial (by simp [Scan.AsksForHelp]) rfl
  · rw [refused]
    refine .refused (why.elim (fun ⟨item, listed, bad⟩ => .badCount listed bad) fun twice => ?_)
    refine .repeatedInput (twice.trans ?_)
    simp [Scan.texts]

/-! ## §4 What is printed -/

/-- A run prints its result when it succeeds, and a message when it fails, and nothing else. -/
structure Result.PrintsOnce (result : Result) : Prop where
  success : result.code = 0 → result.stdout ≠ [] ∧ result.stderr = []
  failure : result.code ≠ 0 → result.stdout = [] ∧ result.stderr ≠ []

theorem printsOnce_success {stdout : Text} (h : stdout ≠ []) : (Result.success stdout).PrintsOnce :=
  ⟨fun _ => ⟨h, rfl⟩, fun failed => absurd rfl failed⟩

theorem printsOnce_failure {code : Nat} (h : code ≠ 0) (message : Text) :
    (Result.failure code message).PrintsOnce :=
  ⟨fun succeeded => absurd succeeded h, fun _ => ⟨rfl, by simp [Result.failure]⟩⟩

/-- Every line takes a character at least. -/
theorem unlines_ne_nil {lines : List Text} (h : lines ≠ []) : unlines lines ≠ [] := by
  cases lines with
  | nil => exact absurd rfl h
  | cons line lines => simp [unlines]

theorem games_builtIn_ne_nil : Registry.builtIn.games ≠ [] := by decide

theorem printsOnce_work (settings : Settings) (stdin : Option Text) (elapsed : Text) :
    (work settings stdin elapsed).PrintsOnce := by
  rw [work]
  split
  · exact printsOnce_success (unlines_ne_nil games_builtIn_ne_nil)
  · split
    · exact printsOnce_failure (by decide) _
    · exact printsOnce_success (unlines_ne_nil (by simp))
  · split
    · exact printsOnce_failure (by decide) _
    · split
      · exact printsOnce_failure (by decide) _
      · exact printsOnce_success (unlines_ne_nil (by simp))

theorem printsOnce_answer (request : Except Refusal Request) (stdin : Option Text)
    (elapsed : Text) : (answer request stdin elapsed).PrintsOnce := by
  rcases request with refusal | help | version | settings
  · exact printsOnce_failure (by decide) _
  · exact printsOnce_success (by simp)
  · exact printsOnce_success (by simp)
  · exact printsOnce_work settings stdin elapsed

/-! ## §5 The exit code -/

theorem inputOf_cases (settings : Settings) (stdin : Option Text) :
    (NoText settings.input stdin ∧ ∃ refusal, inputOf settings stdin = .error refusal) ∨
      (¬NoText settings.input stdin ∧ ∃ text, inputOf settings stdin = .ok text) := by
  have read : ∀ t, settings.input.or stdin = some t → inputOf settings stdin =
      if Text.isBlank t then .error .noInput else .ok t := by
    intro t given
    unfold inputOf
    cases own : settings.input with
    | some text =>
      rw [own, Option.some_or] at given
      cases given
      rfl
    | none =>
      rw [own, Option.none_or] at given
      rw [given]
      rfl
  cases given : settings.input.or stdin with
  | none =>
    obtain ⟨own, rfl⟩ := Option.or_eq_none_iff.1 given
    exact .inl ⟨by simp [NoText, own], .unreadableInput, by unfold inputOf; rw [own]; rfl⟩
  | some t =>
    rw [read t given]
    by_cases blank : Text.isBlank t = true
    · exact .inl ⟨by simp [NoText, given, blank], .noInput, if_pos blank⟩
    · exact .inr ⟨by simp [NoText, given, blank], t, if_neg blank⟩

theorem report_cases (registry : Registry) (options : ParseOptions) (text game : Text) :
    (Registry.key game ∈ registry.games ∧
      ∃ report, registry.report options text game = .ok report) ∨
    (Registry.key game ∉ registry.games ∧
      ∃ e, registry.report options text game = .error e) := by
  rw [Registry.report, Registry.games, Catalog.mem_keys]
  cases found : registry.get game with
  | ok parser => exact .inl ⟨by rw [(registry.get_eq_ok_iff).1 found]; rfl, _, rfl⟩
  | error e => exact .inr ⟨by rw [((registry.get_eq_error_iff).1 found).2]; simp, e, rfl⟩

/-- What the exit code of a run on a text says. -/
theorem work_cases (settings : Settings) (stdin : Option Text) (elapsed : Text) :
    let code := (work settings stdin elapsed).code
    let noText := NoText settings.input stdin
    let unregistered := settings.mode = .parse ∧
      Registry.key settings.game ∉ Registry.builtIn.games
    (settings.mode = .listGames ∧ code = 0) ∨
      (settings.mode ≠ .listGames ∧ noText ∧ code = 2) ∨
      (settings.mode ≠ .listGames ∧ ¬noText ∧ unregistered ∧ code = 1) ∨
      (settings.mode ≠ .listGames ∧ ¬noText ∧ ¬unregistered ∧ code = 0) := by
  intro code noText unregistered
  simp only [code, work]
  cases mode : settings.mode with
  | listGames => exact .inl ⟨rfl, rfl⟩
  | sentences =>
    have registered : ¬unregistered := fun h => absurd (mode.symm.trans h.1) (by decide)
    rcases inputOf_cases settings stdin with ⟨none, refusal, read⟩ | ⟨there, text, read⟩
    · exact .inr (.inl ⟨by simp, none, by rw [read]; rfl⟩)
    · exact .inr (.inr (.inr ⟨by simp, there, registered, by rw [read]; rfl⟩))
  | parse =>
    rcases inputOf_cases settings stdin with ⟨none, refusal, read⟩ | ⟨there, text, read⟩
    · exact .inr (.inl ⟨by simp, none, by rw [read]; rfl⟩)
    · rcases report_cases .builtIn settings.options text settings.game with
        ⟨listed, report, parsed⟩ | ⟨missing, e, failed⟩
      · refine .inr (.inr (.inr ⟨by simp, there, fun h => h.2 listed, ?_⟩))
        rw [read]
        dsimp only
        rw [parsed]
        rfl
      · refine .inr (.inr (.inl ⟨by simp, there, ⟨mode, missing⟩, ?_⟩))
        rw [read]
        dsimp only
        rw [failed]
        rfl

/-- How a run ends for an argument list that was scanned. -/
structure Scan.ExitsAs (scan : Scan) (stdin : Option Text) (result : Result) : Prop where
  code_mem : result.code ∈ [0, 1, 2]
  /-- The arguments are refused, or there is no text to work on. -/
  code_eq_two_iff : result.code = 2 ↔ scan.Refused ∨
    (¬scan.AsksForHelp ∧ scan.mode ≠ .listGames ∧ NoText scan.texts.head? stdin)
  /-- There is a text to parse, and no parser for the game. -/
  code_eq_one_iff : result.code = 1 ↔ ¬scan.Refused ∧ ¬scan.AsksForHelp ∧ scan.mode = .parse ∧
    ¬NoText scan.texts.head? stdin ∧ Text.lower (Text.trim scan.game) ∉ Registry.builtIn.games
  printsOnce : result.PrintsOnce

theorem exitsAs_answer {scan : Scan} {request : Except Refusal Request} (asks : scan.Asks request)
    (stdin : Option Text) (elapsed : Text) :
    scan.ExitsAs stdin (answer request stdin elapsed) := by
  cases asks with
  | refused refused =>
    exact ⟨by simp [answer, Result.failure], by simp [answer, Result.failure, refused],
      by simp [answer, Result.failure, refused], printsOnce_answer _ stdin elapsed⟩
  | @help request fine help either =>
    have code : (answer (.ok request) stdin elapsed).code = 0 := by
      rcases request with _ | _ | settings
      · rfl
      · rfl
      · simp at either
    exact ⟨by simp [code], by simp [code, fine, help], by simp [code, help],
      printsOnce_answer _ stdin elapsed⟩
  | @work settings fine help input mode game =>
    have cases := work_cases settings stdin elapsed
    simp only [input, mode, game, Registry.key] at cases
    have printed := printsOnce_answer (.ok (.work settings)) stdin elapsed
    simp only [answer] at printed ⊢
    rcases cases with ⟨h, code⟩ | ⟨h, h', code⟩ | ⟨h, h', h'', code⟩ | ⟨h, h', h'', code⟩
    · exact ⟨by simp [code], by simp [code, fine, h], by simp [code, h], printed⟩
    · exact ⟨by simp [code], by simp [code, fine, help, h, h'], by simp [code, h'], printed⟩
    · exact ⟨by simp [code], by simp [code, fine, h'], by simp [code, fine, help, h', h''], printed⟩
    · refine ⟨by simp [code], by simp [code, fine, h'], ?_, printed⟩
      simp only [code, Nat.zero_ne_one, false_iff]
      rintro ⟨-, -, parse, -, missing⟩
      exact h'' ⟨parse, missing⟩

/-- **The discipline of exit codes.** Every argument list is a row of options with an ending, and
these decide on the exit code. It is two when the list is refused, which a request for help or for
the version prevents when it is met first, and when a text is needed and there is none or a blank
one. It is one when there is a text to be parsed for a game that is not registered. Otherwise it
is zero. A run with exit code zero prints a result and no message, and any other a message and no
result. -/
theorem exitsAs_run (arguments : List Text) (stdin : Option Text) (terminal : Bool)
    (elapsed : Text) : (∃ scan, Scans arguments scan) ∧ ∀ scan, Scans arguments scan →
      scan.ExitsAs stdin (run arguments stdin terminal elapsed) := by
  refine ⟨exists_scans arguments, fun scan scanned => ?_⟩
  exact exitsAs_answer (asks_readArguments scanned terminal) stdin elapsed

/-- A count with a plus sign, a game that is not registered, a text, and two dashes with a word
behind them. -/
def chessArguments (word : Text) : List Text :=
  ["--window", "+3", "--game=--game= Chess ", "-i", "Draw a card.", "--", word]

/-- When the word is blank the game decides. Otherwise there is a second text, whatever the game
is. -/
theorem exitsAs_run_chess :
    let blank := run (chessArguments " ") none false []
    let second := run (chessArguments "Draw") none false []
    blank.code = 1 ∧ blank.stdout = [] ∧ second.code = 2 ∧ second.stdout = [] := by
  intro blank second
  let items : List Item :=
    [.valued .window "+3", .valued .game " Chess ", .valued .input "Draw a card."]
  have scans : ∀ word : Text, Scans (chessArguments word) ⟨items, .tail (Text.unwords [word])⟩ := by
    intro word
    have bare : IsBare ValueOption.game.opening "--game= Chess " " Chess " := ⟨⟨1, rfl⟩, by decide⟩
    have window : Item.Written (.valued .window "+3") ["--window", "+3"] := .apart (by decide)
    have game : Item.Written (.valued .game " Chess ") ["--game=--game= Chess "] :=
      .inline (.inl rfl) bare
    have input : Item.Written (.valued .input "Draw a card.") ["-i", "Draw a card."] :=
      .apart (by decide)
    exact .item window (.item game (.item input (.ending .tail)))
  have isCount : IsCount "+3" := isCount_iff.2 ⟨3, by decide⟩
  have counts : ∀ item ∈ items, ¬item.HasBadCount := by
    simp only [items, List.mem_cons, List.not_mem_nil, or_false]
    rintro item (rfl | rfl | rfl) bad
    · cases bad with | window bad => exact bad isCount
    · cases bad
    · cases bad
  have exits := (exitsAs_run (chessArguments " ") none false []).2 _ (scans " ")
  have exits' := (exitsAs_run (chessArguments "Draw") none false []).2 _ (scans "Draw")
  have one : blank.code = 1 := by
    refine exits.code_eq_one_iff.2 ⟨?_, by simp [Scan.AsksForHelp], rfl, ?_, by decide⟩
    · rintro (missing | unknown | ⟨listed, bad⟩ | twice)
      · cases missing
      · cases unknown
      · exact counts _ listed bad
      · exact absurd twice (by decide)
    · intro lacks
      exact absurd (lacks "Draw a card." rfl) (by decide)
  have two : second.code = 2 := exits'.code_eq_two_iff.2 (.inl (.repeatedInput (by decide)))
  have failed : blank.code ≠ 0 := by rw [one]; decide
  have failed' : second.code ≠ 0 := by rw [two]; decide
  exact ⟨one, (exits.printsOnce.failure failed).1, two, (exits'.printsOnce.failure failed').1⟩

end AbilityText.CommandLine
