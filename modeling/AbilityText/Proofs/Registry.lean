/-
AbilityText.Proofs.Registry — a registry answers as the history of its requests says.

Keys are trimmed and lowered, and such a key is its own key (`key_key`), so a registry is a map from
these keys. What stands under a key is decided by the last request that concerns the key
(`get?_apply_of_decides`, `get?_apply_of_not_decides`): a registration puts its parser there, and
a removal or a clearing leaves nothing. From one request follows what stands under a key after any
number of them (`get?_ofHistory_iff`), and from that what every query answers
(`recordsHistory_afterAll`).

The registry of the built-in games is what their registrations make of the empty one
(`registry_eq_ofHistory`), so their parsers count as registered first.
-/
import Mathlib.Data.List.Induction
import AbilityText.Proofs.Text.Spacing
import AbilityText.Registry

namespace AbilityText.Registry

/-! ## §1 Keys -/

theorem isTrimmed_key (game : Text) : Text.IsTrimmed (key game) :=
  Text.isTrimmed_lower (Text.isTrimmed_trim game)

/-- **A key is its own key.** -/
theorem key_key (game : Text) : key (key game) = key game := by
  obtain ⟨opens, ends⟩ := isTrimmed_key game
  have trimmed : Text.trim (key game) = key game := by
    rw [Text.trim_of_getLast? ends, Text.dropWhile_isSpace_of_not_opensSpaced opens]
  rw [key, trimmed, key, Text.lower_lower]

/-- Only a blank text has the empty key. -/
theorem key_eq_nil_iff {game : Text} : key game = [] ↔ Text.isBlank game = true := by
  rw [key, Text.lower_eq_nil_iff, Text.trim_eq_nil_iff, Text.words_eq_nil_iff]

/-- Do the texts differ in the case of ASCII letters and in the white space around them only? -/
def SpelledAlike (game other : Text) : Prop :=
  (Text.trim game).map Char.toLower = (Text.trim other).map Char.toLower

theorem key_eq_of_spelledAlike {game other : Text} (h : SpelledAlike game other) :
    key game = key other := by
  rw [key, ← Text.lower_map_toLower, h, Text.lower_map_toLower, key]

/-! ## §2 Requests -/

/-- A request that may change a registry. -/
inductive Request
  | register (game : Text) (parser : GameParser)
  | remove (game : Text)
  | clear

namespace Request

/-- What the request leaves of a registry. A refused registration leaves it as it was. -/
def apply : Request → Registry → Registry
  | register game parser, registry => (registry.register game parser).toOption.getD registry
  | remove game, registry => registry.remove game
  | clear, _ => .empty

/-- Does the request decide what stands under the key? A registration without a key is refused and
decides nothing. -/
def Decides (k : Text) : Request → Prop
  | register game _ => key game = k ∧ Text.isBlank game = false
  | remove game => key game = k
  | clear => True

instance (k : Text) : (request : Request) → Decidable (request.Decides k)
  | register game _ => inferInstanceAs (Decidable (key game = k ∧ Text.isBlank game = false))
  | remove game => inferInstanceAs (Decidable (key game = k))
  | clear => inferInstanceAs (Decidable True)

/-- The parser that the request registers. -/
def parser? : Request → Option GameParser
  | register _ parser => some parser
  | _ => none

end Request

section
variable {k : Text} {request : Request} (registry : Registry)

theorem register_eq (game : Text) (parser : GameParser) : registry.register game parser =
    if Text.isBlank game = true then .error .blankKey
    else .ok ⟨registry.parsers.insert (key game) parser⟩ := by
  simp only [register, key_eq_nil_iff]

/-- A request that decides about a key puts its parser there, or leaves nothing. -/
theorem get?_apply_of_decides (h : request.Decides k) :
    (request.apply registry).parsers.get? k = request.parser? := by
  cases request with
  | register game parser =>
    obtain ⟨rfl, solid⟩ := h
    rw [Request.apply, register_eq, if_neg (by simp [solid])]
    exact (Catalog.get?_insert _ _ _ _).trans (if_pos rfl)
  | remove game =>
    obtain rfl : key game = k := h
    exact (Catalog.get?_erase _ _ _).trans (if_pos rfl)
  | clear => exact Catalog.get?_empty k

/-- Any other request leaves what stands there. -/
theorem get?_apply_of_not_decides (h : ¬request.Decides k) :
    (request.apply registry).parsers.get? k = registry.parsers.get? k := by
  cases request with
  | register game parser =>
    rw [Request.apply, register_eq]
    split
    · rfl
    · next solid =>
      have other : k ≠ key game := fun same => h ⟨same.symm, Bool.eq_false_iff.2 solid⟩
      exact (Catalog.get?_insert _ _ _ _).trans (if_neg other)
  | remove game => exact (Catalog.get?_erase _ _ _).trans (if_neg fun same => h same.symm)
  | clear => exact absurd trivial h

end

/-! ## §3 Histories -/

/-- What several requests, one after another, leave of a registry. -/
def afterAll (requests : List Request) (registry : Registry) : Registry :=
  requests.foldl (fun registry request => request.apply registry) registry

theorem afterAll_append (requests later : List Request) (registry : Registry) :
    registry.afterAll (requests ++ later) = (registry.afterAll requests).afterAll later :=
  List.foldl_append

/-- The registry with a history, which begins empty. -/
def ofHistory (history : List Request) : Registry := empty.afterAll history

theorem ofHistory_concat (history : List Request) (request : Request) :
    ofHistory (history ++ [request]) = request.apply (ofHistory history) :=
  afterAll_append history [request] empty

/-- The parser is that of the last registration under the key in the history, and no later request
undid it. -/
def Stands (history : List Request) (k : Text) (parser : GameParser) : Prop :=
  ∃ before game after, history = before ++ .register game parser :: after ∧
    key game = k ∧ Text.isBlank game = false ∧ ∀ request ∈ after, ¬request.Decides k

section
variable {history : List Request} {request : Request} {k : Text} {parser : GameParser}

/-- A request that decides about the key leaves its own parser standing, if it has one. -/
theorem stands_concat_of_decides (h : request.Decides k) :
    Stands (history ++ [request]) k parser ↔ request.parser? = some parser := by
  constructor
  · rintro ⟨before, game, after, split, -, -, undecided⟩
    -- Nothing behind the registration decides, so the last request is the registration.
    rcases List.eq_nil_or_concat after with rfl | ⟨after, last, rfl⟩
    · obtain ⟨-, same⟩ := List.append_inj' split rfl
      rw [List.singleton_inj.1 same]
      rfl
    · rw [List.concat_eq_append, ← List.cons_append, ← List.append_assoc] at split
      obtain ⟨-, same⟩ := List.append_inj' split rfl
      refine absurd h (undecided request ?_)
      rw [List.singleton_inj.1 same]
      simp
  · intro registers
    cases request with
    | register game registered =>
      obtain rfl := Option.some.inj registers
      exact ⟨history, game, [], rfl, h.1, h.2, by simp⟩
    | remove game => exact absurd registers (by simp [Request.parser?])
    | clear => exact absurd registers (by simp [Request.parser?])

/-- Any other request leaves what stood. -/
theorem stands_concat_of_not_decides (h : ¬request.Decides k) :
    Stands (history ++ [request]) k parser ↔ Stands history k parser := by
  constructor
  · rintro ⟨before, game, after, split, own, solid, undecided⟩
    rcases List.eq_nil_or_concat after with rfl | ⟨after, last, rfl⟩
    · obtain ⟨-, same⟩ := List.append_inj' split rfl
      rw [List.singleton_inj.1 same] at h
      exact absurd ⟨own, solid⟩ h
    · rw [List.concat_eq_append, ← List.cons_append, ← List.append_assoc] at split
      obtain ⟨rfl, -⟩ := List.append_inj' split rfl
      exact ⟨before, game, after, rfl, own, solid,
        fun later member => undecided later (by simp [member])⟩
  · rintro ⟨before, game, after, rfl, own, solid, undecided⟩
    refine ⟨before, game, after ++ [request], by simp, own, solid, fun later member => ?_⟩
    rcases List.mem_append.1 member with member | member
    · exact undecided later member
    · rwa [List.mem_singleton.1 member]

end

/-- **After any history, the parser under a key is that of the last registration that nothing
undid.** -/
theorem get?_ofHistory_iff (history : List Request) (k : Text) (parser : GameParser) :
    (ofHistory history).parsers.get? k = some parser ↔ Stands history k parser := by
  induction history using List.reverseRecOn with
  | nil =>
    constructor
    · intro found
      exact absurd found (by simp [ofHistory, afterAll, empty])
    · rintro ⟨before, game, after, split, -⟩
      exact absurd split (by simp)
  | append_singleton history request ih =>
    rw [ofHistory_concat]
    by_cases decides : request.Decides k
    · rw [get?_apply_of_decides _ decides, stands_concat_of_decides decides]
    · rw [get?_apply_of_not_decides _ decides, stands_concat_of_not_decides decides, ih]

/-! ## §4 Where registries begin -/

/-- How a registry begins: empty, or with the built-in games. The registry that all parts of a
program share begins with the built-in games. -/
inductive Beginning
  | empty
  | builtIn

/-- The registry to begin with. -/
def Beginning.registry : Beginning → Registry
  | empty => .empty
  | builtIn => .builtIn

/-- The registrations that a beginning counts for. -/
def Beginning.requests : Beginning → List Request
  | empty => []
  | builtIn => Games.builtIn.map fun game => .register game.dialect.key game.parser

/-- The built-in games stand under keys in their final form. -/
theorem key_of_builtIn : ∀ game ∈ Games.builtIn,
    key game.dialect.key = game.dialect.key ∧ Text.isBlank game.dialect.key = false := by
  decide +kernel

theorem afterAll_map_register {games : List Game} (keyed : ∀ game ∈ games,
    key game.dialect.key = game.dialect.key ∧ Text.isBlank game.dialect.key = false)
    (parsers : Catalog GameParser) :
    afterAll (games.map fun game => .register game.dialect.key game.parser) ⟨parsers⟩ =
      ⟨(games.map fun game => (game.dialect.key, game.parser)).foldl
        (fun catalog e => catalog.insert e.1 e.2) parsers⟩ := by
  induction games generalizing parsers with
  | nil => rfl
  | cons game games ih =>
    obtain ⟨own, solid⟩ := keyed game (by simp)
    have step : (Request.register game.dialect.key game.parser).apply ⟨parsers⟩ =
        ⟨parsers.insert game.dialect.key game.parser⟩ := by
      rw [Request.apply, register_eq, if_neg (by simp [solid]), own]
      rfl
    have later := ih (fun other member => keyed other (List.mem_cons_of_mem game member))
      (parsers.insert game.dialect.key game.parser)
    simpa only [afterAll, List.map_cons, List.foldl_cons, step] using later

/-- **The registry of the built-in games is what their registrations make.** -/
theorem registry_eq_ofHistory (start : Beginning) : start.registry = ofHistory start.requests := by
  cases start with
  | empty => rfl
  | builtIn => exact (afterAll_map_register key_of_builtIn .empty).symm

/-- Every further request adds to the history. -/
theorem afterAll_registry (start : Beginning) (requests : List Request) :
    start.registry.afterAll requests = ofHistory (start.requests ++ requests) := by
  rw [registry_eq_ofHistory, ofHistory, ofHistory, afterAll_append]

/-- Did requests make the registry, from one of the beginnings? -/
def Reached (registry : Registry) : Prop :=
  ∃ (start : Beginning) (requests : List Request), registry = start.registry.afterAll requests

theorem Reached.afterAll {registry : Registry} (h : registry.Reached) (requests : List Request) :
    (registry.afterAll requests).Reached := by
  obtain ⟨start, before, rfl⟩ := h
  exact ⟨start, before ++ requests, (afterAll_append before requests start.registry).symm⟩

/-- Nothing stands under the empty key. -/
theorem Reached.key_ne_nil {registry : Registry} (h : registry.Reached) {k : Text}
    {parser : GameParser} (found : registry.parsers.get? k = some parser) : k ≠ [] := by
  obtain ⟨start, requests, rfl⟩ := h
  rw [afterAll_registry, get?_ofHistory_iff] at found
  obtain ⟨-, game, -, -, rfl, solid, -⟩ := found
  rw [ne_eq, key_eq_nil_iff, solid]
  exact Bool.false_ne_true

/-! ## §5 Queries -/

section
variable (registry : Registry) {game : Text}

theorem get_eq_ok_iff {parser : GameParser} :
    registry.get game = .ok parser ↔ registry.parsers.get? (key game) = some parser := by
  unfold get
  cases registry.parsers.get? (key game) <;> simp

theorem get_eq_error_iff {e : RegistryError} : registry.get game = .error e ↔
    e = .unsupportedGame game ∧ registry.parsers.get? (key game) = none := by
  unfold get
  cases registry.parsers.get? (key game) <;> simp [eq_comm]

theorem toOption_get : (registry.get game).toOption = registry.parsers.get? (key game) := by
  unfold get
  cases registry.parsers.get? (key game) <;> rfl

/-- Taking a game out gives what a query gives, and leaves what a removal leaves. -/
theorem take_eq : registry.take game = ((registry.get game).toOption, registry.remove game) := by
  rw [toOption_get, take, Catalog.take_eq, remove]

theorem isSupported_iff : registry.isSupported game = true ↔
    ∃ parser, registry.get game = .ok parser := by
  simp only [get_eq_ok_iff, isSupported, Catalog.contains, Option.isSome_iff_exists]

end

/-- Removing a game that is not there changes nothing. -/
theorem remove_of_not_isSupported {registry : Registry} {game : Text}
    (h : ¬registry.isSupported game = true) : registry.remove game = registry := by
  have missing : registry.parsers.get? (key game) = none := by
    simpa [isSupported, Catalog.contains] using h
  have same : registry.parsers.erase (key game) = registry.parsers := by
    refine Catalog.ext_get? fun k => ?_
    rw [Catalog.get?_erase]
    split
    · next own => rw [own, missing]
    · rfl
  rw [remove, same]

/-- A listed key is the key of a game that has a parser. -/
theorem key_eq_self_of_stands {history : List Request} {k : Text} {parser : GameParser}
    (h : Stands history k parser) : key k = k := by
  obtain ⟨-, game, -, -, rfl, -⟩ := h
  exact key_key game

/-- The registry answers as the map that the history makes. -/
structure RecordsHistory (history : List Request) (registry : Registry) : Prop where
  /-- The parser of a game is that of the last registration under its key that nothing undid. -/
  get_eq_ok : ∀ game parser,
    registry.get game = .ok parser ↔ Stands history (key game) parser
  /-- Where nothing stands, and only there, the game is unsupported. -/
  get_eq_error : ∀ game e, registry.get game = .error e ↔
    e = .unsupportedGame game ∧ ∀ parser, ¬Stands history (key game) parser
  isSupported_iff : ∀ game, registry.isSupported game = true ↔
    ∃ parser, registry.get game = .ok parser
  /-- A removal gives the parser that a query would have given. -/
  take_eq : ∀ game, registry.take game = ((registry.get game).toOption, registry.remove game)
  /-- A registration fails for want of a key only, and then changes nothing. -/
  register_eq_error : ∀ game parser e, registry.register game parser = .error e ↔
    e = .blankKey ∧ Text.isBlank game = true
  apply_register_of_blank : ∀ game parser, Text.isBlank game = true →
    (Request.register game parser).apply registry = registry
  /-- The listed keys are in strict order, and they are the keys of the games with a parser. -/
  games_ascending : registry.games.Pairwise (· < ·)
  mem_games : ∀ k, k ∈ registry.games ↔ ∃ game parser, key game = k ∧ registry.get game = .ok parser
  /-- A listed key retrieves the parser that stands under it. -/
  get_listed : ∀ k ∈ registry.games,
    key k = k ∧ ∃ parser, registry.get k = .ok parser ∧ Stands history k parser
  /-- Spellings of one key name one entry in every request. -/
  spelledAlike : ∀ game other, SpelledAlike game other → key game = key other ∧
    (registry.get game).toOption = (registry.get other).toOption ∧
    registry.isSupported game = registry.isSupported other ∧
    registry.take game = registry.take other ∧
    ∀ parser, registry.register game parser = registry.register other parser

theorem recordsHistory_ofHistory (history : List Request) :
    (ofHistory history).RecordsHistory history := by
  have stands := get?_ofHistory_iff history
  -- That the parsers are those that stand in the history is all that the queries depend on.
  generalize ofHistory history = registry at stands
  have listed : ∀ k, k ∈ registry.games ↔ ∃ parser, Stands history k parser := fun k => by
    simp only [← stands, games, Catalog.mem_keys, Option.isSome_iff_exists]
  have own : ∀ k ∈ registry.games, key k = k ∧ ∃ parser, registry.get k = .ok parser ∧
      Stands history k parser := fun k member => by
    obtain ⟨parser, stand⟩ := (listed k).1 member
    have same := key_eq_self_of_stands stand
    refine ⟨same, parser, ?_, stand⟩
    rw [get_eq_ok_iff, same, stands]
    exact stand
  constructor
  case get_eq_ok =>
    intro game parser
    rw [get_eq_ok_iff, stands]
  case get_eq_error =>
    intro game e
    simp only [get_eq_error_iff, ← stands, Option.eq_none_iff_forall_ne_some, ne_eq]
  case isSupported_iff => exact fun _ => registry.isSupported_iff
  case take_eq => exact fun _ => registry.take_eq
  case register_eq_error =>
    intro game parser e
    rw [register_eq]
    split
    · next blank => simp [blank, eq_comm]
    · next solid => simp [solid]
  case apply_register_of_blank =>
    intro game parser blank
    rw [Request.apply, register_eq, if_pos blank]
    rfl
  case games_ascending => exact registry.parsers.keys_ascending
  case mem_games =>
    intro k
    constructor
    · intro member
      obtain ⟨same, parser, found, -⟩ := own k member
      exact ⟨k, parser, same, found⟩
    · rintro ⟨game, parser, rfl, found⟩
      exact (listed _).2 ⟨parser, (stands _ _).1 (registry.get_eq_ok_iff.1 found)⟩
  case get_listed => exact own
  case spelledAlike =>
    intro game other alike
    have same := key_eq_of_spelledAlike alike
    refine ⟨same, ?_, ?_, ?_, fun parser => ?_⟩
    · rw [toOption_get, same, toOption_get]
    · rw [isSupported, same, isSupported]
    · rw [take, same, take]
    · rw [register, same, register]

/-- **A registry is the finite map that its history makes**: after any requests on the empty
registry or on that of the built-in games, every query is answered from the last request that
decided about its key. -/
theorem recordsHistory_afterAll (start : Beginning) (requests : List Request) :
    (start.registry.afterAll requests).RecordsHistory (start.requests ++ requests) := by
  rw [afterAll_registry]
  exact recordsHistory_ofHistory (start.requests ++ requests)

end AbilityText.Registry
