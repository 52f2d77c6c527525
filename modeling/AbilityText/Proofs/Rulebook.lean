/-
AbilityText.Proofs.Rulebook — the lexicon of a rulebook is that of its registered parsers.

A rulebook keeps the lexicon of its parsers beside its registry. Adding a game and taking one out
make it anew, and a change that leaves the registry as it was leaves the lexicon with it
(`coherent_apply`), so the two agree after any number of changes (`coherent_afterAll`): the lexicon
knows the words that some registered parser lists, and no others (`Coherent.knowsListed`).

Sentences of any game are read with the lexicon alone. Where two rulebooks register the same parsers
under the same keys, their registries are the same (`registry_eq_of_sameParsers`), and so are their
lexicons and their answers; how each of them came by its parsers does not show.
-/
import AbilityText.Proofs.Registry
import AbilityText.Rulebook

namespace AbilityText.Rulebook

/-! ## §1 Changes -/

/-- A change of the games of a rulebook. -/
inductive Change
  | add (game : Text) (parser : GameParser)
  | remove (game : Text)

namespace Change

/-- What the change leaves of a rulebook. A refused addition leaves it as it was. -/
def apply : Change → Rulebook → Rulebook
  | add game parser, book => (book.addGame game parser).toOption.getD book
  | remove game, book => book.removeGame game

/-- What the change asks of the registry. -/
def request : Change → Registry.Request
  | add game parser => .register game parser
  | remove game => .remove game

end Change

/-- What several changes, one after another, leave of a rulebook. -/
def afterAll (changes : List Change) (book : Rulebook) : Rulebook :=
  changes.foldl (fun book change => change.apply book) book

section
variable (book : Rulebook)

theorem addGame_eq (game : Text) (parser : GameParser) : book.addGame game parser =
    if Text.isBlank game = true then .error .blankKey
    else
      let registry : Registry := ⟨book.registry.parsers.insert (Registry.key game) parser⟩
      .ok { book with registry, lexicon := lexiconOf registry } := by
  rw [addGame, Registry.register_eq]
  split <;> rfl

/-- The registry of a rulebook changes as it would alone. -/
theorem registry_apply (change : Change) :
    (change.apply book).registry = change.request.apply book.registry := by
  cases change with
  | add game parser =>
    rw [Change.apply, Change.request, Registry.Request.apply, addGame_eq, Registry.register_eq]
    split <;> rfl
  | remove game =>
    rw [Change.apply, Change.request, Registry.Request.apply, removeGame]
    split
    · rfl
    · next missing => exact (Registry.remove_of_not_isSupported missing).symm

theorem registry_afterAll (changes : List Change) : (book.afterAll changes).registry =
    book.registry.afterAll (changes.map Change.request) := by
  induction changes generalizing book with
  | nil => rfl
  | cons change changes ih =>
    have later := ih (change.apply book)
    rw [registry_apply] at later
    exact later

end

/-! ## §2 The lexicon -/

/-- Is the lexicon that of the parsers that are registered? -/
def Coherent (book : Rulebook) : Prop :=
  book.lexicon = .ofParsers book.registry.parsers.values

/-- Does some registered parser list the word for the category? -/
def Lists (book : Rulebook) (category : Category) (word : Text) : Prop :=
  ∃ key parser, book.registry.parsers.get? key = some parser ∧ word ∈ parser.components category

/-- The lexicon knows the words that registered parsers list, and no others. -/
structure KnowsListed (book : Rulebook) : Prop where
  types : ∀ word, word ∈ book.lexicon.types ↔ book.Lists .type word
  directions : ∀ word, word ∈ book.lexicon.directions ↔ book.Lists .direction word
  effects : ∀ word, word ∈ book.lexicon.effects ↔ book.Lists .effect word

theorem Coherent.knowsListed {book : Rulebook} (h : book.Coherent) : book.KnowsListed := by
  have listed : ∀ category word,
      (word ∈ book.registry.parsers.values.flatMap fun parser => parser.components category) ↔
        book.Lists category word := by
    intro category word
    simp only [List.mem_flatMap, Catalog.mem_values, Lists]
    exact ⟨fun ⟨parser, ⟨key, found⟩, known⟩ => ⟨key, parser, found, known⟩,
      fun ⟨key, parser, found, known⟩ => ⟨parser, ⟨key, found⟩, known⟩⟩
  rw [Coherent] at h
  constructor
  · rw [h]
    exact listed .type
  · rw [h]
    exact listed .direction
  · rw [h]
    exact listed .effect

/-- Every change keeps the lexicon up to date. -/
theorem coherent_apply {book : Rulebook} (h : book.Coherent) (change : Change) :
    (change.apply book).Coherent := by
  cases change with
  | add game parser =>
    rw [Change.apply, addGame_eq]
    split
    · exact h
    · rfl
  | remove game =>
    rw [Change.apply, removeGame]
    split
    · rfl
    · exact h

theorem coherent_afterAll {book : Rulebook} (h : book.Coherent) (changes : List Change) :
    (book.afterAll changes).Coherent := by
  induction changes generalizing book with
  | nil => exact h
  | cons change changes ih => exact ih (coherent_apply h change)

theorem coherent_ofRegistry (registry : Registry) : (ofRegistry registry).Coherent := rfl

/-! ## §3 Answers -/

/-- Do the rulebooks register the same parsers under the same keys? -/
def SameParsers (book other : Rulebook) : Prop :=
  ∀ k, book.registry.parsers.get? k = other.registry.parsers.get? k

/-- Do the rulebooks read every sentence and every text of any game alike? -/
structure AnswersAlike (book other : Rulebook) : Prop where
  analyse : ∀ sentence, book.analyse sentence = other.analyse sentence
  chainsOf : ∀ text, book.chainsOf text = other.chainsOf text

section
variable {book other : Rulebook}

theorem registry_eq_of_sameParsers (h : book.SameParsers other) :
    book.registry = other.registry :=
  congrArg Registry.mk (Catalog.ext_get? h)

/-- Sentences are answered from the lexicon alone. -/
theorem answersAlike_of_lexicon_eq (h : book.lexicon = other.lexicon) :
    book.AnswersAlike other := by
  have same : book.analyse = other.analyse := funext fun sentence => by
    simp only [analyse, h]
  exact ⟨fun sentence => by rw [same], fun text => by simp only [chainsOf, same]⟩

theorem answersAlike_of_sameParsers (coherent : book.Coherent) (coherent' : other.Coherent)
    (h : book.SameParsers other) : book.AnswersAlike other := by
  refine answersAlike_of_lexicon_eq ?_
  rw [coherent, registry_eq_of_sameParsers h, ← coherent']

end

/-! ## §4 Taking a game out and adding it back -/

section
variable {book : Rulebook} {game again : Text} {parser : GameParser}

/-- A parser that is put back where it was taken out leaves the rulebook as it was. -/
theorem addGame_removeGame (coherent : book.Coherent) (found : book.registry.get game = .ok parser)
    (same : Registry.key again = Registry.key game) (solid : Text.isBlank again = false) :
    (book.removeGame game).addGame again parser = .ok book := by
  have there := book.registry.get_eq_ok_iff.1 found
  have supported : book.registry.isSupported game = true :=
    book.registry.isSupported_iff.2 ⟨parser, found⟩
  -- The key is erased and then set to what stood there.
  have back : (book.registry.parsers.erase (Registry.key game)).insert (Registry.key game) parser =
      book.registry.parsers := by
    refine Catalog.ext_get? fun k => ?_
    rw [Catalog.get?_insert, Catalog.get?_erase]
    split
    · next own => rw [own, there]
    · rfl
  have own : lexiconOf book.registry = book.lexicon := coherent.symm
  rw [addGame_eq, if_neg (by simp [solid]), removeGame, if_pos supported, same]
  simp only [Registry.remove, back, own]

end

/-- **The lexicon of a rulebook is that of its registered parsers**, whatever games were added and
taken out: it knows the words that one of them lists, and no others. And sentences of any game are
answered from the registered parsers alone: another rulebook with the same parsers answers alike,
and a game that is taken out and added back, under any spelling of its key, leaves the rulebook as
it was. -/
theorem coherent_and_answersAlike_afterAll (registry : Registry) (changes : List Change) :
    let book := (ofRegistry registry).afterAll changes
    book.Coherent ∧ book.KnowsListed ∧
    (∀ otherRegistry otherChanges,
      let other := (ofRegistry otherRegistry).afterAll otherChanges
      book.SameParsers other → book.AnswersAlike other) ∧
    (registry.Reached → ∀ game again parser, book.registry.get game = .ok parser →
      Registry.key again = Registry.key game →
      (book.removeGame game).addGame again parser = .ok book) := by
  have coherent : ∀ registry changes, ((ofRegistry registry).afterAll changes).Coherent :=
    fun registry changes => coherent_afterAll (coherent_ofRegistry registry) changes
  refine ⟨coherent registry changes, (coherent registry changes).knowsListed,
    fun otherRegistry otherChanges same => ?_, fun reached game again parser found same => ?_⟩
  · exact answersAlike_of_sameParsers (coherent _ _) (coherent _ _) same
  · -- Something stands under the key, in a registry that requests made, so the key is not empty.
    have solid : Text.isBlank again = false := by
      have reached' : ((ofRegistry registry).afterAll changes).registry.Reached := by
        rw [registry_afterAll]
        exact reached.afterAll _
      have named := reached'.key_ne_nil ((Registry.get_eq_ok_iff _).1 found)
      rw [← same] at named
      exact Bool.eq_false_iff.2 fun blank => named (Registry.key_eq_nil_iff.2 blank)
    exact addGame_removeGame (coherent _ _) found same solid

/-- Two games, of which only Snap knows the effect "afflict". -/
def lorcanaAndSnap : List Change :=
  [.add "Lorcana" Games.Lorcana.game.parser, .add "Snap" Games.Snap.game.parser]

/-- The effect is read from the start, is not read once Snap is taken out, and is read again once
Snap is added back, behind a refused addition. Then the rulebook answers as the one at the start,
and taking the game out and adding it back changes nothing more. -/
theorem snap_removed_and_added_back :
    let start := (ofRegistry .empty).afterAll lorcanaAndSnap
    let without := (ofRegistry .empty).afterAll (lorcanaAndSnap ++ [.remove "Snap"])
    let book := (ofRegistry .empty).afterAll (lorcanaAndSnap ++ [.remove "Snap",
      .add " " Games.Snap.game.parser, .add " SNAP" Games.Snap.game.parser])
    let afflicts : List (Category × Text) := [(.effect, "afflict")]
    let read := fun book : Rulebook =>
      (book.analyse "Afflict").2.components.map fun c => (c.category, c.text)
    (start.Lists .effect "afflict" ∧ read start = afflicts) ∧
      (¬without.Lists .effect "afflict" ∧ read without = []) ∧
      (book.Lists .effect "afflict" ∧ read book = afflicts) ∧
      book.Coherent ∧ book.AnswersAlike start ∧
      (book.removeGame "snap").addGame "sNap " Games.Snap.game.parser = .ok book := by
  dsimp only
  obtain ⟨-, start, -⟩ := coherent_and_answersAlike_afterAll .empty lorcanaAndSnap
  obtain ⟨-, without, -⟩ :=
    coherent_and_answersAlike_afterAll .empty (lorcanaAndSnap ++ [.remove "Snap"])
  obtain ⟨coherent, known, alike, back⟩ := coherent_and_answersAlike_afterAll .empty
    (lorcanaAndSnap ++ [.remove "Snap", .add " " Games.Snap.game.parser,
      .add " SNAP" Games.Snap.game.parser])
  have same := alike .empty lorcanaAndSnap fun _ => rfl
  refine ⟨⟨(start.effects _).1 (by decide +kernel), by decide +kernel⟩,
    ⟨fun listed => absurd ((without.effects _).2 listed) (by decide +kernel), by decide +kernel⟩,
    ⟨(known.effects _).1 (by decide +kernel), ?_⟩, coherent, same,
    back ⟨.empty, [], rfl⟩ "snap" "sNap " Games.Snap.game.parser rfl (by decide +kernel)⟩
  rw [same.analyse]
  decide +kernel

end AbilityText.Rulebook
