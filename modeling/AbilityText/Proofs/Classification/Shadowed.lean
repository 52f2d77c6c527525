/-
AbilityText.Proofs.Classification.Shadowed — entries of the phrase tables that no text reaches.

The steps are tried in order, and a claim on a single word wins over every claim of a later step,
however long. So an entry is shadowed when an earlier table knows the first word of its phrase and
no gating can turn that word away (`Shadowed`): whatever the text, the entry is never on record
(`not_reads_of_shadowed`).

This befalls two entries of the built-in games (`Games.unread`). Every other one is on record for
its own phrase, with a word in front of it where the game asks for one (`Games.reads_lead_append`).
-/
import AbilityText.Proofs.Classification.Context
import AbilityText.Proofs.Classification.Priority
import AbilityText.Proofs.Classification.Soundness

namespace AbilityText

namespace Dialect

variable {d : Dialect} {category : Category} {text : Text}

/-! ## §1 Entries -/

/-- The text is a canonical one in a table that some step tries. -/
def Offers (d : Dialect) (category : Category) (text : Text) : Prop :=
  .table category ∈ d.order ∧ ∃ table, d.vocabulary.table? category = some table ∧
    text ∈ table.entries.map Prod.snd

/-- The source has a match of the category with the text on record. -/
def Reads (d : Dialect) (options : ParseOptions) (source : Text) (category : Category)
    (text : Text) : Prop :=
  ∃ m ∈ (d.classify options source).trace.found, m.category = category ∧ m.text = text

instance (d : Dialect) (options : ParseOptions) (source : Text) (category : Category)
    (text : Text) : Decidable (d.Reads options source category text) :=
  inferInstanceAs (Decidable (∃ m ∈ (d.classify options source).trace.found,
    m.category = category ∧ m.text = text))

/-! ## §2 Shadows -/

/-- The steps in front of the first one that tries the table of the category. -/
def stepsBefore (d : Dialect) (category : Category) : List Step :=
  d.order.takeWhile fun step => !decide (step = .table category)

/-- Is this the step of a table that knows the word and whose texts no gating turns away? -/
def alwaysClaims (d : Dialect) (word : Text) : Step → Bool
  | .table category =>
    (decide (d.gating = none) || !decide (category = .type) && !decide (category = .direction)) &&
      (d.vocabulary.lookup category word).isSome
  | .number => false

theorem alwaysClaims_table_iff {word : Text} {other : Category} :
    d.alwaysClaims word (.table other) = true ↔
      (d.gating = none ∨ other ≠ .type ∧ other ≠ .direction) ∧
        (d.vocabulary.lookup other word).isSome = true := by
  simp [alwaysClaims]

/-- Does the phrase open with a word that a table in front of this one always claims? -/
def opensClaimed (d : Dialect) (category : Category) (phrase : Text) : Bool :=
  (Text.words phrase).head?.any fun word => (d.stepsBefore category).any (d.alwaysClaims word)

/-- All phrases with this text open with a word that is always claimed before the table has its
turn. Nothing else makes matches of the category: a table of types would not do, for types are also
looked for behind subject markers. -/
structure Shadowed (d : Dialect) (category : Category) (text : Text) : Prop where
  notType : category ≠ .type
  notNumber : category ∉ d.numberCategories
  notOpening : category ∉ d.openings.map Prod.snd
  notCapture : category ∉ d.captures.map Prod.snd
  claimed : ∀ table ∈ d.vocabulary.tables, table.category = category →
    ∀ entry ∈ table.entries, entry.2 = text → d.opensClaimed category entry.1 = true

instance (d : Dialect) (category : Category) (text : Text) :
    Decidable (d.Shadowed category text) :=
  decidable_of_iff (category ≠ .type ∧ category ∉ d.numberCategories ∧
      category ∉ d.openings.map Prod.snd ∧ category ∉ d.captures.map Prod.snd ∧
      ∀ table ∈ d.vocabulary.tables, table.category = category →
        ∀ entry ∈ table.entries, entry.2 = text → d.opensClaimed category entry.1 = true)
    ⟨fun ⟨notType, notNumber, notOpening, notCapture, claimed⟩ =>
      ⟨notType, notNumber, notOpening, notCapture, claimed⟩,
     fun h => ⟨h.notType, h.notNumber, h.notOpening, h.notCapture, h.claimed⟩⟩

/-- Wherever the order comes to the table, it has come past these steps. -/
theorem mem_of_mem_stepsBefore {earlier later : List Step} {step : Step}
    (order : d.order = earlier ++ .table category :: later) (h : step ∈ d.stepsBefore category) :
    step ∈ earlier := by
  have stops : (d.stepsBefore category) <+: earlier := by
    rw [stepsBefore, order, List.takeWhile_append]
    split
    · simp
    · exact List.takeWhile_prefix _
  exact stops.subset h

theorem admits_of_ungated (h : d.gating = none ∨ category ≠ .type ∧ category ≠ .direction)
    (ctx : Context) (text : Text) : d.admits ctx category text = true := by
  unfold admits
  split
  · rfl
  · next gating gated =>
    obtain ⟨notType, notDirection⟩ := h.resolve_left (by simp [gated])
    split
    · contradiction
    · contradiction
    · rfl

/-- A table resolves a word when it looks up the word or a singular form of it. -/
theorem exists_resolve?_singleton {word form : Text}
    (same : form = word ∨ form ∈ Clause.singulars word)
    (known : (d.vocabulary.lookup category form).isSome = true) :
    ∃ text, d.resolve? category [word] = some text := by
  rw [← Option.ne_none_iff_exists']
  intro none
  obtain ⟨missing, missingForms⟩ := resolve?_eq_none_iff.1 none
  rcases same with rfl | singular
  · rw [Text.unwords_singleton] at missing
    rw [missing] at known
    exact Bool.noConfusion known
  · have missing := missingForms form singular
    rw [List.dropLast_singleton, List.nil_append, Text.unwords_singleton] at missing
    rw [missing] at known
    exact Bool.noConfusion known

/-- A table that looks up the first word of an entry resolves the first word of every phrase that
the entry resolves: the word is the same, or it is all of the phrase and has the entry for a
singular form. -/
theorem exists_resolve?_of_resolve? {phrase : List Text} (proper : ∀ w ∈ phrase, Text.IsWord w)
    (resolved : d.resolve? category phrase = some text) :
    ∃ surface, d.vocabulary.lookup category surface = some text ∧
      ∀ other word, (Text.words surface).head? = some word →
        (d.vocabulary.lookup other word).isSome = true →
          ∃ first, d.resolve? other (phrase.take 1) = some first := by
  rcases resolve?_eq_some_iff.1 resolved with found | ⟨rfl, -, forms, -, found⟩
  · refine ⟨_, found, fun other word head known => ?_⟩
    rw [Text.words_unwords proper] at head
    obtain ⟨rest, rfl⟩ := List.head?_eq_some_iff.1 head
    exact exists_resolve?_singleton (.inl rfl) known
  · next lead last form skipped later =>
    have singular : form ∈ Clause.singulars last := by simp [forms]
    refine ⟨_, found, fun other word head known => ?_⟩
    cases lead with
    | nil =>
      have own : Text.IsWord form :=
        Clause.isWord_of_mem_singulars (proper last (by simp)) singular
      rw [List.nil_append, Text.head?_words_unwords own, Option.some.injEq] at head
      exact exists_resolve?_singleton (.inr singular) (head ▸ known)
    | cons first lead =>
      have own : Text.IsWord first := proper first (by simp)
      rw [List.cons_append, Text.head?_words_unwords own, Option.some.injEq] at head
      exact exists_resolve?_singleton (.inl head.symm) known

/-- **An earlier step has a claim wherever the table admits a phrase for a shadowed entry.** -/
theorem exists_stepClaims_of_shadowed {window : Nat} {ctx : Context} {words : List Text}
    {length : Nat} (h : d.Shadowed category text)
    (admits : d.Admits window ctx words category length text)
    (proper : ∀ w ∈ words.take length, Text.IsWord w) :
    ∃ step ∈ d.stepsBefore category, ∃ claim, d.StepClaims window ctx words step claim := by
  obtain ⟨surface, found, firstWord⟩ :=
    exists_resolve?_of_resolve? proper (resolve?_eq_some_iff.2 admits.resolved)
  obtain ⟨table, select, entry⟩ := Vocabulary.exists_entry_of_lookup found
  obtain ⟨inTables, own⟩ := Vocabulary.mem_tables_of_table? select
  obtain ⟨word, head, claimed⟩ :=
    (Option.any_eq_true _ _).1 (h.claimed table inTables own _ entry rfl)
  obtain ⟨step, before, always⟩ := List.any_eq_true.1 claimed
  refine ⟨step, before, ?_⟩
  cases step with
  | number => simp [alwaysClaims] at always
  | table other =>
    obtain ⟨ungated, known⟩ := alwaysClaims_table_iff.1 always
    obtain ⟨first, resolved⟩ := firstWord other word head known
    have positive := admits.positive
    rw [List.take_take, Nat.min_eq_left positive] at resolved
    exact exists_stepClaims_table_iff.2 ⟨1, first, Nat.le_refl 1, positive.trans admits.inWindow,
      positive.trans admits.inWords, resolve?_eq_some_iff.1 resolved,
      admits_of_ungated ungated ctx first⟩

/-- **What is shadowed is never on record**, whatever the text and the options. -/
theorem not_reads_of_shadowed (built : d.vocabulary.Built) (h : d.Shadowed category text)
    (options : ParseOptions) (source : Text) : ¬d.Reads options source category text := by
  rintro ⟨m, member, rfl, rfl⟩
  obtain ⟨before, after, split⟩ := List.append_of_mem member
  rcases source_of_found options source split with opened | captured |
    ⟨later, -, previous, claim, best, length, category, normal⟩
  · exact h.notOpening opened
  · exact h.notCapture captured
  · -- Of the words in front of the match only the last one matters.
    have last : previous = previous.toList.getLast? := by cases previous <;> rfl
    rw [last] at best
    rcases bestClaim?_eq_some_iff.1 best with ⟨-, ⟨-, -⟩⟩ | ⟨-, order, none, claimed⟩
    · exact h.notType category
    · cases claimed with
      | number _ _ _ _ given =>
        rw [NumberPolicy.isCategoryBefore_iff.1 given] at category
        exact h.notNumber (category ▸ categoryBefore_mem_numberCategories _)
      | table admits _ =>
        -- The table had its turn, so no step in front of it had a claim.
        dsimp only at length category normal
        have own := isNormal_of_resolve? built (resolve?_eq_some_iff.2 admits.resolved)
        rw [← normal.trans own, ← category, length] at admits
        rw [← category] at order
        have proper : ∀ w ∈ (Text.words m.phrase ++ later).take (Text.words m.phrase).length,
            Text.IsWord w := by
          rw [List.take_left]
          exact fun w => Text.isWord_of_mem_words
        obtain ⟨step, inFront, other, claims⟩ := exists_stepClaims_of_shadowed h admits proper
        exact none step (mem_of_mem_stepsBefore order inFront) other claims

end Dialect

namespace Games

/-! ## §3 The built-in games -/

/-- The entries of the built-in games that no text reaches, each with the key of its game: "discard"
is an effect, and effects come first; "action" is a type, and there types come first. -/
def unread : List (Text × Category × Text) :=
  [("pokemon", .target, "discard pile"), ("fleshandblood", .resource, "action point")]

/-- What may have to stand in front of a phrase: nothing, a type for "another", an effect that goes
with spells, or a subject marker. -/
def leads : List Text := ["", "creature ", "counter ", "this "]

theorem shadowed_of_mem_unread : ∀ game ∈ builtIn, ∀ entry ∈ unread, entry.1 = game.dialect.key →
    game.dialect.Shadowed entry.2.1 entry.2.2 := by
  decide +kernel

/-- Every other entry is on record for its own phrase behind one of the leads. -/
theorem reads_lead_append : ∀ game ∈ builtIn, ∀ table ∈ game.dialect.vocabulary.tables,
    .table table.category ∈ game.dialect.order → ∀ entry ∈ table.entries,
      (game.dialect.key, table.category, entry.2) ∉ unread →
        ∃ lead ∈ leads, game.dialect.Reads {} (lead ++ entry.1) table.category entry.2 := by
  decide +kernel

variable {game : Game} {category : Category} {text : Text}

theorem not_reads_of_mem_unread (member : game ∈ builtIn)
    (unreachable : (game.dialect.key, category, text) ∈ unread) (options : ParseOptions)
    (source : Text) : ¬game.dialect.Reads options source category text :=
  Dialect.not_reads_of_shadowed (vocabulary_built game member)
    (shadowed_of_mem_unread game member _ unreachable rfl) options source

/-- **Which entries of the built-in games some text reaches**: all but two. Those two are on record
for no text under any options. -/
theorem reads_iff_not_mem_unread (member : game ∈ builtIn)
    (offers : game.dialect.Offers category text) :
    ((∃ source, game.dialect.Reads {} source category text) ↔
        (game.dialect.key, category, text) ∉ unread) ∧
      ((∃ options source, game.dialect.Reads options source category text) ↔
        (game.dialect.key, category, text) ∉ unread) := by
  have read : (game.dialect.key, category, text) ∉ unread →
      ∃ source, game.dialect.Reads {} source category text := by
    intro reachable
    obtain ⟨step, table, select, canonical⟩ := offers
    obtain ⟨inTables, rfl⟩ := Vocabulary.mem_tables_of_table? select
    obtain ⟨entry, listed, rfl⟩ := List.mem_map.1 canonical
    obtain ⟨lead, -, reads⟩ := reads_lead_append game member table inTables step entry listed
      reachable
    exact ⟨lead ++ entry.1, reads⟩
  refine ⟨⟨?_, read⟩, ⟨?_, fun reachable => ⟨{}, read reachable⟩⟩⟩
  · rintro ⟨source, reads⟩ unreachable
    exact not_reads_of_mem_unread member unreachable {} source reads
  · rintro ⟨options, source, reads⟩ unreachable
    exact not_reads_of_mem_unread member unreachable options source reads

theorem pokemon_offers_discardPile : Pokemon.dialect.Offers .target "discard pile" :=
  ⟨by decide, _, rfl, by decide +kernel⟩

/-- Two targets of one game, of which one is reached. -/
theorem reads_iff_not_mem_unread_pokemon :
    Pokemon.game ∈ builtIn ∧ Pokemon.dialect.Offers .target "deck" ∧
      Pokemon.dialect.Offers .target "discard pile" ∧
      (∃ source, Pokemon.dialect.Reads {} source .target "deck") ∧
      ¬∃ options source, Pokemon.dialect.Reads options source .target "discard pile" := by
  have member : Pokemon.game ∈ builtIn := by simp [builtIn]
  have deck : Pokemon.dialect.Offers .target "deck" := ⟨by decide, _, rfl, by decide +kernel⟩
  have pile : Pokemon.dialect.Offers .target "discard pile" := pokemon_offers_discardPile
  refine ⟨member, deck, pile, (reads_iff_not_mem_unread member deck).1.2 (by decide), ?_⟩
  intro reads
  exact (reads_iff_not_mem_unread member pile).2.1 reads (by decide)

/-- Not everything that a built-in game offers is reached by some text. -/
theorem not_forall_offers_reads : ¬∀ game ∈ builtIn, ∀ category text,
    game.dialect.Offers category text → ∃ source, game.dialect.Reads {} source category text := by
  intro all
  have member : Pokemon.game ∈ builtIn := by simp [builtIn]
  obtain ⟨source, reads⟩ :=
    all Pokemon.game member .target "discard pile" pokemon_offers_discardPile
  exact not_reads_of_mem_unread member (by decide) {} source reads

end Games

end AbilityText
