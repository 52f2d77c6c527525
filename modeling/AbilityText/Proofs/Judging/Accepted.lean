/-
AbilityText.Proofs.Judging.Accepted — what a chain has that a built-in game accepts.

The games judge in five ways: with the shared verdict, or with one of four of their own, in which
some conditions are rules of the game and others stand in the verdict itself. Magic also takes a
recognised kind of ability for enough. All of them come to the same promises
(`needs_met_of_isValid`): there is an effect or a trigger, an effect that takes a number has one,
and in the two games that ask for it a target has something that it can be.
-/
import AbilityText.Games
import AbilityText.Proofs.Chain

namespace AbilityText

/-! ## §1 Conditions and the components they speak of -/

namespace Chain

/-- Is there a component of one of the categories? -/
def HasOneOf (chain : Chain) (categories : List Category) : Prop :=
  ∃ c ∈ chain.components, c.category ∈ categories

/-- Is there a component of the category with one of the texts? -/
def CarriesOneOf (chain : Chain) (category : Category) (texts : List Text) : Prop :=
  ∃ c ∈ chain.components, c.category = category ∧ c.text ∈ texts

instance (chain : Chain) (categories : List Category) : Decidable (chain.HasOneOf categories) :=
  inferInstanceAs (Decidable (∃ c ∈ chain.components, c.category ∈ categories))

instance (chain : Chain) (category : Category) (texts : List Text) :
    Decidable (chain.CarriesOneOf category texts) :=
  inferInstanceAs (Decidable (∃ c ∈ chain.components, c.category = category ∧ c.text ∈ texts))

namespace Consistent

variable {chain : Chain} (h : Consistent chain)
include h

theorem hasOneOf {categories : List Category} {category : Category} (listed : category ∈ categories)
    (has : chain.hasCategory category = true) : chain.HasOneOf categories := by
  obtain ⟨c, member, rfl⟩ := h.hasCategory_iff.1 has
  exact ⟨c, member, listed⟩

theorem hasOneOf_pair {first second : Category}
    (has : (chain.hasCategory first || chain.hasCategory second) = true) :
    chain.HasOneOf [first, second] := by
  rcases Bool.or_eq_true_iff.1 has with has | has
  · exact h.hasOneOf (by simp) has
  · exact h.hasOneOf (by simp) has

theorem any_hasComponent_of_carries {category : Category} {texts : List Text}
    (carries : chain.CarriesOneOf category texts) :
    (texts.any fun text => chain.hasComponent category text) = true := by
  obtain ⟨c, member, rfl, listed⟩ := carries
  exact List.any_eq_true.2 ⟨c.text, listed, h.hasComponent_of_mem member⟩

theorem hasComponent_of_carries {category : Category} {text : Text}
    (carries : chain.CarriesOneOf category [text]) : chain.hasComponent category text = true := by
  simpa using h.any_hasComponent_of_carries carries

/-- A chain that lacks no number has one beside every effect that takes it. -/
theorem hasOneOf_of_lacksNumber {d : Dialect} (complete : d.lacksNumber chain = false)
    (carries : chain.CarriesOneOf .effect d.numeric.effects) :
    chain.HasOneOf d.numberCategories := by
  obtain ⟨c, member, category, listed⟩ := carries
  have takes : ((chain.componentsOf .effect).any fun c => d.takesNumber c.text) = true :=
    List.any_eq_true.2 ⟨c, mem_componentsOf.2 ⟨member, category⟩, List.contains_iff_mem.2 listed⟩
  rw [Dialect.lacksNumber, takes, Bool.true_and, Bool.not_eq_false', List.any_eq_true] at complete
  obtain ⟨number, known, has⟩ := complete
  exact h.hasOneOf known has

end Consistent

end Chain

namespace Rule

variable {rule : Rule} {chain : Chain} (h : rule.validate chain = true)
include h

theorem hasCategory_of_validate {category : Category} (asked : rule.required.has category = true) :
    chain.hasCategory category = true := by
  simp only [validate, Bool.and_eq_true] at h
  exact CategorySet.includes_iff.1 h.1.1.1.1 category asked

theorem check_of_validate {check : Chain → Bool} (given : rule.check = some check) :
    check chain = true := by
  simp only [validate, Bool.and_eq_true, given] at h
  exact h.2

end Rule

/-! ## §2 The promises of the games -/

namespace Games

/-- The effects that a game accepts only with a number: those of its dialect that take one.
Hearthstone asks it of three of them. -/
def numberedEffects (game : Game) : List Text :=
  if game.dialect.key = ("hearthstone" : Text) then ["deal", "restore", "draw"]
  else game.dialect.numeric.effects

/-- What every game promises of the chains that it accepts. -/
structure Promises (game : Game) (chain : Chain) : Prop where
  effect : chain.HasOneOf [.effect, .trigger]
  number : chain.CarriesOneOf .effect (numberedEffects game) →
    chain.HasOneOf game.dialect.numberCategories

section
variable {chain : Chain} (h : chain.Consistent)
include h

/-- The shared verdict makes the promises for every dialect. -/
theorem promises_of_accepts {d : Dialect} {render : Chain → Text}
    (own : numberedEffects ⟨d, d.accepts, render⟩ = d.numeric.effects)
    (accepted : d.accepts chain = true) : Promises ⟨d, d.accepts, render⟩ chain := by
  simp only [Dialect.accepts, Bool.and_eq_true, Bool.not_eq_true'] at accepted
  obtain ⟨⟨⟨-, meets⟩, complete⟩, -⟩ := accepted
  refine ⟨?_, fun carries => h.hasOneOf_of_lacksNumber complete (own ▸ carries)⟩
  obtain ⟨category, has, listed⟩ := CategorySet.meets_iff.1 meets
  rw [CategorySet.has_ofList_iff] at listed
  exact h.hasOneOf listed has

/-- In Magic the rules alone make the promises; a recognised kind of ability adds nothing. -/
theorem Magic.promises (valid : isValid chain = true) :
    Promises game chain ∧
      (chain.CarriesOneOf .direction ["target"] → chain.HasOneOf [.type, .target]) := by
  simp only [isValid, Bool.and_eq_true, Dialect.passesRules, dialect, rules, List.all_cons] at valid
  obtain ⟨⟨effect, number, target, -⟩, -⟩ := valid
  refine ⟨⟨?_, fun carries => ?_⟩, fun carries => ?_⟩
  · have has : chain.hasCategory .effect = true :=
      Rule.hasCategory_of_validate effect (by decide)
    exact h.hasOneOf (by simp) has
  · have check := Rule.check_of_validate number rfl
    have takes : (numericEffects.any fun effect => chain.hasComponent .effect effect) = true :=
      h.any_hasComponent_of_carries carries
    rw [takes, Bool.not_true, Bool.false_or] at check
    exact h.hasOneOf (List.mem_singleton_self _) check
  · have check := Rule.check_of_validate target rfl
    rw [h.hasComponent_of_carries carries, Bool.not_true, Bool.false_or] at check
    exact h.hasOneOf_pair check

theorem Hearthstone.promises (valid : isValid chain = true) :
    Promises game chain ∧
      (chain.CarriesOneOf .direction ["target"] → chain.HasOneOf [.type]) := by
  simp only [isValid, Bool.and_eq_true] at valid
  obtain ⟨⟨⟨⟨-, effect⟩, number⟩, target⟩, -⟩ := valid
  refine ⟨⟨?_, fun carries => ?_⟩, fun carries => ?_⟩
  · rw [Bool.or_comm] at effect
    exact h.hasOneOf_pair effect
  · have takes : (valueEffects.any fun effect => chain.hasComponent .effect effect) = true :=
      h.any_hasComponent_of_carries carries
    rw [takes, Bool.not_true, Bool.false_or] at number
    exact h.hasOneOf (List.mem_singleton_self _) number
  · rw [h.hasComponent_of_carries carries, Bool.not_true, Bool.false_or] at target
    exact h.hasOneOf (List.mem_singleton_self _) target

theorem Yugioh.promises (valid : isValid chain = true) : Promises game chain := by
  simp only [isValid, Bool.and_eq_true, Bool.not_eq_true'] at valid
  obtain ⟨⟨⟨effect, -⟩, complete⟩, -⟩ := valid
  exact ⟨h.hasOneOf (by simp) effect, h.hasOneOf_of_lacksNumber complete⟩

theorem StarWars.promises (valid : isValid chain = true) : Promises game chain := by
  simp only [isValid, Bool.and_eq_true, Bool.not_eq_true'] at valid
  obtain ⟨⟨effect, -⟩, complete⟩ := valid
  exact ⟨h.hasOneOf (by simp) effect, h.hasOneOf_of_lacksNumber complete⟩

theorem promises_of_isValid : ∀ game ∈ builtIn, game.parser.isValid chain = true →
    Promises game chain := by
  simp only [builtIn, List.forall_mem_cons]
  exact ⟨fun valid => (Magic.promises h valid).1,
    fun valid => (Hearthstone.promises h valid).1, promises_of_accepts h rfl,
    Yugioh.promises h, promises_of_accepts h rfl, StarWars.promises h, promises_of_accepts h rfl,
    promises_of_accepts h rfl, by simp⟩

end

/-- **What a chain has that a built-in game accepts**: an effect or a trigger, and a number if one
of its effects asks for it. In Magic, a target comes with a type or with someone to be it, and in
Hearthstone with a type. -/
theorem needs_met_of_isValid {chain : Chain} (built : chain.Built) :
    (∀ game ∈ builtIn, game.parser.isValid chain = true →
      chain.HasOneOf [.effect, .trigger] ∧
      (chain.CarriesOneOf .effect (numberedEffects game) →
        chain.HasOneOf game.dialect.numberCategories)) ∧
    (Magic.game.parser.isValid chain = true →
      chain.CarriesOneOf .direction ["target"] → chain.HasOneOf [.type, .target]) ∧
    (Hearthstone.game.parser.isValid chain = true →
      chain.CarriesOneOf .direction ["target"] → chain.HasOneOf [.type]) := by
  have h := built.consistent
  refine ⟨?_, ?_, ?_⟩
  · intro game member valid
    have promises := promises_of_isValid h game member valid
    exact ⟨promises.effect, promises.number⟩
  · intro valid
    exact (Magic.promises h valid).2
  · intro valid
    exact (Hearthstone.promises h valid).2

/-- Cards are drawn, in the words of two games, and a minion is the target. -/
def drawChain : Chain :=
  .ofList
    [⟨.effect, "draw", ⟨"draw", by decide⟩, by decide⟩,
     ⟨.effect, "draw cards", ⟨"draw cards", by decide⟩, by decide⟩,
     ⟨.value, "x", ⟨"x", by decide⟩, by decide⟩,
     ⟨.direction, "target", ⟨"target", by decide⟩, by decide⟩,
     ⟨.type, "minion", ⟨"minion", by decide⟩, by decide⟩]

/-- Lore is gained: the number has the category of its unit. -/
def loreChain : Chain :=
  .ofList
    [⟨.effect, "gain", ⟨"gain", by decide⟩, by decide⟩,
     ⟨.lore, "2", ⟨"2", by decide⟩, by decide⟩]

/-- Both games accept the first chain and Lorcana accepts the second; what they ask for is there. -/
theorem needs_met_of_isValid_draw_and_lore :
    (Magic.game.parser.isValid drawChain = true ∧ drawChain.HasOneOf [.type, .target]) ∧
    (Hearthstone.game.parser.isValid drawChain = true ∧ drawChain.HasOneOf [.type] ∧
      drawChain.HasOneOf Hearthstone.dialect.numberCategories) ∧
    (Lorcana.game.parser.isValid loreChain = true ∧ loreChain.HasOneOf [.effect, .trigger] ∧
      loreChain.HasOneOf Lorcana.dialect.numberCategories) := by
  have magic : Magic.game.parser.isValid drawChain = true := by decide
  have hearthstone : Hearthstone.game.parser.isValid drawChain = true := by decide
  have lorcana : Lorcana.game.parser.isValid loreChain = true := by decide
  obtain ⟨ofDraw, target, minion⟩ := needs_met_of_isValid (Chain.built_ofList _ : drawChain.Built)
  obtain ⟨ofLore, -, -⟩ := needs_met_of_isValid (Chain.built_ofList _ : loreChain.Built)
  have drawn := ofDraw Hearthstone.game (by simp [builtIn]) hearthstone
  have gained := ofLore Lorcana.game (by simp [builtIn]) lorcana
  exact ⟨⟨magic, target magic (by decide)⟩,
    ⟨hearthstone, minion hearthstone (by decide), drawn.2 (by decide)⟩,
    ⟨lorcana, gained.1, gained.2 (by decide)⟩⟩

end Games

end AbilityText
