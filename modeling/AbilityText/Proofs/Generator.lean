/-
AbilityText.Proofs.Generator — which template a trigger is written by.

A trigger takes the template of the longest keyword with which it opens as a word. A trigger that is
a keyword itself is the longest one, which is why it may be looked up before the others are tried
(`triggerTemplate?_eq_some`). Two keywords that open one trigger are initial parts of it, so there
is only one longest (`eq_of_opens`), in characters as in bytes, and the order in which keywords are
listed does not show.

Which keywords there are, and what stands under each, is told by the additions: under each keyword
the last one counts (`get?_templates_foldl`). The templates that every generator starts with are the
first additions of all (`standard_eq_foldl`). Additions of different keywords make the same
generator in any order (`afterAll_eq_of_perm`).
-/
import Mathlib.Data.List.Induction
import Mathlib.Data.List.Nodup
import AbilityText.Generator
import AbilityText.Proofs.Text.Words

namespace AbilityText.Generator

/-! ## §1 Keywords that open a trigger -/

/-- Does the trigger open with the keyword as a word? It is the keyword, or goes on with a space. -/
def Opens (trigger keyword : Text) : Prop := keyword = trigger ∨ keyword ++ [' '] <+: trigger

instance (trigger keyword : Text) : Decidable (Opens trigger keyword) :=
  inferInstanceAs (Decidable (keyword = trigger ∨ keyword ++ [' '] <+: trigger))

section
variable {trigger keyword other : Text}

theorem extendsKeyword_iff :
    extendsKeyword trigger keyword = true ↔ keyword ++ [' '] <+: trigger := by
  rw [extendsKeyword, Option.any_eq_true]
  constructor
  · rintro ⟨rest, cut, space⟩
    obtain ⟨later, rfl⟩ := List.head?_eq_some_iff.1 (beq_iff_eq.1 space)
    exact ⟨later, by rw [Text.after?_eq_some cut, List.append_assoc]; rfl⟩
  · rintro ⟨later, rfl⟩
    refine ⟨' ' :: later, ?_, beq_self_eq_true _⟩
    rw [List.append_assoc]
    exact Text.after?_append _ _

theorem initial_of_opens (h : Opens trigger keyword) : keyword <+: trigger := by
  rcases h with rfl | initial
  · exact List.prefix_rfl
  · exact (List.prefix_append keyword [' ']).trans initial

/-- Keywords of the same length that open one trigger are the same. -/
theorem eq_of_opens (h : Opens trigger keyword) (h' : Opens trigger other)
    (same : keyword.length = other.length) : keyword = other :=
  (List.prefix_of_prefix_length_le (initial_of_opens h) (initial_of_opens h')
    same.le).eq_of_length same

end

/-! ## §2 The longest keyword -/

section
variable {entries : List (Text × Text)} {best : Text × Text}

theorem longestKeyword?_concat (entries : List (Text × Text)) (entry : Text × Text) :
    longestKeyword? (entries ++ [entry]) =
      if (longestKeyword? entries).any fun b => entry.1.length < b.1.length then
        longestKeyword? entries
      else some entry := by
  rw [longestKeyword?, List.foldl_concat, ← longestKeyword?]

theorem longestKeyword?_eq_none_iff : longestKeyword? entries = none ↔ entries = [] := by
  induction entries using List.reverseRecOn with
  | nil => exact ⟨fun _ => rfl, fun _ => rfl⟩
  | append_singleton entries entry ih =>
    rw [longestKeyword?_concat]
    cases found : longestKeyword? entries with
    | none => simp
    | some b => simp only [Option.any_some]; split <;> simp

/-- What is found is listed, and no listed keyword is longer. -/
theorem longestKeyword?_eq_some (h : longestKeyword? entries = some best) :
    best ∈ entries ∧ ∀ entry ∈ entries, entry.1.length ≤ best.1.length := by
  induction entries using List.reverseRecOn generalizing best with
  | nil => exact absurd h (by simp [longestKeyword?])
  | append_singleton entries last ih =>
    rw [longestKeyword?_concat] at h
    split at h
    · next longer =>
      obtain ⟨member, longest⟩ := ih h
      rw [h, Option.any_some, decide_eq_true_eq] at longer
      refine ⟨List.mem_append_left _ member, fun entry listed => ?_⟩
      rcases List.mem_append.1 listed with earlier | new
      · exact longest entry earlier
      · exact List.mem_singleton.1 new ▸ longer.le
    · next shorter =>
      obtain rfl : last = best := Option.some.inj h
      refine ⟨List.mem_append_right _ (List.mem_singleton.2 rfl), fun entry listed => ?_⟩
      rcases List.mem_append.1 listed with earlier | new
      · cases found : longestKeyword? entries with
        | none => exact absurd (longestKeyword?_eq_none_iff.1 found ▸ earlier) List.not_mem_nil
        | some b =>
          have atMost : b.1.length ≤ last.1.length := by simpa [found] using shorter
          exact ((ih found).2 entry earlier).trans atMost
      · exact (List.mem_singleton.1 new ▸ le_rfl)

end

/-! ## §3 The template of a trigger -/

section
variable {g : Generator} {trigger template : Text}

/-- The template that is found stands under a keyword that opens the trigger, and no longer keyword
does. -/
theorem triggerTemplate?_eq_some (h : g.triggerTemplate? trigger = some template) :
    ∃ keyword, g.triggers.get? keyword = some template ∧ Opens trigger keyword ∧
      ∀ other, (g.triggers.get? other).isSome → Opens trigger other →
        other.length ≤ keyword.length := by
  rw [triggerTemplate?] at h
  split at h
  · next whole =>
    -- The trigger is a keyword itself, and nothing that opens it is longer.
    obtain rfl := Option.some.inj h
    exact ⟨trigger, whole, .inl rfl, fun other _ opens => (initial_of_opens opens).length_le⟩
  · next missing =>
    -- No keyword is the trigger itself, so those that open it are the ones that were tried.
    obtain ⟨⟨keyword, _⟩, found, rfl⟩ := Option.map_eq_some_iff.1 h
    obtain ⟨member, longest⟩ := longestKeyword?_eq_some found
    obtain ⟨listed, goesOn⟩ := List.mem_filter.1 member
    refine ⟨keyword, Catalog.mem_entries_iff.1 listed, .inr (extendsKeyword_iff.1 goesOn), ?_⟩
    intro other there opens
    obtain ⟨value, there⟩ := Option.isSome_iff_exists.1 there
    rcases opens with rfl | goesOn
    · exact absurd (missing.symm.trans there) (by simp)
    · exact longest (other, value) (List.mem_filter.2
        ⟨Catalog.mem_entries_iff.2 there, extendsKeyword_iff.2 goesOn⟩)

theorem triggerTemplate?_eq_none_iff : g.triggerTemplate? trigger = none ↔
    ∀ keyword, Opens trigger keyword → g.triggers.get? keyword = none := by
  constructor
  · intro h keyword opens
    rw [triggerTemplate?] at h
    split at h
    · exact absurd h (by simp)
    · next missing =>
      rcases opens with rfl | goesOn
      · exact missing
      · have empty := longestKeyword?_eq_none_iff.1 (Option.map_eq_none_iff.1 h)
        refine Option.eq_none_iff_forall_ne_some.2 fun value there => ?_
        exact List.filter_eq_nil_iff.1 empty (keyword, value) (Catalog.mem_entries_iff.2 there)
          (extendsKeyword_iff.2 goesOn)
  · intro none
    refine Option.eq_none_iff_forall_ne_some.2 fun template found => ?_
    obtain ⟨keyword, there, opens, -⟩ := triggerTemplate?_eq_some found
    exact absurd ((none keyword opens).symm.trans there) (by simp)

end

/-! ## §4 What is written around a body -/

/-- The body under a trigger by a template, or without one: then the words of the trigger stand
before it. A template that sets the body off by a colon gets it with a capital. -/
def underTrigger (template : Option Text) (trigger body : Text) : Text :=
  match template with
  | none => Template.tidy (trigger ++ " " ++ body)
  | some template =>
    let opened := Text.holds (": " ++ Template.slot .effect) template
    Template.render template fun name =>
      if name = Category.trigger.toTag then some trigger
      else if name = Category.effect.toTag then
        some (if opened then Text.capitalize body else body)
      else none

/-- The effects of a chain, under its condition if it has one. -/
def bodyText (g : Generator) (chain : Chain) : Text :=
  match chain.textOf? .condition with
  | some condition => g.conditionText condition (g.effectsText chain)
  | none => g.effectsText chain

theorem triggerText_eq (g : Generator) (trigger body : Text) :
    g.triggerText trigger body = underTrigger (g.triggerTemplate? trigger) trigger body := by
  rw [triggerText]
  cases g.triggerTemplate? trigger <;> rfl

theorem generate_of_trigger (g : Generator) {chain : Chain} {trigger : Text}
    (h : chain.textOf? .trigger = some trigger) : g.generate chain =
      Text.capitalize (underTrigger (g.triggerTemplate? trigger) trigger (g.bodyText chain)) := by
  have present : chain.isEmpty = false := by
    rw [Chain.isEmpty, List.isEmpty_eq_false_iff]
    rintro empty
    simp [Chain.textOf?, Chain.firstOf?, Chain.componentsOf, empty] at h
  simp only [generate, present, h, ← triggerText_eq, bodyText]
  rfl

/-! ## §5 Additions -/

/-- The layers of a text, each with templates of its own. -/
inductive Layer
  | effect
  | trigger
  | condition
deriving DecidableEq, Repr

/-- The templates of a layer. -/
def templates (g : Generator) : Layer → Catalog Text
  | .effect => g.effects
  | .trigger => g.triggers
  | .condition => g.conditions

/-- A template that is added to a layer under a keyword. -/
structure Addition where
  layer : Layer
  keyword : Text
  template : Text
deriving DecidableEq, Repr

namespace Addition

/-- The generator with the addition. -/
def apply (g : Generator) (addition : Addition) : Generator :=
  match addition.layer with
  | .effect => g.addEffect addition.keyword addition.template
  | .trigger => g.addTrigger addition.keyword addition.template
  | .condition => g.addCondition addition.keyword addition.template

/-- Where the template stands: the layer, and the keyword in normal form. -/
def place (addition : Addition) : Layer × Text :=
  (addition.layer, Text.normalize addition.keyword)

/-- The template that the addition puts at a place. -/
def templateAt? (place : Layer × Text) (addition : Addition) : Option Text :=
  if addition.place = place then some addition.template else none

end Addition

/-- The template that the additions leave at a place: the one that was added last. -/
def lastTemplate? (additions : List Addition) (place : Layer × Text) : Option Text :=
  (additions.filterMap (Addition.templateAt? place)).getLast?

section
variable (addition : Addition) (additions : List Addition) (layer : Layer) (keyword : Text)

/-- An addition reaches its own layer only. -/
theorem templates_apply (g : Generator) : (addition.apply g).templates layer =
    if addition.layer = layer then
      (g.templates layer).insert (Text.normalize addition.keyword) addition.template
    else g.templates layer := by
  obtain ⟨own, keyword, template⟩ := addition
  cases own <;> cases layer <;> rfl

/-- One addition decides about its own place. -/
theorem get?_templates_apply (g : Generator) :
    ((addition.apply g).templates layer).get? keyword =
      (addition.templateAt? (layer, keyword)).or ((g.templates layer).get? keyword) := by
  rw [templates_apply, Addition.templateAt?]
  by_cases same : addition.layer = layer
  · rw [if_pos same, Catalog.get?_insert]
    by_cases own : Text.normalize addition.keyword = keyword
    · rw [if_pos own.symm, if_pos (Prod.ext same own), Option.some_or]
    · rw [if_neg (Ne.symm own), if_neg fun h => own (congrArg Prod.snd h), Option.none_or]
  · rw [if_neg same, if_neg fun h => same (congrArg Prod.fst h), Option.none_or]

theorem lastTemplate?_concat (place : Layer × Text) :
    lastTemplate? (additions ++ [addition]) place =
      (addition.templateAt? place).or (lastTemplate? additions place) := by
  rw [lastTemplate?, List.filterMap_append, List.filterMap_cons, lastTemplate?]
  cases addition.templateAt? place <;> simp

/-- After several additions the last template of a place is there, or else the one before them. -/
theorem get?_templates_foldl (g : Generator) :
    ((additions.foldl Addition.apply g).templates layer).get? keyword =
      (lastTemplate? additions (layer, keyword)).or ((g.templates layer).get? keyword) := by
  induction additions using List.reverseRecOn with
  | nil => rfl
  | append_singleton additions addition ih =>
    rw [List.foldl_concat, get?_templates_apply, ih, lastTemplate?_concat, Option.or_assoc]

end

/-- Generators with the same templates at all places are the same. -/
theorem ext_get? {g other : Generator} (h : ∀ layer keyword,
    (g.templates layer).get? keyword = (other.templates layer).get? keyword) : g = other := by
  obtain ⟨effects, triggers, conditions⟩ := g
  obtain ⟨effects', triggers', conditions'⟩ := other
  obtain rfl : effects = effects' := Catalog.ext_get? (h .effect)
  obtain rfl : triggers = triggers' := Catalog.ext_get? (h .trigger)
  obtain rfl : conditions = conditions' := Catalog.ext_get? (h .condition)
  rfl

section
variable {additions other : List Addition} {place : Layer × Text} {template : Text}

theorem exists_addition_of_lastTemplate? (h : lastTemplate? additions place = some template) :
    ∃ addition ∈ additions, addition.place = place ∧ addition.template = template := by
  obtain ⟨addition, added, there⟩ := List.mem_filterMap.1 (List.mem_of_getLast? h)
  rw [Addition.templateAt?, Option.ite_none_right_eq_some] at there
  exact ⟨addition, added, there.1, Option.some.inj there.2⟩

theorem isSome_lastTemplate?_iff :
    (lastTemplate? additions place).isSome ↔ place ∈ additions.map Addition.place := by
  rw [lastTemplate?, Option.isSome_iff_ne_none, Ne, List.getLast?_eq_none_iff,
    List.filterMap_eq_nil_iff, List.mem_map]
  simp [Addition.templateAt?]

/-- Where no place is given twice, every template is the last of its place. -/
theorem lastTemplate?_eq_some_iff (distinct : (additions.map Addition.place).Nodup) :
    lastTemplate? additions place = some template ↔
      ∃ addition ∈ additions, addition.place = place ∧ addition.template = template := by
  refine ⟨exists_addition_of_lastTemplate?, ?_⟩
  rintro ⟨addition, added, there, rfl⟩
  have given : place ∈ additions.map Addition.place := List.mem_map.2 ⟨addition, added, there⟩
  obtain ⟨template, last⟩ := Option.isSome_iff_exists.1 (isSome_lastTemplate?_iff.2 given)
  obtain ⟨addition', added', there', rfl⟩ := exists_addition_of_lastTemplate? last
  rw [last, List.inj_on_of_nodup_map distinct added added' (there.trans there'.symm)]

theorem lastTemplate?_eq_of_perm (perm : other.Perm additions)
    (distinct : (additions.map Addition.place).Nodup) :
    lastTemplate? other place = lastTemplate? additions place := by
  have distinct' : (other.map Addition.place).Nodup := (perm.map _).nodup_iff.2 distinct
  refine Option.ext fun template => ?_
  rw [lastTemplate?_eq_some_iff distinct', lastTemplate?_eq_some_iff distinct]
  simp only [perm.mem_iff]

end

/-! ## §6 Generators with a history -/

/-- The generator without templates. -/
def blank : Generator := ⟨.empty, .empty, .empty⟩

/-- The additions that make the standard generator. -/
def standardAdditions : List Addition :=
  [Layer.effect, .trigger, .condition].flatMap fun layer =>
    (standard.templates layer).entries.map fun entry => ⟨layer, entry.1, entry.2⟩

theorem standard_eq_foldl : standard = standardAdditions.foldl Addition.apply blank := rfl

/-- The generator that further additions make of the standard one. -/
def afterAll (additions : List Addition) : Generator := additions.foldl Addition.apply standard

section
variable {additions : List Addition} {trigger keyword : Text}

theorem get?_templates_afterAll (layer : Layer) (keyword : Text) :
    ((afterAll additions).templates layer).get? keyword =
      lastTemplate? (standardAdditions ++ additions) (layer, keyword) := by
  rw [afterAll, standard_eq_foldl, ← List.foldl_append, get?_templates_foldl]
  cases layer <;> exact Option.or_none

/-- The order of additions at different places does not matter. -/
theorem afterAll_eq_of_perm {other : List Addition} (perm : other.Perm additions)
    (distinct : (additions.map Addition.place).Nodup) : afterAll other = afterAll additions := by
  refine ext_get? fun layer keyword => ?_
  rw [afterAll, get?_templates_foldl, lastTemplate?_eq_of_perm perm distinct,
    ← get?_templates_foldl, afterAll]

/-- The keyword that decides about a trigger: of those with a template that open the trigger it is
the longest. -/
structure Governs (history : List Addition) (trigger keyword : Text) : Prop where
  added : (Layer.trigger, keyword) ∈ history.map Addition.place
  opens : Opens trigger keyword
  longest : ∀ other, (Layer.trigger, other) ∈ history.map Addition.place → Opens trigger other →
    other.length ≤ keyword.length

theorem Governs.unique {history : List Addition} {other : Text}
    (h : Governs history trigger keyword) (h' : Governs history trigger other) :
    keyword = other := by
  refine eq_of_opens h.opens h'.opens (le_antisymm ?_ ?_)
  · exact h'.longest keyword h.added h.opens
  · exact h.longest other h'.added h'.opens

instance (history : List Addition) (trigger keyword : Text) :
    Decidable (Governs history trigger keyword) :=
  decidable_of_iff
    ((Layer.trigger, keyword) ∈ history.map Addition.place ∧ Opens trigger keyword ∧
      ∀ place ∈ history.map Addition.place, place.1 = .trigger → Opens trigger place.2 →
        place.2.length ≤ keyword.length)
    ⟨fun h => ⟨h.1, h.2.1, fun other there => h.2.2 (.trigger, other) there rfl⟩,
      fun h => ⟨h.added, h.opens, fun | (.trigger, other), there, _ => h.longest other there⟩⟩

/-- How a generator with a history writes the chains with a trigger. -/
structure WritesBy (history : List Addition) (g : Generator) (trigger : Text) : Prop where
  /-- The template was added last under the keyword that decides. -/
  template_iff : ∀ template, g.triggerTemplate? trigger = some template ↔
    ∃ keyword, Governs history trigger keyword ∧
      lastTemplate? history (.trigger, keyword) = some template
  /-- There is none exactly when no keyword opens the trigger. -/
  raw_iff : g.triggerTemplate? trigger = none ↔
    ∀ keyword, (Layer.trigger, keyword) ∈ history.map Addition.place → ¬Opens trigger keyword
  /-- The template is put around the body, or else the raw trigger before it. -/
  generate_eq : ∀ chain, chain.textOf? .trigger = some trigger → g.generate chain =
    Text.capitalize (underTrigger (g.triggerTemplate? trigger) trigger (g.bodyText chain))

theorem writesBy_afterAll (trigger : Text) :
    (afterAll additions).WritesBy (standardAdditions ++ additions) trigger := by
  have stored : ∀ keyword, (afterAll additions).triggers.get? keyword =
      lastTemplate? (standardAdditions ++ additions) (.trigger, keyword) :=
    get?_templates_afterAll .trigger
  have governed : ∀ template, (afterAll additions).triggerTemplate? trigger = some template →
      ∃ keyword, Governs (standardAdditions ++ additions) trigger keyword ∧
        lastTemplate? (standardAdditions ++ additions) (.trigger, keyword) = some template := by
    intro template found
    obtain ⟨keyword, there, opens, longest⟩ := triggerTemplate?_eq_some found
    simp only [stored, isSome_lastTemplate?_iff] at there longest
    have added := isSome_lastTemplate?_iff.1 (Option.isSome_of_eq_some there)
    exact ⟨keyword, ⟨added, opens, longest⟩, there⟩
  have raw : (afterAll additions).triggerTemplate? trigger = none ↔
      ∀ keyword, (Layer.trigger, keyword) ∈ (standardAdditions ++ additions).map Addition.place →
        ¬Opens trigger keyword := by
    rw [triggerTemplate?_eq_none_iff]
    refine forall_congr' fun keyword => ?_
    rw [stored, ← isSome_lastTemplate?_iff, ← Option.not_isSome_iff_eq_none]
    exact imp_not_comm
  refine ⟨fun template => ⟨governed template, ?_⟩, raw, fun _ => generate_of_trigger _⟩
  rintro ⟨keyword, governs, last⟩
  cases found : (afterAll additions).triggerTemplate? trigger with
  | none => exact absurd governs.opens (raw.1 found keyword governs.added)
  | some template' =>
    obtain ⟨keyword', governs', last'⟩ := governed template' found
    rw [governs'.unique governs] at last'
    exact last'.symm.trans last

end

/-- **A trigger is written by its most specific template, whatever was added when.** After any
additions to the standard templates, a trigger takes the template that was added last under the
longest keyword with which it opens as a word; without such a keyword its own words stand before the
body. Additions at different places, in whatever order, make generators that write every chain
alike. -/
theorem writesBy_and_generate_eq_afterAll (additions : List Addition) :
    (∀ trigger, (afterAll additions).WritesBy (standardAdditions ++ additions) trigger) ∧
    ∀ other : List Addition, other.Perm additions → (additions.map Addition.place).Nodup →
      ∀ chain, (afterAll other).generate chain = (afterAll additions).generate chain := by
  refine ⟨writesBy_afterAll, fun other perm distinct chain => ?_⟩
  rw [afterAll_eq_of_perm perm distinct]

open Template in
/-- Keywords that open each other, one of them the beginning of a word only. -/
def nestedAdditions : List Addition :=
  [⟨.trigger, "At the\nEND of your", slot .trigger ++ ", you may " ++ slot .effect⟩,
   ⟨.trigger, "at the end", "Later: " ++ slot .effect⟩,
   ⟨.trigger, "at the end of your tu", slot .effect ++ " soon"⟩]

/-- A card is drawn at the end of the turn. -/
def endOfTurn : Chain :=
  let parts : List (Category × Text) :=
    [(.trigger, "at the end of your turn"), (.effect, "draw"), (.value, "1")]
  .ofList (parts.filterMap fun part => (Component.new part.1 part.2).toOption)

/-- The longest keyword that ends with a word decides, in any order of the additions. A later
addition under another spelling takes its place. -/
theorem writesBy_and_generate_eq_afterAll_endOfTurn :
    let trigger : Text := "at the end of your turn"
    let keyword : Text := "at the end of your"
    let later : List Addition := nestedAdditions ++ [⟨.trigger, keyword, Template.slot .effect⟩]
    Governs (standardAdditions ++ nestedAdditions) trigger keyword ∧
      (afterAll nestedAdditions).generate endOfTurn =
        "At the end of your turn, you may draw 1 card" ∧
      (afterAll nestedAdditions.reverse).generate endOfTurn =
        "At the end of your turn, you may draw 1 card" ∧
      (afterAll later).generate endOfTurn = "Draw 1 card" := by
  intro trigger keyword later
  obtain ⟨writes, alike⟩ := writesBy_and_generate_eq_afterAll nestedAdditions
  have governs : Governs (standardAdditions ++ nestedAdditions) trigger keyword := by decide
  have used := ((writes trigger).template_iff _).2 ⟨keyword, governs, rfl⟩
  have written : (afterAll nestedAdditions).generate endOfTurn =
      "At the end of your turn, you may draw 1 card" := by
    rw [(writes trigger).generate_eq endOfTurn rfl, used]
    decide
  have reversed := alike _ (List.reverse_perm _) (by decide) endOfTurn
  refine ⟨governs, written, reversed.trans written, ?_⟩
  have writes' := (writesBy_and_generate_eq_afterAll later).1 trigger
  have used' := (writes'.template_iff _).2 ⟨keyword, by decide, rfl⟩
  rw [writes'.generate_eq endOfTurn rfl, used']
  decide

end AbilityText.Generator
