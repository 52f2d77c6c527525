/-
AbilityText.Category — what a fragment of ability text can be: its effect, the type of object it
speaks of, a value, a trigger, and so on. Every game classifies its texts into this one space.
-/
import AbilityText.Text.Space

namespace AbilityText

/-- The category of a component. The declaration order is the order in which sets of categories are
listed and components are sorted. -/
inductive Category
  | base
  | type
  | effect
  | direction
  | value
  | state
  | target
  | modifier
  | condition
  | trigger
  | timing
  | cost
  | resource
  | pitchValue
  | energy
  | energyType
  | zone
  | location
  | position
  | owner
  | control
  | keyword
  | counter
  | tag
  | special
  | chainLink
  | force
  | damage
  | onCard
  | result
  | ink
  | lore
  | attribute
  | action
deriving DecidableEq, Repr

namespace Category

/-- Every category, in declaration order. -/
def all : List Category :=
  [.base, .type, .effect, .direction, .value, .state, .target, .modifier, .condition, .trigger,
   .timing, .cost, .resource, .pitchValue, .energy, .energyType, .zone, .location, .position,
   .owner, .control, .keyword, .counter, .tag, .special, .chainLink, .force, .damage, .onCard,
   .result, .ink, .lore, .attribute, .action]

/-- The place of a category in the declaration order. -/
def index : Category → Fin 34
  | .base => 0
  | .type => 1
  | .effect => 2
  | .direction => 3
  | .value => 4
  | .state => 5
  | .target => 6
  | .modifier => 7
  | .condition => 8
  | .trigger => 9
  | .timing => 10
  | .cost => 11
  | .resource => 12
  | .pitchValue => 13
  | .energy => 14
  | .energyType => 15
  | .zone => 16
  | .location => 17
  | .position => 18
  | .owner => 19
  | .control => 20
  | .keyword => 21
  | .counter => 22
  | .tag => 23
  | .special => 24
  | .chainLink => 25
  | .force => 26
  | .damage => 27
  | .onCard => 28
  | .result => 29
  | .ink => 30
  | .lore => 31
  | .attribute => 32
  | .action => 33

/-! ## The order of the categories -/

/-- Every category is listed. -/
theorem mem_all (c : Category) : c ∈ all := by cases c <;> decide

/-- The list has each category at its index. -/
theorem all_at_index (c : Category) : all[c.index.val]? = some c := by cases c <;> rfl

/-- Categories differ in their indices. -/
theorem index_injective {c d : Category} (h : c.index = d.index) : c = d := by
  have := all_at_index d
  rw [← h, all_at_index c] at this
  exact Option.some.inj this

/-- Every index is that of a category. -/
theorem exists_index_eq (i : Fin 34) : ∃ c : Category, c.index = i := by
  have every : ∀ i : Fin 34, ∃ c ∈ all, c.index = i := by decide
  exact (every i).imp fun _ => And.right

/-! ## Tags -/

/-- The tag that stands for a category in records and templates. -/
def toTag : Category → Text
  | .base => "BASE"
  | .type => "TYPE"
  | .effect => "EFFECT"
  | .direction => "DIRECTION"
  | .value => "VALUE"
  | .state => "STATE"
  | .target => "TARGET"
  | .modifier => "MODIFIER"
  | .condition => "CONDITION"
  | .trigger => "TRIGGER"
  | .timing => "TIMING"
  | .cost => "COST"
  | .resource => "RESOURCE"
  | .pitchValue => "PITCH_VALUE"
  | .energy => "ENERGY"
  | .energyType => "ENERGY_TYPE"
  | .zone => "ZONE"
  | .location => "LOCATION"
  | .position => "POSITION"
  | .owner => "OWNER"
  | .control => "CONTROL"
  | .keyword => "KEYWORD"
  | .counter => "COUNTER"
  | .tag => "TAG"
  | .special => "SPECIAL"
  | .chainLink => "CHAIN_LINK"
  | .force => "FORCE"
  | .damage => "DAMAGE"
  | .onCard => "ON_CARD"
  | .result => "RESULT"
  | .ink => "INK"
  | .lore => "LORE"
  | .attribute => "ATTRIBUTE"
  | .action => "ACTION"

/-- The spelling under which a tag is looked up: ASCII capitals, with `_` for a space or a hyphen.
-/
def canonicalTag (t : Text) : Text :=
  (Text.trim t).map fun c => if c = ' ' || c = '-' then '_' else c.toUpper

/-- The category that a tag names, in any ASCII case and with spaces or hyphens for underscores. -/
def ofTag? (t : Text) : Option Category :=
  all.find? fun c => c.toTag = canonicalTag t

/-- A tag names the category that it stands for. -/
theorem ofTag?_toTag (c : Category) : ofTag? c.toTag = some c := by cases c <;> decide

end Category

end AbilityText
