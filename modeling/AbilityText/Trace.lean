/-
AbilityText.Trace — what a parse found in a text, and the chain that it made of it.
-/
import AbilityText.Chain

namespace AbilityText

/-- A phrase of the text with the component that it became. -/
structure Match where
  phrase : Text
  component : Component
deriving DecidableEq

namespace Match

/-- The category of the component. -/
def category (m : Match) : Category := m.component.category

/-- The text of the component. -/
def text (m : Match) : Text := m.component.text

end Match

/-- What became of the words of a phrase: a component, nothing because their canonical text is
blank, or nothing because no step claims the word. -/
inductive Finding
  | matched (m : Match)
  | silent (phrase : Text)
  | dropped (word : Text)
deriving DecidableEq

namespace Finding

/-- The finding for a phrase that stands for a text of a category. -/
def ofPhrase (phrase : Text) (category : Category) (text : Text) : Finding :=
  match Component.new category text with
  | .ok component => .matched ⟨phrase, component⟩
  | .error _ => .silent phrase

/-- The match, when there is one. -/
def match? : Finding → Option Match
  | .matched m => some m
  | _ => none

/-- The word, when it was dropped. -/
def dropped? : Finding → Option Text
  | .dropped word => some word
  | _ => none

/-- The surface text that the finding accounts for. -/
def phrase : Finding → Text
  | .matched m => m.phrase
  | .silent phrase => phrase
  | .dropped word => word

end Finding

/-- The record of one parse. `shortcut` is the first keyword that opened the text with a colon;
`discarded` says that the chain was under the minimum size and was emptied. -/
structure Trace where
  clauses : List Text := []
  tokens : Nat := 0
  found : List Match := []
  dropped : List Text := []
  shortcut : Option Text := none
  discarded : Bool := false
deriving DecidableEq

/-- A chain with the record of how it came about. -/
structure Run where
  chain : Chain
  trace : Trace
deriving DecidableEq

/-- A chain without a record. -/
def Run.ofChain (chain : Chain) : Run := ⟨chain, {}⟩

/-- The settings of one parse. What is not given is left to the game. -/
structure ParseOptions where
  window : Option Nat := none
  minComponents : Option Nat := none
deriving DecidableEq

end AbilityText
