/-
AbilityText.Vocabulary — the phrases that a game knows, by category.

A surface phrase stands for a canonical text: "deal" may mean "deal damage". Values may also be
declared without being read from text, such as the numbers that a game prints.
-/
import AbilityText.CategorySet
import AbilityText.Text.Normal

namespace AbilityText

/-- The phrases of one category with their canonical texts, the newest entry first. -/
structure PhraseTable where
  category : Category
  entries : List (Text × Text)
deriving DecidableEq

namespace PhraseTable

/-- The table with further pairs of surface phrase and canonical text. -/
def extend (pairs : List (Text × Text)) (table : PhraseTable) : PhraseTable :=
  { table with
    entries := pairs.foldl
      (fun entries pair => (Text.normalize pair.1, Text.normalize pair.2) :: entries)
      table.entries }

/-- The canonical text of a phrase: the newest entry wins. -/
def lookup (table : PhraseTable) (phrase : Text) : Option Text := table.entries.lookup phrase

end PhraseTable

/-- The texts without later repeats. -/
def distinct (texts : List Text) : List Text :=
  texts.foldl (fun seen t => if seen.contains t then seen else seen ++ [t]) []

/-- The phrase tables of a game, at most one for a category, and the values declared beside them. -/
structure Vocabulary where
  tables : List PhraseTable
  declared : List (Category × List Text)
deriving DecidableEq

namespace Vocabulary

/-- The vocabulary without phrases. -/
def empty : Vocabulary := ⟨[], []⟩

/-- The table of a category. -/
def table? (vocabulary : Vocabulary) (category : Category) : Option PhraseTable :=
  vocabulary.tables.find? fun table => decide (table.category = category)

/-- The vocabulary with further phrases of a category, each given with its canonical text. -/
def aliases (category : Category) (pairs : List (Text × Text)) (vocabulary : Vocabulary) :
    Vocabulary :=
  { vocabulary with
    tables :=
      if (vocabulary.table? category).isSome then
        vocabulary.tables.map fun table =>
          if table.category = category then table.extend pairs else table
      else vocabulary.tables ++ [PhraseTable.extend pairs ⟨category, []⟩] }

/-- The vocabulary with further phrases that stand for themselves. -/
def words (category : Category) (phrases : List Text) (vocabulary : Vocabulary) : Vocabulary :=
  vocabulary.aliases category (phrases.map fun phrase => (phrase, phrase))

/-- The vocabulary with further values of a category that are not read from text. -/
def declare (category : Category) (values : List Text) (vocabulary : Vocabulary) : Vocabulary :=
  { vocabulary with
    declared := vocabulary.declared ++ [(category, values.map Text.normalize)] }

/-- The canonical text of a phrase of a category. -/
def lookup (vocabulary : Vocabulary) (category : Category) (phrase : Text) : Option Text :=
  (vocabulary.table? category).bind fun table => table.lookup phrase

/-- The values of a category without repeats: the canonical texts in the order in which they first
appeared, then the declared values. -/
def values (vocabulary : Vocabulary) (category : Category) : List Text :=
  let canonical := ((vocabulary.table? category).map fun table =>
    table.entries.reverse.map Prod.snd).getD []
  let declared := (vocabulary.declared.filter fun entry => decide (entry.1 = category)).flatMap
    Prod.snd
  distinct (canonical ++ declared)

/-- The categories that the vocabulary mentions. -/
def categories (vocabulary : Vocabulary) : CategorySet :=
  .ofList (vocabulary.tables.map PhraseTable.category ++ vocabulary.declared.map Prod.fst)

end Vocabulary

end AbilityText
