import AbilityText.CommandLine
import AbilityText.Main
import AbilityText.Record
import AbilityText.Proofs.Text.Normal
import AbilityText.Proofs.Clause
import AbilityText.Proofs.Vocabulary
import AbilityText.Proofs.Vocabulary.Calls
import AbilityText.Proofs.Record.ChainField
import AbilityText.Proofs.Classification.Reading
import AbilityText.Proofs.Classification.Conservation
import AbilityText.Proofs.Classification.Agreement
import AbilityText.Proofs.Classification.Soundness
import AbilityText.Proofs.Classification.Gating
import AbilityText.Proofs.Classification.Numbers
import AbilityText.Proofs.Classification.Sentences
import AbilityText.Proofs.Classification.Alike
import AbilityText.Proofs.Classification.Window
import AbilityText.Proofs.Classification.Keywords
import AbilityText.Proofs.Classification.Spacing
import AbilityText.Proofs.Classification.Shadowed
import AbilityText.Proofs.Classification.ListedNumbers
import AbilityText.Proofs.Record.Csv
import AbilityText.Proofs.Record.DecodedChains
import AbilityText.Proofs.Record.Grammar
import AbilityText.Proofs.Record.Row
import AbilityText.Proofs.Record.Unquoted
import AbilityText.Proofs.Sentence.Signals
import AbilityText.Proofs.Sentence.Spacing
import AbilityText.Proofs.Sentence.Splitting
import AbilityText.Proofs.Template.SinglePass
import AbilityText.Proofs.Template.Tidy
import AbilityText.Proofs.Chain.Reached
import AbilityText.Proofs.Chain.Equality
import AbilityText.Proofs.Chain.Merge
import AbilityText.Proofs.Judging.Order
import AbilityText.Proofs.Judging.Accepted
import AbilityText.Proofs.Judging.StandardValidator
import AbilityText.Proofs.Judging.Componentwise
import AbilityText.Proofs.Judging.Errors
import AbilityText.Proofs.Rulebook
import AbilityText.Proofs.Plurals
import AbilityText.Proofs.Record.ClassifiedChains
import AbilityText.Proofs.ParseReport
import AbilityText.Proofs.CommandLine.Spellings
import AbilityText.Proofs.CommandLine.ExitCode
import AbilityText.Proofs.Generator
import AbilityText.Proofs.Chain.Spelling
