/-
AbilityText.Main — the command line program.
-/
import AbilityText.CommandLine
import AbilityText.CommandLine.Duration

open AbilityText

/-- Prints the answer to the arguments. The standard input is read only where the answer depends on
it, and the time that a report shows is that of the answer without it. -/
def main (arguments : List String) : IO UInt32 := do
  let stdout ← IO.getStdout
  let terminal ← stdout.isTty
  let request := CommandLine.readArguments { color := terminal } (arguments.map String.toList)
  let stdin ←
    if CommandLine.needsInput request then
      let bytes ← (← IO.getStdin).readBinToEnd
      pure (Utf8.decode bytes).toOption
    else pure (some [])
  let started ← IO.monoNanosNow
  let untimed := CommandLine.answer request stdin []
  let finished ← if untimed.code = 0 then IO.monoNanosNow else pure started
  let result := CommandLine.answer request stdin (CommandLine.durationText (finished - started))
  (← IO.getStderr).putStr (String.ofList result.stderr)
  stdout.putStr (String.ofList result.stdout)
  return UInt32.ofNat result.code
