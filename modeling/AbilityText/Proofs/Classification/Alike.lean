/-
AbilityText.Proofs.Classification.Alike — clauses that are read alike under two windows or in two
contexts.

A window and a context decide on nothing but the claim that wins at a word. So where two of them
give the same claims, and go on to do so behind everything that is found (`ClaimsAlike`), the same
clauses have the same readings (`readClauses_eq`). Of a clause only the words are read: other
clauses with the same words have the same findings (`outcomes_readClauses`).
-/
import AbilityText.Proofs.Classification.Reading

namespace AbilityText.Dialect

open Text (IsWord)

variable {d : Dialect} {window window' : Nat} {Related : Context → Context → Prop}

/-- In related contexts two windows give the same claims at all words, and what is found there
leaves the contexts related. -/
structure ClaimsAlike (d : Dialect) (window window' : Nat)
    (Related : Context → Context → Prop) : Prop where
  bestClaim?_eq : ∀ {ctx ctx' : Context}, Related ctx ctx' → ∀ (previous : Option Text)
    {words : List Text}, (∀ w ∈ words, IsWord w) →
      d.bestClaim? window ctx previous words = d.bestClaim? window' ctx' previous words
  after : ∀ {ctx ctx' : Context}, Related ctx ctx' → ∀ finding : Finding,
    Related (ctx.after finding) (ctx'.after finding)

namespace ClaimsAlike

variable {ctx ctx' : Context} (alike : d.ClaimsAlike window window' Related)
include alike

theorem afterAll (same : Related ctx ctx') (findings : List Finding) :
    Related (ctx.afterAll findings) (ctx'.afterAll findings) := by
  induction findings generalizing ctx ctx' with
  | nil => exact same
  | cons finding findings ih => exact ih (alike.after same finding)

theorem readWords_eq (same : Related ctx ctx') (previous : Option Text) (taken : Nat)
    {words : List Text} (proper : ∀ w ∈ words, IsWord w) :
    d.readWords window ctx previous taken words =
      d.readWords window' ctx' previous taken words := by
  induction words generalizing ctx ctx' previous taken with
  | nil => simp only [readWords]
  | cons word rest ih =>
    have later := (List.forall_mem_cons.1 proper).2
    cases taken with
    | succ taken => exact ih same (some word) taken later
    | zero =>
      rw [readWords, readWords, alike.bestClaim?_eq same previous proper]
      split
      · rw [ih same (some word) 0 later]
      · dsimp only
        rw [ih (alike.after same _) (some word) _ later]

theorem readClause_eq (same : Related ctx ctx') {words : List Text}
    (proper : ∀ w ∈ words, IsWord w) :
    d.readClause window ctx words = d.readClause window' ctx' words := by
  unfold readClause
  rw [alike.readWords_eq same none 0 proper]

/-- **Clauses are read alike where claims are alike.** -/
theorem readClauses_eq (same : Related ctx ctx') (clauses : List Text) :
    d.readClauses window ctx clauses = d.readClauses window' ctx' clauses := by
  induction clauses generalizing ctx ctx' with
  | nil => rfl
  | cons clause rest ih =>
    have proper : ∀ w ∈ Clause.words clause, IsWord w :=
      fun _ member => (Clause.isLowerWord_of_mem_words member).1
    simp only [readClauses, alike.readClause_eq same proper, ih (alike.afterAll same _)]

end ClaimsAlike

/-! ## Other clauses with the same words -/

/-- The words of a reading with what was found in them. -/
def ClauseReading.outcome (reading : ClauseReading) : List Text × List Finding :=
  (reading.words, reading.findings)

theorem outcomes_readClauses {clauses clauses' : List Text}
    (same : clauses.map Clause.words = clauses'.map Clause.words) (ctx : Context) :
    (d.readClauses window ctx clauses).map ClauseReading.outcome =
      (d.readClauses window ctx clauses').map ClauseReading.outcome := by
  induction clauses generalizing clauses' ctx with
  | nil =>
    rw [List.map_nil, eq_comm, List.map_eq_nil_iff] at same
    rw [same]
  | cons clause rest ih =>
    obtain ⟨clause', rest', rfl, word, later⟩ := List.map_eq_cons_iff.1 same.symm
    simp only [readClauses, List.map_cons, ClauseReading.outcome, word]
    rw [ih later.symm]

end AbilityText.Dialect
