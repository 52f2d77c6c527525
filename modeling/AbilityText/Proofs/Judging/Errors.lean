/-
AbilityText.Proofs.Judging.Errors — what a validator finds in a chain.

A verdict stops at the first failure, and the errors list every one. Both depend on two lists: the
rules that fail, in the order in which they were added, and the names of the checks that fail, in
the order of the names (`errors_eq`). A history of changes says what these lists hold. Every rule
that was added is in force, and under each name the check that was added last (`rules_foldl`,
`get?_checks_foldl`); the standard rules and checks are the first changes of all
(`standard_eq_foldl`).

A further rule stands behind the others, and a further check reaches its own name only. That a name
has one entry is what makes the second true: without the name, the catalog is the same as before
(`Catalog.erase_insert`).
-/
import AbilityText.Proofs.Judging.Componentwise
import AbilityText.Proofs.Judging.StandardValidator

namespace AbilityText

/-! ## §1 Entries of a catalog -/

namespace Catalog

variable {β : Type}

/-- Setting a key changes nothing in what is left without it. -/
theorem erase_insert (key : Text) (value : β) (catalog : Catalog β) :
    (catalog.insert key value).erase key = catalog.erase key := by
  refine ext_get? fun other => ?_
  rw [get?_erase, get?_erase, get?_insert]
  split <;> rfl

/-- The value that is set last stays. -/
theorem insert_insert (key : Text) (first last : β) (catalog : Catalog β) :
    (catalog.insert key first).insert key last = catalog.insert key last := by
  refine ext_get? fun other => ?_
  rw [get?_insert, get?_insert, get?_insert]
  split <;> rfl

end Catalog

namespace Validator

/-! ## §2 What fails -/

/-- Does a check of this name apply to the chain? Under the name of a common pattern it does when
each category of the pattern is there, under any other name when an effect of that text is. -/
inductive Applies (pattern : Text) (chain : Chain) : Prop
  | common {categories : List Category} : (pattern, categories) ∈ CommonPattern.catalogue →
      (∀ category ∈ categories, ∃ c ∈ chain.components, c.category = category) →
      Applies pattern chain
  | effect {c : Component} : pattern ∉ CommonPattern.names → c ∈ chain.components →
      c.category = .effect → c.text = Text.normalize pattern → Applies pattern chain

theorem concerns_iff {pattern : Text} {chain : Chain} (h : chain.Consistent) :
    concerns pattern chain = true ↔ Applies pattern chain := by
  have listed : (CommonPattern.find? pattern).isSome = true ↔ pattern ∈ CommonPattern.names := by
    simp [CommonPattern.find?, CommonPattern.names, List.lookup_isSome_iff]
  unfold concerns
  split
  · next common =>
    rw [CommonPattern.matchesNamed_iff h]
    constructor
    · rintro ⟨categories, entry, there⟩
      exact .common entry there
    · rintro (⟨entry, there⟩ | ⟨free, -⟩)
      · exact ⟨_, entry, there⟩
      · exact absurd (listed.1 common) free
  · next free =>
    rw [listed] at free
    rw [h.hasComponent_iff]
    constructor
    · rintro ⟨c, member, category, text⟩
      exact .effect free member category text
    · rintro (⟨entry, -⟩ | ⟨-, member, category, text⟩)
      · exact absurd (List.mem_map_of_mem (f := Prod.fst) entry) free
      · exact ⟨_, member, category, text⟩

section
variable (v : Validator) (chain : Chain)

/-- The rules that the chain fails, in the order in which they were added. -/
def failedRules : List Rule := v.rules.filter fun rule => !rule.validate chain

/-- The names of the checks that the chain fails, in their order. -/
def failedChecks : List Text :=
  (v.checks.entries.filter fun entry => concerns entry.1 chain && !entry.2 chain).map Prod.fst

/-- How a failed check is reported. -/
def invalidPattern (pattern : Text) : Text := "Invalid " ++ pattern ++ " pattern"

theorem errors_eq : v.errors chain =
    (v.failedRules chain).map Rule.description ++ (v.failedChecks chain).map invalidPattern := by
  rw [errors, failedRules, failedChecks, List.map_map]
  rfl

theorem validate_iff_errors : v.validate chain = true ↔ v.errors chain = [] := by
  rw [validate_eq_isEmpty_errors, List.isEmpty_iff]

theorem validate_iff : v.validate chain = true ↔
    v.failedRules chain = [] ∧ v.failedChecks chain = [] := by
  rw [validate_iff_errors, errors_eq, List.append_eq_nil_iff, List.map_eq_nil_iff,
    List.map_eq_nil_iff]

/-- No name is listed twice. -/
theorem failedChecks_ascending : (v.failedChecks chain).Pairwise (· < ·) :=
  List.pairwise_map.2 (v.checks.ascending.filter _)

variable {v chain}

theorem mem_failedChecks (h : chain.Consistent) {pattern : Text} :
    pattern ∈ v.failedChecks chain ↔ Applies pattern chain ∧
      ∃ check, v.checks.get? pattern = some check ∧ check chain = false := by
  simp only [failedChecks, List.mem_map, List.mem_filter, Prod.exists, Catalog.mem_entries_iff,
    Bool.and_eq_true, Bool.not_eq_true', concerns_iff h]
  constructor
  · rintro ⟨_, check, ⟨found, applies, fails⟩, rfl⟩
    exact ⟨applies, check, found, fails⟩
  · rintro ⟨applies, check, found, fails⟩
    exact ⟨pattern, check, ⟨found, applies, fails⟩, rfl⟩

/-- The failed checks of other names are those that the catalog without the name holds. -/
theorem failedChecks_filter_ne (pattern : Text) :
    ((v.failedChecks chain).filter fun other => decide (other ≠ pattern)) =
      (((v.checks.erase pattern).entries.filter fun entry =>
        concerns entry.1 chain && !entry.2 chain).map Prod.fst) := by
  rw [failedChecks, List.filter_map, List.filter_filter, Catalog.erase, List.filter_filter]
  refine congrArg (List.map Prod.fst) (List.filter_congr fun entry _ => ?_)
  rw [Bool.and_comm]
  rfl

end

/-! ## §3 Further rules and checks -/

section
variable {v : Validator} {chain : Chain}

/-- A further rule comes behind the others. -/
theorem failedRules_addRule (rule : Rule) : (v.addRule rule).failedRules chain =
    v.failedRules chain ++ if rule.validate chain then [] else [rule] := by
  rw [failedRules, addRule, List.filter_append, failedRules, List.filter_singleton]
  cases rule.validate chain <;> rfl

theorem errors_addRule (rule : Rule) : (v.addRule rule).errors chain =
    (v.failedRules chain).map Rule.description ++
      (if rule.validate chain then [] else [rule.description]) ++
        (v.failedChecks chain).map invalidPattern := by
  rw [errors_eq, failedRules_addRule, List.map_append, apply_ite (List.map Rule.description)]
  rfl

theorem validate_addRule (rule : Rule) : (v.addRule rule).validate chain =
    (v.validate chain && rule.validate chain) := by
  rw [Bool.eq_iff_iff, Bool.and_eq_true, validate_iff, validate_iff, failedRules_addRule,
    List.append_eq_nil_iff]
  have same : (v.addRule rule).failedChecks chain = v.failedChecks chain := rfl
  rw [same]
  cases rule.validate chain <;> simp

variable {pattern : Text} {check : Chain → Bool}

theorem failedRules_addCheck :
    (v.addCheck pattern check).failedRules chain = v.failedRules chain := rfl

/-- Checks of other names fail as before. -/
theorem failedChecks_addCheck_filter_ne :
    (((v.addCheck pattern check).failedChecks chain).filter fun other => decide (other ≠ pattern)) =
      (v.failedChecks chain).filter fun other => decide (other ≠ pattern) := by
  rw [failedChecks_filter_ne, failedChecks_filter_ne, addCheck, Catalog.erase_insert]

/-- The check of the name is the one that was added. -/
theorem mem_failedChecks_addCheck (h : chain.Consistent) :
    pattern ∈ (v.addCheck pattern check).failedChecks chain ↔
      Applies pattern chain ∧ check chain = false := by
  rw [mem_failedChecks h, addCheck, Catalog.get?_insert, if_pos rfl]
  simp

theorem validate_addCheck (h : chain.Consistent) :
    (v.addCheck pattern check).validate chain = true ↔ v.failedRules chain = [] ∧
      (∀ other ∈ v.failedChecks chain, other = pattern) ∧
        (Applies pattern chain → check chain = true) := by
  rw [validate_iff, failedRules_addCheck]
  refine and_congr_right fun _ => ?_
  have others : (∀ other ∈ (v.addCheck pattern check).failedChecks chain, other = pattern) ↔
      ∀ other ∈ v.failedChecks chain, other = pattern := by
    have same : (((v.addCheck pattern check).failedChecks chain).filter
        fun other => decide (other ≠ pattern)) =
          (v.failedChecks chain).filter fun other => decide (other ≠ pattern) :=
      failedChecks_addCheck_filter_ne
    simpa [List.filter_eq_nil_iff] using congrArg (· = []) same
  have own : pattern ∉ (v.addCheck pattern check).failedChecks chain ↔
      (Applies pattern chain → check chain = true) := by
    rw [mem_failedChecks_addCheck h, not_and, Bool.not_eq_false]
  rw [← others, ← own, List.eq_nil_iff_forall_not_mem]
  constructor
  · intro none
    exact ⟨fun other member => absurd member (none other), none pattern⟩
  · rintro ⟨only, missing⟩ other member
    exact missing (only other member ▸ member)

theorem addCheck_addCheck (earlier : Chain → Bool) :
    (v.addCheck pattern earlier).addCheck pattern check = v.addCheck pattern check := by
  rw [addCheck, addCheck, addCheck, Catalog.insert_insert]

end

/-! ## §4 Histories -/

/-- The validator without rules and checks. -/
def blank : Validator := ⟨[], .empty, .empty, .empty, .empty, []⟩

/-- The changes that make the standard validator. -/
def standardChanges : List Change :=
  standardRules.map .addRule ++
    [.addCheck "damage" hasPositiveValue, .addCheck "draw" hasPositiveValue]

theorem standard_eq_foldl : standard = standardChanges.foldl Change.apply blank := rfl

/-- The rule that the change adds. -/
def Change.rule? : Change → Option Rule
  | addRule rule => some rule
  | _ => none

/-- The check that the change puts under the name. -/
def Change.check? (pattern : Text) : Change → Option (Chain → Bool)
  | addCheck name check => if name = pattern then some check else none
  | _ => none

/-- The check that the history leaves under the name: the one that was added last. -/
def lastCheck? (history : List Change) (pattern : Text) : Option (Chain → Bool) :=
  (history.filterMap (Change.check? pattern)).getLast?

theorem rules_foldl (changes : List Change) (v : Validator) :
    (changes.foldl Change.apply v).rules = v.rules ++ changes.filterMap Change.rule? := by
  induction changes generalizing v with
  | nil => simp
  | cons change changes ih =>
    rw [List.foldl_cons, ih]
    cases change with
    | addRule rule => exact List.append_assoc _ _ _
    | _ => rfl

theorem lastCheck?_cons (change : Change) (changes : List Change) (pattern : Text) :
    lastCheck? (change :: changes) pattern =
      (lastCheck? changes pattern).or (change.check? pattern) := by
  rw [lastCheck?, List.filterMap_cons, lastCheck?]
  cases change.check? pattern with
  | none => rw [Option.or_none]
  | some check =>
    rw [List.getLast?_cons]
    cases (changes.filterMap (Change.check? pattern)).getLast? <;> rfl

/-- One change decides about its own name. -/
theorem get?_checks_apply (change : Change) (pattern : Text) (v : Validator) :
    (change.apply v).checks.get? pattern =
      (change.check? pattern).or (v.checks.get? pattern) := by
  cases change with
  | addCheck name check =>
    refine (Catalog.get?_insert name pattern check v.checks).trans ?_
    by_cases own : name = pattern
    · rw [if_pos own.symm, Change.check?, if_pos own, Option.some_or]
    · rw [if_neg (Ne.symm own), Change.check?, if_neg own, Option.none_or]
  | _ => rfl

/-- After several changes the last check under a name is there, or else the one before them. -/
theorem get?_checks_foldl (changes : List Change) (pattern : Text) (v : Validator) :
    (changes.foldl Change.apply v).checks.get? pattern =
      (lastCheck? changes pattern).or (v.checks.get? pattern) := by
  induction changes generalizing v with
  | nil => rfl
  | cons change changes ih =>
    rw [List.foldl_cons, ih, get?_checks_apply, lastCheck?_cons, Option.or_assoc]

/-- What a validator with a history says of a chain, and what a further change makes of it. -/
structure JudgesBy (history : List Change) (v : Validator) (chain : Chain) : Prop where
  /-- The verdict and the errors agree. -/
  validate_iff : v.validate chain = true ↔ v.errors chain = []
  /-- The failing rules are reported first, in the order in which they were added. -/
  errors_eq : v.errors chain =
    (((history.filterMap Change.rule?).filter fun rule => !rule.validate chain).map
      Rule.description) ++ (v.failedChecks chain).map invalidPattern
  /-- Then come the names of the failing checks, each once and in their order. -/
  failedChecks_ascending : (v.failedChecks chain).Pairwise (· < ·)
  /-- A check fails when it was added last under its name, applies, and refuses the chain. -/
  mem_failedChecks : ∀ pattern, pattern ∈ v.failedChecks chain ↔ Applies pattern chain ∧
    ∃ check, lastCheck? history pattern = some check ∧ check chain = false
  /-- A further rule can only take acceptance away. -/
  validate_addRule : ∀ rule, (v.addRule rule).validate chain =
    (v.validate chain && rule.validate chain)
  /-- It adds one error at most, behind those of the other rules. -/
  errors_addRule : ∀ rule, (v.addRule rule).errors chain =
    (v.failedRules chain).map Rule.description ++
      (if rule.validate chain then [] else [rule.description]) ++
        (v.failedChecks chain).map invalidPattern
  /-- A further check leaves the errors of the rules and of the other checks. -/
  errors_addCheck : ∀ pattern check, (v.addCheck pattern check).errors chain =
      (v.failedRules chain).map Rule.description ++
        ((v.addCheck pattern check).failedChecks chain).map invalidPattern ∧
    (((v.addCheck pattern check).failedChecks chain).filter fun other => decide (other ≠ pattern)) =
      (v.failedChecks chain).filter fun other => decide (other ≠ pattern)
  /-- Whether its own name is reported is decided by the check alone. -/
  mem_failedChecks_addCheck : ∀ pattern check,
    pattern ∈ (v.addCheck pattern check).failedChecks chain ↔
      Applies pattern chain ∧ check chain = false
  validate_addCheck : ∀ pattern check, (v.addCheck pattern check).validate chain = true ↔
    v.failedRules chain = [] ∧ (∀ other ∈ v.failedChecks chain, other = pattern) ∧
      (Applies pattern chain → check chain = true)
  /-- An earlier check under the name no longer counts. -/
  addCheck_addCheck : ∀ pattern earlier check,
    (v.addCheck pattern earlier).addCheck pattern check = v.addCheck pattern check

/-- **A validator judges by its history.** After any changes of the standard validator, it accepts
a reached chain exactly when it finds no error. The errors are the descriptions of the failing rules
in the order in which the rules were added, followed by one message for each failing check that
applies, in the order of the names. A further rule can only refuse more, and adds one error at most
behind those of the other rules. A further check takes the place of an earlier one under its name,
and changes nothing else. -/
theorem judgesBy_afterAll (changes : List Change) {chain : Chain} (h : chain.Reached) :
    (afterAll changes).JudgesBy (standardChanges ++ changes) chain := by
  have consistent := h.built.consistent
  have history : afterAll changes = (standardChanges ++ changes).foldl Change.apply blank := by
    rw [afterAll, standard_eq_foldl, List.foldl_append]
  have rules : (afterAll changes).rules = (standardChanges ++ changes).filterMap Change.rule? := by
    rw [history, rules_foldl]
    rfl
  have checks : ∀ pattern, (afterAll changes).checks.get? pattern =
      lastCheck? (standardChanges ++ changes) pattern := fun pattern => by
    rw [history, get?_checks_foldl]
    exact Option.or_none
  constructor
  case validate_iff => exact validate_iff_errors _ _
  case errors_eq => rw [errors_eq, failedRules, rules]
  case failedChecks_ascending => exact failedChecks_ascending _ _
  case mem_failedChecks =>
    intro pattern
    rw [mem_failedChecks consistent, checks]
  case validate_addRule => exact validate_addRule
  case errors_addRule => exact errors_addRule
  case errors_addCheck =>
    intro pattern check
    exact ⟨errors_eq _ _, failedChecks_addCheck_filter_ne⟩
  case mem_failedChecks_addCheck => exact fun _ _ => mem_failedChecks_addCheck consistent
  case validate_addCheck => exact fun _ _ => validate_addCheck consistent
  case addCheck_addCheck => exact fun _ earlier _ => addCheck_addCheck earlier

/-- A rule on costs, a check for an effect, and a check in place of a standard one. -/
def freezeChanges : List Change :=
  [.addRule ((Rule.new "Cost Rule" "A cost is missing").require [.cost]),
   .addCheck "freeze" fun chain => chain.size == 1,
   .addCheck "draw" fun _ => true]

/-- All minions, frozen zero times. -/
def frozenChain : Chain :=
  .ofList (componentsFrom
    [(.effect, "freeze"), (.value, "0"), (.direction, "all"), (.type, "minion")])

/-- The rule comes first, then the two names in order. The check in place of the standard one
applies and accepts, and a further check for the effect would be reported no more. -/
theorem judgesBy_afterAll_freeze :
    let v := afterAll freezeChanges
    frozenChain.Reached ∧ v.validate frozenChain = false ∧
      v.errors frozenChain =
        ["A cost is missing", "Invalid damage pattern", "Invalid freeze pattern"] ∧
      Applies "damage" frozenChain ∧ Applies "freeze" frozenChain ∧
      "draw".toList ∉ v.failedChecks frozenChain ∧
      "freeze".toList ∉ (v.addCheck "freeze" fun _ => true).failedChecks frozenChain ∧
      (v.addRule (.new "Any Rule" "Nothing is refused")).validate frozenChain = false := by
  dsimp only
  have reached : frozenChain.Reached := .ofList _
  have judges := judgesBy_afterAll freezeChanges reached
  have refused : (afterAll freezeChanges).validate frozenChain = false := by decide
  refine ⟨reached, refused, ?_, ?_, ?_, by decide, ?_, ?_⟩
  · rw [judges.errors_eq]
    decide
  · exact ((judges.mem_failedChecks "damage").1 (by decide)).1
  · exact ((judges.mem_failedChecks "freeze").1 (by decide)).1
  · rw [judges.mem_failedChecks_addCheck]
    simp
  · rw [judges.validate_addRule, refused, Bool.false_and]

end Validator

end AbilityText
