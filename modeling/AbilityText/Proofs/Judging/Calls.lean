/-
AbilityText.Proofs.Judging.Calls — rules, shapes, kinds of ability, patterns and validators, as the
calls that make them.

Each of them starts from one that asks for nothing (or from the standard validator) and is added to
by calls, in any number and order. What it stores in the end is what the calls gave, call by call:
the sets are those of the listed categories, and the lists are in the order of the calls
(`Rule.foldl_apply` and its like).
-/
import AbilityText.AbilityType
import AbilityText.Validator

namespace AbilityText

/-! ## §1 Sets that calls add to -/

namespace CategorySet

@[simp] theorem union_empty (s : CategorySet) : s.union .empty = s :=
  ext_has fun category => by simp

@[simp] theorem empty_union (s : CategorySet) : CategorySet.empty.union s = s :=
  ext_has fun category => by simp

@[simp] theorem ofList_nil : ofList [] = .empty := rfl

/-- Listing more categories is uniting the sets. -/
theorem ofList_append (first more : List Category) :
    ofList (first ++ more) = (ofList first).union (ofList more) :=
  ext_has fun category => by simp

theorem union_assoc (s t u : CategorySet) : (s.union t).union u = s.union (t.union u) :=
  ext_has fun category => by simp [Bool.or_assoc]

/-- A set with one more member. -/
theorem insert_eq_union (category : Category) (s : CategorySet) :
    s.insert category = s.union (ofList [category]) :=
  ext_has fun other => by rw [has_insert, has_union, has_ofList]; simp [eq_comm]

end CategorySet

/-! ## §2 Rules -/

namespace Rule

/-- A call that adds to a rule. -/
inductive Call
  | require (categories : List Category)
  | forbid (categories : List Category)
  | requireValues (values : List Text)
  | forbidValues (values : List Text)
  | withCheck (check : Chain → Bool)

namespace Call

/-- The rule after the call. -/
def apply (rule : Rule) : Call → Rule
  | require categories => rule.require categories
  | forbid categories => rule.forbid categories
  | requireValues values => rule.requireValues values
  | forbidValues values => rule.forbidValues values
  | withCheck check => rule.withCheck check

/-- The categories that the call requires. -/
def required : Call → List Category
  | require categories => categories
  | _ => []

/-- The categories that the call forbids. -/
def forbidden : Call → List Category
  | forbid categories => categories
  | _ => []

/-- The values that the call requires. -/
def requiredValues : Call → List Text
  | .requireValues values => values
  | _ => []

/-- The values that the call forbids. -/
def forbiddenValues : Call → List Text
  | .forbidValues values => values
  | _ => []

/-- The check that the call gives. -/
def check? : Call → Option (Chain → Bool)
  | withCheck check => some check
  | _ => none

end Call

/-- The rule that several calls make. -/
def ofCalls (name description : Text) (calls : List Call) : Rule :=
  calls.foldl Call.apply (.new name description)

/-- What calls leave of a rule. -/
theorem foldl_apply (calls : List Call) (rule : Rule) : calls.foldl Call.apply rule =
    { name := rule.name
      description := rule.description
      required := rule.required.union (.ofList (calls.flatMap Call.required))
      forbidden := rule.forbidden.union (.ofList (calls.flatMap Call.forbidden))
      requiredValues :=
        rule.requiredValues ++ (calls.flatMap Call.requiredValues).map Text.normalize
      forbiddenValues :=
        rule.forbiddenValues ++ (calls.flatMap Call.forbiddenValues).map Text.normalize
      check := (calls.filterMap Call.check?).getLast?.or rule.check } := by
  induction calls generalizing rule with
  | nil => simp
  | cons call calls ih =>
    rw [List.foldl_cons, ih]
    cases call with
    | require categories =>
      simp [Call.apply, Rule.require, Call.required, Call.forbidden, Call.requiredValues,
        Call.forbiddenValues, Call.check?, CategorySet.ofList_append, CategorySet.union_assoc]
    | forbid categories =>
      simp [Call.apply, Rule.forbid, Call.required, Call.forbidden, Call.requiredValues,
        Call.forbiddenValues, Call.check?, CategorySet.ofList_append, CategorySet.union_assoc]
    | requireValues values =>
      simp [Call.apply, Rule.requireValues, Call.required, Call.forbidden, Call.requiredValues,
        Call.forbiddenValues, Call.check?]
    | forbidValues values =>
      simp [Call.apply, Rule.forbidValues, Call.required, Call.forbidden, Call.requiredValues,
        Call.forbiddenValues, Call.check?]
    | withCheck check =>
      cases later : (calls.filterMap Call.check?).getLast? <;>
        simp [Call.apply, Rule.withCheck, Call.required, Call.forbidden, Call.requiredValues,
          Call.forbiddenValues, Call.check?, List.getLast?_cons, later]

end Rule

/-! ## §3 Shapes -/

namespace Shape

/-- A call that adds to a shape. -/
inductive Call
  | require (categories : List Category)
  | permit (categories : List Category)
  | allow (category : Category) (values : List Text)

namespace Call

/-- The shape after the call. -/
def apply (shape : Shape) : Call → Shape
  | require categories => shape.require categories
  | permit categories => shape.permit categories
  | allow category values => shape.allow category values

/-- The categories that the call requires. -/
def required : Call → List Category
  | require categories => categories
  | _ => []

/-- The categories that the call makes optional. -/
def optional : Call → List Category
  | permit categories => categories
  | _ => []

/-- The restriction that the call adds, in normal form. -/
def restriction? : Call → Option (Category × List Text)
  | allow category values => some (category, values.map Text.normalize)
  | _ => none

end Call

/-- What calls leave of a shape. -/
theorem foldl_apply (calls : List Call) (shape : Shape) : calls.foldl Call.apply shape =
    { required := shape.required.union (.ofList (calls.flatMap Call.required))
      optional := shape.optional.union (.ofList (calls.flatMap Call.optional))
      restrictions := shape.restrictions ++ calls.filterMap Call.restriction? } := by
  induction calls generalizing shape with
  | nil => simp
  | cons call calls ih =>
    rw [List.foldl_cons, ih]
    cases call with
    | require categories =>
      simp [Call.apply, Shape.require, Call.required, Call.optional, Call.restriction?,
        CategorySet.ofList_append, CategorySet.union_assoc, List.filterMap_cons]
    | permit categories =>
      simp [Call.apply, Shape.permit, Call.required, Call.optional, Call.restriction?,
        CategorySet.ofList_append, CategorySet.union_assoc, List.filterMap_cons]
    | allow category values =>
      simp [Call.apply, Shape.allow, Call.required, Call.optional, Call.restriction?]

end Shape

/-! ## §4 Kinds of ability and patterns -/

namespace AbilityType

/-- A call that adds to a kind of ability. -/
inductive Call
  | shape (call : Shape.Call)
  | withRule (rule : Rule)
  | withTemplate (template : Text)

namespace Call

/-- The kind after the call. -/
def apply (kind : AbilityType) : Call → AbilityType
  | shape (.require categories) => kind.require categories
  | shape (.permit categories) => kind.permit categories
  | shape (.allow category values) => kind.allow category values
  | withRule rule => kind.withRule rule
  | withTemplate template => kind.withTemplate template

/-- What the call adds to the shape. -/
def shape? : Call → Option Shape.Call
  | shape call => some call
  | _ => none

/-- The rule that the call adds. -/
def rule? : Call → Option Rule
  | withRule rule => some rule
  | _ => none

end Call

/-- The kind of ability that several calls make. -/
def ofCalls (name description : Text) (calls : List Call) : AbilityType :=
  calls.foldl Call.apply (.new name description)

/-- What calls leave of a kind of ability, its template apart. -/
theorem foldl_apply (calls : List Call) (kind : AbilityType) :
    (calls.foldl Call.apply kind).shape =
        (calls.filterMap Call.shape?).foldl Shape.Call.apply kind.shape ∧
      (calls.foldl Call.apply kind).rules = kind.rules ++ calls.filterMap Call.rule? := by
  induction calls generalizing kind with
  | nil => simp
  | cons call calls ih =>
    rw [List.foldl_cons, (ih _).1, (ih _).2]
    cases call with
    | shape call => cases call <;> exact ⟨rfl, rfl⟩
    | withRule rule =>
      simp [Call.apply, AbilityType.withRule, Call.shape?, Call.rule?, List.filterMap_cons]
    | withTemplate template => exact ⟨rfl, rfl⟩

end AbilityType

namespace Pattern

/-- The pattern after a call. -/
def apply (pattern : Pattern) : Shape.Call → Pattern
  | .require categories => pattern.require categories
  | .permit categories => pattern.permit categories
  | .allow category values => pattern.allow category values

/-- The pattern that several calls make. -/
def ofCalls (name : Text) (calls : List Shape.Call) : Pattern := calls.foldl apply (.new name)

/-- A pattern is added to by adding to its shape. -/
theorem shape_foldl (calls : List Shape.Call) (pattern : Pattern) :
    (calls.foldl apply pattern).shape = calls.foldl Shape.Call.apply pattern.shape := by
  induction calls generalizing pattern with
  | nil => rfl
  | cons call calls ih =>
    rw [List.foldl_cons, ih]
    cases call <;> rfl

end Pattern

/-! ## §5 Validators -/

namespace Validator

/-- A change of a validator. -/
inductive Change
  | addRule (rule : Rule)
  | addCheck (pattern : Text) (check : Chain → Bool)
  | addKnown (text : Text) (chains : List Chain)
  | require (category : Category)
  | permit (category : Category)
  | list (component : Component)

namespace Change

/-- The validator after the change. -/
def apply (v : Validator) : Change → Validator
  | addRule rule => v.addRule rule
  | addCheck pattern check => v.addCheck pattern check
  | addKnown text chains => v.addKnown text chains
  | require category => v.requireCategory category
  | permit category => v.permitCategory category
  | list component => v.list component

/-- The category that the change requires. -/
def required? : Change → Option Category
  | require category => some category
  | _ => none

/-- The category that the change makes optional. -/
def optional? : Change → Option Category
  | permit category => some category
  | _ => none

/-- The component that the change lists. -/
def listed? : Change → Option Component
  | list component => some component
  | _ => none

end Change

/-- The standard validator after several changes. -/
def afterAll (changes : List Change) : Validator := changes.foldl Change.apply standard

/-- What changes leave of the closed list. -/
theorem foldl_apply (changes : List Change) (v : Validator) :
    (changes.foldl Change.apply v).required =
        v.required.union (.ofList (changes.filterMap Change.required?)) ∧
      (changes.foldl Change.apply v).optional =
        v.optional.union (.ofList (changes.filterMap Change.optional?)) ∧
      (changes.foldl Change.apply v).listed =
        (changes.filterMap Change.listed?).reverse ++ v.listed := by
  induction changes generalizing v with
  | nil => simp
  | cons change changes ih =>
    rw [List.foldl_cons, (ih _).1, (ih _).2.1, (ih _).2.2]
    cases change with
    | addRule rule => exact ⟨rfl, rfl, rfl⟩
    | addCheck pattern check => exact ⟨rfl, rfl, rfl⟩
    | addKnown text chains => exact ⟨rfl, rfl, rfl⟩
    | require category =>
      refine ⟨?_, rfl, rfl⟩
      have added : (Change.require category :: changes).filterMap Change.required? =
          category :: changes.filterMap Change.required? := rfl
      rw [added, ← List.singleton_append, CategorySet.ofList_append,
        ← CategorySet.union_assoc, ← CategorySet.insert_eq_union]
      rfl
    | permit category =>
      refine ⟨rfl, ?_, rfl⟩
      have added : (Change.permit category :: changes).filterMap Change.optional? =
          category :: changes.filterMap Change.optional? := rfl
      rw [added, ← List.singleton_append, CategorySet.ofList_append,
        ← CategorySet.union_assoc, ← CategorySet.insert_eq_union]
      rfl
    | list component => exact ⟨rfl, rfl, by simp [Change.apply, list, Change.listed?]⟩

end Validator

end AbilityText
