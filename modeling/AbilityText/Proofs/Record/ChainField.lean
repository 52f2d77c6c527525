/-
AbilityText.Proofs.Record.ChainField — what is read back from a field that chains were written to.

A written chain splits into the items of its components (`items_encodeChain`), and several written
chains into those that are not empty (`segments_encodeChains`). So reading a field back is reading
each component back (`decodeChains_encodeChains`), and that fails exactly where nothing but
separators stood in a text.
-/
import Mathlib.Data.List.Forall2
import AbilityText.Proofs.Chain
import AbilityText.Record.ChainField

namespace AbilityText.ChainField

/-! ## §1 One failure fails a list -/

section
variable {α β γ ε : Type}

theorem mapM_eq_ok_map {f : α → Except ε β} {g : α → β} {xs : List α}
    (h : ∀ x ∈ xs, f x = .ok (g x)) : xs.mapM f = .ok (xs.map g) := by
  induction xs with
  | nil => rfl
  | cons x xs ih =>
    rw [List.mapM_cons, h x (by simp), ih fun y hy => h y (List.mem_cons_of_mem x hy)]
    rfl

theorem forall₂_of_mapM_eq_ok {f : α → Except ε β} {xs : List α} {ys : List β}
    (h : xs.mapM f = .ok ys) : List.Forall₂ (fun x y => f x = .ok y) xs ys := by
  induction xs generalizing ys with
  | nil =>
    obtain rfl : [] = ys := Except.ok.inj h
    exact .nil
  | cons x xs ih =>
    rw [List.mapM_cons] at h
    cases first : f x with
    | error e =>
      rw [first] at h
      exact absurd h (by simp [bind, Except.bind])
    | ok y =>
      cases rest : xs.mapM f with
      | error e =>
        rw [first, rest] at h
        exact absurd h (by simp [bind, Except.bind])
      | ok zs =>
        rw [first, rest] at h
        obtain rfl : y :: zs = ys := Except.ok.inj h
        exact .cons first (ih rest)

/-- A list is read when each element is. -/
theorem mapM_eq_ok_iff {f : α → Except ε β} {xs : List α} {ys : List β} :
    xs.mapM f = .ok ys ↔ List.Forall₂ (fun x y => f x = .ok y) xs ys := by
  refine ⟨forall₂_of_mapM_eq_ok, fun pairs => ?_⟩
  induction pairs with
  | nil => rfl
  | cons first _ ih =>
    rw [List.mapM_cons, first, ih]
    rfl

/-- The first element that is not good has a fault. -/
def FirstFault (good : α → Prop) (fault : α → ε → Prop) (xs : List α) (e : ε) : Prop :=
  ∃ before x after, xs = before ++ x :: after ∧ (∀ y ∈ before, good y) ∧ fault x e

/-- The error of a list is that of the first element that has one. -/
theorem mapM_eq_error_iff {f : α → Except ε β} {xs : List α} {e : ε} :
    xs.mapM f = .error e ↔
      FirstFault (fun x => ∃ y, f x = .ok y) (fun x e => f x = .error e) xs e := by
  constructor
  · intro h
    induction xs with
    | nil => exact absurd h (by simp [pure, Except.pure])
    | cons x xs ih =>
      rw [List.mapM_cons] at h
      cases first : f x with
      | error cause =>
        rw [first] at h
        exact ⟨[], x, xs, rfl, by simp, first.trans (congrArg _ (Except.error.inj h))⟩
      | ok y =>
        cases rest : xs.mapM f with
        | error cause =>
          rw [first, rest] at h
          obtain ⟨before, bad, after, rfl, good, fault⟩ :=
            ih (rest.trans (congrArg _ (Except.error.inj h)))
          refine ⟨x :: before, bad, after, rfl, fun z hz => ?_, fault⟩
          rcases List.mem_cons.1 hz with rfl | hz
          · exact ⟨y, first⟩
          · exact good z hz
        | ok ys =>
          rw [first, rest] at h
          exact absurd h (by simp [bind, Except.bind, pure, Except.pure])
  · rintro ⟨before, x, after, rfl, good, fault⟩
    induction before with
    | nil =>
      rw [List.nil_append, List.mapM_cons, fault]
      rfl
    | cons z before ih =>
      obtain ⟨y, first⟩ := good z (by simp)
      have later := ih fun w member => good w (List.mem_cons_of_mem z member)
      rw [List.cons_append, List.mapM_cons, first, later]
      rfl

theorem exists_of_mem_of_mapM_eq_ok {f : α → Except ε β} {xs : List α} {ys : List β}
    (h : xs.mapM f = .ok ys) {y : β} (hy : y ∈ ys) : ∃ x ∈ xs, f x = .ok y := by
  have pairs := forall₂_of_mapM_eq_ok h
  clear h
  induction pairs with
  | nil => simp at hy
  | cons first _ ih =>
    rcases List.mem_cons.1 hy with rfl | hy
    · exact ⟨_, by simp, first⟩
    · obtain ⟨x, hx, same⟩ := ih hy
      exact ⟨x, List.mem_cons_of_mem _ hx, same⟩

/-- Two ways of reading that give the same for each element give the same for a list. -/
theorem mapM_ok_of_agree {δ : Type} {f : α → Except ε β} {g : α → Except δ β} {xs : List α}
    (h : ∀ x ∈ xs, ∃ y, f x = .ok y ∧ g x = .ok y) :
    ∃ ys, xs.mapM f = .ok ys ∧ xs.mapM g = .ok ys := by
  induction xs with
  | nil => exact ⟨[], rfl, rfl⟩
  | cons x xs ih =>
    obtain ⟨y, hf, hg⟩ := h x (by simp)
    obtain ⟨ys, hfs, hgs⟩ := ih fun z hz => h z (List.mem_cons_of_mem x hz)
    exact ⟨y :: ys, by rw [List.mapM_cons, hf, hfs]; rfl, by rw [List.mapM_cons, hg, hgs]; rfl⟩

/-- A list can be read when each element can. -/
theorem exists_mapM_eq_ok_iff {f : α → Except ε β} {xs : List α} :
    (∃ ys, xs.mapM f = .ok ys) ↔ ∀ x ∈ xs, ∃ y, f x = .ok y := by
  constructor
  · rintro ⟨ys, read⟩
    have pairs := forall₂_of_mapM_eq_ok read
    clear read
    induction pairs with
    | nil => simp
    | cons first _ ih => exact List.forall_mem_cons.2 ⟨⟨_, first⟩, ih⟩
  · intro each
    obtain ⟨ys, read, -⟩ := mapM_ok_of_agree fun x hx => (each x hx).imp fun _ h => ⟨h, h⟩
    exact ⟨ys, read⟩

/-- The first element that is bad decides the error. -/
theorem mapM_error_of_find? {f : α → Except ε β} {bad : α → Bool} {e : ε} {x : α} {xs : List α}
    (good : ∀ y, bad y = false → ∃ z, f y = .ok z) (first : xs.find? bad = some x)
    (h : f x = .error e) : xs.mapM f = .error e := by
  obtain ⟨-, before, after, rfl, fine⟩ := List.find?_eq_some_iff_append.1 first
  exact mapM_eq_error_iff.2
    ⟨before, x, after, rfl, fun y hy => good y (by simpa using fine y hy), h⟩

/-- An error in the items of all lists together is that of the lists one by one. -/
theorem mapM_error_of_flatMap {items : α → List β} {f : β → Except ε γ} {δ : Type}
    {g : List γ → δ} {e : ε} {xs : List α} (h : (xs.flatMap items).mapM f = .error e) :
    (xs.mapM fun x => ((items x).mapM f).map g) = .error e := by
  induction xs with
  | nil => exact absurd h (by simp [pure, Except.pure])
  | cons x xs ih =>
    rw [List.flatMap_cons, List.mapM_append] at h
    rw [List.mapM_cons]
    cases first : (items x).mapM f with
    | error e' =>
      rw [first] at h
      obtain rfl : e' = e := Except.error.inj h
      rfl
    | ok ys =>
      rw [first] at h
      cases rest : (xs.flatMap items).mapM f with
      | error e' =>
        rw [rest] at h
        rw [ih (rest.trans h)]
        rfl
      | ok zs =>
        rw [rest] at h
        exact absurd h (by simp [bind, Except.bind, pure, Except.pure])

end

/-! ## §2 Texts and items -/

/-- A written text holds single spaces, and characters of the text that are neither white space
nor separators. -/
theorem mem_withoutSeparators {x : Char} {t : Text} (h : x ∈ withoutSeparators t) :
    x = ' ' ∨ x ∈ t ∧ Text.isSpace x = false ∧ isSeparator x = false := by
  rcases Text.mem_of_mem_collapse h with rfl | ⟨member, noSpace⟩
  · exact .inl rfl
  · obtain ⟨y, inText, same⟩ := List.mem_map.1 member
    split at same
    · exact .inl same.symm
    · next keep =>
      obtain rfl := same
      exact .inr ⟨inText, noSpace, Bool.eq_false_iff.2 keep⟩

theorem not_mem_withoutSeparators {x : Char} (h : isSeparator x = true) (t : Text) :
    x ∉ withoutSeparators t := by
  intro member
  rcases mem_withoutSeparators member with rfl | ⟨-, -, keep⟩
  · exact absurd h (by decide)
  · exact Bool.eq_false_iff.1 keep h

/-- A text in normal form without separators stays as it is. -/
theorem withoutSeparators_of_plain {t : Text} (normal : Text.IsNormal t)
    (plain : ∀ x ∈ t, isSeparator x = false) : withoutSeparators t = t := by
  have same : t.map (fun x => if isSeparator x then ' ' else x) = t := by
    refine (List.map_congr_left fun x hx => ?_).trans (List.map_id t)
    simp [plain x hx]
  rw [withoutSeparators, same, Text.collapse_of_isNormal normal]

theorem isSpace_head?_withoutSeparators (t : Text) :
    ∀ x ∈ (withoutSeparators t).head?, Text.isSpace x = false :=
  Text.isSpace_head?_unwords fun _ => Text.isWord_of_mem_words

/-- A tag holds no white space and nothing that separates. -/
theorem mem_toTag (c : Category) :
    ∀ x ∈ c.toTag, Text.isSpace x = false ∧ isSeparator x = false ∧ x ≠ ':' := by
  have all : c.toTag.all (fun x => !Text.isSpace x && !isSeparator x && x != ':') = true := by
    cases c <;> decide
  intro x hx
  simpa [and_assoc] using List.all_eq_true.1 all x hx

theorem not_mem_encodeComponent {x : Char} (h : isSeparator x = true) (c : Component) :
    x ∉ encodeComponent c := by
  intro member
  rcases List.mem_append.1 member with member | member
  · exact not_mem_withoutSeparators h c.text member
  · rcases List.mem_cons.1 member with rfl | member
    · exact absurd h (by decide)
    · rw [(mem_toTag c.category x member).2.1] at h
      exact Bool.noConfusion h

theorem trim_encodeComponent (c : Component) :
    Text.trim (encodeComponent c) = encodeComponent c := by
  refine Text.trimOf_eq_self ?_ ?_
  · intro x hx
    rw [encodeComponent, List.head?_append] at hx
    cases start : (withoutSeparators c.text).head? with
    | none =>
      rw [start] at hx
      obtain rfl : ':' = x := by simpa using hx
      decide
    | some y =>
      rw [start] at hx
      obtain rfl : y = x := by simpa using hx
      exact isSpace_head?_withoutSeparators c.text y start
  · intro x hx
    have member : x ∈ ':' :: c.category.toTag := by
      rw [encodeComponent, List.getLast?_append, List.getLast?_cons, Option.some_or] at hx
      exact List.mem_of_getLast? (List.getLast?_cons.trans hx)
    rcases List.mem_cons.1 member with rfl | member
    · decide
    · exact (mem_toTag c.category x member).1

/-! ## §3 What a written field splits into -/

/-- A written chain splits into the items of its components. -/
theorem items_encodeChain (chain : Chain) :
    items (encodeChain chain) = chain.components.map encodeComponent := by
  cases hcs : chain.components with
  | nil =>
    rw [items, encodeChain, hcs]
    decide
  | cons c cs =>
    have plain : ∀ item ∈ (c :: cs).map encodeComponent, ',' ∉ item := by
      intro item member
      obtain ⟨d, -, rfl⟩ := List.mem_map.1 member
      exact not_mem_encodeComponent (by decide) d
    have split : (encodeChain chain).splitOnP (· = ',') = (c :: cs).map encodeComponent := by
      rw [encodeChain, hcs]
      exact List.splitOn_intercalate ',' plain (by simp)
    have trimmed : ((c :: cs).map encodeComponent).map Text.trim =
        (c :: cs).map encodeComponent := by
      rw [List.map_map]
      exact List.map_congr_left fun d _ => trim_encodeComponent d
    rw [items, split, trimmed, List.filter_eq_self]
    intro item member
    obtain ⟨d, -, rfl⟩ := List.mem_map.1 member
    simp [encodeComponent]

/-- Only the empty chain is written as a blank segment. -/
theorem isBlank_encodeChain (chain : Chain) : Text.isBlank (encodeChain chain) = chain.isEmpty := by
  rw [encodeChain, Chain.isEmpty]
  cases chain.components with
  | nil => rfl
  | cons c cs =>
    -- The colon of the first item is there and is no white space.
    have colon : ':' ∈ [','].intercalate ((c :: cs).map encodeComponent) := by
      cases cs with
      | nil => simp [encodeComponent]
      | cons d cs =>
        rw [List.map_cons, List.map_cons, List.intercalate_cons_cons]
        simp [encodeComponent]
    cases blank : Text.isBlank ([','].intercalate ((c :: cs).map encodeComponent)) with
    | false => rfl
    | true =>
      have := List.all_eq_true.1 blank ':' colon
      exact absurd this (by decide)

theorem bar_not_mem_encodeChain (chain : Chain) : '|' ∉ encodeChain chain := by
  intro member
  rcases Text.mem_intercalate member with comma | ⟨item, hitem, member⟩
  · exact absurd comma (by decide)
  · obtain ⟨c, -, rfl⟩ := List.mem_map.1 hitem
    exact not_mem_encodeComponent (by decide) c member

/-- Several written chains split into those that are not empty. -/
theorem segments_encodeChains (cs : List Chain) :
    segments (encodeChains cs) = (cs.filter fun chain => !chain.isEmpty).map encodeChain := by
  have keep : ((cs.map encodeChain).filter fun segment => !Text.isBlank segment) =
      (cs.filter fun chain => !chain.isEmpty).map encodeChain := by
    rw [List.filter_map]
    congr 1
    exact List.filter_congr fun chain _ => by rw [Function.comp, isBlank_encodeChain]
  cases cs with
  | nil => decide
  | cons chain cs =>
    have plain : ∀ segment ∈ (chain :: cs).map encodeChain, '|' ∉ segment := by
      intro segment member
      obtain ⟨other, -, rfl⟩ := List.mem_map.1 member
      exact bar_not_mem_encodeChain other
    have split : (encodeChains (chain :: cs)).splitOnP (· = '|') =
        (chain :: cs).map encodeChain :=
      List.splitOn_intercalate '|' plain (by simp)
    rw [segments, split, keep]

/-! ## §4 Reading back -/

/-- What becomes of a component that is written and read back. -/
def reread (c : Component) : Except RecordError Component :=
  match Component.new c.category (withoutSeparators c.text) with
  | .error cause => .error (.badComponent (encodeComponent c) cause)
  | .ok component => .ok component

theorem decodeComponent_encodeComponent (c : Component) :
    decodeComponent (encodeComponent c) = reread c := by
  have noColon : ':' ∉ c.category.toTag := fun member => (mem_toTag c.category ':' member).2.2 rfl
  rw [decodeComponent, encodeComponent, Text.cutLast?_append _ noColon]
  simp only [Component.parse, Category.ofTag?_toTag]
  rfl

theorem decodeChain_encodeChain (chain : Chain) :
    decodeChain (encodeChain chain) = (chain.components.mapM reread).map Chain.ofList := by
  rw [decodeChain, items_encodeChain, List.mapM_map]
  congr 2
  funext c
  exact decodeComponent_encodeComponent c

/-- **Reading a field back is reading each component back**, chain by chain, without the empty
chains. -/
theorem decodeChains_eq_mapM_reread (cs : List Chain) :
    decodeChains (encodeChains cs) = (cs.filter fun chain => !chain.isEmpty).mapM fun chain =>
      (chain.components.mapM reread).map Chain.ofList := by
  rw [decodeChains, segments_encodeChains, List.mapM_map]
  congr 1
  funext chain
  exact decodeChain_encodeChain chain

/-- The chain that a field keeps: its components added one by one, without separators in their
texts. -/
def rebuilt (chain : Chain) : Except ComponentError Chain :=
  chain.components.foldlM (fun kept c => kept.add c.category (withoutSeparators c.text)) .empty

theorem reread_of_blank {c : Component} (h : withoutSeparators c.text = []) :
    reread c = .error (.badComponent (':' :: c.category.toTag) (.emptyText c.category)) := by
  rw [reread, encodeComponent, h, Component.new_of_blank c.category rfl]
  rfl

theorem reread_of_text {c : Component} (h : withoutSeparators c.text ≠ []) :
    ∃ d, Component.new c.category (withoutSeparators c.text) = .ok d ∧ reread c = .ok d := by
  have solid : Text.isBlank (withoutSeparators c.text) = false :=
    eq_false_of_ne_true fun blank => h (Text.isBlank_collapse_iff.1 blank)
  obtain ⟨d, made, -⟩ := Component.new_of_not_blank c.category solid
  exact ⟨d, made, by rw [reread, made]⟩

/-- Adding the components without separators one by one inserts what is read back of them. -/
theorem foldlM_add_eq {cs : List Component} (h : ∀ c ∈ cs, withoutSeparators c.text ≠ []) :
    ∃ ds, cs.mapM reread = .ok ds ∧ ∀ kept : Chain,
      cs.foldlM (fun kept c => kept.add c.category (withoutSeparators c.text)) kept =
        .ok (ds.foldl (fun kept d => kept.insert d) kept) := by
  induction cs with
  | nil => exact ⟨[], rfl, fun _ => rfl⟩
  | cons c cs ih =>
    obtain ⟨d, made, read⟩ := reread_of_text (h c (by simp))
    obtain ⟨ds, reads, adds⟩ := ih fun x hx => h x (List.mem_cons_of_mem c hx)
    refine ⟨d :: ds, by rw [List.mapM_cons, read, reads]; rfl, fun kept => ?_⟩
    rw [List.foldlM_cons, Chain.add, made]
    exact adds (kept.insert d)

theorem rebuilt_eq_ok {chain : Chain} (h : ∀ c ∈ chain.components, withoutSeparators c.text ≠ []) :
    ∃ kept, rebuilt chain = .ok kept ∧
      (chain.components.mapM reread).map Chain.ofList = .ok kept := by
  obtain ⟨ds, reads, adds⟩ := foldlM_add_eq h
  exact ⟨Chain.ofList ds, adds .empty, by rw [reads]; rfl⟩

/-- A text that has nothing but separators in it makes the field malformed, and the error is that of
such a text. -/
theorem decodeChains_of_blank {cs : List Chain}
    (h : ∃ chain ∈ cs, ∃ c ∈ chain.components, withoutSeparators c.text = []) :
    ∃ chain ∈ cs, ∃ c ∈ chain.components, withoutSeparators c.text = [] ∧
      decodeChains (encodeChains cs) =
        .error (.badComponent (':' :: c.category.toTag) (.emptyText c.category)) := by
  let bad : Component → Bool := fun c => (withoutSeparators c.text).isEmpty
  let written := cs.filter fun chain => !chain.isEmpty
  have some : ((written.flatMap Chain.components).find? bad).isSome := by
    obtain ⟨chain, hchain, c, hc, blank⟩ := h
    have filled : chain.isEmpty = false := by
      rw [Chain.isEmpty, List.isEmpty_eq_false_iff]
      exact List.ne_nil_of_mem hc
    rw [List.find?_isSome]
    exact ⟨c, List.mem_flatMap.2 ⟨chain, List.mem_filter.2 ⟨hchain, by rw [filled]; rfl⟩, hc⟩,
      by simp [bad, blank]⟩
  obtain ⟨c, first⟩ := Option.isSome_iff_exists.1 some
  have blank : withoutSeparators c.text = [] := by simpa [bad] using List.find?_some first
  have good : ∀ d, bad d = false → ∃ e, reread d = .ok e := fun d hd =>
    (reread_of_text (by simpa [bad] using hd)).imp fun _ => And.right
  obtain ⟨chain, hchain, hc⟩ := List.mem_flatMap.1 (List.mem_of_find?_eq_some first)
  refine ⟨chain, (List.mem_filter.1 hchain).1, c, hc, blank, ?_⟩
  rw [decodeChains_eq_mapM_reread]
  exact mapM_error_of_flatMap (mapM_error_of_find? good first (reread_of_blank blank))

/-- Where every text has something left, the chains that were not empty are rebuilt. -/
theorem decodeChains_of_text {cs : List Chain}
    (h : ∀ chain ∈ cs, ∀ c ∈ chain.components, withoutSeparators c.text ≠ []) :
    ∃ kept, (cs.filter fun chain => !chain.isEmpty).mapM rebuilt = .ok kept ∧
      decodeChains (encodeChains cs) = .ok kept := by
  rw [decodeChains_eq_mapM_reread]
  exact mapM_ok_of_agree fun chain hchain => rebuilt_eq_ok (h chain (List.mem_filter.1 hchain).1)

/-- A chain without separators in its texts is read back as it was. -/
theorem mapM_reread_of_plain {chain : Chain} (h : chain.Consistent)
    (plain : ∀ c ∈ chain.components, ∀ x ∈ c.text, isSeparator x = false) :
    (chain.components.mapM reread).map Chain.ofList = .ok chain.withoutScalars := by
  have same : ∀ c ∈ chain.components, reread c = .ok (id c) := fun c hc => by
    rw [reread, withoutSeparators_of_plain c.isNormal_text (plain c hc), Component.new_text]
    rfl
  rw [mapM_eq_ok_map same, List.map_id, ← Chain.ofList_components h]
  rfl

/-- Chains without separators in their texts are read back as they were. -/
theorem decodeChains_of_plain {cs : List Chain} (built : ∀ chain ∈ cs, chain.Built)
    (h : ∀ chain ∈ cs, chain.isEmpty = false ∧
      ∀ c ∈ chain.components, ∀ x ∈ c.text, isSeparator x = false) :
    decodeChains (encodeChains cs) = .ok (cs.map Chain.withoutScalars) := by
  have all : (cs.filter fun chain => !chain.isEmpty) = cs :=
    List.filter_eq_self.2 fun chain hchain => by rw [(h chain hchain).1]; rfl
  rw [decodeChains_eq_mapM_reread, all]
  exact mapM_eq_ok_map fun chain hchain =>
    mapM_reread_of_plain (built chain hchain).consistent (h chain hchain).2

/-- **What comes back of chains that were written to a field.** A text of separators only makes the
field malformed. Otherwise the chains that are not empty come back, rebuilt from their texts without
separators; and where no chain is empty and no text has separators, all chains come back with their
components in order. The scalars, which take no part in comparing chains, are not written. -/
theorem decodeChains_encodeChains (cs : List Chain) (built : ∀ chain ∈ cs, chain.Built) :
    ((∃ chain ∈ cs, ∃ c ∈ chain.components, withoutSeparators c.text = []) →
      ∃ chain ∈ cs, ∃ c ∈ chain.components, withoutSeparators c.text = [] ∧
        decodeChains (encodeChains cs) =
          .error (.badComponent (':' :: c.category.toTag) (.emptyText c.category))) ∧
    ((∀ chain ∈ cs, ∀ c ∈ chain.components, withoutSeparators c.text ≠ []) →
      ∃ kept, (cs.filter fun chain => !chain.isEmpty).mapM rebuilt = .ok kept ∧
        decodeChains (encodeChains cs) = .ok kept) ∧
    ((∀ chain ∈ cs, chain.isEmpty = false ∧
        ∀ c ∈ chain.components, ∀ x ∈ c.text, isSeparator x = false) →
      decodeChains (encodeChains cs) = .ok (cs.map Chain.withoutScalars)) :=
  ⟨decodeChains_of_blank, decodeChains_of_text, decodeChains_of_plain built⟩

/-- A cost with a colon in it. -/
def colonCost : Component := ⟨.cost, "tap: add", ⟨"Tap:  add", by decide⟩, by decide⟩

/-- A condition with both separators in it. -/
def barredCondition : Component :=
  ⟨.condition, "a beast,|or a mech", ⟨"a beast,|or a mech", by decide⟩, by decide⟩

/-- A target of separators only. -/
def barTarget : Component := ⟨.target, ", |", ⟨", |", by decide⟩, by decide⟩

/-- Each of the three cases arises. -/
theorem decodeChains_encodeChains_cases :
    (∃ chain ∈ [Chain.ofList [colonCost, barTarget]], ∃ c ∈ chain.components,
      withoutSeparators c.text = [] ∧
        decodeChains (encodeChains [Chain.ofList [colonCost, barTarget]]) =
          .error (.badComponent (':' :: c.category.toTag) (.emptyText c.category))) ∧
    (∃ kept,
      ([.empty, Chain.ofList [colonCost, barredCondition]].filter
        fun chain => !chain.isEmpty).mapM rebuilt = .ok kept ∧
        decodeChains (encodeChains [.empty, Chain.ofList [colonCost, barredCondition]]) =
          .ok kept) ∧
    decodeChains (encodeChains [Chain.ofList [colonCost]]) =
      .ok [(Chain.ofList [colonCost]).withoutScalars] := by
  have built : ∀ cs : List Component, ∀ chain ∈ [Chain.ofList cs], chain.Built := by
    intro cs chain member
    rw [List.mem_singleton.1 member]
    exact Chain.built_ofList cs
  have builtWithEmpty : ∀ cs : List Component, ∀ chain ∈ [.empty, Chain.ofList cs],
      chain.Built := by
    intro cs chain member
    rcases List.mem_cons.1 member with rfl | member
    · exact .empty
    · exact built cs chain member
  have plain : ∀ chain ∈ [Chain.ofList [colonCost]], chain.isEmpty = false ∧
      ∀ c ∈ chain.components, ∀ x ∈ c.text, isSeparator x = false := by
    intro chain member
    rw [List.mem_singleton.1 member]
    refine ⟨by decide, fun c inChain => ?_⟩
    obtain rfl : c = colonCost := List.mem_singleton.1 inChain
    have all : colonCost.text.all (fun x => !isSeparator x) = true := by decide
    simpa using all
  exact ⟨(decodeChains_encodeChains _ (built _)).1 (by decide),
    (decodeChains_encodeChains _ (builtWithEmpty _)).2.1 (by decide),
    (decodeChains_encodeChains _ (built _)).2.2 plain⟩

end AbilityText.ChainField
