/-
AbilityText.Proofs.Record.DecodedChains — the chains that reading a field gives, and what becomes of
them when they are written and read again.

No text of a chain that was read holds a separator, and the chain has no scalars
(`decodeChain_eq_ok`). So all of it survives, unless there is nothing of it: an empty chain has no
written form. A field gives one where a segment is not blank but all its items are
(`isEmpty_iff_of_decodeChain`), and that is the one case in which reading, writing and reading again
differs from reading (`decodeChains_encodeChains_of_decodeChains`).
-/
import AbilityText.Proofs.Record.ChainField

namespace AbilityText.ChainField

/-! ## §1 What was read holds no separator -/

/-- No separator stands in the texts of the chain. -/
def IsPlain (chain : Chain) : Prop :=
  ∀ c ∈ chain.components, ∀ x ∈ c.text, isSeparator x = false

theorem isSeparator_iff {x : Char} : isSeparator x = true ↔ x = ',' ∨ x = '|' := by
  simp [isSeparator]

theorem isPlain_iff {chain : Chain} :
    IsPlain chain ↔ ∀ c ∈ chain.components, ',' ∉ c.text ∧ '|' ∉ c.text := by
  refine forall₂_congr fun c _ => ?_
  constructor
  · intro plain
    exact ⟨fun comma => absurd (plain ',' comma) (by decide),
      fun bar => absurd (plain '|' bar) (by decide)⟩
  · intro missing x hx
    refine Bool.eq_false_iff.2 fun separator => ?_
    rcases isSeparator_iff.1 separator with rfl | rfl
    · exact missing.1 hx
    · exact missing.2 hx

/-- No separator is the lower-case form of another character. -/
theorem notLowerForm_of_isSeparator {x : Char} (h : isSeparator x = true) :
    ∃ range ∈ Text.notLowerForms, range.1 ≤ x.toNat ∧ x.toNat ≤ range.2 := by
  rcases isSeparator_iff.1 h with rfl | rfl
  · exact ⟨(0, 0x60), by decide, by decide, by decide⟩
  · exact ⟨(0x7B, 0x7F), by decide, by decide, by decide⟩

/-- Normalising a text makes no separator. -/
theorem mem_of_mem_normalize {x : Char} (h : isSeparator x = true) {t : Text}
    (member : x ∈ Text.normalize t) : x ∈ t := by
  rcases Text.mem_intercalate member with rfl | ⟨word, hword, inWord⟩
  · exact absurd h (by decide)
  · obtain ⟨raw, hraw, rfl⟩ := List.mem_map.1 hword
    obtain ⟨range, listed, low, high⟩ := notLowerForm_of_isSeparator h
    exact Text.mem_of_mem_words hraw (Text.mem_of_mem_lower inWord range listed low high)

theorem text_of_decodeComponent {item : Text} {c : Component} (h : decodeComponent item = .ok c) :
    ∃ value, c.text = Text.normalize value ∧ ∀ x ∈ value, x ∈ item := by
  unfold decodeComponent at h
  split at h
  · simp at h
  · next value tag cut =>
    split at h
    · simp at h
    · next made parsed =>
      obtain rfl : made = c := Except.ok.inj h
      unfold Component.parse at parsed
      split at parsed
      · simp at parsed
      · refine ⟨value, (Component.new_eq_ok parsed).2, fun x hx => ?_⟩
        rw [Text.cutLast?_eq_some cut]
        exact List.mem_append_left _ hx

theorem of_mem_items {field item : Text} (h : item ∈ items field) :
    ∀ x ∈ item, x ≠ ',' ∧ x ∈ field := by
  obtain ⟨piece, hpiece, rfl⟩ := List.mem_map.1 (List.mem_filter.1 h).1
  intro x hx
  simpa using Text.mem_splitOnP hpiece x ((Text.trimOf_sublist _ piece).subset hx)

theorem bar_not_mem_segment {field segment : Text} (h : segment ∈ segments field) :
    '|' ∉ segment := by
  intro bar
  simpa using Text.mem_splitOnP (List.mem_filter.1 h).1 '|' bar

/-- A chain that was read is what its components make, and no separator stands in its texts. -/
theorem decodeChain_eq_ok {segment : Text} {chain : Chain} (h : decodeChain segment = .ok chain)
    (noBar : '|' ∉ segment) :
    ∃ ds, (items segment).mapM decodeComponent = .ok ds ∧ chain = Chain.ofList ds ∧
      IsPlain chain := by
  unfold decodeChain at h
  cases read : (items segment).mapM decodeComponent with
  | error e =>
    rw [read] at h
    exact absurd h (by simp [Except.map])
  | ok ds =>
    rw [read] at h
    obtain rfl : Chain.ofList ds = chain := Except.ok.inj h
    refine ⟨ds, rfl, rfl, fun c hc x hx => Bool.eq_false_iff.2 fun separator => ?_⟩
    rw [Chain.components_ofList, List.mem_eraseDups] at hc
    obtain ⟨item, hitem, made⟩ := exists_of_mem_of_mapM_eq_ok read hc
    obtain ⟨value, same, inItem⟩ := text_of_decodeComponent made
    have inText := of_mem_items hitem x (inItem x (mem_of_mem_normalize separator (same ▸ hx)))
    rcases isSeparator_iff.1 separator with rfl | rfl
    · exact inText.1 rfl
    · exact noBar inText.2

/-- The chain of a segment is empty when all its items are blank. -/
theorem isEmpty_iff_of_decodeChain {segment : Text} {chain : Chain}
    (h : decodeChain segment = .ok chain) (noBar : '|' ∉ segment) :
    chain.isEmpty = true ↔ items segment = [] := by
  obtain ⟨ds, read, rfl, -⟩ := decodeChain_eq_ok h noBar
  have pairs := forall₂_of_mapM_eq_ok read
  rw [Chain.isEmpty, Chain.components_ofList, List.isEmpty_iff]
  cases hitems : items segment with
  | nil =>
    rw [hitems, List.forall₂_nil_left_iff] at pairs
    simp [pairs]
  | cons item rest =>
    rw [hitems] at pairs
    obtain ⟨d, more, -, -, rfl⟩ := List.forall₂_cons_left_iff.1 pairs
    simp [List.eraseDups_cons]

/-! ## §2 Written and read again -/

/-- A chain that was read comes back as it is when its components are written and read. -/
theorem mapM_reread_of_decodeChain {segment : Text} {chain : Chain}
    (h : decodeChain segment = .ok chain) (noBar : '|' ∉ segment) :
    (chain.components.mapM reread).map Chain.ofList = .ok chain := by
  obtain ⟨ds, -, rfl, plain⟩ := decodeChain_eq_ok h noBar
  rw [mapM_reread_of_plain (Chain.built_ofList ds).consistent plain, Chain.withoutScalars_ofList]

theorem decodeChains_encodeChains_eq_filter {field : Text} {cs : List Chain}
    (h : decodeChains field = .ok cs) :
    decodeChains (encodeChains cs) = .ok (cs.filter fun chain => !chain.isEmpty) := by
  have same : ∀ chain ∈ cs.filter fun chain => !chain.isEmpty,
      (chain.components.mapM reread).map Chain.ofList = .ok (id chain) := by
    intro chain hchain
    obtain ⟨segment, hsegment, read⟩ :=
      exists_of_mem_of_mapM_eq_ok h (List.mem_filter.1 hchain).1
    exact mapM_reread_of_decodeChain read (bar_not_mem_segment hsegment)
  rw [decodeChains_eq_mapM_reread, mapM_eq_ok_map same, List.map_id]

/-- No chain of a field is empty when each of its segments has an item. -/
theorem filled_iff_of_decodeChains {field : Text} {cs : List Chain}
    (h : decodeChains field = .ok cs) :
    (∀ chain ∈ cs, chain.isEmpty = false) ↔ ∀ segment ∈ segments field, items segment ≠ [] := by
  have noBar : ∀ segment ∈ segments field, '|' ∉ segment := fun _ => bar_not_mem_segment
  have pairs := forall₂_of_mapM_eq_ok h
  clear h
  generalize segments field = fieldSegments at noBar pairs ⊢
  induction pairs with
  | nil => simp
  | @cons segment chain segments cs read _ ih =>
    have first : chain.isEmpty = false ↔ items segment ≠ [] := by
      rw [← Bool.not_eq_true, isEmpty_iff_of_decodeChain read (noBar segment (by simp))]
    have later := ih fun other hother => noBar other (List.mem_cons_of_mem segment hother)
    rw [List.forall_mem_cons, List.forall_mem_cons]
    exact and_congr first later

/-- **What was read from a field comes back when it is written and read again**, in the same order,
but for its empty chains. So all of it comes back exactly when no segment of the field consists of
blank items only. -/
theorem decodeChains_encodeChains_of_decodeChains {field : Text} {cs : List Chain}
    (h : decodeChains field = .ok cs) :
    decodeChains (encodeChains cs) = .ok (cs.filter fun chain => !chain.isEmpty) ∧
      (decodeChains (encodeChains cs) = .ok cs ↔
        ∀ segment ∈ segments field, items segment ≠ []) := by
  have again := decodeChains_encodeChains_eq_filter h
  refine ⟨again, ?_⟩
  rw [again, ← filled_iff_of_decodeChains h, Except.ok.injEq, List.filter_eq_self]
  simp

/-- A chain between a segment of blank items and a blank segment. -/
def spacedField : Text := " , | Tap:  add : cost,|  "

/-- What is read of it. -/
def spacedChains : List Chain := [.empty, .ofList [colonCost]]

/-- The second chain comes back, and the first does not. -/
theorem decodeChains_encodeChains_spacedChains :
    decodeChains spacedField = .ok spacedChains ∧
      decodeChains (encodeChains spacedChains) =
        .ok (spacedChains.filter fun chain => !chain.isEmpty) ∧
      (decodeChains (encodeChains spacedChains) = .ok spacedChains ↔
        ∀ segment ∈ segments spacedField, items segment ≠ []) := by
  have read : decodeChains spacedField = .ok spacedChains := by decide
  exact ⟨read, decodeChains_encodeChains_of_decodeChains read⟩

/-- A comma alone reads as one empty chain, and that chain is written as nothing: the chains that
come back need not be those that were read, not even as many. -/
theorem not_decodeChains_encodeChains_of_comma :
    ¬ ∀ (field : Text) (cs : List Chain), decodeChains field = .ok cs →
      ∃ back, decodeChains (encodeChains cs) = .ok back ∧ back.length = cs.length ∧
        ∀ pair ∈ back.zip cs, pair.1.same pair.2 = true := by
  intro stable
  have comma : decodeChains [','] = .ok [.empty] := by decide
  have blank : decodeChains (encodeChains [.empty]) = .ok [] := by decide
  obtain ⟨back, again, size, -⟩ := stable [','] [.empty] comma
  obtain rfl : [] = back := Except.ok.inj (blank.symm.trans again)
  simp at size

end AbilityText.ChainField
