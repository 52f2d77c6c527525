/-
AbilityText.Proofs.Record.Grammar — which fields can be read, what they give, and what the error
names.

A field has segments between bars, and a segment has items between commas; what is blank is left out
(`pieces`). An item is a text, a colon and a spelling of a tag (`IsItem`). Its last colon decides,
so the text may hold others, and it has one reading only (`Denotes`). That makes three things that
can be wrong with an item (`Faults`), and they exclude each other.

Reading trims an item before it cuts it. The white space that goes with that is at the start of the
text and at the end of the tag, where it has no meaning (`decodeComponent_trim_of_cut`).
-/
import AbilityText.Proofs.Record.ChainField
import AbilityText.Proofs.Text.Spacing

namespace AbilityText

/-! ## §1 Tags -/

namespace Category

/-- Does a character stand for one of a tag? A letter may be in either ASCII case, and a space or a
hyphen may stand for an underscore. -/
def StandsFor (x y : Char) : Prop :=
  x = y ∨ (y.isUpper = true ∧ x.toNat = y.toNat + 32) ∨ (y = '_' ∧ (x = ' ' ∨ x = '-'))

/-- Does the text spell the tag of the category, with white space around it or not? -/
def Spells (t : Text) (category : Category) : Prop :=
  List.Forall₂ StandsFor (Text.trim t) category.toTag

/-- Tags are made of capitals and underscores. -/
theorem isUpper_of_mem_toTag (category : Category) :
    ∀ y ∈ category.toTag, y.isUpper = true ∨ y = '_' := by
  have all : category.toTag.all (fun y => y.isUpper || y == '_') = true := by
    cases category <;> decide
  intro y hy
  simpa using List.all_eq_true.1 all y hy

theorem isUpper_iff {y : Char} : y.isUpper = true ↔ 65 ≤ y.toNat ∧ y.toNat ≤ 90 := by
  have range : y.isUpper = true ↔ 'A'.val ≤ y.val ∧ y.val ≤ 'Z'.val := decide_eq_true_iff
  rw [range, UInt32.le_iff_toNat_le, UInt32.le_iff_toNat_le]
  rfl

theorem toNat_toUpper (x : Char) :
    x.toUpper.toNat = if 97 ≤ x.toNat ∧ x.toNat ≤ 122 then x.toNat - 32 else x.toNat := by
  have lower : ('a'.val ≤ x.val ∧ x.val ≤ 'z'.val) ↔ 97 ≤ x.toNat ∧ x.toNat ≤ 122 := by
    simp [UInt32.le_iff_toNat_le]
  unfold Char.toUpper
  split
  · next h =>
    have range := lower.1 h
    have shift : ('A'.val - 'a'.val).toNat = 2 ^ 32 - 32 := by decide
    rw [if_pos range]
    change (x.val + ('A'.val - 'a'.val)).toNat = _
    rw [UInt32.toNat_add, shift, Char.toNat_val]
    omega
  · next h => rw [if_neg (mt lower.2 h)]

/-- What a character becomes in the canonical spelling says what it stands for. -/
theorem canonical_eq_iff {x y : Char} (h : y.isUpper = true ∨ y = '_') :
    (if x = ' ' || x = '-' then '_' else x.toUpper) = y ↔ StandsFor x y := by
  have inj : ∀ a b : Char, a = b ↔ a.toNat = b.toNat := fun a b => Char.toNat_inj.symm
  have space : ' '.toNat = 32 := rfl
  have hyphen : '-'.toNat = 45 := rfl
  have underscore : '_'.toNat = 95 := rfl
  rw [isUpper_iff, inj y '_', underscore] at h
  simp only [StandsFor, isUpper_iff, inj, apply_ite Char.toNat, toNat_toUpper, Bool.or_eq_true,
    decide_eq_true_eq, space, hyphen, underscore]
  split
  · omega
  · split <;> omega

/-- **A tag is found by its spellings only.** -/
theorem ofTag?_eq_some_iff {t : Text} {category : Category} :
    ofTag? t = some category ↔ Spells t category := by
  have found : ofTag? t = some category ↔ canonicalTag t = category.toTag := by
    constructor
    · intro h
      simpa [eq_comm] using List.find?_some h
    · intro same
      have own : canonicalTag category.toTag = category.toTag := by
        simpa [eq_comm] using List.find?_some (ofTag?_toTag category)
      rw [← ofTag?_toTag category, ofTag?, ofTag?, same, own]
  rw [found, canonicalTag, Spells, ← List.forall₂_eq_eq_eq, List.forall₂_map_left_iff,
    List.forall₂_iff_zip, List.forall₂_iff_zip]
  refine and_congr_right fun _ => ?_
  constructor
  · intro same x y member
    exact (canonical_eq_iff (isUpper_of_mem_toTag category y (List.of_mem_zip member).2)).1
      (same member)
  · intro stands x y member
    exact (canonical_eq_iff (isUpper_of_mem_toTag category y (List.of_mem_zip member).2)).2
      (stands member)

end Category

namespace Component

/-- White space behind a tag and before a text does not count. -/
theorem parse_trimEnd_trimStart (tag text : Text) :
    parse (Text.trimEnd tag) (Text.trimStart text) = parse tag text := by
  have trimmed : Text.trim (Text.trimEnd tag) = Text.trim tag :=
    Text.trimOf_trimEndOf Text.isSpace tag
  have found : Category.ofTag? (Text.trimEnd tag) = Category.ofTag? tag := by
    rw [Category.ofTag?, Category.ofTag?, Category.canonicalTag, Category.canonicalTag, trimmed]
  have normal : Text.normalize (Text.trimStart text) = Text.normalize text := by
    rw [Text.normalize, Text.trimStart, Text.words_dropWhile_isSpace, Text.normalize]
  simp only [parse, trimmed, found, new_congr _ normal]

theorem parse_of_spells {tag : Text} {category : Category} (h : Category.Spells tag category)
    (text : Text) : parse tag text = new category text := by
  rw [parse, Category.ofTag?_eq_some_iff.2 h]

theorem parse_of_not_spells {tag : Text} (h : ∀ category, ¬ Category.Spells tag category)
    (text : Text) : parse tag text = .error (.unknownCategory (Text.trim tag)) := by
  have none : Category.ofTag? tag = none :=
    Option.eq_none_iff_forall_ne_some.2 fun category found =>
      h category (Category.ofTag?_eq_some_iff.1 found)
  rw [parse, none]

end Component

namespace ChainField

/-! ## §2 What can be read -/

/-- The pieces between marks that are not blank. -/
def pieces (mark : Char) (t : Text) : List Text :=
  (t.splitOn mark).filter fun piece => !Text.isBlank piece

/-- The text before the last colon of an item, and the tag behind it. -/
def CutsInto (item value tag : Text) : Prop := item = value ++ ':' :: tag ∧ ':' ∉ tag

/-- An item of a chain: a text with a word in it, a colon and a spelling of a tag. -/
def IsItem (item : Text) : Prop :=
  ∃ value tag category, CutsInto item value tag ∧ Category.Spells tag category ∧
    Text.isBlank value = false

/-- The component that an item stands for. -/
def Denotes (item : Text) (c : Component) : Prop :=
  ∃ value tag, CutsInto item value tag ∧ Category.Spells tag c.category ∧
    Text.isBlank value = false ∧ c.text = Text.normalize value

/-- What is wrong with an item. A tag that is none is reported before a text that is blank. -/
inductive Faults (item : Text) : RecordError → Prop
  | missingCategory : ':' ∉ item → Faults item (.missingCategory (Text.trim item))
  | unknownCategory {value tag : Text} : CutsInto item value tag →
      (∀ category, ¬ Category.Spells tag category) →
      Faults item (.badComponent (Text.trim item) (.unknownCategory (Text.trim tag)))
  | emptyText {value tag : Text} {category : Category} : CutsInto item value tag →
      Category.Spells tag category → Text.isBlank value = true →
      Faults item (.badComponent (Text.trim item) (.emptyText category))

theorem isItem_iff_exists_denotes {item : Text} : IsItem item ↔ ∃ c, Denotes item c := by
  constructor
  · rintro ⟨value, tag, category, cut, spelled, solid⟩
    obtain ⟨c, -, rfl, text⟩ := Component.new_of_not_blank category solid
    exact ⟨c, value, tag, cut, spelled, solid, text⟩
  · rintro ⟨c, value, tag, cut, spelled, solid, -⟩
    exact ⟨value, tag, c.category, cut, spelled, solid⟩

/-- The item, trimmed, stands in the message of its fault. -/
theorem Faults.isInfix_message {item : Text} {e : RecordError} (h : Faults item e) :
    Text.trim item <:+: e.message := by
  have quoted : ∀ (cause : ComponentError),
      Text.trim item <:+: (RecordError.badComponent (Text.trim item) cause).message := by
    intro cause
    refine ⟨"malformed record: ".toList ++ "'".toList, "': ".toList ++ cause.message, ?_⟩
    unfold RecordError.message
    simp only [List.append_assoc]
  cases h with
  | missingCategory =>
    refine ⟨"malformed record: ".toList ++ "missing category in '".toList, "'".toList, ?_⟩
    unfold RecordError.message
    simp only [List.append_assoc]
  | unknownCategory => exact quoted _
  | emptyText => exact quoted _

/-! ## §3 Reading one item -/

theorem cut_or_not_mem (item : Text) : ':' ∉ item ∨ ∃ value tag, CutsInto item value tag := by
  by_cases colon : ':' ∈ item
  · obtain ⟨back, front, split, last⟩ := List.eq_append_cons_of_mem (List.mem_reverse.2 colon)
    refine .inr ⟨front.reverse, back.reverse, ?_, by simpa using last⟩
    rw [← List.reverse_reverse item, split]
    simp
  · exact .inl colon

/-- An item stands for a component, or something is wrong with it. -/
theorem exists_denotes_or_faults (item : Text) :
    (∃ c, Denotes item c) ∨ ∃ e, Faults item e := by
  rcases cut_or_not_mem item with noColon | ⟨value, tag, cut⟩
  · exact .inr ⟨_, .missingCategory noColon⟩
  · by_cases spelled : ∃ category, Category.Spells tag category
    · obtain ⟨category, spelled⟩ := spelled
      cases blank : Text.isBlank value with
      | true => exact .inr ⟨_, .emptyText cut spelled blank⟩
      | false =>
        exact .inl (isItem_iff_exists_denotes.1 ⟨value, tag, category, cut, spelled, blank⟩)
    · exact .inr ⟨_, .unknownCategory cut (not_exists.1 spelled)⟩

/-- The white space that trimming takes off an item had no meaning. -/
theorem decodeComponent_trim_of_cut {item value tag : Text} (h : CutsInto item value tag) :
    decodeComponent (Text.trim item) =
      (Component.parse tag value).mapError (.badComponent (Text.trim item)) := by
  obtain ⟨rfl, noColon⟩ := h
  have trimmed : Text.trim (value ++ ':' :: tag) =
      Text.trimStart value ++ ':' :: Text.trimEnd tag := by
    rw [Text.trim, Text.trimOf, Text.dropWhile_append_cons (by decide),
      Text.trimEndOf_append_cons (by decide)]
    rfl
  have noColonLeft : ':' ∉ Text.trimEnd tag := fun member =>
    noColon ((Text.trimEndOf_sublist Text.isSpace tag).subset member)
  rw [decodeComponent, trimmed, Text.cutLast?_append _ noColonLeft]
  dsimp only
  rw [Component.parse_trimEnd_trimStart]
  cases Component.parse tag value <;> rfl

theorem decodeComponent_of_denotes {item : Text} {c : Component} (h : Denotes item c) :
    decodeComponent (Text.trim item) = .ok c := by
  obtain ⟨value, tag, cut, spelled, solid, text⟩ := h
  obtain ⟨made, new, category, same⟩ := Component.new_of_not_blank c.category solid
  rw [decodeComponent_trim_of_cut cut, Component.parse_of_spells spelled, new]
  exact congrArg Except.ok (Component.ext_of category (same.trans text.symm))

theorem decodeComponent_of_faults {item : Text} {e : RecordError} (h : Faults item e) :
    decodeComponent (Text.trim item) = .error e := by
  cases h with
  | missingCategory noColon =>
    unfold decodeComponent
    split
    · rfl
    · next value tag cut =>
      have colon : ':' ∈ Text.trim item := by
        rw [Text.cutLast?_eq_some cut]
        simp
      exact absurd ((Text.trimOf_sublist Text.isSpace item).subset colon) noColon
  | unknownCategory cut none =>
    rw [decodeComponent_trim_of_cut cut, Component.parse_of_not_spells none]
    rfl
  | emptyText cut spelled blank =>
    rw [decodeComponent_trim_of_cut cut, Component.parse_of_spells spelled,
      Component.new_of_blank _ blank]
    rfl

/-- **Reading an item gives the component that it stands for.** -/
theorem decodeComponent_eq_ok_iff {item : Text} {c : Component} :
    decodeComponent (Text.trim item) = .ok c ↔ Denotes item c := by
  refine ⟨fun read => ?_, decodeComponent_of_denotes⟩
  rcases exists_denotes_or_faults item with ⟨d, denotes⟩ | ⟨e, fault⟩
  · obtain rfl : d = c := Except.ok.inj ((decodeComponent_of_denotes denotes).symm.trans read)
    exact denotes
  · cases (decodeComponent_of_faults fault).symm.trans read

/-- **Reading an item fails with what is wrong with it.** -/
theorem decodeComponent_eq_error_iff {item : Text} {e : RecordError} :
    decodeComponent (Text.trim item) = .error e ↔ Faults item e := by
  refine ⟨fun failed => ?_, decodeComponent_of_faults⟩
  rcases exists_denotes_or_faults item with ⟨d, denotes⟩ | ⟨cause, fault⟩
  · cases (decodeComponent_of_denotes denotes).symm.trans failed
  · obtain rfl : cause = e :=
      Except.error.inj ((decodeComponent_of_faults fault).symm.trans failed)
    exact fault

/-! ## §4 Reading a chain -/

/-- The items of a segment are its pieces between commas. -/
theorem items_eq_map_trim (segment : Text) :
    items segment = (pieces ',' segment).map Text.trim := by
  rw [items, List.filter_map]
  refine congrArg (List.map Text.trim) (List.filter_congr fun piece _ => ?_)
  rw [Function.comp, Bool.not_inj_iff, Bool.eq_iff_iff, List.isEmpty_iff, Text.trim_eq_nil_iff,
    Text.words_eq_nil_iff]

/-- A segment is made of items. -/
def IsSegment (segment : Text) : Prop := ∀ item ∈ pieces ',' segment, IsItem item

/-- The chain that the items of a segment stand for, in order and without repeats. -/
def DenotesChain (segment : Text) (chain : Chain) : Prop :=
  ∃ cs, List.Forall₂ Denotes (pieces ',' segment) cs ∧ chain.components = cs.eraseDups ∧
    chain = .ofList cs

theorem mapM_items_eq_ok_iff {segment : Text} {cs : List Component} :
    (items segment).mapM decodeComponent = .ok cs ↔
      List.Forall₂ Denotes (pieces ',' segment) cs := by
  rw [items_eq_map_trim, List.mapM_map, mapM_eq_ok_iff]
  simp only [Function.comp, decodeComponent_eq_ok_iff]

theorem decodeChain_eq_ok_iff {segment : Text} {chain : Chain} :
    decodeChain segment = .ok chain ↔ DenotesChain segment chain := by
  rw [decodeChain]
  constructor
  · intro read
    cases parts : (items segment).mapM decodeComponent with
    | error e =>
      rw [parts] at read
      cases read
    | ok cs =>
      rw [parts] at read
      obtain rfl : Chain.ofList cs = chain := Except.ok.inj read
      exact ⟨cs, mapM_items_eq_ok_iff.1 parts, Chain.components_ofList cs, rfl⟩
  · rintro ⟨cs, parts, -, rfl⟩
    rw [mapM_items_eq_ok_iff.2 parts]
    rfl

theorem exists_decodeChain_iff {segment : Text} :
    (∃ chain, decodeChain segment = .ok chain) ↔ IsSegment segment := by
  have parts : (∃ chain, decodeChain segment = .ok chain) ↔
      ∃ cs, ((pieces ',' segment).mapM fun item => decodeComponent (Text.trim item)) = .ok cs := by
    simp only [decodeChain_eq_ok_iff, DenotesChain, mapM_eq_ok_iff, decodeComponent_eq_ok_iff]
    constructor
    · rintro ⟨chain, cs, denotes, -⟩
      exact ⟨cs, denotes⟩
    · rintro ⟨cs, denotes⟩
      exact ⟨.ofList cs, cs, denotes, Chain.components_ofList cs, rfl⟩
  rw [parts, exists_mapM_eq_ok_iff]
  simp only [IsSegment, isItem_iff_exists_denotes, decodeComponent_eq_ok_iff]

/-- A segment cannot be read when one of its items cannot, and the first of them decides. -/
theorem decodeChain_eq_error_iff {segment : Text} {e : RecordError} :
    decodeChain segment = .error e ↔ FirstFault IsItem Faults (pieces ',' segment) e := by
  have parts : decodeChain segment = .error e ↔
      (items segment).mapM decodeComponent = .error e := by
    rw [decodeChain]
    cases (items segment).mapM decodeComponent with
    | error cause => simp [Except.map]
    | ok cs => simp [Except.map]
  rw [parts, items_eq_map_trim, List.mapM_map, mapM_eq_error_iff]
  simp only [Function.comp, decodeComponent_eq_ok_iff, decodeComponent_eq_error_iff,
    isItem_iff_exists_denotes, FirstFault]

/-! ## §5 Reading a field -/

/-- **Which fields can be read, what they give, and what the error names.** A field can be read
exactly when each segment that is not blank is made of items, blank pieces aside. Then it gives one
chain for each of these segments, in order, with what its items stand for. A field cannot be read
when something is wrong with an item; the first such item of the first such segment decides the
error, and stands in its message. -/
theorem decodeChains_iff_grammar (field : Text) :
    ((∃ chains, decodeChains field = .ok chains) ↔
      ∀ segment ∈ pieces '|' field, ∀ item ∈ pieces ',' segment, IsItem item) ∧
    (∀ chains, decodeChains field = .ok chains ↔
      List.Forall₂ DenotesChain (pieces '|' field) chains) ∧
    (∀ e, decodeChains field = .error e ↔
      FirstFault IsSegment (fun segment => FirstFault
        IsItem (fun item e => Faults item e ∧ Text.trim item <:+: e.message) (pieces ',' segment))
        (pieces '|' field) e) := by
  have named : (fun item e => Faults item e ∧ Text.trim item <:+: e.message) = Faults := by
    funext item e
    exact propext ⟨And.left, fun fault => ⟨fault, fault.isInfix_message⟩⟩
  have split : segments field = pieces '|' field := rfl
  rw [named, decodeChains, split]
  refine ⟨?_, fun chains => ?_, fun e => ?_⟩
  · rw [exists_mapM_eq_ok_iff]
    exact forall₂_congr fun segment _ => exists_decodeChain_iff
  · rw [mapM_eq_ok_iff]
    simp only [decodeChain_eq_ok_iff]
  · rw [mapM_eq_error_iff]
    simp only [exists_decodeChain_iff, decodeChain_eq_error_iff]

/-- The second segment is blank and left out. Of the two bad items of the third, the first decides.
-/
example : decodeChains "Deal:Effect, a:b : pitch-Value|  |3:value, draw ,:COLOUR" =
    .error (.missingCategory "draw") := by decide

end ChainField

end AbilityText
