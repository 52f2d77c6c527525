/-
AbilityText.Proofs.Text.Normal — the normal form of texts is normal.

The words of a normal form are the words of the text in lower case (`words_normalize`), so normal
forms stay as they are (`normalize_normalize`) and only blank texts have the empty one
(`normalize_eq_nil_iff`).
-/
import AbilityText.Proofs.Text.Lower
import AbilityText.Text.Normal

namespace AbilityText.Text

/-- A text that is its own normal form. -/
def IsNormal (t : Text) : Prop := normalize t = t

/-- A word in lower case. -/
def IsLowerWord (w : Text) : Prop := IsWord w ∧ lower w = w

theorem isLowerWord_lower {w : Text} (h : IsWord w) : IsLowerWord (lower w) :=
  ⟨isWord_lower h, lower_lower w⟩

theorem isWord_of_mem_map_lower {t w : Text} (h : w ∈ (words t).map lower) : IsWord w := by
  obtain ⟨v, hv, rfl⟩ := List.mem_map.1 h
  exact isWord_lower (isWord_of_mem_words hv)

theorem words_normalize (t : Text) : words (normalize t) = (words t).map lower :=
  words_unwords fun _ => isWord_of_mem_map_lower

/-- Words in lower case make a text in normal form. -/
theorem isNormal_unwords {ws : List Text} (h : ∀ w ∈ ws, IsLowerWord w) :
    IsNormal (unwords ws) := by
  have same : ws.map lower = ws :=
    (List.map_congr_left fun w hw => (h w hw).2).trans (List.map_id ws)
  rw [IsNormal, normalize, words_unwords fun w hw => (h w hw).1, same]

theorem isNormal_normalize (t : Text) : IsNormal (normalize t) := by
  refine isNormal_unwords fun w hw => ?_
  obtain ⟨v, hv, rfl⟩ := List.mem_map.1 hw
  exact isLowerWord_lower (isWord_of_mem_words hv)

/-- **The normal form of a normal form is itself.** -/
theorem normalize_normalize (t : Text) : normalize (normalize t) = normalize t :=
  isNormal_normalize t

/-- Only a blank text has an empty normal form. -/
theorem normalize_eq_nil_iff {t : Text} : normalize t = [] ↔ isBlank t = true := by
  rw [normalize, unwords_eq_nil_iff fun w hw => isWord_of_mem_map_lower hw, List.map_eq_nil_iff,
      words_eq_nil_iff]

theorem collapse_of_isNormal {t : Text} (h : IsNormal t) : collapse t = t := by
  rw [collapse, ← h, words_normalize, normalize]

/-- Everything in a normal form is settled. -/
theorem settled_of_isNormal {t : Text} (h : IsNormal t) : ∀ c ∈ t, Settled c := by
  intro c member
  rw [← h] at member
  rcases mem_intercalate member with rfl | ⟨w, listed, inWord⟩
  · exact settled_of_isSpace isSpace_space
  · obtain ⟨v, -, rfl⟩ := List.mem_map.1 listed
    exact settled_of_mem_lower inWord

theorem isSpace_head?_of_isNormal {t : Text} (h : IsNormal t) :
    ∀ c ∈ t.head?, isSpace c = false := by
  rw [← h]
  exact isSpace_head?_unwords fun w hw => isWord_of_mem_map_lower hw

end AbilityText.Text
