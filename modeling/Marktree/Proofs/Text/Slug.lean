import Marktree.Text.Slug
import Marktree.Proofs.Text.Digits
import Marktree.Proofs.Text.Letters
import Marktree.Proofs.Text.Escape

/-!
# The characters of anchors

An anchor is made of ASCII letters, digits and dashes, whatever the text of its heading is.
-/
namespace Marktree.Text

theorem plain_of_isAlphanum {c : Char} (h : c.isAlphanum) : Plain c := by
  refine ⟨?_, ?_, ?_, ?_⟩ <;> rintro rfl <;> revert h <;> decide

theorem mem_intercalate {c : Char} {sep : List Char} {ws : List (List Char)}
    (h : c ∈ sep.intercalate ws) : c ∈ sep ∨ ∃ w ∈ ws, c ∈ w := by
  induction ws with
  | nil => simp at h
  | cons w ws ih =>
    by_cases hws : ws = []
    · subst hws
      exact Or.inr ⟨w, by simp, by simpa using h⟩
    · rw [List.intercalate_cons_of_ne_nil hws, List.mem_append, List.mem_append] at h
      rcases h with (h | h) | h
      · exact Or.inr ⟨w, by simp, h⟩
      · exact Or.inl h
      · rcases ih h with h | ⟨v, hv, h⟩
        · exact Or.inl h
        · exact Or.inr ⟨v, List.mem_cons_of_mem _ hv, h⟩

theorem isAlphanum_of_mem_slugWord {w : List Char} {c : Char} (h : c ∈ slugWord w) : c.isAlphanum := by
  obtain ⟨x, hx, rfl⟩ := List.mem_map.1 h
  exact isAlphanum_toLower (List.mem_filter.1 hx).2

theorem mem_slug {s : String} {c : Char} (h : c ∈ (slug s).toList) : c = '-' ∨ c.isAlphanum := by
  rw [slug, String.toList_ofList] at h
  rcases mem_intercalate h with h | ⟨w, hw, h⟩
  · exact Or.inl (List.mem_singleton.1 h)
  · obtain ⟨v, -, rfl⟩ := List.mem_map.1 (List.mem_filter.1 hw).1
    exact Or.inr (isAlphanum_of_mem_slugWord h)

/-- **An anchor is made of letters, digits and dashes.** -/
theorem mem_anchor {t : Slugs} {s : String} {c : Char} (h : c ∈ (t.anchor s).1.toList) :
    c = '-' ∨ c.isAlphanum := by
  unfold Slugs.anchor at h
  dsimp only at h
  split at h
  · exact mem_slug h
  · rw [String.toList_append, String.toList_append, List.mem_append, List.mem_append] at h
    rcases h with (h | h) | h
    · exact mem_slug h
    · exact Or.inl (List.mem_singleton.1 h)
    · exact Or.inr (isAlphanum_of_mem_repr h)

theorem plain_anchor {t : Slugs} {s : String} {c : Char} (h : c ∈ (t.anchor s).1.toList) :
    Plain c := by
  rcases mem_anchor h with rfl | h
  · decide
  · exact plain_of_isAlphanum h

end Marktree.Text
