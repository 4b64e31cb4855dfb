import Mathlib.Data.List.Basic

/-!
# Since an event

Many facts about a state are facts about the past: something happened, and nothing has undone it
since. `Since` states such a fact of a finite history, and `since_concat` is its step: one more
thing happens, and it is the event itself or leaves an earlier event in force.
-/

namespace PictureTransfer

variable {α : Type}

/-- An event happened, and all that has happened since was quiet. Both may depend on what had
happened before. -/
def Since (quiet event : List α → α → Prop) (history : List α) : Prop :=
  ∃ before x since, history = before ++ x :: since ∧ event before x ∧
    ∀ front y back, since = front ++ y :: back → quiet (before ++ x :: front) y

variable {quiet event : List α → α → Prop}

theorem not_since_nil : ¬Since quiet event [] := by
  rintro ⟨before, x, since, history, -⟩
  cases before <;> cases history

/-- With one more thing an event has just happened, or it happened before and the last thing was
quiet. -/
theorem since_concat {history : List α} {x : α} :
    Since quiet event (history ++ [x])
      ↔ event history x ∨ Since quiet event history ∧ quiet history x := by
  constructor
  · rintro ⟨before, y, since, same, happened, still⟩
    -- the last thing is the event itself, or stands behind it
    rcases List.eq_nil_or_concat since with rfl | ⟨earlier, z, rfl⟩
    · obtain ⟨rfl, last⟩ := List.append_inj' same rfl
      cases last
      exact .inl happened
    · rw [List.concat_eq_append] at same still
      rw [← List.cons_append, ← List.append_assoc] at same
      obtain ⟨rfl, last⟩ := List.append_inj' same rfl
      cases last
      refine .inr ⟨⟨before, y, earlier, rfl, happened, ?_⟩, still earlier x [] rfl⟩
      rintro front w back rfl
      exact still front w (back ++ [x]) (by simp)
  · rintro (happened | ⟨⟨before, y, since, rfl, happened, still⟩, last⟩)
    · refine ⟨history, x, [], rfl, happened, ?_⟩
      intro front w back none_behind
      cases front <;> cases none_behind
    · refine ⟨before, y, since ++ [x], by simp, happened, ?_⟩
      intro front w back same
      rcases List.eq_nil_or_concat back with rfl | ⟨earlier, z, rfl⟩
      · obtain ⟨rfl, ends⟩ := List.append_inj' same rfl
        cases ends
        exact last
      · rw [List.concat_eq_append, ← List.cons_append, ← List.append_assoc] at same
        obtain ⟨rfl, -⟩ := List.append_inj' same rfl
        exact still front w earlier rfl

end PictureTransfer
