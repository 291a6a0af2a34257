import Mathlib.Data.List.Basic
import Mathlib.Data.List.Induction

namespace TagQuery

section Repeats

variable {α : Type} [DecidableEq α]

theorem eraseDups_of_nodup {elements : List α} (distinct : elements.Nodup) : elements.eraseDups = elements := by
  induction elements with
  | nil => rfl
  | cons first rest ih =>
    obtain ⟨fresh, distinct⟩ := List.nodup_cons.mp distinct
    have kept : rest.filter (fun other => !other == first) = rest := by
      apply List.filter_eq_self.mpr
      intro other member
      have different : other ≠ first := fun same => fresh (same ▸ member)
      simpa using different
    rw [List.eraseDups_cons, kept, ih distinct]

theorem eraseDups_concat (elements : List α) (last : α) :
    (elements ++ [last]).eraseDups =
      if last ∈ elements then elements.eraseDups else elements.eraseDups ++ [last] := by
  rw [List.eraseDups_append]
  split
  · rename_i repeated
    simp [List.removeAll, repeated]
  · rename_i fresh
    simp [List.removeAll, fresh, List.eraseDups_cons]

theorem eraseDups_sublist (elements : List α) : elements.eraseDups.Sublist elements := by
  induction elements using List.reverseRecOn with
  | nil => exact .refl _
  | append_singleton before last ih =>
    rw [eraseDups_concat]
    split
    · exact ih.trans (List.sublist_append_left _ _)
    · exact ih.append (.refl _)

theorem pairwise_idxOf_eraseDups (elements : List α) :
    elements.eraseDups.Pairwise fun earlier later => elements.idxOf earlier < elements.idxOf later := by
  induction elements using List.reverseRecOn with
  | nil => exact .nil
  | append_singleton before last ih =>
    have placed (element : α) (member : element ∈ before.eraseDups) :
        (before ++ [last]).idxOf element = before.idxOf element :=
      List.idxOf_append_of_mem (List.mem_eraseDups.mp member)
    have kept : before.eraseDups.Pairwise fun earlier later =>
        (before ++ [last]).idxOf earlier < (before ++ [last]).idxOf later := by
      refine ih.imp_of_mem fun first second less => ?_
      rwa [placed _ first, placed _ second]
    rw [eraseDups_concat]
    split
    · exact kept
    · rename_i fresh
      refine List.pairwise_append.mpr ⟨kept, List.pairwise_singleton _ _, ?_⟩
      intro element member other same
      cases List.mem_singleton.mp same
      have below := List.idxOf_lt_length_of_mem (List.mem_eraseDups.mp member)
      rw [placed element member, List.idxOf_append_of_notMem fresh]
      omega

theorem nodup_eraseDups (elements : List α) : elements.eraseDups.Nodup := by
  refine (pairwise_idxOf_eraseDups elements).imp fun less same => ?_
  rw [same] at less
  exact Nat.lt_irrefl _ less

end Repeats

end TagQuery
