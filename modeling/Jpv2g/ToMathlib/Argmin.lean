import Mathlib.Data.List.MinMax
import Mathlib.Data.List.Nodup

/-!
# The First Minimum of a List

What `List.argmin` returns on the members of a list that satisfy a condition, where in the list it
stands, that it stays the same when others are left out, and that it does not depend on their order
when no two of them are equally good.

## Main results

* `List.exists_split_of_argmin_filter`: the members before it are worse, those behind it not better.
* `List.argmin_filter_of_pos`: the minimum is that of every sublist by a condition it satisfies.
* `List.Perm.argmin_eq`: a list without ties has the same minimum in any order.
-/

namespace List

variable {α β : Type*} [LinearOrder β] {f : α → β} {p : α → Bool} {l l' : List α} {m : α}

/-- The first minimum among the members that satisfy `p` splits the list: the members before it
are strictly worse, and the members behind it are not better. -/
theorem exists_split_of_argmin_filter [DecidableEq α] (h : (l.filter p).argmin f = some m) :
    p m = true ∧ ∃ before after, l = before ++ m :: after ∧
      (∀ a ∈ before, p a = true → f m < f a) ∧ ∀ a ∈ after, p a = true → f m ≤ f a := by
  have hmem : m ∈ l.filter p := argmin_mem h
  obtain ⟨hl, hp⟩ := mem_filter.mp hmem
  obtain ⟨before, after, rfl, hfirst⟩ := eq_append_cons_of_mem hl
  have hle : ∀ a ∈ before ++ m :: after, p a = true → f m ≤ f a :=
    fun a ha hpa => le_of_mem_argmin (mem_filter.mpr ⟨ha, hpa⟩) h
  refine ⟨hp, before, after, rfl, ?_, ?_⟩
  · intro a ha hpa
    -- a member before it that is as good would have been returned instead
    by_contra hnot
    have hindex := index_of_argmin h (mem_filter.mpr ⟨mem_append_left _ ha, hpa⟩) (not_lt.mp hnot)
    have hfilter : (before ++ m :: after).filter p = before.filter p ++ m :: after.filter p := by
      rw [filter_append, filter_cons_of_pos hp]
    have hbefore : a ∈ before.filter p := mem_filter.mpr ⟨ha, hpa⟩
    have hnotin : m ∉ before.filter p := fun hm => hfirst (mem_filter.mp hm).1
    have hlt : idxOf a (before.filter p) < (before.filter p).length :=
      idxOf_lt_length_iff.mpr hbefore
    rw [hfilter, idxOf_append_of_notMem hnotin, idxOf_append_of_mem hbefore] at hindex
    omega
  · exact fun a ha hpa => hle a (mem_append_right _ (mem_cons_of_mem m ha)) hpa

/-- The first minimum stays so when other members are left out. -/
theorem argmin_filter_of_pos (h : l.argmin f = some m) (hp : p m = true) :
    (l.filter p).argmin f = some m := by
  classical
  -- from the end of the list, where the minimum of the rest is known
  induction l using List.reverseRecOn generalizing m with
  | nil => cases h
  | append_singleton l a ih =>
    rw [argmin_concat] at h
    rw [filter_append]
    cases hrest : l.argmin f with
    | none =>
      rw [argmin_eq_none] at hrest
      rw [hrest] at h ⊢
      cases h
      rw [filter_cons_of_pos hp]
      rfl
    | some best =>
      simp only [hrest] at h
      split_ifs at h with hbetter
      · cases h
        rw [filter_cons_of_pos hp, filter_nil, argmin_concat]
        cases hsub : (l.filter p).argmin f with
        | none => rfl
        | some best' =>
          have hle : f best ≤ f best' :=
            le_of_mem_argmin (mem_filter.mp (argmin_mem hsub)).1 hrest
          exact if_pos (hbetter.trans_le hle)
      · cases h
        have hsub := ih hrest hp
        by_cases ha : p a = true
        · rw [filter_cons_of_pos ha, filter_nil, argmin_concat, hsub]
          exact if_neg hbetter
        · rw [filter_cons_of_neg ha, filter_nil, append_nil]
          exact hsub

/-- A list without ties has the same minimum in any order. -/
theorem Perm.argmin_eq (hperm : l.Perm l') (hnodup : (l.map f).Nodup) :
    l.argmin f = l'.argmin f := by
  cases h : l.argmin f with
  | none =>
    rw [argmin_eq_none] at h
    rw [h, nil_perm] at hperm
    rw [hperm, argmin_nil]
  | some m =>
    cases h' : l'.argmin f with
    | none =>
      rw [argmin_eq_none] at h'
      rw [h', perm_nil] at hperm
      rw [hperm, argmin_nil] at h
      exact nomatch h
    | some m' =>
      have hm : m ∈ l := argmin_mem h
      have hm' : m' ∈ l := hperm.mem_iff.mpr (argmin_mem h')
      -- two minima of different members would have the same value
      have hle : f m ≤ f m' := le_of_mem_argmin hm' h
      have hge : f m' ≤ f m := le_of_mem_argmin (hperm.mem_iff.mp hm) h'
      rw [inj_on_of_nodup_map hnodup hm hm' (le_antisymm hle hge)]

end List
