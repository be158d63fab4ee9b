import Raphael.DelayQueue

namespace Raphael

variable {α : Type*}

theorem insertDelayed_last {entry : Delayed α} {entries : List (Delayed α)}
    (h : ∀ other ∈ entries, other.due ≤ entry.due) :
    insertDelayed entry entries = entries ++ [entry] := by
  induction entries with
  | nil => rfl
  | cons first rest ih =>
      obtain ⟨hfirst, hrest⟩ := List.forall_mem_cons.mp h
      rw [insertDelayed, if_neg (Nat.not_lt.mpr hfirst), ih hrest]
      rfl

theorem insertDelayed_perm {entry : Delayed α} {entries : List (Delayed α)} :
    (insertDelayed entry entries).Perm (entry :: entries) := by
  induction entries with
  | nil => exact .refl _
  | cons first rest ih =>
      rw [insertDelayed]
      split
      · exact .refl _
      · exact (ih.cons first).trans (.swap entry first rest)

theorem filter_insertDelayed (keep : Delayed α → Bool) {entry : Delayed α}
    {entries : List (Delayed α)} (h : DueSorted entries) :
    (insertDelayed entry entries).filter keep =
      if keep entry then insertDelayed entry (entries.filter keep) else entries.filter keep := by
  induction entries with
  | nil => cases hkeep : keep entry <;> simp [insertDelayed, hkeep]
  | cons first rest ih =>
      obtain ⟨hfirst, hrest⟩ := List.pairwise_cons.mp h
      rw [insertDelayed]
      by_cases hlt : entry.due < first.due
      · -- everything behind the entry is due later
        have hall : insertDelayed entry ((first :: rest).filter keep) =
            entry :: (first :: rest).filter keep := by
          cases hf : (first :: rest).filter keep with
          | nil => rfl
          | cons other others =>
              have hm : other ∈ (first :: rest).filter keep := by
                rw [hf]
                exact List.mem_cons_self
              have hle : first.due ≤ other.due := by
                rcases List.mem_cons.mp (List.mem_of_mem_filter hm) with rfl | hm
                · exact Nat.le_refl _
                · exact hfirst other hm
              rw [insertDelayed, if_pos (Nat.lt_of_lt_of_le hlt hle)]
        rw [if_pos hlt, hall, List.filter_cons]
      · rw [if_neg hlt, List.filter_cons, ih hrest, List.filter_cons]
        cases hkeep : keep first with
        | false => rfl
        | true => cases hentry : keep entry <;> simp [insertDelayed, hlt]

namespace DelayQueue

variable {kind other : α → Bool} {queue : DelayQueue α} {due now : Nat} {item : α}

theorem mem_select {entry : Delayed α} :
    entry ∈ queue.select kind ↔ entry ∈ queue.entries ∧ kind entry.item = true := List.mem_filter

-- A narrower kind is selected from a wider one.
theorem filter_select (h : ∀ item, other item = true → kind item = true) :
    (queue.select kind).filter (fun entry => other entry.item) = queue.select other := by
  rw [select, List.filter_filter]
  refine List.filter_congr fun entry _ => ?_
  cases ho : other entry.item with
  | false => rfl
  | true => simp [h entry.item ho]

theorem select_post (hkind : kind item = true) :
    (queue.post due item).select kind = insertDelayed ⟨due, item⟩ (queue.select kind) := by
  rw [select, post, filter_insertDelayed _ queue.sorted]
  exact if_pos hkind

theorem mem_select_post_self (hkind : kind item = true) :
    ⟨due, item⟩ ∈ (queue.post due item).select kind :=
  mem_select.mpr ⟨mem_insertDelayed.mpr (.inl rfl), hkind⟩

theorem select_post_of_other (hkind : kind item = false) :
    (queue.post due item).select kind = queue.select kind := by
  rw [select, post, filter_insertDelayed _ queue.sorted]
  exact if_neg (by simp [hkind])

theorem select_post_last (hkind : kind item = true)
    (hdue : ∀ entry ∈ queue.select kind, entry.due ≤ due) :
    (queue.post due item).select kind = queue.select kind ++ [⟨due, item⟩] := by
  rw [select_post hkind, insertDelayed_last hdue]

theorem select_remove : (queue.remove other).select kind =
    (queue.select kind).filter fun entry => !other entry.item := by
  rw [select, select, remove, List.filter_filter, List.filter_filter]
  exact List.filter_congr fun entry _ => Bool.and_comm _ _

theorem select_remove_of_disjoint (h : ∀ item, kind item = true → other item = false) :
    (queue.remove other).select kind = queue.select kind := by
  rw [select, remove, List.filter_filter]
  refine List.filter_congr fun entry _ => ?_
  cases hk : kind entry.item with
  | false => rfl
  | true => simp [h entry.item hk]

theorem pop_eq_some {rest : DelayQueue α} (h : queue.pop now = some (item, rest)) :
    ∃ due, due ≤ now ∧ queue.entries = ⟨due, item⟩ :: rest.entries := by
  obtain ⟨entries, sorted⟩ := queue
  cases entries with
  | nil => cases h
  | cons first others =>
      obtain ⟨hdue, heq⟩ := Option.ite_none_right_eq_some.mp h
      cases heq
      exact ⟨first.due, hdue, rfl⟩

theorem select_pop (kind : α → Bool) {rest : DelayQueue α} (h : queue.pop now = some (item, rest))
    (hkind : kind item = true) :
    ∃ due, due ≤ now ∧ queue.select kind = ⟨due, item⟩ :: rest.select kind := by
  obtain ⟨due, hdue, hentries⟩ := pop_eq_some h
  refine ⟨due, hdue, ?_⟩
  rw [select, hentries, List.filter_cons, if_pos hkind]
  rfl

theorem select_pop_of_other {rest : DelayQueue α} (h : queue.pop now = some (item, rest))
    (hkind : kind item = false) : rest.select kind = queue.select kind := by
  obtain ⟨due, _, hentries⟩ := pop_eq_some h
  rw [select, select, hentries, List.filter_cons, if_neg (by simp [hkind])]

section Collect

variable {β : Type*} {carried : α → Option β}

theorem collect_eq_select :
    queue.collect carried =
      (queue.select fun item => (carried item).isSome).filterMap fun entry =>
        carried entry.item := by
  rw [collect, select, List.filterMap_filter]
  refine List.filterMap_congr fun entry _ => ?_
  cases h : carried entry.item with
  | none => rfl
  | some value => rfl

theorem collect_post_of_none (carried : α → Option β) (h : carried item = none) :
    (queue.post due item).collect carried = queue.collect carried := by
  rw [collect_eq_select, select_post_of_other (by rw [h]; rfl), ← collect_eq_select]

-- An item that is due last is collected last.
theorem collect_post_last (carried : α → Option β) {value : β} (h : carried item = some value)
    (hdue : ∀ entry ∈ queue.select (fun item => (carried item).isSome), entry.due ≤ due) :
    (queue.post due item).collect carried = queue.collect carried ++ [value] := by
  rw [collect_eq_select, select_post_last (by rw [h]; rfl) hdue, List.filterMap_append,
    ← collect_eq_select]
  simp [h]

theorem collect_post_perm (carried : α → Option β) {value : β} (h : carried item = some value) :
    ((queue.post due item).collect carried).Perm (value :: queue.collect carried) := by
  have hposted : (value :: queue.collect carried) =
      (⟨due, item⟩ :: queue.entries).filterMap fun entry => carried entry.item := by
    rw [List.filterMap_cons, h]
    rfl
  rw [hposted]
  exact insertDelayed_perm.filterMap _

theorem collect_pop {rest : DelayQueue α} (h : queue.pop now = some (item, rest)) :
    queue.collect carried = (carried item).toList ++ rest.collect carried := by
  obtain ⟨due, _, hentries⟩ := pop_eq_some h
  rw [collect, hentries, List.filterMap_cons]
  cases carried item <;> simp [collect]

theorem collect_remove_of_none (h : ∀ item, other item = true → carried item = none) :
    (queue.remove other).collect carried = queue.collect carried := by
  rw [collect, remove, List.filterMap_filter]
  refine List.filterMap_congr fun entry _ => ?_
  cases ho : other entry.item with
  | false => rfl
  | true => simp [h entry.item ho]

theorem mem_pop {rest : DelayQueue α} (h : queue.pop now = some (item, rest)) {entry : Delayed α}
    (hm : entry ∈ rest.select kind) : entry ∈ queue.select kind := by
  obtain ⟨due, _, hentries⟩ := pop_eq_some h
  rw [select, hentries, List.filter_cons]
  split
  · exact List.mem_cons_of_mem _ hm
  · exact hm

theorem mem_select_post {entry : Delayed α} (hm : entry ∈ (queue.post due item).select kind) :
    entry = ⟨due, item⟩ ∨ entry ∈ queue.select kind := by
  obtain ⟨hm, hkind⟩ := mem_select.mp hm
  obtain rfl | hm := mem_insertDelayed.mp hm
  · exact .inl rfl
  · exact .inr (mem_select.mpr ⟨hm, hkind⟩)

theorem mem_select_remove {entry : Delayed α} (hm : entry ∈ (queue.remove other).select kind) :
    entry ∈ queue.select kind := by
  obtain ⟨hm, hkind⟩ := mem_select.mp hm
  exact mem_select.mpr ⟨List.mem_of_mem_filter hm, hkind⟩

end Collect

end DelayQueue

end Raphael
