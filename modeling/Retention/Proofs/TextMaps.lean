import Retention.TextMap

/-!
# What is found in a map from texts

A list of entries is looked through from its front, and `TextMap.ofList` keeps of each key the value
that comes last (`get?_ofList`).  A map is known by what is found in it (`ext_get?`), so it can be
made of its own entries again, in any order (`ofList_of_perm`).
-/

namespace Retention

variable {α : Type}

/-! ## Looking through entries -/

section Entries

variable {key : String} {value : α} {entries others : List (String × α)}

theorem lookup_cons_ite (entry : String × α) :
    (entry :: entries).lookup key = if key = entry.1 then some entry.2 else entries.lookup key := by
  rw [List.lookup_cons]
  by_cases own : key = entry.1
  · simp [own]
  · have other : (key == entry.1) = false := beq_eq_false_iff_ne.mpr own
    rw [other, if_neg own]

theorem mem_of_lookup (found : entries.lookup key = some value) : (key, value) ∈ entries := by
  obtain ⟨before, after, rfl, -⟩ := List.lookup_eq_some_iff.mp found
  exact List.mem_append_right before List.mem_cons_self

/-- Where keys are not repeated, every entry is found. -/
theorem lookup_eq_some_iff_mem (distinct : (entries.map Prod.fst).Nodup) :
    entries.lookup key = some value ↔ (key, value) ∈ entries := by
  refine ⟨mem_of_lookup, fun mem => ?_⟩
  induction entries with
  | nil => cases mem
  | cons first rest ih =>
    rw [List.map_cons, List.nodup_cons] at distinct
    rw [lookup_cons_ite]
    rcases List.mem_cons.mp mem with rfl | later
    · exact if_pos rfl
    · have other : key ≠ first.1 := by
        rintro rfl
        exact distinct.1 (List.mem_map.mpr ⟨_, later, rfl⟩)
      rw [if_neg other]
      exact ih distinct.2 later

/-- Where keys are not repeated, the order of entries makes no difference to what is found. -/
theorem lookup_of_perm (distinct : (entries.map Prod.fst).Nodup) (perm : entries.Perm others)
    (key : String) : entries.lookup key = others.lookup key := by
  have distinct' : (others.map Prod.fst).Nodup := (perm.map Prod.fst).nodup_iff.mp distinct
  apply Option.ext
  intro value
  rw [lookup_eq_some_iff_mem distinct, lookup_eq_some_iff_mem distinct', perm.mem_iff]

theorem lookup_insertEntry (name : String) :
    (insertEntry key value entries).lookup name =
      if name = key then some value else entries.lookup name := by
  induction entries with
  | nil => exact lookup_cons_ite _
  | cons first rest ih =>
    unfold insertEntry
    split
    next => exact lookup_cons_ite _
    next =>
      split
      next same =>
        subst same
        rw [lookup_cons_ite, lookup_cons_ite]
        by_cases own : name = first.1
        · rw [if_pos own, if_pos own]
        · rw [if_neg own, if_neg own, if_neg own]
      next other =>
        rw [lookup_cons_ite, lookup_cons_ite, ih]
        by_cases own : name = first.1
        · have ne : name ≠ key := fun same => other (same.symm.trans own)
          rw [if_pos own, if_neg ne, if_pos own]
        · rw [if_neg own, if_neg own]

end Entries

/-! ## Maps -/

namespace TextMap

theorem keys_nodup (m : TextMap α) : (m.entries.map Prod.fst).Nodup := by
  rw [List.nodup_iff_pairwise_ne, List.pairwise_map]
  refine m.ascending.imp ?_
  intro a b less same
  rw [same] at less
  exact String.lt_irrefl _ less

/-- Maps in which the same is found are equal. -/
theorem ext_get? {m n : TextMap α} (same : ∀ key, m.get? key = n.get? key) : m = n := by
  have distinct {m : TextMap α} : m.entries.Nodup :=
    List.Pairwise.of_map Prod.fst (fun _ _ ne same => ne (congrArg Prod.fst same)) m.keys_nodup
  have perm : m.entries.Perm n.entries := by
    rw [List.perm_ext_iff_of_nodup distinct distinct]
    rintro ⟨key, value⟩
    rw [← lookup_eq_some_iff_mem m.keys_nodup, ← lookup_eq_some_iff_mem n.keys_nodup]
    exact iff_of_eq (congrArg (· = some value) (same key))
  apply ext
  refine perm.eq_of_pairwise ?_ m.ascending n.ascending
  intro a b _ _ less more
  exact (String.lt_irrefl _ (String.lt_trans less more)).elim

theorem get?_insert (m : TextMap α) (key : String) (value : α) (name : String) :
    (m.insert key value).get? name = if name = key then some value else m.get? name :=
  lookup_insertEntry name

/-- Of the entries with one key the last counts. -/
theorem get?_ofList (entries : List (String × α)) (key : String) :
    (ofList entries).get? key = entries.reverse.lookup key := by
  -- The fold puts the last entry in last, so the induction is on the entries from their end.
  have fromEnd (latest : List (String × α)) :
      (ofList latest.reverse).get? key = latest.lookup key := by
    induction latest with
    | nil => rfl
    | cons last earlier ih =>
      have added : ofList (last :: earlier).reverse =
          (ofList earlier.reverse).insert last.1 last.2 := by
        simp [ofList]
      rw [added, get?_insert, ih, lookup_cons_ite]
  rw [← fromEnd, List.reverse_reverse]

/-- A map can be made of its entries again, in any order. -/
theorem ofList_of_perm {m : TextMap α} {entries : List (String × α)}
    (perm : m.entries.Perm entries) : ofList entries = m := by
  apply ext_get?
  intro key
  rw [get?_ofList, get?]
  exact (lookup_of_perm m.keys_nodup (perm.trans (List.reverse_perm entries).symm) key).symm

end TextMap

end Retention
