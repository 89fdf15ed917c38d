import Mathlib.Data.Multiset.Filter

/-! A table whose items name their own keys, with at most one item of each key. What is put
into it stays until it is taken, expires or is replaced by another item of the same key, so
that every item can be accounted for. -/

structure KeyedTable {κ ι : Type} (key : ι → κ) where
  items : List ι
  distinct : (items.map key).Nodup

namespace KeyedTable

variable {κ ι : Type} {key : ι → κ}

def empty : KeyedTable key := ⟨[], List.nodup_nil⟩

/-- The items, whatever their order. -/
def contents (t : KeyedTable key) : Multiset ι := t.items

/-- What does not satisfy the condition is removed. -/
def keep (t : KeyedTable key) (p : ι → Bool) : KeyedTable key :=
  ⟨t.items.filter p, t.distinct.sublist (List.filter_sublist.map key)⟩

variable [DecidableEq κ]

def find (t : KeyedTable key) (k : κ) : Option ι := t.items.find? fun item => key item = k

def erase (t : KeyedTable key) (k : κ) : KeyedTable key := t.keep fun item => key item ≠ k

/-- The item replaces the one of its key. -/
def put (t : KeyedTable key) (item : ι) : KeyedTable key where
  items := item :: (t.erase (key item)).items
  distinct := by
    rw [List.map_cons, List.nodup_cons]
    refine ⟨fun hMem => ?_, (t.erase (key item)).distinct⟩
    obtain ⟨other, hOther, hKey⟩ := List.mem_map.mp hMem
    exact of_decide_eq_true (List.mem_filter.mp hOther).2 hKey

variable {t : KeyedTable key} {k : κ} {item other : ι}

theorem find_some (h : t.find k = some item) : item ∈ t.items ∧ key item = k :=
  ⟨List.mem_of_find?_eq_some h, by simpa using List.find?_some h⟩

theorem find_of_mem (h : item ∈ t.items) : t.find (key item) = some item := by
  cases hFind : t.find (key item) with
  | none =>
    have hNot := List.find?_eq_none.mp hFind item h
    exact absurd (decide_eq_true rfl) hNot
  | some found =>
    obtain ⟨hFound, hKey⟩ := find_some hFind
    rw [List.inj_on_of_nodup_map t.distinct hFound h hKey]

omit [DecidableEq κ] in
theorem mem_keep {p : ι → Bool} : item ∈ (t.keep p).items ↔ item ∈ t.items ∧ p item :=
  List.mem_filter

theorem mem_put : other ∈ (t.put item).items → other = item ∨ other ∈ t.items := by
  intro h
  rcases List.mem_cons.mp h with h | h
  · exact Or.inl h
  · exact Or.inr (mem_keep.mp h).1

/-- Only the item of the key is gone. -/
theorem mem_erase (h : t.find k = some item) :
    other ∈ (t.erase k).items ↔ other ∈ t.items ∧ other ≠ item := by
  obtain ⟨hMem, rfl⟩ := find_some h
  rw [erase, mem_keep]
  refine and_congr_right fun hOther => ?_
  rw [decide_eq_true_eq]
  refine not_congr ⟨fun hKey => ?_, congrArg key⟩
  exact List.inj_on_of_nodup_map t.distinct hOther hMem hKey

omit [DecidableEq κ] in
/-- What is not kept is what the table loses. -/
theorem contents_keep (t : KeyedTable key) (p : ι → Bool) :
    t.contents = ↑(t.items.filter fun item => !p item) + (t.keep p).contents := by
  rw [contents, ← Multiset.filter_add_not (fun item => p item) (t.items : Multiset ι),
    Multiset.filter_coe, Multiset.filter_coe, Multiset.add_comm]
  simp [contents, keep]

/-- The items of one key are the one which is found there. -/
theorem filter_key (t : KeyedTable key) (k : κ) :
    t.items.filter (fun item => key item = k) = (t.find k).toList := by
  obtain ⟨items, hDistinct⟩ := t
  induction items with
  | nil => rfl
  | cons item items ih =>
    rw [List.map_cons, List.nodup_cons] at hDistinct
    have ih := ih hDistinct.2
    simp only [find, List.filter_cons, List.find?_cons, decide_eq_true_eq] at ih ⊢
    by_cases hKey : key item = k
    · have hNone : items.filter (fun item => key item = k) = [] := by
        rw [List.filter_eq_nil_iff]
        intro other hOther hEq
        refine hDistinct.1 ?_
        rw [hKey, ← of_decide_eq_true hEq]
        exact List.mem_map_of_mem hOther
      simp only [hKey, if_true, decide_true, hNone, Option.toList_some]
    · simp only [hKey, if_false, decide_false, ih]

/-- What was in the table is found and taken, or still there. -/
theorem contents_erase (t : KeyedTable key) (k : κ) :
    t.contents = ↑(t.find k).toList + (t.erase k).contents := by
  rw [← filter_key, erase, contents_keep t]
  congr 3
  simp

/-- An item which is put displaces the one with its key, if there is one, and no
other. -/
theorem contents_put (t : KeyedTable key) (item : ι) :
    item ::ₘ t.contents = ↑(t.find (key item)).toList + (t.put item).contents := by
  rw [contents_erase t (key item), ← Multiset.add_cons]
  rfl

end KeyedTable
