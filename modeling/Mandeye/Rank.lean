import Mathlib.Data.Finset.Card
import Mathlib.Order.Basic
import Mathlib.Data.List.AList

/-! Positions of elements in a growing ordered set, and tables which are filled
in one pass. -/
namespace Rank

section Rank

variable {α : Type} [LinearOrder α] {s t : Finset α} {a b : α}

/-- The number of smaller elements. -/
def rank (s : Finset α) (a : α) : Nat := (s.filter (· < a)).card

theorem rank_lt_card (h : a ∈ s) : rank s a < s.card := by
  refine Finset.card_lt_card ⟨Finset.filter_subset _ _, fun hAll => ?_⟩
  exact lt_irrefl a (Finset.mem_filter.mp (hAll h)).2

theorem rank_lt_rank (ha : a ∈ s) (h : a < b) : rank s a < rank s b := by
  refine Finset.card_lt_card ⟨fun c hc => ?_, fun hAll => ?_⟩
  · obtain ⟨hMem, hLt⟩ := Finset.mem_filter.mp hc
    exact Finset.mem_filter.mpr ⟨hMem, hLt.trans h⟩
  · exact lt_irrefl a (Finset.mem_filter.mp (hAll (Finset.mem_filter.mpr ⟨ha, h⟩))).2

theorem rank_injOn (ha : a ∈ s) (hb : b ∈ s) (h : rank s a = rank s b) : a = b := by
  rcases lt_trichotomy a b with hLt | hEq | hGt
  · exact absurd h (rank_lt_rank ha hLt).ne
  · exact hEq
  · exact absurd h (rank_lt_rank hb hGt).ne'

/-- A position moves by the number of new smaller elements. -/
theorem rank_add_card (h : s ⊆ t) : rank s a + ((t \ s).filter (· < a)).card = rank t a := by
  rw [rank, rank, ← Finset.card_union_of_disjoint, ← Finset.filter_union,
    Finset.union_sdiff_of_subset h]
  exact Finset.disjoint_filter_filter Finset.disjoint_sdiff

end Rank

section Table

variable {Entry Key Value : Type} [DecidableEq Key]

/-- One pass over the entries; a later entry replaces an earlier one. -/
def table (key : Entry → Key) (value : Entry → Value) (entries : List Entry) :
    AList fun _ : Key => Value :=
  entries.foldl (fun ret entry => ret.insert (key entry) (value entry)) ∅

theorem table_append (key : Entry → Key) (value : Entry → Value) (entries : List Entry)
    (e : Entry) :
    table key value (entries ++ [e]) = (table key value entries).insert (key e) (value e) := by
  rw [table, List.foldl_append]
  rfl

/-- Where an entry stands in a list which has got one more at its end. -/
theorem append_singleton_eq_iff {entries earlier later : List Entry} {e e' : Entry} :
    entries ++ [e] = earlier ++ e' :: later ↔
      (later = [] ∧ entries = earlier ∧ e = e') ∨
        ∃ rest, later = rest ++ [e] ∧ entries = earlier ++ e' :: rest := by
  constructor
  · intro h
    rcases List.eq_nil_or_concat' later with rfl | ⟨rest, last, rfl⟩
    · exact .inl ⟨rfl, List.append_singleton_inj.mp h⟩
    · rw [← List.cons_append, ← List.append_assoc, List.append_singleton_inj] at h
      exact .inr ⟨rest, by rw [h.2], h.1⟩
  · rintro (⟨rfl, rfl, rfl⟩ | ⟨rest, rfl, rfl⟩) <;> simp

/-- Of the entries with one key the last one decides. -/
theorem lookup_table (key : Entry → Key) (value : Entry → Value) (entries : List Entry)
    (k : Key) (v : Value) :
    (table key value entries).lookup k = some v ↔
      ∃ earlier e later, entries = earlier ++ e :: later ∧ key e = k ∧ value e = v ∧
        ∀ e' ∈ later, key e' = k → value e' = v := by
  induction entries using List.reverseRecOn with
  | nil => simp [table]
  | append_singleton entries e ih =>
      rw [table_append]
      by_cases hKey : key e = k
      · subst hKey
        rw [AList.lookup_insert, Option.some.injEq]
        constructor
        · exact fun hValue => ⟨entries, e, [], rfl, rfl, hValue, by simp⟩
        · rintro ⟨earlier, e', later, hEntries, -, rfl, hLater⟩
          rcases append_singleton_eq_iff.mp hEntries with ⟨-, -, rfl⟩ | ⟨rest, rfl, -⟩
          · rfl
          · exact hLater e (by simp) rfl
      · rw [AList.lookup_insert_ne (Ne.symm hKey), ih]
        constructor
        · rintro ⟨earlier, e', later, rfl, hKey', hValue, hLater⟩
          refine ⟨earlier, e', later ++ [e], by simp, hKey', hValue, ?_⟩
          exact List.forall_mem_append.mpr
            ⟨hLater, List.forall_mem_singleton.mpr fun h => absurd h hKey⟩
        · rintro ⟨earlier, e', later, hEntries, hKey', hValue, hLater⟩
          rcases append_singleton_eq_iff.mp hEntries with ⟨-, -, rfl⟩ | ⟨rest, rfl, rfl⟩
          · exact absurd hKey' hKey
          · exact ⟨earlier, e', rest, rfl, hKey', hValue, (List.forall_mem_append.mp hLater).1⟩

end Table

end Rank
