import Mathlib.Data.List.Basic

/-! Records which are written one after the other. If each can be read off the front of
a text, then a text of some is read back, and so is each part which is cut between two. -/
namespace SelfDelimiting

/-- How a record is written, and how one is read off the front of a text. -/
structure Format (Record Symbol : Type) where
  encode : Record → List Symbol
  decode : List Symbol → Option (Record × List Symbol)

namespace Format

variable {Record Symbol : Type} (f : Format Record Symbol)

/-- The record is read back, whatever follows it. -/
structure Reads (record : Record) : Prop where
  nonempty : f.encode record ≠ []
  decode : ∀ rest, f.decode (f.encode record ++ rest) = some (record, rest)

/-- Read at most so many records. -/
def decodeUpTo : Nat → List Symbol → Option (List Record)
  | _, [] => some []
  | 0, _ :: _ => none
  | n + 1, symbol :: text =>
      match f.decode (symbol :: text) with
      | none => none
      | some (record, rest) => (decodeUpTo n rest).map (record :: ·)

/-- Read the whole text. No record is shorter than one symbol. -/
def decodeAll (text : List Symbol) : Option (List Record) := f.decodeUpTo text.length text

variable {f} {record : Record} {records : List Record}

theorem decodeUpTo_cons (h : f.Reads record) (n : Nat) (rest : List Symbol) :
    f.decodeUpTo (n + 1) (f.encode record ++ rest) =
      (f.decodeUpTo n rest).map (record :: ·) := by
  obtain ⟨symbol, text, hText⟩ := List.exists_cons_of_ne_nil h.nonempty
  have hDecode := h.decode rest
  rw [hText, List.cons_append] at hDecode ⊢
  rw [decodeUpTo, hDecode]

theorem decodeUpTo_flatMap (h : ∀ record ∈ records, f.Reads record) {n : Nat}
    (hn : (records.flatMap f.encode).length ≤ n) :
    f.decodeUpTo n (records.flatMap f.encode) = some records := by
  induction records generalizing n with
  | nil => cases n <;> rfl
  | cons record records ih =>
      have hRecord := h record List.mem_cons_self
      have hPos : 0 < (f.encode record).length := List.length_pos_iff.mpr hRecord.nonempty
      rw [List.flatMap_cons, List.length_append] at hn
      obtain ⟨m, rfl⟩ : ∃ m, n = m + 1 := ⟨n - 1, by omega⟩
      rw [List.flatMap_cons, decodeUpTo_cons hRecord,
        ih (fun other hOther => h other (List.mem_cons_of_mem _ hOther)) (by omega)]
      rfl

theorem decodeAll_flatMap (h : ∀ record ∈ records, f.Reads record) :
    f.decodeAll (records.flatMap f.encode) = some records :=
  decodeUpTo_flatMap h (Nat.le_refl _)

/-- Each part of a text which is cut between records only is read back by itself. -/
theorem decodeAll_parts {parts : List (List (List Symbol))}
    (h : ∀ record ∈ records, f.Reads record) (hParts : parts.flatten = records.map f.encode) :
    ∃ found : List (List Record), found.flatten = records ∧
      parts.map (fun part => f.decodeAll part.flatten) = found.map some := by
  induction parts generalizing records with
  | nil =>
      obtain rfl : records = [] := by simpa using hParts.symm
      exact ⟨[], rfl, rfl⟩
  | cons part parts ih =>
      rw [List.flatten_cons, eq_comm, List.map_eq_append_iff] at hParts
      obtain ⟨first, later, rfl, rfl, hLater⟩ := hParts
      obtain ⟨found, hFound, hDecoded⟩ := ih
        (fun record hRecord => h record (List.mem_append_right _ hRecord)) hLater.symm
      refine ⟨first :: found, by rw [List.flatten_cons, hFound], ?_⟩
      rw [List.map_cons, List.map_cons, hDecoded, ← List.flatMap_def, decodeAll_flatMap
        fun record hRecord => h record (List.mem_append_left _ hRecord)]

end Format

end SelfDelimiting
