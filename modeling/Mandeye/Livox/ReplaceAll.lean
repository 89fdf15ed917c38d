import Mandeye.Substrings

/-! Filling in the template of the lidar's configuration. The text is changed in place
while it is searched, and the search goes on behind what has been put in. -/
namespace Mandeye

open Substrings

def replace (str : List UInt8) (position length : Nat) (to' : List UInt8) : List UInt8 :=
  str.take position ++ to' ++ str.drop (position + length)

/-- The loop of `ReplaceAll`, if it ends before its condition has been tested more often
than it may be. -/
def replaceAllLoop (from' to' : List UInt8) : Nat → List UInt8 → Nat → Option (List UInt8)
  | 0, _, _ => none
  | tests + 1, str, startPos =>
      match find str from' startPos with
      | none => some str
      | some startPos =>
          replaceAllLoop from' to' tests (replace str startPos from'.length to')
            (startPos + to'.length)

def replaceAll (tests : Nat) (str from' to' : List UInt8) : Option (List UInt8) :=
  replaceAllLoop from' to' tests str 0

theorem replace_middle (before from' rest to' : List UInt8) :
    replace (before ++ from' ++ rest) before.length from'.length to' = before ++ to' ++ rest := by
  simp [replace, ← List.drop_drop]

/-- Behind what is done, the loop puts the pieces together again. It tests its condition
once for each of them. -/
theorem replaceAllLoop_eq {from' rest : List UInt8} {pieces : List (List UInt8)}
    (h : Pieces from' rest pieces) (to' done : List UInt8) (tests : Nat) :
    replaceAllLoop from' to' tests (done ++ rest) done.length =
      if pieces.length ≤ tests then some (done ++ to'.intercalate pieces) else none := by
  induction h generalizing done tests with
  | last hNone =>
      cases tests with
      | zero => rfl
      | succ tests =>
          rw [replaceAllLoop, find_append, find_zero_eq_none.mpr hNone]
          simp
  | @next before rest pieces hFirst hRest ih =>
      cases tests with
      | zero => rfl
      | succ tests =>
          have hReplace : replace (done ++ (before ++ from' ++ rest))
              (done.length + before.length) from'.length to' = done ++ before ++ to' ++ rest := by
            have hMiddle := replace_middle (done ++ before) from' rest to'
            rwa [List.length_append, List.append_assoc done, List.append_assoc done] at hMiddle
          have hPosition : done.length + before.length + to'.length =
              (done ++ before ++ to').length := by
            rw [List.length_append, List.length_append]
          rw [replaceAllLoop, find_append, find_first hFirst]
          show replaceAllLoop from' to' tests (replace _ (done.length + before.length) _ to')
            (done.length + before.length + to'.length) = _
          rw [hReplace, hPosition, ih, List.intercalate_cons_of_ne_nil hRest.ne_nil]
          simp

/-- The loop ends, and what it returns are the pieces between the occurrences of `from'`,
cut from the left, with `to'` between them. -/
theorem replaceAll_pieces (str from' to' : List UInt8) (hFrom : from' ≠ []) :
    (∃! pieces, Pieces from' str pieces) ∧
      ∀ pieces, Pieces from' str pieces → from'.intercalate pieces = str ∧
        ∀ tests, replaceAll tests str from' to' =
          if pieces.length ≤ tests then some (to'.intercalate pieces) else none := by
  constructor
  · obtain ⟨pieces, hPieces⟩ := exists_pieces hFrom str
    exact ⟨pieces, hPieces, fun other hOther => hOther.unique hPieces⟩
  · intro pieces hPieces
    refine ⟨hPieces.intercalate, fun tests => ?_⟩
    exact replaceAllLoop_eq hPieces to' [] tests

/-- When `ab` is taken out of `aabb`, the new `ab` remains. -/
theorem replaceAll_pieces_joined :
    replaceAll 2 [97, 97, 98, 98] [97, 98] [] = some [97, 98] := by
  have hPieces : Pieces [97, 98] ([97] ++ [97, 98] ++ [98] : List UInt8) [[97], [98]] :=
    .next (by decide) (.last (by decide))
  have hJoined := ((replaceAll_pieces [97, 97, 98, 98] [97, 98] [] (by decide)).2 _ hPieces).2 2
  exact hJoined

/-- Without anything to look for, `to'` is put in again and again. -/
theorem replaceAll_nil (str to' : List UInt8) (tests : Nat) :
    replaceAll tests str [] to' = none := by
  have hLoop : ∀ str position, position ≤ str.length →
      replaceAllLoop [] to' tests str position = none := by
    induction tests with
    | zero => exact fun str position hPosition => rfl
    | succ tests ih =>
        intro str position hPosition
        rw [replaceAllLoop, find_nil hPosition]
        refine ih _ _ ?_
        simp [replace]
        omega
  exact hLoop str 0 (Nat.zero_le _)

end Mandeye
