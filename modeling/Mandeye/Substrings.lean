import Mathlib.Algebra.Group.Nat.Defs
import Mathlib.Data.List.Infix

/-! Searching a text for a needle, and cutting the text where the needle stands. -/
namespace Substrings

variable {α : Type} {needle text rest : List α} {pieces others : List (List α)} {k : Nat}

/-- The text cut at the needle from the left. The needle stands behind each piece but the
last one, and nowhere earlier in what was left. In the last one it does not stand. -/
inductive Pieces (needle : List α) : List α → List (List α) → Prop
  | last {rest : List α} (hNone : ¬needle <:+: rest) : Pieces needle rest [rest]
  | next {before rest : List α} {pieces : List (List α)}
      (hFirst : ∀ i < before.length, ¬needle <+: (before ++ needle ++ rest).drop i)
      (hRest : Pieces needle rest pieces) :
      Pieces needle (before ++ needle ++ rest) (before :: pieces)

theorem Pieces.ne_nil (h : Pieces needle text pieces) : pieces ≠ [] := by
  cases h with
  | last hNone => exact List.cons_ne_nil _ _
  | next hFirst hRest => exact List.cons_ne_nil _ _

/-- Nothing but the needle is missing between the pieces. -/
theorem Pieces.intercalate (h : Pieces needle text pieces) : needle.intercalate pieces = text := by
  induction h with
  | last hNone => exact List.intercalate_singleton
  | next hFirst hRest ih => rw [List.intercalate_cons_of_ne_nil hRest.ne_nil, ih]

theorem stands_behind (before rest : List α) :
    needle <+: (before ++ needle ++ rest).drop before.length := by
  rw [List.append_assoc, List.drop_left]
  exact List.prefix_append needle rest

/-- The needle does not stand in two places both of which are the first one. -/
theorem length_le_of_first {before before' rest' : List α}
    (h : before ++ needle ++ rest = before' ++ needle ++ rest')
    (hFirst : ∀ i < before'.length, ¬needle <+: (before' ++ needle ++ rest').drop i) :
    before'.length ≤ before.length := by
  by_contra hLonger
  have hHere : needle <+: (before' ++ needle ++ rest').drop before.length := by
    rw [← h]
    exact stands_behind before rest
  exact hFirst before.length (Nat.lt_of_not_le hLonger) hHere

theorem Pieces.unique (h : Pieces needle text pieces) (h' : Pieces needle text others) :
    pieces = others := by
  induction h generalizing others with
  | @last rest hNone =>
      generalize hText : rest = text at h'
      cases h' with
      | last hNone' => rfl
      | next hFirst' hRest' =>
          rw [hText] at hNone
          exact absurd (List.infix_append _ _ _) hNone
  | @next before rest pieces hFirst hRest ih =>
      generalize hText : before ++ needle ++ rest = text at h'
      cases h' with
      | last hNone' =>
          rw [← hText] at hNone'
          exact absurd (List.infix_append _ _ _) hNone'
      | @next before' rest' pieces' hFirst' hRest' =>
          have hLength : before.length = before'.length :=
            Nat.le_antisymm (length_le_of_first hText.symm hFirst)
              (length_le_of_first hText hFirst')
          rw [List.append_assoc, List.append_assoc] at hText
          obtain ⟨rfl, hTail⟩ := List.append_inj hText hLength
          obtain rfl := List.append_cancel_left hTail
          rw [ih hRest']

theorem not_infix_singleton {c : α} : ¬[c] <:+: text ↔ c ∉ text := by
  rw [not_iff_not]
  constructor
  · rintro ⟨before, after, rfl⟩
    exact List.mem_append_left _ (List.mem_append_right _ List.mem_cons_self)
  · intro hMember
    obtain ⟨before, after, rfl⟩ := List.append_of_mem hMember
    exact ⟨before, after, by rw [List.append_assoc]; rfl⟩

/-- A text cut at a single letter: the pieces are those without the letter. -/
theorem pieces_singleton {c : α} : Pieces [c] text pieces ↔
    pieces ≠ [] ∧ (∀ piece ∈ pieces, c ∉ piece) ∧ [c].intercalate pieces = text := by
  constructor
  · intro h
    refine ⟨h.ne_nil, ?_, h.intercalate⟩
    induction h with
    | last hNone =>
      intro piece hPiece
      cases List.mem_singleton.mp hPiece
      exact not_infix_singleton.mp hNone
    | @next before rest pieces hFirst hRest ih =>
      intro piece hPiece
      rcases List.mem_cons.mp hPiece with rfl | hPiece
      · intro hMember
        obtain ⟨i, hBound, hLetter⟩ := List.getElem_of_mem hMember
        apply hFirst i hBound
        rw [List.append_assoc, List.drop_append_of_le_length hBound.le,
          List.drop_eq_getElem_cons hBound, hLetter]
        exact List.prefix_append [c] _
      · exact ih piece hPiece
  · rintro ⟨hNonempty, hFree, rfl⟩
    induction pieces with
    | nil => exact absurd rfl hNonempty
    | cons piece pieces ih =>
      have hPiece := hFree piece List.mem_cons_self
      by_cases hMore : pieces = []
      · subst hMore
        rw [List.intercalate_singleton]
        exact .last (not_infix_singleton.mpr hPiece)
      · rw [List.intercalate_cons_of_ne_nil hMore]
        refine .next ?_ (ih hMore fun other hOther => hFree other (List.mem_cons_of_mem _ hOther))
        intro i hBound hHere
        rw [List.append_assoc, List.drop_append_of_le_length hBound.le,
          List.drop_eq_getElem_cons hBound] at hHere
        have hLetter := (List.cons_prefix_cons.mp hHere).1
        exact hPiece (hLetter ▸ List.getElem_mem hBound)

theorem intercalate_concat_nil (h : pieces ≠ []) :
    needle.intercalate (pieces ++ [[]]) = needle.intercalate pieces ++ needle := by
  induction pieces with
  | nil => exact absurd rfl h
  | cons piece pieces ih =>
    by_cases hMore : pieces = []
    · subst hMore
      simp
    · rw [List.cons_append, List.intercalate_cons_of_ne_nil (by simp), ih hMore,
        List.intercalate_cons_of_ne_nil hMore, List.append_assoc, List.append_assoc,
        List.append_assoc]

theorem infix_iff_drop :
    needle <:+: text ↔ ∃ i < text.length + 1, needle <+: text.drop i := by
  constructor
  · rintro ⟨before, after, rfl⟩
    refine ⟨before.length, ?_, ?_⟩
    · simp only [List.length_append]
      omega
    · exact stands_behind before after
  · rintro ⟨i, -, hHere⟩
    exact hHere.isInfix.trans (List.drop_suffix i text).isInfix

section Find

variable [DecidableEq α]

/-- The first place from a position on at which the needle stands. -/
def find (text needle : List α) (position : Nat) : Option Nat :=
  (List.range' position (text.length + 1 - position)).find? fun i => needle <+: text.drop i

theorem find_bounds {position : Nat} (h : find text needle position = some k) :
    position ≤ k ∧ k ≤ text.length := by
  have hMember := List.mem_range'_1.mp (List.mem_of_find?_eq_some h)
  omega

/-- Behind what was scanned already it is searched as if nothing had been before. -/
theorem find_append (scanned rest needle : List α) :
    find (scanned ++ rest) needle scanned.length =
      (find rest needle 0).map (scanned.length + ·) := by
  have hRemaining : (scanned ++ rest).length + 1 - scanned.length = rest.length + 1 := by
    rw [List.length_append]
    omega
  rw [find, find, hRemaining, List.range'_eq_map_range, List.range'_eq_map_range,
    List.find?_map, List.find?_map, Option.map_map]
  congr 1
  · funext i
    simp
  · congr 1
    funext i
    simp [← List.drop_drop]

theorem find_zero_eq_some : find text needle 0 = some k ↔
    k ≤ text.length ∧ needle <+: text.drop k ∧ ∀ i < k, ¬needle <+: text.drop i := by
  rw [find, List.find?_range'_eq_some]
  simp only [decide_eq_true_eq, List.mem_range'_1, Nat.zero_le, true_and, forall_const,
    Bool.not_eq_true', decide_eq_false_iff_not]
  constructor
  · rintro ⟨hHere, hBound, hFirst⟩
    exact ⟨by omega, hHere, hFirst⟩
  · rintro ⟨hBound, hHere, hFirst⟩
    exact ⟨hHere, by omega, hFirst⟩

theorem find_zero_eq_none : find text needle 0 = none ↔ ¬needle <:+: text := by
  rw [find, List.find?_range'_eq_none, infix_iff_drop]
  simp

/-- The empty list stands everywhere. -/
theorem find_nil {position : Nat} (h : position ≤ text.length) :
    find text [] position = some position := by
  rw [find, List.find?_range'_eq_some]
  refine ⟨by simp, ?_, fun i hAt hBefore => absurd hBefore (Nat.not_lt.mpr hAt)⟩
  rw [List.mem_range'_1]
  omega

theorem find_first {before : List α}
    (hFirst : ∀ i < before.length, ¬needle <+: (before ++ needle ++ rest).drop i) :
    find (before ++ needle ++ rest) needle 0 = some before.length := by
  refine find_zero_eq_some.mpr ⟨?_, stands_behind before rest, hFirst⟩
  simp only [List.length_append]
  omega

/-- Every text can be cut, since each piece and the needle after it leave a shorter one. -/
theorem exists_pieces (hNeedle : needle ≠ []) (text : List α) :
    ∃ pieces, Pieces needle text pieces := by
  induction hLength : text.length using Nat.strong_induction_on generalizing text with
  | _ length ih =>
      cases hFind : find text needle 0 with
      | none => exact ⟨[text], .last (find_zero_eq_none.mp hFind)⟩
      | some k =>
          obtain ⟨hBound, ⟨rest, hRest⟩, hFirst⟩ := find_zero_eq_some.mp hFind
          have hText : text.take k ++ needle ++ rest = text := by
            rw [List.append_assoc, hRest, List.take_append_drop]
          have hPositive := List.length_pos_of_ne_nil hNeedle
          have hShorter : rest.length < length := by
            rw [← hLength, ← hText, List.length_append, List.length_append]
            omega
          obtain ⟨pieces, hPieces⟩ := ih rest.length hShorter rest rfl
          rw [← hText]
          refine ⟨text.take k :: pieces, .next (fun i hi => ?_) hPieces⟩
          rw [hText]
          rw [List.length_take] at hi
          exact hFirst i (by omega)

end Find

end Substrings
