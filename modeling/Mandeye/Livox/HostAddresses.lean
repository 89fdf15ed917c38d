import Mandeye.Decimal
import Mandeye.Substrings
import Mathlib.Data.List.Forall2

/-! The addresses of the host, as the configuration has them. A text is cut at its points,
and each part is read as a number. -/
namespace Mandeye.BuildRequest

open Substrings

/-- Why there is no result: the function returns false, or an exception leaves it. -/
inductive Failure where
  | returnsFalse
  | throws (what : String)
  deriving DecidableEq

def stoi (text : List Char) : Except Failure Int :=
  let (negative, digits) := Decimal.scan text
  let n : Int := Nat.ofDigitChars 10 digits 0
  let value := if negative then -n else n
  if digits = [] ∨ value < -2147483648 ∨ 2147483647 < value then .error (.throws "stoi")
  else .ok value

/-- One number of an address. The bound is one more than a byte can hold. -/
def readPart (text : List Char) : Except Failure UInt8 := do
  let val ← stoi text
  if val < 0 ∨ 256 < val then .error .returnsFalse else .ok (UInt8.ofNat val.toNat)

/-- The loop of `IpToU8`: where the text behind the last point starts, and the numbers before
it. -/
def ipToU8Loop (src : List Char) (pos1 : Nat) (result : List UInt8) :
    Except Failure (Nat × List UInt8) :=
  match _hFind : find src ['.'] pos1 with
  | none => .ok (pos1, result)
  | some pos2 => do
      let val ← readPart ((src.drop pos1).take (pos2 - pos1))
      ipToU8Loop src (pos2 + 1) (result ++ [val])
termination_by src.length + 1 - pos1
decreasing_by
  have hBounds := find_bounds ‹find src ['.'] pos1 = some pos2›
  omega

/-- Nothing is read behind a point at the end. -/
def readLast (src : List Char) (pos1 : Nat) (result : List UInt8) : Except Failure (List UInt8) :=
  if pos1 ≠ src.length then do
    let val ← readPart (src.drop pos1)
    .ok (result ++ [val])
  else .ok result

def ipToU8 (src : String) : Except Failure (List UInt8) := do
  let (pos1, result) ← ipToU8Loop src.toList 0 []
  let result ← readLast src.toList pos1 result
  if result.length ≠ 4 then .error .returnsFalse else .ok result

/-- The pieces of a text which are read. -/
def parts (pieces : List (List Char)) : List (List Char) :=
  if pieces.getLast? = some [] then pieces.dropLast else pieces

variable {src before rest : List Char} {pieces : List (List Char)} {result : List UInt8}

theorem ipToU8Loop_none {pos1 : Nat} (hNone : find src ['.'] pos1 = none) :
    ipToU8Loop src pos1 result = .ok (pos1, result) := by
  rw [ipToU8Loop]
  split
  · rfl
  · rename_i hSome
    rw [hNone] at hSome
    cases hSome

theorem ipToU8Loop_some {pos1 pos2 : Nat} (hSome : find src ['.'] pos1 = some pos2) :
    ipToU8Loop src pos1 result = (do
      let val ← readPart ((src.drop pos1).take (pos2 - pos1))
      ipToU8Loop src (pos2 + 1) (result ++ [val])) := by
  rw [ipToU8Loop]
  split
  · rename_i hNone
    rw [hSome] at hNone
    cases hNone
  · rename_i pos hPos
    rw [hSome] at hPos
    cases hPos
    rfl

theorem parts_cons (piece : List Char) (h : pieces ≠ []) :
    parts (piece :: pieces) = piece :: parts pieces := by
  obtain ⟨next, more, rfl⟩ := List.exists_cons_of_ne_nil h
  unfold parts
  rw [List.getLast?_cons_cons, List.dropLast_cons_cons]
  split <;> rfl

/-- Behind what is done, the loop reads the pieces in turn. -/
theorem ipToU8Loop_eq (h : Pieces ['.'] rest pieces) (done : List Char) (result : List UInt8) :
    (ipToU8Loop (done ++ rest) done.length result >>= fun end' =>
      readLast (done ++ rest) end'.1 end'.2) =
      (parts pieces).mapM readPart >>= fun bytes => .ok (result ++ bytes) := by
  induction h generalizing done result with
  | @last rest hNone =>
    have hFind : find (done ++ rest) ['.'] done.length = none := by
      rw [find_append, find_zero_eq_none.mpr hNone]
      rfl
    rw [ipToU8Loop_none hFind]
    change readLast (done ++ rest) done.length result = _
    rw [readLast, List.drop_left, parts, List.getLast?_singleton]
    cases rest with
    | nil =>
      rw [List.append_nil, if_neg (not_not_intro rfl), if_pos rfl]
      exact congrArg Except.ok (List.append_nil result).symm
    | cons c rest =>
      have hLength : done.length ≠ (done ++ c :: rest).length := by
        rw [List.length_append, List.length_cons]
        omega
      rw [if_pos hLength, if_neg (by simp), List.mapM_cons]
      cases readPart (c :: rest) <;> rfl
  | @next before rest pieces hFirst hRest ih =>
    have hFind : find (done ++ (before ++ ['.'] ++ rest)) ['.'] done.length =
        some (done.length + before.length) := by
      rw [find_append, find_first hFirst]
      rfl
    have hPart : ((done ++ (before ++ ['.'] ++ rest)).drop done.length).take
        (done.length + before.length - done.length) = before := by
      simp
    have hDone : done ++ (before ++ ['.'] ++ rest) = done ++ before ++ ['.'] ++ rest := by
      simp
    have hPosition : done.length + before.length + 1 = (done ++ before ++ ['.']).length := by
      simp [Nat.add_assoc]
    rw [ipToU8Loop_some hFind, hPart, hPosition, hDone, parts_cons before hRest.ne_nil,
      List.mapM_cons, bind_assoc, bind_assoc]
    congr 1
    funext val
    rw [ih]
    cases (parts pieces).mapM readPart with
    | error failure => rfl
    | ok bytes => exact congrArg Except.ok (List.append_assoc result [val] bytes)

/-- What becomes of a text depends on its pieces alone. -/
theorem ipToU8_pieces {src : String} (h : Pieces ['.'] src.toList pieces) :
    ipToU8 src = (parts pieces).mapM readPart >>= fun bytes =>
      if bytes.length ≠ 4 then .error .returnsFalse else .ok bytes := by
  have hLoop := ipToU8Loop_eq h [] []
  rw [List.nil_append, List.length_nil] at hLoop
  rw [ipToU8, ← bind_assoc, hLoop, bind_assoc]
  rfl

theorem bind_ok {α β : Type} {code : Except Failure α} {next : α → Except Failure β}
    {result : β} :
    code >>= next = .ok result ↔ ∃ value, code = .ok value ∧ next value = .ok result := by
  cases code with
  | error failure =>
    constructor
    · intro h
      cases h
    · rintro ⟨value, hValue, -⟩
      cases hValue
  | ok value =>
    constructor
    · intro h
      exact ⟨value, rfl, h⟩
    · rintro ⟨other, hOther, hNext⟩
      cases hOther
      exact hNext

theorem mapM_ok {α β : Type} {f : α → Except Failure β} {inputs : List α} {results : List β} :
    inputs.mapM f = .ok results ↔
      List.Forall₂ (fun input result => f input = .ok result) inputs results := by
  induction inputs generalizing results with
  | nil =>
    rw [List.mapM_nil, List.forall₂_nil_left_iff]
    constructor
    · rintro ⟨⟩
      rfl
    · rintro rfl
      rfl
  | cons input rest ih =>
    rw [List.mapM_cons, List.forall₂_cons_left_iff, bind_ok]
    constructor
    · rintro ⟨first, hFirst, hRest⟩
      obtain ⟨others, hOthers, hResults⟩ := bind_ok.mp hRest
      cases hResults
      exact ⟨first, others, hFirst, ih.mp hOthers, rfl⟩
    · rintro ⟨first, others, hFirst, hOthers, rfl⟩
      exact ⟨first, hFirst, bind_ok.mpr ⟨others, ih.mpr hOthers, rfl⟩⟩

/-- The numbers from 0 to 256 are read, and 256 becomes 0. -/
def Names (number : List Char) (byte : UInt8) : Prop :=
  ∃ val : Nat, val ≤ 256 ∧ stoi number = .ok val ∧ byte = UInt8.ofNat val

theorem readPart_ok {text : List Char} {byte : UInt8} :
    readPart text = .ok byte ↔ Names text byte := by
  rw [readPart, Names, bind_ok]
  constructor
  · rintro ⟨val, hVal, hByte⟩
    split at hByte
    · cases hByte
    · rename_i hRange
      cases hByte
      refine ⟨val.toNat, by omega, ?_, rfl⟩
      rw [hVal, Int.toNat_of_nonneg (by omega)]
  · rintro ⟨n, hBound, hVal, rfl⟩
    refine ⟨n, hVal, ?_⟩
    rw [if_neg (by omega), Int.toNat_natCast]

/-- An empty text is no number. -/
theorem not_names_nil (byte : UInt8) : ¬Names [] byte := by
  rw [← readPart_ok]
  rintro ⟨⟩

/-- Exactly these texts are accepted: four numbers from 0 to 256 with points between them, and
perhaps one more point at the end. -/
structure Address (src : List Char) (bytes : List UInt8) (numbers : List (List Char)) : Prop where
  four : numbers.length = 4
  pointless : ∀ number ∈ numbers, '.' ∉ number
  read : List.Forall₂ Names numbers bytes
  text : src = ['.'].intercalate numbers ∨ src = ['.'].intercalate numbers ++ ['.']

theorem Address.ne_nil {bytes : List UInt8} {numbers : List (List Char)}
    (h : Address src bytes numbers) : numbers ≠ [] := by
  intro hNil
  have hFour := h.four
  rw [hNil] at hFour
  cases hFour

theorem Address.exists_byte {bytes : List UInt8} {numbers : List (List Char)}
    (h : Address src bytes numbers) {number : List Char} (hNumber : number ∈ numbers) :
    ∃ byte, Names number byte := by
  have hRead := h.read
  clear h
  induction hRead with
  | nil => cases hNumber
  | @cons first byte rest bytes hFirst hRest ih =>
    rcases List.mem_cons.mp hNumber with rfl | hNumber
    · exact ⟨byte, hFirst⟩
    · exact ih hNumber

theorem Address.exists_pieces {bytes : List UInt8} {numbers : List (List Char)}
    (h : Address src bytes numbers) :
    ∃ pieces, Pieces ['.'] src pieces ∧ parts pieces = numbers := by
  rcases h.text with hText | hText
  · refine ⟨numbers, pieces_singleton.mpr ⟨h.ne_nil, h.pointless, hText.symm⟩, ?_⟩
    rw [parts, if_neg]
    intro hLast
    obtain ⟨front, hNumbers⟩ := List.getLast?_eq_some_iff.mp hLast
    have hEmpty : [] ∈ numbers := by
      rw [hNumbers]
      exact List.mem_append_right _ List.mem_cons_self
    obtain ⟨byte, hByte⟩ := h.exists_byte hEmpty
    exact not_names_nil byte hByte
  · refine ⟨numbers ++ [[]], pieces_singleton.mpr ⟨by simp, ?_, ?_⟩, ?_⟩
    · intro piece hPiece
      rcases List.mem_append.mp hPiece with hPiece | hPiece
      · exact h.pointless piece hPiece
      · cases List.mem_singleton.mp hPiece
        exact List.not_mem_nil
    · rw [intercalate_concat_nil h.ne_nil, hText]
    · rw [parts, List.getLast?_concat, if_pos rfl, List.dropLast_concat]

theorem ipToU8_ok {src : String} {bytes : List UInt8} :
    ipToU8 src = .ok bytes ↔ ∃ numbers, Address src.toList bytes numbers := by
  constructor
  · intro h
    obtain ⟨pieces, hPieces⟩ := Substrings.exists_pieces (List.cons_ne_nil '.' []) src.toList
    obtain ⟨hNonempty, hFree, hText⟩ := pieces_singleton.mp hPieces
    rw [ipToU8_pieces hPieces, bind_ok] at h
    obtain ⟨result, hRead, hResult⟩ := h
    split at hResult
    · cases hResult
    · rename_i hFour
      cases hResult
      simp only [mapM_ok, readPart_ok] at hRead
      have hLength := hRead.length_eq.trans (not_not.mp hFour)
      refine ⟨parts pieces, hLength, ?_, hRead, ?_⟩
      · intro number hNumber
        apply hFree number
        unfold parts at hNumber
        split at hNumber
        · exact List.dropLast_subset _ hNumber
        · exact hNumber
      · unfold parts at hLength ⊢
        split
        · rename_i hLast
          obtain ⟨front, rfl⟩ := List.getLast?_eq_some_iff.mp hLast
          rw [if_pos hLast, List.dropLast_concat] at hLength
          right
          rw [List.dropLast_concat, ← hText, intercalate_concat_nil]
          intro hFront
          rw [hFront] at hLength
          cases hLength
        · exact .inl hText.symm
  · rintro ⟨numbers, hAddress⟩
    obtain ⟨pieces, hPieces, hParts⟩ := hAddress.exists_pieces
    have hLength := hAddress.read.length_eq.symm.trans hAddress.four
    have hRead : numbers.mapM readPart = .ok bytes := by
      simp only [mapM_ok, readPart_ok]
      exact hAddress.read
    rw [ipToU8_pieces hPieces, hParts, hRead]
    exact if_neg (not_not_intro hLength)

theorem stoi_toDigits {n : Nat} (h : n < 2 ^ 31) : stoi (Nat.toDigits 10 n) = .ok n := by
  have hScan := Decimal.scan_toDigits n [] (by simp)
  rw [List.append_nil] at hScan
  rw [stoi, hScan]
  dsimp only
  rw [Nat.ofDigitChars_ten_toDigits, if_neg]
  · rfl
  · rintro (hNil | hLow | hHigh)
    · exact Nat.toDigits_ne_nil hNil
    · simp at hLow
      omega
    · simp at hHigh
      omega

theorem names_toDigits (byte : UInt8) : Names (Nat.toDigits 10 byte.toNat) byte := by
  have hLt := byte.toNat_lt
  exact ⟨byte.toNat, by omega, stoi_toDigits (by omega), UInt8.ofNat_toNat.symm⟩

/-- Four bytes as they are usually written. -/
def dotted (a b c d : UInt8) : String :=
  toString a.toNat ++ "." ++ toString b.toNat ++ "." ++ toString c.toNat ++ "." ++
    toString d.toNat

theorem toList_dotted (a b c d : UInt8) : (dotted a b c d).toList =
    ['.'].intercalate ([a, b, c, d].map fun byte => Nat.toDigits 10 byte.toNat) := by
  have hDigits : ∀ byte : UInt8, (toString byte.toNat).toList = Nat.toDigits 10 byte.toNat :=
    fun byte => Nat.toList_repr
  simp only [dotted, String.toList_append, hDigits, List.map_cons, List.map_nil,
    List.intercalate_cons_cons, List.intercalate_singleton, List.append_assoc]
  rfl

theorem address_dotted (a b c d : UInt8) : Address (dotted a b c d).toList [a, b, c, d]
    ([a, b, c, d].map fun byte => Nat.toDigits 10 byte.toNat) where
  four := rfl
  pointless := by
    intro number hNumber hPoint
    obtain ⟨byte, -, rfl⟩ := List.mem_map.mp hNumber
    have hDigit := Decimal.isDigit_toDigits hPoint
    cases hDigit
  read := by
    rw [List.forall₂_map_left_iff, List.forall₂_same]
    exact fun byte _ => names_toDigits byte
  text := .inl (toList_dotted a b c d)

/-- An address is accepted exactly if it consists of four numbers from 0 to 256 with points
between them, and perhaps one more point. What is accepted are the bytes, where 256 stands for
0; so an address in its usual form is read as it was meant. -/
theorem addresses_read :
    (∀ src bytes, ipToU8 src = .ok bytes ↔
      ∃ numbers : List (List Char), numbers.length = 4 ∧ (∀ number ∈ numbers, '.' ∉ number) ∧
        List.Forall₂ Names numbers bytes ∧
        (src.toList = ['.'].intercalate numbers ∨
          src.toList = ['.'].intercalate numbers ++ ['.'])) ∧
    ∀ a b c d, ipToU8 (dotted a b c d) = .ok [a, b, c, d] := by
  constructor
  · intro src bytes
    rw [ipToU8_ok]
    constructor
    · rintro ⟨numbers, hFour, hPointless, hRead, hText⟩
      exact ⟨numbers, hFour, hPointless, hRead, hText⟩
    · rintro ⟨numbers, hFour, hPointless, hRead, hText⟩
      exact ⟨numbers, hFour, hPointless, hRead, hText⟩
  · intro a b c d
    exact ipToU8_ok.mpr ⟨_, address_dotted a b c d⟩

end Mandeye.BuildRequest
