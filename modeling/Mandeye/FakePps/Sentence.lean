import Mandeye.Calendar
import Mandeye.Decimal

/-! The sentence which tells the lidars the time of a pulse. -/
namespace Mandeye.NMEA

open Calendar Decimal

def bufferLen : Nat := 128

structure Timestamp where
  hours : UInt8
  mins : UInt8
  secs : UInt8
  day : UInt8
  month : UInt8
  year : UInt8
  deriving DecidableEq

/-- What `snprintf` leaves of a text in a buffer. The last byte is the terminator. -/
def snprintf (size : Nat) (text : String) : String := String.ofList (text.toList.take (size - 1))

/-- `%02d%02d%02d`. -/
def formatTriple (a b c : UInt8) : List Char :=
  format02 a.toNat ++ format02 b.toNat ++ format02 c.toNat

/-- The text of the payload, whatever its length. -/
def payloadText (ts : Timestamp) : String :=
  "GPRMC," ++ String.ofList (formatTriple ts.hours ts.mins ts.secs) ++
    ".00,A,5109.0262308,N,11401.8407342,W,0.004,133.4," ++
    String.ofList (formatTriple ts.day ts.month ts.year) ++ ",0.0,E,D"

/-- The exclusive or of all bytes. -/
def checksum (payload : String) : UInt8 :=
  payload.toList.foldl (fun sum c => sum ^^^ UInt8.ofNat c.toNat) 0

def produceNMEA (ts : Timestamp) : String :=
  let payload := snprintf bufferLen (payloadText ts)
  snprintf bufferLen
    ("$" ++ payload ++ "*" ++ String.ofList (format02X (checksum payload).toNat) ++ "\n")

/-- The fields are narrowed to eight bits. -/
def getTimestampFromSec (secsElapsed : Nat) : Timestamp :=
  let timeInfo := gmtime secsElapsed
  { hours := UInt8.ofNat timeInfo.tmHour
    mins := UInt8.ofNat timeInfo.tmMin
    secs := UInt8.ofNat timeInfo.tmSec
    day := UInt8.ofNat timeInfo.tmMday
    month := UInt8.ofNat (timeInfo.tmMon + 1)
    year := UInt8.ofInt (timeInfo.tmYear - 100) }

def hexDigits : List Char := "0123456789ABCDEF".toList

/-- The numbers written with two digits each. -/
def pairs : List Char → List Nat
  | a :: b :: rest => Nat.ofDigitChars 10 [a, b] 0 :: pairs rest
  | _ => []

def SixDigits (field : List Char) : Prop := field.length = 6 ∧ ∀ c ∈ field, c.isDigit

/-- The fields of a payload stand between commas. -/
def field (payload : String) (i : Nat) : Option (List Char) := (payload.toList.splitOn ',')[i]?

/-- The message is a complete sentence with this payload, and its fields give the date
and the time of a second. -/
structure Tells (t : Nat) (message payload : String) : Prop where
  framed : ∃ high ∈ hexDigits, ∃ low ∈ hexDigits,
    message = "$" ++ payload ++ "*" ++ String.ofList [high, low] ++ "\n" ∧
      hexDigits.idxOf high * 16 + hexDigits.idxOf low = (checksum payload).toNat
  dollar : '$' ∉ payload.toList
  star : '*' ∉ payload.toList
  complete : payload = payloadText (getTimestampFromSec t)
  time : ∃ digits, field payload 1 = some (digits ++ ['.', '0', '0']) ∧ SixDigits digits ∧
    pairs digits = [(gmtime t).tmHour, (gmtime t).tmMin, (gmtime t).tmSec]
  date : ∃ digits, field payload 9 = some digits ∧ SixDigits digits ∧
    pairs digits = [(gmtime t).tmMday, (gmtime t).tmMon + 1,
      (((gmtime t).tmYear + 1900) % 100).toNat]

theorem length_formatTriple_le (a b c : UInt8) : (formatTriple a b c).length ≤ 9 := by
  have hByte : ∀ byte : UInt8, (format02 byte.toNat).length ≤ 3 := by
    intro byte
    have hLt := byte.toNat_lt
    exact (length_format02_le_iff (by decide)).mpr (by omega)
  rw [formatTriple, List.length_append, List.length_append]
  exact Nat.add_le_add (Nat.add_le_add (hByte a) (hByte b)) (hByte c)

/-- Both buffers are large enough. -/
theorem length_payloadText_le (ts : Timestamp) : (payloadText ts).length ≤ 81 := by
  have hTime := length_formatTriple_le ts.hours ts.mins ts.secs
  have hDate := length_formatTriple_le ts.day ts.month ts.year
  have hHead : "GPRMC,".length = 6 := by decide
  have hMiddle : ".00,A,5109.0262308,N,11401.8407342,W,0.004,133.4,".length = 49 := by decide
  have hTail : ",0.0,E,D".length = 8 := by decide
  simp only [payloadText, String.length_append, String.length_ofList, hHead, hMiddle, hTail]
  omega

theorem snprintf_eq {text : String} (h : text.length < bufferLen) :
    snprintf bufferLen text = text := by
  rw [snprintf, List.take_of_length_le, String.ofList_toList]
  rw [String.length_toList]
  omega

theorem format02X_byte (byte : UInt8) :
    ∃ high ∈ hexDigits, ∃ low ∈ hexDigits, format02X byte.toNat = [high, low] ∧
      hexDigits.idxOf high * 16 + hexDigits.idxOf low = byte.toNat := by
  have hByte := byte.toNat_lt
  have hDigit : ∀ n < 16, (Nat.digitChar n).toUpper ∈ hexDigits ∧
      hexDigits.idxOf (Nat.digitChar n).toUpper = n := by decide
  have hHigh := hDigit (byte.toNat / 16) (by omega)
  have hLow := hDigit (byte.toNat % 16) (by omega)
  refine ⟨_, hHigh.1, _, hLow.1, ?_, ?_⟩
  · rw [format02X, padded_of_lt (by decide) (by omega)]
    rfl
  · rw [hHigh.2, hLow.2]
    omega

/-- A message is its payload in the frame, and nothing is cut off. -/
theorem produceNMEA_eq (ts : Timestamp) :
    produceNMEA ts = "$" ++ payloadText ts ++ "*" ++
      String.ofList (format02X (checksum (payloadText ts)).toNat) ++ "\n" := by
  have hLength := length_payloadText_le ts
  obtain ⟨high, -, low, -, hHex, -⟩ := format02X_byte (checksum (payloadText ts))
  have hPayload : snprintf bufferLen (payloadText ts) = payloadText ts :=
    snprintf_eq (hLength.trans_lt (by decide))
  have hFrame : "$".length = 1 ∧ "*".length = 1 ∧ "\n".length = 1 := by decide
  rw [produceNMEA, hPayload, snprintf_eq]
  rw [hHex]
  simp only [String.length_append, String.length_ofList, List.length_cons, List.length_nil,
    hFrame.1, hFrame.2.1, hFrame.2.2, bufferLen]
  omega

/-- The fields of a payload, as they are formatted. -/
def fieldsOf (ts : Timestamp) : List (List Char) :=
  ["GPRMC".toList, formatTriple ts.hours ts.mins ts.secs ++ ['.', '0', '0'], ['A'],
    "5109.0262308".toList, ['N'], "11401.8407342".toList, ['W'], "0.004".toList, "133.4".toList,
    formatTriple ts.day ts.month ts.year, "0.0".toList, ['E'], ['D']]

theorem isDigit_formatTriple {a b c : UInt8} {digit : Char} (h : digit ∈ formatTriple a b c) :
    digit.isDigit := by
  simp only [formatTriple, List.mem_append] at h
  rcases h with (hFirst | hSecond) | hThird
  · exact isDigit_format02 hFirst
  · exact isDigit_format02 hSecond
  · exact isDigit_format02 hThird

/-- A character which is neither a digit nor in the fixed text is not in a payload. -/
theorem not_mem_payloadText {c : Char} (hDigit : c.isDigit = false)
    (hHead : c ∉ "GPRMC,".toList)
    (hMiddle : c ∉ ".00,A,5109.0262308,N,11401.8407342,W,0.004,133.4,".toList)
    (hTail : c ∉ ",0.0,E,D".toList) (ts : Timestamp) : c ∉ (payloadText ts).toList := by
  have hTriple : ∀ x y z : UInt8, c ∉ formatTriple x y z := by
    intro x y z hMem
    rw [isDigit_formatTriple hMem] at hDigit
    cases hDigit
  rw [payloadText]
  simp only [String.toList_append, String.toList_ofList, List.mem_append, hTriple, hHead,
    hMiddle, hTail, or_self, not_false_eq_true]

theorem toList_payloadText (ts : Timestamp) :
    (payloadText ts).toList = [','].intercalate (fieldsOf ts) := by
  simp [payloadText, fieldsOf, List.intercalate]

theorem field_payloadText (ts : Timestamp) (i : Nat) :
    field (payloadText ts) i = (fieldsOf ts)[i]? := by
  have hTriple : ∀ a b c : UInt8, ',' ∉ formatTriple a b c := by
    intro a b c hMem
    exact absurd (isDigit_formatTriple hMem) (by decide)
  have hFields : ∀ text ∈ fieldsOf ts, ',' ∉ text := by
    simp [fieldsOf, hTriple]
  rw [field, toList_payloadText, List.splitOn_intercalate ',' hFields (by simp [fieldsOf])]

theorem length_format02_ge (n : Nat) : 2 ≤ (format02 n).length := by
  rw [format02, padded, List.length_append, List.length_replicate]
  omega

/-- Six digits only if all three numbers have two. -/
theorem lt_of_length_formatTriple {a b c : UInt8} (h : (formatTriple a b c).length = 6) :
    c.toNat < 100 := by
  have hFirst := length_format02_ge a.toNat
  have hSecond := length_format02_ge b.toNat
  rw [formatTriple, List.length_append, List.length_append] at h
  refine (length_format02_le_iff (k := 2) le_rfl).mp ?_
  omega

/-- Three numbers below a hundred are written with six digits, which are read back. -/
theorem formatTriple_digits {a b c : UInt8} (ha : a.toNat < 100) (hb : b.toNat < 100)
    (hc : c.toNat < 100) :
    SixDigits (formatTriple a b c) ∧
      pairs (formatTriple a b c) = [a.toNat, b.toNat, c.toNat] := by
  have hValue : ∀ n < 100, ∃ x y, format02 n = [x, y] ∧ Nat.ofDigitChars 10 [x, y] 0 = n := by
    intro n hn
    refine ⟨_, _, padded_of_lt (by decide) hn, ?_⟩
    rw [← padded_of_lt (by decide) hn]
    exact ofDigitChars_format02 n
  obtain ⟨a₁, a₂, hA, hReadA⟩ := hValue a.toNat ha
  obtain ⟨b₁, b₂, hB, hReadB⟩ := hValue b.toNat hb
  obtain ⟨c₁, c₂, hC, hReadC⟩ := hValue c.toNat hc
  refine ⟨⟨?_, fun digit hDigit => isDigit_formatTriple hDigit⟩, ?_⟩
  · rw [formatTriple, hA, hB, hC]
    rfl
  · rw [formatTriple, hA, hB, hC]
    simp only [List.cons_append, List.nil_append, pairs, hReadA, hReadB, hReadC]

/-- The narrowing to eight bits changes the year only. -/
structure Narrowed (tm : Tm) (ts : Timestamp) : Prop where
  hours : ts.hours.toNat = tm.tmHour
  mins : ts.mins.toNat = tm.tmMin
  secs : ts.secs.toNat = tm.tmSec
  day : ts.day.toNat = tm.tmMday
  month : ts.month.toNat = tm.tmMon + 1
  year : ts.year.toNat = ((tm.tmYear - 100) % 256).toNat

theorem getTimestampFromSec_narrowed (t : Nat) : Narrowed (gmtime t) (getTimestampFromSec t) := by
  have hValid := gmtime_valid t
  have hMday := hValid.mday
  have hNarrow : ∀ n < 256, (UInt8.ofNat n).toNat = n := by
    intro n hn
    rw [UInt8.toNat_ofNat', Nat.mod_eq_of_lt hn]
  exact
    { hours := hNarrow _ (hValid.hour.trans (by decide))
      mins := hNarrow _ (hValid.min.trans (by decide))
      secs := hNarrow _ (hValid.sec.trans (by decide))
      day := hNarrow _ (hMday.2.trans_lt (by decide))
      month := hNarrow _ ((Nat.succ_lt_succ hValid.mon).trans (by decide))
      year := hNarrow _ (by omega) }

/-- The three numbers of the time are written with six digits, whatever the year. -/
theorem time_digits (t : Nat) :
    field (payloadText (getTimestampFromSec t)) 1 =
        some (formatTriple (getTimestampFromSec t).hours (getTimestampFromSec t).mins
          (getTimestampFromSec t).secs ++ ['.', '0', '0']) ∧
      SixDigits (formatTriple (getTimestampFromSec t).hours (getTimestampFromSec t).mins
        (getTimestampFromSec t).secs) ∧
      pairs (formatTriple (getTimestampFromSec t).hours (getTimestampFromSec t).mins
        (getTimestampFromSec t).secs) =
        [(gmtime t).tmHour, (gmtime t).tmMin, (gmtime t).tmSec] := by
  have hSec := (gmtime_valid t).sec
  have hMin := (gmtime_valid t).min
  have hHour := (gmtime_valid t).hour
  have hNarrowed := getTimestampFromSec_narrowed t
  obtain ⟨hDigits, hPairs⟩ := formatTriple_digits (a := (getTimestampFromSec t).hours)
    (b := (getTimestampFromSec t).mins) (c := (getTimestampFromSec t).secs)
    (by rw [hNarrowed.hours]; omega) (by rw [hNarrowed.mins]; omega)
    (by rw [hNarrowed.secs]; omega)
  rw [hNarrowed.hours, hNarrowed.mins, hNarrowed.secs] at hPairs
  exact ⟨field_payloadText _ 1, hDigits, hPairs⟩

/-- The payload can be read off a message. -/
theorem payloadText_of_produceNMEA {ts other : Timestamp} (h : produceNMEA ts = produceNMEA other) :
    payloadText ts = payloadText other := by
  obtain ⟨high, -, low, -, hHex, -⟩ := format02X_byte (checksum (payloadText ts))
  obtain ⟨high', -, low', -, hHex', -⟩ := format02X_byte (checksum (payloadText other))
  rw [produceNMEA_eq, produceNMEA_eq, hHex, hHex'] at h
  have hList := congrArg String.toList h
  simp only [String.toList_append, List.append_assoc] at hList
  have hTail := (List.append_inj hList rfl).2
  exact String.toList_injective (List.append_inj' hTail (by simp)).1

/-- Messages of different seconds of a minute differ. -/
theorem tmSec_of_produceNMEA {t other : Nat}
    (h : produceNMEA (getTimestampFromSec t) = produceNMEA (getTimestampFromSec other)) :
    (gmtime t).tmSec = (gmtime other).tmSec := by
  obtain ⟨hField, -, hPairs⟩ := time_digits t
  obtain ⟨hField', -, hPairs'⟩ := time_digits other
  rw [payloadText_of_produceNMEA h, hField', Option.some.injEq] at hField
  rw [← (List.append_inj' hField rfl).1, hPairs'] at hPairs
  simp only [List.cons.injEq] at hPairs
  exact hPairs.2.2.1.symm

/-- The years of the dates which a sentence can give. -/
theorem century_iff (t : Nat) :
    ((100 : Int) ≤ (gmtime t).tmYear ↔ 946684800 ≤ t) ∧
      ((200 : Int) ≤ (gmtime t).tmYear ↔ 4102444800 ≤ t) := by
  have h2000 : daysBeforeYear 2000 = 10957 := by decide +kernel
  have h2100 : daysBeforeYear 2100 = 47482 := by decide +kernel
  have hFirst := @le_tmYear_iff 2000 (by decide) t
  have hLast := @le_tmYear_iff 2100 (by decide) t
  rw [h2000] at hFirst
  rw [h2100] at hLast
  exact ⟨hFirst, hLast⟩

/-- The sentence for a second of this century is complete and tells that second. -/
theorem produceNMEA_tells {t : Nat} (h : t < 4102444800) (hCentury : 946684800 ≤ t) :
    Tells t (produceNMEA (getTimestampFromSec t)) (payloadText (getTimestampFromSec t)) := by
  have hValid := gmtime_valid t
  have hMday := hValid.mday
  have hMon := hValid.mon
  have hNarrowed := getTimestampFromSec_narrowed t
  have hFrom := (century_iff t).1.mpr hCentury
  have hUntil : ¬(200 : Int) ≤ (gmtime t).tmYear := fun hYear => by
    have hLate := (century_iff t).2.mp hYear
    omega
  have hYear : (getTimestampFromSec t).year.toNat = (((gmtime t).tmYear + 1900) % 100).toNat := by
    rw [hNarrowed.year]
    omega
  obtain ⟨hDate, hDatePairs⟩ := formatTriple_digits (a := (getTimestampFromSec t).day)
    (b := (getTimestampFromSec t).month) (c := (getTimestampFromSec t).year)
    (by rw [hNarrowed.day]; omega) (by rw [hNarrowed.month]; omega) (by rw [hYear]; omega)
  rw [hNarrowed.day, hNarrowed.month, hYear] at hDatePairs
  obtain ⟨high, hHigh, low, hLow, hHex, hSum⟩ :=
    format02X_byte (checksum (payloadText (getTimestampFromSec t)))
  exact
    { framed := ⟨high, hHigh, low, hLow, by rw [produceNMEA_eq, hHex], hSum⟩
      dollar := not_mem_payloadText (by decide) (by decide) (by decide) (by decide) _
      star := not_mem_payloadText (by decide) (by decide) (by decide) (by decide) _
      complete := rfl
      time := ⟨_, time_digits t⟩
      date := ⟨_, field_payloadText _ 9, hDate, hDatePairs⟩ }

/-- The date and the time can be read back, so no two seconds of this century have the
same sentence. -/
theorem eq_of_produceNMEA {t other : Nat} (hCentury : 946684800 ≤ t) (h : t < 4102444800)
    (hCentury' : 946684800 ≤ other) (h' : other < 4102444800)
    (hSame : produceNMEA (getTimestampFromSec t) = produceNMEA (getTimestampFromSec other)) :
    t = other := by
  have hTells := produceNMEA_tells h hCentury
  have hTells' := produceNMEA_tells h' hCentury'
  rw [payloadText_of_produceNMEA hSame] at hTells
  obtain ⟨digits, hTime, -, hPairs⟩ := hTells.time
  obtain ⟨digits', hTime', -, hPairs'⟩ := hTells'.time
  rw [hTime', Option.some.injEq, List.append_left_inj] at hTime
  rw [← hTime, hPairs', List.cons.injEq, List.cons.injEq] at hPairs
  obtain ⟨dateDigits, hDate, -, hDatePairs⟩ := hTells.date
  obtain ⟨dateDigits', hDate', -, hDatePairs'⟩ := hTells'.date
  rw [hDate', Option.some.injEq] at hDate
  rw [← hDate, hDatePairs'] at hDatePairs
  simp only [List.cons.injEq, and_true] at hPairs hDatePairs
  obtain ⟨hHour, hMin, hSec⟩ := hPairs
  obtain ⟨hDay, hMonth, hYearDigits⟩ := hDatePairs
  have hFrom := (century_iff t).1.mpr hCentury
  have hFrom' := (century_iff other).1.mpr hCentury'
  have hUntil := (century_iff t).2
  have hUntil' := (century_iff other).2
  have hYear : (gmtime t).tmYear = (gmtime other).tmYear := by omega
  calc
    t = timegm (gmtime t) := (timegm_gmtime t).symm
    _ = timegm (gmtime other) := by
      rw [timegm, timegm, hYear, Nat.succ.inj hMonth, hDay, hHour, hMin, hSec]
    _ = other := timegm_gmtime other

/-- Up to the year 2099 a sentence tells its second exactly if that is not before the
year 2000. -/
theorem produceNMEA_tells_iff (t : Nat) (h : t < 4102444800) :
    (∃ payload, Tells t (produceNMEA (getTimestampFromSec t)) payload) ↔ 946684800 ≤ t := by
  constructor
  · rintro ⟨payload, hTells⟩
    obtain ⟨digits, hField, hDigits, -⟩ := hTells.date
    rw [hTells.complete, field_payloadText] at hField
    obtain rfl := Option.some.inj hField
    have hYear := lt_of_length_formatTriple hDigits.1
    rw [(getTimestampFromSec_narrowed t).year] at hYear
    have h1970 := (gmtime_valid t).year
    rw [← (century_iff t).1]
    omega
  · intro hCentury
    exact ⟨_, produceNMEA_tells h hCentury⟩

theorem produceNMEA_tells_2023 :
    ∃ payload, Tells 1700000000 (produceNMEA (getTimestampFromSec 1700000000)) payload :=
  (produceNMEA_tells_iff 1700000000 (by decide)).mpr (by decide)

/-- A board without a clock starts in 1970, which is year -30 of the century. -/
theorem boot_date_seven_digits :
    field (payloadText (getTimestampFromSec 0)) 9 = some ['0', '1', '0', '1', '2', '2', '6'] ∧
      ¬∃ payload, Tells 0 (produceNMEA (getTimestampFromSec 0)) payload := by
  have hDate : formatTriple (getTimestampFromSec 0).day (getTimestampFromSec 0).month
      (getTimestampFromSec 0).year = ['0', '1', '0', '1', '2', '2', '6'] := by decide
  have hField : field (payloadText (getTimestampFromSec 0)) 9 =
      some ['0', '1', '0', '1', '2', '2', '6'] := by
    rw [field_payloadText, ← hDate]
    rfl
  refine ⟨hField, ?_⟩
  rintro ⟨payload, hTells⟩
  obtain ⟨digits, hDigits, hSix, -⟩ := hTells.date
  rw [hTells.complete, hField] at hDigits
  obtain rfl := Option.some.inj hDigits
  exact absurd hSix.1 (by decide)

end Mandeye.NMEA
