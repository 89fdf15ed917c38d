import Mandeye.Crc

/-! The checksums of the lidar packets. They are computed byte by byte from tables. -/
namespace Mandeye.SdkProtocol

open Crc (Register)

/-- The table for the checksum of the header, by the highest byte of the register. -/
def crc16Tbl : List (BitVec 16) :=
  [0x0000, 0x1021, 0x2042, 0x3063, 0x4084, 0x50a5, 0x60c6, 0x70e7, 0x8108, 0x9129,
    0xa14a, 0xb16b, 0xc18c, 0xd1ad, 0xe1ce, 0xf1ef, 0x1231, 0x0210, 0x3273, 0x2252,
    0x52b5, 0x4294, 0x72f7, 0x62d6, 0x9339, 0x8318, 0xb37b, 0xa35a, 0xd3bd, 0xc39c,
    0xf3ff, 0xe3de, 0x2462, 0x3443, 0x0420, 0x1401, 0x64e6, 0x74c7, 0x44a4, 0x5485,
    0xa56a, 0xb54b, 0x8528, 0x9509, 0xe5ee, 0xf5cf, 0xc5ac, 0xd58d, 0x3653, 0x2672,
    0x1611, 0x0630, 0x76d7, 0x66f6, 0x5695, 0x46b4, 0xb75b, 0xa77a, 0x9719, 0x8738,
    0xf7df, 0xe7fe, 0xd79d, 0xc7bc, 0x48c4, 0x58e5, 0x6886, 0x78a7, 0x0840, 0x1861,
    0x2802, 0x3823, 0xc9cc, 0xd9ed, 0xe98e, 0xf9af, 0x8948, 0x9969, 0xa90a, 0xb92b,
    0x5af5, 0x4ad4, 0x7ab7, 0x6a96, 0x1a71, 0x0a50, 0x3a33, 0x2a12, 0xdbfd, 0xcbdc,
    0xfbbf, 0xeb9e, 0x9b79, 0x8b58, 0xbb3b, 0xab1a, 0x6ca6, 0x7c87, 0x4ce4, 0x5cc5,
    0x2c22, 0x3c03, 0x0c60, 0x1c41, 0xedae, 0xfd8f, 0xcdec, 0xddcd, 0xad2a, 0xbd0b,
    0x8d68, 0x9d49, 0x7e97, 0x6eb6, 0x5ed5, 0x4ef4, 0x3e13, 0x2e32, 0x1e51, 0x0e70,
    0xff9f, 0xefbe, 0xdfdd, 0xcffc, 0xbf1b, 0xaf3a, 0x9f59, 0x8f78, 0x9188, 0x81a9,
    0xb1ca, 0xa1eb, 0xd10c, 0xc12d, 0xf14e, 0xe16f, 0x1080, 0x00a1, 0x30c2, 0x20e3,
    0x5004, 0x4025, 0x7046, 0x6067, 0x83b9, 0x9398, 0xa3fb, 0xb3da, 0xc33d, 0xd31c,
    0xe37f, 0xf35e, 0x02b1, 0x1290, 0x22f3, 0x32d2, 0x4235, 0x5214, 0x6277, 0x7256,
    0xb5ea, 0xa5cb, 0x95a8, 0x8589, 0xf56e, 0xe54f, 0xd52c, 0xc50d, 0x34e2, 0x24c3,
    0x14a0, 0x0481, 0x7466, 0x6447, 0x5424, 0x4405, 0xa7db, 0xb7fa, 0x8799, 0x97b8,
    0xe75f, 0xf77e, 0xc71d, 0xd73c, 0x26d3, 0x36f2, 0x0691, 0x16b0, 0x6657, 0x7676,
    0x4615, 0x5634, 0xd94c, 0xc96d, 0xf90e, 0xe92f, 0x99c8, 0x89e9, 0xb98a, 0xa9ab,
    0x5844, 0x4865, 0x7806, 0x6827, 0x18c0, 0x08e1, 0x3882, 0x28a3, 0xcb7d, 0xdb5c,
    0xeb3f, 0xfb1e, 0x8bf9, 0x9bd8, 0xabbb, 0xbb9a, 0x4a75, 0x5a54, 0x6a37, 0x7a16,
    0x0af1, 0x1ad0, 0x2ab3, 0x3a92, 0xfd2e, 0xed0f, 0xdd6c, 0xcd4d, 0xbdaa, 0xad8b,
    0x9de8, 0x8dc9, 0x7c26, 0x6c07, 0x5c64, 0x4c45, 0x3ca2, 0x2c83, 0x1ce0, 0x0cc1,
    0xef1f, 0xff3e, 0xcf5d, 0xdf7c, 0xaf9b, 0xbfba, 0x8fd9, 0x9ff8, 0x6e17, 0x7e36,
    0x4e55, 0x5e74, 0x2e93, 0x3eb2, 0x0ed1, 0x1ef0]

/-- The table for the checksum of the data, by the lowest byte, for bits in the
reverse order. -/
def crc32RevTbl : List (BitVec 32) :=
  [0x00000000, 0x77073096, 0xee0e612c, 0x990951ba, 0x076dc419, 0x706af48f, 0xe963a535, 0x9e6495a3,
    0x0edb8832, 0x79dcb8a4, 0xe0d5e91e, 0x97d2d988, 0x09b64c2b, 0x7eb17cbd, 0xe7b82d07, 0x90bf1d91,
    0x1db71064, 0x6ab020f2, 0xf3b97148, 0x84be41de, 0x1adad47d, 0x6ddde4eb, 0xf4d4b551, 0x83d385c7,
    0x136c9856, 0x646ba8c0, 0xfd62f97a, 0x8a65c9ec, 0x14015c4f, 0x63066cd9, 0xfa0f3d63, 0x8d080df5,
    0x3b6e20c8, 0x4c69105e, 0xd56041e4, 0xa2677172, 0x3c03e4d1, 0x4b04d447, 0xd20d85fd, 0xa50ab56b,
    0x35b5a8fa, 0x42b2986c, 0xdbbbc9d6, 0xacbcf940, 0x32d86ce3, 0x45df5c75, 0xdcd60dcf, 0xabd13d59,
    0x26d930ac, 0x51de003a, 0xc8d75180, 0xbfd06116, 0x21b4f4b5, 0x56b3c423, 0xcfba9599, 0xb8bda50f,
    0x2802b89e, 0x5f058808, 0xc60cd9b2, 0xb10be924, 0x2f6f7c87, 0x58684c11, 0xc1611dab, 0xb6662d3d,
    0x76dc4190, 0x01db7106, 0x98d220bc, 0xefd5102a, 0x71b18589, 0x06b6b51f, 0x9fbfe4a5, 0xe8b8d433,
    0x7807c9a2, 0x0f00f934, 0x9609a88e, 0xe10e9818, 0x7f6a0dbb, 0x086d3d2d, 0x91646c97, 0xe6635c01,
    0x6b6b51f4, 0x1c6c6162, 0x856530d8, 0xf262004e, 0x6c0695ed, 0x1b01a57b, 0x8208f4c1, 0xf50fc457,
    0x65b0d9c6, 0x12b7e950, 0x8bbeb8ea, 0xfcb9887c, 0x62dd1ddf, 0x15da2d49, 0x8cd37cf3, 0xfbd44c65,
    0x4db26158, 0x3ab551ce, 0xa3bc0074, 0xd4bb30e2, 0x4adfa541, 0x3dd895d7, 0xa4d1c46d, 0xd3d6f4fb,
    0x4369e96a, 0x346ed9fc, 0xad678846, 0xda60b8d0, 0x44042d73, 0x33031de5, 0xaa0a4c5f, 0xdd0d7cc9,
    0x5005713c, 0x270241aa, 0xbe0b1010, 0xc90c2086, 0x5768b525, 0x206f85b3, 0xb966d409, 0xce61e49f,
    0x5edef90e, 0x29d9c998, 0xb0d09822, 0xc7d7a8b4, 0x59b33d17, 0x2eb40d81, 0xb7bd5c3b, 0xc0ba6cad,
    0xedb88320, 0x9abfb3b6, 0x03b6e20c, 0x74b1d29a, 0xead54739, 0x9dd277af, 0x04db2615, 0x73dc1683,
    0xe3630b12, 0x94643b84, 0x0d6d6a3e, 0x7a6a5aa8, 0xe40ecf0b, 0x9309ff9d, 0x0a00ae27, 0x7d079eb1,
    0xf00f9344, 0x8708a3d2, 0x1e01f268, 0x6906c2fe, 0xf762575d, 0x806567cb, 0x196c3671, 0x6e6b06e7,
    0xfed41b76, 0x89d32be0, 0x10da7a5a, 0x67dd4acc, 0xf9b9df6f, 0x8ebeeff9, 0x17b7be43, 0x60b08ed5,
    0xd6d6a3e8, 0xa1d1937e, 0x38d8c2c4, 0x4fdff252, 0xd1bb67f1, 0xa6bc5767, 0x3fb506dd, 0x48b2364b,
    0xd80d2bda, 0xaf0a1b4c, 0x36034af6, 0x41047a60, 0xdf60efc3, 0xa867df55, 0x316e8eef, 0x4669be79,
    0xcb61b38c, 0xbc66831a, 0x256fd2a0, 0x5268e236, 0xcc0c7795, 0xbb0b4703, 0x220216b9, 0x5505262f,
    0xc5ba3bbe, 0xb2bd0b28, 0x2bb45a92, 0x5cb36a04, 0xc2d7ffa7, 0xb5d0cf31, 0x2cd99e8b, 0x5bdeae1d,
    0x9b64c2b0, 0xec63f226, 0x756aa39c, 0x026d930a, 0x9c0906a9, 0xeb0e363f, 0x72076785, 0x05005713,
    0x95bf4a82, 0xe2b87a14, 0x7bb12bae, 0x0cb61b38, 0x92d28e9b, 0xe5d5be0d, 0x7cdcefb7, 0x0bdbdf21,
    0x86d3d2d4, 0xf1d4e242, 0x68ddb3f8, 0x1fda836e, 0x81be16cd, 0xf6b9265b, 0x6fb077e1, 0x18b74777,
    0x88085ae6, 0xff0f6a70, 0x66063bca, 0x11010b5c, 0x8f659eff, 0xf862ae69, 0x616bffd3, 0x166ccf45,
    0xa00ae278, 0xd70dd2ee, 0x4e048354, 0x3903b3c2, 0xa7672661, 0xd06016f7, 0x4969474d, 0x3e6e77db,
    0xaed16a4a, 0xd9d65adc, 0x40df0b66, 0x37d83bf0, 0xa9bcae53, 0xdebb9ec5, 0x47b2cf7f, 0x30b5ffe9,
    0xbdbdf21c, 0xcabac28a, 0x53b39330, 0x24b4a3a6, 0xbad03605, 0xcdd70693, 0x54de5729, 0x23d967bf,
    0xb3667a2e, 0xc4614ab8, 0x5d681b02, 0x2a6f2b94, 0xb40bbe37, 0xc30c8ea1, 0x5a05df1b, 0x2d02ef8d]

/-- One iteration of the loop over the data. -/
def crc16Byte (crcTemp : BitVec 16) (byte : UInt8) : BitVec 16 :=
  let crcTemp := crcTemp ^^^ (byte.toBitVec.setWidth 16 <<< 8)
  (crcTemp <<< 8) ^^^ crc16Tbl.getD ((crcTemp >>> 8) &&& 0xFF#16).toNat 0

/-- `start` is what an earlier call has returned, and is not used in the first one. -/
def crcCalculateCRC16 (data : List UInt8) (start : BitVec 16) (isFirstCall : Bool) : BitVec 16 :=
  data.foldl crc16Byte (if isFirstCall then 0xFFFF else start ^^^ 0#16) ^^^ 0#16

/-- One iteration for the longer checksum, whose register is shifted the other way. -/
def crc32Byte (crcTemp : BitVec 32) (byte : UInt8) : BitVec 32 :=
  let crcTemp := crcTemp ^^^ byte.toBitVec.setWidth 32
  (crcTemp >>> 8) ^^^ crc32RevTbl.getD (crcTemp &&& 0xFF#32).toNat 0

/-- As above, but what is returned is the complement of the register. -/
def crcCalculateCRC32 (data : List UInt8) (start : BitVec 32) (isFirstCall : Bool) : BitVec 32 :=
  data.foldl crc32Byte (if isFirstCall then 0xFFFFFFFF else start ^^^ 0xFFFFFFFF) ^^^ 0xFFFFFFFF

/-- The registers with the two polynomials. -/
def crc16 : Register 16 := .left 0x1021 (by decide)

/-- The polynomial of the longer checksum is written in the reverse order, too. -/
def crc32 : Register 32 := .right 0xEDB88320 (by decide)

/-- The bits of a byte from the highest to the lowest. -/
def highestFirst (byte : UInt8) : List Bool := (List.range 8).map fun i => byte.toBitVec.getMsbD i

/-- The bits of a byte in the reverse order. -/
def lowestFirst (byte : UInt8) : List Bool := (List.range 8).map fun i => byte.toBitVec.getLsbD i

section Tables

/-- An entry of the table is what its index leaves in the register after eight zeros. -/
theorem crc16Tbl_eq : ∀ i < 256, crc16Tbl.getD i 0 =
    crc16.remainder (BitVec.ofNat 16 i <<< 8) (List.replicate 8 false) := by
  decide +kernel

/-- The same for the longer checksum, where the index is in the lowest bits. -/
theorem crc32RevTbl_eq : ∀ i < 256, crc32RevTbl.getD i 0 =
    crc32.remainder (BitVec.ofNat 32 i) (List.replicate 8 false) := by
  decide +kernel

/-- A byte which is already in the register is cancelled by its own bits. -/
theorem crc16_held (byte : UInt8) :
    crc16.remainder (byte.toBitVec.setWidth 16 <<< 8) (highestFirst byte) = 0#16 := by
  have hAll : ∀ i < 256, crc16.remainder ((UInt8.ofNat i).toBitVec.setWidth 16 <<< 8)
      (highestFirst (UInt8.ofNat i)) = 0#16 := by decide +kernel
  simpa using hAll byte.toNat byte.toNat_lt

/-- The same for the longer checksum. -/
theorem crc32_held (byte : UInt8) :
    crc32.remainder (byte.toBitVec.setWidth 32) (lowestFirst byte) = 0#32 := by
  have hAll : ∀ i < 256, crc32.remainder ((UInt8.ofNat i).toBitVec.setWidth 32)
      (lowestFirst (UInt8.ofNat i)) = 0#32 := by decide +kernel
  simpa using hAll byte.toNat byte.toNat_lt

/-- To shift the register `n` times is to shift it by `n`. -/
theorem iterate_crc16_shift (s : BitVec 16) (n : Nat) : crc16.shift^[n] s = s <<< n :=
  Crc.iterate_shiftLeft s n

/-- The same in the other direction. -/
theorem iterate_crc32_shift (s : BitVec 32) (n : Nat) : crc32.shift^[n] s = s >>> n :=
  Crc.iterate_shiftRight s n

/-- An iteration takes in the eight bits of its byte. The register is split into the
bits which the table is asked for and the rest, which is only shifted in eight steps. -/
theorem crc16Byte_eq (s : BitVec 16) (byte : UInt8) :
    crc16Byte s byte = crc16.remainder s (highestFirst byte) := by
  have hLow : ∀ i < 16, (0x00FF#16).getLsbD i = decide (i < 8) := by decide
  rw [crc16Byte]
  generalize hx : s ^^^ (byte.toBitVec.setWidth 16 <<< 8) = x
  have hIndex : x = (x &&& 0x00FF#16) ^^^ ((x >>> 8 &&& 0xFF#16) <<< 8) := by
    refine BitVec.eq_of_getLsbD_eq fun i hi => ?_
    simp only [BitVec.getLsbD_xor, BitVec.getLsbD_and, BitVec.getLsbD_shiftLeft, hLow i hi, hi,
      BitVec.getLsbD_ushiftRight, hLow (i - 8) (by omega)]
    by_cases h : i < 8
    · simp [h]
    · simp [h, show 8 + (i - 8) = i by omega, show i - 8 < 8 by omega]
  have hRest : ∀ i < 8, crc16.out (crc16.shift^[i] (x &&& 0x00FF#16)) = false := by
    intro i hi
    rw [iterate_crc16_shift]
    change ((x &&& 0x00FF#16) <<< i).msb = false
    rw [BitVec.msb_eq_getLsbD_last, BitVec.getLsbD_shiftLeft, BitVec.getLsbD_and,
      hLow (16 - 1 - i) (by omega), decide_eq_false (by omega : ¬16 - 1 - i < 8), Bool.and_false,
      Bool.and_false]
  have hShift : (x &&& 0x00FF#16) <<< 8 = x <<< 8 := by
    refine BitVec.eq_of_getLsbD_eq fun i hi => ?_
    simp only [BitVec.getLsbD_shiftLeft, BitVec.getLsbD_and, hLow (i - 8) (by omega)]
    simp [hi, show i - 8 < 8 by omega]
  have hTable := crc16Tbl_eq (x >>> 8 &&& 0xFF#16).toNat (by
    rw [BitVec.toNat_and]
    exact Nat.lt_succ_of_le Nat.and_le_right)
  rw [BitVec.ofNat_toNat, BitVec.setWidth_eq] at hTable
  rw [Register.remainder_split (crc16_held byte) hRest (hx.trans hIndex), hTable,
    iterate_crc16_shift]
  exact congrArg (· ^^^ _) hShift.symm

/-- The same argument with the two ends of the register exchanged. -/
theorem crc32Byte_eq (s : BitVec 32) (byte : UInt8) :
    crc32Byte s byte = crc32.remainder s (lowestFirst byte) := by
  have hLow : ∀ i < 32, (0xFF#32).getLsbD i = decide (i < 8) := by decide
  have hHigh : ∀ i < 32, (0xFFFFFF00#32).getLsbD i = !decide (i < 8) := by decide
  rw [crc32Byte]
  generalize hx : s ^^^ byte.toBitVec.setWidth 32 = x
  have hIndex : x = (x &&& 0xFFFFFF00#32) ^^^ (x &&& 0xFF#32) := by
    refine BitVec.eq_of_getLsbD_eq fun i hi => ?_
    simp only [BitVec.getLsbD_xor, BitVec.getLsbD_and, hLow i hi, hHigh i hi]
    by_cases h : i < 8
    · simp [h]
    · simp [h]
  have hRest : ∀ i < 8, crc32.out (crc32.shift^[i] (x &&& 0xFFFFFF00#32)) = false := by
    intro i hi
    rw [iterate_crc32_shift]
    change ((x &&& 0xFFFFFF00#32) >>> i).getLsbD 0 = false
    rw [BitVec.getLsbD_ushiftRight, BitVec.getLsbD_and, hHigh (i + 0) (by omega),
      decide_eq_true (by omega : i + 0 < 8), Bool.not_true, Bool.and_false]
  have hShift : (x &&& 0xFFFFFF00#32) >>> 8 = x >>> 8 := by
    refine BitVec.eq_of_getLsbD_eq fun i hi => ?_
    rw [BitVec.getLsbD_ushiftRight, BitVec.getLsbD_ushiftRight, BitVec.getLsbD_and]
    by_cases h : 8 + i < 32
    · rw [hHigh (8 + i) h, decide_eq_false (by omega), Bool.not_false, Bool.and_true]
    · rw [BitVec.getLsbD_of_ge x (8 + i) (by omega), Bool.false_and]
  have hTable := crc32RevTbl_eq (x &&& 0xFF#32).toNat (by
    rw [BitVec.toNat_and]
    exact Nat.lt_succ_of_le Nat.and_le_right)
  rw [BitVec.ofNat_toNat, BitVec.setWidth_eq] at hTable
  rw [Register.remainder_split (crc32_held byte) hRest (hx.trans hIndex), hTable,
    iterate_crc32_shift]
  exact congrArg (· ^^^ _) hShift.symm

end Tables

section Data

variable {data before change change' after : List UInt8}

/-- The whole loop takes in the bits of all bytes. -/
theorem crcCalculateCRC16_eq (data : List UInt8) (start : BitVec 16) :
    crcCalculateCRC16 data start true = crc16.remainder 0xFFFF (data.flatMap highestFirst) := by
  have hByte : crc16Byte = fun s byte => (highestFirst byte).foldl crc16.step s :=
    funext fun s => funext fun byte => crc16Byte_eq s byte
  rw [crcCalculateCRC16, if_pos rfl, BitVec.xor_zero, Register.remainder, List.foldl_flatMap,
    hByte]

/-- So does the other one. -/
theorem crcCalculateCRC32_eq (data : List UInt8) (start : BitVec 32) :
    crcCalculateCRC32 data start true =
      crc32.remainder 0xFFFFFFFF (data.flatMap lowestFirst) ^^^ 0xFFFFFFFF := by
  have hByte : crc32Byte = fun s byte => (lowestFirst byte).foldl crc32.step s :=
    funext fun s => funext fun byte => crc32Byte_eq s byte
  rw [crcCalculateCRC32, if_pos rfl, Register.remainder, List.foldl_flatMap, hByte]

/-- The functions divide by the two polynomials, and a call goes on where the one before it
has ended. -/
theorem crc_divides (data more : List UInt8) (start16 : BitVec 16) (start32 : BitVec 32) :
    crcCalculateCRC16 data start16 true = crc16.remainder 0xFFFF (data.flatMap highestFirst) ∧
    crcCalculateCRC32 data start32 true =
      crc32.remainder 0xFFFFFFFF (data.flatMap lowestFirst) ^^^ 0xFFFFFFFF ∧
    crcCalculateCRC16 more (crcCalculateCRC16 data start16 true) false =
      crcCalculateCRC16 (data ++ more) start16 true ∧
    crcCalculateCRC32 more (crcCalculateCRC32 data start32 true) false =
      crcCalculateCRC32 (data ++ more) start32 true := by
  refine ⟨crcCalculateCRC16_eq data start16, crcCalculateCRC32_eq data start32, ?_, ?_⟩
  · simp only [crcCalculateCRC16, List.foldl_append, BitVec.xor_zero, if_true,
      Bool.false_eq_true, if_false]
  · simp only [crcCalculateCRC32, List.foldl_append, BitVec.xor_assoc, BitVec.xor_self,
      BitVec.xor_zero, if_true, Bool.false_eq_true, if_false]

/-- Eight bits are taken in for each byte. -/
theorem length_flatMap_bits {bits : UInt8 → List Bool}
    (hBits : ∀ byte, (bits byte).length = 8) (data : List UInt8) :
    (data.flatMap bits).length = 8 * data.length := by
  induction data with
  | nil => rfl
  | cons byte data ih =>
      rw [List.flatMap_cons, List.length_append, hBits, ih, List.length_cons]
      omega

/-- Data of the same length can be told from their bits. -/
theorem eq_of_flatMap_eq {bits : UInt8 → List Bool} (hBits : ∀ byte, (bits byte).length = 8)
    (hInjective : Function.Injective bits) (hLength : change.length = change'.length)
    (h : change.flatMap bits = change'.flatMap bits) : change = change' := by
  induction change generalizing change' with
  | nil => exact (List.eq_nil_of_length_eq_zero hLength.symm).symm
  | cons byte change ih =>
      cases change' with
      | nil => cases hLength
      | cons byte' change' =>
          rw [List.flatMap_cons, List.flatMap_cons] at h
          obtain ⟨hHead, hTail⟩ := List.append_inj h ((hBits byte).trans (hBits byte').symm)
          rw [hInjective hHead, ih (Nat.succ.inj hLength) hTail]

/-- A byte can be told from its bits in either order. -/
theorem highestFirst_injective : Function.Injective highestFirst := by
  intro byte byte' h
  refine UInt8.toBitVec_inj.mp (BitVec.eq_of_getMsbD_eq fun i hi => ?_)
  have hBit := congrArg (·[i]?) h
  simpa [highestFirst, hi] using hBit

theorem lowestFirst_injective : Function.Injective lowestFirst := by
  intro byte byte' h
  refine UInt8.toBitVec_inj.mp (BitVec.eq_of_getLsbD_eq fun i hi => ?_)
  have hBit := congrArg (·[i]?) h
  simpa [lowestFirst, hi] using hBit

/-- Two bytes in a row which have been changed change the checksum. -/
theorem eq_of_crc16_eq (hLength : change.length = change'.length) (hShort : change.length ≤ 2)
    (h : crcCalculateCRC16 (before ++ change ++ after) 0 true =
      crcCalculateCRC16 (before ++ change' ++ after) 0 true) : change = change' := by
  have hBits : ∀ byte, (highestFirst byte).length = 8 := fun byte => by simp [highestFirst]
  refine eq_of_flatMap_eq hBits highestFirst_injective hLength ?_
  rw [crcCalculateCRC16_eq, crcCalculateCRC16_eq] at h
  simp only [List.flatMap_append] at h
  refine Register.eq_of_remainder_eq ?_ ?_ h
  · rw [length_flatMap_bits hBits, length_flatMap_bits hBits, hLength]
  · rw [length_flatMap_bits hBits]
    omega

/-- So do up to four for the longer one. -/
theorem eq_of_crc32_eq (hLength : change.length = change'.length) (hShort : change.length ≤ 4)
    (h : crcCalculateCRC32 (before ++ change ++ after) 0 true =
      crcCalculateCRC32 (before ++ change' ++ after) 0 true) : change = change' := by
  have hBits : ∀ byte, (lowestFirst byte).length = 8 := fun byte => by simp [lowestFirst]
  refine eq_of_flatMap_eq hBits lowestFirst_injective hLength ?_
  rw [crcCalculateCRC32_eq, crcCalculateCRC32_eq, BitVec.xor_left_inj] at h
  simp only [List.flatMap_append] at h
  refine Register.eq_of_remainder_eq ?_ ?_ h
  · rw [length_flatMap_bits hBits, length_flatMap_bits hBits, hLength]
  · rw [length_flatMap_bits hBits]
    omega

end Data

end Mandeye.SdkProtocol
