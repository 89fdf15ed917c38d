import Mandeye.LittleEndian
import Mandeye.Livox.Checksums

/-! The packets which the host and the lidars exchange. The header has a checksum of its
own, which is followed by the one of the data. -/
namespace Mandeye.SdkProtocol

open LittleEndian

/-- The data and their length, which is kept in 16 bits. -/
structure CommPacket where
  protocol : UInt8
  version : UInt8
  seqNum : UInt32
  cmdId : UInt16
  cmdType : UInt8
  senderType : UInt8
  data : List UInt8
  fits : data.length < 2 ^ 16

/-- The bytes with which a packet begins, and the lengths of its head. -/
def kLidarSdk : UInt8 := 0
def kSdkProtocolSof : UInt8 := 0xAA
def kSdkVer : UInt8 := 0

def getPreambleLen : Nat := 24
def getPacketWrapperLen : Nat := 24

/-- The length as it is kept, in 16 bits. -/
def CommPacket.dataLen (packet : CommPacket) : UInt16 := UInt16.ofNat packet.data.length

/-- The checksum of the data, which is zero if there are none. -/
def crc32Data (data : List UInt8) : BitVec 32 :=
  if data.length = 0 then 0 else crcCalculateCRC32 data 0 true

/-- The reserved bytes of the header are those which the buffer had before. -/
def packHeader (oBuf : Nat → UInt8) (packet : CommPacket) : List UInt8 :=
  [kSdkProtocolSof, kSdkVer] ++ toBytes 2 (packet.dataLen + 24).toNat ++
    toBytes 4 (packet.seqNum &&& 0xFFFF).toNat ++ toBytes 2 packet.cmdId.toNat ++
    [packet.cmdType, packet.senderType] ++ slice oBuf 12 6

/-- The bytes written into the buffer, unless the packet is refused. -/
def pack (oBuf : Nat → UInt8) (oBufSize : Nat) (packet : CommPacket) : Option (List UInt8) :=
  if kLidarSdk ≠ packet.protocol then none
  else if oBufSize < (packet.dataLen + 24).toNat then none
  else
    let header := packHeader oBuf packet
    some (header ++ toBytes 2 (crcCalculateCRC16 header 0 true).toNat ++
      toBytes 4 (crc32Data packet.data).toNat ++ packet.data)

/-- The length which the header tells. -/
def lengthField (buf : Nat → UInt8) : UInt16 := UInt16.ofNat (ofBytes (slice buf 2 2))

/-- The length which the header tells decides how much of the memory is read as data. -/
def checkPreamble (buf : Nat → UInt8) (bufSize : Nat) : Bool :=
  if bufSize < getPreambleLen then false
  else if buf 0 ≠ kSdkProtocolSof then false
  else if buf 1 ≠ kSdkVer then false
  else if (lengthField buf).toNat < getPreambleLen then false
  else if ofBytes (slice buf 18 2) ≠ (crcCalculateCRC16 (slice buf 0 18) 0 true).toNat then false
  else ofBytes (slice buf 20 4) =
    (crc32Data (slice buf 24 ((lengthField buf).toNat - getPacketWrapperLen))).toNat

/-- The fields of a packet whose head has been checked. -/
def parsePacket (buf : Nat → UInt8) (bufSize : Nat) : Option CommPacket :=
  if bufSize < getPacketWrapperLen then none
  else some
    { protocol := kLidarSdk
      version := buf 1
      seqNum := UInt32.ofNat (ofBytes (slice buf 4 4))
      cmdId := UInt16.ofNat (ofBytes (slice buf 8 2))
      cmdType := buf 10
      senderType := buf 11
      data := slice buf 24 (lengthField buf - 24).toNat
      fits := by
        rw [length_slice]
        exact UInt16.toNat_lt _ }

/-- A datagram is refused unless its head is in order. -/
def parseCommStream (buf : Nat → UInt8) (bufSize : Nat) : Option CommPacket :=
  if checkPreamble buf bufSize then parsePacket buf bufSize else none

section RoundTrip

variable {oBuf memory : Nat → UInt8} {oBufSize bufSize : Nat} {packet : CommPacket}
  {bytes : List UInt8}

/-- The parts of a packet in memory. -/
structure Lies (memory : Nat → UInt8) (packet : CommPacket) : Prop where
  sof : memory 0 = kSdkProtocolSof
  version : memory 1 = kSdkVer
  length : lengthField memory = packet.dataLen + 24
  seqNum : UInt32.ofNat (ofBytes (slice memory 4 4)) = packet.seqNum &&& 0xFFFF
  cmdId : UInt16.ofNat (ofBytes (slice memory 8 2)) = packet.cmdId
  cmdType : memory 10 = packet.cmdType
  senderType : memory 11 = packet.senderType
  crc16 : ofBytes (slice memory 18 2) = (crcCalculateCRC16 (slice memory 0 18) 0 true).toNat
  crc32 : ofBytes (slice memory 20 4) = (crc32Data packet.data).toNat
  data : slice memory 24 packet.data.length = packet.data

theorem length_packHeader : (packHeader oBuf packet).length = 18 := by
  simp only [packHeader, List.length_append, List.length_cons, List.length_nil, length_toBytes,
    length_slice]

theorem slice_pair {offset : Nat} {first second : UInt8}
    (h : slice memory offset 2 = [first, second]) :
    memory offset = first ∧ memory (offset + 1) = second := by
  simpa [slice, List.range_succ] using h

theorem lies_of_pack (h : pack oBuf oBufSize packet = some bytes)
    (hMemory : slice memory 0 bytes.length = bytes) : Lies memory packet := by
  unfold pack at h
  split at h
  · cases h
  · split at h
    · cases h
    · cases h
      obtain ⟨hMemory, hData⟩ := slice_append hMemory
      obtain ⟨hMemory, hCrc32⟩ := slice_append hMemory
      obtain ⟨hHeader, hCrc16⟩ := slice_append hMemory
      have hWhole := hHeader
      obtain ⟨hMemory, -⟩ := slice_append hHeader
      obtain ⟨hMemory, hTypes⟩ := slice_append hMemory
      obtain ⟨hMemory, hCmdId⟩ := slice_append hMemory
      obtain ⟨hMemory, hSeqNum⟩ := slice_append hMemory
      obtain ⟨hFirst, hLength⟩ := slice_append hMemory
      simp only [List.length_append, List.length_cons, List.length_nil, length_packHeader,
        length_toBytes, Nat.zero_add, Nat.reduceAdd] at *
      refine ⟨(slice_pair hFirst).1, (slice_pair hFirst).2, ?_, ?_, ?_, (slice_pair hTypes).1,
        (slice_pair hTypes).2, ?_, ?_, hData⟩
      · rw [lengthField, hLength, ofBytes_toBytes (UInt16.toNat_lt _), UInt16.ofNat_toNat]
      · rw [hSeqNum, ofBytes_toBytes (UInt32.toNat_lt _), UInt32.ofNat_toNat]
      · rw [hCmdId, ofBytes_toBytes (UInt16.toNat_lt _), UInt16.ofNat_toNat]
      · rw [hCrc16, hWhole, ofBytes_toBytes (BitVec.isLt _)]
      · rw [hCrc32, ofBytes_toBytes (BitVec.isLt _)]

theorem protocol_of_pack (h : pack oBuf oBufSize packet = some bytes) :
    packet.protocol = kLidarSdk := by
  rw [pack] at h
  split at h
  · cases h
  · rename_i hProtocol
    exact (not_not.mp hProtocol).symm

theorem parseCommStream_of_lies (h : Lies memory packet)
    (hLength : packet.data.length + 24 < 2 ^ 16) (hSize : 24 ≤ bufSize)
    (hProtocol : packet.protocol = kLidarSdk) :
    parseCommStream memory bufSize =
      some { packet with version := kSdkVer, seqNum := packet.seqNum &&& 0xFFFF } := by
  have hField : (lengthField memory).toNat = packet.data.length + 24 := by
    rw [h.length, CommPacket.dataLen, UInt16.toNat_add, UInt16.toNat_ofNat']
    simp only [UInt16.reduceToNat]
    omega
  have hDataLen : (lengthField memory - 24).toNat = packet.data.length := by
    rw [h.length, UInt16.add_sub_cancel, CommPacket.dataLen, UInt16.toNat_ofNat']
    omega
  have hCheck : checkPreamble memory bufSize = true := by
    rw [checkPreamble, if_neg (by rw [getPreambleLen]; omega), if_neg (by rw [h.sof]; decide),
      if_neg (by rw [h.version]; decide), if_neg (by rw [hField, getPreambleLen]; omega),
      if_neg (not_not.mpr h.crc16), hField, getPacketWrapperLen, Nat.add_sub_cancel, h.data,
      h.crc32]
    exact decide_eq_true rfl
  rw [parseCommStream, if_pos hCheck, parsePacket, if_neg (by rw [getPacketWrapperLen]; omega)]
  simp only [hDataLen, h.data, h.version, h.seqNum, h.cmdId, h.cmdType, h.senderType, hProtocol]

theorem checkPreamble_eq_true (h : checkPreamble memory bufSize = true) :
    memory 0 = kSdkProtocolSof ∧ memory 1 = kSdkVer ∧ 24 ≤ (lengthField memory).toNat ∧
    ofBytes (slice memory 18 2) = (crcCalculateCRC16 (slice memory 0 18) 0 true).toNat ∧
    ofBytes (slice memory 20 4) =
      (crc32Data (slice memory 24 ((lengthField memory).toNat - 24))).toNat := by
  unfold checkPreamble at h
  split at h
  · cases h
  · split at h
    · cases h
    · split at h
      · cases h
      · split at h
        · cases h
        · split at h
          · cases h
          · rename_i hSof hVersion hLength hCrc16
            exact ⟨not_not.mp hSof, not_not.mp hVersion, Nat.le_of_not_lt hLength,
              not_not.mp hCrc16, of_decide_eq_true h⟩

theorem toBytes_word (offset : Nat) :
    toBytes 2 (UInt16.ofNat (ofBytes (slice memory offset 2))).toNat = slice memory offset 2 := by
  have hBytes := toBytes_ofBytes (slice memory offset 2)
  have hLt := ofBytes_lt (slice memory offset 2)
  rw [length_slice] at hBytes hLt
  rwa [UInt16.toNat_ofNat_of_lt' hLt]

theorem toBytes_dword (offset : Nat) :
    toBytes 4 (UInt32.ofNat (ofBytes (slice memory offset 4))).toNat = slice memory offset 4 := by
  have hBytes := toBytes_ofBytes (slice memory offset 4)
  have hLt := ofBytes_lt (slice memory offset 4)
  rw [length_slice] at hBytes hLt
  rwa [UInt32.toNat_ofNat_of_lt' hLt]

theorem and_0xFFFF {n : UInt32} (h : n.toNat < 2 ^ 16) : n &&& 0xFFFF = n := by
  apply UInt32.toNat_inj.mp
  rw [UInt32.toNat_and]
  exact (Nat.and_two_pow_sub_one_eq_mod n.toNat 16).trans (Nat.mod_eq_of_lt h)

/-- The header which `pack` writes for a packet in memory is its own. -/
theorem packHeader_eq_slice (hSof : memory 0 = kSdkProtocolSof) (hVersion : memory 1 = kSdkVer)
    (hLength : packet.dataLen + 24 = lengthField memory)
    (hSeqNum : packet.seqNum &&& 0xFFFF = UInt32.ofNat (ofBytes (slice memory 4 4)))
    (hCmdId : packet.cmdId = UInt16.ofNat (ofBytes (slice memory 8 2)))
    (hCmdType : packet.cmdType = memory 10) (hSenderType : packet.senderType = memory 11) :
    packHeader memory packet = slice memory 0 18 := by
  rw [packHeader, hLength, lengthField, toBytes_word, hSeqNum, toBytes_dword, hCmdId,
    toBytes_word, hCmdType, hSenderType, ← hSof, ← hVersion]
  have hSplit : slice memory 0 18 = slice memory 0 2 ++ slice memory 2 2 ++ slice memory 4 4 ++
      slice memory 8 2 ++ slice memory 10 2 ++ slice memory 12 6 := by
    rw [← slice_add (n := 2), ← slice_add (n := 4), ← slice_add (n := 8), ← slice_add (n := 10),
      ← slice_add (n := 12)]
  rw [hSplit]
  simp only [slice, List.range_succ, List.range_zero, List.nil_append, List.map_append,
    List.map_cons, List.map_nil, Nat.zero_add, Nat.add_zero, Nat.reduceAdd, List.singleton_append]

theorem slice_parts (n : Nat) : slice memory 0 (24 + n) =
    slice memory 0 18 ++ slice memory 18 2 ++ slice memory 20 4 ++ slice memory 24 n := by
  rw [← slice_add (n := 18), ← slice_add (n := 20), ← slice_add (n := 24)]

/-- What a parsed packet has been read from. -/
structure ReadFrom (memory : Nat → UInt8) (packet : CommPacket) : Prop where
  protocol : packet.protocol = kLidarSdk
  version : packet.version = memory 1
  seqNum : packet.seqNum = UInt32.ofNat (ofBytes (slice memory 4 4))
  cmdId : packet.cmdId = UInt16.ofNat (ofBytes (slice memory 8 2))
  cmdType : packet.cmdType = memory 10
  senderType : packet.senderType = memory 11
  data : packet.data = slice memory 24 (lengthField memory - 24).toNat

theorem parseCommStream_eq_some (h : parseCommStream memory bufSize = some packet) :
    checkPreamble memory bufSize = true ∧ ReadFrom memory packet := by
  rw [parseCommStream] at h
  split at h
  · rename_i hCheck
    rw [parsePacket] at h
    split at h
    · cases h
    · cases h
      exact ⟨hCheck, rfl, rfl, rfl, rfl, rfl, rfl, rfl⟩
  · cases h

/-- What is accepted is what `pack` writes, up to reserved bytes. -/
theorem pack_of_parseCommStream (h : parseCommStream memory bufSize = some packet)
    (hSeqNum : packet.seqNum.toNat < 2 ^ 16) :
    pack memory (24 + packet.data.length) packet =
      some (slice memory 0 (24 + packet.data.length)) := by
  obtain ⟨hCheck, hRead⟩ := parseCommStream_eq_some h
  obtain ⟨hSof, hVersion, hLength, hCrc16, hCrc32⟩ := checkPreamble_eq_true hCheck
  have hDataLen : (lengthField memory - 24).toNat = (lengthField memory).toNat - 24 :=
    UInt16.toNat_sub_of_le _ _ (UInt16.le_iff_toNat_le.mpr hLength)
  have hData := hRead.data
  rw [hDataLen] at hData
  have hTotal : 24 + packet.data.length = (lengthField memory).toNat := by
    rw [hData, length_slice]
    omega
  have hField : packet.dataLen + 24 = lengthField memory := by
    rw [CommPacket.dataLen, hRead.data, length_slice, UInt16.ofNat_toNat, UInt16.sub_add_cancel]
  have hHeader : packHeader memory packet = slice memory 0 18 :=
    packHeader_eq_slice hSof hVersion hField
      ((and_0xFFFF hSeqNum).trans hRead.seqNum) hRead.cmdId hRead.cmdType hRead.senderType
  have hChecksum : toBytes 2 (crcCalculateCRC16 (slice memory 0 18) 0 true).toNat =
      slice memory 18 2 := by
    rw [← hCrc16]
    exact (congrArg (toBytes · _) length_slice.symm).trans (toBytes_ofBytes _)
  have hDataChecksum : toBytes 4 (crc32Data packet.data).toNat = slice memory 20 4 := by
    rw [hData, ← hCrc32]
    exact (congrArg (toBytes · _) length_slice.symm).trans (toBytes_ofBytes _)
  rw [pack, if_neg (not_not.mpr hRead.protocol.symm), if_neg (by rw [hField, hTotal]; omega)]
  simp only [hHeader, hChecksum, hDataChecksum]
  rw [slice_parts]
  congr 2
  exact hData.trans (congrArg _ (by omega))

/-- A packet written into memory is read back, and nothing is read back which has not
been written like that. -/
theorem packets_round_trip (packet : CommPacket) (memory : Nat → UInt8) (bufSize : Nat) :
    (∀ oBuf oBufSize bytes, pack oBuf oBufSize packet = some bytes →
      packet.data.length + 24 < 2 ^ 16 → slice memory 0 bytes.length = bytes → 24 ≤ bufSize →
        parseCommStream memory bufSize =
          some { packet with version := kSdkVer, seqNum := packet.seqNum &&& 0xFFFF }) ∧
    (parseCommStream memory bufSize = some packet → packet.seqNum.toNat < 2 ^ 16 →
      pack memory (24 + packet.data.length) packet =
        some (slice memory 0 (24 + packet.data.length))) := by
  refine ⟨fun oBuf oBufSize bytes hPack hLength hMemory hSize => ?_, pack_of_parseCommStream⟩
  exact parseCommStream_of_lies (lies_of_pack hPack hMemory) hLength hSize
    (protocol_of_pack hPack)

/-- A query of the lidar's work mode. -/
def query : CommPacket := ⟨kLidarSdk, 3, 5, 0x0101, 0, 0, [1, 0, 0, 0, 0x1A, 0], by decide⟩

def queryBytes : List UInt8 :=
  [170, 0, 30, 0, 5, 0, 0, 0, 1, 1, 0, 0, 0, 0, 0, 0, 0, 0, 209, 166, 221, 136, 179, 202, 1, 0, 0,
    0, 26, 0]

theorem query_packed : pack (fun _ => 0) 1400 query = some queryBytes := by decide +kernel

theorem packets_round_trip_query :
    parseCommStream (queryBytes.getD · 0) 30 =
      some { query with version := kSdkVer, seqNum := query.seqNum &&& 0xFFFF } ∧
    pack (queryBytes.getD · 0) 30 { query with version := kSdkVer } = some queryBytes := by
  have hParsed := (packets_round_trip query (queryBytes.getD · 0) 30).1 _ _ _ query_packed
    (by decide) (by decide) (by decide)
  exact ⟨hParsed, (packets_round_trip { query with version := kSdkVer } _ 30).2 hParsed
    (by decide)⟩

end RoundTrip

section Changes

variable {oBuf memory memory' : Nat → UInt8} {oBufSize bufSize k n : Nat} {packet : CommPacket}
  {bytes : List UInt8}

/-- The changed bytes lie together in one of the four parts of a packet. -/
inductive Together (k n : Nat) : Prop where
  | header (hEnd : k + n ≤ 18) (hShort : n ≤ 2)
  | crc16 (hStart : 18 ≤ k) (hEnd : k + n ≤ 20)
  | crc32 (hStart : 20 ≤ k) (hEnd : k + n ≤ 24)
  | data (hStart : 24 ≤ k) (hShort : n ≤ 4)

theorem slice_around {total : Nat} (h : k + n ≤ total) (offset : Nat) :
    slice memory offset total = slice memory offset k ++ slice memory (offset + k) n ++
      slice memory (offset + k + n) (total - (k + n)) := by
  rw [← slice_add, Nat.add_assoc offset, ← slice_add, Nat.add_sub_cancel' h]

theorem length_of_pack (h : pack oBuf oBufSize packet = some bytes) :
    bytes.length = 24 + packet.data.length := by
  unfold pack at h
  split at h
  · cases h
  · split at h
    · cases h
    · cases h
      simp only [List.length_append, length_packHeader, length_toBytes]

/-- What one checksum covers is the same if the checksum is and the change is short. -/
theorem header_eq (hEnd : k + n ≤ 18) (hShort : n ≤ 2)
    (hOutside : ∀ i < 18, i < k ∨ k + n ≤ i → memory' i = memory i)
    (h : crcCalculateCRC16 (slice memory' 0 18) 0 true =
      crcCalculateCRC16 (slice memory 0 18) 0 true) : slice memory' 0 18 = slice memory 0 18 := by
  have hBefore : slice memory' 0 k = slice memory 0 k :=
    slice_congr fun i _ hi => hOutside i (by omega) (.inl (by omega))
  have hAfter : slice memory' (0 + k + n) (18 - (k + n)) =
      slice memory (0 + k + n) (18 - (k + n)) :=
    slice_congr fun i hi hi' => hOutside i (by omega) (.inr (by omega))
  rw [slice_around hEnd, @slice_around memory _ _ _ hEnd, hBefore, hAfter] at h ⊢
  rw [eq_of_crc16_eq (by rw [length_slice, length_slice]) (by rwa [length_slice]) h]

theorem data_eq {length : Nat} (hStart : 24 ≤ k) (hEnd : k + n ≤ 24 + length) (hShort : n ≤ 4)
    (hOutside : ∀ i < 24 + length, i < k ∨ k + n ≤ i → memory' i = memory i)
    (h : crc32Data (slice memory' 24 length) = crc32Data (slice memory 24 length)) :
    slice memory' 24 length = slice memory 24 length := by
  by_cases hLength : length = 0
  · rw [hLength]
    rfl
  · have hInside : k - 24 + n ≤ length := by omega
    have hBefore : slice memory' 24 (k - 24) = slice memory 24 (k - 24) :=
      slice_congr fun i _ hi => hOutside i (by omega) (.inl (by omega))
    have hAfter : slice memory' (24 + (k - 24) + n) (length - (k - 24 + n)) =
        slice memory (24 + (k - 24) + n) (length - (k - 24 + n)) :=
      slice_congr fun i hi hi' => hOutside i (by omega) (.inr (by omega))
    rw [crc32Data, crc32Data, length_slice, length_slice, if_neg hLength, if_neg hLength] at h
    rw [slice_around hInside, @slice_around memory _ _ _ hInside, hBefore, hAfter] at h ⊢
    rw [eq_of_crc32_eq (by rw [length_slice, length_slice]) (by rwa [length_slice]) h]

/-- A packet is not accepted if bytes of it which lie together have changed. -/
theorem changes_rejected (hPack : pack oBuf oBufSize packet = some bytes)
    (hLength : packet.data.length + 24 < 2 ^ 16) (hMemory : slice memory 0 bytes.length = bytes)
    (hTogether : Together k n) (hInside : k + n ≤ bytes.length)
    (hOutside : ∀ i < bytes.length, i < k ∨ k + n ≤ i → memory' i = memory i)
    (hChanged : slice memory' 0 bytes.length ≠ bytes) :
    parseCommStream memory' bufSize = none := by
  have hLies := lies_of_pack hPack hMemory
  rw [length_of_pack hPack] at hMemory hInside hOutside hChanged
  cases hParse : parseCommStream memory' bufSize with
  | none => rfl
  | some other =>
      obtain ⟨-, -, -, hCrc16, hCrc32⟩ := checkPreamble_eq_true (parseCommStream_eq_some hParse).1
      have hField : slice memory' 0 18 = slice memory 0 18 →
          (lengthField memory').toNat - 24 = packet.data.length := by
        intro hHeader
        have hTwo : slice memory' 2 2 = slice memory 2 2 := by
          have hParts : ∀ buf : Nat → UInt8, slice buf 2 2 = ((slice buf 0 18).drop 2).take 2 :=
            fun buf => by simp [slice, List.range_succ]
          rw [hParts, hParts, hHeader]
        rw [lengthField, hTwo, ← lengthField, hLies.length, CommPacket.dataLen, UInt16.toNat_add,
          UInt16.toNat_ofNat']
        simp only [UInt16.reduceToNat]
        omega
      have hPart : ∀ offset m, offset + m ≤ 24 + packet.data.length →
          offset + m ≤ k ∨ k + n ≤ offset → slice memory' offset m = slice memory offset m :=
        fun offset m hEnd hApart => slice_congr fun i hi hi' => hOutside i (by omega) (by omega)
      refine absurd ?_ hChanged
      rw [← hMemory, slice_parts, @slice_parts memory]
      cases hTogether with
      | header hEnd hShort =>
          rw [hPart 18 2 (by omega) (by omega), hLies.crc16] at hCrc16
          rw [header_eq hEnd hShort (fun i hi => hOutside i (by omega))
            (BitVec.toNat_inj.mp hCrc16).symm, hPart 18 2 (by omega) (by omega),
            hPart 20 4 (by omega) (by omega), hPart 24 _ (by omega) (by omega)]
      | crc16 hStart hEnd =>
          have hHeader := hPart 0 18 (by omega) (by omega)
          rw [hHeader, ← hLies.crc16] at hCrc16
          rw [hHeader, ofBytes_injective (by rw [length_slice, length_slice]) hCrc16,
            hPart 20 4 (by omega) (by omega), hPart 24 _ (by omega) (by omega)]
      | crc32 hStart hEnd =>
          have hHeader := hPart 0 18 (by omega) (by omega)
          have hData := hPart 24 packet.data.length (by omega) (by omega)
          rw [hField hHeader, hData, hLies.data, ← hLies.crc32] at hCrc32
          rw [hHeader, hPart 18 2 (by omega) (by omega),
            ofBytes_injective (by rw [length_slice, length_slice]) hCrc32, hData]
      | data hStart hShort =>
          have hHeader := hPart 0 18 (by omega) (by omega)
          rw [hField hHeader, hPart 20 4 (by omega) (by omega), hLies.crc32] at hCrc32
          have hSum : crc32Data (slice memory' 24 packet.data.length) =
              crc32Data (slice memory 24 packet.data.length) := by
            rw [hLies.data]
            exact (BitVec.toNat_inj.mp hCrc32).symm
          rw [hHeader, hPart 18 2 (by omega) (by omega), hPart 20 4 (by omega) (by omega),
            data_eq hStart hInside hShort hOutside hSum]

theorem changes_rejected_query :
    parseCommStream (fun i => if i = 28 then 27 else queryBytes.getD i 0) 30 = none :=
  changes_rejected (k := 28) (n := 1) query_packed (by decide) (by decide) (.data (by decide)
    (by decide)) (by decide) (fun i _ hi => if_neg (by omega)) (by decide)

end Changes

end Mandeye.SdkProtocol
