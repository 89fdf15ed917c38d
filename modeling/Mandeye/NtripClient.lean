import Mathlib.Data.List.Infix

/-! The client which fetches correction data from a caster. The header of the
answer and the stream after it are read into one buffer, which outlives the
connections. -/
namespace Mandeye

/-- What the client is waiting for. -/
inductive Awaiting where
  | connection
  | headers
  | stream
  deriving DecidableEq

/-- The client with its buffer, and what it has passed to the callback since the
connection was made, one list for each call. -/
structure NtripClient where
  response : List UInt8
  headerParsed : Bool
  awaiting : Awaiting
  callbacks : List (List UInt8)

/-- A connection is resolved, made and asked for the stream; bytes arrive on it;
an operation fails or the watchdog runs out. -/
inductive NtripEvent where
  | connected
  | bytes (data : List UInt8)
  | failed

namespace NtripClient

def started : NtripClient := ⟨[], false, .connection, []⟩

/-- The empty line at the end of a header. -/
def delimiter : List UInt8 := [13, 10, 13, 10]

/-- The stream is read from here on. -/
def readStream (client : NtripClient) : NtripClient := { client with awaiting := .stream }

/-- The read ends as soon as the delimiter is in the buffer, at once if it is
there already. Nothing is taken out of the buffer. -/
def readHeaders (client : NtripClient) : NtripClient :=
  if delimiter <:+: client.response then readStream { client with headerParsed := true }
  else { client with awaiting := .headers }

/-- The connection is given up. What is in the buffer stays there. -/
def scheduleReconnect (client : NtripClient) : NtripClient :=
  { client with awaiting := .connection }

/-- As many bytes as were read are taken from the front of the buffer. -/
def receiveStream (data : List UInt8) (client : NtripClient) : NtripClient :=
  let response := client.response ++ data
  readStream { client with
    response := response.drop data.length
    callbacks := client.callbacks ++ [response.take data.length] }

/-- A read gives at least one byte. What was passed on before belongs to the old
connection. -/
def next (client : NtripClient) : NtripEvent → Option NtripClient
  | .connected =>
      if client.awaiting = .connection then some (readHeaders { client with callbacks := [] })
      else none
  | .bytes data =>
      if data = [] then none
      else match client.awaiting with
        | .connection => none
        | .headers => some (readHeaders { client with response := client.response ++ data })
        | .stream => some (client.receiveStream data)
  | .failed => some client.scheduleReconnect

/-- The client after these events, if all of them are possible. -/
def run (client : NtripClient) : List NtripEvent → Option NtripClient
  | [] => some client
  | event :: rest => (client.next event).bind fun next => run next rest

/-- The events of a connection on which the given reads are made. -/
def connection (reads : List (List UInt8)) : List NtripEvent :=
  .connected :: reads.map .bytes

/-- What the callback got since the connection was made. -/
def passed (client : NtripClient) : List UInt8 := client.callbacks.flatten

/-- The bytes which arrive after the header was read, if `response` is in the
buffer before the reads. -/
def streamed (response : List UInt8) : List (List UInt8) → Nat
  | [] => 0
  | data :: rest =>
      if delimiter <:+: response ++ data then rest.flatten.length
      else streamed (response ++ data) rest

section Reads

variable {client after : NtripClient} {reads : List (List UInt8)}

theorem next_bytes {data : List UInt8} (h : client.next (.bytes data) = some after) :
    data ≠ [] ∧
      (client.awaiting = .headers ∧
        after = readHeaders { client with response := client.response ++ data } ∨
      client.awaiting = .stream ∧ after = client.receiveStream data) := by
  simp only [next] at h
  split_ifs at h with hEmpty
  split at h
  · cases h
  · rename_i hHeaders
    cases h
    exact ⟨hEmpty, .inl ⟨hHeaders, rfl⟩⟩
  · rename_i hStream
    cases h
    exact ⟨hEmpty, .inr ⟨hStream, rfl⟩⟩

theorem readHeaders_passed : client.readHeaders.passed = client.passed := by
  unfold readHeaders
  split_ifs <;> rfl

theorem readHeaders_response : client.readHeaders.response = client.response := by
  unfold readHeaders
  split_ifs <;> rfl

theorem receiveStream_passed (data : List UInt8) :
    (client.receiveStream data).passed =
      client.passed ++ (client.response ++ data).take data.length := by
  simp [receiveStream, readStream, passed]

/-- The buffer is a queue: what was passed on and what is left are what was
there and what was read. -/
theorem run_reads (h : client.run (reads.map .bytes) = some after) :
    after.passed ++ after.response = client.passed ++ client.response ++ reads.flatten := by
  induction reads generalizing client with
  | nil =>
      cases h
      simp
  | cons data rest ih =>
      obtain ⟨middle, hNext, hRest⟩ := Option.bind_eq_some_iff.mp h
      rw [ih hRest, List.flatten_cons]
      obtain ⟨-, ⟨-, rfl⟩ | ⟨-, rfl⟩⟩ := next_bytes hNext
      · rw [readHeaders_passed, readHeaders_response]
        simp [passed]
      · rw [receiveStream_passed]
        simp [receiveStream, readStream, List.append_assoc]

theorem run_nonempty (h : client.run (reads.map .bytes) = some after) :
    ∀ data ∈ reads, data ≠ [] := by
  induction reads generalizing client with
  | nil => simp
  | cons data rest ih =>
      obtain ⟨middle, hNext, hRest⟩ := Option.bind_eq_some_iff.mp h
      exact List.forall_mem_cons.mpr ⟨(next_bytes hNext).1, ih hRest⟩

/-- In the stream each read is passed on with its length. -/
theorem length_stream (hStream : client.awaiting = .stream)
    (h : client.run (reads.map .bytes) = some after) :
    after.passed.length = client.passed.length + reads.flatten.length := by
  induction reads generalizing client with
  | nil =>
      cases h
      simp
  | cons data rest ih =>
      obtain ⟨middle, hNext, hRest⟩ := Option.bind_eq_some_iff.mp h
      obtain ⟨-, ⟨hHeaders, -⟩ | ⟨-, rfl⟩⟩ := next_bytes hNext
      · cases hStream.symm.trans hHeaders
      · rw [ih rfl hRest, receiveStream_passed]
        simp
        omega

theorem length_headers (hHeaders : client.awaiting = .headers)
    (h : client.run (reads.map .bytes) = some after) :
    after.passed.length = client.passed.length + streamed client.response reads := by
  induction reads generalizing client with
  | nil =>
      cases h
      simp [streamed]
  | cons data rest ih =>
      obtain ⟨middle, hNext, hRest⟩ := Option.bind_eq_some_iff.mp h
      obtain ⟨-, ⟨-, rfl⟩ | ⟨hStream, -⟩⟩ := next_bytes hNext
      · by_cases hDelimiter : delimiter <:+: client.response ++ data
        · have hMiddle : (readHeaders { client with
              response := client.response ++ data }).awaiting = .stream := by
            simp [readHeaders, hDelimiter, readStream]
          rw [length_stream hMiddle hRest, readHeaders_passed, streamed, if_pos hDelimiter]
          rfl
        · have hMiddle : (readHeaders { client with
              response := client.response ++ data }).awaiting = .headers := by
            simp [readHeaders, hDelimiter]
          rw [ih hMiddle hRest, readHeaders_passed, readHeaders_response, streamed,
            if_neg hDelimiter]
          rfl
      · cases hHeaders.symm.trans hStream

/-- What a connection passes on has the length of the reads after the header, but
is taken from the front of the buffer. -/
theorem connection_passed (h : client.run (connection reads) = some after) :
    after.passed = (client.response ++ reads.flatten).take
      (if delimiter <:+: client.response then reads.flatten.length
        else streamed client.response reads) := by
  obtain ⟨middle, hNext, hRest⟩ := Option.bind_eq_some_iff.mp h
  simp only [next] at hNext
  split_ifs at hNext
  cases hNext
  have hAll := run_reads hRest
  rw [readHeaders_passed, readHeaders_response] at hAll
  have hLength : after.passed.length = if delimiter <:+: client.response then reads.flatten.length
      else streamed client.response reads := by
    by_cases hDelimiter : delimiter <:+: client.response
    · have hStream : (readHeaders { client with callbacks := [] }).awaiting = .stream := by
        simp [readHeaders, hDelimiter, readStream]
      rw [length_stream hStream hRest, readHeaders_passed, if_pos hDelimiter]
      simp [passed]
    · have hHeaders : (readHeaders { client with callbacks := [] }).awaiting = .headers := by
        simp [readHeaders, hDelimiter]
      rw [length_headers hHeaders hRest, readHeaders_passed, readHeaders_response,
        if_neg hDelimiter]
      simp [passed]
  calc after.passed
      = (after.passed ++ after.response).take after.passed.length := by simp
    _ = _ := by
      rw [hAll, hLength]
      simp [passed]

/-- Every split of some bytes can be read, if the client waits for a connection. -/
theorem run_connection (hAwaiting : client.awaiting = .connection)
    (hReads : ∀ data ∈ reads, data ≠ []) : ∃ after, client.run (connection reads) = some after := by
  have hRuns : ∀ (client : NtripClient), client.awaiting ≠ .connection →
      ∃ after, client.run (reads.map .bytes) = some after := by
    induction reads with
    | nil => exact fun client _ => ⟨client, rfl⟩
    | cons data rest ih =>
        intro client hConnected
        obtain ⟨hData, hRest⟩ := List.forall_mem_cons.mp hReads
        have hNext : ∃ middle, client.next (.bytes data) = some middle ∧
            middle.awaiting ≠ .connection := by
          simp only [next, if_neg hData]
          cases hState : client.awaiting with
          | connection => exact absurd hState hConnected
          | headers =>
              refine ⟨_, rfl, ?_⟩
              unfold readHeaders
              split_ifs <;> simp [readStream]
          | stream => exact ⟨_, rfl, by simp [receiveStream, readStream]⟩
        obtain ⟨middle, hMiddle, hState⟩ := hNext
        obtain ⟨after, hAfter⟩ := ih hRest middle hState
        exact ⟨after, Option.bind_eq_some_iff.mpr ⟨middle, hMiddle, hAfter⟩⟩
  obtain ⟨after, hAfter⟩ := hRuns (readHeaders { client with callbacks := [] }) (by
    unfold readHeaders
    split_ifs <;> simp [readStream])
  exact ⟨after, Option.bind_eq_some_iff.mpr ⟨_, if_pos hAwaiting, hAfter⟩⟩

theorem streamed_eq_zero {response : List UInt8} (hReads : ∀ data ∈ reads, data ≠ [])
    (h : ¬delimiter <:+: response ++ reads.flatten.dropLast) : streamed response reads = 0 := by
  induction reads generalizing response with
  | nil => rfl
  | cons data rest ih =>
      obtain ⟨-, hRest⟩ := List.forall_mem_cons.mp hReads
      cases rest with
      | nil => simp [streamed]
      | cons second others =>
          have hSecond : (second :: others).flatten ≠ [] := by
            simp [hRest second List.mem_cons_self]
          rw [List.flatten_cons, List.dropLast_append_of_ne_nil hSecond,
            ← List.append_assoc] at h
          rw [streamed, if_neg fun hHere => h (hHere.trans (List.prefix_append _ _).isInfix)]
          exact ih hRest h

theorem connection_starts (h : client.run (connection reads) = some after) :
    client.awaiting = .connection ∧ ∀ data ∈ reads, data ≠ [] := by
  obtain ⟨middle, hNext, hRest⟩ := Option.bind_eq_some_iff.mp h
  simp only [next] at hNext
  split_ifs at hNext with hAwaiting
  exact ⟨hAwaiting, run_nonempty hRest⟩

theorem passed_nothing (h : client.run (connection reads) = some after)
    (hHeader : ¬delimiter <:+: client.response ++ reads.flatten.dropLast) : after.passed = [] := by
  have hEarlier : ¬delimiter <:+: client.response := fun hHere =>
    hHeader (hHere.trans (List.prefix_append _ _).isInfix)
  rw [connection_passed h, if_neg hEarlier,
    streamed_eq_zero (connection_starts h).2 hHeader, List.take_zero]

/-- Once something was read after the empty line, it depends on the split. -/
theorem splits_differ (hAwaiting : client.awaiting = .connection) {bytes : List UInt8}
    (hEarlier : ¬delimiter <:+: client.response)
    (hHeader : delimiter <:+: client.response ++ bytes.dropLast) :
    ∃ first second after after', first.flatten = bytes ∧ second.flatten = bytes ∧
      client.run (connection first) = some after ∧ client.run (connection second) = some after' ∧
      after.passed ≠ after'.passed := by
  have hInit : bytes.dropLast ≠ [] := by
    intro hEmpty
    rw [hEmpty, List.append_nil] at hHeader
    exact hEarlier hHeader
  have hBytes : bytes ≠ [] := by
    rintro rfl
    exact hInit rfl
  have hWhole : ∀ data ∈ [bytes], data ≠ [] := by simpa using hBytes
  have hSplit : ∀ data ∈ [bytes.dropLast, [bytes.getLast hBytes]], data ≠ [] := by
    simpa using hInit
  obtain ⟨after, hRun⟩ := run_connection hAwaiting hWhole
  obtain ⟨after', hRun'⟩ := run_connection hAwaiting hSplit
  refine ⟨_, _, after, after', by simp, ?_, hRun, hRun', ?_⟩
  · simp [List.dropLast_append_getLast]
  · rw [connection_passed hRun, connection_passed hRun', if_neg hEarlier, if_neg hEarlier]
    simp [streamed, hHeader]

end Reads

/-- A header ends with the first empty line. -/
def IsHeader (header : List UInt8) : Prop :=
  delimiter <:+ header ∧ ¬delimiter <:+: header.dropLast

/-- On a connection after any others, the callback gets a prefix of the body, all
of it at the end, and the same from every split, if and only if nothing is read
after the first empty line and the body is empty at the end, or an empty line was
left over by earlier connections and what lies in the buffer happens to repeat
the body. -/
theorem body_passed_iff {header body : List UInt8} (hHeader : IsHeader header) :
    ∀ history client, started.run history = some client →
    ∀ reads after, client.run (connection reads) = some after →
    reads.flatten <+: header ++ body →
    ((after.passed <+: body ∧ (reads.flatten = header ++ body → after.passed = body) ∧
      ∀ others after', client.run (connection others) = some after' →
        others.flatten = reads.flatten → after'.passed = after.passed) ↔
    (¬delimiter <:+: client.response ++ reads.flatten.dropLast ∧
      (reads.flatten = header ++ body → body = []) ∨
    delimiter <:+: client.response ∧ reads.flatten ≠ header ++ body ∧
      (client.response ++ reads.flatten).take reads.flatten.length <+: body)) := by
  intro history client _ reads after hRun _
  obtain ⟨hAwaiting, hReads⟩ := connection_starts hRun
  constructor
  · rintro ⟨hPrefix, hAll, hSplits⟩
    by_cases hEarlier : delimiter <:+: client.response
    · apply Or.inr
      have hPassed := connection_passed hRun
      rw [if_pos hEarlier] at hPassed
      refine ⟨hEarlier, fun hComplete => ?_, hPassed ▸ hPrefix⟩
      have hLength := congrArg List.length ((hAll hComplete).symm.trans hPassed)
      have hNonempty : 4 ≤ header.length := hHeader.1.length_le
      rw [hComplete, List.length_take, Nat.min_eq_left (by simp), List.length_append] at hLength
      omega
    · apply Or.inl
      have hNothing : ¬delimiter <:+: client.response ++ reads.flatten.dropLast := by
        intro hHere
        obtain ⟨first, second, a, b, hFirst, hSecond, hRunFirst, hRunSecond, hDiffer⟩ :=
          splits_differ hAwaiting hEarlier hHere
        exact hDiffer ((hSplits first a hRunFirst hFirst).trans
          (hSplits second b hRunSecond hSecond).symm)
      refine ⟨hNothing, fun hComplete => ?_⟩
      rw [← hAll hComplete, passed_nothing hRun hNothing]
  · rintro (⟨hNothing, hEnd⟩ | ⟨hEarlier, hUnfinished, hPrefix⟩)
    · rw [passed_nothing hRun hNothing]
      refine ⟨List.nil_prefix, fun hComplete => (hEnd hComplete).symm, ?_⟩
      intro others after' hOthers hSame
      exact passed_nothing hOthers (hSame ▸ hNothing)
    · have hPassed := connection_passed hRun
      rw [if_pos hEarlier] at hPassed
      refine ⟨hPassed ▸ hPrefix, fun hComplete => absurd hComplete hUnfinished, ?_⟩
      intro others after' hOthers hSame
      rw [hPassed, connection_passed hOthers, if_pos hEarlier, hSame]

/-- `ICY 200 OK` and the empty line. -/
def plainHeader : List UInt8 := [73, 67, 89, 32, 50, 48, 48, 32, 79, 75, 13, 10, 13, 10]

def correction : List UInt8 := [211, 0, 1, 7]

/-- The first connection fails in the header, on the second one the header has
been read. -/
theorem body_passed_iff_header :
    ∃ client after, started.run [.connected, .bytes [73, 67, 89], .failed] = some client ∧
      client.run (connection [plainHeader]) = some after ∧ after.passed <+: correction := by
  have hHeader : IsHeader plainHeader := by
    constructor <;> decide
  have hHistory : started.run [.connected, .bytes [73, 67, 89], .failed] = some _ := rfl
  refine ⟨_, _, hHistory, rfl, ?_⟩
  apply ((body_passed_iff hHeader _ _ hHistory [plainHeader] _ rfl (by decide)).mpr _).1
  exact .inl ⟨by decide, by decide⟩

/-- On the first connection the header arrives in one read and the body in the
next one. The callback gets the beginning of the header. -/
theorem header_passed :
    ∃ after, started.run (connection [plainHeader, correction]) = some after ∧
      after.passed = [73, 67, 89, 32] ∧ ¬after.passed <+: correction := by
  refine ⟨_, rfl, ?_, ?_⟩ <;> decide

end NtripClient

end Mandeye
