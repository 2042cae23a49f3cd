import Signalweave.Library.Framing
import Signalweave.Library.Transition
import Signalweave.Protocol.Codec

/-!
# Receiving in the TypeScript client (`client.ts`, `codec.ts`)

A call of `recv` reads chunks of the control stream until there is an envelope to return. A call of
`recvTimeout` races such a call against a timer. When the timer fires first the application has its
answer, but the call of `recv` goes on: its read is pending, and with it the lock of the stream.
-/

namespace Signalweave.Client

open Protocol

variable {Envelope : Type}

/-! ## Frames (`codec.ts`) -/

/-- `FILE_IDENTIFIER` -/
def fileIdentifier : List UInt8 := [87, 86, 78, 49]

/-- `EnvelopeCodec.decode`. What the FlatBuffers library reads of a frame is a parameter. -/
def decode (read : List UInt8 → Except String Envelope) (frame : List UInt8) :
    Except CodecError Envelope :=
  let encodedLen := CodecLimits.littleEndian (frame.take 4)
  if frame.length < 12 then .error (.truncatedFrame 12 frame.length)
  else if encodedLen < 8 then .error (.invalidSizePrefix encodedLen)
  else if encodedLen ≠ frame.length - 4 then .error (.truncatedFrame (encodedLen + 4) frame.length)
  else if (frame.drop 8).take 4 ≠ fileIdentifier then .error .invalidFileIdentifier
  else
    match read frame with
    | .error error => .error (.invalidFlatbuffer error)
    | .ok envelope => .ok envelope

/-- `EnvelopeCodec.decodeStream`: the first envelope of what has come, and how long its frame is. -/
def decodeStream (read : List UInt8 → Except String Envelope) (acc : List UInt8) :
    Except CodecError (Option (Envelope × Nat)) :=
  let encodedLen := CodecLimits.littleEndian (acc.take 4)
  if acc.length < 4 then .ok none
  else if encodedLen < 8 then .error (.invalidSizePrefix encodedLen)
  else if acc.length < encodedLen + 4 then .ok none
  else
    match decode read (acc.take (encodedLen + 4)) with
    | .error error => .error error
    | .ok envelope => .ok (some (envelope, encodedLen + 4))

/-- `concat`: both arrays are set at the beginning of an array of their common length. -/
def concat (a b : List UInt8) : List UInt8 :=
  let out := a ++ List.replicate b.length 0
  b ++ out.drop b.length

/-! ## The client and its stream -/

/-- A call of `recv` that holds the lock of the stream: one of the application, one that
`recvTimeout` races against its timer, or one whose timer has fired. -/
inductive Waiting where
  | recv
  | recvTimeout
  | abandoned
  deriving DecidableEq

/-- What a call may throw. -/
inductive ReceiveError where
  /-- What the codec throws. -/
  | codec (error : CodecError)
  /-- The `WovenError` of a stream that has ended. -/
  | closed (message : String)
  /-- The `TypeError` of `getReader` on a stream that is locked. -/
  | locked
  deriving DecidableEq

/-- How a call ends. -/
inductive Outcome (Envelope : Type) where
  | returned (envelope : Envelope)
  /-- `recvTimeout` returns `null`. -/
  | timedOut
  | threw (error : ReceiveError)
  deriving DecidableEq

/-- The client with its stream, as far as receiving goes. -/
structure WovenClient (Envelope : Type) where
  inBuffer : List UInt8 := []
  pending : List Envelope := []
  closed : Bool := false
  /-- The chunks that wait in the stream. -/
  queue : List (List UInt8) := []
  ended : Bool := false
  /-- The call whose read is pending. -/
  reading : Option Waiting := none
  deriving DecidableEq

namespace WovenClient

variable (read : List UInt8 → Except String Envelope)

/-- `drainBuffer`, with what it throws. -/
def drainBuffer (client : WovenClient Envelope) : WovenClient Envelope × Option CodecError :=
  let (envelopes, rest, error) :=
    Framing.drain (decodeStream read) client.inBuffer.length client.inBuffer
  ({ client with pending := client.pending ++ envelopes, inBuffer := rest }, error)

/-- What `recv` does with a chunk that it has read, with what it throws. -/
def takeChunk (client : WovenClient Envelope) (chunk : List UInt8) :
    WovenClient Envelope × Option ReceiveError :=
  let (client, error) := drainBuffer read { client with inBuffer := concat client.inBuffer chunk }
  match error with
  | some error => (client, some (.codec error))
  | none =>
    if client.pending.isEmpty && client.inBuffer.isEmpty && !client.closed then
      (client, some (.closed "connection closed by server"))
    else (client, none)

/-- The loop of `recv` where the lock of the stream is free. The first argument is the queue of the
stream. There is no outcome where the call has to wait for a chunk. -/
def receive (waiting : Waiting) :
    List (List UInt8) → WovenClient Envelope → WovenClient Envelope × Option (Outcome Envelope)
  | queue, client =>
    match client.pending with
    | envelope :: pending => ({ client with pending, queue }, some (.returned envelope))
    | [] =>
      if client.closed then ({ client with queue }, some (.threw (.closed "connection closed")))
      else
        match queue with
        | [] =>
          if client.ended then
            ({ client with closed := true, queue := [] },
              some (.threw (.closed "control stream ended")))
          else ({ client with queue := [], reading := some waiting }, none)
        | chunk :: queue =>
          match takeChunk read client chunk with
          | (client, some error) => ({ client with queue }, some (.threw error))
          | (client, none) => receive waiting queue client

/-- What a call comes to whose read is fulfilled. -/
def resume (waiting : Waiting) (bytes : List UInt8) (client : WovenClient Envelope) :
    WovenClient Envelope × Option (Outcome Envelope) :=
  match takeChunk read { client with reading := none } bytes with
  | (client, some error) => (client, some (.threw error))
  | (client, none) => receive read waiting client.queue client

end WovenClient

/-! ## Runs -/

/-- What happens to a client: the application calls, the timer of its call fires, the stream gets a
chunk or comes to its end. -/
inductive ReceiveInput where
  | recv
  | recvTimeout
  | timeout
  | chunk (bytes : List UInt8)
  | ended
  deriving DecidableEq

/-- A client, what its calls have come to, and what its stream has carried. -/
structure Receiving (Envelope : Type) where
  client : WovenClient Envelope := {}
  outcomes : List (Outcome Envelope) := []
  arrived : List UInt8 := []
  deriving DecidableEq

namespace Receiving

variable (read : List UInt8 → Except String Envelope)

/-- A call of the application, `waiting` where it comes to wait. `getReader` throws where the lock
is held, after `recv` has looked at what is pending. -/
def call (waiting : Waiting) (state : Receiving Envelope) : Receiving Envelope :=
  match state.client.reading with
  | some .abandoned =>
    match state.client.pending with
    | envelope :: pending =>
      { state with
        client := { state.client with pending }
        outcomes := state.outcomes ++ [.returned envelope] }
    | [] =>
      if state.client.closed then
        { state with outcomes := state.outcomes ++ [.threw (.closed "connection closed")] }
      else { state with outcomes := state.outcomes ++ [.threw .locked] }
  | some _ => state
  | none =>
    let (client, outcome) := state.client.receive read waiting state.client.queue
    { state with client, outcomes := state.outcomes ++ outcome.toList }

/-- A chunk comes for the call that reads. What a call comes to whose timer has fired is seen by no
one. -/
def fulfill (waiting : Waiting) (bytes : List UInt8) (state : Receiving Envelope) :
    Receiving Envelope :=
  let (client, outcome) := state.client.resume read waiting bytes
  { client
    outcomes :=
      match waiting with
      | .abandoned => state.outcomes
      | _ => state.outcomes ++ outcome.toList
    arrived := state.arrived ++ bytes }

/-- A call of the application, the end of its wait, or a chunk that comes in. -/
def step (state : Receiving Envelope) : ReceiveInput → Receiving Envelope
  | .recv => state.call read .recv
  | .recvTimeout => state.call read .recvTimeout
  | .timeout =>
    match state.client.reading with
    | some .recvTimeout =>
      { state with
        client := { state.client with reading := some .abandoned }
        outcomes := state.outcomes ++ [.timedOut] }
    | _ => state
  | .chunk bytes =>
    if state.client.ended then state
    else
      match state.client.reading with
      | none =>
        { state with
          client := { state.client with queue := state.client.queue ++ [bytes] }
          arrived := state.arrived ++ bytes }
      | some waiting => state.fulfill read waiting bytes
  | .ended =>
    match state.client.reading with
    | none => { state with client := { state.client with ended := true } }
    | some waiting =>
      { state with
        client := { state.client with ended := true, closed := true, reading := none }
        outcomes :=
          match waiting with
          | .abandoned => state.outcomes
          | _ => state.outcomes ++ [.threw (.closed "control stream ended")] }

end Receiving

/-! ## What is cut from the stream -/

section Stream

variable {read : List UInt8 → Except String Envelope}

/-- Only an answer that there is no frame yet depends on what is to come. -/
theorem decodeStream_append {acc : List UInt8} (h : decodeStream read acc ≠ .ok none)
    (more : List UInt8) : decodeStream read (acc ++ more) = decodeStream read acc := by
  unfold decodeStream at h ⊢
  by_cases hlen : acc.length < 4
  · simp [hlen] at h
  · have htake : (acc ++ more).take 4 = acc.take 4 :=
      List.take_append_of_le_length (Nat.le_of_not_lt hlen)
    have hlonger : ¬ (acc ++ more).length < 4 := by
      rw [List.length_append]
      omega
    simp only [htake, hlen, hlonger, if_false] at h ⊢
    by_cases hmin : CodecLimits.littleEndian (acc.take 4) < 8
    · simp only [hmin, if_true]
    · by_cases hframe : acc.length < CodecLimits.littleEndian (acc.take 4) + 4
      · simp [hmin, hframe] at h
      · have hwhole : ¬ (acc ++ more).length < CodecLimits.littleEndian (acc.take 4) + 4 := by
          rw [List.length_append]
          omega
        have hsame : (acc ++ more).take (CodecLimits.littleEndian (acc.take 4) + 4) =
            acc.take (CodecLimits.littleEndian (acc.take 4) + 4) :=
          List.take_append_of_le_length (Nat.le_of_not_lt hframe)
        simp only [hmin, hframe, hwhole, if_false, hsame]

theorem decodeStream_eq_some {acc : List UInt8} {envelope : Envelope} {n : Nat}
    (h : decodeStream read acc = .ok (some (envelope, n))) : 0 < n ∧ n ≤ acc.length := by
  unfold decodeStream at h
  by_cases hlen : acc.length < 4
  · simp [hlen] at h
  · by_cases hmin : CodecLimits.littleEndian (acc.take 4) < 8
    · simp [hlen, hmin] at h
    · by_cases hframe : acc.length < CodecLimits.littleEndian (acc.take 4) + 4
      · simp [hlen, hmin, hframe] at h
      · simp only [hlen, hmin, hframe, if_false] at h
        split at h
        · cases h
        · cases h
          omega

theorem lawful_decodeStream : Framing.Lawful (decodeStream read) where
  nil := rfl
  error_append := by
    intro acc more error h
    rw [decodeStream_append (by simp [h]), h]
  some_append := by
    intro acc more envelope n h
    rw [decodeStream_append (by simp [h]), h]
  length := by
    intro acc envelope n h
    exact decodeStream_eq_some h

/-- A frame that the codec decodes is the first of a stream that it begins. -/
theorem decodeStream_of_decode {frame : List UInt8} {envelope : Envelope}
    (h : decode read frame = .ok envelope) :
    decodeStream read frame = .ok (some (envelope, frame.length)) := by
  have hdecode := h
  unfold decode at hdecode
  by_cases hlen : frame.length < 12
  · simp [hlen] at hdecode
  · by_cases hmin : CodecLimits.littleEndian (frame.take 4) < 8
    · simp [hlen, hmin] at hdecode
    · by_cases hexact : CodecLimits.littleEndian (frame.take 4) = frame.length - 4
      · have hwhole : CodecLimits.littleEndian (frame.take 4) + 4 = frame.length := by omega
        have hshort : ¬ frame.length < 4 := by omega
        unfold decodeStream
        simp [hshort, hmin, hwhole, h]
      · simp [hlen, hmin, hexact] at hdecode

end Stream

/-! ## Joining chunks -/

/-- The chunk may follow the bytes of an unfinished frame: there are none, or the chunk is a run of
zeros and the bytes begin with as many. -/
def Joins (buffer chunk : List UInt8) : Prop :=
  buffer = [] ∨ ∃ n, chunk = List.replicate n 0 ∧ (buffer ++ chunk).take n = List.replicate n 0

theorem replicate_of_shifts {a b : List UInt8} (ha : a ≠ [])
    (htake : (a ++ b).take b.length = b)
    (hdrop : (a ++ b).drop b.length = (a ++ List.replicate b.length 0).drop b.length) :
    b = List.replicate b.length 0 := by
  have hpos : 0 < a.length := List.length_pos_iff.mpr ha
  -- a byte of `b` is zero, or the one a length of `a` further on, by induction from the end
  have hzero : ∀ k i, i < b.length → b.length - i ≤ k → b[i]? = some 0 := by
    intro k
    induction k with
    | zero => intro i hi hk; omega
    | succ k ih =>
      intro i hi hk
      have hat : (a ++ b)[a.length + i]? = b[i]? := by
        rw [List.getElem?_append_right (by omega), Nat.add_sub_cancel_left]
      by_cases hnear : a.length + i < b.length
      · have hlater := ih (a.length + i) hnear (by omega)
        rw [← hat, ← List.getElem?_take_of_lt hnear, htake]
        exact hlater
      · have hfar : ((a ++ b).drop b.length)[a.length + i - b.length]? =
            (a ++ b)[a.length + i]? := by
          rw [List.getElem?_drop]
          congr 1
          omega
        rw [← hat, ← hfar, hdrop, List.getElem?_drop, List.getElem?_append_right (by omega),
          List.getElem?_replicate]
        simp
        omega
  refine List.ext_getElem? fun i => ?_
  by_cases hi : i < b.length
  · rw [hzero _ i hi (Nat.le_refl _), List.getElem?_replicate, if_pos hi]
  · rw [List.getElem?_eq_none (by omega), List.getElem?_eq_none (by simpa using hi)]

/-- `concat` joins two arrays in these cases only. -/
theorem concat_eq_append_iff {a b : List UInt8} : concat a b = a ++ b ↔ Joins a b := by
  unfold concat Joins
  constructor
  · intro h
    by_cases ha : a = []
    · exact .inl ha
    · have htake : (a ++ b).take b.length = b := by rw [← h, List.take_left]
      have hdrop : (a ++ b).drop b.length = (a ++ List.replicate b.length 0).drop b.length := by
        rw [← h, List.drop_left]
      have hzeros := replicate_of_shifts ha htake hdrop
      exact .inr ⟨b.length, hzeros, htake.trans hzeros⟩
  · rintro (rfl | ⟨n, rfl, htake⟩)
    · simp
    · rw [List.length_replicate]
      calc List.replicate n 0 ++ (a ++ List.replicate n 0).drop n
          = (a ++ List.replicate n 0).take n ++ (a ++ List.replicate n 0).drop n := by rw [htake]
        _ = a ++ List.replicate n 0 := List.take_append_drop ..

end Signalweave.Client
