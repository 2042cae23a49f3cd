import Signalweave.Library.Transition
import Signalweave.Protocol.Codec

/-!
# Reading the control stream (`woven-transport-quic`, `woven-client-rust`)

`read_envelope` reads the prefix of a frame and then the rest of it. The loop around it makes a new
read in every round and drops the one it has made when another branch is ready first, and so does
a receive with a timeout. The bytes that a dropped read has taken from the stream are gone.
-/

namespace Signalweave.Transport

open Protocol

variable {α : Type}

/-- The stream, the read in progress, and what the reads before it have returned, each envelope
with the frame it was decoded from. A failure ends the loop. -/
structure Reader (α : Type) where
  buffer : List UInt8 := []
  taken : List UInt8 := []
  decoded : List (List UInt8 × α) := []
  failure : Option CodecError := none

/-- Bytes come in, the read is polled, or it is dropped. -/
inductive ReadEvent where
  | arrive (bytes : List UInt8)
  | poll
  | cancel

/-- The bytes that arrive on the stream. -/
def ReadEvent.bytes : ReadEvent → List UInt8
  | .arrive bytes => bytes
  | _ => []

namespace Reader

/-- A poll of `read_exact` for the first so many bytes of the frame. -/
def readExact (reader : Reader α) (len : Nat) : Reader α :=
  let missing := len - reader.taken.length
  { reader with
    taken := reader.taken ++ reader.buffer.take missing
    buffer := reader.buffer.drop missing }

/-- A poll of `read_envelope`. The length is unknown as long as the prefix is incomplete. -/
def poll (limits : CodecLimits) (verified : List UInt8 → Except CodecError α)
    (reader : Reader α) : Reader α :=
  let reader := reader.readExact sizePrefixLen
  match limits.expectedFrameLen (reader.taken.take sizePrefixLen) with
  | .error error => { reader with failure := some error }
  | .ok none => reader
  | .ok (some frameLen) =>
    let reader := reader.readExact frameLen
    if reader.taken.length < frameLen then reader
    else
      match limits.decode verified reader.taken with
      | .error error => { reader with failure := some error }
      | .ok envelope =>
        { reader with taken := [], decoded := reader.decoded ++ [(reader.taken, envelope)] }

/-- What happens to a read. After a failure nothing does. -/
def step (limits : CodecLimits) (verified : List UInt8 → Except CodecError α)
    (reader : Reader α) (event : ReadEvent) : Reader α :=
  if reader.failure.isSome then reader
  else
    match event with
    | .arrive bytes => { reader with buffer := reader.buffer ++ bytes }
    | .poll => reader.poll limits verified
    | .cancel => { reader with taken := [] }

/-- The reader after some events and so many polls. -/
def readAll (limits : CodecLimits) (verified : List UInt8 → Except CodecError α)
    (events : List ReadEvent) (polls : Nat) : Reader α :=
  Transition.run (step limits verified) {} (events ++ List.replicate polls .poll)

/-- The frames were decoded, in this order, and nothing failed. -/
def Decodes (reader : Reader α) (frames : List (List UInt8)) : Prop :=
  reader.failure = none ∧ reader.decoded.map Prod.fst = frames

instance (reader : Reader α) (frames : List (List UInt8)) : Decidable (reader.Decodes frames) :=
  inferInstanceAs (Decidable (_ ∧ _))

/-- A read is dropped only when it has taken nothing. -/
def Whole (reader : Reader α) : ReadEvent → Prop
  | .cancel => reader.taken = []
  | _ => True

variable {limits : CodecLimits} {verified : List UInt8 → Except CodecError α} {reader : Reader α}
  {frame later tail : List UInt8} {rest : List (List UInt8)}

/-! ## Nothing is lost between whole frames -/

/-- The stream and the read in progress hold what is left of these frames, but for what has not
arrived. -/
structure Follows (frames rest : List (List UInt8)) (later : List UInt8) (reader : Reader α) :
    Prop where
  failure : reader.failure = none
  decoded : frames = reader.decoded.map Prod.fst ++ rest
  bytes : reader.taken ++ reader.buffer ++ later = rest.flatten
  started : reader.taken = [] ∨ ∃ frame ∈ rest.head?, reader.taken.length < frame.length

/-- What a poll for a part of the frame takes. -/
theorem readExact_spec {len : Nat}
    (hbytes : reader.taken ++ reader.buffer ++ later = frame ++ tail)
    (htaken : reader.taken.length ≤ frame.length) (hlen : len ≤ frame.length) :
    (reader.readExact len).taken ++ (reader.readExact len).buffer =
        reader.taken ++ reader.buffer ∧
      (reader.readExact len).taken <+: frame ∧
      (reader.readExact len).taken.length =
        min (max reader.taken.length len) (reader.taken.length + reader.buffer.length) := by
  have hsame : (reader.readExact len).taken ++ (reader.readExact len).buffer =
      reader.taken ++ reader.buffer := by
    simp [readExact]
  have hlength : (reader.readExact len).taken.length =
      min (max reader.taken.length len) (reader.taken.length + reader.buffer.length) := by
    simp only [readExact, List.length_append, List.length_take]
    omega
  refine ⟨hsame, ?_, hlength⟩
  apply @List.prefix_of_prefix_length_le _ _ _ (frame ++ tail)
  · rw [← hbytes, ← hsame, List.append_assoc]
    exact List.prefix_append _ _
  · exact List.prefix_append _ _
  · rw [hlength]
    omega

/-- A poll returns the next frame exactly if all of it has arrived. -/
theorem Follows.poll_cons {frames : List (List UInt8)} {value : α}
    (h : reader.Follows frames (frame :: rest) later)
    (hvalid : limits.decode verified frame = .ok value) :
    (reader.poll limits verified).Follows frames
      (if frame.length ≤ reader.taken.length + reader.buffer.length then rest else frame :: rest)
      later := by
  obtain ⟨hlong, hexpected⟩ := CodecLimits.expectedFrameLen_of_decode hvalid
  have hfour : 0 < sizePrefixLen := by decide
  have hbytes : reader.taken ++ reader.buffer ++ later = frame ++ rest.flatten := h.bytes
  have htaken : reader.taken.length < frame.length := by
    rcases h.started with hnone | ⟨next, hnext, hless⟩
    · rw [hnone]
      exact Nat.lt_of_lt_of_le hfour hlong
    · cases hnext
      exact hless
  obtain ⟨hsame, hprefix, hlength⟩ := readExact_spec hbytes (Nat.le_of_lt htaken) hlong
  unfold poll
  dsimp only
  by_cases hshort : (reader.readExact sizePrefixLen).taken.length < sizePrefixLen
  · -- The prefix has not arrived.
    rw [CodecLimits.expectedFrameLen_eq_none (by rw [List.length_take]; omega)]
    dsimp only
    rw [if_neg (by omega)]
    refine ⟨h.failure, h.decoded, ?_, Or.inr ⟨frame, rfl, by omega⟩⟩
    rw [hsame, hbytes]
    rfl
  · obtain ⟨suffix, hsuffix⟩ := hprefix
    have hfirst : (reader.readExact sizePrefixLen).taken.take sizePrefixLen =
        frame.take sizePrefixLen := by
      rw [← hsuffix, List.take_append_of_le_length (Nat.le_of_not_lt hshort)]
    rw [hfirst, hexpected]
    dsimp only
    have hbytes' : (reader.readExact sizePrefixLen).taken ++
        (reader.readExact sizePrefixLen).buffer ++ later = frame ++ rest.flatten := by
      rw [hsame, hbytes]
    obtain ⟨hsame', hprefix', hlength'⟩ :=
      readExact_spec hbytes' (by omega) (Nat.le_refl frame.length)
    have htotal := congrArg List.length hsame
    simp only [List.length_append] at htotal
    by_cases hpart : ((reader.readExact sizePrefixLen).readExact frame.length).taken.length <
        frame.length
    · -- The rest of the frame has not arrived.
      rw [if_pos hpart, if_neg (by omega)]
      refine ⟨h.failure, h.decoded, ?_, Or.inr ⟨frame, rfl, hpart⟩⟩
      rw [hsame', hbytes']
      rfl
    · rw [if_neg hpart, if_pos (by omega)]
      have hframe : ((reader.readExact sizePrefixLen).readExact frame.length).taken = frame :=
        hprefix'.eq_of_length (by omega)
      rw [hframe, hvalid]
      dsimp only
      refine ⟨h.failure, ?_, ?_, Or.inl rfl⟩
      · rw [List.map_append, h.decoded, List.append_assoc]
        rfl
      · rw [hframe] at hsame'
        rw [← hsame', List.append_assoc, List.append_cancel_left_eq] at hbytes'
        exact hbytes'

/-- Nothing is decoded from an empty stream. -/
theorem Follows.poll_nil {frames : List (List UInt8)} (h : reader.Follows frames [] later) :
    (reader.poll limits verified).Follows frames [] later := by
  have hbytes := h.bytes
  simp only [List.flatten_nil, List.append_eq_nil_iff] at hbytes
  obtain ⟨⟨htaken, hbuffer⟩, hlater⟩ := hbytes
  have hread : (reader.readExact sizePrefixLen).taken = [] := by
    simp [readExact, htaken, hbuffer]
  unfold poll
  dsimp only
  rw [hread, CodecLimits.expectedFrameLen_eq_none (by decide)]
  refine ⟨h.failure, h.decoded, ?_, Or.inl hread⟩
  simp [readExact, htaken, hbuffer, hlater]

/-- A step that drops no bytes goes on with the frames. -/
theorem Follows.step {frames : List (List UInt8)} {event : ReadEvent}
    (hvalid : ∀ frame ∈ frames, ∃ value, limits.decode verified frame = .ok value)
    (h : reader.Follows frames rest (event.bytes ++ later)) (hwhole : reader.Whole event) :
    ∃ rest, (reader.step limits verified event).Follows frames rest later := by
  unfold Reader.step
  rw [if_neg (by rw [h.failure]; decide)]
  cases event with
  | arrive bytes =>
    refine ⟨rest, h.failure, h.decoded, ?_, h.started⟩
    rw [← h.bytes]
    simp [ReadEvent.bytes]
  | poll =>
    cases rest with
    | nil => exact ⟨[], h.poll_nil⟩
    | cons frame rest =>
      obtain ⟨value, hvalue⟩ := hvalid frame (by rw [h.decoded]; simp)
      exact ⟨_, h.poll_cons hvalue⟩
  | cancel =>
    refine ⟨rest, h.failure, h.decoded, ?_, Or.inl rfl⟩
    rw [← h.bytes, show reader.taken = [] from hwhole]
    rfl

theorem Follows.run {frames : List (List UInt8)} {events : List ReadEvent}
    (hvalid : ∀ frame ∈ frames, ∃ value, limits.decode verified frame = .ok value)
    (h : reader.Follows frames rest (events.flatMap ReadEvent.bytes))
    (hwhole : Transition.Meets (Reader.step limits verified) Whole reader events) :
    ∃ rest,
      (Transition.run (Reader.step limits verified) reader events).Follows frames rest [] := by
  induction events generalizing reader rest with
  | nil => exact ⟨rest, h⟩
  | cons event events ih =>
    rw [List.flatMap_cons] at h
    obtain ⟨rest', hnext⟩ := h.step hvalid hwhole.1
    exact ih hnext hwhole.2

/-- Once everything has arrived, every poll decodes a frame. -/
theorem Follows.drain {frames : List (List UInt8)} {polls : Nat}
    (hvalid : ∀ frame ∈ frames, ∃ value, limits.decode verified frame = .ok value)
    (h : reader.Follows frames rest []) (hpolls : rest.length ≤ polls) :
    (Transition.run (Reader.step limits verified) reader
      (List.replicate polls ReadEvent.poll)).Follows
      frames [] [] := by
  have hpoll : ∀ {reader : Reader α}, reader.failure = none →
      reader.step limits verified .poll = reader.poll limits verified := by
    intro reader hfailure
    unfold Reader.step
    rw [if_neg (by rw [hfailure]; decide)]
  induction polls generalizing reader rest with
  | zero =>
    obtain rfl := List.eq_nil_of_length_eq_zero (Nat.le_zero.mp hpolls)
    exact h
  | succ polls ih =>
    rw [List.replicate_succ, Transition.run_cons, hpoll h.failure]
    cases rest with
    | nil => exact ih h.poll_nil (Nat.zero_le _)
    | cons frame rest =>
      obtain ⟨value, hvalue⟩ := hvalid frame (by rw [h.decoded]; simp)
      have hnext := h.poll_cons hvalue
      have hbytes := congrArg List.length h.bytes
      simp only [List.append_nil, List.length_append, List.flatten_cons] at hbytes
      rw [if_pos (by omega)] at hnext
      exact ih hnext (Nat.le_of_succ_le_succ hpolls)

/-! ## What a dropped read loses -/

/-- The bytes of the frames that were decoded and of what is still there. -/
def total (reader : Reader α) : Nat :=
  (reader.decoded.map Prod.fst).flatten.length + reader.taken.length + reader.buffer.length

theorem total_readExact (len : Nat) : (reader.readExact len).total = reader.total := by
  simp only [total, readExact, List.length_append, List.length_take, List.length_drop]
  omega

theorem total_poll : (reader.poll limits verified).total = reader.total := by
  have hprefix : (reader.readExact sizePrefixLen).total = reader.total := total_readExact _
  unfold poll
  dsimp only
  split
  · exact hprefix
  · exact hprefix
  · rename_i frameLen _
    have hread : ((reader.readExact sizePrefixLen).readExact frameLen).total = reader.total :=
      (total_readExact _).trans hprefix
    split
    · exact hread
    · split
      · exact hread
      · rw [← hread]
        simp only [total, List.map_append, List.flatten_append, List.length_append,
          List.map_singleton, List.flatten_singleton, List.length_nil]
        omega

/-- Only a read that is dropped in the middle of a frame loses bytes. -/
theorem total_step (event : ReadEvent) (hfailure : reader.failure = none) :
    (reader.step limits verified event).total ≤ reader.total + event.bytes.length ∧
      (¬ reader.Whole event →
        (reader.step limits verified event).total < reader.total + event.bytes.length) := by
  unfold step
  rw [if_neg (by rw [hfailure]; decide)]
  cases event with
  | arrive bytes =>
    refine ⟨?_, fun h => absurd trivial h⟩
    simp only [total, ReadEvent.bytes, List.length_append]
    omega
  | poll =>
    refine ⟨?_, fun h => absurd trivial h⟩
    simp [total_poll]
  | cancel =>
    refine ⟨?_, ?_⟩
    · simp only [total, List.length_nil]
      omega
    · intro h
      have hpos := List.length_pos_of_ne_nil h
      simp only [total, List.length_nil]
      omega

theorem failure_run {error : CodecError} (events : List ReadEvent)
    (h : reader.failure = some error) :
    Transition.run (step limits verified) reader events = reader := by
  induction events with
  | nil => rfl
  | cons event events ih =>
    have hstep : reader.step limits verified event = reader := by
      unfold step
      rw [if_pos (by rw [h]; rfl)]
    rw [Transition.run_cons, hstep, ih]

theorem total_run {events : List ReadEvent}
    (hlast : (Transition.run (step limits verified) reader events).failure = none) :
    let total := (Transition.run (step limits verified) reader events).total
    total ≤ reader.total + (events.flatMap ReadEvent.bytes).length ∧
      (¬ Transition.Meets (step limits verified) Whole reader events →
        total < reader.total + (events.flatMap ReadEvent.bytes).length) := by
  induction events generalizing reader with
  | nil => exact ⟨Nat.le_refl _, fun h => absurd trivial h⟩
  | cons event events ih =>
    have hfailure : reader.failure = none := by
      cases hfailed : reader.failure with
      | none => rfl
      | some error =>
        rw [failure_run (event :: events) hfailed, hfailed] at hlast
        cases hlast
    obtain ⟨hstep, hlost⟩ := @total_step _ limits verified reader event hfailure
    obtain ⟨hrest, hlostRest⟩ := ih hlast
    simp only [Transition.run_cons, List.flatMap_cons, List.length_append, Transition.Meets]
    refine ⟨by omega, ?_⟩
    intro hmeets
    by_cases hwhole : reader.Whole event
    · have := hlostRest fun hrestMeets => hmeets ⟨hwhole, hrestMeets⟩
      omega
    · have := hlost hwhole
      omega

theorem bytes_polls (polls : Nat) :
    (List.replicate polls ReadEvent.poll).flatMap ReadEvent.bytes = [] := by
  induction polls with
  | zero => rfl
  | succ polls ih => exact ih

/-- Frames that arrive in any chunks, between any polls and dropped reads, are the frames decoded
exactly if no read is dropped that has taken bytes. -/
theorem run_decodes_iff (limits : CodecLimits) (verified : List UInt8 → Except CodecError α)
    (frames : List (List UInt8)) (events : List ReadEvent)
    (hvalid : ∀ frame ∈ frames, ∃ envelope, limits.decode verified frame = .ok envelope)
    (harrives : events.flatMap ReadEvent.bytes = frames.flatten) :
    (readAll limits verified events frames.length).Decodes frames ↔
      Transition.Meets (step limits verified) Whole {} events := by
  have hstart : Follows frames frames (events.flatMap ReadEvent.bytes) ({} : Reader α) :=
    ⟨rfl, rfl, by rw [harrives]; rfl, Or.inl rfl⟩
  constructor
  · rintro ⟨hfailure, hdecoded⟩
    by_contra hmeets
    unfold readAll at hfailure hdecoded
    rw [Transition.run_append] at hfailure hdecoded
    obtain ⟨hpolls, -⟩ := total_run hfailure
    have hmiddle : (Transition.run (step limits verified) ({} : Reader α) events).failure =
        none := by
      cases hfailed : (Transition.run (step limits verified) ({} : Reader α) events).failure with
      | none => rfl
      | some error =>
        rw [failure_run _ hfailed, hfailed] at hfailure
        cases hfailure
    obtain ⟨-, hlost⟩ := total_run hmiddle
    have hless := hlost hmeets
    rw [bytes_polls] at hpolls
    have hbytes := congrArg (fun frames => (List.flatten frames).length) hdecoded
    have hzero : ({} : Reader α).total = 0 := rfl
    simp only [total, List.length_nil] at hpolls hless hzero hbytes
    rw [harrives] at hless
    omega
  · intro hmeets
    obtain ⟨rest, hfollows⟩ := hstart.run hvalid hmeets
    have hlength := congrArg List.length hfollows.decoded
    rw [List.length_append] at hlength
    have hlast : (Transition.run (step limits verified)
        (Transition.run (step limits verified) {} events)
        (List.replicate frames.length .poll)).Follows frames [] [] :=
      hfollows.drain hvalid (by omega)
    rw [← Transition.run_append] at hlast
    exact ⟨hlast.failure, (hlast.decoded.trans (List.append_nil _)).symm⟩

end Reader

namespace Sample

/-- The shortest frame there is. -/
def shortFrame : List UInt8 := [8, 0, 0, 0, 1, 2, 3, 4, 5, 6, 7, 8]

/-- The frame in two chunks, with a dropped read before the first or between them. -/
def twoChunks (between : ReadEvent) : List ReadEvent :=
  [.cancel, .arrive (shortFrame.take 2), .poll, between, .arrive (shortFrame.drop 2)]

end Sample

namespace Reader

theorem run_decodes_iff_chunks :
    (readAll {} (fun _ => .ok ()) (Sample.twoChunks .poll) 1).Decodes [Sample.shortFrame] :=
  (run_decodes_iff {} (fun _ => .ok ()) [Sample.shortFrame] (Sample.twoChunks .poll)
    (by
      intro frame hin
      obtain rfl := List.mem_singleton.mp hin
      exact ⟨(), by decide +kernel⟩)
    (by decide +kernel)).mpr ⟨rfl, trivial, trivial, trivial, trivial, trivial⟩

/-- A read that is dropped after two bytes of the prefix loses them. -/
theorem run_not_decoded : ¬ ∀ (limits : CodecLimits)
    (verified : List UInt8 → Except CodecError Unit) (frames : List (List UInt8))
    (events : List ReadEvent),
    (∀ frame ∈ frames, ∃ envelope, limits.decode verified frame = .ok envelope) →
      events.flatMap ReadEvent.bytes = frames.flatten →
        (readAll limits verified events frames.length).Decodes frames := by
  intro h
  have hlost := h {} (fun _ => .ok ()) [Sample.shortFrame] (Sample.twoChunks .cancel)
    (by
      intro frame hin
      obtain rfl := List.mem_singleton.mp hin
      exact ⟨(), by decide +kernel⟩)
    (by decide +kernel)
  revert hlost
  decide +kernel

end Reader

end Signalweave.Transport
