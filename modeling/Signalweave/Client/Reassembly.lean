import Signalweave.Client.Received

/-!
# Frames that come in chunks

An application calls `recv` again and again while the chunks of a stream come one by one. Between
two chunks its call waits, and the buffer holds what has come of an unfinished frame.
-/

namespace Signalweave.Client

open Framing Protocol

variable {Envelope : Type}

/-- The bytes of the frame that is not yet whole. -/
def unfinished : List (List UInt8) → List UInt8 → List UInt8
  | [], bytes => bytes
  | frame :: frames, bytes =>
    if frame.length ≤ bytes.length then unfinished frames (bytes.drop frame.length) else bytes

/-- The parts of a frame that the codec checks before it hands the frame to the library. -/
structure Framed (frame : List UInt8) : Prop where
  whole : 12 ≤ frame.length
  size : CodecLimits.littleEndian (frame.take 4) = frame.length - 4
  identifier : (frame.drop 8).take 4 = fileIdentifier

theorem decode_eq_ok {read : List UInt8 → Except String Envelope} {frame : List UInt8}
    {envelope : Envelope} :
    decode read frame = .ok envelope ↔ Framed frame ∧ read frame = .ok envelope := by
  unfold decode
  constructor
  · intro h
    dsimp only at h
    split_ifs at h with hlong hmin hlength hidentifier
    refine ⟨⟨Nat.le_of_not_lt hlong, not_not.mp hlength, not_not.mp hidentifier⟩, ?_⟩
    cases hread : read frame with
    | error error =>
      rw [hread] at h
      cases h
    | ok found =>
      rw [hread] at h
      exact congrArg Except.ok (Except.ok.inj h)
  · rintro ⟨hframed, hread⟩
    have hwhole := hframed.whole
    simp only [hframed.size, hframed.identifier, hread]
    rw [if_neg (by omega), if_neg (by omega), if_neg (not_not_intro rfl),
      if_neg (not_not_intro rfl)]

namespace Receiving

variable (read : List UInt8 → Except String Envelope)

/-- A chunk comes, and the application calls until its call waits. -/
def feed (state : Receiving Envelope) (chunk : List UInt8) : Receiving Envelope :=
  let state := state.step read (.chunk chunk)
  Transition.run (step read) state (List.replicate (state.client.pending.length + 1) .recv)

/-- The application calls, and the chunks come one by one. -/
def feedAll (chunks : List (List UInt8)) : Receiving Envelope :=
  chunks.foldl (feed read) (({} : Receiving Envelope).step read .recv)

/-- The envelopes come out in order, nothing is thrown, and the buffer holds the bytes of the
unfinished frame at every point and none at the end. -/
structure Reassembles (frames : List (List UInt8)) (envelopes : List Envelope)
    (chunks : List (List UInt8)) : Prop where
  yields : (feedAll read chunks).returned = envelopes
  unbroken : ∀ error, .threw error ∉ (feedAll read chunks).outcomes
  buffer : ∀ n ≤ chunks.length,
    (feedAll read (chunks.take n)).client.inBuffer = unfinished frames (chunks.take n).flatten
  empty : (feedAll read chunks).client.inBuffer = []

end Receiving

/-! ## The stream of the frames -/

section Stream

variable {read : List UInt8 → Except String Envelope} {frames : List (List UInt8)}
  {envelopes : List Envelope} {bytes : List UInt8}

/-- What has come of a frame is no frame. -/
theorem decodeStream_of_lt {frame : List UInt8} {envelope : Envelope}
    (h : decode read frame = .ok envelope) (hbytes : bytes <+: frame)
    (hlt : bytes.length < frame.length) : decodeStream read bytes = .ok none := by
  obtain ⟨more, rfl⟩ := hbytes
  have hwhole := decodeStream_of_decode h
  by_contra hne
  rw [decodeStream_append hne] at hwhole
  exact absurd (decodeStream_eq_some hwhole).2 (Nat.not_le_of_lt hlt)

/-- What has come of the frames is cut into whole ones and the unfinished one. -/
theorem cut_unfinished
    (hframes : List.Forall₂ (fun frame envelope => decode read frame = .ok envelope)
      frames envelopes) (hbytes : bytes <+: frames.flatten) :
    ∃ n ≤ frames.length,
      Cut (decodeStream read) bytes (envelopes.take n) (unfinished frames bytes) ∧
        bytes = (frames.take n).flatten ++ unfinished frames bytes := by
  induction hframes generalizing bytes with
  | nil =>
    obtain rfl := List.prefix_nil.mp hbytes
    exact ⟨0, Nat.le_refl _, .rest lawful_decodeStream.nil, rfl⟩
  | @cons frame envelope frames envelopes hframe _ ih =>
    rw [List.flatten_cons] at hbytes
    unfold unfinished
    by_cases hwhole : frame.length ≤ bytes.length
    · obtain ⟨rest, rfl⟩ := List.prefix_of_prefix_length_le (List.prefix_append _ _) hbytes hwhole
      rw [if_pos hwhole, List.drop_left]
      obtain ⟨n, hn, hcut, hsplit⟩ := ih ((List.prefix_append_right_inj frame).mp hbytes)
      refine ⟨n + 1, Nat.succ_le_succ hn, ?_, ?_⟩
      · have hfirst := lawful_decodeStream.some_append frame rest _ _
          (decodeStream_of_decode hframe)
        apply Cut.frame hfirst
        rw [List.drop_left]
        exact hcut
      · rw [List.take_succ_cons, List.flatten_cons, List.append_assoc, ← hsplit]
    · rw [if_neg hwhole]
      have hshort : bytes <+: frame :=
        List.prefix_of_prefix_length_le hbytes (List.prefix_append _ _) (Nat.le_of_not_le hwhole)
      exact ⟨0, Nat.zero_le _,
        .rest (decodeStream_of_lt hframe hshort (Nat.lt_of_not_le hwhole)), rfl⟩

/-- Nothing is unfinished when all has come. -/
theorem unfinished_flatten : unfinished frames frames.flatten = [] := by
  induction frames with
  | nil => rfl
  | cons frame frames ih =>
    rw [List.flatten_cons, unfinished, if_pos (by rw [List.length_append]; omega),
      List.drop_left, ih]

end Stream

/-! ## A call that waits -/

namespace Receiving

variable {read : List UInt8 → Except String Envelope} {state : Receiving Envelope}
  {chunk rest : List UInt8} {items : List Envelope}

/-- A call waits, and all that has come has been looked at. -/
structure Waits (state : Receiving Envelope) : Prop where
  reading : state.client.reading = some .recv
  pending : state.client.pending = []
  queue : state.client.queue = []
  opened : state.client.closed = false
  running : state.client.ended = false

theorem waits_start : (({} : Receiving Envelope).step read .recv).Waits :=
  ⟨rfl, rfl, rfl, rfl, rfl⟩

/-- The calls return what is pending, one after another, and the last one waits. -/
theorem run_recv {client : WovenClient Envelope} (hreading : client.reading = none)
    (hqueue : client.queue = []) (hopened : client.closed = false)
    (hrunning : client.ended = false) (outcomes : List (Outcome Envelope)) (arrived : List UInt8)
    (pending : List Envelope) :
    Transition.run (step read) ⟨{ client with pending }, outcomes, arrived⟩
        (List.replicate (pending.length + 1) .recv) =
      ⟨{ client with pending := [], reading := some .recv },
        outcomes ++ pending.map .returned, arrived⟩ := by
  induction pending generalizing outcomes with
  | nil =>
    show step read _ .recv = _
    unfold step call
    dsimp only
    rw [hreading, hqueue]
    unfold WovenClient.receive
    dsimp only
    rw [if_neg (by rw [hopened]; exact Bool.false_ne_true),
      if_neg (by rw [hrunning]; exact Bool.false_ne_true)]
    rw [List.map_nil, List.append_nil, Option.toList_none, List.append_nil, ← hqueue]
  | cons envelope pending ih =>
    rw [List.length_cons, List.replicate_succ, Transition.run_cons]
    have hcall : step read ⟨{ client with pending := envelope :: pending }, outcomes, arrived⟩
        .recv = ⟨{ client with pending }, outcomes ++ [.returned envelope], arrived⟩ := by
      unfold step call
      dsimp only
      rw [hreading, hqueue]
      unfold WovenClient.receive
      dsimp only
      rw [Option.toList_some, ← hqueue]
    rw [hcall, ih, List.map_cons, List.append_assoc, List.singleton_append]

theorem Waits.step_chunk (h : state.Waits) :
    state.step read (.chunk chunk) = state.fulfill read .recv chunk := by
  unfold step
  rw [h.running, h.reading]
  rfl

/-- A chunk after which the buffer is drained without an error. -/
theorem Waits.feed_eq (h : state.Waits)
    (htake : WovenClient.takeChunk read { state.client with reading := none } chunk =
      ({ state.client with reading := none, inBuffer := rest, pending := items }, none)) :
    state.feed read chunk =
      { client := { state.client with inBuffer := rest }
        outcomes := state.outcomes ++ items.map .returned
        arrived := state.arrived ++ chunk } := by
  cases items with
  | nil =>
    have hresume : state.client.resume read .recv chunk =
        ({ state.client with inBuffer := rest }, none) := by
      unfold WovenClient.resume
      rw [htake]
      dsimp only
      rw [h.queue]
      unfold WovenClient.receive
      dsimp only
      rw [if_neg (by rw [h.opened]; exact Bool.false_ne_true),
        if_neg (by rw [h.running]; exact Bool.false_ne_true), ← h.queue, ← h.pending, ← h.reading]
    have hfulfil : state.fulfill read .recv chunk =
        ⟨{ state.client with inBuffer := rest }, state.outcomes ++ [], state.arrived ++ chunk⟩ := by
      unfold fulfill
      rw [hresume]
      rfl
    unfold feed
    rw [h.step_chunk, hfulfil]
    dsimp only
    rw [h.pending]
    show step read _ .recv = _
    unfold step call
    dsimp only
    rw [h.reading]
    rfl
  | cons envelope items =>
    have hresume : state.client.resume read .recv chunk =
        ({ state.client with reading := none, inBuffer := rest, pending := items },
          some (.returned envelope)) := by
      unfold WovenClient.resume
      rw [htake]
      dsimp only
      rw [h.queue]
      unfold WovenClient.receive
      dsimp only
    have hfulfil : state.fulfill read .recv chunk =
        ⟨{ state.client with reading := none, inBuffer := rest, pending := items },
          state.outcomes ++ [.returned envelope], state.arrived ++ chunk⟩ := by
      unfold fulfill
      rw [hresume]
      rfl
    unfold feed
    rw [h.step_chunk, hfulfil]
    have hcalls := @run_recv _ read { state.client with reading := none, inBuffer := rest } rfl
      h.queue h.opened h.running (state.outcomes ++ [.returned envelope]) (state.arrived ++ chunk)
      items
    rw [hcalls, ← h.pending, ← h.reading, List.append_assoc]
    rfl

theorem Waits.of_buffer (h : state.Waits) (outcomes : List (Outcome Envelope))
    (arrived : List UInt8) :
    Waits ⟨{ state.client with inBuffer := rest }, outcomes, arrived⟩ :=
  ⟨h.reading, h.pending, h.queue, h.opened, h.running⟩

/-! ## Chunks that may be joined -/

/-- The state after these chunks is the one that the stream makes. -/
structure Follows (read : List UInt8 → Except String Envelope) (frames : List (List UInt8))
    (envelopes : List Envelope) (chunks : List (List UInt8)) : Prop where
  waits : (feedAll read chunks).Waits
  buffer : (feedAll read chunks).client.inBuffer = unfinished frames chunks.flatten
  outcomes : ∃ n ≤ frames.length,
    (feedAll read chunks).outcomes = (envelopes.take n).map .returned ∧
      Cut (decodeStream read) chunks.flatten (envelopes.take n) (unfinished frames chunks.flatten) ∧
        chunks.flatten = (frames.take n).flatten ++ unfinished frames chunks.flatten

variable {frames chunks before : List (List UInt8)} {envelopes : List Envelope}

theorem feedAll_append : feedAll read (before ++ [chunk]) =
    (feedAll read before).feed read chunk := by
  unfold feedAll
  rw [List.foldl_append]
  rfl

theorem follows_nil
    (hframes : List.Forall₂ (fun frame envelope => decode read frame = .ok envelope)
      frames envelopes) : Follows read frames envelopes [] := by
  have hnone : unfinished frames [] = [] := by
    cases frames with
    | nil => rfl
    | cons frame frames =>
      unfold unfinished
      split
      · rename_i hempty
        cases hframes with
        | cons hframe _ =>
          have hpositive := (decodeStream_eq_some (decodeStream_of_decode hframe)).1
          exact absurd hempty (Nat.not_le_of_lt hpositive)
      · rfl
  refine ⟨@waits_start _ read, hnone.symm, 0, Nat.zero_le _, rfl, ?_, ?_⟩
  · rw [List.flatten_nil, hnone]
    exact .rest lawful_decodeStream.nil
  · rw [List.flatten_nil, hnone]
    rfl

/-- One more chunk that may be joined. -/
theorem Follows.append
    (hframes : List.Forall₂ (fun frame envelope => decode read frame = .ok envelope)
      frames envelopes) (h : Follows read frames envelopes before) (hsome : chunk ≠ [])
    (hbytes : (before ++ [chunk]).flatten <+: frames.flatten)
    (hjoins : Joins (unfinished frames before.flatten) chunk) :
    Follows read frames envelopes (before ++ [chunk]) := by
  obtain ⟨n, -, houtcomes, hcut, -⟩ := h.outcomes
  obtain ⟨m, hm, hafter, hsplit⟩ := cut_unfinished hframes hbytes
  have hflatten : (before ++ [chunk]).flatten = before.flatten ++ chunk := by
    rw [List.flatten_append, List.flatten_singleton]
  -- The chunk and the bytes before it are cut into the frames that have become whole.
  have hmore := hafter
  rw [hflatten] at hmore
  obtain ⟨first, middle, items, hfirst, hsecond, hitems⟩ := hmore.split lawful_decodeStream
  obtain ⟨rfl, rfl⟩ := hcut.unique lawful_decodeStream hfirst
  have hbuffer := h.buffer
  have htake := @takeChunk_eq _ read { (feedAll read before).client with reading := none }
    (unfinished frames (before ++ [chunk]).flatten) items chunk h.waits.pending
    (by rw [hbuffer]; exact hjoins) (by rw [hbuffer, hflatten]; exact hsecond)
  have hopen : (items.isEmpty && (unfinished frames (before ++ [chunk]).flatten).isEmpty &&
      !(feedAll read before).client.closed) = false := by
    cases items with
    | cons _ _ => rfl
    | nil =>
      have hrest := hsecond.eq_rest
      rw [hflatten, ← hrest]
      simp [hsome]
  rw [hopen, if_neg Bool.false_ne_true] at htake
  have hfed := h.waits.feed_eq htake
  rw [← feedAll_append] at hfed
  refine ⟨?_, ?_, m, hm, ?_, hafter, hsplit⟩
  · rw [hfed]
    exact h.waits.of_buffer _ _
  · rw [hfed]
  · rw [hfed, houtcomes, ← List.map_append, ← hitems]

theorem follows_of_joins
    (hframes : List.Forall₂ (fun frame envelope => decode read frame = .ok envelope)
      frames envelopes) (hsome : ∀ chunk ∈ chunks, chunk ≠ [])
    (hbytes : chunks.flatten <+: frames.flatten)
    (hjoins : ∀ before chunk after, chunks = before ++ chunk :: after →
      Joins (unfinished frames before.flatten) chunk) : Follows read frames envelopes chunks := by
  induction chunks using List.reverseRecOn with
  | nil => exact follows_nil hframes
  | append_singleton before chunk ih =>
    have hshorter : before.flatten <+: frames.flatten := by
      rw [List.flatten_append] at hbytes
      exact (List.prefix_append _ _).trans hbytes
    have hbefore := ih (fun chunk hin => hsome chunk (List.mem_append_left _ hin)) hshorter (by
      intro first middle last hsplit
      apply hjoins first middle (last ++ [chunk])
      rw [hsplit, List.append_assoc, List.cons_append])
    exact hbefore.append hframes (hsome chunk (by simp)) hbytes (hjoins before chunk [] rfl)

theorem reassembles_of_joins
    (hframes : List.Forall₂ (fun frame envelope => decode read frame = .ok envelope)
      frames envelopes) (hchunks : chunks.flatten = frames.flatten)
    (hsome : ∀ chunk ∈ chunks, chunk ≠ [])
    (hjoins : ∀ before chunk after, chunks = before ++ chunk :: after →
      Joins (unfinished frames before.flatten) chunk) :
    Reassembles read frames envelopes chunks := by
  have hfollows : ∀ n, Follows read frames envelopes (chunks.take n) := by
    intro n
    have hsplit : chunks = chunks.take n ++ chunks.drop n := (List.take_append_drop n chunks).symm
    apply follows_of_joins hframes fun chunk hin => hsome chunk (List.mem_of_mem_take hin)
    · rw [← hchunks]
      conv_rhs => rw [hsplit, List.flatten_append]
      exact List.prefix_append _ _
    · intro before chunk after hbefore
      apply hjoins before chunk (after ++ chunks.drop n)
      rw [← List.cons_append, ← List.append_assoc, ← hbefore, ← hsplit]
  have hall := hfollows chunks.length
  rw [List.take_length] at hall
  obtain ⟨n, -, houtcomes, hcut, -⟩ := hall.outcomes
  have hnone : unfinished frames chunks.flatten = [] := by rw [hchunks, unfinished_flatten]
  rw [hnone, hchunks] at hcut
  have hwhole : Cut (decodeStream read) frames.flatten envelopes [] :=
    Cut.of_frames lawful_decodeStream (hframes.imp fun _ _ h => decodeStream_of_decode h)
  obtain ⟨htaken, -⟩ := hcut.unique lawful_decodeStream hwhole
  rw [htaken] at houtcomes
  refine ⟨?_, ?_, fun n _ => (hfollows n).buffer, hall.buffer.trans hnone⟩
  · rw [returned, houtcomes, List.filterMap_map]
    exact List.filterMap_some
  · intro error hin
    rw [houtcomes] at hin
    obtain ⟨_, -, hthrew⟩ := List.mem_map.mp hin
    cases hthrew

/-! ## Chunks that may not be joined -/

/-- What calls have come to stays so. -/
theorem outcomes_step (input : ReceiveInput) :
    state.outcomes <+: (state.step read input).outcomes := by
  have hcall : ∀ waiting, state.outcomes <+: (state.call read waiting).outcomes := by
    intro waiting
    unfold call
    split
    · split
      · exact List.prefix_append _ _
      · split <;> exact List.prefix_append _ _
    · exact List.prefix_refl _
    · exact List.prefix_append _ _
  cases input with
  | recv => exact hcall .recv
  | recvTimeout => exact hcall .recvTimeout
  | timeout =>
    unfold step
    dsimp only
    split
    · exact List.prefix_append _ _
    · exact List.prefix_refl _
  | chunk bytes =>
    unfold step fulfill
    dsimp only
    split
    · exact List.prefix_refl _
    · split
      · exact List.prefix_refl _
      · rename_i waiting _
        cases waiting with
        | abandoned => exact List.prefix_refl _
        | recv => exact List.prefix_append _ _
        | recvTimeout => exact List.prefix_append _ _
  | ended =>
    unfold step
    dsimp only
    split
    · exact List.prefix_refl _
    · rename_i waiting _
      cases waiting with
      | abandoned => exact List.prefix_refl _
      | recv => exact List.prefix_append _ _
      | recvTimeout => exact List.prefix_append _ _

theorem outcomes_run (inputs : List ReceiveInput) :
    state.outcomes <+: (Transition.run (step read) state inputs).outcomes := by
  induction inputs generalizing state with
  | nil => exact List.prefix_refl _
  | cons input rest ih => exact (outcomes_step input).trans ih

theorem outcomes_feed : state.outcomes <+: (state.feed read chunk).outcomes :=
  (outcomes_step _).trans (outcomes_run _)

theorem outcomes_feedAll (after : List (List UInt8)) :
    (feedAll read before).outcomes <+: (feedAll read (before ++ after)).outcomes := by
  induction after using List.reverseRecOn with
  | nil =>
    rw [List.append_nil]
  | append_singleton after chunk ih =>
    rw [← List.append_assoc, feedAll_append]
    exact ih.trans outcomes_feed

/-- A library that gives back what it is handed. -/
def echo : List UInt8 → Except String (List UInt8) := .ok

theorem decode_echo {frame : List UInt8} (h : Framed frame) : decode echo frame = .ok frame :=
  decode_eq_ok.mpr ⟨h, rfl⟩

theorem decode_echo_eq {frame bytes : List UInt8} (h : decode echo frame = .ok bytes) :
    bytes = frame :=
  (Except.ok.inj (decode_eq_ok.mp h).2).symm

theorem decodeStream_echo_eq {acc frame : List UInt8} {n : Nat}
    (h : decodeStream echo acc = .ok (some (frame, n))) : frame = acc.take n := by
  unfold decodeStream at h
  dsimp only at h
  split_ifs at h with hshort hsmall hpart
  · cases h
  · cases h
  · cases hdecode : decode echo (acc.take (CodecLimits.littleEndian (acc.take 4) + 4)) with
    | error error =>
      rw [hdecode] at h
      cases h
    | ok bytes =>
      rw [hdecode] at h
      cases h
      exact decode_echo_eq hdecode

/-- Nothing is lost of what is drained. -/
theorem drain_echo (fuel : Nat) (bytes : List UInt8) :
    (drain (decodeStream echo) fuel bytes).1.flatten ++ (drain (decodeStream echo) fuel bytes).2.1 =
      bytes := by
  induction fuel generalizing bytes with
  | zero => rfl
  | succ fuel ih =>
    unfold drain
    cases hnext : decodeStream echo bytes with
    | error error => rfl
    | ok found =>
      cases found with
      | none => rfl
      | some found =>
        obtain ⟨frame, n⟩ := found
        dsimp only
        rw [List.flatten_cons, List.append_assoc, ih, decodeStream_echo_eq hnext,
          List.take_append_drop]

/-- A chunk that is read without an error is drained with the bytes before it. -/
theorem takeChunk_eq_none {client client' : WovenClient Envelope} (hpending : client.pending = [])
    (h : WovenClient.takeChunk read { client with reading := none } chunk = (client', none)) :
    ∃ items rest,
      drain (decodeStream read) (concat client.inBuffer chunk).length
          (concat client.inBuffer chunk) = (items, rest, none) ∧
        client' = { client with reading := none, inBuffer := rest, pending := items } := by
  unfold WovenClient.takeChunk WovenClient.drainBuffer at h
  dsimp only at h
  cases hdrain : drain (decodeStream read) (concat client.inBuffer chunk).length
    (concat client.inBuffer chunk) with
  | mk items drained =>
    obtain ⟨rest, error⟩ := drained
    rw [hdrain] at h
    dsimp only at h
    cases error with
    | some error => cases h
    | none =>
      dsimp only at h
      split at h
      · cases h
      · obtain ⟨rfl, -⟩ := Prod.mk.inj h
        refine ⟨items, rest, rfl, ?_⟩
        rw [hpending, List.nil_append]

/-- What a chunk comes to: the call throws, or the buffer holds what has been drained. -/
theorem Waits.feed_cases (h : state.Waits) (chunk : List UInt8) :
    (∃ error, .threw error ∈ (state.feed read chunk).outcomes) ∨
      ∃ items rest,
        drain (decodeStream read) (concat state.client.inBuffer chunk).length
            (concat state.client.inBuffer chunk) = (items, rest, none) ∧
          (state.feed read chunk).client.inBuffer = rest ∧
            (state.feed read chunk).outcomes = state.outcomes ++ items.map .returned := by
  have hthrows : ∀ client error, WovenClient.takeChunk read
      { state.client with reading := none } chunk = (client, some error) →
        .threw error ∈ (state.feed read chunk).outcomes := by
    intro client error htake
    have hresume : state.client.resume read .recv chunk = (client, some (.threw error)) := by
      unfold WovenClient.resume
      rw [htake]
    have hstep : (state.step read (.chunk chunk)).outcomes = state.outcomes ++ [.threw error] := by
      rw [h.step_chunk]
      unfold fulfill
      rw [hresume]
      rfl
    have hkept := (@outcomes_run _ read (state.step read (.chunk chunk))
      (List.replicate ((state.step read (.chunk chunk)).client.pending.length + 1) .recv)).subset
    apply hkept
    rw [hstep]
    exact List.mem_append_right _ (List.mem_singleton.mpr rfl)
  cases htake : WovenClient.takeChunk read { state.client with reading := none } chunk with
  | mk client thrown =>
    cases thrown with
    | some error => exact .inl ⟨error, hthrows client error htake⟩
    | none =>
      right
      obtain ⟨items, rest, hdrain, hclient⟩ := takeChunk_eq_none h.pending htake
      rw [hclient] at htake
      refine ⟨items, rest, hdrain, ?_, ?_⟩
      · rw [h.feed_eq htake]
      · rw [h.feed_eq htake]

theorem length_concat (a b : List UInt8) : (concat a b).length = a.length + b.length := by
  simp only [concat, List.length_append, List.length_drop, List.length_replicate]
  omega

theorem flatten_prefix (before after : List (List UInt8)) (chunk : List UInt8) :
    (before ++ [chunk]).flatten <+: (before ++ chunk :: after).flatten := by
  have hwhole : before ++ chunk :: after = (before ++ [chunk]) ++ after := by
    rw [List.append_assoc, List.singleton_append]
  exact ⟨after.flatten, by rw [hwhole, ← List.flatten_append]⟩

/-- Where the frames come out as they are, each chunk has been joined to the bytes before it. -/
theorem joins_of_reassembles {frames chunks before after : List (List UInt8)} {chunk : List UInt8}
    (hframes : ∀ frame ∈ frames, Framed frame) (hchunks : chunks.flatten = frames.flatten)
    (hall : Reassembles echo frames frames chunks) (hsplit : chunks = before ++ chunk :: after)
    (hbefore : Follows echo frames frames before) :
    Joins (unfinished frames before.flatten) chunk := by
  have hecho : List.Forall₂ (fun frame envelope => decode echo frame = .ok envelope)
      frames frames := List.forall₂_same.mpr fun frame hin => decode_echo (hframes frame hin)
  obtain ⟨n, hn, houtcomes, hcut, hparts⟩ := hbefore.outcomes
  set buffer := unfinished frames before.flatten with hbuffer
  have hlater : (feedAll echo (before ++ [chunk])).outcomes <+: (feedAll echo chunks).outcomes := by
    have hwhole : chunks = before ++ [chunk] ++ after := by rw [hsplit, List.append_assoc]; rfl
    rw [hwhole]
    exact outcomes_feedAll after
  rw [feedAll_append] at hlater
  rcases @Waits.feed_cases _ echo _ hbefore.waits chunk with
    ⟨error, hthrew⟩ | ⟨items, rest, hdrain, hrest, hitems⟩
  · exact absurd (hlater.subset hthrew) (hall.unbroken error)
  -- What is left of the chunk is what the stream has left.
  have hleft : rest = unfinished frames (before ++ [chunk]).flatten := by
    have hpoint := hall.buffer (before.length + 1) (by rw [hsplit]; simp)
    have htake : chunks.take (before.length + 1) = before ++ [chunk] := by
      rw [hsplit, ← List.singleton_append, ← List.append_assoc]
      exact List.take_left' (by simp)
    rw [htake, feedAll_append, hrest] at hpoint
    exact hpoint
  -- What comes out of it are the frames that follow.
  have hyields : frames.take n ++ items <+: frames := by
    have hreturned : (feedAll echo chunks).outcomes.filterMap Outcome.envelope = frames :=
      hall.yields
    have hout := hlater.filterMap Outcome.envelope
    rw [hitems, houtcomes, ← List.map_append, List.filterMap_map] at hout
    have hsame : (frames.take n ++ items).filterMap (Outcome.envelope ∘ Outcome.returned) =
        frames.take n ++ items := List.filterMap_some
    rwa [hsame, hreturned] at hout
  have hwhole : items.flatten ++ rest = concat buffer chunk := by
    have hnone := drain_echo (concat (feedAll echo before).client.inBuffer chunk).length
      (concat (feedAll echo before).client.inBuffer chunk)
    rw [hdrain, hbefore.buffer] at hnone
    exact hnone
  have hcame : (before ++ [chunk]).flatten = (frames.take n).flatten ++ (buffer ++ chunk) := by
    rw [List.flatten_append, List.flatten_singleton, hparts, List.append_assoc]
  have hbegins : (before ++ [chunk]).flatten <+: frames.flatten := by
    rw [← hchunks, hsplit]
    exact flatten_prefix before after chunk
  obtain ⟨m, -, -, hends⟩ := cut_unfinished hecho hbegins
  rw [← hleft] at hends
  have hlength : items.flatten.length + rest.length = buffer.length + chunk.length := by
    rw [← List.length_append, hwhole, length_concat]
  obtain ⟨taken, htaken⟩ : rest <:+ buffer ++ chunk := by
    have hrest : rest <:+ (before ++ [chunk]).flatten := by
      rw [hends]
      exact List.suffix_append _ _
    have hcomes : buffer ++ chunk <:+ (before ++ [chunk]).flatten := by
      rw [hcame]
      exact List.suffix_append _ _
    apply List.suffix_of_suffix_length_le hrest hcomes
    rw [List.length_append]
    omega
  -- Both are the bytes that follow in the stream, and as many.
  have hsame : items.flatten = taken := by
    have hfirst : (frames.take n).flatten ++ items.flatten <+: frames.flatten := by
      rw [← List.flatten_append]
      obtain ⟨others, hothers⟩ := hyields
      conv_rhs => rw [← hothers, List.flatten_append]
      exact List.prefix_append _ _
    have hsecond : (frames.take n).flatten ++ taken <+: frames.flatten := by
      refine List.IsPrefix.trans ?_ hbegins
      rw [hcame, ← htaken, ← List.append_assoc]
      exact List.prefix_append _ _
    have htotal := congrArg List.length htaken
    rw [List.length_append, List.length_append] at htotal
    have hequal := (List.prefix_of_prefix_length_le hfirst hsecond (by
      rw [List.length_append, List.length_append]
      omega)).eq_of_length (by
      rw [List.length_append, List.length_append]
      omega)
    exact List.append_cancel_left hequal
  rw [← concat_eq_append_iff, ← hwhole, ← htaken, hsame]

theorem joins_of_reassembles_echo {frames chunks : List (List UInt8)}
    (hframes : ∀ frame ∈ frames, Framed frame) (hchunks : chunks.flatten = frames.flatten)
    (hsome : ∀ chunk ∈ chunks, chunk ≠ []) (hall : Reassembles echo frames frames chunks) :
    ∀ before chunk after, chunks = before ++ chunk :: after →
      Joins (unfinished frames before.flatten) chunk := by
  have hecho : List.Forall₂ (fun frame envelope => decode echo frame = .ok envelope)
      frames frames := List.forall₂_same.mpr fun frame hin => decode_echo (hframes frame hin)
  -- The chunks before it have been joined, by induction on their number.
  have hfollows : ∀ before after, chunks = before ++ after → Follows echo frames frames before := by
    intro before
    induction before using List.reverseRecOn with
    | nil => exact fun _ _ => follows_nil hecho
    | append_singleton before chunk ih =>
      intro after hsplit
      rw [List.append_assoc, List.singleton_append] at hsplit
      have hbefore := ih _ hsplit
      refine hbefore.append hecho (hsome chunk (by simp [hsplit])) ?_
        (joins_of_reassembles hframes hchunks hall hsplit hbefore)
      rw [← hchunks, hsplit]
      exact flatten_prefix before after chunk
  intro before chunk after hsplit
  exact joins_of_reassembles hframes hchunks hall hsplit (hfollows before _ hsplit)

end Receiving

end Signalweave.Client

namespace Signalweave

open Client

/-- For which chunks the frames of a stream are put together again, whatever the library reads in
them: a chunk that comes after the beginning of a frame must be one that `concat` joins to it. -/
theorem reassembles_iff {frames chunks : List (List UInt8)}
    (hframes : ∀ frame ∈ frames, Framed frame) (hchunks : chunks.flatten = frames.flatten)
    (hsome : ∀ chunk ∈ chunks, chunk ≠ []) :
    (∀ (Envelope : Type) (read : List UInt8 → Except String Envelope) (envelopes : List Envelope),
      List.Forall₂ (fun frame envelope => decode read frame = .ok envelope) frames envelopes →
        Receiving.Reassembles read frames envelopes chunks) ↔
      ∀ before chunk after, chunks = before ++ chunk :: after →
        Joins (unfinished frames before.flatten) chunk := by
  constructor
  · intro hall
    have hecho := hall _ Receiving.echo frames (List.forall₂_same.mpr fun frame hin =>
      Receiving.decode_echo (hframes frame hin))
    exact Receiving.joins_of_reassembles_echo hframes hchunks hsome hecho
  · intro hjoins Envelope read envelopes hread
    exact Receiving.reassembles_of_joins hread hchunks hsome hjoins

/-- Two frames come at once. -/
theorem reassembles_iff_answered :
    Receiving.Reassembles Sample.read
      [Protocol.Sample.toolCallCompletedFrame, Protocol.Sample.toolCallCompletedFrame]
      [Protocol.Sample.toolCallCompleted, Protocol.Sample.toolCallCompleted]
      [Protocol.Sample.toolCallCompletedFrame ++ Protocol.Sample.toolCallCompletedFrame] := by
  have hframed : Framed Protocol.Sample.toolCallCompletedFrame :=
    ⟨by decide +kernel, by decide +kernel, by decide +kernel⟩
  refine (reassembles_iff ?_ ?_ ?_).mpr ?_ _ _ _ ?_
  · intro frame hin
    have hsame : frame = Protocol.Sample.toolCallCompletedFrame := by simpa using hin
    rw [hsame]
    exact hframed
  · simp
  · intro chunk hin
    rw [List.mem_singleton.mp hin]
    decide +kernel
  · intro before chunk after hsplit
    cases before with
    | nil => exact .inl (by decide +kernel)
    | cons first before =>
      have hnone := (List.append_eq_nil_iff.mp (List.cons.inj hsplit).2.symm).2
      cases hnone
  · exact .cons (by decide +kernel) (.cons (by decide +kernel) .nil)

/-- A frame that comes in two chunks is lost. -/
theorem not_reassembles : ¬ ∀ (Envelope : Type) (read : List UInt8 → Except String Envelope)
    (frames : List (List UInt8)) (envelopes : List Envelope) (chunks : List (List UInt8)),
      List.Forall₂ (fun frame envelope => decode read frame = .ok envelope) frames envelopes →
        chunks.flatten = frames.flatten → (∀ chunk ∈ chunks, chunk ≠ []) →
          Receiving.Reassembles read frames envelopes chunks := by
  intro h
  have hyields := (h _ Sample.read [Protocol.Sample.toolCallCompletedFrame]
    [Protocol.Sample.toolCallCompleted]
    [Protocol.Sample.toolCallCompletedFrame.take 100,
      Protocol.Sample.toolCallCompletedFrame.drop 100]
    (.cons (by decide +kernel) .nil) (by decide +kernel) (by decide +kernel)).yields
  have hlost : (Receiving.feedAll Sample.read [Protocol.Sample.toolCallCompletedFrame.take 100,
    Protocol.Sample.toolCallCompletedFrame.drop 100]).returned = [] := by decide +kernel
  rw [hlost] at hyields
  cases hyields

end Signalweave
