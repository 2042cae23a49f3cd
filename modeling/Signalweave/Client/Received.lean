import Signalweave.Client.Receiving
import Signalweave.Protocol.RoundTrip

/-!
# What the calls of a client return

Between a client and its stream some envelopes are held that no call has returned. A call returns
the first of them, and waits only where there is none. This goes wrong where a chunk is joined to
bytes that it does not follow, and where a call is left behind whose timer has fired.
-/

namespace Signalweave.Client

open Framing Protocol

variable {Envelope : Type}

/-- What is left of a stream after its frames. -/
def remainder (read : List UInt8 → Except String Envelope) (bytes : List UInt8) : List UInt8 :=
  (drain (decodeStream read) bytes.length bytes).2.1

/-- The envelope that a call has returned, if it has returned one. -/
def Outcome.envelope : Outcome Envelope → Option Envelope
  | returned envelope => some envelope
  | _ => none

namespace WovenClient

/-- What has come and is not cut into frames. -/
def unread (client : WovenClient Envelope) : List UInt8 := client.inBuffer ++ client.queue.flatten

/-- The envelopes that no call has returned. -/
def held (read : List UInt8 → Except String Envelope) (client : WovenClient Envelope) :
    List Envelope :=
  client.pending ++ (drain (decodeStream read) client.unread.length client.unread).1

end WovenClient

namespace Receiving

/-- All that has been returned to the application, in order. -/
def returned (state : Receiving Envelope) : List Envelope :=
  state.outcomes.filterMap Outcome.envelope

/-- Nothing of a stream of these frames is lost so far. -/
structure Intact (read : List UInt8 → Except String Envelope) (frames : List (List UInt8))
    (envelopes : List Envelope) (state : Receiving Envelope) : Prop where
  /-- Each call returns the next envelope of the stream. -/
  inOrder : state.returned ++ state.client.held read <+: envelopes
  /-- An envelope is returned or held when its frame has come in whole. -/
  complete : ∀ n ≤ frames.length, (frames.take n).flatten <+: state.arrived →
    n ≤ (state.returned ++ state.client.held read).length
  /-- A call waits only where nothing is held. -/
  answered : ∀ waiting, state.client.reading = some waiting → state.client.held read = []
  /-- A call throws only at the end of the stream, when all has been returned. -/
  unbroken : ∀ error, .threw error ∈ state.outcomes →
    state.client.ended = true ∧ state.client.held read = []

/-- No call is made while one is left behind, nothing comes to such a call that is an envelope, and
a chunk is one that may be joined to the unfinished frame before it. -/
def Safe (read : List UInt8 → Except String Envelope) (state : Receiving Envelope) :
    ReceiveInput → Prop
  | .recv | .recvTimeout => state.client.reading ≠ some .abandoned
  | .timeout | .ended => True
  | .chunk bytes =>
    let rest := remainder read state.client.unread
    Joins rest bytes ∧
      match state.client.reading with
      | some .abandoned => decodeStream read (rest ++ bytes) = .ok none
      | _ => rest ≠ [] ∨ bytes ≠ []

instance decidableJoins (buffer chunk : List UInt8) : Decidable (Joins buffer chunk) :=
  decidable_of_iff _ concat_eq_append_iff

instance decidableSafe [DecidableEq Envelope] (read : List UInt8 → Except String Envelope)
    (state : Receiving Envelope) : ∀ input, Decidable (state.Safe read input)
  | .recv | .recvTimeout =>
    inferInstanceAs (Decidable (state.client.reading ≠ some Waiting.abandoned))
  | .timeout | .ended => inferInstanceAs (Decidable True)
  | .chunk bytes =>
    have (reading : Option Waiting) : Decidable (match reading with
        | some .abandoned =>
          decodeStream read (remainder read state.client.unread ++ bytes) = .ok none
        | _ => remainder read state.client.unread ≠ [] ∨ bytes ≠ []) :=
      match reading with
      | some .abandoned => inferInstanceAs (Decidable (_ = _))
      | some .recv | some .recvTimeout | none => inferInstanceAs (Decidable (_ ∨ _))
    inferInstanceAs (Decidable (_ ∧ _))

end Receiving

/-! ## What a client holds -/

/-- The chunks of a queue may be joined one after another. -/
def QueueJoins (read : List UInt8 → Except String Envelope) :
    List UInt8 → List (List UInt8) → Prop
  | _, [] => True
  | buffer, chunk :: queue =>
    Joins buffer chunk ∧ (buffer ≠ [] ∨ chunk ≠ []) ∧
      QueueJoins read (remainder read (buffer ++ chunk)) queue

/-- What the client holds is these envelopes and then the begin of a frame. -/
structure Holds (read : List UInt8 → Except String Envelope) (client : WovenClient Envelope)
    (envelopes : List Envelope) (rest : List UInt8) : Prop where
  cut : ∃ later, Cut (decodeStream read) client.unread later rest ∧
    envelopes = client.pending ++ later
  incomplete : decodeStream read client.inBuffer = .ok none
  joins : QueueJoins read client.inBuffer client.queue

section Holds

variable {read : List UInt8 → Except String Envelope} {client client' : WovenClient Envelope}
  {envelopes : List Envelope} {bytes rest : List UInt8} {items : List Envelope}

theorem drain_of_cut (h : Cut (decodeStream read) bytes items rest) :
    drain (decodeStream read) bytes.length bytes = (items, rest, none) :=
  h.drain_eq lawful_decodeStream (Nat.le_refl _)

theorem remainder_of_cut (h : Cut (decodeStream read) bytes items rest) :
    remainder read bytes = rest := by
  rw [remainder, drain_of_cut h]

theorem Holds.held_eq (h : Holds read client envelopes rest) : client.held read = envelopes := by
  obtain ⟨later, hcut, rfl⟩ := h.cut
  rw [WovenClient.held, drain_of_cut hcut]

/-- Nothing is held where nothing is pending and no chunk waits. -/
theorem Holds.empty (h : Holds read client envelopes rest) (hpending : client.pending = [])
    (hqueue : client.queue = []) : envelopes = [] ∧ client.inBuffer = rest := by
  obtain ⟨later, hcut, rfl⟩ := h.cut
  have hunread : client.unread = client.inBuffer := by simp [WovenClient.unread, hqueue]
  rw [hunread] at hcut
  obtain ⟨hlater, hrest⟩ := hcut.unique lawful_decodeStream (.rest h.incomplete)
  exact ⟨by rw [hpending, hlater]; rfl, hrest.symm⟩

/-- What a client holds depends on what is pending and has come. -/
theorem Holds.congr (h : Holds read client envelopes rest)
    (hbuffer : client'.inBuffer = client.inBuffer) (hpending : client'.pending = client.pending)
    (hqueue : client'.queue = client.queue) :
    Holds read client' envelopes rest := by
  have hunread : client'.unread = client.unread := by simp [WovenClient.unread, hbuffer, hqueue]
  exact ⟨by rw [hunread, hpending]; exact h.cut, by rw [hbuffer]; exact h.incomplete,
    by rw [hbuffer, hqueue]; exact h.joins⟩

theorem queueJoins_append {queue : List (List UInt8)} {buffer chunk : List UInt8}
    (h : QueueJoins read buffer queue)
    (hcut : Cut (decodeStream read) (buffer ++ queue.flatten) items rest)
    (hincomplete : decodeStream read buffer = .ok none) (hchunk : Joins rest chunk)
    (hnonempty : rest ≠ [] ∨ chunk ≠ []) : QueueJoins read buffer (queue ++ [chunk]) := by
  induction queue generalizing buffer items with
  | nil =>
    rw [List.flatten_nil, List.append_nil] at hcut
    obtain ⟨-, rfl⟩ := hcut.unique lawful_decodeStream (.rest hincomplete)
    exact ⟨hchunk, hnonempty, trivial⟩
  | cons first queue ih =>
    obtain ⟨hfirst, hsome, hqueue⟩ := h
    rw [List.flatten_cons, ← List.append_assoc] at hcut
    obtain ⟨_, middle, _, hmiddle, hrest, -⟩ := hcut.split lawful_decodeStream
    refine ⟨hfirst, hsome, ?_⟩
    rw [remainder_of_cut hmiddle] at hqueue ⊢
    exact ih hqueue hrest hmiddle.incomplete

/-- A chunk that comes waits at the end of the queue. -/
theorem Holds.enqueue (h : Holds read client envelopes rest) {chunk rest' : List UInt8}
    (hcut : Cut (decodeStream read) (rest ++ chunk) items rest') (hchunk : Joins rest chunk)
    (hnonempty : rest ≠ [] ∨ chunk ≠ []) :
    Holds read { client with queue := client.queue ++ [chunk] } (envelopes ++ items) rest' := by
  obtain ⟨later, hlater, rfl⟩ := h.cut
  refine ⟨⟨later ++ items, ?_, List.append_assoc ..⟩, h.incomplete,
    queueJoins_append h.joins hlater h.incomplete hchunk hnonempty⟩
  have hunread : ({ client with queue := client.queue ++ [chunk] } : WovenClient Envelope).unread =
      client.unread ++ chunk := by
    simp [WovenClient.unread]
  rw [hunread]
  exact hlater.append lawful_decodeStream hcut

/-- A chunk that may be joined is read. -/
theorem takeChunk_eq {chunk : List UInt8} (hpending : client.pending = [])
    (hjoins : Joins client.inBuffer chunk)
    (hcut : Cut (decodeStream read) (client.inBuffer ++ chunk) items rest) :
    client.takeChunk read chunk = ({ client with inBuffer := rest, pending := items },
      if items.isEmpty && rest.isEmpty && !client.closed then
        some (.closed "connection closed by server")
      else none) := by
  have hdrain : WovenClient.drainBuffer read
      { client with inBuffer := concat client.inBuffer chunk } =
        ({ client with inBuffer := rest, pending := items }, none) := by
    unfold WovenClient.drainBuffer
    rw [concat_eq_append_iff.mpr hjoins, drain_of_cut hcut, hpending]
    rfl
  unfold WovenClient.takeChunk
  rw [hdrain]
  by_cases hend : (items.isEmpty && rest.isEmpty && !client.closed) = true
  · simp only [hend, if_true]
  · simp only [hend]
    rfl

/-- The first chunk of the queue is read. -/
theorem Holds.takeChunk {chunk : List UInt8} {queue : List (List UInt8)}
    (h : Holds read { client with queue := chunk :: queue } envelopes rest)
    (hpending : client.pending = []) :
    ∃ inBuffer pending,
      client.takeChunk read chunk = ({ client with inBuffer, pending }, none) ∧
        Holds read { client with inBuffer, pending, queue } envelopes rest := by
  obtain ⟨later, hlater, rfl⟩ := h.cut
  obtain ⟨hchunk, hnonempty, hrestJoins⟩ := h.joins
  have hunread : ({ client with queue := chunk :: queue } : WovenClient Envelope).unread =
      (client.inBuffer ++ chunk) ++ queue.flatten := by
    simp [WovenClient.unread]
  rw [hunread] at hlater
  obtain ⟨items, middle, second, hmiddle, hsecond, rfl⟩ := hlater.split lawful_decodeStream
  rw [remainder_of_cut hmiddle] at hrestJoins
  have hsome : (items.isEmpty && middle.isEmpty && !client.closed) = false := by
    cases items with
    | cons _ _ => rfl
    | nil =>
      have hmiddleEq := hmiddle.eq_rest
      have hmiddleSome : middle ≠ [] := by
        rw [← hmiddleEq]
        intro hempty
        obtain ⟨hbuffer, hnone⟩ := List.append_eq_nil_iff.mp hempty
        exact hnonempty.elim (fun hne => hne hbuffer) fun hne => hne hnone
      simp [hmiddleSome]
  refine ⟨middle, items, ?_, ⟨second, hsecond, ?_⟩, hmiddle.incomplete, hrestJoins⟩
  · rw [takeChunk_eq hpending hchunk hmiddle, hsome]
    rfl
  · rw [hpending]
    rfl

/-- What `recv` comes to where the lock of the stream is free: it returns the first envelope that is
held, and throws or waits where there is none. -/
inductive Received (read : List UInt8 → Except String Envelope) (waiting : Waiting) (ended : Bool)
    (rest : List UInt8) :
    List Envelope → WovenClient Envelope × Option (Outcome Envelope) → Prop
  | returned {envelope : Envelope} {envelopes : List Envelope} {client : WovenClient Envelope} :
    Holds read client envelopes rest → client.reading = none → client.ended = ended →
      (client.closed = true → ended = true ∧ envelopes = []) →
        Received read waiting ended rest (envelope :: envelopes) (client, some (.returned envelope))
  | threw {message : String} {client : WovenClient Envelope} :
    Holds read client [] rest → client.reading = none → client.ended = true → ended = true →
      Received read waiting ended rest [] (client, some (.threw (.closed message)))
  | waits {client : WovenClient Envelope} :
    Holds read client [] rest → client.reading = some waiting → client.ended = false →
      ended = false → client.closed = false → client.pending = [] → client.queue = [] →
        Received read waiting ended rest [] (client, none)

/-- The first envelope that is pending is returned before anything is read. -/
theorem receive_of_pending {waiting : Waiting} {queue : List (List UInt8)} {envelope : Envelope}
    {pending : List Envelope} (h : Holds read { client with queue } envelopes rest)
    (hpending : client.pending = envelope :: pending) (hreading : client.reading = none)
    (hclosed : client.closed = true → client.ended = true ∧ envelopes = []) :
    Received read waiting client.ended rest envelopes (client.receive read waiting queue) := by
  obtain ⟨later, hcut, henvelopes⟩ := h.cut
  have hheld : envelopes = envelope :: (pending ++ later) := by
    rw [henvelopes]
    change client.pending ++ later = _
    rw [hpending]
    rfl
  subst hheld
  have hreceive : client.receive read waiting queue =
      ({ client with pending, queue }, some (.returned envelope)) := by
    unfold WovenClient.receive
    rw [hpending]
  rw [hreceive]
  refine .returned ⟨⟨later, hcut, rfl⟩, h.incomplete, h.joins⟩ hreading rfl fun hc => ?_
  cases (hclosed hc).2

/-- A client that is closed throws when nothing is pending. -/
theorem receive_of_closed {waiting : Waiting} {queue : List (List UInt8)}
    (h : Holds read { client with queue } envelopes rest) (hpending : client.pending = [])
    (hreading : client.reading = none) (hc : client.closed = true)
    (hclosed : client.closed = true → client.ended = true ∧ envelopes = []) :
    Received read waiting client.ended rest envelopes (client.receive read waiting queue) := by
  obtain ⟨hended, rfl⟩ := hclosed hc
  have hreceive : client.receive read waiting queue =
      ({ client with queue }, some (.threw (.closed "connection closed"))) := by
    unfold WovenClient.receive
    rw [hpending]
    simp [hc]
  rw [hreceive]
  exact .threw h hreading hended hended

theorem receive_spec {waiting : Waiting} {queue : List (List UInt8)}
    (h : Holds read { client with queue } envelopes rest) (hreading : client.reading = none)
    (hclosed : client.closed = true → client.ended = true ∧ envelopes = []) :
    Received read waiting client.ended rest envelopes (client.receive read waiting queue) := by
  induction queue generalizing client with
  | nil =>
    cases hpending : client.pending with
    | cons envelope pending => exact receive_of_pending h hpending hreading hclosed
    | nil =>
      cases hc : client.closed with
      | true => exact receive_of_closed h hpending hreading hc hclosed
      | false =>
        obtain ⟨rfl, -⟩ := h.empty hpending rfl
        unfold WovenClient.receive
        rw [hpending, hc]
        cases hended : client.ended with
        | true => exact .threw (h.congr rfl hpending.symm rfl) hreading rfl rfl
        | false => exact .waits (h.congr rfl hpending.symm rfl) rfl rfl rfl rfl rfl rfl
  | cons chunk queue ih =>
    cases hpending : client.pending with
    | cons envelope pending => exact receive_of_pending h hpending hreading hclosed
    | nil =>
      cases hc : client.closed with
      | true => exact receive_of_closed h hpending hreading hc hclosed
      | false =>
        obtain ⟨inBuffer, pending, htake, hnext⟩ := h.takeChunk hpending
        have hreceive : client.receive read waiting (chunk :: queue) =
            ({ client with inBuffer, pending } : WovenClient Envelope).receive
              read waiting queue := by
          rw [WovenClient.receive.eq_def]
          simp [hpending, hc, htake]
        rw [hreceive]
        exact @ih { client with inBuffer, pending } hnext hreading hclosed

/-- A client that has drained its buffer, with no chunk in its stream. -/
theorem Holds.drained (client : WovenClient Envelope) (items : List Envelope)
    (hqueue : client.queue = []) (hincomplete : decodeStream read rest = .ok none) :
    Holds read { client with inBuffer := rest, pending := items } items rest := by
  refine ⟨⟨[], ?_, (List.append_nil items).symm⟩, hincomplete, ?_⟩
  · have hunread : ({ client with inBuffer := rest, pending := items } :
        WovenClient Envelope).unread = rest := by
      simp [WovenClient.unread, hqueue]
    rw [hunread]
    exact .rest hincomplete
  · rw [hqueue]
    trivial

/-- A call of the application goes on with a chunk that it reads. -/
theorem resume_spec {waiting : Waiting} {bytes : List UInt8} (hpending : client.pending = [])
    (hqueue : client.queue = []) (hopen : client.closed = false)
    (hjoins : Joins client.inBuffer bytes) (hsome : client.inBuffer ≠ [] ∨ bytes ≠ [])
    (hcut : Cut (decodeStream read) (client.inBuffer ++ bytes) items rest) :
    Received read waiting client.ended rest items (client.resume read waiting bytes) := by
  have htake := @takeChunk_eq _ read { client with reading := none } rest items bytes hpending
    hjoins
    hcut
  have hnonempty : (items.isEmpty && rest.isEmpty && !client.closed) = false := by
    cases items with
    | cons _ _ => rfl
    | nil =>
      rw [← hcut.eq_rest]
      rcases hsome with hsome | hsome <;> simp [hsome]
  have hdrained := Holds.drained { client with reading := none } items hqueue hcut.incomplete
  have hclosed : client.closed = true → client.ended = true ∧ items = [] := by
    intro hc
    rw [hopen] at hc
    cases hc
  unfold WovenClient.resume
  rw [htake]
  simp only [hnonempty]
  exact @receive_spec _ read { client with reading := none, inBuffer := rest, pending := items }
    items
    rest waiting client.queue hdrained rfl hclosed

/-- A call that is left behind goes on with a chunk and finds no envelope. -/
theorem resume_abandoned {bytes : List UInt8} (hpending : client.pending = [])
    (hqueue : client.queue = []) (hopen : client.closed = false) (hended : client.ended = false)
    (hjoins : Joins client.inBuffer bytes)
    (hnone : decodeStream read (client.inBuffer ++ bytes) = .ok none) :
    ∃ client' outcome, client.resume read .abandoned bytes = (client', outcome) ∧
      Holds read client' [] (client.inBuffer ++ bytes) ∧ client'.pending = [] ∧ client'.queue = [] ∧
        client'.ended = false ∧ client'.closed = false := by
  have htake := @takeChunk_eq _ read { client with reading := none } (client.inBuffer ++ bytes) []
    bytes hpending hjoins (.rest hnone)
  have hdrained := Holds.drained { client with reading := none } [] hqueue hnone
  unfold WovenClient.resume
  rw [htake]
  by_cases hempty : (client.inBuffer ++ bytes).isEmpty = true
  · simp only [hempty, hopen]
    exact ⟨_, _, rfl, hdrained.congr rfl rfl rfl, rfl, hqueue, hended, rfl⟩
  · have hreceive : ({ client with
        reading := none, inBuffer := client.inBuffer ++ bytes, pending := [] } :
          WovenClient Envelope).receive read .abandoned client.queue =
        ({ client with
          reading := some .abandoned, inBuffer := client.inBuffer ++ bytes, pending := [],
          queue := [] },
            none) := by
      rw [hqueue]
      unfold WovenClient.receive
      simp [hopen, hended]
    simp only [hempty]
    exact ⟨_, _, hreceive, hdrained.congr rfl rfl hqueue.symm, rfl, rfl, hended, hopen⟩

end Holds

/-! ## Steps -/

namespace Receiving

variable {read : List UInt8 → Except String Envelope} {state : Receiving Envelope}
  {envelopes : List Envelope} {rest : List UInt8}

/-- What has been returned and what is held are what has come. -/
structure Inv (read : List UInt8 → Except String Envelope) (state : Receiving Envelope)
    (envelopes : List Envelope) (rest : List UInt8) : Prop where
  holds : Holds read state.client envelopes rest
  arrived : Cut (decodeStream read) state.arrived (state.returned ++ envelopes) rest
  waits : state.client.reading ≠ none →
    state.client.pending = [] ∧ state.client.queue = [] ∧ state.client.ended = false
  closed : state.client.closed = true → state.client.ended = true ∧ envelopes = []
  unbroken : ∀ error, .threw error ∈ state.outcomes → state.client.ended = true ∧ envelopes = []

theorem inv_start : Inv read ({} : Receiving Envelope) [] [] where
  holds := ⟨⟨[], .rest rfl, rfl⟩, rfl, trivial⟩
  arrived := .rest rfl
  waits h := (h rfl).elim
  closed h := by cases h
  unbroken error h := by cases h

/-- The calls of a client whose lock is free. -/
theorem Inv.received {waiting : Waiting} {client' : WovenClient Envelope}
    {outcome : Option (Outcome Envelope)} {arrived : List UInt8}
    (hreceived : Received read waiting state.client.ended rest envelopes (client', outcome))
    (harrived : Cut (decodeStream read) arrived (state.returned ++ envelopes) rest)
    (hunbroken : ∀ error, .threw error ∈ state.outcomes →
      state.client.ended = true ∧ envelopes = []) :
    ∃ envelopes', Inv read
      { client := client', outcomes := state.outcomes ++ outcome.toList, arrived }
      envelopes' rest := by
  cases hreceived with
  | @returned envelope envelopes' _ hholds hreading hended hclosed =>
    refine ⟨envelopes', hholds, ?_, fun h => (h hreading).elim, ?_, ?_⟩
    · have hreturned : (state.outcomes ++ [Outcome.returned envelope]).filterMap Outcome.envelope =
          state.returned ++ [envelope] := by
        simp [Receiving.returned, Outcome.envelope]
      rw [List.append_cons, ← hreturned] at harrived
      exact harrived
    · intro hc
      rw [hended]
      exact hclosed hc
    · intro error herror
      rcases List.mem_append.mp herror with hold | hnew
      · cases (hunbroken error hold).2
      · simp at hnew
  | @threw message _ hholds hreading hended _ =>
    refine ⟨[], hholds, ?_, fun h => (h hreading).elim, fun _ => ⟨hended, rfl⟩,
      fun _ _ => ⟨hended, rfl⟩⟩
    have hreturned :
        (state.outcomes ++ [Outcome.threw (.closed message)]).filterMap Outcome.envelope =
        state.returned := by
      simp [Receiving.returned, Outcome.envelope]
    rw [← hreturned] at harrived
    exact harrived
  | waits hholds hreading hended hended' hclosed hpending hqueue =>
    refine ⟨[], hholds, ?_, fun _ => ⟨hpending, hqueue, hended⟩, ?_, ?_⟩
    · rw [Receiving.returned, Option.toList_none, List.append_nil]
      exact harrived
    · intro hc
      rw [hclosed] at hc
      cases hc
    · intro error herror
      rw [Option.toList_none, List.append_nil] at herror
      rw [hended'] at hunbroken
      cases (hunbroken error herror).1

theorem inv_call {waiting : Waiting} (h : Inv read state envelopes rest)
    (hsafe : state.client.reading ≠ some .abandoned) :
    ∃ envelopes', Inv read (state.call read waiting) envelopes' rest := by
  unfold call
  cases hreading : state.client.reading with
  | none =>
    have hreceived : Received read waiting state.client.ended rest envelopes
        (state.client.receive read waiting state.client.queue) :=
      receive_spec (h.holds.congr rfl rfl rfl) hreading h.closed
    exact Inv.received hreceived h.arrived h.unbroken
  | some other =>
    cases other with
    | abandoned => exact (hsafe hreading).elim
    | recv => exact ⟨envelopes, h⟩
    | recvTimeout => exact ⟨envelopes, h⟩

theorem inv_timeout (h : Inv read state envelopes rest) :
    Inv read (state.step read .timeout) envelopes rest := by
  unfold step
  cases hreading : state.client.reading with
  | none => exact h
  | some waiting =>
    cases waiting with
    | recv => exact h
    | abandoned => exact h
    | recvTimeout =>
      have hwaits := h.waits (by rw [hreading]; exact Option.some_ne_none _)
      refine ⟨h.holds.congr rfl rfl rfl, ?_, fun _ => hwaits, h.closed, ?_⟩
      · have hreturned : (state.outcomes ++ [Outcome.timedOut]).filterMap Outcome.envelope =
            state.returned := by
          simp [Receiving.returned, Outcome.envelope]
        have harrived := h.arrived
        rw [← hreturned] at harrived
        exact harrived
      · intro error herror
        rcases List.mem_append.mp herror with hold | hnew
        · exact h.unbroken error hold
        · simp at hnew

theorem inv_ended (h : Inv read state envelopes rest) :
    Inv read (state.step read .ended) envelopes rest := by
  unfold step
  cases hreading : state.client.reading with
  | none =>
    exact ⟨h.holds.congr rfl rfl rfl, h.arrived, fun hne => (hne hreading).elim,
      fun hc => ⟨rfl, (h.closed hc).2⟩, fun error herror => ⟨rfl, (h.unbroken error herror).2⟩⟩
  | some waiting =>
    obtain ⟨hpending, hqueue, -⟩ := h.waits (by rw [hreading]; exact Option.some_ne_none _)
    obtain ⟨rfl, -⟩ := h.holds.empty hpending hqueue
    refine ⟨h.holds.congr rfl rfl rfl, ?_, fun hne => (hne rfl).elim, fun _ => ⟨rfl, rfl⟩,
      fun _ _ => ⟨rfl, rfl⟩⟩
    have hreturned : (state.outcomes ++
        [Outcome.threw (.closed "control stream ended")]).filterMap Outcome.envelope =
          state.returned := by
      simp [Receiving.returned, Outcome.envelope]
    have harrived := h.arrived
    cases waiting with
    | abandoned => exact harrived
    | recv =>
      rw [← hreturned] at harrived
      exact harrived
    | recvTimeout =>
      rw [← hreturned] at harrived
      exact harrived

/-- A chunk that comes is cut together with what is left of the stream. -/
theorem Inv.cut_chunk (h : Inv read state envelopes rest) {bytes : List UInt8}
    (hcut : ∃ all rest', Cut (decodeStream read) (state.arrived ++ bytes) all rest') :
    ∃ items rest', Cut (decodeStream read) (rest ++ bytes) items rest' ∧
      Cut (decodeStream read) (state.arrived ++ bytes) (state.returned ++ envelopes ++ items)
        rest' := by
  obtain ⟨all, rest', hall⟩ := hcut
  obtain ⟨first, middle, items, hfirst, hitems, -⟩ := hall.split lawful_decodeStream
  obtain ⟨-, rfl⟩ := h.arrived.unique lawful_decodeStream hfirst
  exact ⟨items, rest', hitems, h.arrived.append lawful_decodeStream hitems⟩

theorem Inv.remainder_eq (h : Inv read state envelopes rest) :
    remainder read state.client.unread = rest := by
  obtain ⟨later, hcut, -⟩ := h.holds.cut
  exact remainder_of_cut hcut

theorem inv_enqueue {bytes : List UInt8} (h : Inv read state envelopes rest)
    (hended : state.client.ended = false) (hreading : state.client.reading = none)
    (hjoins : Joins rest bytes) (hnonempty : rest ≠ [] ∨ bytes ≠ [])
    (hcut : ∃ all rest', Cut (decodeStream read) (state.arrived ++ bytes) all rest') :
    ∃ envelopes' rest', Inv read
      { state with
        client := { state.client with queue := state.client.queue ++ [bytes] }
        arrived := state.arrived ++ bytes } envelopes' rest' := by
  obtain ⟨items, rest', hitems, harrived⟩ := h.cut_chunk hcut
  rw [List.append_assoc] at harrived
  refine ⟨envelopes ++ items, rest', h.holds.enqueue hitems hjoins hnonempty, harrived,
    fun hne => (hne hreading).elim, ?_, ?_⟩
  · intro hc
    have hgone := (h.closed hc).1
    rw [hended] at hgone
    cases hgone
  · intro error herror
    have hgone := (h.unbroken error herror).1
    rw [hended] at hgone
    cases hgone

theorem inv_fulfill {waiting : Waiting} {bytes : List UInt8} (h : Inv read state envelopes rest)
    (hended : state.client.ended = false) (hreading : state.client.reading = some waiting)
    (hsafe : state.Safe read (.chunk bytes))
    (hcut : ∃ all rest', Cut (decodeStream read) (state.arrived ++ bytes) all rest') :
    ∃ envelopes' rest', Inv read (state.fulfill read waiting bytes) envelopes' rest' := by
  obtain ⟨items, rest', hitems, harrived⟩ := h.cut_chunk hcut
  obtain ⟨hpending, hqueue, -⟩ := h.waits (by rw [hreading]; exact Option.some_ne_none _)
  obtain ⟨rfl, hbuffer⟩ := h.holds.empty hpending hqueue
  rw [List.append_nil] at harrived
  have hopen : ∀ {P : Prop}, state.client.ended = true → P := by
    intro P hgone
    rw [hended] at hgone
    cases hgone
  unfold Safe at hsafe
  rw [h.remainder_eq, hreading] at hsafe
  obtain ⟨hjoins, hnext⟩ := hsafe
  have hopened : state.client.closed = false := by
    cases hc : state.client.closed with
    | false => rfl
    | true => exact hopen (h.closed hc).1
  have hunbroken : ∀ error, Outcome.threw error ∈ state.outcomes →
      state.client.ended = true ∧ items = [] := fun error herror =>
        hopen (h.unbroken error herror).1
  subst hbuffer
  have hlive : (state.client.inBuffer ≠ [] ∨ bytes ≠ []) → Received read waiting state.client.ended
      rest' items (state.client.resume read waiting bytes) := fun hsome =>
    resume_spec hpending hqueue hopened hjoins hsome hitems
  cases waiting with
  | recv =>
    obtain ⟨envelopes', hinv⟩ := Inv.received (hlive hnext) harrived hunbroken
    exact ⟨envelopes', rest', hinv⟩
  | recvTimeout =>
    obtain ⟨envelopes', hinv⟩ := Inv.received (hlive hnext) harrived hunbroken
    exact ⟨envelopes', rest', hinv⟩
  | abandoned =>
    obtain ⟨rfl, rfl⟩ := hitems.unique lawful_decodeStream (.rest hnext)
    obtain ⟨client', outcome, hresume, hholds, hpending', hqueue', hended', hclosed'⟩ :=
      resume_abandoned hpending hqueue hopened hended hjoins hnext
    unfold fulfill
    rw [hresume]
    refine ⟨[], _, hholds, harrived, fun _ => ⟨hpending', hqueue', hended'⟩, ?_, ?_⟩
    · intro hc
      rw [hclosed'] at hc
      cases hc
    · intro error herror
      exact hopen (h.unbroken error herror).1

theorem inv_chunk {bytes : List UInt8} (h : Inv read state envelopes rest)
    (hsafe : state.Safe read (.chunk bytes))
    (hcut : state.client.ended = false →
      ∃ all rest', Cut (decodeStream read) (state.arrived ++ bytes) all rest') :
    ∃ envelopes' rest', Inv read (state.step read (.chunk bytes)) envelopes' rest' := by
  unfold step
  cases hended : state.client.ended with
  | true => exact ⟨envelopes, rest, h⟩
  | false =>
    have hcut := hcut hended
    cases hreading : state.client.reading with
    | some waiting => exact inv_fulfill h hended hreading hsafe hcut
    | none =>
      unfold Safe at hsafe
      rw [h.remainder_eq, hreading] at hsafe
      exact inv_enqueue h hended hreading hsafe.1 hsafe.2 hcut

theorem inv_step {input : ReceiveInput} (h : Inv read state envelopes rest)
    (hsafe : state.Safe read input)
    (hcut : ∀ bytes, input = .chunk bytes → state.client.ended = false →
      ∃ all rest', Cut (decodeStream read) (state.arrived ++ bytes) all rest') :
    ∃ envelopes' rest', Inv read (state.step read input) envelopes' rest' := by
  cases input with
  | recv =>
    obtain ⟨envelopes', hinv⟩ := inv_call h hsafe
    exact ⟨envelopes', rest, hinv⟩
  | recvTimeout =>
    obtain ⟨envelopes', hinv⟩ := inv_call h hsafe
    exact ⟨envelopes', rest, hinv⟩
  | timeout => exact ⟨envelopes, rest, inv_timeout h⟩
  | chunk bytes => exact inv_chunk h hsafe (hcut bytes rfl)
  | ended => exact ⟨envelopes, rest, inv_ended h⟩

/-! ## Runs -/

theorem arrived_call (waiting : Waiting) : (state.call read waiting).arrived = state.arrived := by
  unfold call
  cases state.client.reading with
  | none => rfl
  | some other =>
    cases other with
    | recv => rfl
    | recvTimeout => rfl
    | abandoned =>
      cases state.client.pending with
      | cons _ _ => rfl
      | nil => cases state.client.closed <;> rfl

theorem arrived_timeout : (state.step read .timeout).arrived = state.arrived := by
  unfold step
  cases state.client.reading with
  | none => rfl
  | some waiting => cases waiting <;> rfl

theorem arrived_ended : (state.step read .ended).arrived = state.arrived := by
  unfold step
  cases state.client.reading <;> rfl

theorem arrived_chunk {bytes : List UInt8} (hended : state.client.ended = false) :
    (state.step read (.chunk bytes)).arrived = state.arrived ++ bytes := by
  unfold step
  rw [hended]
  cases state.client.reading <;> rfl

/-- What has arrived stays so. -/
theorem arrived_step (input : ReceiveInput) :
    state.arrived <+: (state.step read input).arrived := by
  cases input with
  | recv => rw [step, arrived_call]
  | recvTimeout => rw [step, arrived_call]
  | timeout => rw [arrived_timeout]
  | ended => rw [arrived_ended]
  | chunk bytes =>
    cases hended : state.client.ended with
    | true =>
      unfold step
      rw [hended]
      exact List.prefix_refl _
    | false =>
      rw [arrived_chunk hended]
      exact List.prefix_append _ _

theorem arrived_run (inputs : List ReceiveInput) :
    state.arrived <+: (Transition.run (step read) state inputs).arrived := by
  induction inputs generalizing state with
  | nil => exact List.prefix_refl _
  | cons input rest ih => exact (arrived_step input).trans ih

/-- The beginning of a stream of frames is cut as they are. -/
theorem cut_of_arrived {frames : List (List UInt8)} {all : List Envelope} {bytes : List UInt8}
    (hframes : List.Forall₂ (fun frame envelope => decode read frame = .ok envelope) frames all)
    (hbytes : bytes <+: frames.flatten) :
    ∃ first rest, Cut (decodeStream read) bytes first rest ∧ first <+: all := by
  obtain ⟨more, hmore⟩ := hbytes
  have hcut : Cut (decodeStream read) frames.flatten all [] :=
    Cut.of_frames lawful_decodeStream (hframes.imp fun _ _ h => decodeStream_of_decode h)
  rw [← hmore] at hcut
  obtain ⟨first, middle, second, hfirst, -, rfl⟩ := hcut.split lawful_decodeStream
  exact ⟨first, middle, hfirst, List.prefix_append _ _⟩

theorem Inv.intact {frames : List (List UInt8)} {all : List Envelope}
    (h : Inv read state envelopes rest)
    (hframes : List.Forall₂ (fun frame envelope => decode read frame = .ok envelope) frames all)
    (hcarries : state.arrived <+: frames.flatten) : state.Intact read frames all := by
  have hheld := h.holds.held_eq
  refine ⟨?_, ?_, ?_, ?_⟩
  · obtain ⟨first, middle, hfirst, hbegins⟩ := cut_of_arrived hframes hcarries
    obtain ⟨rfl, -⟩ := h.arrived.unique lawful_decodeStream hfirst
    rw [hheld]
    exact hbegins
  · intro n hn hwhole
    obtain ⟨more, hmore⟩ := hwhole
    have hbegin : Cut (decodeStream read) (frames.take n).flatten (all.take n) [] :=
      Cut.of_frames lawful_decodeStream
        ((List.forall₂_take n hframes).imp fun _ _ h => decodeStream_of_decode h)
    have harrived := h.arrived
    rw [← hmore] at harrived
    obtain ⟨first, middle, second, hfirst, -, hall⟩ := harrived.split lawful_decodeStream
    obtain ⟨rfl, -⟩ := hbegin.unique lawful_decodeStream hfirst
    rw [hheld, hall, List.length_append, List.length_take, ← hframes.length_eq]
    omega
  · intro waiting hreading
    obtain ⟨hpending, hqueue, -⟩ := h.waits (by rw [hreading]; exact Option.some_ne_none _)
    rw [hheld]
    exact (h.holds.empty hpending hqueue).1
  · intro error herror
    rw [hheld]
    exact h.unbroken error herror

theorem always_intact {frames : List (List UInt8)} {all : List Envelope}
    {inputs : List ReceiveInput}
    (h : Inv read state envelopes rest)
    (hframes : List.Forall₂ (fun frame envelope => decode read frame = .ok envelope) frames all)
    (hcarries : (Transition.run (step read) state inputs).arrived <+: frames.flatten)
    (hsafe : Transition.Meets (step read) (Safe read) state inputs) :
    Transition.Always (step read) (Intact read frames all) state inputs := by
  induction inputs generalizing state envelopes rest with
  | nil => exact h.intact hframes hcarries
  | cons input inputs ih =>
    obtain ⟨hinput, hinputs⟩ := hsafe
    have hnow : state.arrived <+: frames.flatten :=
      ((arrived_step input).trans (arrived_run inputs)).trans hcarries
    have hnext : (state.step read input).arrived <+: frames.flatten :=
      (arrived_run inputs).trans hcarries
    have hcut : ∀ bytes, input = .chunk bytes → state.client.ended = false →
        ∃ all rest', Cut (decodeStream read) (state.arrived ++ bytes) all rest' := by
      rintro bytes rfl hended
      rw [arrived_chunk hended] at hnext
      obtain ⟨first, middle, hfirst, -⟩ := cut_of_arrived hframes hnext
      exact ⟨first, middle, hfirst⟩
    obtain ⟨envelopes', rest', hinv⟩ := inv_step h hinput hcut
    exact ⟨h.intact hframes hnow, ih hinv hcarries hinputs⟩

end Receiving

end Signalweave.Client

namespace Signalweave

open Client

/-- The calls of a client return every envelope of its stream once and in order, in every run whose
steps are safe. -/
theorem receive_intact {Envelope : Type} {read : List UInt8 → Except String Envelope}
    {frames : List (List UInt8)} {envelopes : List Envelope} {inputs : List ReceiveInput}
    (hframes : List.Forall₂ (fun frame envelope => decode read frame = .ok envelope)
      frames envelopes)
    (hcarries : (Transition.run (Receiving.step read) {} inputs).arrived <+: frames.flatten)
    (hsafe : Transition.Meets (Receiving.step read) (Receiving.Safe read) {} inputs) :
    Transition.Always (Receiving.step read) (Receiving.Intact read frames envelopes) {} inputs :=
  Receiving.always_intact Receiving.inv_start hframes hcarries hsafe

namespace Client.Sample

open Protocol.Sample

/-- A library that reads the one frame. -/
def read (frame : List UInt8) : Except String Protocol.Envelope :=
  if frame = toolCallCompletedFrame then .ok toolCallCompleted else .error "out of bounds"

/-- Two frames come at once, and the third call gets none. -/
def answered : List ReceiveInput :=
  [.recv, .chunk (toolCallCompletedFrame ++ toolCallCompletedFrame), .recvTimeout, .recvTimeout,
    .timeout]

/-- A call after one whose timer has fired. -/
def locked : List ReceiveInput := [.recvTimeout, .timeout, .recv]

/-- A frame comes after the timer has fired. -/
def swallowed : List ReceiveInput := [.recvTimeout, .timeout, .chunk toolCallCompletedFrame, .recv]

/-- A frame comes in two chunks. -/
def halved : List ReceiveInput :=
  [.recv, .chunk (toolCallCompletedFrame.take 100), .chunk (toolCallCompletedFrame.drop 100)]

end Client.Sample

theorem receive_intact_answered :
    Transition.Always (Receiving.step Sample.read)
      (Receiving.Intact Sample.read
        [Protocol.Sample.toolCallCompletedFrame, Protocol.Sample.toolCallCompletedFrame]
        [Protocol.Sample.toolCallCompleted, Protocol.Sample.toolCallCompleted])
      {} Sample.answered :=
  receive_intact
    (.cons (by decide +kernel) (.cons (by decide +kernel) .nil))
    (by decide +kernel) (by decide +kernel)

/-- A call throws, an envelope is returned by no call, and a frame is never seen. -/
theorem not_receive_intact :
    decode Sample.read Protocol.Sample.toolCallCompletedFrame =
        .ok Protocol.Sample.toolCallCompleted ∧
      ¬ Receiving.Intact Sample.read [Protocol.Sample.toolCallCompletedFrame]
          [Protocol.Sample.toolCallCompleted]
          (Transition.run (Receiving.step Sample.read) {} Sample.locked) ∧
      ¬ Receiving.Intact Sample.read [Protocol.Sample.toolCallCompletedFrame]
          [Protocol.Sample.toolCallCompleted]
          (Transition.run (Receiving.step Sample.read) {} Sample.swallowed) ∧
      ¬ Receiving.Intact Sample.read [Protocol.Sample.toolCallCompletedFrame]
          [Protocol.Sample.toolCallCompleted]
          (Transition.run (Receiving.step Sample.read) {} Sample.halved) := by
  refine ⟨by decide +kernel, ?_, ?_, ?_⟩
  · intro h
    have hended := (h.unbroken .locked (by decide +kernel)).1
    revert hended
    decide +kernel
  · intro h
    have hreturned := h.complete 1 (by decide) (by decide +kernel)
    revert hreturned
    decide +kernel
  · intro h
    have hreturned := h.complete 1 (by decide) (by decide +kernel)
    revert hreturned
    decide +kernel

end Signalweave
