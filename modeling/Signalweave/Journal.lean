import Signalweave.Model

/-!
# The journal outbox (`journal.rs`)
-/

namespace Signalweave

/-- A durable message on its way to the journal. -/
structure JournalRecord where
  message : OutboundMessage
  deriving DecidableEq

/-- Why a record is refused. -/
inductive JournalOutboxError where
  | full
  deriving DecidableEq

/-- The records that wait to be written to the journal. -/
structure JournalOutbox where
  capacity : Nat
  records : List JournalRecord := []
  deriving DecidableEq

namespace JournalOutbox

/-- A record at the end of the outbox, if there is room. -/
def push (outbox : JournalOutbox) (record : JournalRecord) :
    Except JournalOutboxError JournalOutbox :=
  if outbox.records.length = outbox.capacity then .error .full
  else .ok { outbox with records := outbox.records ++ [record] }

/-- The record that has waited longest. -/
def pop (outbox : JournalOutbox) : Option JournalRecord × JournalOutbox :=
  match outbox.records with
  | [] => (none, outbox)
  | record :: rest => (some record, { outbox with records := rest })

/-- How many more records there is room for. -/
def remainingCapacity (outbox : JournalOutbox) : Nat :=
  outbox.capacity - outbox.records.length

end JournalOutbox

end Signalweave
