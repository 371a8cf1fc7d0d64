import InternalControl.Interleaving
import Mathlib.Data.List.Sort
import Mathlib.Data.Nat.Notation

/-!
# Event streams

A notification gets its number when it is inserted, and its event goes out when
its transaction is committed. A client has one stream at a time. On it the
events that arrive and the replays after an interruption wait in one queue, and
a replay sends what has a higher number than the highest that was sent. The
client keeps the last number it has received and opens its next stream with it.
-/

namespace InternalControl.EventStreams

open Interleaving

def replayLimit : ℕ := 100

def deliveredMemory : ℕ := 256

/-! ### Notifications -/

/-- The notifications of a user, each known by its `event_seq`. The events of the committed ones
are sent in the order of the commits. -/
structure Store where
  nextSeq : ℕ
  uncommitted : List ℕ
  committed : List ℕ
  deriving DecidableEq, Repr

namespace Store

/-- The highest number of a committed notification. -/
def latestEventSeq (store : Store) : ℕ := store.committed.foldr max 0

/-- The last committed notifications after a number, in order. -/
def eventsAfter (store : Store) (afterSeq limit : ℕ) : List ℕ :=
  (((store.committed.filter fun seq => afterSeq < seq).insertionSort (· ≥ ·)).take limit).reverse

/-- What a replay sends. Of more than the limit it takes the last. -/
def pending (store : Store) (cursor : ℕ) : List ℕ :=
  let rows := store.eventsAfter cursor (replayLimit + 1)
  if replayLimit < rows.length then rows.drop (rows.length - replayLimit) else rows

def insert (store : Store) : Store :=
  { store with
    nextSeq := store.nextSeq + 1
    uncommitted := store.nextSeq :: store.uncommitted }

/-- A notification of another user takes a number. -/
def insertOther (store : Store) : Store := { store with nextSeq := store.nextSeq + 1 }

def commit (store : Store) (seq : ℕ) : Store :=
  { store with
    uncommitted := store.uncommitted.filter fun other => other ≠ seq
    committed := store.committed ++ [seq] }

def rollback (store : Store) (seq : ℕ) : Store :=
  { store with uncommitted := store.uncommitted.filter fun other => other ≠ seq }

end Store

/-! ### Streams -/

inductive Task
  | event (seq : ℕ)
  | resync
  deriving DecidableEq, Repr

/-- What a stream is doing. -/
inductive Activity
  | starting (lastEventId : Option ℕ)
  | subscribed (lastEventId : Option ℕ)
  /-- The rows were read that follow the first event. -/
  | opened (rows : List ℕ)
  | sending (rows : List ℕ)
  | waiting
  deriving DecidableEq, Repr

/-- A stream. The notifications that were sent on it are kept in order. -/
structure EventStream where
  activity : Activity
  cursor : ℕ
  /-- The notifications that are remembered as sent, the oldest first. -/
  delivered : List ℕ
  queue : List Task
  /-- How many events of the bus have passed the stream. -/
  position : ℕ
  /-- An event was lost, and no replay was asked for since. -/
  lost : Bool
  /-- The ids on their way to the client. -/
  written : List ℕ
  sent : List ℕ
  deriving DecidableEq, Repr

/-- A client, with the last id it has received. What was sent on its earlier streams is kept
beside it, and how many notifications were committed when its first one was opened. -/
structure Client where
  lastEventId : Option ℕ
  stream : Option EventStream
  earlier : List ℕ
  openedAfter : Option ℕ
  deriving DecidableEq, Repr

namespace EventStream

def start (lastEventId : Option ℕ) : EventStream :=
  ⟨.starting lastEventId, 0, [], [], 0, false, [], []⟩

def remember (delivered : List ℕ) (seq : ℕ) : List ℕ :=
  let remembered := delivered ++ [seq]
  if deliveredMemory < remembered.length then remembered.tail else remembered

/-- Send a notification, unless it is remembered as sent. -/
def sendNotification (stream : EventStream) (seq : ℕ) : EventStream :=
  if seq ∈ stream.delivered then stream
  else
    { stream with
      delivered := remember stream.delivered seq
      cursor := max stream.cursor seq
      written := stream.written ++ [max stream.cursor seq]
      sent := stream.sent ++ [seq] }

/-- Nothing is left to do. -/
def AtRest (stream : EventStream) (store : Store) : Prop :=
  stream.activity = .waiting ∧ stream.queue = [] ∧ stream.position = store.committed.length ∧
    stream.lost = false

instance (stream : EventStream) (store : Store) : Decidable (stream.AtRest store) :=
  inferInstanceAs (Decidable (_ ∧ _))

end EventStream

/-- A statement of a transaction, of a stream, of the bus or of a client. -/
inductive Statement
  | insert
  | insertOther
  | commit (seq : ℕ)
  | rollback (seq : ℕ)
  | connect
  | subscribe (position : ℕ)
  /-- The stream reads where it begins. -/
  | readOpening
  | sendReady
  | sendRow
  | takeTask
  /-- The next event of the bus reaches the stream. -/
  | dispatch
  | lose
  /-- The bus is back, and asks for a replay. -/
  | reconnected
  /-- The next id reaches the client. -/
  | receive
  | disconnect
  deriving DecidableEq, Repr

section Program

variable {ι : Type}

/-- A statement that changes the stream of a client. -/
def onStream (client : Client) (change : EventStream → Option EventStream) : Option Client :=
  (client.stream.bind change).map fun stream => { client with stream := some stream }

/-- Whether the stream is with the subscribers of the bus. -/
def EventStream.isSubscribed (stream : EventStream) : Bool :=
  match stream.activity with
  | .starting _ => false
  | _ => true

/-- The first read of a stream. -/
def readOpening (store : Store) (client : Client) : Option Client :=
  match client.stream with
  | none => none
  | some stream =>
    match stream.activity with
    | .subscribed none =>
      some { client with
        stream := some { stream with activity := .opened [], cursor := store.latestEventSeq }
        openedAfter := some store.committed.length }
    | .subscribed (some lastEventId) =>
      some { client with
        stream := some { stream with
          activity := .opened (store.pending lastEventId), cursor := lastEventId } }
    | _ => none

/-- The next row of those that were read is sent. -/
def sendRow (stream : EventStream) : Option EventStream :=
  match stream.activity with
  | .sending [] => some { stream with activity := .waiting }
  | .sending (seq :: rows) => some ({ stream with activity := .sending rows }.sendNotification seq)
  | _ => none

/-- The next task of the queue: an event is sent, and a replay reads what it sends. -/
def takeTask (store : Store) (stream : EventStream) : Option EventStream :=
  match stream.activity, stream.queue with
  | .waiting, .event seq :: queue => some ({ stream with queue := queue }.sendNotification seq)
  | .waiting, .resync :: queue =>
    some { stream with queue := queue, activity := .sending (store.pending stream.cursor) }
  | _, _ => none

/-- The statements. A client that has received no id has none to come back with. -/
def program : Program ι Store Client Statement
  | _, .insert, store, client => some (store.insert, client)
  | _, .insertOther, store, client => some (store.insertOther, client)
  | _, .commit seq, store, client =>
    if seq ∈ store.uncommitted then some (store.commit seq, client) else none
  | _, .rollback seq, store, client => some (store.rollback seq, client)
  | _, .connect, store, client =>
    if client.stream = none ∧ (client.lastEventId = none → client.openedAfter = none) then
      some (store, { client with stream := some (.start client.lastEventId) })
    else none
  | _, .subscribe position, store, client =>
    (onStream client fun stream =>
      match stream.activity with
      | .starting lastEventId =>
        if position ≤ store.committed.length then
          some { stream with activity := .subscribed lastEventId, position := position }
        else none
      | _ => none).map fun client => (store, client)
  | _, .readOpening, store, client => (readOpening store client).map fun client => (store, client)
  | _, .sendReady, store, client =>
    (onStream client fun stream =>
      match stream.activity with
      | .opened rows =>
        some { stream with activity := .sending rows, written := stream.written ++ [stream.cursor] }
      | _ => none).map fun client => (store, client)
  | _, .sendRow, store, client => (onStream client sendRow).map fun client => (store, client)
  | _, .takeTask, store, client =>
    (onStream client (takeTask store)).map fun client => (store, client)
  | _, .dispatch, store, client =>
    (onStream client fun stream =>
      match store.committed[stream.position]? with
      | some seq =>
        if stream.isSubscribed then
          some { stream with position := stream.position + 1, queue := stream.queue ++ [.event seq] }
        else none
      | none => none).map fun client => (store, client)
  | _, .lose, store, client =>
    (onStream client fun stream =>
      if stream.isSubscribed ∧ stream.position < store.committed.length then
        some { stream with position := stream.position + 1, lost := true }
      else none).map fun client => (store, client)
  | _, .reconnected, store, client =>
    (onStream client fun stream =>
      if stream.isSubscribed then
        some { stream with lost := false, queue := stream.queue ++ [.resync] }
      else none).map fun client => (store, client)
  | _, .receive, store, client =>
    match client.stream with
    | none => none
    | some stream =>
      match stream.written with
      | [] => none
      | id :: written =>
        some (store, { client with
          lastEventId := some id, stream := some { stream with written := written } })
  | _, .disconnect, store, client =>
    match client.stream with
    | none => none
    | some stream =>
      some (store, { client with stream := none, earlier := client.earlier ++ stream.sent })

/-- No notifications, and nobody connected. -/
def start (ι : Type) : Interleaving ι Store Client :=
  ⟨⟨1, [], []⟩, fun _ => ⟨none, none, [], none⟩⟩

end Program

end InternalControl.EventStreams
