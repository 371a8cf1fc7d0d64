import InternalControl.EventStreams

/-!
# Event streams over runs

A replay sends the last notifications above the number it starts from. What is
committed late, with a lower number, comes by its own event or not at all. When
replays leave out only what was sent or has an event that still comes, a stream
that is at rest has sent everything since the client's first one was opened. No
stream sends a notification twice.
-/

namespace InternalControl.EventStreams

open Interleaving

variable {ι : Type}

/-! ### Conditions -/

/-- The number that a statement reads from when it reads what a replay sends. -/
def readsFrom (statement : Statement) (client : Client) : Option ℕ :=
  client.stream.bind fun stream =>
    match statement, stream.activity, stream.queue with
    | .readOpening, .subscribed (some lastEventId), _ => some lastEventId
    | .takeTask, .waiting, .resync :: _ => some stream.cursor
    | _, _, _ => none

/-- The notification that a statement is about to send. -/
def sends (statement : Statement) (client : Client) : Option ℕ :=
  client.stream.bind fun stream =>
    match statement, stream.activity, stream.queue with
    | .sendRow, .sending (seq :: _), _ => some seq
    | .takeTask, .waiting, .event seq :: _ => some seq
    | _, _, _ => none

/-- A notification was committed before the first stream was opened, or was sent. -/
def Done (store : Store) (openedAfter : Option ℕ) (sent : List ℕ) (seq : ℕ) : Prop :=
  seq ∈ store.committed.take (openedAfter.getD 0) ∨ seq ∈ sent

instance (store : Store) (openedAfter : Option ℕ) (sent : List ℕ) (seq : ℕ) :
    Decidable (Done store openedAfter sent seq) := inferInstanceAs (Decidable (_ ∨ _))

/-- What a client was sent on all of its streams. -/
def Client.sentSoFar (client : Client) : List ℕ :=
  client.earlier ++ (client.stream.map EventStream.sent).getD []

/-- Between two connections no more is missed than a replay sends, and an event comes while its
notification is still remembered. -/
def Within : ι → Statement → Store → Client → Prop := fun _ statement store client =>
  (statement = .readOpening → ∀ lastEventId ∈ readsFrom statement client,
    ∀ stream ∈ client.stream,
      ((store.committed.take stream.position).filter fun seq => lastEventId < seq).length ≤
        replayLimit) ∧
  ∀ seq ∈ sends statement client, ∀ stream ∈ client.stream,
    seq ∈ stream.sent → seq ∈ stream.sent.drop (stream.sent.length - deliveredMemory)

/-- A replay from a number does not send a notification: its own number is no higher, or there are
too many higher than it. -/
def LeftOut (store : Store) (cursor seq : ℕ) : Prop :=
  seq ≤ cursor ∨ replayLimit ≤ (store.committed.filter fun other => seq < other).length

instance (store : Store) (cursor seq : ℕ) : Decidable (LeftOut store cursor seq) :=
  inferInstanceAs (Decidable (_ ∨ _))

/-- What a replay leaves out is done with or has an event that still comes. -/
def NothingLost : ι → Statement → Store → Client → Prop := fun i statement store client =>
  Within i statement store client ∧
  ∀ cursor ∈ readsFrom statement client, ∀ stream ∈ client.stream, ∀ seq ∈ store.committed,
    LeftOut store cursor seq → Done store client.openedAfter client.sentSoFar seq ∨
      .event seq ∈ stream.queue ∨ seq ∈ store.committed.drop stream.position

instance (i : ι) (statement : Statement) (store : Store) (client : Client) :
    Decidable (Within i statement store client) := inferInstanceAs (Decidable (_ ∧ _))

instance (i : ι) (statement : Statement) (store : Store) (client : Client) :
    Decidable (NothingLost i statement store client) := inferInstanceAs (Decidable (_ ∧ _))

/-! ### Notifications -/

/-- Every number was given to one notification. -/
structure StoreSound (store : Store) : Prop where
  below : ∀ seq ∈ store.uncommitted ++ store.committed, seq < store.nextSeq
  nodup : (store.uncommitted ++ store.committed).Nodup

section Notifications

variable {store : Store}

theorem mem_commit {seq other : ℕ} (hseq : seq ∈ store.uncommitted) :
    other ∈ (store.commit seq).uncommitted ++ (store.commit seq).committed ↔
      other ∈ store.uncommitted ++ store.committed := by
  simp only [Store.commit, List.mem_append, List.mem_filter, List.mem_singleton, decide_eq_true_eq]
  constructor
  · rintro (⟨huncommitted, -⟩ | hcommitted | rfl)
    · exact .inl huncommitted
    · exact .inr hcommitted
    · exact .inl hseq
  · rintro (huncommitted | hcommitted)
    · by_cases hsame : other = seq
      · exact .inr (.inr hsame)
      · exact .inl ⟨huncommitted, hsame⟩
    · exact .inr (.inl hcommitted)

theorem StoreSound.insert (h : StoreSound store) : StoreSound store.insert := by
  refine ⟨fun seq hseq => ?_, ?_⟩
  · rcases List.mem_cons.mp hseq with rfl | hold
    · exact Nat.lt_succ_self _
    · exact Nat.lt_succ_of_lt (h.below seq hold)
  · have hnew : store.nextSeq ∉ store.uncommitted ++ store.committed :=
      fun hold => Nat.lt_irrefl _ (h.below _ hold)
    exact List.nodup_cons.mpr ⟨hnew, h.nodup⟩

theorem StoreSound.insertOther (h : StoreSound store) : StoreSound store.insertOther :=
  ⟨fun seq hseq => Nat.lt_succ_of_lt (h.below seq hseq), h.nodup⟩

theorem StoreSound.commit (h : StoreSound store) {seq : ℕ} (hseq : seq ∈ store.uncommitted) :
    StoreSound (store.commit seq) := by
  obtain ⟨huncommitted, hcommitted, hdisjoint⟩ := List.nodup_append.mp h.nodup
  refine ⟨fun other hother => h.below other ((mem_commit hseq).mp hother), ?_⟩
  refine List.nodup_append.mpr ⟨huncommitted.filter _, ?_, ?_⟩
  · refine List.nodup_append.mpr ⟨hcommitted, List.nodup_singleton seq, fun other hother last hlast => ?_⟩
    rw [List.mem_singleton.mp hlast]
    exact fun hsame => hdisjoint seq hseq other hother hsame.symm
  · intro other hother last hlast
    have hother := List.mem_filter.mp hother
    rcases List.mem_append.mp hlast with hlast | hlast
    · exact hdisjoint other hother.1 last hlast
    · rw [List.mem_singleton.mp hlast]
      exact of_decide_eq_true hother.2

theorem StoreSound.rollback (h : StoreSound store) (seq : ℕ) : StoreSound (store.rollback seq) := by
  obtain ⟨huncommitted, hcommitted, hdisjoint⟩ := List.nodup_append.mp h.nodup
  refine ⟨fun other hother => ?_, ?_⟩
  · rcases List.mem_append.mp hother with huncommitted | hcommitted
    · exact h.below other (List.mem_append_left _ (List.mem_of_mem_filter huncommitted))
    · exact h.below other (List.mem_append_right _ hcommitted)
  · exact List.nodup_append.mpr ⟨huncommitted.filter _, hcommitted, fun other hother last hlast =>
      hdisjoint other (List.mem_of_mem_filter hother) last hlast⟩

/-- The notifications above a number, the highest first. -/
def newestAfter (store : Store) (cursor : ℕ) : List ℕ :=
  (store.committed.filter fun seq => cursor < seq).insertionSort (· ≥ ·)

theorem mem_newestAfter {cursor seq : ℕ} :
    seq ∈ newestAfter store cursor ↔ seq ∈ store.committed ∧ cursor < seq := by
  unfold newestAfter
  rw [List.mem_insertionSort, List.mem_filter, decide_eq_true_eq]

theorem newestAfter_descending (h : StoreSound store) (cursor : ℕ) :
    (newestAfter store cursor).Pairwise (· > ·) := by
  have hnodup : (store.committed.filter fun seq => cursor < seq).Nodup :=
    (List.nodup_append.mp h.nodup).2.1.filter _
  have hsorted := List.pairwise_insertionSort (· ≥ ·)
    (store.committed.filter fun seq => decide (cursor < seq))
  have hdistinct : ((store.committed.filter fun seq => cursor < seq).insertionSort (· ≥ ·)).Nodup :=
    (List.perm_insertionSort _ _).nodup_iff.mpr hnodup
  exact (hsorted.and hdistinct).imp fun {a b} hab => Nat.lt_of_le_of_ne hab.1 (Ne.symm hab.2)

/-- A replay sends the newest notifications, as many as its limit. -/
theorem pending_eq (cursor : ℕ) :
    store.pending cursor = ((newestAfter store cursor).take replayLimit).reverse := by
  have hrows : store.eventsAfter cursor (replayLimit + 1) =
      ((newestAfter store cursor).take (replayLimit + 1)).reverse := rfl
  unfold Store.pending
  dsimp only
  rw [hrows, List.length_reverse, List.length_take]
  split
  · next hmore =>
    have hlength : min (replayLimit + 1) (newestAfter store cursor).length = replayLimit + 1 := by
      omega
    rw [hlength, List.drop_reverse, List.take_take]
    congr 2
    rw [List.length_take]
    omega
  · next hall =>
    have hlength : (newestAfter store cursor).length ≤ replayLimit := by omega
    rw [List.take_of_length_le hlength, List.take_of_length_le (Nat.le_succ_of_le hlength)]

theorem pending_ascending (h : StoreSound store) (cursor : ℕ) :
    (store.pending cursor).Pairwise (· < ·) := by
  rw [pending_eq]
  exact List.pairwise_reverse.mpr
    ((newestAfter_descending h cursor).sublist (List.take_sublist _ _))

theorem lt_of_mem_pending {cursor seq : ℕ} (h : seq ∈ store.pending cursor) : cursor < seq := by
  rw [pending_eq, List.mem_reverse] at h
  exact (mem_newestAfter.mp (List.mem_of_mem_take h)).2

/-- What is not left out of a replay is sent by it. -/
theorem mem_pending (h : StoreSound store) {cursor seq : ℕ} (hseq : seq ∈ store.committed)
    (hin : ¬LeftOut store cursor seq) : seq ∈ store.pending cursor := by
  have hlt : cursor < seq := Nat.lt_of_not_le fun hle => hin (.inl hle)
  have hfew : (store.committed.filter fun other => seq < other).length < replayLimit :=
    Nat.lt_of_not_le fun hle => hin (.inr hle)
  have hnewest : seq ∈ newestAfter store cursor := mem_newestAfter.mpr ⟨hseq, hlt⟩
  have hdescending := newestAfter_descending h cursor
  rw [pending_eq, List.mem_reverse]
  rw [← List.take_append_drop replayLimit (newestAfter store cursor)] at hnewest hdescending
  rcases List.mem_append.mp hnewest with hfirst | hrest
  · exact hfirst
  · -- Otherwise the ones that are sent are all above it, and there are too many of them.
    have habove := (List.pairwise_append.mp hdescending).2.2
    have hsubset : (newestAfter store cursor).take replayLimit ⊆
        store.committed.filter fun other => seq < other := fun other hother =>
      List.mem_filter.mpr ⟨(mem_newestAfter.mp (List.mem_of_mem_take hother)).1,
        decide_eq_true (habove other hother seq hrest)⟩
    have hnodup : ((newestAfter store cursor).take replayLimit).Nodup :=
      ((List.pairwise_append.mp hdescending).1).imp fun {a b} hab => Nat.ne_of_gt hab
    have hle := (List.subperm_of_subset hnodup hsubset).length_le
    have hmany : 0 < ((newestAfter store cursor).drop replayLimit).length :=
      List.length_pos_of_mem hrest
    rw [List.length_take] at hle
    rw [List.length_drop] at hmany
    omega

end Notifications

/-! ### Clients -/

/-- A notification is on its way to a stream: its event is, or a replay. -/
def Coming (store : Store) (stream : EventStream) (seq : ℕ) : Prop :=
  .event seq ∈ stream.queue ∨ seq ∈ store.committed.drop stream.position ∨ stream.lost = true ∨
    .resync ∈ stream.queue

/-- A stream that has begun: its rows are ahead of its cursor, and what is still to be sent is
among them or on its way. -/
structure Begun (store : Store) (client : Client) (stream : EventStream) (rows : List ℕ) : Prop where
  behind : ∀ seq ∈ stream.sent, seq ≤ stream.cursor
  ascending : rows.Pairwise (· < ·)
  ahead : ∀ seq ∈ rows, stream.cursor < seq
  covered : ∀ seq ∈ store.committed.drop (client.openedAfter.getD 0),
    seq ∉ client.earlier ++ stream.sent → seq ∈ rows ∨ Coming store stream seq

/-- What holds of a stream while it does something. -/
def Doing (store : Store) (client : Client) (stream : EventStream) : Prop :=
  match stream.activity with
  | .starting _ => stream.sent = []
  | .subscribed _ => stream.sent = []
  | .opened rows => Begun store client stream rows
  | .sending rows => Begun store client stream rows
  | .waiting => Begun store client stream []

/-- The memory of a stream holds the last notifications that were sent on it, and it has sent none
twice. -/
structure Kept (store : Store) (stream : EventStream) : Prop where
  position : stream.position ≤ store.committed.length
  delivered : stream.delivered = stream.sent.drop (stream.sent.length - deliveredMemory)
  nodup : stream.sent.Nodup

structure StreamSound (store : Store) (client : Client) (stream : EventStream) : Prop
    extends Kept store stream where
  doing : Doing store client stream

def ClientSound (store : Store) (client : Client) : Prop :=
  (∀ count ∈ client.openedAfter, count ≤ store.committed.length) ∧
    ∀ stream ∈ client.stream, StreamSound store client stream

section Growth

variable {store store' : Store} {client : Client} {stream : EventStream}

/-- What is committed later has not passed anybody. -/
theorem mem_drop_cases {position count seq : ℕ} (h : store.committed <+: store'.committed)
    (hposition : position ≤ store.committed.length) (hseq : seq ∈ store'.committed.drop count) :
    seq ∈ store.committed.drop count ∨ seq ∈ store'.committed.drop position := by
  obtain ⟨later, hcommitted⟩ := h
  rw [← hcommitted, List.drop_append] at hseq
  rcases List.mem_append.mp hseq with hold | hlater
  · exact .inl hold
  · refine .inr ?_
    rw [← hcommitted, List.drop_append_of_le_length hposition]
    exact List.mem_append_right _ (List.mem_of_mem_drop hlater)

theorem mem_drop_grow {position seq : ℕ} (h : store.committed <+: store'.committed)
    (hseq : seq ∈ store.committed.drop position) : seq ∈ store'.committed.drop position := by
  obtain ⟨later, hcommitted⟩ := h
  rw [← hcommitted, List.drop_append]
  exact List.mem_append_left _ hseq

theorem Begun.grow {rows : List ℕ} (h : Begun store client stream rows)
    (hgrows : store.committed <+: store'.committed)
    (hposition : stream.position ≤ store.committed.length) : Begun store' client stream rows := by
  refine ⟨h.behind, h.ascending, h.ahead, fun seq hseq hunsent => ?_⟩
  rcases mem_drop_cases hgrows hposition hseq with hold | hlater
  · rcases h.covered seq hold hunsent with hrow | hqueued | hdrop | hreplay
    · exact .inl hrow
    · exact .inr (.inl hqueued)
    · exact .inr (.inr (.inl (mem_drop_grow hgrows hdrop)))
    · exact .inr (.inr (.inr hreplay))
  · exact .inr (.inr (.inl hlater))

/-- What the transactions do leaves every client sound. -/
theorem ClientSound.grow (h : ClientSound store client)
    (hgrows : store.committed <+: store'.committed) : ClientSound store' client := by
  have hlength := hgrows.length_le
  refine ⟨fun count hcount => Nat.le_trans (h.1 count hcount) hlength, fun stream hstream => ?_⟩
  have hsound := h.2 stream hstream
  have hdoing := hsound.doing
  refine ⟨⟨Nat.le_trans hsound.position hlength, hsound.delivered, hsound.nodup⟩, ?_⟩
  unfold Doing at hdoing ⊢
  split at hdoing
  · exact hdoing
  · exact hdoing
  · exact hdoing.grow hgrows hsound.position
  · exact hdoing.grow hgrows hsound.position
  · exact hdoing.grow hgrows hsound.position

end Growth

/-! ### Sending -/

section Sending

variable {store : Store} {client : Client} {stream : EventStream} {seq : ℕ}

/-- The memory holds the last notifications that were sent, and forgets the oldest of them. -/
theorem remember_eq (sent : List ℕ) (seq : ℕ) :
    EventStream.remember (sent.drop (sent.length - deliveredMemory)) seq =
      (sent ++ [seq]).drop ((sent ++ [seq]).length - deliveredMemory) := by
  have hmemory : deliveredMemory = 256 := rfl
  unfold EventStream.remember
  dsimp only
  rw [List.length_append, List.length_drop, List.length_append, List.length_singleton]
  split
  · next hfull =>
    have hstep : sent.length + 1 - deliveredMemory = (sent.length - deliveredMemory) + 1 := by omega
    have hle : sent.length - deliveredMemory ≤ sent.length := Nat.sub_le _ _
    rw [hstep, ← List.drop_append_of_le_length hle, List.tail_drop]
  · next hroom =>
    have hsmall : sent.length - deliveredMemory = 0 := by omega
    have hsmall' : sent.length + 1 - deliveredMemory = 0 := by omega
    rw [hsmall, hsmall', List.drop_zero, List.drop_zero]

/-- A stream that has sent one more notification. -/
def EventStream.withSent (stream : EventStream) (seq : ℕ) : EventStream :=
  { stream with
    delivered := EventStream.remember stream.delivered seq
    cursor := max stream.cursor seq
    written := stream.written ++ [max stream.cursor seq]
    sent := stream.sent ++ [seq] }

/-- A notification that was not sent on the stream is sent. -/
theorem sendNotification_eq (h : Kept store stream) (hnew : seq ∉ stream.sent) :
    stream.sendNotification seq = stream.withSent seq := by
  have hunknown : seq ∉ stream.delivered := by
    rw [h.delivered]
    exact fun hremembered => hnew (List.mem_of_mem_drop hremembered)
  unfold EventStream.sendNotification
  rw [if_neg hunknown]
  rfl

/-- What was sent on the stream and is remembered is not sent again. -/
theorem sendNotification_of_mem (h : seq ∈ stream.delivered) :
    stream.sendNotification seq = stream := by
  unfold EventStream.sendNotification
  rw [if_pos h]

theorem Kept.withSent (h : Kept store stream) (hnew : seq ∉ stream.sent) :
    Kept store (stream.withSent seq) := by
  have hdisjoint : ∀ other ∈ stream.sent, ∀ last ∈ [seq], other ≠ last := by
    intro other hother last hlast hsame
    rw [List.mem_singleton.mp hlast] at hsame
    exact hnew (hsame ▸ hother)
  refine ⟨h.position, ?_, List.nodup_append.mpr ⟨h.nodup, List.nodup_singleton seq, hdisjoint⟩⟩
  dsimp only [EventStream.withSent]
  rw [h.delivered]
  exact remember_eq stream.sent seq

/-- A notification is sent, and the rest stays ahead or on its way. -/
theorem Begun.withSent (rows : List ℕ) (hbehind : ∀ other ∈ stream.sent, other ≤ stream.cursor)
    (hascending : rows.Pairwise (· < ·)) (hahead : ∀ other ∈ rows, max stream.cursor seq < other)
    (hcovered : ∀ other ∈ store.committed.drop (client.openedAfter.getD 0),
      other ∉ client.earlier ++ stream.sent →
        other = seq ∨ other ∈ rows ∨ Coming store stream other) :
    Begun store client (stream.withSent seq) rows := by
  have hnow : ∀ other ∈ stream.sent ++ [seq], other ≤ max stream.cursor seq := by
    intro other hother
    rcases List.mem_append.mp hother with hold | hlast
    · have hle := hbehind other hold
      omega
    · rw [List.mem_singleton.mp hlast]
      omega
  refine ⟨hnow, hascending, hahead, fun other hother hunsent => ?_⟩
  have hbefore : other ∉ client.earlier ++ stream.sent := fun hold => hunsent (by
    unfold EventStream.withSent
    rw [← List.append_assoc]
    exact List.mem_append_left _ hold)
  rcases hcovered other hother hbefore with hsame | hrow | hcoming
  · refine absurd ?_ hunsent
    rw [hsame]
    exact List.mem_append_right _ (List.mem_append_right _ (List.mem_singleton.mpr rfl))
  · exact .inl hrow
  · exact .inr hcoming

end Sending

/-! ### Statements -/

section Statements

variable {store : Store} {client : Client} {stream stream' : EventStream}

/-- A sound change of its stream leaves a client sound. -/
theorem ClientSound.change (h : ClientSound store client)
    (hsound : StreamSound store client stream') (lastEventId : Option ℕ) :
    ClientSound store { client with lastEventId := lastEventId, stream := some stream' } := by
  refine ⟨h.1, fun other hother => ?_⟩
  cases hother
  have hdoing := hsound.doing
  have hbegun : ∀ rows, Begun store client stream' rows →
      Begun store { client with lastEventId := lastEventId, stream := some stream' } stream' rows :=
    fun rows hbegun => ⟨hbegun.behind, hbegun.ascending, hbegun.ahead, hbegun.covered⟩
  refine ⟨⟨hsound.position, hsound.delivered, hsound.nodup⟩, ?_⟩
  unfold Doing at hdoing ⊢
  split at hdoing
  · exact hdoing
  · exact hdoing
  · exact hbegun _ hdoing
  · exact hbegun _ hdoing
  · exact hbegun _ hdoing

/-- An event, its loss or a replay that is asked for moves what is on its way. -/
theorem StreamSound.reroute (h : StreamSound store client stream)
    (hactivity : stream'.activity = stream.activity) (hcursor : stream'.cursor = stream.cursor)
    (hsent : stream'.sent = stream.sent) (hdelivered : stream'.delivered = stream.delivered)
    (hposition : stream'.position ≤ store.committed.length)
    (hcoming : ∀ seq, Coming store stream seq → Coming store stream' seq) :
    StreamSound store client stream' := by
  have hbegun : ∀ rows, Begun store client stream rows → Begun store client stream' rows := by
    intro rows hbegun
    refine ⟨?_, hbegun.ascending, ?_, fun seq hseq hunsent => ?_⟩
    · rw [hcursor, hsent]
      exact hbegun.behind
    · rw [hcursor]
      exact hbegun.ahead
    · rw [hsent] at hunsent
      rcases hbegun.covered seq hseq hunsent with hrow | hway
      · exact .inl hrow
      · exact .inr (hcoming seq hway)
  refine ⟨⟨hposition, ?_, ?_⟩, ?_⟩
  · rw [hdelivered, hsent]
    exact h.delivered
  · rw [hsent]
    exact h.nodup
  · have hdoing := h.doing
    unfold Doing at hdoing ⊢
    rw [hactivity]
    split at hdoing
    · rw [hsent]
      exact hdoing
    · rw [hsent]
      exact hdoing
    · exact hbegun _ hdoing
    · exact hbegun _ hdoing
    · exact hbegun _ hdoing

/-- The rows of a replay, when what it leaves out is done with or still comes. -/
theorem begun_pending (hstore : StoreSound store)
    (hbehind : ∀ seq ∈ stream.sent, seq ≤ stream.cursor)
    (hnothing : ∀ seq ∈ store.committed, LeftOut store stream.cursor seq →
      Done store client.openedAfter (client.earlier ++ stream.sent) seq ∨
        Coming store stream seq) :
    Begun store client stream (store.pending stream.cursor) := by
  refine ⟨hbehind, pending_ascending hstore _, fun _ => lt_of_mem_pending, ?_⟩
  intro seq hseq hunsent
  have hcommitted : seq ∈ store.committed := List.mem_of_mem_drop hseq
  by_cases hleft : LeftOut store stream.cursor seq
  · rcases hnothing seq hcommitted hleft with (hearly | hsent) | hcoming
    · have hnodup : store.committed.Nodup := (List.nodup_append.mp hstore.nodup).2.1
      exact absurd hseq (List.disjoint_take_drop hnodup (Nat.le_refl _) hearly)
    · exact absurd hsent hunsent
    · exact .inr hcoming
  · exact .inl (mem_pending hstore hcommitted hleft)

theorem StreamSound.sendRow (h : StreamSound store client stream)
    (hrow : EventStreams.sendRow stream = some stream') : StreamSound store client stream' := by
  unfold EventStreams.sendRow at hrow
  have hdoing := h.doing
  unfold Doing at hdoing
  split at hrow
  · next hactivity =>
    cases hrow
    rw [hactivity] at hdoing
    exact ⟨⟨h.position, h.delivered, h.nodup⟩,
      ⟨hdoing.behind, hdoing.ascending, hdoing.ahead, hdoing.covered⟩⟩
  · next seq rows hactivity =>
    cases hrow
    rw [hactivity] at hdoing
    obtain ⟨hfirst, hrest⟩ := List.pairwise_cons.mp hdoing.ascending
    have hcursor : stream.cursor < seq := hdoing.ahead seq (List.mem_cons_self ..)
    have hnew : seq ∉ stream.sent := fun hsent => by
      have hle := hdoing.behind seq hsent
      omega
    have hahead : ∀ other ∈ rows, max stream.cursor seq < other := fun other hother => by
      have hlt := hfirst other hother
      omega
    have hcovered : ∀ other ∈ store.committed.drop (client.openedAfter.getD 0),
        other ∉ client.earlier ++ stream.sent →
          other = seq ∨ other ∈ rows ∨ Coming store stream other := by
      intro other hother hunsent
      rcases hdoing.covered other hother hunsent with hrow | hcoming
      · rcases List.mem_cons.mp hrow with hsame | hlater
        · exact .inl hsame
        · exact .inr (.inl hlater)
      · exact .inr (.inr hcoming)
    have hkept : Kept store { stream with activity := .sending rows } :=
      ⟨h.position, h.delivered, h.nodup⟩
    rw [sendNotification_eq hkept hnew]
    exact ⟨hkept.withSent hnew, Begun.withSent rows hdoing.behind hrest hahead hcovered⟩
  · cases hrow

theorem StreamSound.takeTask (hstore : StoreSound store) (h : StreamSound store client stream)
    (hnothing : ∀ queue, stream.activity = .waiting → stream.queue = .resync :: queue →
      ∀ seq ∈ store.committed, LeftOut store stream.cursor seq →
        Done store client.openedAfter (client.earlier ++ stream.sent) seq ∨
          .event seq ∈ stream.queue ∨ seq ∈ store.committed.drop stream.position)
    (hmemory : ∀ seq queue, stream.activity = .waiting → stream.queue = .event seq :: queue →
      seq ∈ stream.sent → seq ∈ stream.sent.drop (stream.sent.length - deliveredMemory))
    (htask : EventStreams.takeTask store stream = some stream') :
    StreamSound store client stream' := by
  unfold EventStreams.takeTask at htask
  have hdoing := h.doing
  unfold Doing at hdoing
  split at htask
  · next seq queue hactivity hqueue =>
    cases htask
    rw [hactivity] at hdoing
    have hkept : Kept store { stream with queue := queue } := ⟨h.position, h.delivered, h.nodup⟩
    have hcovered : ∀ other ∈ store.committed.drop (client.openedAfter.getD 0),
        other ∉ client.earlier ++ stream.sent →
          other = seq ∨ other ∈ [] ∨ Coming store { stream with queue := queue } other := by
      intro other hother hunsent
      rcases hdoing.covered other hother hunsent with hrow | hqueued | hdrop | hlost | hresync
      · cases hrow
      · rw [hqueue] at hqueued
        rcases List.mem_cons.mp hqueued with hsame | hlater
        · cases hsame
          exact .inl rfl
        · exact .inr (.inr (.inl hlater))
      · exact .inr (.inr (.inr (.inl hdrop)))
      · exact .inr (.inr (.inr (.inr (.inl hlost))))
      · rw [hqueue] at hresync
        rcases List.mem_cons.mp hresync with hsame | hlater
        · cases hsame
        · exact .inr (.inr (.inr (.inr (.inr hlater))))
    by_cases hsent : seq ∈ stream.sent
    · have hremembered : seq ∈ stream.delivered := by
        rw [h.delivered]
        exact hmemory seq queue hactivity hqueue hsent
      have hsame : { stream with queue := queue }.sendNotification seq =
          { stream with queue := queue } := sendNotification_of_mem hremembered
      rw [hsame]
      refine ⟨hkept, ?_⟩
      unfold Doing
      rw [hactivity]
      refine ⟨hdoing.behind, hdoing.ascending, hdoing.ahead, fun other hother hunsent => ?_⟩
      rcases hcovered other hother hunsent with hsame | hrow | hcoming
      · exact absurd (List.mem_append_right _ (hsame ▸ hsent)) hunsent
      · exact .inl hrow
      · exact .inr hcoming
    · rw [sendNotification_eq hkept hsent]
      refine ⟨hkept.withSent hsent, ?_⟩
      have hbegun : Begun store client ({ stream with queue := queue }.withSent seq) [] :=
        Begun.withSent [] hdoing.behind List.Pairwise.nil (fun _ hrow => nomatch hrow) hcovered
      unfold Doing EventStream.withSent at *
      dsimp only at hbegun ⊢
      rw [hactivity] at hbegun ⊢
      exact hbegun
  · next queue hactivity hqueue =>
    cases htask
    rw [hactivity] at hdoing
    refine ⟨⟨h.position, h.delivered, h.nodup⟩, ?_⟩
    have hrest : ∀ seq ∈ store.committed, LeftOut store stream.cursor seq →
        Done store client.openedAfter (client.earlier ++ stream.sent) seq ∨
          Coming store { stream with queue := queue } seq := by
      intro seq hseq hleft
      rcases hnothing queue hactivity hqueue seq hseq hleft with hdone | hqueued | hdrop
      · exact .inl hdone
      · rw [hqueue] at hqueued
        rcases List.mem_cons.mp hqueued with hsame | hlater
        · cases hsame
        · exact .inr (.inl hlater)
      · exact .inr (.inr (.inl hdrop))
    obtain ⟨hbehind, hascending, hahead, hcovered⟩ :=
      @begun_pending store client { stream with queue := queue } hstore hdoing.behind hrest
    exact ⟨hbehind, hascending, hahead, hcovered⟩
  · cases htask

end Statements

/-! ### Runs -/

section Runs

variable {store store' : Store} {client client' : Client} {i : ι} {statement : Statement}

/-- A statement that changes a stream has one to change. -/
theorem onStream_eq_some {change : EventStream → Option EventStream}
    (h : ((onStream client change).map fun client => (store, client)) = some (store', client')) :
    ∃ stream stream', client.stream = some stream ∧ change stream = some stream' ∧ store' = store ∧
      client' = { client with stream := some stream' } := by
  obtain ⟨after, hafter, heq⟩ := Option.map_eq_some_iff.mp h
  obtain ⟨stream', hbind, rfl⟩ := Option.map_eq_some_iff.mp hafter
  obtain ⟨stream, hstream, hchange⟩ := Option.bind_eq_some_iff.mp hbind
  cases heq
  exact ⟨stream, stream', hstream, hchange, rfl, rfl⟩

theorem connect_eq_some (h : program i .connect store client = some (store', client')) :
    client.stream = none ∧ store' = store ∧
      client' = { client with stream := some (.start client.lastEventId) } := by
  have hconnect : (if client.stream = none ∧ (client.lastEventId = none → client.openedAfter = none)
      then some (store, { client with stream := some (.start client.lastEventId) }) else none) =
    some (store', client') := h
  split at hconnect
  · next hfree =>
    cases hconnect
    exact ⟨hfree.1, rfl, rfl⟩
  · cases hconnect

theorem receive_eq_some (h : program i .receive store client = some (store', client')) :
    ∃ stream id written, client.stream = some stream ∧ stream.written = id :: written ∧
      store' = store ∧ client' = { client with
        lastEventId := some id, stream := some { stream with written := written } } := by
  cases hstream : client.stream with
  | none => simp [program, hstream] at h
  | some stream =>
    cases hwritten : stream.written with
    | nil => simp [program, hstream, hwritten] at h
    | cons id written =>
      simp only [program, hstream, hwritten, Option.some.injEq, Prod.mk.injEq] at h
      exact ⟨stream, id, written, rfl, hwritten, h.1.symm, h.2.symm⟩

theorem disconnect_eq_some (h : program i .disconnect store client = some (store', client')) :
    ∃ stream, client.stream = some stream ∧ store' = store ∧
      client' = { client with stream := none, earlier := client.earlier ++ stream.sent } := by
  cases hstream : client.stream with
  | none => simp [program, hstream] at h
  | some stream =>
    simp only [program, hstream, Option.some.injEq, Prod.mk.injEq] at h
    exact ⟨stream, rfl, h.1.symm, h.2.symm⟩

/-- What a statement does to the notifications, whoever runs it: commits come last. -/
theorem program_grows (h : program i statement store client = some (store', client')) :
    store.committed <+: store'.committed ∧ (StoreSound store → StoreSound store') := by
  have hsame : store' = store →
      store.committed <+: store'.committed ∧ (StoreSound store → StoreSound store') := by
    rintro rfl
    exact ⟨List.prefix_rfl, fun hsound => hsound⟩
  cases statement with
  | insert =>
    cases h
    exact ⟨List.prefix_rfl, StoreSound.insert⟩
  | insertOther =>
    cases h
    exact ⟨List.prefix_rfl, StoreSound.insertOther⟩
  | commit seq =>
    have hcommit : (if seq ∈ store.uncommitted then some (store.commit seq, client) else none) =
      some (store', client') := h
    split at hcommit
    · next hseq =>
      cases hcommit
      exact ⟨⟨[seq], rfl⟩, fun hsound => hsound.commit hseq⟩
    · cases hcommit
  | rollback seq =>
    cases h
    exact ⟨List.prefix_rfl, fun hsound => hsound.rollback seq⟩
  | connect => exact hsame (connect_eq_some h).2.1
  | readOpening =>
    obtain ⟨after, -, heq⟩ := Option.map_eq_some_iff.mp h
    cases heq
    exact hsame rfl
  | receive =>
    obtain ⟨_, _, _, -, -, hstore, -⟩ := receive_eq_some h
    exact hsame hstore
  | disconnect =>
    obtain ⟨_, -, hstore, -⟩ := disconnect_eq_some h
    exact hsame hstore
  | subscribe position =>
    obtain ⟨_, _, -, -, hstore, -⟩ := onStream_eq_some h
    exact hsame hstore
  | sendReady =>
    obtain ⟨_, _, -, -, hstore, -⟩ := onStream_eq_some h
    exact hsame hstore
  | sendRow =>
    obtain ⟨_, _, -, -, hstore, -⟩ := onStream_eq_some h
    exact hsame hstore
  | takeTask =>
    obtain ⟨_, _, -, -, hstore, -⟩ := onStream_eq_some h
    exact hsame hstore
  | dispatch =>
    obtain ⟨_, _, -, -, hstore, -⟩ := onStream_eq_some h
    exact hsame hstore
  | lose =>
    obtain ⟨_, _, -, -, hstore, -⟩ := onStream_eq_some h
    exact hsame hstore
  | reconnected =>
    obtain ⟨_, _, -, -, hstore, -⟩ := onStream_eq_some h
    exact hsame hstore

theorem ClientSound.connect (h : ClientSound store client) :
    ClientSound store { client with stream := some (.start client.lastEventId) } := by
  refine ⟨h.1, fun stream hstream => ?_⟩
  cases hstream
  exact ⟨⟨Nat.zero_le _, List.drop_nil.symm, List.nodup_nil⟩, rfl⟩

/-- Reading where a stream begins: after the last id, or after what is committed so far. -/
theorem ClientSound.readOpening (hstore : StoreSound store) (h : ClientSound store client)
    (hmeets : NothingLost i .readOpening store client)
    (hread : EventStreams.readOpening store client = some client') : ClientSound store client' := by
  unfold EventStreams.readOpening at hread
  split at hread
  · cases hread
  · next stream hstream =>
    have hsound := h.2 stream hstream
    have hdoing := hsound.doing
    have hsent : ∀ activity, stream.activity = .subscribed activity → stream.sent = [] := by
      intro activity hactivity
      unfold Doing at hdoing
      rw [hactivity] at hdoing
      exact hdoing
    split at hread
    · next hactivity =>
      cases hread
      have hnone := hsent none hactivity
      refine ⟨fun count hcount => ?_, fun other hother => ?_⟩
      · cases hcount
        exact Nat.le_refl _
      · cases hother
        refine ⟨⟨hsound.position, hsound.delivered, hsound.nodup⟩, ?_⟩
        have hbehind : ∀ seq ∈ stream.sent, seq ≤ store.latestEventSeq := by
          rw [hnone]
          exact fun _ hseq => nomatch hseq
        refine ⟨hbehind, List.Pairwise.nil, fun _ hrow => (nomatch hrow), fun seq hseq => ?_⟩
        dsimp only at hseq
        rw [Option.getD_some, List.drop_length] at hseq
        cases hseq
    · next lastEventId hactivity =>
      cases hread
      have hnone := hsent _ hactivity
      have hreads : lastEventId ∈ readsFrom .readOpening client := by
        simp [readsFrom, hstream, hactivity]
      have hrest : ∀ seq ∈ store.committed, LeftOut store lastEventId seq →
          Done store client.openedAfter (client.earlier ++ stream.sent) seq ∨
            Coming store stream seq := by
        intro seq hseq hleft
        have hlost := hmeets.2 lastEventId hreads stream hstream seq hseq hleft
        unfold Client.sentSoFar at hlost
        rw [hstream] at hlost
        rcases hlost with hdone | hqueued | hdrop
        · exact .inl hdone
        · exact .inr (.inl hqueued)
        · exact .inr (.inr (.inl hdrop))
      have hbehind : ∀ seq ∈ stream.sent, seq ≤ lastEventId := by
        rw [hnone]
        exact fun _ hseq => nomatch hseq
      obtain ⟨hsince, hascending, hahead, hcovered⟩ :=
        @begun_pending store client { stream with cursor := lastEventId } hstore hbehind hrest
      have hopened : StreamSound store client { stream with
          activity := .opened (store.pending lastEventId), cursor := lastEventId } :=
        ⟨⟨hsound.position, hsound.delivered, hsound.nodup⟩, hsince, hascending, hahead, hcovered⟩
      exact h.change hopened client.lastEventId
    · cases hread

theorem StreamSound.dispatch {stream : EventStream} {seq : ℕ} (h : StreamSound store client stream)
    (hnext : store.committed[stream.position]? = some seq) :
    StreamSound store client
      { stream with position := stream.position + 1, queue := stream.queue ++ [.event seq] } := by
  obtain ⟨hlt, hseq⟩ := List.getElem?_eq_some_iff.mp hnext
  refine h.reroute rfl rfl rfl rfl hlt fun other hcoming => ?_
  rcases hcoming with hqueued | hdrop | hlost | hresync
  · exact .inl (List.mem_append_left _ hqueued)
  · rw [List.drop_eq_getElem_cons hlt, hseq] at hdrop
    rcases List.mem_cons.mp hdrop with hsame | hlater
    · rw [hsame]
      exact .inl (List.mem_append_right _ (List.mem_singleton.mpr rfl))
    · exact .inr (.inl hlater)
  · exact .inr (.inr (.inl hlost))
  · exact .inr (.inr (.inr (List.mem_append_left _ hresync)))

theorem StreamSound.lose {stream : EventStream} (h : StreamSound store client stream)
    (hlt : stream.position < store.committed.length) :
    StreamSound store client { stream with position := stream.position + 1, lost := true } :=
  h.reroute rfl rfl rfl rfl hlt fun _ _ => .inr (.inr (.inl rfl))

theorem StreamSound.reconnected {stream : EventStream} (h : StreamSound store client stream) :
    StreamSound store client { stream with lost := false, queue := stream.queue ++ [.resync] } := by
  refine h.reroute rfl rfl rfl rfl h.position fun other hcoming => ?_
  rcases hcoming with hqueued | hdrop | hlost | hresync
  · exact .inl (List.mem_append_left _ hqueued)
  · exact .inr (.inl hdrop)
  · exact .inr (.inr (.inr (List.mem_append_right _ (List.mem_singleton.mpr rfl))))
  · exact .inr (.inr (.inr (List.mem_append_left _ hresync)))

theorem StreamSound.sendReady {stream : EventStream} {rows : List ℕ}
    (h : StreamSound store client stream) (hactivity : stream.activity = .opened rows) :
    StreamSound store client
      { stream with activity := .sending rows, written := stream.written ++ [stream.cursor] } := by
  have hdoing := h.doing
  unfold Doing at hdoing
  rw [hactivity] at hdoing
  exact ⟨⟨h.position, h.delivered, h.nodup⟩,
    ⟨hdoing.behind, hdoing.ascending, hdoing.ahead, hdoing.covered⟩⟩

theorem StreamSound.subscribe {stream : EventStream} {lastEventId : Option ℕ} {position : ℕ}
    (h : StreamSound store client stream) (hactivity : stream.activity = .starting lastEventId)
    (hposition : position ≤ store.committed.length) :
    StreamSound store client
      { stream with activity := .subscribed lastEventId, position := position } := by
  have hdoing := h.doing
  unfold Doing at hdoing
  rw [hactivity] at hdoing
  exact ⟨⟨hposition, h.delivered, h.nodup⟩, hdoing⟩

/-- An id that reaches the client leaves its stream as it was. -/
theorem ClientSound.receive {stream : EventStream} {id : ℕ} {written : List ℕ}
    (h : ClientSound store client) (hstream : client.stream = some stream) :
    ClientSound store { client with
      lastEventId := some id, stream := some { stream with written := written } } := by
  have hsound : StreamSound store client { stream with written := written } :=
    (h.2 stream hstream).reroute rfl rfl rfl rfl (h.2 stream hstream).position fun _ hcoming => hcoming
  exact h.change hsound (some id)

/-- A client keeps what holds of it with its own statements. -/
theorem ClientSound.own (hstore : StoreSound store) (h : ClientSound store client)
    (hmeets : NothingLost i statement store client)
    (hprogram : program i statement store client = some (store', client')) :
    ClientSound store' client' := by
  have hgrows := (program_grows hprogram).1
  cases statement with
  | insert =>
    cases hprogram
    exact h.grow hgrows
  | insertOther =>
    cases hprogram
    exact h.grow hgrows
  | commit seq =>
    have hcommit : (if seq ∈ store.uncommitted then some (store.commit seq, client) else none) =
      some (store', client') := hprogram
    split at hcommit
    · cases hcommit
      exact h.grow hgrows
    · cases hcommit
  | rollback seq =>
    cases hprogram
    exact h.grow hgrows
  | connect =>
    obtain ⟨-, rfl, rfl⟩ := connect_eq_some hprogram
    exact h.connect
  | readOpening =>
    obtain ⟨after, hread, heq⟩ := Option.map_eq_some_iff.mp hprogram
    cases heq
    exact h.readOpening hstore hmeets hread
  | receive =>
    obtain ⟨stream, id, written, hstream, -, rfl, rfl⟩ := receive_eq_some hprogram
    exact h.receive hstream
  | disconnect =>
    obtain ⟨stream, -, rfl, rfl⟩ := disconnect_eq_some hprogram
    exact ⟨h.1, fun _ hother => nomatch hother⟩
  | subscribe position =>
    obtain ⟨stream, stream', hstream, hchange, rfl, rfl⟩ := onStream_eq_some hprogram
    split at hchange
    · next lastEventId hactivity =>
      split at hchange
      · next hposition =>
        cases hchange
        exact h.change
          ((h.2 stream hstream).subscribe hactivity hposition) _
      · cases hchange
    · cases hchange
  | sendReady =>
    obtain ⟨stream, stream', hstream, hchange, rfl, rfl⟩ := onStream_eq_some hprogram
    split at hchange
    · next rows hactivity =>
      cases hchange
      exact h.change ((h.2 stream hstream).sendReady hactivity) _
    · cases hchange
  | sendRow =>
    obtain ⟨stream, stream', hstream, hchange, rfl, rfl⟩ := onStream_eq_some hprogram
    exact h.change ((h.2 stream hstream).sendRow hchange) _
  | takeTask =>
    obtain ⟨stream, stream', hstream, hchange, rfl, rfl⟩ := onStream_eq_some hprogram
    have hnothing : ∀ queue, stream.activity = .waiting → stream.queue = .resync :: queue →
        ∀ seq ∈ store'.committed, LeftOut store' stream.cursor seq →
          Done store' client.openedAfter (client.earlier ++ stream.sent) seq ∨
            .event seq ∈ stream.queue ∨ seq ∈ store'.committed.drop stream.position := by
      intro queue hactivity hqueue seq hseq hleft
      have hreads : stream.cursor ∈ readsFrom .takeTask client := by
        simp [readsFrom, hstream, hactivity, hqueue]
      have hlost := hmeets.2 stream.cursor hreads stream hstream seq hseq hleft
      unfold Client.sentSoFar at hlost
      rw [hstream] at hlost
      exact hlost
    have hmemory : ∀ seq queue, stream.activity = .waiting → stream.queue = .event seq :: queue →
        seq ∈ stream.sent → seq ∈ stream.sent.drop (stream.sent.length - deliveredMemory) := by
      intro seq queue hactivity hqueue
      have hsends : seq ∈ sends .takeTask client := by
        simp [sends, hstream, hactivity, hqueue]
      exact hmeets.1.2 seq hsends stream hstream
    exact h.change ((h.2 stream hstream).takeTask hstore hnothing hmemory hchange) _
  | dispatch =>
    obtain ⟨stream, stream', hstream, hchange, rfl, rfl⟩ := onStream_eq_some hprogram
    split at hchange
    · next seq hnext =>
      split at hchange
      · cases hchange
        exact h.change ((h.2 stream hstream).dispatch hnext) _
      · cases hchange
    · cases hchange
  | lose =>
    obtain ⟨stream, stream', hstream, hchange, rfl, rfl⟩ := onStream_eq_some hprogram
    split at hchange
    · next hlost =>
      cases hchange
      exact h.change ((h.2 stream hstream).lose hlost.2) _
    · cases hchange
  | reconnected =>
    obtain ⟨stream, stream', hstream, hchange, rfl, rfl⟩ := onStream_eq_some hprogram
    split at hchange
    · cases hchange
      exact h.change (h.2 stream hstream).reconnected _
    · cases hchange

theorem program_keeps : Keeps (@program ι) NothingLost StoreSound (fun _ => ClientSound)
    (fun _ _ => True) where
  symm := fun _ _ _ => trivial
  own := fun _ _ _ _ _ _ hmeets h hstore hclient =>
    ⟨(program_grows h).2 hstore, hclient.own hstore hmeets h⟩
  other := fun _ _ _ _ _ _ _ _ _ _ h _ _ hother _ => ⟨hother.grow (program_grows h).1, trivial⟩

/-- In a run in which replays leave out only what is done with or has an event that still comes, a
stream that is at rest has sent, or an earlier one of its client has, every notification committed
after the first was opened, and no stream sends one twice. -/
theorem events_reach_the_client [DecidableEq ι] {c : Interleaving ι Store Client}
    (hrun : Run program NothingLost (EventStreams.start ι) c) (i : ι) :
    ∀ stream ∈ (c.phase i).stream, stream.sent.Nodup ∧
      (stream.AtRest c.shared → ∀ count ∈ (c.phase i).openedAfter,
        ∀ seq ∈ c.shared.committed.drop count, seq ∈ (c.phase i).earlier ++ stream.sent) := by
  have hstart : Holds StoreSound (fun _ : ι => ClientSound) (fun _ _ => True)
      (EventStreams.start ι) := by
    have hstore : StoreSound (EventStreams.start ι).shared :=
      ⟨fun _ hseq => (nomatch hseq), List.nodup_nil⟩
    have hclient : ∀ i, ClientSound (EventStreams.start ι).shared ((EventStreams.start ι).phase i) :=
      fun _ => ⟨fun _ hcount => (nomatch hcount), fun _ hstream => nomatch hstream⟩
    exact ⟨hstore, hclient, fun _ _ _ => trivial⟩
  have hholds := program_keeps.run hrun hstart
  intro stream hstream
  have hsound := (hholds.client i).2 stream hstream
  refine ⟨hsound.nodup, fun ⟨hactivity, hqueue, hposition, hlost⟩ count hcount seq hseq => ?_⟩
  have hdoing := hsound.doing
  unfold Doing at hdoing
  rw [hactivity] at hdoing
  have hcount : (c.phase i).openedAfter = some count := hcount
  by_contra hunsent
  have hseq' : seq ∈ c.shared.committed.drop ((c.phase i).openedAfter.getD 0) := by
    rw [hcount]
    exact hseq
  rcases hdoing.covered seq hseq' hunsent with hrow | hqueued | hdrop | hlost' | hresync
  · cases hrow
  · rw [hqueue] at hqueued
    cases hqueued
  · rw [hposition, List.drop_length] at hdrop
    cases hdrop
  · rw [hlost] at hlost'
    cases hlost'
  · rw [hqueue] at hresync
    cases hresync

end Runs

section Samples

/-- A client opens its first stream, and receives where it begins. -/
def firstStream : List (Bool × Statement) :=
  [(false, .connect), (false, .subscribe 0), (false, .readOpening), (false, .sendReady),
    (false, .sendRow), (false, .receive)]

/-- Two notifications are committed in their order. The second one is sent after a new start. -/
def committedInOrder : List (Bool × Statement) :=
  [(true, .insert), (true, .insert), (true, .commit 1), (false, .dispatch), (false, .takeTask),
    (false, .receive), (true, .commit 2), (false, .disconnect), (false, .connect),
    (false, .subscribe 2), (false, .readOpening), (false, .sendReady), (false, .sendRow),
    (false, .sendRow)]

theorem events_reach_the_client_again : ∃ c : Interleaving Bool Store Client,
    Run program NothingLost (EventStreams.start Bool) c ∧
      (∀ stream ∈ (c.phase false).stream, stream.sent.Nodup ∧
        (stream.AtRest c.shared → ∀ count ∈ (c.phase false).openedAfter,
          ∀ seq ∈ c.shared.committed.drop count, seq ∈ (c.phase false).earlier ++ stream.sent)) ∧
      (∃ stream ∈ (c.phase false).stream, stream.AtRest c.shared ∧ stream.sent = [2]) := by
  obtain ⟨c, hrun, hseen⟩ : ∃ c : Interleaving Bool Store Client,
      Run program NothingLost (EventStreams.start Bool) c ∧
        (c.phase false).stream.any (fun stream =>
          decide (stream.AtRest c.shared ∧ stream.sent = [2])) = true :=
    exists_run (firstStream ++ committedInOrder) (by decide +kernel)
  refine ⟨c, hrun, events_reach_the_client hrun false, ?_⟩
  obtain ⟨stream, hstream, hrest⟩ := (Option.any_eq_true _ _).mp hseen
  exact ⟨stream, hstream, of_decide_eq_true hrest⟩

/-- The second notification is committed and sent first. The number that the client comes back
with is above the first one, which is committed while it is away. -/
def committedOutOfOrder : List (Bool × Statement) :=
  [(true, .insert), (true, .insert), (true, .commit 2), (false, .dispatch), (false, .takeTask),
    (false, .receive), (false, .disconnect), (true, .commit 1), (false, .connect),
    (false, .subscribe 2), (false, .readOpening), (false, .sendReady), (false, .sendRow)]

theorem late_commit_is_lost : ¬∀ c : Interleaving Bool Store Client,
    Run program Within (EventStreams.start Bool) c → ∀ i, ∀ stream ∈ (c.phase i).stream,
      stream.sent.Nodup ∧ (stream.AtRest c.shared → ∀ count ∈ (c.phase i).openedAfter,
        ∀ seq ∈ c.shared.committed.drop count, seq ∈ (c.phase i).earlier ++ stream.sent) := by
  intro hclaim
  obtain ⟨c, hrun, hseen⟩ : ∃ c : Interleaving Bool Store Client,
      Run program Within (EventStreams.start Bool) c ∧
        (c.phase false).stream.any (fun stream =>
          decide (stream.AtRest c.shared ∧ (c.phase false).openedAfter = some 0 ∧
            1 ∈ c.shared.committed ∧ 1 ∉ (c.phase false).earlier ++ stream.sent)) = true :=
    exists_run (firstStream ++ committedOutOfOrder) (by decide +kernel)
  obtain ⟨stream, hstream, hrest⟩ := (Option.any_eq_true _ _).mp hseen
  obtain ⟨hatRest, hopened, hcommitted, hunsent⟩ := of_decide_eq_true hrest
  exact hunsent ((hclaim c hrun false stream hstream).2 hatRest 0 hopened 1 hcommitted)

end Samples

end InternalControl.EventStreams
