import InternalControl.Interleaving
import InternalControl.Table
import Mathlib.Algebra.Order.Ring.Int

/-!
# The outbox of mails

Mails wait in a table until a dispatcher claims one, hands it to the mail
server and stores the outcome. These are separate statements, so that other
dispatchers run between them, and a dispatcher may stop after any of them.
Instants are the milliseconds of `NOW()`.
-/

namespace InternalControl.MailOutbox

inductive MailOutboxStatus
  | pendingSend
  | sent
  | failed
  deriving DecidableEq, Repr

def maxOutboxSendAttempts : ℕ := 3

def outboxRetryMinutes : ℕ := 5

abbrev Uuid := String

/-- A row of `mail_outbox`. -/
structure MailRow where
  id : Uuid
  templateType : String
  context : List (String × String)
  templateVersionId : Option Uuid
  deliveryStatus : MailOutboxStatus
  sendAttempts : ℕ
  sendStartedAt : Option ℤ
  lastSendError : Option String
  sentAt : Option ℤ
  deriving DecidableEq, Repr

/-- What is queued, before anybody has tried to send it. -/
structure MailOutboxEntry where
  templateType : String
  context : List (String × String)
  templateVersionId : Option Uuid
  deriving DecidableEq, Repr

def MailOutboxEntry.row (entry : MailOutboxEntry) (id : Uuid) : MailRow :=
  ⟨id, entry.templateType, entry.context, entry.templateVersionId, .pendingSend, 0, none, none, none⟩

/-- A mail that can be claimed: it waits, or failed and may be tried again, and no claim of it
is recent. -/
def MailRow.IsDue (mail : MailRow) (now : ℤ) : Prop :=
  (mail.deliveryStatus = .pendingSend ∨
    mail.deliveryStatus = .failed ∧ mail.sendAttempts < maxOutboxSendAttempts) ∧
      ∀ startedAt ∈ mail.sendStartedAt, startedAt < now - outboxRetryMinutes * 60000

instance (mail : MailRow) (now : ℤ) : Decidable (mail.IsDue now) := by
  unfold MailRow.IsDue
  infer_instance

/-- The row once it is claimed. -/
def MailRow.claimed (mail : MailRow) (now : ℤ) : MailRow :=
  { mail with sendStartedAt := some now, sendAttempts := mail.sendAttempts + 1 }

/-- An error of the source is a text, and the empty one counts as none. -/
def isError (error : Option String) : Bool :=
  match error with
  | none => false
  | some text => text ≠ ""

/-- The row once the outcome of a delivery is stored. -/
def MailRow.settled (mail : MailRow) (error : Option String) (now : ℤ) : MailRow :=
  { mail with
    deliveryStatus := if isError error then .failed else .sent
    lastSendError := error
    sentAt := if isError error then mail.sentAt else some now }

theorem MailRow.id_claimed (mail : MailRow) (now : ℤ) : (mail.claimed now).id = mail.id := rfl

theorem MailRow.id_settled (mail : MailRow) (error : Option String) (now : ℤ) :
    (mail.settled error now).id = mail.id := rfl

/-- A mail as it is handed to the mail server. -/
structure TemplatedMail where
  templateType : String
  to_ : String
  context : List (String × String)
  templateId : Option Uuid
  deriving DecidableEq, Repr

/-- A handover to the mail server, with the number of the claim that made it. -/
structure Handover where
  id : Uuid
  claim : ℕ
  mail : TemplatedMail
  deriving DecidableEq, Repr

/-- The table, and what was handed to the mail server so far. -/
structure Outbox where
  mails : Table MailRow.id
  handed : List Handover

/-- What a dispatcher knows of the mail it has claimed. -/
structure Claimed where
  id : Uuid
  templateType : String
  context : List (String × String)
  templateVersionId : Option Uuid
  email : Option String
  fullName : Option String
  /-- Which claim of the row this is. The source does not keep it. -/
  number : ℕ
  deriving DecidableEq, Repr

/-- How far a dispatcher has come. The ids are those it still has to dispatch. -/
inductive Dispatcher
  | queue (ids : List Uuid)
  | claimed (mail : Claimed) (ids : List Uuid)
  | delivered (id : Uuid) (number : ℕ) (error : Option String) (ids : List Uuid)
  deriving DecidableEq, Repr

/-- What becomes of a delivery: the server is not set up, something is raised before the mail
reaches it, or the mail is handed over and the server takes it or fails. -/
inductive Delivery
  | notReady
  | raised (message : String)
  | handed (error : Option String)
  deriving DecidableEq, Repr

/-- A statement of a dispatcher, or of a service that queues a mail. -/
inductive Statement
  | enqueue (id : Uuid) (entry : MailOutboxEntry)
  | dispatchPending (limit : ℕ) (now : ℤ)
  | dispatchNow (id : Uuid)
  | claim (now : ℤ) (email fullName : Option String)
  | deliver (delivery : Delivery)
  | record (now : ℤ)
  /-- A statement raises, and the dispatcher goes on with the next mail. -/
  | raise_
  /-- The process of the dispatcher ends. -/
  | crash
  deriving DecidableEq, Repr

/-- The ids of the mails that are due. -/
def due (mails : Table MailRow.id) (limit : ℕ) (now : ℤ) : List Uuid :=
  ((mails.rows.filter fun mail => mail.IsDue now).take limit).map MailRow.id

/-- Write a change of one row. -/
def updateMail (outbox : Outbox) (id : Uuid) (change : MailRow → MailRow)
    (hid : ∀ mail, (change mail).id = mail.id) : Outbox :=
  { outbox with mails := outbox.mails.update (fun mail => mail.id = id) change hid }

/-- The end of the transaction that claims a mail. -/
def storeClaim (outbox : Outbox) (id : Uuid) (now : ℤ) : Outbox :=
  updateMail outbox id (fun mail => mail.claimed now) fun mail => mail.id_claimed now

def storeOutcome (outbox : Outbox) (id : Uuid) (error : Option String) (now : ℤ) : Outbox :=
  updateMail outbox id (fun mail => mail.settled error now) fun mail => mail.id_settled error now

/-- What is sent: the name of the recipient goes first, and the context may replace it. -/
def templated (mail : Claimed) (email : String) : TemplatedMail :=
  ⟨mail.templateType, email, ("user.fullName", mail.fullName.getD "") :: mail.context,
    mail.templateVersionId⟩

/-- The delivery of a claimed mail, with the error that it leaves. -/
def deliver (outbox : Outbox) (mail : Claimed) (delivery : Delivery) : Outbox × Option String :=
  match mail.email.filter fun email => email ≠ "" with
  | none => (outbox, some "El destinatario no tiene correo registrado.")
  | some email =>
    match delivery with
    | .notReady => (outbox, some "El servidor de correo no está configurado o está apagado.")
    | .raised message => (outbox, some (String.ofList (message.toList.take 500)))
    | .handed error =>
      ({ outbox with handed := outbox.handed ++ [⟨mail.id, mail.number, templated mail email⟩] },
        error.map fun message => String.ofList (message.toList.take 500))

/-- The statements of the service. -/
def program {ι : Type} : Interleaving.Program ι Outbox Dispatcher Statement
  | _, .enqueue id entry, outbox, dispatcher =>
    (outbox.mails.insert (entry.row id)).map fun mails => ({ outbox with mails := mails }, dispatcher)
  | _, .dispatchPending limit now, outbox, .queue [] =>
    some (outbox, .queue (due outbox.mails limit now))
  | _, .dispatchNow id, outbox, .queue [] => some (outbox, .queue [id])
  | _, .claim now email fullName, outbox, .queue (id :: ids) =>
    match outbox.mails.find? id with
    | none => some (outbox, .queue ids)
    | some mail =>
      if mail.IsDue now then
        some (storeClaim outbox id now,
          .claimed ⟨id, mail.templateType, mail.context, mail.templateVersionId, email, fullName,
            mail.sendAttempts + 1⟩ ids)
      else some (outbox, .queue ids)
  | _, .deliver delivery, outbox, .claimed mail ids =>
    let delivered := deliver outbox mail delivery
    some (delivered.1, .delivered mail.id mail.number delivered.2 ids)
  | _, .record now, outbox, .delivered id _ error ids =>
    some (storeOutcome outbox id error now, .queue ids)
  | _, .raise_, outbox, .queue ids => some (outbox, .queue ids.tail)
  | _, .raise_, outbox, .claimed _ ids => some (outbox, .queue ids)
  | _, .raise_, outbox, .delivered _ _ _ ids => some (outbox, .queue ids)
  | _, .crash, outbox, _ => some (outbox, .queue [])
  | _, _, _, _ => none

/-- An empty outbox, and dispatchers that have nothing to do. -/
def start (ι : Type) : Interleaving ι Outbox Dispatcher :=
  ⟨⟨Table.empty, []⟩, fun _ => .queue []⟩

end InternalControl.MailOutbox
