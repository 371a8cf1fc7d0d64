import Mathlib.Logic.Relation
import Mathlib.Logic.Function.Basic
import Mathlib.Tactic.Common

/-!
# Transactions under row locks

A transaction locks rows, reads what is committed, and ends with one write. A
lock waits while another transaction has the row in a mode that conflicts, and
between any two steps of a transaction the others go on.

A state may hold a row in several ways, and some ways exclude each other. A
transaction that takes a hold only on rows it has locked, after it has seen
them free of what excludes it, keeps such holds apart in every interleaving.
-/

namespace InternalControl.RowLocks

variable {σ ρ ε κ ι α : Type}

/-- How a row is locked. -/
inductive Mode where
  | share
  | update
  deriving DecidableEq

/-- Two transactions may not have a row in these modes at once. -/
def Mode.Conflicts (mode other : Mode) : Prop := mode = .update ∨ other = .update

theorem Mode.Conflicts.symm {mode other : Mode} (h : mode.Conflicts other) :
    other.Conflicts mode := Or.symm h

/-- What a transaction has left to do. -/
inductive Program (σ ρ ε : Type) where
  /-- Lock a row. A row that is not there yet is one that nobody can name. -/
  | lock (mode : Mode) (row : ρ) (rest : Program σ ρ ε)
  /-- Read what is committed. -/
  | read (rest : σ → Program σ ρ ε)
  | refuse (error : ε)
  | commit (write : σ → Except ε σ)

namespace Program

/-- Lock rows one after another. -/
def lockAll (mode : Mode) (rows : List ρ) (rest : Program σ ρ ε) : Program σ ρ ε :=
  rows.foldr (lock mode) rest

/-- Go on with what a check gives, or refuse. -/
def check (outcome : Except ε α) (rest : α → Program σ ρ ε) : Program σ ρ ε :=
  match outcome with
  | .ok value => rest value
  | .error error => refuse error

/-- Read, and go on with what a query gives. -/
def ask (query : σ → Except ε α) (rest : α → Program σ ρ ε) : Program σ ρ ε :=
  read fun store => check (query store) rest

/-- A program alone: what it leaves of a store that nobody else changes. -/
def run : Program σ ρ ε → σ → Except ε σ
  | lock _ _ rest, store => rest.run store
  | read rest, store => (rest store).run store
  | refuse error, _ => .error error
  | commit write, store => write store

@[simp] theorem run_commit (write : σ → Except ε σ) (store : σ) :
    (commit write : Program σ ρ ε).run store = write store := rfl

@[simp] theorem run_lock (mode : Mode) (row : ρ) (rest : Program σ ρ ε) (store : σ) :
    (lock mode row rest).run store = rest.run store := rfl

@[simp] theorem run_lockAll (mode : Mode) (rows : List ρ) (rest : Program σ ρ ε) (store : σ) :
    (lockAll mode rows rest).run store = rest.run store := by
  induction rows with
  | nil => rfl
  | cons row rows ih => exact ih

@[simp] theorem run_check (outcome : Except ε α) (rest : α → Program σ ρ ε) (store : σ) :
    (check outcome rest).run store = outcome >>= fun value => (rest value).run store := by
  cases outcome <;> rfl

@[simp] theorem run_ask (query : σ → Except ε α) (rest : α → Program σ ρ ε) (store : σ) :
    (ask query rest).run store = query store >>= fun value => (rest value).run store :=
  run_check (query store) rest store

end Program

/-! ### Interleavings -/

/-- A transaction that is running. -/
structure Transaction (σ ρ ε ι : Type) where
  label : ι
  locks : List (ρ × Mode)
  rest : Program σ ρ ε

/-- What is committed, and the transactions that are running. -/
structure Database (σ ρ ε ι : Type) where
  store : σ
  running : ℕ → Option (Transaction σ ρ ε ι)

/-- The transactions of a system: what each does, when it may commit, and what
else changes the store. -/
structure Workload (σ ρ ε ι : Type) where
  program : ι → Program σ ρ ε
  permitted : ι → List (ρ × Mode) → σ → Prop
  background : σ → σ → Prop

/-- A database with nobody at work. -/
def idle (store : σ) : Database σ ρ ε ι := ⟨store, fun _ => none⟩

/-- A transaction in its place. -/
def Database.put (db : Database σ ρ ε ι) (n : ℕ) (transaction : Option (Transaction σ ρ ε ι)) :
    Database σ ρ ε ι :=
  { db with running := Function.update db.running n transaction }

theorem Database.put_running (db : Database σ ρ ε ι) (n m : ℕ)
    (transaction : Option (Transaction σ ρ ε ι)) :
    (db.put n transaction).running m = if m = n then transaction else db.running m :=
  Function.update_apply db.running n transaction m

/-- No other transaction has the row in a mode that conflicts. -/
def Database.Grants (db : Database σ ρ ε ι) (n : ℕ) (mode : Mode) (row : ρ) : Prop :=
  ∀ m other taken, m ≠ n → db.running m = some other → (row, taken) ∈ other.locks →
    ¬mode.Conflicts taken

/-- One step of one transaction, or of what else changes the store. -/
inductive Step (workload : Workload σ ρ ε ι) (db : Database σ ρ ε ι) : Database σ ρ ε ι → Prop
  | begin (n : ℕ) (label : ι) (hfree : db.running n = none) :
      Step workload db (db.put n (some ⟨label, [], workload.program label⟩))
  | lock (n : ℕ) (label : ι) (locks : List (ρ × Mode)) (mode : Mode) (row : ρ)
      (rest : Program σ ρ ε) (hrunning : db.running n = some ⟨label, locks, .lock mode row rest⟩)
      (hgranted : db.Grants n mode row) :
      Step workload db (db.put n (some ⟨label, (row, mode) :: locks, rest⟩))
  | read (n : ℕ) (label : ι) (locks : List (ρ × Mode)) (rest : σ → Program σ ρ ε)
      (hrunning : db.running n = some ⟨label, locks, .read rest⟩) :
      Step workload db (db.put n (some ⟨label, locks, rest db.store⟩))
  | commit (n : ℕ) (label : ι) (locks : List (ρ × Mode)) (write : σ → Except ε σ) (after : σ)
      (hrunning : db.running n = some ⟨label, locks, .commit write⟩)
      (hpermitted : workload.permitted label locks db.store)
      (hwrite : write db.store = .ok after) :
      Step workload db ({ db with store := after }.put n none)
  | abort (n : ℕ) : Step workload db (db.put n none)
  | background (after : σ) (h : workload.background db.store after) :
      Step workload db { db with store := after }

/-! ### Holds that exclude each other -/

/-- The ways a row may be held, the mode in which a hold needs its row locked,
and which holds exclude each other. -/
structure Exclusion (σ ρ κ : Type) where
  held : κ → ρ → σ → Prop
  mode : κ → Mode
  Excludes : κ → κ → Prop
  symm : ∀ {kind other}, Excludes kind other → Excludes other kind

namespace Exclusion

variable (exclusion : Exclusion σ ρ κ)

/-- No row is held in two ways that exclude each other. -/
def Apart (store : σ) : Prop :=
  ∀ kind other row, exclusion.Excludes kind other → exclusion.held kind row store →
    ¬exclusion.held other row store

/-- The row is locked as a hold of the kind needs it. -/
def Locked (locks : List (ρ × Mode)) (kind : κ) (row : ρ) : Prop :=
  ∃ mode, (row, mode) ∈ locks ∧ (mode = .update ∨ mode = exclusion.mode kind)

/-- The row is locked in a mode that keeps the others from a hold of the kind. -/
def Guarded (locks : List (ρ × Mode)) (kind : κ) (row : ρ) : Prop :=
  ∃ mode, (row, mode) ∈ locks ∧ mode.Conflicts (exclusion.mode kind)

/-- What is known to be free after a read: what was, and what the read shows
of the rows that are guarded. -/
def Learned (locks : List (ρ × Mode)) (known : κ → ρ → Prop) (store : σ) (kind : κ) (row : ρ) :
    Prop :=
  known kind row ∨ exclusion.Guarded locks kind row ∧ ¬exclusion.held kind row store

/-- The store is as free as it is known to be. -/
def Free (known : κ → ρ → Prop) (store : σ) : Prop :=
  ∀ kind row, known kind row → ¬exclusion.held kind row store

/-- The write takes holds only on rows that are locked for them, and free of
what excludes them. -/
def Careful (locks : List (ρ × Mode)) (store after : σ) : Prop :=
  ∀ kind row, exclusion.held kind row after →
    exclusion.held kind row store ∨ exclusion.Locked locks kind row ∧
      ∀ other, exclusion.Excludes kind other → ¬exclusion.held other row after

/-- What is left of a transaction is careful, given what it has locked and what
it knows to be free. -/
def Safe (permitted : List (ρ × Mode) → σ → Prop) :
    List (ρ × Mode) → (κ → ρ → Prop) → Program σ ρ ε → Prop
  | locks, known, .lock mode row rest => Safe permitted ((row, mode) :: locks) known rest
  | locks, known, .read rest =>
    ∀ store, exclusion.Free known store →
      Safe permitted locks (exclusion.Learned locks known store) (rest store)
  | _, _, .refuse _ => True
  | locks, known, .commit write =>
    ∀ store after, write store = .ok after → exclusion.Free known store →
      permitted locks store → exclusion.Careful locks store after

/-! ### Rules -/

/-- The locks after some more. -/
def lockedAll (mode : Mode) (rows : List ρ) (locks : List (ρ × Mode)) : List (ρ × Mode) :=
  rows.foldl (fun locks row => (row, mode) :: locks) locks

theorem mem_lockedAll {mode : Mode} {rows : List ρ} {locks : List (ρ × Mode)} {lock : ρ × Mode} :
    lock ∈ lockedAll mode rows locks ↔ lock.1 ∈ rows ∧ lock.2 = mode ∨ lock ∈ locks := by
  induction rows generalizing locks with
  | nil => simp [lockedAll]
  | cons row rows ih =>
    have hrest : lockedAll mode (row :: rows) locks = lockedAll mode rows ((row, mode) :: locks) :=
      rfl
    rw [hrest, ih, List.mem_cons, List.mem_cons, Prod.ext_iff]
    tauto

variable {exclusion} {permitted : List (ρ × Mode) → σ → Prop} {locks : List (ρ × Mode)}
  {known : κ → ρ → Prop}

theorem safe_lockAll {mode : Mode} {rows : List ρ} {rest : Program σ ρ ε}
    (h : exclusion.Safe permitted (lockedAll mode rows locks) known rest) :
    exclusion.Safe permitted locks known (.lockAll mode rows rest) := by
  induction rows generalizing locks with
  | nil => exact h
  | cons row rows ih => exact ih h

theorem safe_check {outcome : Except ε α} {rest : α → Program σ ρ ε}
    (h : ∀ value, outcome = .ok value → exclusion.Safe permitted locks known (rest value)) :
    exclusion.Safe permitted locks known (.check outcome rest) := by
  cases outcome with
  | ok value => exact h value rfl
  | error error => trivial

theorem safe_ask {query : σ → Except ε α} {rest : α → Program σ ρ ε}
    (h : ∀ store value, exclusion.Free known store → query store = .ok value →
      exclusion.Safe permitted locks (exclusion.Learned locks known store) (rest value)) :
    exclusion.Safe permitted locks known (.ask query rest) :=
  fun store hfree => safe_check fun value hvalue => h store value hfree hvalue

/-- More locks guard what was guarded. -/
theorem Guarded.cons {kind : κ} {row : ρ} (h : exclusion.Guarded locks kind row)
    (lock : ρ × Mode) : exclusion.Guarded (lock :: locks) kind row := by
  obtain ⟨mode, hlocked, hconflicts⟩ := h
  exact ⟨mode, List.mem_cons_of_mem _ hlocked, hconflicts⟩

/-- A row that one transaction has locked for a hold is guarded by no other. -/
theorem Locked.conflicts {taken : List (ρ × Mode)} {kind : κ} {row : ρ}
    (hlocked : exclusion.Locked locks kind row) (hguarded : exclusion.Guarded taken kind row) :
    ∃ mode other, (row, mode) ∈ locks ∧ (row, other) ∈ taken ∧ mode.Conflicts other := by
  obtain ⟨mode, hmode, hstrong⟩ := hlocked
  obtain ⟨other, hother, hconflicts⟩ := hguarded
  refine ⟨mode, other, hmode, hother, ?_⟩
  rcases hstrong with hupdate | hsame
  · exact Or.inl hupdate
  · exact hsame ▸ hconflicts.symm

end Exclusion

/-! ### A transaction that runs alone -/

section Alone

variable {workload : Workload σ ρ ε ι}

/-- A database with one transaction at work. -/
def working (store : σ) (transaction : Transaction σ ρ ε ι) : Database σ ρ ε ι :=
  (idle store).put 0 (some transaction)

theorem put_put (db : Database σ ρ ε ι) (n : ℕ) (one other : Option (Transaction σ ρ ε ι)) :
    (db.put n one).put n other = db.put n other := by
  rw [Database.put, Database.put, Database.put, Function.update_idem]

theorem put_idle (store : σ) (n : ℕ) :
    (idle store : Database σ ρ ε ι).put n none = idle store := by
  rw [Database.put, idle, Function.update_eq_self]

theorem working_running (store : σ) (transaction : Transaction σ ρ ε ι) :
    (working store transaction).running 0 = some transaction := by
  rw [working, Database.put_running, if_pos rfl]

/-- Nobody is in the way of a transaction that is alone. -/
theorem working_grants (store : σ) (transaction : Transaction σ ρ ε ι) (mode : Mode) (row : ρ) :
    (working store transaction).Grants 0 mode row := by
  intro m other taken hne hother
  rw [working, Database.put_running, if_neg hne] at hother
  cases hother

/-- A transaction that goes through alone takes the database from what was to
what it leaves. -/
theorem run_working {label : ι} {store after : σ} (hpermitted : ∀ locks,
    workload.permitted label locks store) (program : Program σ ρ ε) (locks : List (ρ × Mode))
    (h : program.run store = .ok after) :
    Relation.ReflTransGen (Step workload) (working store ⟨label, locks, program⟩) (idle after) := by
  induction program generalizing locks with
  | lock mode row rest ih =>
    have hstep := @Step.lock _ _ _ _ workload _ 0 label locks mode row rest
      (working_running store _) (working_grants store _ mode row)
    rw [working, put_put] at hstep
    exact Relation.ReflTransGen.head hstep (ih ((row, mode) :: locks) h)
  | read rest ih =>
    have hstep := @Step.read _ _ _ _ workload _ 0 label locks rest (working_running store _)
    rw [working, put_put] at hstep
    exact Relation.ReflTransGen.head hstep (ih store locks h)
  | refuse error => cases h
  | commit write =>
    have hstep := @Step.commit _ _ _ _ workload _ 0 label locks write after
      (working_running store _) (hpermitted locks) h
    refine Relation.ReflTransGen.single ?_
    have hidle : ({ working store ⟨label, locks, .commit write⟩ with store := after } :
        Database σ ρ ε ι).put 0 none = idle after :=
      (put_put (idle after) 0 _ none).trans (put_idle after 0)
    exact hidle ▸ hstep

theorem run_alone {label : ι} {store after : σ}
    (hpermitted : ∀ locks, workload.permitted label locks store)
    (h : (workload.program label).run store = .ok after) :
    Relation.ReflTransGen (Step workload) (idle store) (idle after) :=
  Relation.ReflTransGen.head (.begin 0 label rfl) (run_working hpermitted _ [] h)

end Alone

/-! ### The invariant -/

/-- The holds are apart, no two transactions have locks that conflict, and
each goes on from what is still so. -/
structure Invariant (exclusion : Exclusion σ ρ κ) (workload : Workload σ ρ ε ι)
    (db : Database σ ρ ε ι) : Prop where
  apart : exclusion.Apart db.store
  compatible : ∀ n m one other row mode taken, n ≠ m → db.running n = some one →
    db.running m = some other → (row, mode) ∈ one.locks → (row, taken) ∈ other.locks →
      ¬mode.Conflicts taken
  safe : ∀ n one, db.running n = some one → ∃ known, exclusion.Free known db.store ∧
    (∀ kind row, known kind row → exclusion.Guarded one.locks kind row) ∧
      exclusion.Safe (workload.permitted one.label) one.locks known one.rest

section Invariant

variable {exclusion : Exclusion σ ρ κ} {workload : Workload σ ρ ε ι} {db : Database σ ρ ε ι}

/-- A database with nobody at work is in order when its holds are apart. -/
theorem invariant_idle {store : σ} (h : exclusion.Apart store) :
    Invariant exclusion workload (idle store) :=
  ⟨h, nofun, nofun⟩

/-- A transaction takes a step that leaves the store as it is. -/
theorem Invariant.put (h : Invariant exclusion workload db) (n : ℕ)
    (transaction : Transaction σ ρ ε ι)
    (hlocks : ∀ lock ∈ transaction.locks, (∃ before, db.running n = some before ∧
      lock ∈ before.locks) ∨ db.Grants n lock.2 lock.1)
    (hsafe : ∃ known, exclusion.Free known db.store ∧
      (∀ kind row, known kind row → exclusion.Guarded transaction.locks kind row) ∧
        exclusion.Safe (workload.permitted transaction.label) transaction.locks known
          transaction.rest) :
    Invariant exclusion workload (db.put n (some transaction)) := by
  have hagainst : ∀ m other row mode taken, m ≠ n → db.running m = some other →
      (row, mode) ∈ transaction.locks → (row, taken) ∈ other.locks → ¬mode.Conflicts taken := by
    intro m other row mode taken hne hother hmode htaken
    rcases hlocks _ hmode with ⟨before, hbefore, hmem⟩ | hgranted
    · exact h.compatible n m before other row mode taken hne.symm hbefore hother hmem htaken
    · exact hgranted m other taken hne hother htaken
  refine ⟨h.apart, ?_, ?_⟩
  · intro p m one other row mode taken hne hone hother hmode htaken
    rw [Database.put_running] at hone hother
    split at hone <;> split at hother
    · next hp hm => exact absurd (hp.trans hm.symm) hne
    · next hp hm =>
      obtain rfl := Option.some.inj hone
      exact hagainst m other row mode taken hm hother hmode htaken
    · next hp hm =>
      obtain rfl := Option.some.inj hother
      exact fun hconflicts =>
        hagainst p one row taken mode hp hone htaken hmode hconflicts.symm
    · exact h.compatible p m one other row mode taken hne hone hother hmode htaken
  · intro m one hone
    rw [Database.put_running] at hone
    split at hone
    · obtain rfl := Option.some.inj hone
      exact hsafe
    · exact h.safe m one hone

/-- A transaction ends. -/
theorem Invariant.end (h : Invariant exclusion workload db) (n : ℕ) :
    Invariant exclusion workload (db.put n none) := by
  have hrunning : ∀ m one, (db.put n none).running m = some one → db.running m = some one := by
    intro m one hone
    rw [Database.put_running] at hone
    split at hone
    · cases hone
    · exact hone
  refine ⟨h.apart, ?_, fun m one hone => h.safe m one (hrunning m one hone)⟩
  intro p m one other row mode taken hne hone hother
  exact h.compatible p m one other row mode taken hne (hrunning p one hone) (hrunning m other hother)

/-- A change of the store that takes no hold. -/
theorem Invariant.background (h : Invariant exclusion workload db) {after : σ}
    (hkept : ∀ kind row, exclusion.held kind row after → exclusion.held kind row db.store) :
    Invariant exclusion workload { db with store := after } := by
  refine ⟨?_, h.compatible, ?_⟩
  · intro kind other row hexcludes hkind hother
    exact h.apart kind other row hexcludes (hkept kind row hkind) (hkept other row hother)
  · intro n one hone
    obtain ⟨known, hfree, hguarded, hsafe⟩ := h.safe n one hone
    exact ⟨known, fun kind row hknown hheld => hfree kind row hknown (hkept kind row hheld),
      hguarded, hsafe⟩

/-- A careful write leaves the holds apart. -/
theorem apart_of_careful {locks : List (ρ × Mode)} {store after : σ}
    (hapart : exclusion.Apart store) (hcareful : exclusion.Careful locks store after) :
    exclusion.Apart after := by
  intro kind other row hexcludes hkind hother
  rcases hcareful kind row hkind with hbefore | ⟨_, hfree⟩
  · rcases hcareful other row hother with hotherBefore | ⟨_, hfree⟩
    · exact hapart kind other row hexcludes hbefore hotherBefore
    · exact hfree kind (exclusion.symm hexcludes) hkind
  · exact hfree other hexcludes hother

/-- A commit keeps what the other transactions know: a hold it takes is on a
row it has locked, which no other can guard. -/
theorem Invariant.commit (h : Invariant exclusion workload db) {n : ℕ} {label : ι}
    {locks : List (ρ × Mode)} {write : σ → Except ε σ} {after : σ}
    (hrunning : db.running n = some ⟨label, locks, .commit write⟩)
    (hpermitted : workload.permitted label locks db.store) (hwrite : write db.store = .ok after) :
    Invariant exclusion workload ({ db with store := after }.put n none) := by
  obtain ⟨known, hfree, _, hsafe⟩ := h.safe n _ hrunning
  have hcareful := hsafe db.store after hwrite hfree hpermitted
  have hend := h.end n
  refine ⟨apart_of_careful h.apart hcareful, hend.compatible, ?_⟩
  intro m one hone
  obtain ⟨seen, hseen, hguarded, hrest⟩ := hend.safe m one hone
  refine ⟨seen, fun kind row hknown hheld => ?_, hguarded, hrest⟩
  rcases hcareful kind row hheld with hbefore | ⟨hlocked, _⟩
  · exact hseen kind row hknown hbefore
  · obtain ⟨mode, taken, hmode, htaken, hconflicts⟩ := hlocked.conflicts (hguarded kind row hknown)
    have hne : n ≠ m := by
      rintro rfl
      rw [Database.put_running, if_pos rfl] at hone
      cases hone
    have hother : db.running m = some one := by
      rw [Database.put_running, if_neg hne.symm] at hone
      exact hone
    exact h.compatible n m _ one row mode taken hne hrunning hother hmode htaken hconflicts

/-- Every step keeps the invariant when every program is safe and the
background takes no hold. -/
theorem Step.invariant
    (hprograms : ∀ label, exclusion.Safe (workload.permitted label) [] (fun _ _ => False)
      (workload.program label))
    (hbackground : ∀ store after, workload.background store after →
      ∀ kind row, exclusion.held kind row after → exclusion.held kind row store)
    {next : Database σ ρ ε ι} (hstep : Step workload db next)
    (h : Invariant exclusion workload db) : Invariant exclusion workload next := by
  cases hstep with
  | begin n label hfree =>
    exact h.put n _ nofun ⟨fun _ _ => False, nofun, nofun, hprograms label⟩
  | lock n label locks mode row rest hrunning hgranted =>
    obtain ⟨known, hfree, hguarded, hsafe⟩ := h.safe n _ hrunning
    refine h.put n _ (fun lock hlock => ?_)
      ⟨known, hfree, fun kind other hknown => (hguarded kind other hknown).cons _, hsafe⟩
    rcases List.mem_cons.mp hlock with rfl | hlock
    · exact Or.inr hgranted
    · exact Or.inl ⟨_, hrunning, hlock⟩
  | read n label locks rest hrunning =>
    obtain ⟨known, hfree, hguarded, hsafe⟩ := h.safe n _ hrunning
    refine h.put n _ (fun lock hlock => Or.inl ⟨_, hrunning, hlock⟩)
      ⟨exclusion.Learned locks known db.store, ?_, ?_, hsafe db.store hfree⟩
    · rintro kind row (hknown | ⟨_, hnot⟩)
      · exact hfree kind row hknown
      · exact hnot
    · rintro kind row (hknown | ⟨hlearned, _⟩)
      · exact hguarded kind row hknown
      · exact hlearned
  | commit n label locks write after hrunning hpermitted hwrite =>
    exact h.commit hrunning hpermitted hwrite
  | abort n => exact h.end n
  | background after hafter => exact h.background (hbackground db.store after hafter)

/-- In every run from a store whose holds are apart, they stay apart. -/
theorem apart_of_run
    (hprograms : ∀ label, exclusion.Safe (workload.permitted label) [] (fun _ _ => False)
      (workload.program label))
    (hbackground : ∀ store after, workload.background store after →
      ∀ kind row, exclusion.held kind row after → exclusion.held kind row store)
    {start : σ} (hstart : exclusion.Apart start)
    (hrun : Relation.ReflTransGen (Step workload) (idle start) db) : exclusion.Apart db.store := by
  have hinvariant : Invariant exclusion workload db := by
    induction hrun with
    | refl => exact invariant_idle hstart
    | tail _ hstep ih => exact hstep.invariant hprograms hbackground ih
  exact hinvariant.apart

end Invariant

end InternalControl.RowLocks
