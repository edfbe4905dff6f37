import ChatsEngine.Foundation.Pool

/-! # Transactions

Sessions work on one store, each of them in one transaction at a time, under READ
COMMITTED: a statement reads what has been committed and what its own transaction has
written. A statement takes the locks that it asks for, and has to wait while another
session holds one of them. The locks are held until the transaction ends. -/

namespace ChatsEngine

/-- What follows a statement. A session without further locals has ended. -/
inductive Continuation (Local : Type)
  | proceed (locals : Local)
  | commit (rest : Option Local)
  | rollback (rest : Option Local)
deriving DecidableEq, Repr

structure Statement (Write Lock Local : Type) where
  locks : List Lock
  writes : List Write
  next : Continuation Local
deriving DecidableEq, Repr

structure SessionProgram (Store Write Lock Local Task Choice Ambient : Type) where
  /-- The locals with which a session starts on a task. -/
  enter : Task → Local
  write : Store → Write → Store
  /-- The next statement of a session, on the store as the session sees it. -/
  advance : Store → Local → Choice → Option (Statement Write Lock Local)
  /-- What happens to the store besides the statements of the sessions. -/
  surround : Store → Ambient → Option Store

structure Session (Write Local : Type) where
  locals : Local
  /-- What the open transaction has written. -/
  pending : List Write
deriving DecidableEq, Repr

structure Sessions (Pid Store Write Lock Local : Type) where
  store : Store
  owner : Lock → Option Pid
  session : Pid → Option (Session Write Local)

variable {Pid Store Write Lock Local Task Choice Ambient : Type}

namespace Sessions

def idle (store : Store) : Sessions Pid Store Write Lock Local where
  store := store
  owner := fun _ => none
  session := fun _ => none

def Owns (sessions : Sessions Pid Store Write Lock Local) (pid : Pid) (lock : Lock) : Prop :=
  sessions.owner lock = some pid

def Grants (sessions : Sessions Pid Store Write Lock Local) (pid : Pid)
    (locks : List Lock) : Prop :=
  ∀ lock ∈ locks, ∀ holder ∈ sessions.owner lock, holder = pid

variable {sessions : Sessions Pid Store Write Lock Local} {pid other : Pid}
  {locks : List Lock} {session : Option (Session Write Local)}

section Granting

variable [DecidableEq Lock]

def grant (sessions : Sessions Pid Store Write Lock Local) (pid : Pid) (locks : List Lock) :
    Sessions Pid Store Write Lock Local :=
  { sessions with
    owner := fun lock => if lock ∈ locks then some pid else sessions.owner lock }

theorem owns_grant_self :
    (sessions.grant pid locks).Owns pid = fun lock => sessions.Owns pid lock ∨ lock ∈ locks := by
  funext lock
  by_cases isGranted : lock ∈ locks
  · simp [Owns, grant, isGranted]
  · simp [Owns, grant, isGranted]

theorem owns_grant_other (grants : sessions.Grants pid locks) (different : other ≠ pid) :
    (sessions.grant pid locks).Owns other = sessions.Owns other := by
  funext lock
  rw [Owns, Owns, grant]
  by_cases isGranted : lock ∈ locks
  · have notOther : sessions.owner lock ≠ some other := by
      intro isOther
      exact different (grants lock isGranted other isOther)
    simp [isGranted, different.symm, notOther]
  · simp [isGranted]

end Granting

variable [DecidableEq Pid]

instance (sessions : Sessions Pid Store Write Lock Local) (pid : Pid) (locks : List Lock) :
    Decidable (sessions.Grants pid locks) :=
  inferInstanceAs (Decidable (∀ lock ∈ locks, ∀ holder ∈ sessions.owner lock, holder = pid))

def set (sessions : Sessions Pid Store Write Lock Local) (pid : Pid)
    (session : Option (Session Write Local)) : Sessions Pid Store Write Lock Local :=
  { sessions with session := Function.update sessions.session pid session }

def release (sessions : Sessions Pid Store Write Lock Local) (pid : Pid) :
    Sessions Pid Store Write Lock Local :=
  { sessions with
    owner := fun lock => if sessions.owner lock = some pid then none else sessions.owner lock }

/-- The transaction of a session ends, and with it the session's hold on its locks. -/
def endTransaction (sessions : Sessions Pid Store Write Lock Local) (pid : Pid)
    (rest : Option Local) : Sessions Pid Store Write Lock Local :=
  (sessions.release pid).set pid (rest.map fun locals => { locals, pending := [] })

@[simp] theorem set_session_self : (sessions.set pid session).session pid = session := by
  simp [set]

theorem set_session_other (different : other ≠ pid) :
    (sessions.set pid session).session other = sessions.session other := by
  simp [set, different]

theorem owns_release_self : (sessions.release pid).Owns pid = fun _ => False := by
  funext lock
  rw [Owns, release]
  dsimp only
  split
  · simp
  · next notOwner => simp [notOwner]

theorem owns_release_other (different : other ≠ pid) :
    (sessions.release pid).Owns other = sessions.Owns other := by
  funext lock
  rw [Owns, Owns, release]
  dsimp only
  split
  · next isOwner => simp [isOwner, different.symm]
  · rfl

end Sessions

namespace SessionProgram

variable (program : SessionProgram Store Write Lock Local Task Choice Ambient)

def writeAll (store : Store) (writes : List Write) : Store :=
  writes.foldl program.write store

@[simp] theorem writeAll_append (store : Store) (writes others : List Write) :
    program.writeAll store (writes ++ others) =
      program.writeAll (program.writeAll store writes) others :=
  List.foldl_append

def view (sessions : Sessions Pid Store Write Lock Local) (session : Session Write Local) :
    Store :=
  program.writeAll sessions.store session.pending

/-- A condition that each statement meets where it is issued, in terms of the store as its
session sees it and of the session. -/
def OwnStep (allowed : Store → Session Write Local → Choice → Prop)
    (sessions : Sessions Pid Store Write Lock Local) :
    PoolEvent Pid Task Choice Ambient → Prop
  | .advance pid choice =>
      match sessions.session pid with
      | none => True
      | some session => allowed (program.view sessions session) session choice
  | _ => True

instance (allowed : Store → Session Write Local → Choice → Prop)
    [∀ store session choice, Decidable (allowed store session choice)]
    (sessions : Sessions Pid Store Write Lock Local) :
    (event : PoolEvent Pid Task Choice Ambient) →
      Decidable (program.OwnStep allowed sessions event)
  | .start _ _ => inferInstanceAs (Decidable True)
  | .kill _ => inferInstanceAs (Decidable True)
  | .surround _ => inferInstanceAs (Decidable True)
  | .advance pid choice =>
      match running : sessions.session pid with
      | none => decidable_of_iff True (by simp [OwnStep, running])
      | some session =>
          decidable_of_iff (allowed (program.view sessions session) session choice)
            (by simp [OwnStep, running])

theorem OwnStep.allowed {program : SessionProgram Store Write Lock Local Task Choice Ambient}
    {sessions : Sessions Pid Store Write Lock Local} {pid : Pid}
    {allowed : Store → Session Write Local → Choice → Prop}
    {choice : Choice} {session : Session Write Local}
    (own : program.OwnStep allowed sessions
      (.advance pid choice : PoolEvent Pid Task Choice Ambient))
    (running : sessions.session pid = some session) :
    allowed (program.view sessions session) session choice := by
  simpa only [OwnStep, running] using own

variable [DecidableEq Pid] [DecidableEq Lock]

def perform (sessions : Sessions Pid Store Write Lock Local) (pid : Pid)
    (session : Session Write Local) (statement : Statement Write Lock Local) :
    Sessions Pid Store Write Lock Local :=
  match statement.next with
  | .proceed locals =>
      (sessions.grant pid statement.locks).set pid
        (some { locals, pending := session.pending ++ statement.writes })
  | .commit rest =>
      { sessions with
        store := program.writeAll sessions.store (session.pending ++ statement.writes) }
      |>.endTransaction pid rest
  | .rollback rest => sessions.endTransaction pid rest

def step (sessions : Sessions Pid Store Write Lock Local) :
    PoolEvent Pid Task Choice Ambient → Option (Sessions Pid Store Write Lock Local)
  | .start pid task =>
      match sessions.session pid with
      | some _ => none
      | none => some (sessions.set pid (some { locals := program.enter task, pending := [] }))
  | .advance pid choice =>
      match sessions.session pid with
      | none => none
      | some session =>
          match program.advance (program.view sessions session) session.locals choice with
          | none => none
          | some statement =>
              if sessions.Grants pid statement.locks then
                some (program.perform sessions pid session statement)
              else none
  | .kill pid =>
      match sessions.session pid with
      | none => none
      | some _ => some (sessions.endTransaction pid none)
  | .surround event =>
      match program.surround sessions.store event with
      | none => none
      | some store => some { sessions with store }

def machine : Machine (Sessions Pid Store Write Lock Local)
    (PoolEvent Pid Task Choice Ambient) where
  step := program.step

section Inversion

variable {program} {sessions next : Sessions Pid Store Write Lock Local} {pid : Pid}

theorem step_start {task : Task}
    (stepped : program.machine.step sessions (.start pid task) = some next) :
    sessions.session pid = none ∧
      next = sessions.set pid (some { locals := program.enter task, pending := [] }) := by
  simp only [machine, step] at stepped
  split at stepped
  · cases stepped
  · next free => exact ⟨free, (Option.some.inj stepped).symm⟩

theorem step_advance {choice : Choice}
    (stepped : program.machine.step sessions (.advance pid choice) = some next) :
    ∃ session statement, sessions.session pid = some session ∧
      program.advance (program.view sessions session) session.locals choice =
        some statement ∧
      sessions.Grants pid statement.locks ∧
      next = program.perform sessions pid session statement := by
  simp only [machine, step] at stepped
  split at stepped
  · cases stepped
  · next session running =>
      split at stepped
      · cases stepped
      · next statement advanced =>
          split at stepped
          · next grants =>
              exact ⟨session, statement, running, advanced, grants,
                (Option.some.inj stepped).symm⟩
          · cases stepped

theorem step_kill (stepped : program.machine.step sessions (.kill pid) = some next) :
    next = sessions.endTransaction pid none := by
  simp only [machine, step] at stepped
  split at stepped
  · cases stepped
  · exact (Option.some.inj stepped).symm

theorem step_surround {event : Ambient}
    (stepped : program.machine.step sessions (.surround event) = some next) :
    ∃ store, program.surround sessions.store event = some store ∧
      next = { sessions with store } := by
  simp only [machine, step] at stepped
  split at stepped
  · cases stepped
  · next store surrounded => exact ⟨store, surrounded, (Option.some.inj stepped).symm⟩

theorem perform_store_of_commit {session : Session Write Local}
    {statement : Statement Write Lock Local} {rest : Option Local}
    (isNext : statement.next = .commit rest) :
    (program.perform sessions pid session statement).store =
      program.writeAll sessions.store (session.pending ++ statement.writes) := by
  rw [perform, isNext]
  rfl

theorem perform_store_of_not_commit {session : Session Write Local}
    {statement : Statement Write Lock Local}
    (goesOn : ∀ rest, statement.next ≠ .commit rest) :
    (program.perform sessions pid session statement).store = sessions.store := by
  rw [perform]
  cases isNext : statement.next with
  | proceed locals => rfl
  | commit rest => exact absurd isNext (goesOn rest)
  | rollback rest => rfl

end Inversion

end SessionProgram

/-- A proof outline for sessions: an invariant of the committed store, and an assertion on
each session and on the locks that it owns. What another session commits must keep the
assertion; the other session owns none of the same locks. -/
structure SessionOutline [DecidableEq Pid] [DecidableEq Lock]
    (program : SessionProgram Store Write Lock Local Task Choice Ambient)
    (condition : Sessions Pid Store Write Lock Local →
      PoolEvent Pid Task Choice Ambient → Prop) where
  Invariant : Store → Prop
  Assertion : (Lock → Prop) → Store → Session Write Local → Prop
  enter : ∀ {sessions : Sessions Pid Store Write Lock Local} {pid task},
    condition sessions (.start pid task) → Invariant sessions.store →
    Assertion (fun _ => False) sessions.store { locals := program.enter task, pending := [] }
  proceed : ∀ {sessions : Sessions Pid Store Write Lock Local} {pid choice session statement
      locals},
    condition sessions (.advance pid choice) → sessions.session pid = some session →
    Invariant sessions.store → Assertion (sessions.Owns pid) sessions.store session →
    program.advance (program.view sessions session) session.locals choice = some statement →
    statement.next = .proceed locals →
    Assertion (fun lock => sessions.Owns pid lock ∨ lock ∈ statement.locks) sessions.store
      { locals, pending := session.pending ++ statement.writes }
  commit : ∀ {sessions : Sessions Pid Store Write Lock Local} {pid choice session statement
      rest},
    condition sessions (.advance pid choice) → sessions.session pid = some session →
    Invariant sessions.store → Assertion (sessions.Owns pid) sessions.store session →
    program.advance (program.view sessions session) session.locals choice = some statement →
    statement.next = .commit rest →
    Invariant (program.writeAll sessions.store (session.pending ++ statement.writes)) ∧
      ∀ locals, rest = some locals →
        Assertion (fun _ => False)
          (program.writeAll sessions.store (session.pending ++ statement.writes))
          { locals, pending := [] }
  commitOther : ∀ {sessions : Sessions Pid Store Write Lock Local} {pid choice session
      statement rest},
    condition sessions (.advance pid choice) → sessions.session pid = some session →
    Invariant sessions.store → Assertion (sessions.Owns pid) sessions.store session →
    program.advance (program.view sessions session) session.locals choice = some statement →
    statement.next = .commit rest →
    ∀ owns otherSession,
      (∀ lock, owns lock → ¬(sessions.Owns pid lock ∨ lock ∈ statement.locks)) →
      Assertion owns sessions.store otherSession →
      Assertion owns (program.writeAll sessions.store (session.pending ++ statement.writes))
        otherSession
  rollback : ∀ {sessions : Sessions Pid Store Write Lock Local} {pid choice session statement
      rest locals},
    condition sessions (.advance pid choice) → sessions.session pid = some session →
    Invariant sessions.store → Assertion (sessions.Owns pid) sessions.store session →
    program.advance (program.view sessions session) session.locals choice = some statement →
    statement.next = .rollback rest → rest = some locals →
    Assertion (fun _ => False) sessions.store { locals, pending := [] }
  surround : ∀ {sessions : Sessions Pid Store Write Lock Local} {event store},
    condition sessions (.surround event) → Invariant sessions.store →
    program.surround sessions.store event = some store →
    Invariant store ∧ ∀ owns session, Assertion owns sessions.store session →
      Assertion owns store session

namespace SessionOutline

variable [DecidableEq Pid] [DecidableEq Lock]
  {program : SessionProgram Store Write Lock Local Task Choice Ambient}
  {condition : Sessions Pid Store Write Lock Local →
    PoolEvent Pid Task Choice Ambient → Prop}

structure Holds (outline : SessionOutline program condition)
    (sessions : Sessions Pid Store Write Lock Local) : Prop where
  store : outline.Invariant sessions.store
  locals : ∀ pid session, sessions.session pid = some session →
    outline.Assertion (sessions.Owns pid) sessions.store session
  /-- Only sessions own locks. -/
  ended : ∀ pid, sessions.session pid = none → ∀ lock, ¬sessions.Owns pid lock

variable (outline : SessionOutline program condition)
  {sessions next : Sessions Pid Store Write Lock Local}

theorem holds_idle {store : Store} (invariant : outline.Invariant store) :
    outline.Holds (Sessions.idle store) where
  store := invariant
  locals := fun _ _ running => by cases running
  ended := fun _ _ _ owns => by cases owns

theorem holds_endTransaction (holds : outline.Holds sessions) {pid : Pid} {store : Store}
    {rest : Option Local} (invariant : outline.Invariant store)
    (own : ∀ locals, rest = some locals →
      outline.Assertion (fun _ => False) store { locals, pending := [] })
    (others : ∀ other otherSession, other ≠ pid →
      sessions.session other = some otherSession →
      outline.Assertion (sessions.Owns other) store otherSession) :
    outline.Holds ({ sessions with store }.endTransaction pid rest) := by
  refine ⟨invariant, ?_, ?_⟩
  · intro other otherSession running
    by_cases same : other = pid
    · subst same
      rw [Sessions.endTransaction, Sessions.set_session_self] at running
      rcases Option.map_eq_some_iff.mp running with ⟨locals, isRest, rfl⟩
      have assertion := own locals isRest
      have released : ({ sessions with store }.release other).Owns other = fun _ => False :=
        Sessions.owns_release_self
      rw [← released] at assertion
      exact assertion
    · rw [Sessions.endTransaction, Sessions.set_session_other same] at running
      have assertion := others other otherSession same running
      have unchanged : ({ sessions with store }.release pid).Owns other = sessions.Owns other :=
        Sessions.owns_release_other same
      rw [← unchanged] at assertion
      exact assertion
  · intro other isEnded lock owns
    by_cases same : other = pid
    · subst same
      have released : ¬({ sessions with store }.release other).Owns other lock := by
        rw [Sessions.owns_release_self]
        exact id
      exact released owns
    · rw [Sessions.endTransaction, Sessions.set_session_other same] at isEnded
      have unchanged : ({ sessions with store }.release pid).Owns other = sessions.Owns other :=
        Sessions.owns_release_other same
      have before : sessions.Owns other lock := by
        rw [← unchanged]
        exact owns
      exact holds.ended other isEnded lock before

theorem holds_start (holds : outline.Holds sessions) {pid : Pid} {task : Task}
    (meets : condition sessions (.start pid task)) (free : sessions.session pid = none) :
    outline.Holds
      (sessions.set pid (some { locals := program.enter task, pending := [] })) := by
  refine ⟨holds.store, ?_, ?_⟩
  · intro other otherSession running
    by_cases same : other = pid
    · subst same
      rw [Sessions.set_session_self] at running
      cases running
      have ownsNone : sessions.Owns other = fun _ => False := by
        funext lock
        exact eq_false (holds.ended other free lock)
      have entered : outline.Assertion (fun _ => False) sessions.store
          { locals := program.enter task, pending := [] } :=
        outline.enter meets holds.store
      rw [← ownsNone] at entered
      exact entered
    · rw [Sessions.set_session_other same] at running
      exact holds.locals other otherSession running
  · intro other isEnded
    by_cases same : other = pid
    · subst same
      rw [Sessions.set_session_self] at isEnded
      cases isEnded
    · rw [Sessions.set_session_other same] at isEnded
      exact holds.ended other isEnded

theorem holds_proceed (holds : outline.Holds sessions) {pid : Pid} {locks : List Lock}
    {session : Session Write Local} (grants : sessions.Grants pid locks)
    (assertion : outline.Assertion (fun lock => sessions.Owns pid lock ∨ lock ∈ locks)
      sessions.store session) :
    outline.Holds ((sessions.grant pid locks).set pid (some session)) := by
  refine ⟨holds.store, ?_, ?_⟩
  · intro other otherSession running
    by_cases same : other = pid
    · subst same
      rw [Sessions.set_session_self] at running
      cases running
      rw [← Sessions.owns_grant_self] at assertion
      exact assertion
    · rw [Sessions.set_session_other same] at running
      have kept := holds.locals other otherSession running
      rw [← Sessions.owns_grant_other grants same] at kept
      exact kept
  · intro other isEnded lock owns
    by_cases same : other = pid
    · subst same
      rw [Sessions.set_session_self] at isEnded
      cases isEnded
    · rw [Sessions.set_session_other same] at isEnded
      have before : (sessions.grant pid locks).Owns other lock := owns
      rw [Sessions.owns_grant_other grants same] at before
      exact holds.ended other isEnded lock before

theorem holds_perform (holds : outline.Holds sessions) {pid : Pid} {choice : Choice}
    {session : Session Write Local} {statement : Statement Write Lock Local}
    (meets : condition sessions (.advance pid choice))
    (running : sessions.session pid = some session)
    (advanced : program.advance (program.view sessions session) session.locals choice =
      some statement)
    (grants : sessions.Grants pid statement.locks) :
    outline.Holds (program.perform sessions pid session statement) := by
  have assertion := holds.locals pid session running
  rw [SessionProgram.perform]
  cases isNext : statement.next with
  | proceed locals =>
      exact outline.holds_proceed holds grants
        (outline.proceed meets running holds.store assertion advanced isNext)
  | commit rest =>
      rcases outline.commit meets running holds.store assertion advanced isNext with
        ⟨invariant, own⟩
      refine outline.holds_endTransaction holds invariant own ?_
      intro other otherSession different otherRunning
      refine outline.commitOther meets running holds.store assertion advanced isNext _ _ ?_
        (holds.locals other otherSession otherRunning)
      intro lock owns either
      rcases either with isOwner | asked
      · exact different (Option.some.inj (owns.symm.trans isOwner))
      · exact different (grants lock asked other owns)
  | rollback rest =>
      refine outline.holds_endTransaction holds holds.store ?_ ?_
      · intro locals isRest
        exact outline.rollback meets running holds.store assertion advanced isNext isRest
      · intro other otherSession _ otherRunning
        exact holds.locals other otherSession otherRunning

theorem holds_step {event : PoolEvent Pid Task Choice Ambient}
    (holds : outline.Holds sessions) (meets : condition sessions event)
    (stepped : program.machine.step sessions event = some next) : outline.Holds next := by
  cases event with
  | start pid task =>
      rcases SessionProgram.step_start stepped with ⟨free, rfl⟩
      exact outline.holds_start holds meets free
  | advance pid choice =>
      rcases SessionProgram.step_advance stepped with
        ⟨session, statement, running, advanced, grants, rfl⟩
      exact outline.holds_perform holds meets running advanced grants
  | kill pid =>
      cases SessionProgram.step_kill stepped
      exact outline.holds_endTransaction holds holds.store nofun
        fun other otherSession _ running => holds.locals other otherSession running
  | surround event =>
      rcases SessionProgram.step_surround stepped with ⟨store, surrounded, rfl⟩
      rcases outline.surround meets holds.store surrounded with ⟨invariant, kept⟩
      exact ⟨invariant,
        fun pid session running => kept _ session (holds.locals pid session running),
        holds.ended⟩

theorem holds_of_reaches {initial final : Sessions Pid Store Write Lock Local}
    (reaches : program.machine.Reaches condition initial final)
    (initially : outline.Holds initial) : outline.Holds final :=
  reaches.invariant initially fun _ _ _ holds meets stepped =>
    outline.holds_step holds meets stepped

end SessionOutline

end ChatsEngine
