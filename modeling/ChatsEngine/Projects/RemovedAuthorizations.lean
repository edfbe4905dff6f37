import ChatsEngine.Projects.LastWrittenAccess

/-! # Authorizations of removed permissions

A removal marks the permission, schedules the task that requeues the agent's rooms, and deletes
the permission's authorizations of sectors and then of queues, each in a statement of its own. An
authorization that it leaves behind is hidden, and shows again when the permission is brought
back. -/

namespace ChatsEngine.Projects.Permissions

def AccessStage.Deletes (authorization : Authorization) : AccessStage → Prop
  | .scheduling permission _ | .deleting .sector permission =>
      authorization.permission = permission
  | .deleting .queue permission =>
      authorization.kind = .queue ∧ authorization.permission = permission
  | _ => False

/-- The process has removed a permission and has not deleted all of its authorizations yet. -/
def AccessStage.Removing : AccessStage → Prop
  | .scheduling _ _ | .deleting _ _ => True
  | _ => False

/-- A removal goes on after it has marked the row, which nobody has brought back after the removal
has read it. Authorizations are only created for permissions that are not deleted. -/
def Completes (tables : AccessTables) (stage : AccessStage) (choice : AccessChoice) : Prop :=
  match choice with
  | .raises => ¬stage.Removing
  | .inserts _ => True
  | .returns =>
      match stage with
      | .storing saving wasSoftDeleted =>
          saving.purpose = .removes → tables.IsLive saving.permission → wasSoftDeleted = true
      | .authorizing authorization => tables.IsLive authorization.permission
      | _ => True

def SparesRemovals {Pid : Type} (pool : AccessPool Pid) : AccessEvent Pid → Prop
  | .kill pid => ∀ stage ∈ pool.process pid, ¬stage.Removing
  | _ => True

def CleansUp {Pid : Type} (pool : AccessPool Pid) (event : AccessEvent Pid) : Prop :=
  Pool.OwnStep Completes pool event ∧ SparesRemovals pool event

/-- The permission of each authorization is not deleted, or a process is going to delete the
authorization. -/
def Clean {Pid : Type} (pool : AccessPool Pid) : Prop :=
  ∀ authorization ∈ pool.shared.authorizations,
    pool.shared.IsLive authorization.permission ∨
      ∃ pid stage, pool.process pid = some stage ∧ stage.Deletes authorization

section CleanSteps

variable {tables after : AccessTables} {stage : AccessStage} {choice : AccessChoice}
  {rest : Option AccessStage} {authorization : Authorization} {permission : Uuid}

theorem Deletes.removing (deletes : stage.Deletes authorization) : stage.Removing := by
  cases stage with
  | scheduling _ _ | deleting _ _ => trivial
  | _ => cases deletes

theorem advance_authorizations (advanced : advance tables stage choice = some (after, rest))
    (member : authorization ∈ after.authorizations) :
    authorization ∈ tables.authorizations ∨
      stage = .authorizing authorization ∧ choice = .returns := by
  cases choice with
  | raises =>
      cases advanced
      exact .inl member
  | inserts inserted =>
      cases stage with
      | creating setting =>
          rw [advance] at advanced
          split at advanced
          · cases advanced
          · split at advanced
            · cases advanced
            · cases advanced
              exact .inl member
      | _ => cases advanced
  | returns =>
      change proceed tables stage = some (after, rest) at advanced
      cases stage with
      | tracking saving | storing saving wasSoftDeleted | scheduling permission row =>
          cases advanced
          exact .inl member
      | deleting kind permission =>
          cases advanced
          exact .inl (List.mem_filter.mp member).1
      | authorizing new =>
          rw [proceed] at advanced
          split at advanced
          · cases advanced
            exact .inl member
          · cases advanced
            rcases List.mem_cons.mp member with rfl | old
            · exact .inr ⟨rfl, rfl⟩
            · exact .inl old
      | gettingUser setting =>
          rw [proceed] at advanced
          split at advanced
          · cases advanced
            exact .inl member
          · split at advanced <;> cases advanced <;> exact .inl member
      | gettingProject _ | getting _ | creating _ | gettingAgain _ | gettingLive _ _ _
      | gettingPermission _ _ =>
          rw [proceed] at advanced
          split at advanced <;> cases advanced <;> exact .inl member

theorem deletes_advance (advanced : advance tables stage choice = some (after, rest))
    (completes : Completes tables stage choice) (deletes : stage.Deletes authorization)
    (member : authorization ∈ after.authorizations) :
    ∃ remaining, rest = some remaining ∧ remaining.Deletes authorization := by
  cases choice with
  | raises => exact absurd (Deletes.removing deletes) completes
  | inserts inserted => cases stage <;> first | cases advanced | cases deletes
  | returns =>
      cases stage with
      | scheduling permission row =>
          cases advanced
          exact ⟨_, rfl, deletes⟩
      | deleting kind permission =>
          cases advanced
          have kept := of_decide_eq_true (List.mem_filter.mp member).2
          cases kind with
          | sector =>
              refine ⟨_, rfl, ?_, deletes⟩
              cases isKind : authorization.kind with
              | sector => exact absurd ⟨isKind, deletes⟩ kept
              | queue => rfl
          | queue => exact absurd deletes kept
      | _ => cases deletes

theorem live_advance (knows : stage.Knows tables)
    (advanced : advance tables stage choice = some (after, rest))
    (completes : Completes tables stage choice) (live : tables.IsLive permission) :
    after.IsLive permission ∨ ∃ row, rest = some (.scheduling permission row) := by
  have storing : ∀ saving wasSoftDeleted, stage = .storing saving wasSoftDeleted →
      choice = .returns → after = tables.store saving →
      after.IsLive permission ∨ ∃ row, rest = some (.scheduling permission row) := by
    intro saving wasSoftDeleted isStage returns isAfter
    subst isStage
    subst returns
    by_cases same : permission = saving.permission
    · subst same
      cases purpose : saving.purpose with
      | sets role =>
          refine .inl ⟨saving.instanceRow, ?_, (Saving.Fits.sets knows role purpose).2⟩
          rw [isAfter]
          exact AList.lookup_insert _
      | keeps =>
          refine .inl ⟨saving.instanceRow, ?_, Saving.Fits.keeps knows purpose⟩
          rw [isAfter]
          exact AList.lookup_insert _
      | removes =>
          have tracked : wasSoftDeleted = true := completes purpose live
          subst tracked
          cases advanced
          exact .inr ⟨_, rfl⟩
    · rcases live with ⟨row, stored, notDeleted⟩
      refine .inl ⟨row, ?_, notDeleted⟩
      rw [isAfter]
      exact (AList.lookup_insert_ne same).trans stored
  cases (advance_writes knows advanced).1 with
  | reads samePermissions _ =>
      left
      unfold AccessTables.IsLive
      rw [samePermissions]
      exact live
  | inserts inserted row _ _ fresh isAfter =>
      rcases live with ⟨old, stored, notDeleted⟩
      refine .inl ⟨old, ?_, notDeleted⟩
      rw [isAfter]
      refine (AList.lookup_insert_ne ?_).trans stored
      intro same
      rw [same] at stored
      exact fresh (AList.lookup_isSome.mp (by rw [Option.mem_def.mp stored]; rfl))
  | stores saving wasSoftDeleted isStage isAfter =>
      cases choice with
      | returns => exact storing saving wasSoftDeleted isStage rfl isAfter
      | raises =>
          cases advanced
          exact .inl live
      | inserts inserted =>
          subst isStage
          cases advanced

variable {Pid : Type} [DecidableEq Pid] {pool next : AccessPool Pid} {event : AccessEvent Pid}

theorem clean_step (holds : (accessOutline Pid).Holds pool) (clean : Clean pool)
    (meets : CleansUp pool event)
    (stepped : accessProgram.machine.step pool event = some next) : Clean next := by
  cases event with
  | start pid task =>
      rcases Program.step_start stepped with ⟨free, rfl⟩
      intro authorization member
      rcases clean authorization member with live | ⟨other, stage, running, deletes⟩
      · exact .inl live
      · refine .inr ⟨other, stage, ?_, deletes⟩
        rw [Pool.set_process_other]
        · exact running
        · intro same
          rw [same, free] at running
          cases running
  | kill pid =>
      rcases Program.step_kill stepped with ⟨_, rfl⟩
      intro authorization member
      rcases clean authorization member with live | ⟨other, stage, running, deletes⟩
      · exact .inl live
      · refine .inr ⟨other, stage, ?_, deletes⟩
        rw [Pool.set_process_other]
        · exact running
        · intro same
          rw [same] at running
          exact meets.2 stage running (Deletes.removing deletes)
  | surround event =>
      rcases Program.step_surround stepped with ⟨tables, surrounded, rfl⟩
      intro authorization member
      cases event with
      | unauthorize removed =>
          cases surrounded
          exact clean authorization (List.mem_of_mem_erase member)
      | _ =>
          cases surrounded
          exact clean authorization member
  | advance pid choice =>
      rcases Program.step_advance stepped with ⟨stage, tables, rest, running, advanced, rfl⟩
      have knows : stage.Knows pool.shared := holds.locals pid stage running
      have completes : Completes pool.shared stage choice := Pool.OwnStep.allowed meets.1 running
      intro authorization member
      change tables.IsLive authorization.permission ∨ _
      have ofLive : pool.shared.IsLive authorization.permission →
          tables.IsLive authorization.permission ∨ ∃ other remaining,
            ({ pool with shared := tables }.set pid rest).process other = some remaining ∧
              remaining.Deletes authorization := by
        intro live
        rcases live_advance knows advanced completes live with still | ⟨row, isRest⟩
        · exact .inl still
        · refine .inr ⟨pid, .scheduling authorization.permission row, ?_, rfl⟩
          rw [Pool.set_process_self]
          exact isRest
      rcases advance_authorizations advanced member with old | ⟨isStage, isChoice⟩
      · rcases clean authorization old with live | ⟨other, otherStage, otherRunning, deletes⟩
        · exact ofLive live
        · by_cases same : other = pid
          · rw [same, running] at otherRunning
            cases otherRunning
            rcases deletes_advance advanced completes deletes member with
              ⟨remaining, isRest, remainingDeletes⟩
            refine .inr ⟨pid, remaining, ?_, remainingDeletes⟩
            rw [Pool.set_process_self]
            exact isRest
          · refine .inr ⟨other, otherStage, ?_, deletes⟩
            rw [Pool.set_process_other _ _ same]
            exact otherRunning
      · subst isStage
        subst isChoice
        exact ofLive completes

end CleanSteps

/-- An authorization outlives its permission only until the removal deletes it, and then there is
none left to be found when the permission is brought back: in every run in which a removal that
has marked the permission goes on and nobody has brought the permission back since it was read,
and in which authorizations are created for permissions that are not deleted. -/
theorem authorizations_of_live_permissions {Pid : Type} [DecidableEq Pid]
    {users : List UserEmail} {projects : List Uuid} {pool : AccessPool Pid}
    (reaches : accessProgram.machine.Reaches CleansUp (Pool.idle (.initial users projects)) pool)
    {authorization : Authorization} (member : authorization ∈ pool.shared.authorizations) :
    pool.shared.IsLive authorization.permission ∨
      ∃ pid stage, pool.process pid = some stage ∧ stage.Deletes authorization := by
  have holds : (accessOutline Pid).Holds pool ∧ Clean pool := by
    apply reaches.invariant
    · exact ⟨(accessOutline Pid).holds_of_isIdle (initial_unique users projects)
        (Pool.idle_isIdle _), nofun⟩
    · intro current event next invariant meets stepped
      exact ⟨(accessOutline Pid).holds_step invariant.1 trivial stepped,
        clean_step invariant.1 invariant.2 meets stepped⟩
  exact holds.2 authorization member

/-! An agent who is removed and comes back, with one authorization before and one after. -/

section Witness

instance : (stage : AccessStage) → Decidable stage.Removing
  | .scheduling _ _ | .deleting _ _ => inferInstanceAs (Decidable True)
  | .gettingUser _ | .gettingProject _ | .getting _ | .creating _ | .gettingAgain _
  | .gettingLive _ _ _ | .tracking _ | .storing _ _ | .gettingPermission _ _ | .authorizing _ =>
      inferInstanceAs (Decidable False)

instance (tables : AccessTables) :
    (stage : AccessStage) → (choice : AccessChoice) → Decidable (Completes tables stage choice)
  | stage, .raises => inferInstanceAs (Decidable ¬stage.Removing)
  | _, .inserts _ => inferInstanceAs (Decidable True)
  | .storing _ _, .returns => inferInstanceAs (Decidable (_ → _ → _))
  | .authorizing authorization, .returns =>
      inferInstanceAs (Decidable (tables.IsLive authorization.permission))
  | .gettingUser _, .returns | .gettingProject _, .returns | .getting _, .returns
  | .creating _, .returns | .gettingAgain _, .returns | .gettingLive _ _ _, .returns
  | .tracking _, .returns | .scheduling _ _, .returns | .deleting _ _, .returns
  | .gettingPermission _ _, .returns => inferInstanceAs (Decidable True)

instance {Pid : Type} (pool : AccessPool Pid) :
    (event : AccessEvent Pid) → Decidable (SparesRemovals pool event)
  | .kill pid => inferInstanceAs (Decidable (∀ stage ∈ pool.process pid, _))
  | .start _ _ | .advance _ _ | .surround _ => inferInstanceAs (Decidable True)

instance {Pid : Type} (pool : AccessPool Pid) (event : AccessEvent Pid) :
    Decidable (CleansUp pool event) :=
  inferInstanceAs (Decidable (_ ∧ _))

def inQueue (target : Uuid) : Authorization := ⟨.queue, 7, target⟩

def carriesOut (task : AccessTask) (statements : Nat) : List (AccessEvent Unit) :=
  .start () task :: List.replicate statements (.advance () .returns)

def returningAgent : List (AccessEvent Unit) :=
  carriesOut (.create 1 "agent@weni.ai" (some 3)) 3 ++ [.advance () (.inserts 7)] ++
    carriesOut (.authorize (inQueue 4) true) 2 ++ carriesOut (.delete 1 "agent@weni.ai") 6 ++
    carriesOut (.create 1 "agent@weni.ai" none) 5 ++ carriesOut (.authorize (inQueue 5) true) 2

theorem returning_agent_has_one_authorization :
    ∃ pool : AccessPool Unit, pool.shared.authorizations = [inQueue 5] ∧
      pool.shared.access 1 "agent@weni.ai" = some 2 ∧
      (pool.shared.IsLive (inQueue 5).permission ∨
        ∃ pid stage, pool.process pid = some stage ∧ stage.Deletes (inQueue 5)) := by
  have ends : (accessProgram.machine.runMeeting CleansUp (Pool.idle (.initial [] [1]))
      returningAgent).map (fun pool : AccessPool Unit =>
        (pool.shared.authorizations, pool.shared.access 1 "agent@weni.ai")) =
          some ([inQueue 5], some 2) := by decide +kernel
  rcases Option.map_eq_some_iff.mp ends with ⟨pool, ran, same⟩
  rw [Prod.mk.injEq] at same
  refine ⟨pool, same.1, same.2,
    authorizations_of_live_permissions (.of_runMeeting ran) ?_⟩
  rw [same.1]
  exact List.mem_singleton.mpr rfl

end Witness

end ChatsEngine.Projects.Permissions
