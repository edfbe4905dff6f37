import ChatsEngine.Core.Types
import ChatsEngine.Foundation.Rows

/-! # Permissions and custom statuses

What a project knows about its agents: their permissions, and their custom
statuses, of which at most one is active. -/

namespace ChatsEngine.Projects

inductive UserStatus
  | online
  | offline
  | away
  | busy
deriving DecidableEq, Repr

structure ProjectPermission where
  uuid : Uuid
  project : Uuid
  user : UserEmail
  status : UserStatus
  lastSeen : Option Instant
  customRoomsLimit : Option Nat
  isCustomLimitActive : Bool
  isDeleted : Bool
deriving DecidableEq, Repr

/-- `ProjectPermission.objects.filter(user=user, project=project).first()`. -/
def findPermission (permissions : List ProjectPermission) (user : UserEmail)
    (project : Uuid) : Option ProjectPermission :=
  permissions.find? fun permission =>
    !permission.isDeleted && permission.user = user && permission.project = project

/-- A status type, which its name identifies within the project. -/
structure CustomStatusType where
  name : String
  project : Uuid
deriving DecidableEq, Repr

structure CustomStatus where
  user : UserEmail
  statusType : CustomStatusType
  isActive : Bool
  breakTime : Nat
  project : Uuid
  createdOn : Instant
deriving DecidableEq, Repr

namespace CustomStatus

/-- Two rows that the constraint `unique_active_custom_status_per_user_project`
allows beside each other. -/
def Compatible (left right : CustomStatus) : Prop :=
  left.isActive = true → right.isActive = true →
    left.user = right.user → left.project ≠ right.project

def ActiveFor (user : UserEmail) (project : Uuid) (status : CustomStatus) : Prop :=
  status.user = user ∧ status.project = project ∧ status.isActive = true

instance (user : UserEmail) (project : Uuid) (status : CustomStatus) :
    Decidable (status.ActiveFor user project) := by
  unfold ActiveFor
  infer_instance

def deactivated (status : CustomStatus) : CustomStatus := { status with isActive := false }

end CustomStatus

structure StatusTable where
  rows : List CustomStatus
  oneActive : rows.Pairwise CustomStatus.Compatible

namespace StatusTable

/-- `CustomStatus.save` for a new row: the other active statuses of the user in
the project are deactivated first. -/
def create (table : StatusTable) (status : CustomStatus) : StatusTable where
  rows :=
    status :: table.rows.map fun other =>
      if status.isActive = true ∧ other.ActiveFor status.user status.project
      then other.deactivated else other
  oneActive := by
    rw [List.pairwise_cons]
    constructor
    · intro other member
      rcases List.mem_map.mp member with ⟨before, _, rfl⟩
      intro isActive otherActive sameUser sameProject
      split at otherActive
      · cases otherActive
      · next spared =>
          rw [if_neg spared] at sameUser sameProject
          exact spared ⟨isActive, sameUser.symm, sameProject.symm, otherActive⟩
    · rw [List.pairwise_map]
      apply table.oneActive.imp
      intro left right compatible leftActive rightActive
      split at leftActive
      · cases leftActive
      · split at rightActive
        · cases rightActive
        · next leftSpared rightSpared =>
            rw [if_neg leftSpared, if_neg rightSpared]
            exact compatible leftActive rightActive

/-- End the first status that is selected, with its duration as break time. -/
def endFirst (Selected : CustomStatus → Prop) [DecidablePred Selected]
    (breakTime : CustomStatus → Nat) (table : StatusTable) : StatusTable where
  rows := modifyFirst Selected
    (fun status => { status with isActive := false, breakTime := breakTime status })
    table.rows
  oneActive := by
    apply modifyFirst_pairwise _ table.oneActive
    intro left right _
    exact ⟨fun impossible _ => (by cases impossible), fun _ impossible => (by cases impossible)⟩

theorem mem_create_of_other {table : StatusTable} {created status : CustomStatus}
    {user : UserEmail} {project : Uuid} (isActive : status.ActiveFor user project)
    (other : ¬(created.user = user ∧ created.project = project)) :
    status ∈ (table.create created).rows ↔ status ∈ table.rows := by
  rw [create, List.mem_cons, List.mem_map]
  constructor
  · intro member
    rcases member with rfl | ⟨before, listed, rfl⟩
    · exact absurd ⟨isActive.1, isActive.2.1⟩ other
    · split at isActive
      · cases isActive.2.2
      · next spared =>
          rwa [if_neg spared]
  · intro listed
    refine .inr ⟨status, listed, if_neg ?_⟩
    intro selected
    rcases selected with ⟨_, sameUser, sameProject, _⟩
    exact other ⟨sameUser.symm.trans isActive.1, sameProject.symm.trans isActive.2.1⟩

theorem mem_create_self (table : StatusTable) (created : CustomStatus) :
    created ∈ (table.create created).rows :=
  List.mem_cons_self

theorem of_mem_create {table : StatusTable} {created status : CustomStatus}
    (member : status ∈ (table.create created).rows) (isActive : status.isActive = true) :
    status = created ∨ status ∈ table.rows := by
  rw [create, List.mem_cons, List.mem_map] at member
  rcases member with rfl | ⟨before, listed, rfl⟩
  · exact .inl rfl
  · split at isActive
    · cases isActive
    · next spared =>
        rw [if_neg spared]
        exact .inr listed

section EndFirst

variable {Selected : CustomStatus → Prop} [DecidablePred Selected]
  {breakTime : CustomStatus → Nat} {table : StatusTable} {status : CustomStatus}

theorem of_mem_endFirst (member : status ∈ (table.endFirst Selected breakTime).rows)
    (isActive : status.isActive = true) : status ∈ table.rows := by
  rcases mem_modifyFirst member with unchanged | ⟨before, _, _, rfl⟩
  · exact unchanged
  · cases isActive

theorem mem_endFirst_of_not_selected (member : status ∈ table.rows)
    (spared : ¬Selected status) : status ∈ (table.endFirst Selected breakTime).rows :=
  mem_modifyFirst_of_not_selected member spared

theorem not_selected_of_mem_endFirst {user : UserEmail} {project : Uuid}
    (active : ∀ status, Selected status → status.ActiveFor user project)
    (member : status ∈ (table.endFirst Selected breakTime).rows) : ¬Selected status := by
  refine not_selected_of_mem_modifyFirst (table.oneActive.imp ?_) ?_ member
  · intro left right compatible leftSelected rightSelected
    have leftActive := active left leftSelected
    have rightActive := active right rightSelected
    exact compatible leftActive.2.2 rightActive.2.2
      (leftActive.1.trans rightActive.1.symm) (leftActive.2.1.trans rightActive.2.1.symm)
  · intro row selected
    cases (active _ selected).2.2

end EndFirst

end StatusTable

end ChatsEngine.Projects
