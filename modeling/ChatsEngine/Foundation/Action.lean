import Mathlib.Logic.Basic

/-! # Actions

An action reads and changes a store, and then returns or raises. What it has changed before it
raises stays changed, unless it runs in a transaction. -/

namespace ChatsEngine

def Action (Store : Type u) (Error : Type v) (Result : Type w) :=
  Store → Except Error Result × Store

namespace Action

variable {Store : Type u} {Error : Type v} {Raised : Type v} {Result Other : Type w}

instance : Monad (Action Store Error) where
  pure result := fun store => (.ok result, store)
  bind action next := fun store =>
    match action store with
    | (.ok result, after) => next result after
    | (.error error, after) => (.error error, after)

def raise (error : Error) : Action Store Error Result :=
  fun store => (.error error, store)

def query (answer : Store → Result) : Action Store Error Result :=
  fun store => (.ok (answer store), store)

def update (change : Store → Store) : Action Store Error PUnit :=
  fun store => (.ok ⟨⟩, change store)

def require (condition : Prop) [Decidable condition] (error : Error) :
    Action Store Error PUnit :=
  if condition then pure ⟨⟩ else raise error

def when (condition : Prop) [Decidable condition] (action : Action Store Error PUnit) :
    Action Store Error PUnit :=
  if condition then action else pure ⟨⟩

def expect (answer : Option Result) (error : Error) : Action Store Error Result :=
  match answer with
  | some result => pure result
  | none => raise error

def check (failure : Option Error) : Action Store Error PUnit :=
  match failure with
  | none => pure ⟨⟩
  | some error => raise error

/-- An action that puts back part of the store it has found when it raises. -/
def restoring (restore : Store → Store → Store) (action : Action Store Error Result) :
    Action Store Error Result :=
  fun store =>
    match action store with
    | (.ok result, after) => (.ok result, after)
    | (.error error, after) => (.error error, restore store after)

/-- An action in a transaction, of which nothing stays when it raises. -/
def atomic (action : Action Store Error Result) : Action Store Error Result :=
  fun store =>
    match action store with
    | (.ok result, after) => (.ok result, after)
    | (.error error, _) => (.error error, store)

def attempt (action : Action Store Raised Result) : Action Store Error (Except Raised Result) :=
  fun store => (.ok (action store).1, (action store).2)

def fold {Item : Type x} (step : Result → Item → Action Store Error Result) :
    Result → List Item → Action Store Error Result
  | result, [] => pure result
  | result, item :: items => do
      let next ← step result item
      fold step next items

/-! ## What actions ensure -/

/-- From a store that meets `before`, an action that returns leaves a store that meets
`returns`, and one that raises a store that meets `raises`. -/
def Ensures (before : Store → Prop) (action : Action Store Error Result)
    (returns : Result → Store → Prop) (raises : Error → Store → Prop) : Prop :=
  ∀ store, before store →
    match action store with
    | (.ok result, after) => returns result after
    | (.error error, after) => raises error after

section Rules

variable {before stronger : Store → Prop} {action : Action Store Error Result}
  {returns weaker : Result → Store → Prop} {raises raisesWeaker : Error → Store → Prop}

theorem Ensures.weaken (ensures : Ensures stronger action returns raises)
    (strengthen : ∀ store, before store → stronger store)
    (weakenReturns : ∀ result store, returns result store → weaker result store)
    (weakenRaises : ∀ error store, raises error store → raisesWeaker error store) :
    Ensures before action weaker raisesWeaker := by
  intro store holds
  have ensured := ensures store (strengthen store holds)
  revert ensured
  rcases action store with ⟨outcome, after⟩
  cases outcome with
  | ok result => exact weakenReturns result after
  | error error => exact weakenRaises error after

/-- What an action ensures may refer to the store from which it starts. -/
theorem Ensures.of_each
    (each : ∀ store, before store → Ensures (fun own => own = store) action returns raises) :
    Ensures before action returns raises :=
  fun store starts => each store starts store rfl

theorem Ensures.of_fact {fact : Prop} (ensures : fact → Ensures before action returns raises) :
    Ensures (fun store => fact ∧ before store) action returns raises :=
  fun store starts => ensures starts.1 store starts.2

theorem Ensures.pure {result : Result} (holds : ∀ store, before store → returns result store) :
    Ensures before (Pure.pure result : Action Store Error Result) returns raises :=
  holds

theorem Ensures.update {change : Store → Store} {returns : PUnit → Store → Prop}
    (holds : ∀ store, before store → returns ⟨⟩ (change store)) :
    Ensures before (Action.update change : Action Store Error PUnit) returns raises :=
  holds

theorem Ensures.require {condition : Prop} [Decidable condition] {error : Error}
    {returns : PUnit → Store → Prop}
    (met : ∀ store, before store → condition → returns ⟨⟩ store)
    (unmet : ∀ store, before store → ¬condition → raises error store) :
    Ensures before (Action.require condition error) returns raises := by
  rw [Action.require]
  split
  · next holds => exact fun store starts => met store starts holds
  · next fails => exact fun store starts => unmet store starts fails

theorem Ensures.when {condition : Prop} [Decidable condition]
    {action : Action Store Error PUnit} {returns : PUnit → Store → Prop}
    (taken : condition → Ensures before action returns raises)
    (spared : ∀ store, before store → ¬condition → returns ⟨⟩ store) :
    Ensures before (Action.when condition action) returns raises := by
  rw [Action.when]
  split
  · next holds => exact taken holds
  · next fails => exact fun store starts => spared store starts fails

theorem Ensures.bind {next : Result → Action Store Error Other}
    {returns : Other → Store → Prop} (between : Result → Store → Prop)
    (first : Ensures before action between raises)
    (second : ∀ result, Ensures (between result) (next result) returns raises) :
    Ensures before (action >>= next) returns raises := by
  intro store holds
  have ensured := first store holds
  change match (match action store with
    | (.ok result, after) => next result after
    | (.error error, after) => (.error error, after)) with
    | (.ok result, after) => returns result after
    | (.error error, after) => raises error after
  revert ensured
  rcases action store with ⟨outcome, after⟩
  cases outcome with
  | ok result => exact second result after
  | error error => exact id

theorem Ensures.pure_bind {result : Result} {next : Result → Action Store Error Other}
    {returns : Other → Store → Prop} (rest : Ensures before (next result) returns raises) :
    Ensures before (Pure.pure result >>= next) returns raises :=
  rest

theorem Ensures.query_bind {answer : Store → Result} {next : Result → Action Store Error Other}
    {returns : Other → Store → Prop}
    (rest : ∀ value, Ensures (fun store => before store ∧ answer store = value) (next value)
      returns raises) :
    Ensures before (Action.query answer >>= next) returns raises :=
  fun store starts => rest (answer store) store ⟨starts, rfl⟩

theorem Ensures.query_bind_of_eq {answer : Store → Result}
    {next : Result → Action Store Error Other} {returns : Other → Store → Prop} {store : Store}
    (rest : Ensures (fun own => own = store) (next (answer store)) returns raises) :
    Ensures (fun own => own = store) (Action.query answer >>= next) returns raises := by
  intro _ same
  subst same
  exact rest _ rfl

theorem Ensures.require_bind {condition : Prop} [Decidable condition] {error : Error}
    {next : PUnit → Action Store Error Other} {returns : Other → Store → Prop}
    (unmet : ¬condition → ∀ store, before store → raises error store)
    (rest : condition → Ensures before (next ⟨⟩) returns raises) :
    Ensures before (Action.require condition error >>= next) returns raises := by
  apply Ensures.bind fun _ store => before store ∧ condition
  · exact Ensures.require (fun _ starts met => ⟨starts, met⟩)
      fun store starts fails => unmet fails store starts
  · exact fun _ store starts => rest starts.2 store starts.1

theorem Ensures.expect_bind {answer : Option Result} {error : Error}
    {next : Result → Action Store Error Other} {returns : Other → Store → Prop}
    (absent : answer = none → ∀ store, before store → raises error store)
    (rest : ∀ result, answer = some result → Ensures before (next result) returns raises) :
    Ensures before (Action.expect answer error >>= next) returns raises := by
  cases answer with
  | none => exact fun store starts => absent rfl store starts
  | some result => exact rest result rfl

theorem Ensures.check_bind {failure : Option Error} {next : PUnit → Action Store Error Other}
    {returns : Other → Store → Prop}
    (fails : ∀ error, failure = some error → ∀ store, before store → raises error store)
    (rest : failure = none → Ensures before (next ⟨⟩) returns raises) :
    Ensures before (Action.check failure >>= next) returns raises := by
  cases failure with
  | none => exact rest rfl
  | some error => exact fun store starts => fails error rfl store starts

/-- What raises leaves the store with the part that has been put back. -/
theorem Ensures.restoring {restore : Store → Store → Store} (raises : Error → Store → Prop)
    (ensures : Ensures before action returns raises)
    (restored : ∀ error store after, before store → raises error after →
      raisesWeaker error (restore store after)) :
    Ensures before (action.restoring restore) returns raisesWeaker := by
  intro store holds
  have ensured := ensures store holds
  rw [Action.restoring]
  revert ensured
  rcases action store with ⟨outcome, after⟩
  cases outcome with
  | ok result => exact id
  | error error => exact restored error store after holds

/-- A transaction that raises leaves the store as it was. -/
theorem Ensures.atomic (raises : Error → Store → Prop)
    (ensures : Ensures before action returns raises)
    (kept : ∀ error store after, before store → raises error after → raisesWeaker error store) :
    Ensures before action.atomic returns raisesWeaker := by
  intro store holds
  have ensured := ensures store holds
  rw [Action.atomic]
  revert ensured
  rcases action store with ⟨outcome, after⟩
  cases outcome with
  | ok result => exact id
  | error error => exact kept error store after holds

theorem Ensures.attempt {action : Action Store Raised Result}
    {returns : Except Raised Result → Store → Prop}
    (ensures : Ensures before action (fun result => returns (.ok result))
      fun error => returns (.error error)) :
    Ensures before (Action.attempt action : Action Store Error _) returns raises := by
  intro store holds
  have ensured := ensures store holds
  rw [Action.attempt]
  revert ensured
  rcases action store with ⟨outcome, after⟩
  cases outcome with
  | ok result => exact id
  | error error => exact id

theorem Ensures.attempt_bind {Later : Type (max v w)} {action : Action Store Raised Result}
    {next : Except Raised Result → Action Store Error Later} {returns : Later → Store → Prop}
    {tried : Result → Store → Prop} {failed : Raised → Store → Prop}
    (ensures : Ensures before action tried failed)
    (ok : ∀ result, Ensures (tried result) (next (.ok result)) returns raises)
    (error : ∀ error, Ensures (failed error) (next (.error error)) returns raises) :
    Ensures before (Action.attempt action >>= next) returns raises := by
  apply Ensures.bind fun outcome store => match outcome with
    | .ok result => tried result store
    | .error error => failed error store
  · exact Ensures.attempt ensures
  · intro outcome
    cases outcome with
    | ok result => exact ok result
    | error failure => exact error failure

/-- What each step keeps, with one item less to go, holds at the end. -/
theorem Ensures.fold {Item : Type x} {step : Result → Item → Action Store Error Result}
    (holds : List Item → Result → Store → Prop)
    (keeps : ∀ result item items,
      Ensures (holds (item :: items) result) (step result item) (holds items) raises)
    (result : Result) (items : List Item) :
    Ensures (holds items result) (Action.fold step result items) (holds []) raises := by
  induction items generalizing result with
  | nil => exact Ensures.pure fun _ starts => starts
  | cons item items induction =>
      rw [Action.fold]
      exact Ensures.bind (holds items) (keeps result item items) fun next => induction next

theorem Ensures.after {holds : Store → Prop}
    (ensures : Ensures before action (fun _ => holds) fun _ => holds) {store : Store}
    (starts : before store) : holds (action store).2 := by
  have ensured := ensures store starts
  revert ensured
  rcases action store with ⟨outcome, after⟩
  cases outcome with
  | ok result => exact id
  | error error => exact id

theorem Ensures.returns_iff {condition : Prop}
    (ensures : Ensures before action (fun result store => condition ∧ returns result store)
      fun _ _ => ¬condition) {store : Store} (starts : before store) :
    (∃ result after, action store = (.ok result, after) ∧ returns result after) ↔ condition := by
  have ensured := ensures store starts
  revert ensured
  rcases action store with ⟨outcome, after⟩
  cases outcome with
  | ok result =>
      intro ensured
      exact ⟨fun _ => ensured.1, fun _ => ⟨result, after, rfl, ensured.2⟩⟩
  | error error =>
      intro ensured
      constructor
      · intro given
        rcases given with ⟨_, _, same, _⟩
        cases same
      · exact fun holds => absurd holds ensured

end Rules

end Action

end ChatsEngine
