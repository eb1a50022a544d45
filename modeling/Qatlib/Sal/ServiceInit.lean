import Mathlib.Data.List.Basic
import Mathlib.Data.List.Range
import Qatlib.Api
import Qatlib.Sal.Services

set_option autoImplicit false

/-! # Starting the instances of a service

`SalCtrl_ServiceInit` makes the instances of a service and puts them on its list (`SalList_add`),
calls `init` on each (`SAL_FOR_EACH`), and when that fails calls `shutdown` on those that are
initialised (`SAL_FOR_EACH_STATE`) and frees the list. The three loops share one status. Which of the
steps succeed is given by a record of answers; what happens to the instances is written to a log.

`SalCtrl_ServiceEventInit` passes an empty list. `Sal_InitMiscErrStats`, called between the loops,
always succeeds. -/

namespace Qatlib.Sal

/-- The part of `sal_service_t` that the loops use: the instance number and the state. -/
structure Instance where
  number : Nat
  state : ServiceState
deriving DecidableEq

/-- What happens to an instance. -/
inductive InstanceEvent where
  | initialized (number : Nat)
  | shutDown (number : Nat)
  | freed (number : Nat)
deriving DecidableEq

/-- Which steps succeed: memory for the debug directory, for each instance and for its list node, and
    what the steps of the instance's `init` give. -/
structure InitAnswers where
  debugDir : Bool
  create : Nat → Bool
  addNode : Nat → Bool
  init : Nat → CpaStatus

/-- The status, the list of services and what happened to the instances. -/
structure InitOutcome where
  status : CpaStatus
  services : List Instance
  log : List InstanceEvent
deriving DecidableEq

/-- `SalCtrl_CryptoInit`, `SalCtrl_CompressionInit`: the state is checked and set, and the steps
    between the two assignments give the status. -/
def Instance.init (answer : CpaStatus) (x : Instance) : CpaStatus × Instance × List InstanceEvent :=
  if x.state ≠ .uninitialized ∧ x.state ≠ .restarting then (.fail, x, [])
  else if answer = .success then
    (.success, { x with state := .initialized }, [.initialized x.number])
  else (answer, { x with state := .initializing }, [])

/-- `SalCtrl_CryptoShutdown`, `SalCtrl_CompressionShutdown`. -/
def Instance.shutdown (x : Instance) : Instance × List InstanceEvent :=
  if x.state ≠ .initialized ∧ x.state ≠ .shuttingDown ∧ x.state ≠ .restarting then (x, [])
  else ({ x with state := .shutdown }, [.shutDown x.number])

/-- `SalCtrl_ServiceCreate`. -/
def serviceCreate (number : Nat) : Instance := ⟨number, .uninitialized⟩

/-- `SalList_free`. -/
def listFree (services : List Instance) : List InstanceEvent :=
  services.map fun x => .freed x.number

namespace InitAnswers

variable (a : InitAnswers)

/-- The first loop, with `k` turns left. A failed `SalList_add` frees the instance and goes on. -/
def createEach : Nat → Nat → InitOutcome → InitOutcome
  | 0, _, r => r
  | k + 1, i, r =>
      if a.create i = false then { r with status := .resource }
      else if a.addNode i = false then
        createEach k (i + 1) ⟨.resource, r.services, r.log ++ [.freed i]⟩
      else createEach k (i + 1) ⟨.success, r.services ++ [serviceCreate i], r.log⟩

/-- `SAL_FOR_EACH` with `init`. -/
def initEach : CpaStatus → List Instance → InitOutcome
  | status, [] => ⟨status, [], []⟩
  | status, x :: xs =>
      let turn := x.init (a.init x.number)
      if turn.1 ≠ .success ∧ turn.1 ≠ .retry then ⟨turn.1, turn.2.1 :: xs, turn.2.2⟩
      else
        let rest := initEach (if turn.1 = .retry then .retry else status) xs
        ⟨rest.status, turn.2.1 :: rest.services, turn.2.2 ++ rest.log⟩

end InitAnswers

/-- `SAL_FOR_EACH_STATE` with `shutdown` and `SAL_SERVICE_STATE_INITIALIZED`. -/
def shutdownEach : List Instance → List Instance × List InstanceEvent
  | [] => ([], [])
  | x :: xs =>
      if x.state = .initialized then
        (x.shutdown.1 :: (shutdownEach xs).1, x.shutdown.2 ++ (shutdownEach xs).2)
      else (x :: xs, [])

/-- `SalCtrl_ServiceInit`. -/
def serviceInit (a : InitAnswers) (instanceCount : Nat) : InitOutcome :=
  if a.debugDir = false then ⟨.resource, [], []⟩
  else
    let made := a.createEach instanceCount 0 ⟨.success, [], []⟩
    if made.status ≠ .success then ⟨made.status, [], made.log ++ listFree made.services⟩
    else
      let ready := a.initEach .success made.services
      if ready.status ≠ .success then
        let down := shutdownEach ready.services
        ⟨ready.status, [], made.log ++ ready.log ++ down.2 ++ listFree down.1⟩
      else ⟨.success, ready.services, made.log ++ ready.log⟩

variable {i : Nat} {ids : List Nat}

/-! ## The first loop -/

open InitAnswers

section Create

variable {a : InitAnswers}

/-- The loop ends in success when every instance was made and the last one has a node. -/
theorem createEach_status_iff (k i : Nat) (r : InitOutcome) :
    (a.createEach k i r).status = .success ↔
      (∀ j, i ≤ j → j < i + k → a.create j = true) ∧ (∀ j, i ≤ j → j + 1 = i + k → a.addNode j = true) ∧
        (k = 0 → r.status = .success) := by
  induction k generalizing i r with
  | zero =>
    refine ⟨fun h => ⟨fun j hij hj => by omega, fun j hij hj => by omega, fun _ => h⟩, fun h => h.2.2 rfl⟩
  | succ k ih =>
    unfold createEach
    have hshift : i + 1 + k = i + (k + 1) := by omega
    by_cases hcreate : a.create i = false
    · rw [if_pos hcreate]
      refine ⟨fun h => (by cases h), fun h => ?_⟩
      have := h.1 i (Nat.le_refl i) (by omega)
      rw [hcreate] at this
      cases this
    · rw [if_neg hcreate]
      have hstart : ∀ j, i ≤ j → j = i ∨ i + 1 ≤ j := fun j hij => by omega
      by_cases hnode : a.addNode i = false
      · rw [if_pos hnode, ih, hshift]
        constructor
        · rintro ⟨h1, h2, h3⟩
          have hk : k ≠ 0 := fun hk => by cases h3 hk
          refine ⟨fun j hij hj => ?_, fun j hij hj => h2 j (by omega) hj, fun h => by cases h⟩
          rcases hstart j hij with rfl | hlt
          · simpa using hcreate
          · exact h1 j hlt hj
        · rintro ⟨h1, h2, -⟩
          refine ⟨fun j hij hj => h1 j (by omega) hj, fun j hij hj => h2 j (by omega) hj, fun hk => ?_⟩
          have := h2 i (Nat.le_refl i) (by omega)
          rw [hnode] at this
          cases this
      · rw [if_neg hnode, ih, hshift]
        constructor
        · rintro ⟨h1, h2, -⟩
          refine ⟨fun j hij hj => ?_, fun j hij hj => ?_, fun h => by cases h⟩
          · rcases hstart j hij with rfl | hlt
            · simpa using hcreate
            · exact h1 j hlt hj
          · rcases hstart j hij with rfl | hlt
            · simpa using hnode
            · exact h2 j hlt hj
        · rintro ⟨h1, h2, -⟩
          exact ⟨fun j hij hj => h1 j (by omega) hj, fun j hij hj => h2 j (by omega) hj, fun _ => rfl⟩

/-- When every instance is made, the list gets those that have a node. -/
theorem createEach_services {k : Nat} (r : InitOutcome)
    (hcreate : ∀ j, i ≤ j → j < i + k → a.create j = true) :
    (a.createEach k i r).services =
      r.services ++ ((List.range' i k).filter a.addNode).map serviceCreate := by
  induction k generalizing i r with
  | zero => simp [createEach]
  | succ k ih =>
    unfold createEach
    rw [if_neg (by simp [hcreate i (Nat.le_refl i) (by omega)]), List.range'_succ]
    have hrest : ∀ j, i + 1 ≤ j → j < i + 1 + k → a.create j = true :=
      fun j hij hj => hcreate j (by omega) (by omega)
    by_cases hnode : a.addNode i = false
    · rw [if_pos hnode, ih _ hrest, List.filter_cons_of_neg (by simp [hnode])]
    · rw [if_neg hnode, ih _ hrest, List.filter_cons_of_pos (by simpa using hnode)]
      simp

/-- The first loop only frees instances. -/
theorem createEach_log (k i : Nat) (r : InitOutcome) (h : ∀ e ∈ r.log, ∃ j, e = .freed j) :
    ∀ e ∈ (a.createEach k i r).log, ∃ j, e = .freed j := by
  induction k generalizing i r with
  | zero => exact h
  | succ k ih =>
    unfold createEach
    split
    · exact h
    · split
      · refine ih _ _ fun e he => ?_
        rcases List.mem_append.mp he with hold | hnew
        · exact h e hold
        · exact ⟨i, List.mem_singleton.mp hnew⟩
      · exact ih _ _ h

end Create

/-! ## The second and the third loop -/

section Loops

variable {a : InitAnswers}

theorem init_serviceCreate (answer : CpaStatus) (i : Nat) :
    (serviceCreate i).init answer =
      if answer = .success then (.success, ⟨i, .initialized⟩, [.initialized i])
      else (answer, ⟨i, .initializing⟩, []) := by
  simp [serviceCreate, Instance.init]

theorem initEach_cons {x x' : Instance} {turn : CpaStatus} {log : List InstanceEvent}
    (hturn : x.init (a.init x.number) = (turn, x', log)) (status : CpaStatus) (xs : List Instance) :
    a.initEach status (x :: xs) =
      if turn ≠ .success ∧ turn ≠ .retry then ⟨turn, x' :: xs, log⟩
      else
        let rest := a.initEach (if turn = .retry then .retry else status) xs
        ⟨rest.status, x' :: rest.services, log ++ rest.log⟩ := by
  rw [initEach, hturn]

theorem initEach_cons_success (h : a.init i = .success) (status : CpaStatus) (xs : List Instance) :
    a.initEach status (serviceCreate i :: xs) =
      ⟨(a.initEach status xs).status, ⟨i, .initialized⟩ :: (a.initEach status xs).services,
        .initialized i :: (a.initEach status xs).log⟩ :=
  initEach_cons ((init_serviceCreate _ i).trans (if_pos h)) status xs

theorem initEach_cons_retry (h : a.init i = .retry) (status : CpaStatus) (xs : List Instance) :
    a.initEach status (serviceCreate i :: xs) =
      ⟨(a.initEach .retry xs).status, ⟨i, .initializing⟩ :: (a.initEach .retry xs).services,
        (a.initEach .retry xs).log⟩ := by
  have hturn : (serviceCreate i).init (a.init i) = (.retry, ⟨i, .initializing⟩, []) := by
    rw [init_serviceCreate, if_neg (by simp [h]), h]
  exact initEach_cons hturn status xs

theorem initEach_cons_fail (h : a.init i ≠ .success) (h' : a.init i ≠ .retry) (status : CpaStatus)
    (xs : List Instance) :
    a.initEach status (serviceCreate i :: xs) = ⟨a.init i, ⟨i, .initializing⟩ :: xs, []⟩ := by
  have hturn : (serviceCreate i).init (a.init i) = (a.init i, ⟨i, .initializing⟩, []) := by
    rw [init_serviceCreate, if_neg h]
  rw [initEach_cons hturn, if_pos ⟨h, h'⟩]

/-- The loop ends in success when every `init` does. -/
theorem initEach_status_iff (ids : List Nat) (status : CpaStatus) :
    (a.initEach status (ids.map serviceCreate)).status = .success ↔
      status = .success ∧ ∀ i ∈ ids, a.init i = .success := by
  induction ids generalizing status with
  | nil => simp [initEach]
  | cons i ids ih =>
    rw [List.map_cons]
    by_cases hsuccess : a.init i = .success
    · simp [initEach_cons_success hsuccess, ih, hsuccess]
    · by_cases hretry : a.init i = .retry
      · simp [initEach_cons_retry hretry, ih, hretry]
      · simp [initEach_cons_fail hsuccess hretry, hsuccess]

theorem initEach_services (h : ∀ i ∈ ids, a.init i = .success) (status : CpaStatus) :
    (a.initEach status (ids.map serviceCreate)).services = ids.map fun i => ⟨i, .initialized⟩ := by
  induction ids with
  | nil => rfl
  | cons i ids ih =>
    rw [List.map_cons, initEach_cons_success (h i (List.mem_cons_self ..)),
      ih fun j hj => h j (List.mem_cons_of_mem i hj)]
    rfl

/-- The loop keeps the instances, and so does `SAL_FOR_EACH_STATE`. -/
theorem initEach_numbers (ids : List Nat) (status : CpaStatus) :
    (a.initEach status (ids.map serviceCreate)).services.map Instance.number = ids := by
  induction ids generalizing status with
  | nil => rfl
  | cons i ids ih =>
    rw [List.map_cons]
    by_cases hsuccess : a.init i = .success
    · rw [initEach_cons_success hsuccess, List.map_cons, ih]
    · by_cases hretry : a.init i = .retry
      · rw [initEach_cons_retry hretry, List.map_cons, ih]
      · rw [initEach_cons_fail hsuccess hretry, List.map_cons, List.map_map]
        exact congrArg (i :: ·) (List.map_id ids)

section

variable (services : List Instance)

theorem shutdownEach_numbers :
    (shutdownEach services).1.map Instance.number = services.map Instance.number := by
  induction services with
  | nil => rfl
  | cons x xs ih =>
    rw [shutdownEach]
    split
    next hstate =>
      rw [List.map_cons, ih, List.map_cons]
      simp [Instance.shutdown, hstate]
    next => rfl

theorem initEach_log (status : CpaStatus) :
    ∀ e ∈ (a.initEach status services).log, ∃ j, e = .initialized j := by
  induction services generalizing status with
  | nil => simp [initEach]
  | cons x xs ih =>
    have hturn : ∀ e ∈ (x.init (a.init x.number)).2.2, ∃ j, e = .initialized j := by
      unfold Instance.init
      split
      · simp
      · split <;> simp
    rw [initEach]
    generalize x.init (a.init x.number) = turn at hturn
    dsimp only
    split
    · exact hturn
    · intro e he
      rcases List.mem_append.mp he with hfirst | hrest
      · exact hturn e hfirst
      · exact ih _ e hrest

theorem shutdownEach_log : ∀ e ∈ (shutdownEach services).2, ∃ j, e = .shutDown j := by
  induction services with
  | nil => simp [shutdownEach]
  | cons x xs ih =>
    rw [shutdownEach]
    split
    · intro e he
      rcases List.mem_append.mp he with hfirst | hrest
      · unfold Instance.shutdown at hfirst
        split at hfirst
        · cases hfirst
        · exact ⟨x.number, List.mem_singleton.mp hfirst⟩
      · exact ih e hrest
    · simp

theorem listFree_log : ∀ e ∈ listFree services, ∃ j, e = .freed j := by
  intro e he
  obtain ⟨x, -, rfl⟩ := List.mem_map.mp he
  exact ⟨x.number, rfl⟩

end

/-- An instance is initialised when its `init` succeeds and none before it stops the loop. -/
theorem initialized_mem_initEach (hids : ids.Pairwise (· < ·)) (status : CpaStatus) (j : Nat) :
    .initialized j ∈ (a.initEach status (ids.map serviceCreate)).log ↔
      j ∈ ids ∧ a.init j = .success ∧
        ∀ i ∈ ids, i < j → a.init i = .success ∨ a.init i = .retry := by
  induction ids generalizing status with
  | nil => simp [initEach]
  | cons i ids ih =>
    obtain ⟨hfirst, hrest⟩ := List.pairwise_cons.mp hids
    have hlater : j ∈ ids → i < j := fun hj => hfirst j hj
    have hearlier : ∀ k ∈ ids, ¬ k < i := fun k hk => by have := hfirst k hk; omega
    rw [List.map_cons]
    by_cases hsuccess : a.init i = .success
    · rw [initEach_cons_success hsuccess]
      simp only [List.mem_cons, InstanceEvent.initialized.injEq, ih hrest, forall_eq_or_imp, hsuccess,
        true_or, implies_true, true_and]
      constructor
      · rintro (rfl | ⟨hmem, hj, hbefore⟩)
        · exact ⟨.inl rfl, hsuccess, fun k hk hlt => absurd hlt (hearlier k hk)⟩
        · exact ⟨.inr hmem, hj, hbefore⟩
      · rintro ⟨rfl | hmem, hj, hbefore⟩
        · exact .inl rfl
        · exact .inr ⟨hmem, hj, hbefore⟩
    · by_cases hretry : a.init i = .retry
      · rw [initEach_cons_retry hretry]
        simp only [List.mem_cons, ih hrest, forall_eq_or_imp, hretry, or_true, implies_true, true_and]
        refine and_congr_left fun ⟨hj, _⟩ => ⟨.inr, fun h => h.resolve_left ?_⟩
        rintro rfl
        exact hsuccess hj
      · rw [initEach_cons_fail hsuccess hretry]
        simp only [List.mem_cons, forall_eq_or_imp, hsuccess, hretry, or_self, List.not_mem_nil,
          false_iff]
        rintro ⟨rfl | hmem, hj, hbefore, -⟩
        · exact hsuccess hj
        · exact hbefore (hlater hmem)

/-- An instance is shut down when it and all before it are initialised. -/
theorem shutDown_mem_shutdownEach (hids : ids.Pairwise (· < ·)) (status : CpaStatus) (j : Nat) :
    .shutDown j ∈ (shutdownEach (a.initEach status (ids.map serviceCreate)).services).2 ↔
      j ∈ ids ∧ ∀ i ∈ ids, i ≤ j → a.init i = .success := by
  induction ids generalizing status with
  | nil => simp [initEach, shutdownEach]
  | cons i ids ih =>
    obtain ⟨hfirst, hrest⟩ := List.pairwise_cons.mp hids
    have hle : j ∈ i :: ids → i ≤ j := by
      intro hmem
      rcases List.mem_cons.mp hmem with rfl | hj
      · exact Nat.le_refl j
      · exact Nat.le_of_lt (hfirst j hj)
    rw [List.map_cons]
    by_cases hsuccess : a.init i = .success
    · rw [initEach_cons_success hsuccess, shutdownEach, if_pos rfl]
      have hdown : Instance.shutdown ⟨i, .initialized⟩ = (⟨i, .shutdown⟩, [.shutDown i]) := rfl
      simp only [hdown, List.cons_append, List.nil_append, InstanceEvent.shutDown.injEq, ih hrest,
        List.mem_cons, forall_eq_or_imp, hsuccess, implies_true, true_and]
      constructor
      · rintro (rfl | ⟨hmem, hbefore⟩)
        · refine ⟨.inl rfl, fun k hk hkj => ?_⟩
          have := hfirst k hk
          omega
        · exact ⟨.inr hmem, hbefore⟩
      · rintro ⟨rfl | hmem, hbefore⟩
        · exact .inl rfl
        · exact .inr ⟨hmem, hbefore⟩
    · have hstop : ¬ (j ∈ i :: ids ∧ ∀ k ∈ i :: ids, k ≤ j → a.init k = .success) :=
        fun h => hsuccess (h.2 i (List.mem_cons_self ..) (hle h.1))
      by_cases hretry : a.init i = .retry
      · rw [initEach_cons_retry hretry, shutdownEach, if_neg (by simp)]
        simpa using hstop
      · rw [initEach_cons_fail hsuccess hretry, shutdownEach, if_neg (by simp)]
        simpa using hstop

end Loops

/-! ## The whole call -/

/-- The instances that get a list node. -/
def InitAnswers.added (a : InitAnswers) (instanceCount : Nat) : List Nat :=
  (List.range instanceCount).filter a.addNode

/-- Success means that the list has all instances, initialised; failure that it is empty, and that
    every instance that was initialised was shut down before it was freed. -/
structure InitOutcome.AllOrNothing (r : InitOutcome) (instanceCount : Nat) : Prop where
  all : r.status = .success → r.services = (List.range instanceCount).map fun i => ⟨i, .initialized⟩
  nothing : r.status ≠ .success → r.services = [] ∧
    ∀ i, .initialized i ∈ r.log → [.initialized i, .shutDown i, .freed i].Sublist r.log

/-- The call comes to the second loop. -/
structure InitAnswers.ReachesInit (a : InitAnswers) (instanceCount : Nat) : Prop where
  debugDir : a.debugDir = true
  create : ∀ i < instanceCount, a.create i = true
  lastNode : ∀ i, i + 1 = instanceCount → a.addNode i = true

/-- If the call comes to the second loop and every `init` succeeds, then every instance has a node;
    and no `init` succeeds after one that asked for a retry. -/
def InitAnswers.NothingLost (a : InitAnswers) (instanceCount : Nat) : Prop :=
  a.ReachesInit instanceCount →
    ((∀ i ∈ a.added instanceCount, a.init i = .success) → ∀ i < instanceCount, a.addNode i = true) ∧
    ∀ j ∈ a.added instanceCount, a.init j = .success →
      (∀ i ∈ a.added instanceCount, i < j → a.init i = .success ∨ a.init i = .retry) →
      ∀ i ∈ a.added instanceCount, i < j → a.init i ≠ .retry

section Call

variable {a : InitAnswers} {n : Nat}

theorem createEach_eq (h : a.ReachesInit n) :
    (a.createEach n 0 ⟨.success, [], []⟩).status = .success ∧
      (a.createEach n 0 ⟨.success, [], []⟩).services = (a.added n).map serviceCreate := by
  constructor
  · rw [createEach_status_iff]
    refine ⟨fun j _ hj => h.create j (by omega), fun j _ hj => h.lastNode j (by omega), fun _ => rfl⟩
  · rw [createEach_services _ fun j _ hj => h.create j (by omega), List.nil_append,
      ← List.range_eq_range', added]

theorem InitAnswers.added_pairwise (a : InitAnswers) (n : Nat) : (a.added n).Pairwise (· < ·) :=
  List.pairwise_lt_range.filter _

/-- A call that does not come to the second loop initialises nothing. -/
theorem serviceInit_of_not_reaches (h : ¬ a.ReachesInit n) : (serviceInit a n).AllOrNothing n := by
  unfold serviceInit
  by_cases hdir : a.debugDir = false
  · rw [if_pos hdir]
    exact ⟨fun h => (by cases h), fun _ => ⟨rfl, fun i hi => (by cases hi)⟩⟩
  rw [if_neg hdir]
  have hstatus : (a.createEach n 0 ⟨.success, [], []⟩).status ≠ .success := by
    intro hsuccess
    obtain ⟨hcreate, hnode, -⟩ := (createEach_status_iff n 0 _).mp hsuccess
    exact h ⟨by simpa using hdir, fun i hi => hcreate i (Nat.zero_le i) (by omega),
      fun i hi => hnode i (Nat.zero_le i) (by omega)⟩
  dsimp only
  rw [if_pos hstatus]
  refine ⟨fun h => absurd h hstatus, fun _ => ⟨rfl, fun i hi => ?_⟩⟩
  rcases List.mem_append.mp hi with hmade | hfree
  · obtain ⟨j, hj⟩ := createEach_log n 0 ⟨.success, [], []⟩ (by simp) _ hmade
    cases hj
  · obtain ⟨j, hj⟩ := listFree_log _ _ hfree
    cases hj

/-- When every `init` succeeds, the list has the instances with a node. -/
theorem serviceInit_of_all (h : a.ReachesInit n) (hall : ∀ i ∈ a.added n, a.init i = .success) :
    (serviceInit a n).status = .success ∧
      (serviceInit a n).services = (a.added n).map fun i => ⟨i, .initialized⟩ := by
  obtain ⟨hstatus, hservices⟩ := createEach_eq h
  have hready := (initEach_status_iff (a.added n) .success).mpr ⟨rfl, hall⟩
  unfold serviceInit
  rw [if_neg (by simp [h.debugDir])]
  dsimp only
  rw [hservices, if_neg (by simp [hstatus]), if_neg (by simp [hready])]
  exact ⟨rfl, initEach_services hall .success⟩

/-- In a log of frees, initialisations, shut-downs and frees, what is initialised is shut down and
    freed after that when its shut-down is there. -/
theorem shutDown_first_iff {made inits downs frees : List InstanceEvent}
    (hmade : ∀ e ∈ made, ∃ j, e = .freed j) (hinits : ∀ e ∈ inits, ∃ j, e = .initialized j)
    (hdowns : ∀ e ∈ downs, ∃ j, e = .shutDown j) (hfrees : ∀ e ∈ frees, ∃ j, e = .freed j)
    (hfreed : ∀ i, .initialized i ∈ inits → .freed i ∈ frees) :
    (∀ i, .initialized i ∈ made ++ inits ++ downs ++ frees →
        [.initialized i, .shutDown i, .freed i].Sublist (made ++ inits ++ downs ++ frees)) ↔
      ∀ i, .initialized i ∈ inits → .shutDown i ∈ downs := by
  have hnot {l : List InstanceEvent} {f : Nat → InstanceEvent} (hl : ∀ e ∈ l, ∃ j, e = f j)
      {e : InstanceEvent} (hne : ∀ j, e ≠ f j) : e ∉ l := fun he =>
    (hl e he).elim hne
  have hinit : ∀ i, .initialized i ∈ made ++ inits ++ downs ++ frees → .initialized i ∈ inits := by
    intro i hi
    simpa [hnot hmade (e := .initialized i) nofun, hnot hdowns (e := .initialized i) nofun,
      hnot hfrees (e := .initialized i) nofun] using hi
  have hdown : ∀ i, .shutDown i ∈ made ++ inits ++ downs ++ frees → .shutDown i ∈ downs := by
    intro i hi
    simpa [hnot hmade (e := .shutDown i) nofun, hnot hinits (e := .shutDown i) nofun,
      hnot hfrees (e := .shutDown i) nofun] using hi
  constructor
  · intro h i hi
    have hsub := h i (by simp [hi])
    exact hdown i (hsub.subset (by simp))
  · intro h i hi
    have hi := hinit i hi
    exact (((List.singleton_sublist.mpr hi).trans (List.sublist_append_right made inits)).append
      (List.singleton_sublist.mpr (h i hi))).append (List.singleton_sublist.mpr (hfreed i hi))

/-- When an `init` does not succeed, the initialised instances are shut down in order if and only if
    none comes after a retry. -/
theorem serviceInit_of_not_all (h : a.ReachesInit n)
    (hall : ¬ ∀ i ∈ a.added n, a.init i = .success) :
    (serviceInit a n).AllOrNothing n ↔ ∀ j ∈ a.added n, a.init j = .success →
        (∀ i ∈ a.added n, i < j → a.init i = .success ∨ a.init i = .retry) →
        ∀ i ∈ a.added n, i < j → a.init i ≠ .retry := by
  obtain ⟨hstatus, hservices⟩ := createEach_eq h
  have hready : (a.initEach .success ((a.added n).map serviceCreate)).status ≠ .success :=
    fun hsuccess => hall ((initEach_status_iff (a.added n) .success).mp hsuccess).2
  have hpairwise := a.added_pairwise n
  unfold serviceInit
  rw [if_neg (by simp [h.debugDir])]
  dsimp only
  rw [hservices, if_neg (by simp [hstatus]), if_pos hready]
  have hinit := initialized_mem_initEach (a := a) hpairwise .success
  have hdown := shutDown_mem_shutdownEach (a := a) hpairwise .success
  have hnumbers : (shutdownEach (a.initEach .success ((a.added n).map serviceCreate)).services).1.map
      Instance.number = a.added n := by
    rw [shutdownEach_numbers, initEach_numbers]
  have hfrees : ∀ i ∈ a.added n, .freed i ∈ listFree
      (shutdownEach (a.initEach .success ((a.added n).map serviceCreate)).services).1 := by
    intro i hi
    rw [← hnumbers] at hi
    obtain ⟨x, hx, rfl⟩ := List.mem_map.mp hi
    exact List.mem_map.mpr ⟨x, hx, rfl⟩
  have hfirst := shutDown_first_iff (createEach_log (a := a) n 0 ⟨.success, [], []⟩ (by simp))
    (initEach_log (a := a) ((a.added n).map serviceCreate) .success)
    (shutdownEach_log (a.initEach .success ((a.added n).map serviceCreate)).services)
    (listFree_log _) fun i hi => hfrees i ((hinit i).mp hi).1
  constructor
  · intro hr j hj hsuccess hbefore i hi hij hretry
    -- `j` is initialised, so it was shut down, and then all before it were initialised
    have hlog := hfirst.mp (hr.nothing hready).2 j ((hinit j).mpr ⟨hj, hsuccess, hbefore⟩)
    have hi' := ((hdown j).mp hlog).2 i hi (Nat.le_of_lt hij)
    rw [hretry] at hi'
    cases hi'
  · intro hr
    refine ⟨fun h => absurd h hready, fun _ => ⟨rfl, hfirst.mpr fun j hj => ?_⟩⟩
    obtain ⟨hmem, hsuccess, hbefore⟩ := (hinit j).mp hj
    refine (hdown j).mpr ⟨hmem, fun i hi hij => ?_⟩
    rcases Nat.lt_or_eq_of_le hij with hlt | rfl
    · exact (hbefore i hi hlt).resolve_right (hr j hmem hsuccess hbefore i hi hlt)
    · exact hsuccess

end Call

/-- **A call gives all instances or none exactly when it loses none**, neither to a list node that
    could not be allocated nor behind a retry. -/
theorem serviceInit_allOrNothing_iff (a : InitAnswers) (n : Nat) :
    (serviceInit a n).AllOrNothing n ↔ a.NothingLost n := by
  by_cases hreach : a.ReachesInit n
  swap
  · exact ⟨fun _ h => absurd h hreach, fun _ => serviceInit_of_not_reaches hreach⟩
  by_cases hall : ∀ i ∈ a.added n, a.init i = .success
  · obtain ⟨hstatus, hservices⟩ := serviceInit_of_all hreach hall
    have hfilter : a.added n = List.range n ↔ ∀ i < n, a.addNode i = true := by
      rw [added, List.filter_eq_self]
      simp only [List.mem_range]
    have hinj : (a.added n).map (fun i => (⟨i, .initialized⟩ : Instance)) =
        (List.range n).map (fun i => ⟨i, .initialized⟩) ↔ a.added n = List.range n :=
      (List.map_injective_iff.mpr fun i j h => by injection h).eq_iff
    constructor
    · intro hr _
      refine ⟨fun _ => hfilter.mp (hinj.mp (hservices.symm.trans (hr.all hstatus))), ?_⟩
      intro j _ _ _ i hi _ hretry
      rw [hall i hi] at hretry
      cases hretry
    · intro hlost
      refine ⟨fun _ => ?_, fun h => absurd hstatus h⟩
      rw [hservices, hfilter.mpr ((hlost hreach).1 hall)]
  · rw [serviceInit_of_not_all hreach hall]
    exact ⟨fun h _ => ⟨fun h' => absurd h' hall, h⟩, fun h => (h hreach).2⟩

/-- The second of two instances cannot be initialised, and the first is shut down. -/
theorem serviceInit_allOrNothing_second_fails :
    serviceInit ⟨true, fun _ => true, fun _ => true, fun i => if i = 1 then .fail else .success⟩ 2 =
        ⟨.fail, [], [.initialized 0, .shutDown 0, .freed 0, .freed 1]⟩ ∧
      (serviceInit ⟨true, fun _ => true, fun _ => true,
        fun i => if i = 1 then .fail else .success⟩ 2).AllOrNothing 2 := by
  refine ⟨by decide, (serviceInit_allOrNothing_iff _ 2).mpr fun _ => ⟨fun _ _ _ => rfl, ?_⟩⟩
  intro j _ _ _ i _ _
  dsimp only
  split <;> simp

/-- Without memory for the first list node the call succeeds with one of two instances; and an
    instance that is initialised after a retry is freed without being shut down. -/
theorem serviceInit_loses_instance :
    serviceInit ⟨true, fun _ => true, fun i => i != 0, fun _ => .success⟩ 2 =
        ⟨.success, [⟨1, .initialized⟩], [.freed 0, .initialized 1]⟩ ∧
      serviceInit ⟨true, fun _ => true, fun _ => true, fun i => if i = 0 then .retry else .success⟩ 2 =
        ⟨.retry, [], [.initialized 1, .freed 0, .freed 1]⟩ := by
  decide

end Qatlib.Sal
