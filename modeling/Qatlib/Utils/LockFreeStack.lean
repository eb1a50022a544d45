import Mathlib.Algebra.Group.Nat.Defs
import Qatlib.Lib.System
import Qatlib.Utils.MemPool

set_option autoImplicit false

/-! # The lock-free stack of a pool

`pop` and `push` (`lac_lock_free_stack.h`) are called by any number of threads at once. A turn of
their loops reads the top of the stack, reads or writes a `pNext`, and exchanges the top for a new
one if it is still what was read. The top is a pointer and a counter (`unsigned long`, here of `w`
bits) that is incremented with every exchange. Only the exchange is atomic: the two halves of
`stack->top.atomic` are read one after the other, in either order, and between any two steps of a
thread the others may take any number of steps.

The stack refines the pool of the model, whose calls are single steps, as long as the counter does
not come round to its old value between a thread's reading it and its exchange. -/

namespace Qatlib.Utils

open Function

/-- A call that took effect, and the thread that made it. -/
inductive Done where
  | pushed (t b : Nat)
  | popped (t b : Nat)
  | empty (t : Nat)
deriving DecidableEq

/-- A call as one step of the pool. -/
def MemPool.take (p : MemPool) : Done → Option MemPool
  | .pushed _ b => some (p.entryFree b)
  | .popped _ b => if p.entryAlloc.1 = .entry b then some p.entryAlloc.2 else none
  | .empty _ => if p.entryAlloc.1 = .retry then some p else none

/-- The pool in `Lac_MemPoolCreate`, before its blocks are pushed one after the other. -/
def MemPool.unfilled (n : Nat) : MemPool :=
  { MemPool.create n with stack := [], availBlks := 0, blk := fun _ => ⟨true, none⟩ }

/-- The pool whose calls are single steps. -/
def atomicPool (n : Nat) : System MemPool Done where
  Init p := p = MemPool.unfilled n
  step := MemPool.take

namespace LockFree

inductive Op where
  | pop
  | push (val : Nat)
deriving DecidableEq

/-- The block that is pushed. -/
def Op.val : Op → Option Nat
  | .pop => none
  | .push val => some val

/-- A call in a turn of its loop: the local variables that it has set in this turn. `NULL` is
    `none`. -/
structure Call where
  op : Op
  /-- `old_top.ctr`, as the number of exchanges made when it was read. -/
  ctr : Option Nat
  /-- `old_top.ptr`. -/
  ptr : Option (Option Nat)
  /-- `new_top.ptr`. -/
  new : Option (Option Nat)
  /-- The number of exchanges made when the turn began, which no step looks at. -/
  began : Nat

/-- The stack, the `pNext` of every block and the calls under way. The counter starts at 0, so it is
    the number of exchanges made, modulo `2 ^ w`. The last three fields are a history: the blocks off
    the stack, which thread was asked to push a block, and the calls in the order in which they took
    effect. -/
structure State where
  top : Option Nat
  exchanges : Nat
  pNext : Nat → Option Nat
  thread : Nat → Option Call
  held : List Nat
  pusher : Nat → Option Nat
  log : List Done

inductive Event where
  /-- A thread calls `pop`, or `push` with a block off the stack that nobody else pushes. -/
  | call (t : Nat) (op : Op)
  | readCtr (t : Nat)
  | readPtr (t : Nat)
  /-- The next step of a thread that has read the top. -/
  | go (t : Nat)

namespace State

variable (w : Nat) (s : State)

def setCall (t : Nat) (c : Option Call) : State := { s with thread := update s.thread t c }

/-- A turn of the loop begins. -/
def turn (t : Nat) (op : Op) : State := s.setCall t (some ⟨op, none, none, none, s.exchanges⟩)

/-- A block is given to a thread to push. -/
def entrust (t : Nat) (val : Option Nat) : State :=
  { s with pusher := fun b => if val = some b then some t else s.pusher b }

/-- The top is exchanged and the call returns. -/
def exchange (t : Nat) (new : Option Nat) : State :=
  { s with top := new, exchanges := s.exchanges + 1 }.setCall t none

/-- The steps of a turn after the top was read. -/
def go (t : Nat) (op : Op) (ctr : Nat) (ptr : Option Nat) (new : Option (Option Nat))
    (began : Nat) : State :=
  match op, ptr, new with
  | .pop, none, _ => s.setCall t none
  | .pop, some b, none => s.setCall t (some ⟨op, some ctr, some ptr, some (s.pNext b), began⟩)
  | .pop, some b, some new =>
    if s.top = ptr ∧ s.exchanges % 2 ^ w = ctr % 2 ^ w then
      { s.exchange t new with held := b :: s.held, log := s.log ++ [.popped t b] }
    else s.turn t op
  | .push val, _, none =>
    { s with pNext := update s.pNext val ptr }.setCall t
      (some ⟨op, some ctr, some ptr, some (some val), began⟩)
  | .push val, _, some new =>
    if s.top = ptr ∧ s.exchanges % 2 ^ w = ctr % 2 ^ w then
      { s.exchange t new with
        held := s.held.erase val
        pusher := update s.pusher val none
        log := s.log ++ [.pushed t val] }
    else s.turn t op

def step : Event → Option State
  | .call t op =>
    if (s.thread t).isNone ∧ ∀ b ∈ op.val, b ∈ s.held ∧ s.pusher b = none then
      some ((s.entrust t op.val).turn t op)
    else none
  | .readCtr t =>
    match s.thread t with
    | some ⟨op, none, ptr, new, began⟩ =>
      some (s.setCall t (some ⟨op, some s.exchanges, ptr, new, began⟩))
    | _ => none
  | .readPtr t =>
    match s.thread t with
    | some ⟨op, ctr, none, new, began⟩ =>
      -- a `pop` that is going to return `NULL` takes effect with this read
      let log := if op = .pop ∧ s.top = none then s.log ++ [.empty t] else s.log
      some ({ s with log }.setCall t (some ⟨op, ctr, some s.top, new, began⟩))
    | _ => none
  | .go t =>
    match s.thread t with
    | some ⟨op, some ctr, some ptr, new, began⟩ => some (s.go w t op ctr ptr new began)
    | _ => none

end State

/-- `_init_stack`, and the blocks that `Lac_MemPoolCreate` is going to push. -/
def initStack (n : Nat) : State :=
  ⟨none, 0, fun _ => none, fun _ => none, List.range n, fun _ => none, []⟩

def stackSystem (w n : Nat) : System State Event where
  Init s := s = initStack n
  step := State.step w

/-- Fewer than `2 ^ w` exchanges were made since the thread read the counter. -/
def Event.inTime (w : Nat) (s : State) : Event → Bool
  | .go t => (s.thread t).all fun c => c.ctr.all fun ctr => s.exchanges < ctr + 2 ^ w
  | _ => true

/-! ## The linked list -/

/-- From a pointer, the `pNext`s lead through these blocks to `NULL`. -/
def Linked (pNext : Nat → Option Nat) : Option Nat → List Nat → Prop
  | p, [] => p = none
  | p, b :: bs => p = some b ∧ Linked pNext (pNext b) bs

namespace Linked

variable {pNext : Nat → Option Nat} {p : Option Nat} {bs : List Nat} {b : Nat}

theorem update (h : Linked pNext p bs) (hb : b ∉ bs) (q : Option Nat) :
    Linked (update pNext b q) p bs := by
  induction bs generalizing p with
  | nil => exact h
  | cons c bs ih =>
    rw [List.mem_cons, not_or] at hb
    refine ⟨h.1, ?_⟩
    rw [update_of_ne (Ne.symm hb.1)]
    exact ih h.2 hb.2

theorem eq_nil (h : Linked pNext none bs) : bs = [] := by
  cases bs with
  | nil => rfl
  | cons b bs => cases h.1

theorem eq_cons (h : Linked pNext (some b) bs) :
    ∃ rest, bs = b :: rest ∧ Linked pNext (pNext b) rest := by
  cases bs with
  | nil => cases h
  | cons c bs =>
    obtain ⟨⟨⟩, hrest⟩ := h
    exact ⟨bs, rfl, hrest⟩

end Linked

/-! ## What a call may rely on -/

variable {w n t ctr began : Nat} {s s' : State} {c : Call} {p : MemPool}

/-- As long as no exchange is made, what was read of the top holds, and `pop` has its `pNext`; what
    `push` wrote nobody else changes. -/
structure Call.Ok (s : State) (t : Nat) (c : Call) : Prop where
  ctr : ∀ k, c.ctr = some k → k ≤ s.exchanges
  read : ∀ q, c.new = some q → c.ctr ≠ none ∧ c.ptr ≠ none
  pop : ∀ b q, c.op = .pop → c.ptr = some (some b) → c.new = some q → c.ctr = some s.exchanges →
    s.top = some b → s.pNext b = q
  push : ∀ b, c.op = .push b → b ∈ s.held ∧ s.pusher b = some t ∧
    ∀ q, c.new = some q → q = some b ∧ c.ptr = some (s.pNext b)

/-- What a step of thread `t` leaves to the others. -/
structure Keeps (t : Nat) (s s' : State) : Prop where
  exchanges : s.exchanges ≤ s'.exchanges
  same : s'.exchanges = s.exchanges → s'.top = s.top ∧ ∀ b, s.top = some b → s'.pNext b = s.pNext b
  own : ∀ u b, u ≠ t → b ∈ s.held → s.pusher b = some u →
    b ∈ s'.held ∧ s'.pusher b = some u ∧ s'.pNext b = s.pNext b

theorem Call.Ok.keep {u : Nat} (h : c.Ok s u) (hk : Keeps t s s') (hu : u ≠ t) : c.Ok s' u where
  ctr k hk' := (h.ctr k hk').trans hk.exchanges
  read := h.read
  pop b q hop hptr hnew hctr htop := by
    -- the counter was read at this number, so the step made no exchange
    have hsame : s'.exchanges = s.exchanges := Nat.le_antisymm (h.ctr _ hctr) hk.exchanges
    obtain ⟨htop', hnext⟩ := hk.same hsame
    rw [htop'] at htop
    rw [hnext b htop]
    exact h.pop b q hop hptr hnew (hsame ▸ hctr) htop
  push b hop := by
    obtain ⟨hheld, hpusher, hnew⟩ := h.push b hop
    obtain ⟨hheld', hpusher', hnext⟩ := hk.own u b hu hheld hpusher
    exact ⟨hheld', hpusher', hnext ▸ hnew⟩

/-- Neither the other calls nor the log matter to a call. -/
theorem Call.Ok.congr (h : c.Ok s t) (hs : s' = { s with thread := s'.thread, log := s'.log }) :
    c.Ok s' t := by
  rw [hs]
  exact ⟨h.ctr, h.read, h.pop, h.push⟩

/-! ## The refinement -/

/-- The stack is that of a pool that made the same calls as single steps. -/
structure Refines (n : Nat) (s : State) (p : MemPool) : Prop where
  replay : (atomicPool n).exec (.unfilled n) s.log = some p
  active : p.active = true
  linked : Linked s.pNext s.top p.stack
  accounts : p.Accounts s.held
  calls : ∀ u c, s.thread u = some c → c.Ok s u

theorem Refines.init (n : Nat) : Refines n (initStack n) (.unfilled n) where
  replay := rfl
  active := rfl
  linked := rfl
  accounts := ⟨⟨.refl _, List.nodup_range⟩, rfl, fun _ hb => iff_of_true rfl (List.mem_range.mpr hb)⟩
  calls u c hu := by cases hu

namespace Refines

variable (h : Refines n s p)
include h

variable {new ptr : Option Nat} {oc : Option Call} {b val : Nat} {op : Op}

theorem calls_of_keeps (hthread : s'.thread = update s.thread t oc) (hk : Keeps t s s')
    (hc : ∀ c, oc = some c → c.Ok s' t) (u : Nat) (c : Call) (hu : s'.thread u = some c) :
    c.Ok s' u := by
  rw [hthread] at hu
  by_cases hut : u = t
  · subst hut
    rw [update_self] at hu
    exact hc c hu
  · rw [update_of_ne hut] at hu
    exact (h.calls u c hu).keep hk hut

/-- A block off the stack is not on the linked list. -/
theorem not_mem_stack (hb : b ∈ s.held) : b ∉ p.stack := fun hmem =>
  (List.nodup_append.mp h.accounts.partition.nodup_append).2.2 b hmem b hb rfl

theorem setCall (hc : ∀ c, oc = some c → c.Ok s t) : Refines n (s.setCall t oc) p :=
  { h with
    calls := h.calls_of_keeps rfl
      ⟨le_rfl, fun _ => ⟨rfl, fun _ _ => rfl⟩, fun _ _ _ hheld hb => ⟨hheld, hb, rfl⟩⟩
      fun c hcall => (hc c hcall).congr rfl }

theorem replay_snoc {p' : MemPool} {d : Done} (hd : p.take d = some p') :
    (atomicPool n).exec (.unfilled n) (s.log ++ [d]) = some p' := by
  rw [System.exec_append, h.replay]
  exact congrArg (·.bind some) hd

/-- A turn begins; `push` has its block to itself. -/
theorem turn (hop : ∀ b, op = .push b → b ∈ s.held ∧ s.pusher b = some t) :
    Refines n (s.turn t op) p := by
  refine h.setCall ?_
  rintro _ ⟨⟩
  refine ⟨nofun, nofun, nofun, fun b hb => ?_⟩
  exact ⟨(hop b hb).1, (hop b hb).2, nofun⟩

/-- Nobody else pushes the block of a new call. -/
theorem entrust {val : Option Nat} (hval : ∀ b ∈ val, s.pusher b = none) :
    Refines n (s.entrust t val) p := by
  refine { h with calls := fun u c hu => (h.calls u c hu).keep (t := u + 1) ?_ (by omega) }
  refine ⟨le_rfl, fun _ => ⟨rfl, fun _ _ => rfl⟩, fun v b _ hheld hb => ⟨hheld, ?_, rfl⟩⟩
  have hne : val ≠ some b := fun heq => nomatch (hval b heq).symm.trans hb
  exact (if_neg hne).trans hb

theorem readCtr (hc : c.Ok s t) (hnone : c.ctr = none) :
    Refines n (s.setCall t (some { c with ctr := some s.exchanges })) p := by
  refine h.setCall ?_
  rintro _ ⟨⟩
  have hnew (q : Option Nat) : c.new ≠ some q := fun hq => (hc.read q hq).1 hnone
  exact ⟨fun k hk => (Option.some.inj hk).ge, fun q hq => absurd hq (hnew q),
    fun b q _ _ hq => absurd hq (hnew q), hc.push⟩

theorem readPtr (hc : c.Ok s t) (hnone : c.ptr = none) :
    Refines n (s.setCall t (some { c with ptr := some s.top })) p := by
  refine h.setCall ?_
  rintro _ ⟨⟩
  have hnew (q : Option Nat) : c.new ≠ some q := fun hq => (hc.read q hq).2 hnone
  exact ⟨hc.ctr, fun q hq => absurd hq (hnew q), fun b q _ _ hq => absurd hq (hnew q),
    fun b hb => ⟨(hc.push b hb).1, (hc.push b hb).2.1, fun q hq => absurd hq (hnew q)⟩⟩

theorem noteEmpty (t : Nat) (htop : s.top = none) :
    Refines n { s with log := s.log ++ [.empty t] } p := by
  have hempty : p.stack = [] := (htop ▸ h.linked).eq_nil
  have htake : p.take (.empty t) = some p := by
    simp [MemPool.take, MemPool.entryAlloc, h.active, hempty]
  exact { h with replay := h.replay_snoc htake, calls := fun u c hu => (h.calls u c hu).congr rfl }

/-- `push` writes the `pNext` of its block, which is not on the linked list. -/
theorem write (hc : Call.Ok s t ⟨.push val, some ctr, some ptr, none, began⟩) :
    Refines n ({ s with pNext := update s.pNext val ptr }.setCall t
      (some ⟨.push val, some ctr, some ptr, some (some val), began⟩)) p := by
  obtain ⟨hval, hpusher, -⟩ := hc.push val rfl
  have hoff := h.not_mem_stack hval
  refine { h with
    linked := h.linked.update hoff ptr
    calls := h.calls_of_keeps rfl
      ⟨le_rfl, fun _ => ⟨rfl, fun b htop => ?_⟩, fun u b hu hheld hb => ?_⟩ ?_ }
  · obtain ⟨rest, hstack, -⟩ := (htop ▸ h.linked).eq_cons
    have hne : b ≠ val := fun hb => hoff (hb ▸ hstack ▸ List.mem_cons_self)
    exact update_of_ne hne _ _
  · have hne : b ≠ val := fun hbv => hu (Option.some.inj (hb.symm.trans (hbv ▸ hpusher)))
    exact ⟨hheld, hb, update_of_ne hne _ _⟩
  · rintro _ ⟨⟩
    refine ⟨hc.ctr, fun _ _ => ⟨nofun, nofun⟩, nofun, ?_⟩
    rintro _ ⟨⟩
    refine ⟨hval, hpusher, fun q hq => ⟨(Option.some.inj hq).symm, ?_⟩⟩
    exact congrArg some (update_self val ptr s.pNext).symm

/-- `pop` takes the block on top: the counter is what it read, so no exchange was made since. -/
theorem popped (hc : Call.Ok s t ⟨.pop, some ctr, some (some b), some new, began⟩)
    (htime : s.exchanges < ctr + 2 ^ w) (htop : s.top = some b)
    (hmod : s.exchanges % 2 ^ w = ctr % 2 ^ w) :
    ∃ p', Refines n { s.exchange t new with
      held := b :: s.held, log := s.log ++ [.popped t b] } p' := by
  have hctr : ctr = s.exchanges := by
    have hle := hc.ctr ctr rfl
    have hzero := Nat.sub_mod_eq_zero_of_mod_eq hmod
    rw [Nat.mod_eq_of_lt (by omega)] at hzero
    omega
  have hnext : s.pNext b = new := hc.pop b new rfl rfl rfl (congrArg some hctr) htop
  obtain ⟨rest, hstack, hrest⟩ := (htop ▸ h.linked).eq_cons
  obtain ⟨p', halloc, rfl, hactive⟩ :
      ∃ p', p.entryAlloc = (.entry b, p') ∧ p'.stack = rest ∧ p'.active = true := by
    unfold MemPool.entryAlloc
    rw [if_pos h.active, hstack]
    exact ⟨_, rfl, rfl, h.active⟩
  refine ⟨p', h.replay_snoc (by simp [MemPool.take, halloc]), hactive, hnext ▸ hrest,
    h.accounts.entryAlloc halloc, h.calls_of_keeps rfl ⟨Nat.le_succ _, ?_, ?_⟩ nofun⟩
  · exact fun hsame => absurd hsame (Nat.succ_ne_self _)
  · exact fun u b' _ hheld hb => ⟨List.mem_cons_of_mem _ hheld, hb, rfl⟩

theorem pushed (hc : Call.Ok s t ⟨.push val, some ctr, some ptr, some new, began⟩)
    (htop : s.top = ptr) :
    Refines n { s.exchange t new with
      held := s.held.erase val
      pusher := update s.pusher val none
      log := s.log ++ [.pushed t val] } (p.entryFree val) := by
  obtain ⟨hval, hpusher, hwritten⟩ := hc.push val rfl
  obtain ⟨rfl, hnext⟩ := hwritten new rfl
  have hlink : s.top = s.pNext val := htop.trans (Option.some.inj hnext)
  refine ⟨h.replay_snoc rfl, h.active, ⟨rfl, hlink ▸ h.linked⟩,
    (h.accounts.congr (List.perm_cons_erase hval)).entryFree,
    h.calls_of_keeps rfl ⟨Nat.le_succ _, ?_, ?_⟩ nofun⟩
  · exact fun hsame => absurd hsame (Nat.succ_ne_self _)
  · intro u b hu hheld hb
    have hne : b ≠ val := fun hbv => hu (Option.some.inj (hb.symm.trans (hbv ▸ hpusher)))
    exact ⟨(List.mem_erase_of_ne hne).mpr hheld, (update_of_ne hne _ _).trans hb, rfl⟩

theorem go {new : Option (Option Nat)} (hc : Call.Ok s t ⟨op, some ctr, some ptr, new, began⟩)
    (htime : s.exchanges < ctr + 2 ^ w) : ∃ p', Refines n (s.go w t op ctr ptr new began) p' := by
  have hretry := h.turn fun b hb => ⟨(hc.push b hb).1, (hc.push b hb).2.1⟩
  unfold State.go
  split
  · exact ⟨p, h.setCall nofun⟩
  · next b =>
    refine ⟨p, h.setCall ?_⟩
    rintro _ ⟨⟩
    refine ⟨hc.ctr, fun _ _ => ⟨nofun, nofun⟩, ?_, nofun⟩
    rintro _ q - ⟨⟩ hq - -
    exact Option.some.inj hq
  · split
    · next hsame => exact h.popped hc htime hsame.1 hsame.2
    · exact ⟨p, hretry⟩
  · exact ⟨p, h.write hc⟩
  · split
    · next hsame => exact ⟨_, h.pushed hc hsame.1⟩
    · exact ⟨p, hretry⟩

/-- **Every step of every thread** keeps the refinement. -/
theorem step {e : Event} (hok : e.inTime w s) (hstep : s.step w e = some s') :
    ∃ p', Refines n s' p' := by
  cases e with
  | call t op =>
    simp only [State.step, Option.ite_none_right_eq_some, Option.some.injEq] at hstep
    obtain ⟨⟨-, hop⟩, rfl⟩ := hstep
    refine ⟨p, (h.entrust fun b hb => (hop b hb).2).turn ?_⟩
    rintro b rfl
    exact ⟨(hop b rfl).1, if_pos rfl⟩
  | readCtr t =>
    simp only [State.step] at hstep
    split at hstep
    · next hcall =>
      cases hstep
      exact ⟨p, h.readCtr (h.calls _ _ hcall) rfl⟩
    · cases hstep
  | readPtr t =>
    simp only [State.step] at hstep
    split at hstep
    · next hcall =>
      cases hstep
      split
      · next hempty =>
        have hnote := h.noteEmpty t hempty.2
        exact ⟨p, hnote.readPtr (hnote.calls _ _ hcall) rfl⟩
      · exact ⟨p, h.readPtr (h.calls _ _ hcall) rfl⟩
    · cases hstep
  | go t =>
    simp only [State.step] at hstep
    split at hstep
    · next hcall =>
      cases hstep
      exact h.go (h.calls _ _ hcall) (by simpa [Event.inTime, hcall] using hok)
    · cases hstep

end Refines

theorem exists_refines (hs : (stackSystem w n).ReachableBy (fun s e => e.inTime w s) s) :
    ∃ p, Refines n s p := by
  refine hs.invariant (fun s => ∃ p, Refines n s p) ?_ ?_
  · rintro s rfl
    exact ⟨_, .init n⟩
  · rintro s e s' ⟨p, h⟩ hok hstep
    exact h.step hok hstep

/-- **The lock-free stack is linearizable.** However the steps of the threads are interleaved, as
    long as fewer than `2 ^ w` exchanges are made between a thread's reading the counter and its own
    exchange: the calls, in the order in which they took effect, are calls that the pool can make as
    single steps with the same answers, the linked list is the stack of that pool, and every block
    is on it once or off it once. -/
theorem stack_linearizable (hs : (stackSystem w n).ReachableBy (fun s e => e.inTime w s) s) :
    ∃ p, (atomicPool n).exec (.unfilled n) s.log = some p ∧ Linked s.pNext s.top p.stack ∧
      p.Accounts s.held := by
  obtain ⟨p, h⟩ := exists_refines hs
  exact ⟨p, h.replay, h.linked, h.accounts⟩

/-- Two threads push at once, up to the exchange of the first. -/
def bothPush : List Event :=
  [.call 0 (.push 0), .call 1 (.push 1), .readCtr 0, .readPtr 1, .readCtr 1, .readPtr 0, .go 0, .go 1,
    .go 0]

/-- The exchange of the second thread fails, and succeeds in another turn. -/
theorem stack_linearizable_two_threads :
    ∃ (s : State) (p : MemPool), (stackSystem 64 2).execIf (fun s e => e.inTime 64 s) (initStack 2)
        (bothPush ++ [.go 1, .readPtr 1, .readCtr 1, .go 1, .go 1]) = some s ∧
      s.log = [.pushed 0 0, .pushed 1 1] ∧ (atomicPool 2).exec (.unfilled 2) s.log = some p ∧
      Linked s.pNext s.top p.stack ∧ p.Accounts s.held := by
  have hlog : ((stackSystem 64 2).execIf (fun s e => e.inTime 64 s) (initStack 2)
      (bothPush ++ [.go 1, .readPtr 1, .readCtr 1, .go 1, .go 1])).map State.log =
      some [.pushed 0 0, .pushed 1 1] := by decide
  obtain ⟨s, hrun, hs⟩ := Option.map_eq_some_iff.mp hlog
  obtain ⟨p, hp⟩ := stack_linearizable ⟨_, rfl, System.run_of_execIf hrun⟩
  exact ⟨s, p, hrun, hs, hp⟩

/-! ## Progress

That a turn only fails when another call succeeded needs neither the linked list nor the bound on
the exchanges: a turn that was not overtaken finds the very top that it read. -/

/-- As long as no exchange is made, what the turn has read of the top holds. -/
structure Call.Current (s : State) (c : Call) : Prop where
  began : c.began ≤ s.exchanges
  ctr : c.began = s.exchanges → ∀ k, c.ctr = some k → k = s.exchanges
  ptr : c.began = s.exchanges → ∀ q, c.ptr = some q → q = s.top

def AllCurrent (s : State) : Prop := ∀ u c, s.thread u = some c → c.Current s

namespace AllCurrent

variable (h : AllCurrent s)
include h

theorem set {oc : Option Call} (hthread : s'.thread = update s.thread t oc)
    (hex : s'.exchanges = s.exchanges) (htop : s'.top = s.top)
    (hc : ∀ c, oc = some c → c.Current s) : AllCurrent s' := by
  intro u c hu
  have hold : c.Current s := by
    rw [hthread] at hu
    by_cases hut : u = t
    · subst hut
      exact hc c (by rwa [update_self] at hu)
    · exact h u c (by rwa [update_of_ne hut] at hu)
  obtain ⟨hbegan, hctr, hptr⟩ := hold
  rw [← hex] at hbegan hctr hptr
  exact ⟨hbegan, hctr, fun heq q hq => (hptr heq q hq).trans htop.symm⟩

/-- After an exchange every turn under way was overtaken. -/
theorem exchanged (hthread : s'.thread = update s.thread t none)
    (hex : s'.exchanges = s.exchanges + 1) : AllCurrent s' := by
  intro u c hu
  rw [hthread] at hu
  have hut : u ≠ t := by
    rintro rfl
    cases (update_self u none s.thread).symm.trans hu
  have hbegan := (h u c (by rwa [update_of_ne hut] at hu)).began
  exact ⟨by omega, by omega, by omega⟩

theorem turn (t : Nat) (op : Op) : AllCurrent (s.turn t op) := by
  refine h.set (t := t) rfl rfl rfl ?_
  rintro _ ⟨⟩
  exact ⟨le_rfl, nofun, nofun⟩

theorem go {op : Op} {ptr : Option Nat} {new : Option (Option Nat)}
    (hc : Call.Current s ⟨op, some ctr, some ptr, new, began⟩) :
    AllCurrent (s.go w t op ctr ptr new began) := by
  unfold State.go
  split
  case h_1 => exact h.set (t := t) rfl rfl rfl nofun
  case h_2 | h_4 =>
    refine h.set (t := t) rfl rfl rfl ?_
    rintro _ ⟨⟩
    exact ⟨hc.began, hc.ctr, hc.ptr⟩
  case h_3 | h_5 =>
    split
    · exact h.exchanged (t := t) rfl rfl
    · exact h.turn t _

theorem step {e : Event} (hstep : s.step w e = some s') : AllCurrent s' := by
  cases e with
  | call t op =>
    simp only [State.step, Option.ite_none_right_eq_some, Option.some.injEq] at hstep
    obtain ⟨-, rfl⟩ := hstep
    exact turn (s := s.entrust t op.val) (fun u c hu => ⟨(h u c hu).began, (h u c hu).ctr,
      (h u c hu).ptr⟩) t op
  | readCtr t =>
    simp only [State.step] at hstep
    split at hstep
    · next hcall =>
      cases hstep
      refine h.set (t := t) rfl rfl rfl ?_
      rintro _ ⟨⟩
      have hc := h _ _ hcall
      exact ⟨hc.began, fun _ k hk => (Option.some.inj hk).symm, hc.ptr⟩
    · cases hstep
  | readPtr t =>
    simp only [State.step] at hstep
    split at hstep
    · next hcall =>
      cases hstep
      refine h.set (t := t) rfl rfl rfl ?_
      rintro _ ⟨⟩
      have hc := h _ _ hcall
      exact ⟨hc.began, hc.ctr, fun _ q hq => (Option.some.inj hq).symm⟩
    · cases hstep
  | go t =>
    simp only [State.step] at hstep
    split at hstep
    · next hcall =>
      cases hstep
      exact h.go (h _ _ hcall)
    · cases hstep

end AllCurrent

/-- **The stack is lock-free**: a call that has set `new_top` and does not return with its next step
    was overtaken, in this turn, by the exchange of another. -/
theorem stack_lockFree (hs : (stackSystem w n).Reachable s) (hc : s.thread t = some c)
    (hnew : c.new ≠ none) (hstep : s.step w (.go t) = some s') (hloop : s'.thread t ≠ none) :
    c.began < s.exchanges := by
  have hcur : AllCurrent s := by
    refine hs.invariant AllCurrent ?_ fun s e s' h _ hstep => h.step hstep
    rintro s rfl u c ⟨⟩
  obtain ⟨hle, hctr, hptr⟩ := hcur t c hc
  refine lt_of_le_of_ne hle fun hbegan => hloop ?_
  simp only [State.step] at hstep
  split at hstep
  · next ctr ptr new began hcall =>
    cases hstep
    cases hc.symm.trans hcall
    obtain rfl := hctr hbegan ctr rfl
    obtain rfl := hptr hbegan ptr rfl
    unfold State.go
    split
    · exact update_self ..
    · exact absurd rfl hnew
    · rw [if_pos ⟨rfl, rfl⟩]
      exact update_self ..
    · exact absurd rfl hnew
    · rw [if_pos ⟨rfl, rfl⟩]
      exact update_self ..
  · cases hstep

/-- The second thread was overtaken by the first. -/
theorem stack_lockFree_overtaken :
    ∃ (s s' : State) (c : Call), (stackSystem 64 2).exec (initStack 2) bothPush = some s ∧
      s.thread 1 = some c ∧ s.step 64 (.go 1) = some s' ∧ s'.thread 1 ≠ none ∧
      c.began < s.exchanges := by
  have hall : ((stackSystem 64 2).exec (initStack 2) bothPush).any fun s =>
      (s.thread 1).any (·.new.isSome) && (s.step 64 (.go 1)).any (·.thread 1 |>.isSome) := by decide
  simp only [Option.any_eq_true, Bool.and_eq_true, Option.isSome_iff_ne_none] at hall
  obtain ⟨s, hrun, ⟨c, hc, hnew⟩, s', hstep, hloop⟩ := hall
  exact ⟨s, s', c, hrun, hc, hstep, hloop,
    stack_lockFree (System.reachable_of_exec _ _ rfl hrun) hc hnew hstep hloop⟩

end LockFree

end Qatlib.Utils
