import Mathlib.Data.List.Basic

set_option autoImplicit false

/-! # Event-driven systems

Each stateful component of the library is modelled as a partial step function: an event that the
environment cannot produce in a state has no successor there. `Run` chains steps whose events all
meet a condition, so one notion covers the unrestricted runs (`Reachable`) and the runs that stay
away from a described situation. Every safety result below is an instance of
`ReachableBy.invariant`: prove what one step preserves, read it off every reachable state. -/

namespace Qatlib

/-- A system with initial states and a partial step function. -/
structure System (σ ε : Type) where
  /-- The states in which a run may start. -/
  Init : σ → Prop
  /-- The successor of a state under an event; `none` when the event cannot happen there. -/
  step : σ → ε → Option σ

namespace System

variable {σ ε : Type} (S : System σ ε)

/-- `S.Run ok s t`: `t` is reached from `s` by steps that each meet `ok`. -/
inductive Run (ok : σ → ε → Prop) : σ → σ → Prop where
  | refl (s : σ) : Run ok s s
  | step {s t u : σ} {e : ε} (hrun : Run ok s t) (hok : ok t e) (hstep : S.step t e = some u) :
      Run ok s u

/-- The states reached from an initial state by steps that each meet `ok`. -/
def ReachableBy (ok : σ → ε → Prop) (t : σ) : Prop := ∃ s, S.Init s ∧ S.Run ok s t

/-- The states reached from an initial state by any steps. -/
def Reachable (t : σ) : Prop := S.ReachableBy (fun _ _ => True) t

/-- The state after a list of events, if each of them can happen. -/
def exec (s : σ) : List ε → Option σ
  | [] => some s
  | e :: es => (S.step s e).bind (fun t => exec t es)

/-- The state after a list of events, if each of them can happen and meets a condition. -/
def execIf (ok : σ → ε → Prop) [∀ s e, Decidable (ok s e)] (s : σ) : List ε → Option σ
  | [] => some s
  | e :: es => if ok s e then (S.step s e).bind (fun t => execIf ok t es) else none

variable {S}

variable {s t : σ} {ok : σ → ε → Prop}

/-- **Invariant rule along a run**: what every admitted step preserves holds at the end of a run
    that starts with it. -/
theorem Run.invariant (Inv : σ → Prop)
    (hstep : ∀ s e t, Inv s → ok s e → S.step s e = some t → Inv t) (hrun : S.Run ok s t)
    (hs : Inv s) : Inv t := by
  induction hrun with
  | refl => exact hs
  | step _ hok hnext ih => exact hstep _ _ _ ih hok hnext

/-- **Invariant rule**: what holds initially and is preserved by every admitted step holds in every
    reachable state. -/
theorem ReachableBy.invariant (Inv : σ → Prop) (hinit : ∀ s, S.Init s → Inv s)
    (hstep : ∀ s e t, Inv s → ok s e → S.step s e = some t → Inv t) (ht : S.ReachableBy ok t) :
    Inv t := by
  obtain ⟨s, hs, hrun⟩ := ht
  exact hrun.invariant Inv hstep (hinit s hs)

theorem Run.mono {ok' : σ → ε → Prop} (h : ∀ s e, ok s e → ok' s e) (hrun : S.Run ok s t) :
    S.Run ok' s t := by
  induction hrun with
  | refl => exact Run.refl _
  | step _ hok hnext ih => exact Run.step ih (h _ _ hok) hnext

theorem Run.trans {u : σ} (hst : S.Run ok s t) (htu : S.Run ok t u) : S.Run ok s u := by
  induction htu with
  | refl => exact hst
  | step _ hok hnext ih => exact Run.step ih hok hnext

theorem Run.head {u : σ} {e : ε} (hok : ok s e) (hstep : S.step s e = some t) (hrun : S.Run ok t u) :
    S.Run ok s u :=
  (Run.step (Run.refl s) hok hstep).trans hrun

theorem ReachableBy.trans (hs : S.ReachableBy ok s) (hrun : S.Run ok s t) : S.ReachableBy ok t := by
  obtain ⟨s₀, hinit, h₀⟩ := hs
  exact ⟨s₀, hinit, h₀.trans hrun⟩

/-- Executing a list of events that meet a condition in any state. -/
theorem run_of_exec_forall {es : List ε} (hok : ∀ e ∈ es, ∀ s, ok s e)
    (h : S.exec s es = some t) : S.Run ok s t := by
  induction es generalizing s with
  | nil =>
      obtain rfl : s = t := by simpa [exec] using h
      exact Run.refl s
  | cons e es ih =>
      obtain ⟨u, hu, hrest⟩ := Option.bind_eq_some_iff.mp h
      obtain ⟨he, hes⟩ := List.forall_mem_cons.mp hok
      exact Run.head (he s) hu (ih hes hrest)

theorem run_of_exec {es : List ε} (h : S.exec s es = some t) : S.Run (fun _ _ => True) s t :=
  run_of_exec_forall (fun _ _ _ => trivial) h

/-- Executing a list of events that meet a condition. -/
theorem run_of_execIf [∀ s e, Decidable (ok s e)] {es : List ε} (h : S.execIf ok s es = some t) :
    S.Run ok s t := by
  induction es generalizing s with
  | nil =>
      obtain rfl : s = t := by simpa [execIf] using h
      exact Run.refl s
  | cons e es ih =>
      obtain ⟨hok, hbind⟩ := Option.ite_none_right_eq_some.mp h
      obtain ⟨u, hu, hrest⟩ := Option.bind_eq_some_iff.mp hbind
      exact Run.head hok hu (ih hrest)

theorem exec_append (s : σ) (es es' : List ε) :
    S.exec s (es ++ es') = (S.exec s es).bind (fun t => S.exec t es') := by
  induction es generalizing s with
  | nil => rfl
  | cons e es ih =>
      simp only [List.cons_append, exec, Option.bind_assoc]
      exact congrArg _ (funext fun t => ih t)

/-- The system with a history variable: a value that every step may change and none reads. -/
def observe {ω : Type} (S : System σ ε) (start : ω) (note : σ → ε → σ → ω → ω) :
    System (σ × ω) ε where
  Init o := S.Init o.1 ∧ o.2 = start
  step o e := (S.step o.1 e).map fun t => (t, note o.1 e t o.2)

theorem reachable_of_exec (s : σ) (es : List ε) (hs : S.Init s) (h : S.exec s es = some t) :
    S.Reachable t :=
  ⟨s, hs, run_of_exec h⟩

/-! A list of events that can be executed, and what can be computed of the state after it. -/

theorem exists_exec {P : σ → Prop} [DecidablePred P] {es : List ε}
    (h : (S.exec s es).any fun t => P t) : ∃ t, S.exec s es = some t ∧ P t := by
  obtain ⟨t, hexec, ht⟩ := (Option.any_eq_true _ _).mp h
  exact ⟨t, hexec, of_decide_eq_true ht⟩

theorem exists_reachable {P : σ → Prop} [DecidablePred P] (es : List ε) (hs : S.Init s)
    (h : (S.exec s es).any fun t => P t) : ∃ t, S.Reachable t ∧ P t := by
  obtain ⟨t, hexec, ht⟩ := exists_exec h
  exact ⟨t, ⟨s, hs, run_of_exec hexec⟩, ht⟩

theorem exists_reachableBy [∀ s e, Decidable (ok s e)] {P Q : σ → Prop} [DecidablePred P]
    (es : List ε) (hs : S.Init s) (h : (S.execIf ok s es).any fun t => P t)
    (hQ : ∀ t, S.ReachableBy ok t → P t → Q t) : ∃ t, S.ReachableBy ok t ∧ Q t := by
  obtain ⟨t, hexec, ht⟩ := (Option.any_eq_true _ _).mp h
  have hreach : S.ReachableBy ok t := ⟨s, hs, run_of_execIf hexec⟩
  exact ⟨t, hreach, hQ t hreach (of_decide_eq_true ht)⟩

end System

end Qatlib
