import Mathlib.Data.List.Basic
import Mathlib.Logic.Function.Basic

set_option autoImplicit false

/-! # Intrusive doubly linked lists

Nodes carry a pointer to their predecessor and one to their successor; a list is given by the
pointers to its first and last node. `addToHead` and `removeElement` are the two edits. `Seg` says
that a run of nodes is linked both ways between a given predecessor and successor, and `IsDList` that
the pointers describe a given list of nodes; each edit changes the described list as its name says and
leaves alone every node outside the list. Several lists may share one pair of pointer fields as long
as they have no node in common. -/

namespace Qatlib

open Function

variable {α : Type}

/-- The pointer fields of the nodes. -/
structure Links (α : Type) where
  prev : α → Option α
  next : α → Option α

/-- The pointers to the first and the last node of a list. -/
structure Ends (α : Type) where
  head : Option α
  tail : Option α

/-- The ends of an empty list. -/
def Ends.empty : Ends α := ⟨none, none⟩

/-- The nodes met by following `next`. -/
def walk (next : α → Option α) : Nat → Option α → List α
  | 0, _ => []
  | _ + 1, none => []
  | n + 1, some x => x :: walk next n (next x)

section Edits

variable [DecidableEq α]

/-- Insert a node at the head. -/
def addToHead (l : Links α) (e : Ends α) (x : α) : Links α × Ends α :=
  match e.head with
  | none => ({ prev := update l.prev x none, next := update l.next x none }, ⟨some x, some x⟩)
  | some h =>
      ({ prev := update (update l.prev x none) h (some x)
         next := update l.next x (some h) },
        ⟨some x, e.tail⟩)

/-- Join the neighbours of a node that is taken out. -/
def unlink (l : Links α) (e : Ends α) : Option α → Option α → Links α × Ends α
  | some p, some n => ({ prev := update l.prev n (some p), next := update l.next p (some n) }, e)
  | some p, none => ({ l with next := update l.next p none }, ⟨e.head, some p⟩)
  | none, some n => ({ l with prev := update l.prev n none }, ⟨some n, e.tail⟩)
  | none, none => (l, ⟨none, none⟩)

/-- Take a node out. -/
def removeElement (l : Links α) (e : Ends α) (x : α) : Links α × Ends α :=
  unlink l e (l.prev x) (l.next x)

end Edits

/-! ## Segments -/

/-- The nodes are linked both ways, from predecessor `p` to successor `n`. -/
def Seg (l : Links α) : Option α → List α → Option α → Prop
  | _, [], _ => True
  | p, x :: xs, n => l.prev x = p ∧ l.next x = xs.head?.or n ∧ Seg l (some x) xs n

variable {l : Links α} {xs ys zs : List α} {n p : Option α} {x z : α} {e : Ends α}

theorem Seg.congr {l' : Links α} (h : Seg l p xs n)
    (heq : ∀ x ∈ xs, l'.prev x = l.prev x ∧ l'.next x = l.next x) : Seg l' p xs n := by
  induction xs generalizing p with
  | nil => trivial
  | cons x xs ih =>
    obtain ⟨hprev, hnext, hrest⟩ := h
    obtain ⟨heq₁, heq₂⟩ := heq x List.mem_cons_self
    exact ⟨heq₁.trans hprev, heq₂.trans hnext,
      ih hrest fun y hy => heq y (List.mem_cons_of_mem x hy)⟩

/-- A segment splits anywhere; each half has its neighbour in the other. -/
theorem seg_append :
    Seg l p (xs ++ ys) n ↔ Seg l p xs (ys.head?.or n) ∧ Seg l (xs.getLast?.or p) ys n := by
  induction xs generalizing p with
  | nil => simp [Seg]
  | cons x xs ih =>
    have hlast : (x :: xs).getLast?.or p = xs.getLast?.or (some x) := by
      rw [List.getLast?_cons]
      cases xs.getLast? <;> rfl
    have hhead : (xs ++ ys).head?.or n = xs.head?.or (ys.head?.or n) := by
      cases xs <;> simp
    rw [List.cons_append, hlast]
    simp only [Seg, ih, hhead, and_assoc]

theorem Seg.setPrev [DecidableEq α] {p' : Option α} (h : Seg l p (x :: xs) n)
    (hnodup : (x :: xs).Nodup) :
    Seg { l with prev := update l.prev x p' } p' (x :: xs) n := by
  obtain ⟨-, hnext, hrest⟩ := h
  refine ⟨update_self _ _ _, hnext, hrest.congr fun y hy => ⟨?_, rfl⟩⟩
  have hne : y ≠ x := by
    rintro rfl
    exact (List.nodup_cons.mp hnodup).1 hy
  exact update_of_ne hne _ _

theorem Seg.setNext [DecidableEq α] {n' : Option α} (h : Seg l p (xs ++ [x]) n)
    (hnodup : (xs ++ [x]).Nodup) :
    Seg { l with next := update l.next x n' } p (xs ++ [x]) n' := by
  obtain ⟨hxs, hprev, -⟩ := seg_append.mp h
  refine seg_append.mpr ⟨hxs.congr fun y hy => ⟨rfl, ?_⟩, hprev, ?_, trivial⟩
  · have hne : y ≠ x := by
      rintro rfl
      exact (List.nodup_append.mp hnodup).2.2 y hy y (List.mem_singleton_self y) rfl
    exact update_of_ne hne _ _
  · exact update_self _ _ _

/-! ## Lists -/

/-- The pointers describe the list of nodes. -/
structure IsDList (l : Links α) (e : Ends α) (xs : List α) : Prop where
  nodup : xs.Nodup
  head : e.head = xs.head?
  tail : e.tail = xs.getLast?
  seg : Seg l none xs none

theorem IsDList.empty (l : Links α) : IsDList l Ends.empty [] := ⟨List.nodup_nil, rfl, rfl, trivial⟩

theorem IsDList.congr {l' : Links α} (h : IsDList l e xs)
    (heq : ∀ x ∈ xs, l'.prev x = l.prev x ∧ l'.next x = l.next x) : IsDList l' e xs :=
  ⟨h.nodup, h.head, h.tail, h.seg.congr heq⟩

theorem walk_seg (h : Seg l p xs none) {fuel : Nat} (hfuel : xs.length ≤ fuel) :
    walk l.next fuel xs.head? = xs := by
  induction xs generalizing p fuel with
  | nil => cases fuel <;> rfl
  | cons x xs ih =>
    obtain ⟨-, hnext, hrest⟩ := h
    cases fuel with
    | zero => simp at hfuel
    | succ fuel =>
      rw [List.head?_cons, walk, hnext, Option.or_none, ih hrest (by simpa using hfuel)]

/-- Following `next` from the head meets exactly the nodes of the list. -/
theorem IsDList.walk (h : IsDList l e xs) {fuel : Nat} (hfuel : xs.length ≤ fuel) :
    walk l.next fuel e.head = xs := by
  rw [h.head]
  exact walk_seg h.seg hfuel

theorem IsDList.neighbours (h : IsDList l e (ys ++ x :: zs)) :
    l.prev x = ys.getLast? ∧ l.next x = zs.head? := by
  obtain ⟨-, hprev, hnext, -⟩ := seg_append.mp h.seg
  rw [Option.or_none] at hprev hnext
  exact ⟨hprev, hnext⟩

/-- The two parts of a list around a node, linked to the node. -/
theorem IsDList.parts (h : IsDList l e (ys ++ x :: zs)) :
    Seg l none ys (some x) ∧ Seg l (some x) zs none ∧ (ys ++ zs).Nodup := by
  obtain ⟨hys, -, -, hzs⟩ := seg_append.mp h.seg
  exact ⟨hys, hzs, h.nodup.sublist ((List.sublist_cons_self x zs).append_left ys)⟩

section Edits

variable [DecidableEq α] {l : Links α} {e : Ends α} {xs : List α} {x : α}

theorem addToHead_cons {y : α} (he : e.head = some y) :
    addToHead l e x = ({ prev := update (update l.prev x none) y (some x)
                         next := update l.next x (some y) }, ⟨some x, e.tail⟩) := by
  rw [addToHead, he]

/-- **Inserting at the head describes the longer list.** -/
theorem IsDList.add (h : IsDList l e xs) (hx : x ∉ xs) :
    IsDList (addToHead l e x).1 (addToHead l e x).2 (x :: xs) := by
  obtain ⟨hnodup, hhead, htail, hseg⟩ := h
  cases xs with
  | nil =>
    rw [addToHead, hhead]
    exact ⟨List.pairwise_singleton _ x, rfl, rfl, update_self _ _ _, update_self _ _ _, trivial⟩
  | cons y ys =>
    have hne : x ≠ y := fun heq => hx (heq ▸ List.mem_cons_self)
    rw [addToHead_cons hhead]
    refine ⟨List.nodup_cons.mpr ⟨hx, hnodup⟩, rfl, ?_, ?_, ?_, ?_⟩
    · rw [htail, List.getLast?_cons_cons]
    · exact (update_of_ne hne _ _).trans (update_self _ _ _)
    · exact update_self _ _ _
    · refine (hseg.setPrev hnodup).congr fun z hz => ?_
      have hzx : z ≠ x := fun heq => hx (heq ▸ hz)
      refine ⟨?_, update_of_ne hzx _ _⟩
      -- the two updates of `prev` are at different nodes
      simp only [update_apply, if_neg hzx]

/-- Inserting leaves the nodes outside the list alone. -/
theorem IsDList.add_frame (h : IsDList l e xs) (hz : z ≠ x) (hzs : z ∉ xs) :
    (addToHead l e x).1.prev z = l.prev z ∧ (addToHead l e x).1.next z = l.next z := by
  cases hhead : e.head with
  | none =>
    rw [addToHead, hhead]
    exact ⟨update_of_ne hz _ _, update_of_ne hz _ _⟩
  | some y =>
    have hy : y ∈ xs := List.mem_of_mem_head? (h.head.symm.trans hhead)
    have hzy : z ≠ y := fun heq => hzs (heq ▸ hy)
    rw [addToHead_cons hhead]
    exact ⟨(update_of_ne hzy _ _).trans (update_of_ne hz _ _), update_of_ne hz _ _⟩

/-- **Taking a node out describes the list without it.** -/
theorem IsDList.remove_append (h : IsDList l e (ys ++ x :: zs)) :
    IsDList (removeElement l e x).1 (removeElement l e x).2 (ys ++ zs) := by
  obtain ⟨hprev, hnext⟩ := h.neighbours
  obtain ⟨hys, hzs, hnodup⟩ := h.parts
  obtain ⟨-, hhead, htail, -⟩ := h
  rw [removeElement, hprev, hnext]
  -- by the neighbours the node has
  rcases List.eq_nil_or_concat' ys with rfl | ⟨ys, p, rfl⟩
  · cases zs with
    | nil => exact IsDList.empty l
    | cons n zs => exact ⟨hnodup, rfl, htail.trans List.getLast?_cons_cons, hzs.setPrev hnodup⟩
  · have hfirst : ∀ ws, (ys ++ [p] ++ ws).head? = (ys ++ [p]).head? := by
      intro ws
      cases ys <;> rfl
    rw [List.getLast?_concat]
    cases zs with
    | nil =>
      rw [List.append_nil] at hnodup ⊢
      exact ⟨hnodup, hhead.trans (hfirst _), List.getLast?_concat.symm, hys.setNext hnodup⟩
    | cons n zs =>
      obtain ⟨hyn, hzn, hdis⟩ := List.nodup_append.mp hnodup
      have hlast : (ys ++ [p] ++ x :: n :: zs).getLast? = (ys ++ [p] ++ n :: zs).getLast? := by
        simp [List.getLast?_append]
      refine ⟨hnodup, hhead.trans ((hfirst _).trans (hfirst _).symm), htail.trans hlast,
        seg_append.mpr ⟨?_, ?_⟩⟩
      · refine (hys.setNext hyn).congr fun y hy => ⟨?_, rfl⟩
        exact update_of_ne (hdis y hy n List.mem_cons_self) _ _
      · rw [List.getLast?_concat, Option.some_or]
        refine (hzs.setPrev hzn).congr fun z hz => ⟨rfl, ?_⟩
        exact update_of_ne (hdis p (by simp) z hz).symm _ _

/-- Taking a node out leaves the nodes outside the list alone. -/
theorem IsDList.remove_frame_append (h : IsDList l e (ys ++ x :: zs)) (hz : z ∉ ys ++ x :: zs) :
    (removeElement l e x).1.prev z = l.prev z ∧ (removeElement l e x).1.next z = l.next z := by
  obtain ⟨hprev, hnext⟩ := h.neighbours
  have hp : ∀ p, ys.getLast? = some p → z ≠ p := by
    rintro p hlast rfl
    exact hz (List.mem_append_left _ (List.mem_of_getLast? hlast))
  have hn : ∀ n, zs.head? = some n → z ≠ n := by
    rintro n hfirst rfl
    exact hz (List.mem_append_right _ (List.mem_cons_of_mem _ (List.mem_of_head? hfirst)))
  rw [removeElement, hprev, hnext]
  cases hlast : ys.getLast? with
  | none =>
    cases hfirst : zs.head? with
    | none => exact ⟨rfl, rfl⟩
    | some n => exact ⟨update_of_ne (hn n hfirst) _ _, rfl⟩
  | some p =>
    cases hfirst : zs.head? with
    | none => exact ⟨rfl, update_of_ne (hp p hlast) _ _⟩
    | some n => exact ⟨update_of_ne (hn n hfirst) _ _, update_of_ne (hp p hlast) _ _⟩

theorem IsDList.remove (h : IsDList l e xs) (hx : x ∈ xs) :
    IsDList (removeElement l e x).1 (removeElement l e x).2 (xs.erase x) := by
  obtain ⟨ys, zs, rfl⟩ := List.append_of_mem hx
  have hys : x ∉ ys := fun hmem =>
    (List.nodup_append.mp h.nodup).2.2 x hmem x List.mem_cons_self rfl
  rw [List.erase_append_right _ hys, List.erase_cons_head]
  exact h.remove_append

theorem IsDList.remove_frame (h : IsDList l e xs) (hx : x ∈ xs) (hz : z ∉ xs) :
    (removeElement l e x).1.prev z = l.prev z ∧ (removeElement l e x).1.next z = l.next z := by
  obtain ⟨ys, zs, rfl⟩ := List.append_of_mem hx
  exact h.remove_frame_append hz

/-! ## Families of lists -/

variable {κ : Type} [DecidableEq κ]

/-- Lists that share their pointer fields. -/
structure IsDLists (l : Links α) (ends : κ → Ends α) (lists : κ → List α) : Prop where
  list : ∀ k, IsDList l (ends k) (lists k)
  disjoint : ∀ k k', k ≠ k' → ∀ x ∈ lists k, x ∉ lists k'

omit [DecidableEq α] [DecidableEq κ] in
theorem IsDLists.empty (l : Links α) : IsDLists l (fun _ : κ => Ends.empty) (fun _ => []) :=
  ⟨fun _ => IsDList.empty l, fun _ _ _ _ h => absurd h List.not_mem_nil⟩

variable {ends : κ → Ends α} {lists : κ → List α} {k k' : κ}

omit [DecidableEq α] in
/-- What is on the lists after an insertion. -/
theorem mem_update_cons :
    z ∈ update lists k (x :: lists k) k' ↔ (k' = k ∧ z = x) ∨ z ∈ lists k' := by
  rcases eq_or_ne k' k with rfl | hne
  · simp
  · simp [hne]

/-- What is on the lists after a removal. -/
theorem IsDLists.mem_update_erase (h : IsDLists l ends lists) (hx : x ∈ lists k) :
    z ∈ update lists k ((lists k).erase x) k' ↔ z ≠ x ∧ z ∈ lists k' := by
  rcases eq_or_ne k' k with rfl | hne
  · rw [update_self, (h.list k').nodup.mem_erase_iff]
  · rw [update_of_ne hne]
    refine (and_iff_right_of_imp ?_).symm
    rintro hz rfl
    exact h.disjoint k' k hne z hz hx

/-- Insert into one of the lists a node that is in none. -/
theorem IsDLists.add (h : IsDLists l ends lists) (k : κ)
    (hx : ∀ k', x ∉ lists k') :
    IsDLists (addToHead l (ends k) x).1 (update ends k (addToHead l (ends k) x).2)
      (update lists k (x :: lists k)) := by
  constructor
  · intro k'
    rcases eq_or_ne k' k with rfl | hne
    · rw [update_self, update_self]
      exact (h.list k').add (hx k')
    · rw [update_of_ne hne, update_of_ne hne]
      refine (h.list k').congr fun z hz => (h.list k).add_frame ?_ (h.disjoint k' k hne z hz)
      rintro rfl
      exact hx k' hz
  · intro k₁ k₂ hne z hz hz'
    rw [mem_update_cons] at hz hz'
    rcases hz with ⟨rfl, rfl⟩ | hz
    · rcases hz' with ⟨rfl, -⟩ | hz'
      · exact hne rfl
      · exact hx k₂ hz'
    · rcases hz' with ⟨-, rfl⟩ | hz'
      · exact hx k₁ hz
      · exact h.disjoint k₁ k₂ hne z hz hz'

/-- Take a node out of the list it is in. -/
theorem IsDLists.remove (h : IsDLists l ends lists) (hx : x ∈ lists k) :
    IsDLists (removeElement l (ends k) x).1 (update ends k (removeElement l (ends k) x).2)
      (update lists k ((lists k).erase x)) := by
  constructor
  · intro k'
    rcases eq_or_ne k' k with rfl | hne
    · rw [update_self, update_self]
      exact (h.list k').remove hx
    · rw [update_of_ne hne, update_of_ne hne]
      exact (h.list k').congr fun z hz => (h.list k).remove_frame hx (h.disjoint k' k hne z hz)
  · intro k₁ k₂ hne z hz hz'
    rw [h.mem_update_erase hx] at hz hz'
    exact h.disjoint k₁ k₂ hne z hz.2 hz'.2

end Edits

end Qatlib
