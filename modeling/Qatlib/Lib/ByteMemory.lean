import Mathlib.Data.List.GetD
import Mathlib.Order.Interval.Set.Basic
import Mathlib.Tactic.Common

set_option autoImplicit false

/-! # A memory of bytes

A memory is a function from addresses to bytes. It is written and read by runs of consecutive bytes,
as `memcpy`, `memmove` and `memset` do. A write covers the writes under it and is not seen by a read
of a run apart from it. `Memory.Frame` says that nothing changed apart from some runs of bytes. -/

namespace Qatlib

/-- A memory of bytes. -/
abbrev Memory := Nat → UInt8

namespace Memory

/-- A cleared memory. -/
def zero : Memory := fun _ => 0

/-- Write a run of bytes. -/
def write (m : Memory) (off : Nat) (bs : List UInt8) : Memory :=
  fun i => if off ≤ i then bs.getD (i - off) (m i) else m i

/-- Read a run of `n` bytes. -/
def read (m : Memory) (off n : Nat) : List UInt8 := (List.range n).map fun i => m (off + i)

variable {m m' m'' : Memory} {off off' n k : Nat} {as bs : List UInt8}

/-! ## One byte -/

variable {a b i : Nat} {runs : List (Nat × Nat)}

theorem write_below (h : i < off) : m.write off bs i = m i := if_neg (Nat.not_le.mpr h)

theorem write_above (h : off + bs.length ≤ i) : m.write off bs i = m i := by
  have hlen : bs.length ≤ i - off := by omega
  rw [write, if_pos (by omega), List.getD_eq_default _ _ hlen]

theorem write_within (hlo : off ≤ i) (hhi : i < off + bs.length) :
    m.write off bs i = bs.getD (i - off) 0 := by
  have hlen : i - off < bs.length := by omega
  rw [write, if_pos hlo, List.getD_eq_getElem _ _ hlen, List.getD_eq_getElem _ _ hlen]

theorem write_cases (m : Memory) (off : Nat) (bs : List UInt8) (i : Nat) :
    (off ≤ i ∧ i < off + bs.length ∧ m.write off bs i = bs.getD (i - off) 0) ∨
      ((i < off ∨ off + bs.length ≤ i) ∧ m.write off bs i = m i) := by
  rcases Nat.lt_or_ge i off with hlo | hlo
  · exact .inr ⟨.inl hlo, write_below hlo⟩
  rcases Nat.lt_or_ge i (off + bs.length) with hhi | hhi
  · exact .inl ⟨hlo, hhi, write_within hlo hhi⟩
  · exact .inr ⟨.inr hhi, write_above hhi⟩

/-! ## Writes -/

@[simp] theorem write_nil (m : Memory) (off : Nat) : m.write off [] = m := by
  funext i
  rcases Nat.lt_or_ge i off with h | h
  · exact write_below h
  · exact write_above (by simpa using h)

/-- A write covers an earlier one that lies within it. -/
theorem write_cover (hlo : off' ≤ off) (hhi : off + as.length ≤ off' + bs.length) :
    (m.write off as).write off' bs = m.write off' bs := by
  funext i
  rcases write_cases (m.write off as) off' bs i with ⟨hge, hlt, heq⟩ | ⟨hout, heq⟩
  · rw [heq, write_within hge hlt]
  · have hkeep : m.write off as i = m i := by
      rcases hout with h | h
      · exact write_below (by omega)
      · exact write_above (by omega)
    have hkeep' : m.write off' bs i = m i := by
      rcases hout with h | h
      · exact write_below h
      · exact write_above h
    rw [heq, hkeep, hkeep']

theorem write_append (m : Memory) (off : Nat) (as bs : List UInt8) :
    m.write off (as ++ bs) = (m.write off as).write (off + as.length) bs := by
  funext i
  rcases write_cases (m.write off as) (off + as.length) bs i with ⟨hlo, hhi, heq⟩ | ⟨hout, heq⟩
  · have hlen : i < off + (as ++ bs).length := by
      rw [List.length_append]
      omega
    have hidx : i - off - as.length = i - (off + as.length) := by omega
    rw [heq, write_within (by omega) hlen, List.getD_append_right _ _ _ _ (by omega), hidx]
  · rw [heq]
    rcases write_cases m off as i with ⟨hlo, hhi, heq'⟩ | ⟨hout', heq'⟩
    · have hlen : i < off + (as ++ bs).length := by
        rw [List.length_append]
        omega
      rw [heq', write_within hlo hlen, List.getD_append _ _ _ _ (by omega)]
    · rw [heq']
      rcases hout' with h | h
      · exact write_below h
      · refine write_above ?_
        rw [List.length_append]
        omega

/-! ## Reads -/

@[simp] theorem length_read (m : Memory) (off n : Nat) : (m.read off n).length = n := by simp [read]

@[simp] theorem read_zero (m : Memory) (off : Nat) : m.read off 0 = [] := rfl

theorem getD_read (h : i < n) (d : UInt8) : (m.read off n).getD i d = m (off + i) := by
  rw [List.getD_eq_getElem _ _ (by rwa [length_read])]
  simp [read]

/-- Two reads give the same bytes exactly if the memories hold the same bytes there. -/
theorem read_eq_read_iff :
    m.read off n = m'.read off' n ↔ ∀ i < n, m (off + i) = m' (off' + i) := by
  constructor
  · intro h i hi
    have hget := congrArg (List.getD · i 0) h
    simpa only [getD_read hi] using hget
  · intro h
    unfold read
    apply List.map_congr_left
    intro i hi
    exact h i (List.mem_range.mp hi)

theorem read_append (m : Memory) (off a b : Nat) :
    m.read off (a + b) = m.read off a ++ m.read (off + a) b := by
  simp only [read, List.range_add, List.map_append, List.map_map]
  congr 1
  apply List.map_congr_left
  intro i _
  simp only [Function.comp_apply, Nat.add_assoc]

theorem drop_read (m : Memory) (off a b : Nat) : (m.read off (a + b)).drop a = m.read (off + a) b := by
  rw [read_append, List.drop_left' (length_read m off a)]

theorem take_read (h : k ≤ n) : (m.read off n).take k = m.read off k := by
  obtain ⟨d, rfl⟩ := Nat.exists_eq_add_of_le h
  rw [read_append, List.take_left' (length_read m off k)]

@[simp] theorem read_write_self (m : Memory) (off : Nat) (bs : List UInt8) :
    (m.write off bs).read off bs.length = bs := by
  refine List.ext_getElem (by simp) ?_
  intro i hi hi'
  have hwithin : m.write off bs (off + i) = bs.getD (off + i - off) 0 :=
    write_within (by omega) (by omega)
  simp [read, hwithin, hi']

theorem write_read_self (m : Memory) (off n : Nat) : m.write off (m.read off n) = m := by
  funext i
  rcases write_cases m off (m.read off n) i with ⟨hlo, hhi, heq⟩ | ⟨-, heq⟩
  · rw [length_read] at hhi
    rw [heq, getD_read (by omega), Nat.add_sub_cancel' hlo]
  · exact heq

theorem read_write_disjoint (h : off + n ≤ off' ∨ off' + bs.length ≤ off) :
    (m.write off' bs).read off n = m.read off n := by
  rw [read_eq_read_iff]
  intro i hi
  rcases h with h | h
  · exact write_below (by omega)
  · exact write_above (by omega)

/-! ## Memories compared apart from some runs -/

/-- Two runs of bytes do not overlap. -/
def Apart (a n b k : Nat) : Prop := a + n ≤ b ∨ b + k ≤ a

instance (a n b k : Nat) : Decidable (Apart a n b k) :=
  inferInstanceAs <| Decidable <| a + n ≤ b ∨ b + k ≤ a

theorem Apart.symm (h : Apart a n b k) : Apart b k a n := Or.symm h

/-- Parts of runs that do not overlap do not overlap. -/
theorem Apart.mono {a' b' n' k' : Nat} (h : Apart a n b k) (ha : a ≤ a') (hn : a' + n' ≤ a + n)
    (hb : b ≤ b') (hk : b' + k' ≤ b + k) : Apart a' n' b' k' := by
  unfold Apart at *
  omega

theorem read_write_apart (h : Apart off n off' bs.length) :
    (m.write off' bs).read off n = m.read off n :=
  read_write_disjoint h

/-- Runs apart from the given ones hold the same bytes in both memories. -/
def Frame (runs : List (Nat × Nat)) (m m' : Memory) : Prop :=
  ∀ off n, (∀ r ∈ runs, Apart off n r.1 r.2) → m'.read off n = m.read off n

theorem Frame.refl (runs : List (Nat × Nat)) (m : Memory) : Frame runs m m := fun _ _ _ => rfl

theorem Frame.trans (h : Frame runs m m') (h' : Frame runs m' m'') : Frame runs m m'' :=
  fun off n hr => (h' off n hr).trans (h off n hr)

theorem Frame.mono {runs' : List (Nat × Nat)} (h : Frame runs m m') (hsub : ∀ r ∈ runs, r ∈ runs') :
    Frame runs' m m' :=
  fun off n hr => h off n fun r hmem => hr r (hsub r hmem)

theorem frame_write {r : Nat × Nat} (hlo : r.1 ≤ off) (hhi : off + bs.length ≤ r.1 + r.2) :
    Frame [r] m (m.write off bs) := by
  intro a n hr
  have hapart := hr r (List.mem_singleton_self r)
  exact read_write_apart (hapart.mono (Nat.le_refl a) (Nat.le_refl _) hlo hhi)

/-- Write several runs, one after the other. -/
def writeAll (m : Memory) (ws : List (Nat × List UInt8)) : Memory :=
  ws.foldl (fun m w => m.write w.1 w.2) m

theorem frame_writeAll (m : Memory) (ws : List (Nat × List UInt8)) :
    Frame (ws.map fun w => (w.1, w.2.length)) m (m.writeAll ws) := by
  induction ws generalizing m with
  | nil => exact Frame.refl _ m
  | cons w ws ih =>
    have hfirst : Frame [(w.1, w.2.length)] m (m.write w.1 w.2) :=
      frame_write (Nat.le_refl _) (Nat.le_refl _)
    exact (hfirst.mono (by simp)).trans ((ih (m.write w.1 w.2)).mono (by simp +contextual))

/-- Runs that do not overlap all read back. -/
theorem read_writeAll {ws : List (Nat × List UInt8)}
    (h : ws.Pairwise fun w w' => Apart w.1 w.2.length w'.1 w'.2.length) (m : Memory)
    {w : Nat × List UInt8} (hw : w ∈ ws) : (m.writeAll ws).read w.1 w.2.length = w.2 := by
  induction ws generalizing m with
  | nil => cases hw
  | cons v ws ih =>
    obtain ⟨hfirst, hrest⟩ := List.pairwise_cons.mp h
    rcases List.mem_cons.mp hw with rfl | hmem
    · have hframe := frame_writeAll (m.write w.1 w.2) ws w.1 w.2.length (by
        intro r hr
        obtain ⟨w', hw', rfl⟩ := List.mem_map.mp hr
        exact hfirst w' hw')
      exact hframe.trans (read_write_self m w.1 w.2)
    · exact ih hrest (m.write v.1 v.2) hmem

/-! ## Clearing -/

open scoped Classical in
/-- The bytes at some addresses cleared. -/
noncomputable def clear (m : Memory) (s : Set Nat) : Memory := fun i => if i ∈ s then 0 else m i

variable {s t : Set Nat}

theorem clear_of_mem (h : i ∈ s) : m.clear s i = 0 := if_pos h

theorem clear_of_notMem (h : i ∉ s) : m.clear s i = m i := if_neg h

@[simp] theorem clear_empty (m : Memory) : m.clear ∅ = m := by
  funext i
  exact clear_of_notMem (Set.notMem_empty i)

theorem clear_clear (m : Memory) (s t : Set Nat) : (m.clear s).clear t = m.clear (s ∪ t) := by
  funext i
  by_cases ht : i ∈ t
  · rw [clear_of_mem ht, clear_of_mem (Set.mem_union_right s ht)]
  by_cases hs : i ∈ s
  · rw [clear_of_notMem ht, clear_of_mem hs, clear_of_mem (Set.mem_union_left t hs)]
  · rw [clear_of_notMem ht, clear_of_notMem hs, clear_of_notMem (by simp [hs, ht])]

theorem write_replicate_zero (m : Memory) (off n : Nat) :
    m.write off (List.replicate n 0) = m.clear (Set.Ico off (off + n)) := by
  funext i
  rcases write_cases m off (List.replicate n 0) i with ⟨hlo, hhi, heq⟩ | ⟨hout, heq⟩
  · rw [List.length_replicate] at hhi
    rw [heq, clear_of_mem (Set.mem_Ico.mpr ⟨hlo, hhi⟩)]
    simp
  · rw [List.length_replicate] at hout
    rw [heq, clear_of_notMem]
    rintro ⟨hlo, hhi⟩
    omega

/-- What is cleared shows in a memory of ones. -/
theorem clear_eq_clear_iff : (∀ m : Memory, m.clear s = m.clear t) ↔ s = t := by
  constructor
  · intro h
    have hone : ∀ (u : Set Nat) i, i ∈ u ↔ clear (fun _ => 1) u i = 0 := by
      intro u i
      by_cases hi : i ∈ u
      · simp [hi, clear_of_mem hi]
      · simp [hi, clear_of_notMem hi]
    ext i
    rw [hone s, hone t, h]
  · rintro rfl m
    rfl

end Memory

end Qatlib
