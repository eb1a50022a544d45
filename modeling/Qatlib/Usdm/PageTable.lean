import Mathlib.Data.Nat.Bitwise
import Qatlib.Lib.RadixTree

set_option autoImplicit false

/-! # The user space page table

The page table of `qae_page_table_common.h`: five levels of 512 entries, indexed by nine bits of a
virtual address each, above pages of 4 KB. An entry of the lowest level holds the physical address of
the page; its low twelve bits, which are free, hold the hash key of the slab that the page belongs to.
Huge pages are not used.

`store_addr` gives up silently when a level cannot be mapped. Which levels can be mapped is an argument
of the store. -/

namespace Qatlib.Usdm

/-! ## The table -/

/-- `page_table_t`, as the root of five levels. -/
abbrev PageTable : Type := RadixTree Nat Nat 4

/-- The table that no address was stored in. -/
def PageTable.empty : PageTable := RadixTree.fresh 0 4

/-- The index of an address in the tables of a level: the fields `idxl0` to `idxl4`. -/
def pageIndex (virt level : Nat) : Nat := virt / 2 ^ (12 + 9 * level) % 512

/-- An address with its offset in the page cleared, as `QAE_PAGE_MASK` does. -/
def pageBase (addr : Nat) : Nat := (addr >>> 12) <<< 12

/-- `get_key`. -/
def getKey (phys : Nat) : Nat := (phys >>> 20) % 4096

/-- `store_addr`. -/
def storeAddr (levelOk : Nat → Bool) (t : PageTable) (virt phys : Nat) : PageTable :=
  RadixTree.store 0 levelOk (pageIndex virt) phys 4 t

/-- The loop of `store_mmap_range`, over a number of pages. -/
def storePages (levelOk : Nat → Nat → Bool) (t : PageTable) (virt phys : Nat) : Nat → PageTable
  | 0 => t
  | n + 1 =>
      storeAddr (levelOk n) (storePages levelOk t virt phys n) (virt + n * 4096) (phys + n * 4096)

/-- `store_mmap_range`; the levels are mapped page by page. -/
def storeMmapRange (levelOk : Nat → Nat → Bool) (t : PageTable) (virt phys size : Nat) : PageTable :=
  storePages levelOk t virt (pageBase phys ||| getKey phys) ((size + 4095) / 4096)

/-- The entry of an address, if all its levels are there. -/
def loadEntry (t : PageTable) (virt : Nat) : Option Nat := RadixTree.load 4 t (pageIndex virt)

/-- `load_addr`. -/
def loadAddr (t : PageTable) (virt : Nat) : Nat :=
  match loadEntry t virt with
  | none => 0
  | some pa => pageBase pa ||| virt % 4096

/-- `load_key`. -/
def loadKey (t : PageTable) (virt : Nat) : Nat :=
  match loadEntry t virt with
  | none => 0
  | some pa => pa % 4096

/-! ## Indices -/

theorem pageBase_eq (addr : Nat) : pageBase addr = addr / 4096 * 4096 := by
  rw [pageBase, Nat.shiftLeft_eq, Nat.shiftRight_eq_div_pow]

/-- The cleared bits take up anything that fits. -/
theorem pageBase_or (addr : Nat) {low : Nat} (h : low < 4096) :
    pageBase addr ||| low = addr / 4096 * 4096 + low := by
  rw [← pageBase_eq, pageBase, Nat.shiftLeft_add_eq_or_of_lt h]

theorem getKey_lt (phys : Nat) : getKey phys < 4096 := Nat.mod_lt _ (by decide)

variable {n v phys size virt virt' : Nat} {t : PageTable}

theorem pageIndex_congr (h : virt / 4096 = virt' / 4096) : pageIndex virt = pageIndex virt' := by
  funext level
  have hsplit : ∀ v, v / 2 ^ (12 + 9 * level) = v / 4096 / 2 ^ (9 * level) := by
    intro v
    rw [Nat.pow_add, ← Nat.div_div_eq_div_mul]
  rw [pageIndex, pageIndex, hsplit, hsplit, h]

/-- A page of another region has another index above the lowest level. -/
theorem pageIndex_ne_region (hlt : virt < 144115188075855872) (hlt' : virt' < 144115188075855872)
    (h : virt' / 2097152 ≠ virt / 2097152) :
    ∃ i, 1 ≤ i ∧ i ≤ 4 ∧ pageIndex virt' i ≠ pageIndex virt i := by
  by_contra hsame
  have heq : ∀ i, 1 ≤ i → i ≤ 4 → pageIndex virt' i = pageIndex virt i := by
    intro i hi hi'
    by_contra hne
    exact hsame ⟨i, hi, hi', hne⟩
  have h₁ := heq 1 (by decide) (by decide)
  have h₂ := heq 2 (by decide) (by decide)
  have h₃ := heq 3 (by decide) (by decide)
  have h₄ := heq 4 (by decide) (by decide)
  simp only [pageIndex] at h₁ h₂ h₃ h₄
  omega

/-- The five indices tell the pages of the address space apart. -/
theorem pageIndex_ne (hlt : virt < 144115188075855872) (hlt' : virt' < 144115188075855872)
    (h : virt' / 4096 ≠ virt / 4096) : ∃ i ≤ 4, pageIndex virt' i ≠ pageIndex virt i := by
  by_cases hregion : virt' / 2097152 = virt / 2097152
  · refine ⟨0, by decide, ?_⟩
    simp only [pageIndex]
    omega
  · obtain ⟨i, -, hi, hne⟩ := pageIndex_ne_region hlt hlt' hregion
    exact ⟨i, hi, hne⟩

/-! ## Stored pages -/

variable {levelOk : Nat → Bool} {pa : Nat}

theorem loadEntry_storeAddr_same (hok : ∀ n, levelOk n = true) (t : PageTable) (phys : Nat)
    (h : virt' / 4096 = virt / 4096) :
    loadEntry (storeAddr levelOk t virt phys) virt' = some phys := by
  rw [loadEntry, pageIndex_congr h]
  exact RadixTree.load_store_same hok 4 t

theorem loadEntry_storeAddr_other (phys : Nat) (hlt : virt < 144115188075855872)
    (hlt' : virt' < 144115188075855872) (hne : virt' / 4096 ≠ virt / 4096)
    (h : loadEntry t virt' = some pa) : loadEntry (storeAddr levelOk t virt phys) virt' = some pa :=
  RadixTree.load_store_other_some (pageIndex_ne hlt hlt' hne) h

theorem pages_le (virt n : Nat) : virt + n * 4096 ≤ virt + (n + 1) * 4096 := by omega

section Range

variable {levelOk : Nat → Nat → Bool} {t : PageTable} {virt : Nat}

/-- **Every page of a stored range is found**, when all levels could be mapped. -/
theorem loadEntry_storePages_inside (hok : ∀ i n, levelOk i n = true) (phys : Nat)
    (haligned : 4096 ∣ virt) (hend : virt + n * 4096 ≤ 144115188075855872) (hlo : virt ≤ v)
    (hhi : v < virt + n * 4096) :
    loadEntry (storePages levelOk t virt phys n) v = some (phys + (v - virt) / 4096 * 4096) := by
  induction n with
  | zero => omega
  | succ n ih =>
    rw [storePages]
    rcases Nat.lt_or_ge v (virt + n * 4096) with hbefore | hlast
    · have hstored := ih ((pages_le virt n).trans hend) hbefore
      exact loadEntry_storeAddr_other _ (by omega) (by omega) (by omega) hstored
    · have hpage : (v - virt) / 4096 = n := by omega
      rw [hpage]
      exact loadEntry_storeAddr_same (hok n) _ _ (by omega)

/-- **Every page outside a stored range keeps its entry.** -/
theorem loadEntry_storePages_outside (haligned : 4096 ∣ virt)
    (hend : virt + n * 4096 ≤ 144115188075855872) (hv : v < 144115188075855872)
    (hout : v < virt ∨ virt + n * 4096 ≤ v) (h : loadEntry t v = some pa) :
    loadEntry (storePages levelOk t virt phys n) v = some pa := by
  induction n with
  | zero => exact h
  | succ n ih =>
    have hkept := ih ((pages_le virt n).trans hend) (hout.imp_right (pages_le virt n).trans)
    rw [storePages]
    exact loadEntry_storeAddr_other _ (by omega) hv (by omega) hkept

end Range

/-- The entries of a mapped range of pages: the physical address of each page, and the key. -/
def Mapped (t : PageTable) (virt phys size : Nat) : Prop :=
  ∀ v, virt ≤ v → v < virt + size →
    loadEntry t v = some (phys + getKey phys + (v - virt) / 4096 * 4096)

/-- **A stored range is mapped.** -/
theorem mapped_storeMmapRange {levelOk : Nat → Nat → Bool} (hok : ∀ i n, levelOk i n = true)
    (t : PageTable) (hvirt : 4096 ∣ virt) (hphys : 4096 ∣ phys)
    (hend : virt + size ≤ 144115188075855872) :
    Mapped (storeMmapRange levelOk t virt phys size) virt phys size := by
  intro v hlo hhi
  have hbase : pageBase phys ||| getKey phys = phys + getKey phys := by
    rw [pageBase_or phys (getKey_lt phys), Nat.div_mul_cancel hphys]
  rw [storeMmapRange, hbase]
  exact loadEntry_storePages_inside hok _ hvirt (by omega) hlo (by omega)

/-- **A mapped range stays mapped when a range beside it is stored.** -/
theorem Mapped.storeMmapRange (h : Mapped t virt phys size) (levelOk : Nat → Nat → Bool)
    (phys' : Nat) {size' : Nat} (hvirt' : 4096 ∣ virt') (hpages : 4096 ∣ size')
    (hend : virt + size ≤ 144115188075855872) (hend' : virt' + size' ≤ 144115188075855872)
    (hdis : virt + size ≤ virt' ∨ virt' + size' ≤ virt) :
    Mapped (storeMmapRange levelOk t virt' phys' size') virt phys size := by
  intro v hlo hhi
  exact loadEntry_storePages_outside hvirt' (by omega) (by omega) (by omega) (h v hlo hhi)

/-- An empty table stays empty when no level can be mapped. -/
theorem storeMmapRange_refused (virt phys size : Nat) :
    storeMmapRange (fun _ _ => false) PageTable.empty virt phys size = PageTable.empty := by
  rw [storeMmapRange]
  generalize (size + 4095) / 4096 = n
  induction n with
  | zero => rfl
  | succ n ih =>
    rw [storePages, ih]
    rfl

/-- **Translation in a mapped range.** -/
theorem Mapped.loadAddr (h : Mapped t virt phys size) (hvirt : 4096 ∣ virt) (hphys : 4096 ∣ phys)
    (hlo : virt ≤ v) (hhi : v < virt + size) : loadAddr t v = phys + (v - virt) := by
  have hkey := getKey_lt phys
  rw [Usdm.loadAddr, h v hlo hhi]
  simp only
  rw [pageBase_or _ (Nat.mod_lt _ (by decide))]
  omega

/-- **The key of a mapped range.** -/
theorem Mapped.loadKey (h : Mapped t virt phys size) (hphys : 4096 ∣ phys) (hlo : virt ≤ v)
    (hhi : v < virt + size) : loadKey t v = getKey phys := by
  have hkey := getKey_lt phys
  rw [Usdm.loadKey, h v hlo hhi]
  simp only
  omega

/-! ## What a stored range changes

A lowest table covers a region of 2 MB. Storing a page maps the table of its region, and from then on
the lookup of any other page of the region gets as far as an entry, which is zero. -/

/-- The addresses whose page is not stored by `store_mmap_range`. -/
def OutsidePages (virt size v : Nat) : Prop := v < virt ∨ virt + (size + 4095) / 4096 * 4096 ≤ v

/-- What storing a range should do to lookups: the addresses of the range are translated and have the
    key of the range, the addresses of all other pages are looked up as before. -/
structure StoresRange (t t' : PageTable) (virt phys size : Nat) : Prop where
  addr : ∀ v, virt ≤ v → v < virt + size → loadAddr t' v = phys + (v - virt)
  key : ∀ v, virt ≤ v → v < virt + size → loadKey t' v = getKey phys
  addrOutside : ∀ v, v < 144115188075855872 → OutsidePages virt size v → loadAddr t' v = loadAddr t v
  keyOutside : ∀ v, v < 144115188075855872 → OutsidePages virt size v → loadKey t' v = loadKey t v

/-- Every region of 2 MB that the range touches has its lowest table already, or lies wholly in the
    range. -/
def NewTablesFilled (t : PageTable) (virt size : Nat) : Prop :=
  ∀ u v, virt ≤ u → u < virt + size → v / 2097152 = u / 2097152 → OutsidePages virt size v →
    (loadEntry t v).isSome = true

theorem pageIndex_region (h : virt' / 2097152 = virt / 2097152) {level : Nat} (hlevel : 1 ≤ level) :
    pageIndex virt' level = pageIndex virt level := by
  obtain ⟨n, rfl⟩ : ∃ n, level = n + 1 := ⟨level - 1, by omega⟩
  have hsplit : ∀ v, v / 2 ^ (12 + 9 * (n + 1)) = v / 2097152 / 2 ^ (9 * n) := by
    intro v
    rw [show 12 + 9 * (n + 1) = 21 + 9 * n by omega, Nat.pow_add, ← Nat.div_div_eq_div_mul]
  rw [pageIndex, pageIndex, hsplit, hsplit, h]

/-- The entry of another page after a store. -/
theorem loadEntry_storeAddr_ne (hok : ∀ n, levelOk n = true) (t : PageTable) (phys : Nat)
    (hlt : virt < 144115188075855872) (hv : v < 144115188075855872) (hne : v / 4096 ≠ virt / 4096) :
    loadEntry (storeAddr levelOk t virt phys) v =
      if v / 2097152 = virt / 2097152 then some ((loadEntry t v).getD 0) else loadEntry t v := by
  by_cases hregion : v / 2097152 = virt / 2097152
  · rw [if_pos hregion]
    refine RadixTree.load_store_sibling hok t (fun i hi _ => pageIndex_region hregion hi) ?_
    intro hzero
    simp only [pageIndex] at hzero
    omega
  · rw [if_neg hregion]
    exact RadixTree.load_store_apart t (pageIndex_ne_region hlt hv hregion)

section Outside

variable {levelOk : Nat → Nat → Bool} {t : PageTable} {virt phys size v : Nat}

/-- The entry of a page outside a stored range, in a region that the range does not touch. -/
theorem loadEntry_storePages_untouched (hok : ∀ i n, levelOk i n = true) (haligned : 4096 ∣ virt)
    (hend : virt + n * 4096 ≤ 144115188075855872) (hv : v < 144115188075855872)
    (hregion : ∀ u, virt ≤ u → u < virt + n * 4096 → v / 2097152 ≠ u / 2097152) :
    loadEntry (storePages levelOk t virt phys n) v = loadEntry t v := by
  induction n with
  | zero => rfl
  | succ n ih =>
    have hpages : virt + n * 4096 < virt + (n + 1) * 4096 := by omega
    have hlast := hregion (virt + n * 4096) (Nat.le_add_right _ _) hpages
    have hne : v / 4096 ≠ (virt + n * 4096) / 4096 := by omega
    rw [storePages, loadEntry_storeAddr_ne (hok n) _ _ (Nat.lt_of_lt_of_le hpages hend) hv hne,
      if_neg hlast]
    exact ih (Nat.le_of_lt (Nat.lt_of_lt_of_le hpages hend))
      fun u hlo hhi => hregion u hlo (Nat.lt_trans hhi hpages)

/-- The entry of a page outside a stored range, in a region that the range touches. -/
theorem loadEntry_storePages_touched (hok : ∀ i n, levelOk i n = true) (haligned : 4096 ∣ virt)
    (hend : virt + n * 4096 ≤ 144115188075855872) (hv : v < 144115188075855872)
    (hout : v < virt ∨ virt + n * 4096 ≤ v)
    (hregion : ∃ u, virt ≤ u ∧ u < virt + n * 4096 ∧ v / 2097152 = u / 2097152) :
    loadEntry (storePages levelOk t virt phys n) v = some ((loadEntry t v).getD 0) := by
  induction n with
  | zero =>
    obtain ⟨u, hlo, hhi, -⟩ := hregion
    omega
  | succ n ih =>
    have hpages : virt + n * 4096 < virt + (n + 1) * 4096 := by omega
    have hend' : virt + n * 4096 ≤ 144115188075855872 :=
      Nat.le_of_lt (Nat.lt_of_lt_of_le hpages hend)
    have hne : v / 4096 ≠ (virt + n * 4096) / 4096 := by omega
    rw [storePages, loadEntry_storeAddr_ne (hok n) _ _ (Nat.lt_of_lt_of_le hpages hend) hv hne]
    by_cases hbefore : ∃ u, virt ≤ u ∧ u < virt + n * 4096 ∧ v / 2097152 = u / 2097152
    · rw [ih hend' (hout.imp id (Nat.le_trans (Nat.le_of_lt hpages))) hbefore]
      exact ite_self _
    · have huntouched : loadEntry (storePages levelOk t virt phys n) v = loadEntry t v :=
        loadEntry_storePages_untouched hok haligned hend' hv
          fun u hlo hhi heq => hbefore ⟨u, hlo, hhi, heq⟩
      obtain ⟨u, hlo, hhi, heq⟩ := hregion
      have hlast : virt + n * 4096 ≤ u := Nat.le_of_not_lt fun hlt => hbefore ⟨u, hlo, hlt, heq⟩
      have hregion : v / 2097152 = (virt + n * 4096) / 2097152 := by omega
      rw [if_pos hregion, huntouched]

theorem loadEntry_page {w : Nat} (h : w / 4096 = v / 4096) (t : PageTable) :
    loadEntry t w = loadEntry t v := by
  rw [loadEntry, loadEntry, pageIndex_congr h]

/-- The pages of a range that share a region with an address do so with an address of the range. -/
theorem touched_of_page (hvirt : 4096 ∣ virt) {u : Nat} (hlo : virt ≤ u)
    (hhi : u < virt + (size + 4095) / 4096 * 4096) (h : v / 2097152 = u / 2097152) :
    ∃ u', virt ≤ u' ∧ u' < virt + size ∧ v / 2097152 = u' / 2097152 :=
  ⟨u / 4096 * 4096, by omega, by omega, by omega⟩

/-- **What a stored range changes elsewhere.** Lookups of other pages are as before exactly when no
    table is mapped that such a page shares. -/
theorem storeMmapRange_iff (hok : ∀ i n, levelOk i n = true) (t : PageTable) (hvirt : 4096 ∣ virt)
    (hphys : 4096 ∣ phys) (hend : virt + size ≤ 144115188075855872) :
    StoresRange t (storeMmapRange levelOk t virt phys size) virt phys size ↔
      NewTablesFilled t virt size := by
  have hpages : virt + (size + 4095) / 4096 * 4096 ≤ 144115188075855872 := by omega
  have htouched : ∀ {u v}, v < 144115188075855872 → virt ≤ u →
      u < virt + (size + 4095) / 4096 * 4096 → v / 2097152 = u / 2097152 → OutsidePages virt size v →
      loadEntry (storeMmapRange levelOk t virt phys size) v = some ((loadEntry t v).getD 0) :=
    fun hv hlo hhi hregion hout =>
      loadEntry_storePages_touched hok hvirt hpages hv hout ⟨_, hlo, hhi, hregion⟩
  constructor
  · intro h u v hlo hhi hregion hout
    by_contra hnone
    rw [Option.not_isSome_iff_eq_none] at hnone
    -- an address of the page of `v` that is not page-aligned
    have hpage : (v / 4096 * 4096 + 1) / 4096 = v / 4096 := by omega
    have hout' : OutsidePages virt size (v / 4096 * 4096 + 1) := by
      unfold OutsidePages at hout ⊢
      omega
    have hlt : v / 4096 * 4096 + 1 < 144115188075855872 := by omega
    have hbefore : loadEntry t (v / 4096 * 4096 + 1) = none := (loadEntry_page hpage t).trans hnone
    have hafter := htouched hlt hlo (show u < _ by omega) (by omega) hout'
    have hsame := h.addrOutside _ hlt hout'
    simp only [loadAddr, hafter, hbefore, Option.getD_none] at hsame
    rw [pageBase_or 0 (Nat.mod_lt _ (by decide))] at hsame
    omega
  · intro h
    have hmapped := mapped_storeMmapRange hok t hvirt hphys hend
    have hentry : ∀ v, v < 144115188075855872 → OutsidePages virt size v →
        loadEntry (storeMmapRange levelOk t virt phys size) v = loadEntry t v := by
      intro v hv hout
      by_cases hregion : ∃ u, virt ≤ u ∧ u < virt + (size + 4095) / 4096 * 4096 ∧
          v / 2097152 = u / 2097152
      · obtain ⟨u, hlo, hhi, hu⟩ := hregion
        obtain ⟨u', hlo', hhi', hu'⟩ := touched_of_page hvirt hlo hhi hu
        obtain ⟨pa, hpa⟩ := Option.isSome_iff_exists.mp (h u' v hlo' hhi' hu' hout)
        rw [htouched hv hlo hhi hu hout, hpa]
        rfl
      · exact loadEntry_storePages_untouched hok hvirt hpages hv
          fun u hlo hhi hu => hregion ⟨u, hlo, hhi, hu⟩
    refine ⟨?_, ?_, ?_, ?_⟩
    · intro v hlo hhi
      exact hmapped.loadAddr hvirt hphys hlo hhi
    · intro v hlo hhi
      exact hmapped.loadKey hphys hlo hhi
    · intro v hv hout
      rw [loadAddr, loadAddr, hentry v hv hout]
    · intro v hv hout
      rw [loadKey, loadKey, hentry v hv hout]

end Outside

/-- A range that fills its region. -/
theorem storeMmapRange_iff_region :
    StoresRange PageTable.empty
      (storeMmapRange (fun _ _ => true) PageTable.empty 2097152 4194304 2097152)
      2097152 4194304 2097152 := by
  refine (storeMmapRange_iff (fun _ _ => rfl) _ (by decide) (by decide) (by decide)).mpr ?_
  intro u v hlo hhi hregion hout
  unfold OutsidePages at hout
  omega

/-- One page is stored. The lookup of an address of the next page, which is stored nowhere, gave zero
    and now gives the offset of the address in its page. -/
theorem storeMmapRange_changes_neighbour :
    loadAddr PageTable.empty 8193 = 0 ∧
      loadAddr (storeMmapRange (fun _ _ => true) PageTable.empty 4096 4096 4096) 8193 = 1 ∧
      ¬StoresRange PageTable.empty
        (storeMmapRange (fun _ _ => true) PageTable.empty 4096 4096 4096) 4096 4096 4096 := by
  have hbefore : loadAddr PageTable.empty 8193 = 0 := rfl
  have hafter : loadAddr (storeMmapRange (fun _ _ => true) PageTable.empty 4096 4096 4096) 8193 = 1 :=
    rfl
  refine ⟨hbefore, hafter, fun h => ?_⟩
  have hsame := h.addrOutside 8193 (by decide) (.inr (by decide))
  rw [hbefore, hafter] at hsame
  exact absurd hsame (by decide)

end Qatlib.Usdm
