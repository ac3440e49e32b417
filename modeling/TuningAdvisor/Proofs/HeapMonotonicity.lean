import Mathlib.Tactic.FieldSimp
import Mathlib.Tactic.GCongr
import Mathlib.Tactic.Ring
import TuningAdvisor.Proofs.HeapPercentage
/-!
# The heap percentage follows the container and the native memory: `MemorySizing::percentage`

A larger container, more cores or less native memory never lowers the heap percentage. The buffer that is kept free
jumps down at each tier, and the static percentage jumps at its own bounds: it is the **share** of the container that is
left over that grows with the container (`leftOver_mono`), and the clamp and the rounding keep the order. Between the
modes the order holds because the static percentage bounds the dynamic one, and is a whole number of tenths where the
configured minimum is one.
-/

namespace TuningAdvisor.HeapSizing

open Arithmetic

variable {x y : Rat}

/-! ## Tables -/

theorem tierOf_cons (x : Rat) (tier : Nat × Nat) (tiers : List (Nat × Nat)) (top : Nat) :
    tierOf x (tier :: tiers) top = if x ≤ (tier.1 : Rat) then tier.2 else tierOf x tiers top := by
  unfold tierOf
  rw [List.find?_cons]
  by_cases h : x ≤ (tier.1 : Rat)
  · have hle : le x (ofNat tier.1 : Rat) = true := decide_eq_true h
    simp [hle, h]
  · have hle : le x (ofNat tier.1 : Rat) = false := decide_eq_false h
    simp [hle, h]

theorem tierOf_mem (x : Rat) (tiers : List (Nat × Nat)) (top : Nat) :
    tierOf x tiers top ∈ tiers.map (·.2) ++ [top] := by
  induction tiers with
  | nil => simp [tierOf]
  | cons tier tiers ih =>
    rw [tierOf_cons]
    split
    · simp
    · exact List.mem_cons_of_mem _ ih

/-- A larger container does not get an entry further up in a table. -/
theorem tierOf_related {R : Nat → Nat → Prop} (hrefl : ∀ n, R n n) {tiers : List (Nat × Nat)} {top : Nat}
    (hsorted : (tiers.map (·.2) ++ [top]).Pairwise R) (h : x ≤ y) : R (tierOf x tiers top) (tierOf y tiers top) := by
  induction tiers with
  | nil => exact hrefl top
  | cons tier tiers ih =>
    obtain ⟨hfirst, hrest⟩ := List.pairwise_cons.1 hsorted
    rw [tierOf_cons, tierOf_cons]
    by_cases hy : y ≤ (tier.1 : Rat)
    · rw [if_pos hy, if_pos (h.trans hy)]
      exact hrefl _
    · rw [if_neg hy]
      split
      · exact hfirst _ (tierOf_mem y tiers top)
      · exact ih hrest

theorem bucket_mono (h : x ≤ y) : tierOf x buckets topBucket ≤ tierOf y buckets topBucket :=
  tierOf_related le_refl (by decide) h

theorem bufferTier_antitone (h : x ≤ y) : tierOf y bufferTiers topTier ≤ tierOf x bufferTiers topTier :=
  tierOf_related (R := fun m n => n ≤ m) le_refl (by decide) h

theorem deduction_antitone (h : x ≤ y) : deduction y ≤ deduction x := by
  have hlt : ∀ (z : Rat) (n : Nat), lt z (ofNat n) = decide (z < n) := fun _ _ => rfl
  unfold deduction
  simp only [hlt, decide_eq_true_eq]
  split_ifs <;> first | omega | linarith

/-! ## Static percentages -/

variable (s : HeapSizing Rat) {memoryMb memoryMb' cores cores' : Rat}

theorem static_mono (hmemory : memoryMb ≤ memoryMb') (hcores : cores ≤ cores') :
    s.staticPercentage memoryMb cores ≤ s.staticPercentage memoryMb' cores' := by
  have hbucket : (ofNat (tierOf memoryMb buckets topBucket) : Rat) ≤ ofNat (tierOf memoryMb' buckets topBucket) :=
    Nat.cast_le.2 (bucket_mono hmemory)
  have hdeduction : (ofNat (deduction cores') : Rat) ≤ ofNat (deduction cores) :=
    Nat.cast_le.2 (deduction_antitone hcores)
  simp only [staticPercentage, max_rat]
  exact max_le_max (sub_le_sub hbucket hdeduction) le_rfl

/-! ## What is left over -/

/-- The percentage that the native memory and the safety buffer leave over. -/
def leftOver (memoryMb footprint : Rat) : Rat :=
  (memoryMb - footprint - safetyBufferMb memoryMb) / memoryMb * 100

theorem safetyBufferMb_eq (memoryMb : Rat) :
    safetyBufferMb memoryMb = 50 + memoryMb * (tierOf memoryMb bufferTiers topTier / 100) := by
  have hshare : ∀ n : Nat, (ofDecimal { negative := false, mantissa := n, exponent := -2 } : Rat) = n / 100 := by
    intro n
    show mkRat n 100 = n / 100
    rw [Rat.mkRat_eq_div]
    norm_num
  unfold safetyBufferMb
  dsimp only
  rw [hshare]
  rfl

/-- Of a hundred per cent, a share goes to the buffer. The rest of it and the native memory weigh the less the larger
the container is. -/
theorem leftOver_eq (hmemory : 0 < memoryMb) (footprint : Rat) : leftOver memoryMb footprint =
    100 - tierOf memoryMb bufferTiers topTier - (footprint + 50) * 100 / memoryMb := by
  unfold leftOver
  rw [safetyBufferMb_eq]
  field_simp
  ring

theorem leftOver_mono (hmemory : 0 < memoryMb) (hle : memoryMb ≤ memoryMb') {footprint : Rat}
    (hfootprint : 0 ≤ footprint) : leftOver memoryMb footprint ≤ leftOver memoryMb' footprint := by
  rw [leftOver_eq hmemory, leftOver_eq (hmemory.trans_le hle)]
  have htier : (tierOf memoryMb' bufferTiers topTier : Rat) ≤ tierOf memoryMb bufferTiers topTier :=
    Nat.cast_le.2 (bufferTier_antitone hle)
  have hfixed : (footprint + 50) * 100 / memoryMb' ≤ (footprint + 50) * 100 / memoryMb :=
    div_le_div_of_nonneg_left (by linarith) hmemory hle
  linarith

theorem leftOver_antitone (hmemory : 0 < memoryMb) {footprint footprint' : Rat} (hle : footprint ≤ footprint') :
    leftOver memoryMb footprint' ≤ leftOver memoryMb footprint := by
  unfold leftOver
  gcongr

/-! ## Dynamic percentages -/

theorem dynamic_mono {footprint footprint' : Rat} (hleft : leftOver memoryMb footprint ≤ leftOver memoryMb' footprint')
    (hstatic : s.staticPercentage memoryMb cores ≤ s.staticPercentage memoryMb' cores') :
    s.dynamicPercentage memoryMb cores footprint ≤ s.dynamicPercentage memoryMb' cores' footprint' := by
  have hleft : (memoryMb - footprint - safetyBufferMb memoryMb) / memoryMb * ofNat 100 ≤
      (memoryMb' - footprint' - safetyBufferMb memoryMb') / memoryMb' * ofNat 100 := hleft
  apply roundTenth_mono
  simp only [min_rat, max_rat]
  exact min_le_min (min_le_min (max_le_max hleft le_rfl) hstatic) le_rfl

/-- The static percentage is itself rounded to nothing above it. -/
theorem dynamic_le_static (hmin : InTenths s.minPercent) (memoryMb cores footprint : Rat) :
    s.dynamicPercentage memoryMb cores footprint ≤ s.staticPercentage memoryMb cores := by
  calc s.dynamicPercentage memoryMb cores footprint
      ≤ roundTenth (s.staticPercentage memoryMb cores) := by
        apply roundTenth_mono
        simp only [min_rat]
        exact (min_le_left _ _).trans (min_le_right _ _)
    _ = s.staticPercentage memoryMb cores := roundTenth_of_inTenths (s.inTenths_static memoryMb cores hmin)

/-! ## Both modes -/

/-- The native memory, zero where none was measured. -/
def nativeMb (h : History) : Rat := (s.footprintMb? h).getD 0

/-- The native memory alone decides about the mode. -/
theorem percentage_eq (memoryMb cores : Rat) (h : History) : s.percentage memoryMb cores h =
    if 10 ≤ s.nativeMb h then (s.dynamicPercentage memoryMb cores (s.nativeMb h), .dynamic)
    else (s.staticPercentage memoryMb cores, .static) := by
  unfold percentage nativeMb
  cases s.footprintMb? h with
  | none => simp
  | some footprint =>
    have hle : le (ofNat 10) footprint = decide ((10 : Rat) ≤ footprint) := rfl
    simp [hle]

/-- How the percentage goes by what it is computed from. -/
structure Monotone : Prop where
  /-- In a larger container it is not lower. -/
  memory : ∀ (cores : Rat) (h : History) {memoryMb memoryMb' : Rat}, 0 < memoryMb → memoryMb ≤ memoryMb' →
    (s.percentage memoryMb cores h).1 ≤ (s.percentage memoryMb' cores h).1
  /-- With more cores it is not lower. -/
  cores : ∀ (memoryMb : Rat) (h : History) {cores cores' : Rat}, 0 < memoryMb → 0 < cores → cores ≤ cores' →
    (s.percentage memoryMb cores h).1 ≤ (s.percentage memoryMb cores' h).1
  /-- With more native memory it is not higher, whichever the two modes are. -/
  native : ∀ (cores : Rat) {memoryMb : Rat} {h h' : History}, 0 < memoryMb → s.nativeMb h ≤ s.nativeMb h' →
    (s.percentage memoryMb cores h').1 ≤ (s.percentage memoryMb cores h).1
  /-- From ten mebibytes of native memory on the mode is dynamic, whatever the container is. -/
  mode : ∀ (memoryMb cores : Rat) (h : History), (s.percentage memoryMb cores h).2 = .dynamic ↔ 10 ≤ s.nativeMb h

/-- **The heap percentage follows the container and the native memory**: with a configured minimum in tenths, it does
not fall with more memory or more cores, and it does not rise with more native memory. -/
theorem percentage_monotone (hmin : InTenths s.minPercent) : s.Monotone where
  memory := by
    intro cores h memoryMb memoryMb' hpos hle
    have hstatic := s.static_mono hle (le_refl cores)
    rw [percentage_eq, percentage_eq]
    by_cases hmode : 10 ≤ s.nativeMb h
    · rw [if_pos hmode, if_pos hmode]
      exact s.dynamic_mono (leftOver_mono hpos hle (by linarith)) hstatic
    · rw [if_neg hmode, if_neg hmode]
      exact hstatic
  cores := by
    intro memoryMb h cores cores' _ _ hle
    have hstatic := s.static_mono (le_refl memoryMb) hle
    rw [percentage_eq, percentage_eq]
    by_cases hmode : 10 ≤ s.nativeMb h
    · rw [if_pos hmode, if_pos hmode]
      exact s.dynamic_mono le_rfl hstatic
    · rw [if_neg hmode, if_neg hmode]
      exact hstatic
  native := by
    intro cores memoryMb h h' hpos hle
    rw [percentage_eq, percentage_eq]
    by_cases hmode : 10 ≤ s.nativeMb h
    · rw [if_pos hmode, if_pos (hmode.trans hle)]
      exact s.dynamic_mono (leftOver_antitone hpos hle) le_rfl
    · -- the history with less native memory counts as not measured
      rw [if_neg hmode]
      split
      · exact s.dynamic_le_static hmin memoryMb cores _
      · exact le_rfl
  mode := by
    intro memoryMb cores h
    rw [percentage_eq]
    split <;> simp_all

/-- With the limits of the default configuration, four mebibytes outside the heap of a container of one gibibyte count
as not measured and leave 75 percent, 300 mebibytes leave 55.8 percent, and a container of twice the size does not get
less. -/
theorem nonHeapHistory_lowers :
    ∃ s : HeapSizing Rat, s = ofConfig {} ∧ InTenths s.minPercent ∧
      s.percentage 1024 4 (nonHeapHistory 4194304.0) = (75, .static) ∧
      s.percentage 1024 4 (nonHeapHistory 314572800.0) = (279 / 5, .dynamic) ∧ (279 / 5 : Rat) ≤ 75 ∧
      279 / 5 ≤ (s.percentage 2048 4 (nonHeapHistory 314572800.0)).1 := by
  have hmin : InTenths (ofConfig {} : HeapSizing Rat).minPercent := ⟨250, by decide +kernel⟩
  have hmonotone := percentage_monotone (ofConfig {}) hmin
  have hnative : (ofConfig {} : HeapSizing Rat).nativeMb (nonHeapHistory 4194304.0) ≤
      (ofConfig {} : HeapSizing Rat).nativeMb (nonHeapHistory 314572800.0) := by decide +kernel
  have hless : (ofConfig {} : HeapSizing Rat).percentage 1024 4 (nonHeapHistory 4194304.0) = (75, .static) := by
    decide +kernel
  have hmore : (ofConfig {} : HeapSizing Rat).percentage 1024 4 (nonHeapHistory 314572800.0) = (279 / 5, .dynamic) := by
    decide +kernel
  have hpositive : (0 : Rat) < 1024 := by norm_num
  have hlarger : (1024 : Rat) ≤ 2048 := by norm_num
  have hlowered := hmonotone.native 4 hpositive hnative
  have hraised := hmonotone.memory 4 (nonHeapHistory 314572800.0) hpositive hlarger
  rw [hless, hmore] at hlowered
  rw [hmore] at hraised
  exact ⟨_, rfl, hmin, hless, hmore, hlowered, hraised⟩

end TuningAdvisor.HeapSizing
