import Wattx.Block
import Wattx.PrimalityTest

/-!
`CheckGapcoinProof` as built with GMP and MPFR. The header hash (`GetHashWithoutSign`) is a
parameter, and so is the floating-point merit arithmetic: `CalculateMerit` rounds an MPFR
logarithm to a double and `CompactToMerit` divides by `1e6`, so their values are taken in an
ordered type `M` and compared as the code compares them.
-/

namespace Wattx.GapcoinProof

open Block PrimalityTest

def gapcoinShiftMin : Nat := 14

def gapcoinShiftMax : Nat := 65536

def fermatTestRounds : Int := 3

structure MeritArith (M : Type) where
  calculateMerit : Nat → UInt32 → M
  compactToMerit : UInt32 → M

variable {M : Type} [LinearOrder M] (hashWithoutSign : BlockHeader → BitVec 256)
  (merit : MeritArith M)

def calculatePrimeCandidate (block : BlockHeader) : Nat :=
  let headerForHash := { block with nShift := 0, nAdder := 0, nGapSize := 0 }
  let result := (hashWithoutSign headerForHash).toNat * 2 ^ block.nShift.toNat + block.nAdder.toNat
  if result % 2 = 0 then result + 1 else result

def maxAdder (block : BlockHeader) : BitVec 256 := 1 <<< block.nShift.toNat

def checkGapcoinProof (block : BlockHeader) : Except String Unit :=
  if block.nShift.toNat < gapcoinShiftMin ∨ gapcoinShiftMax < block.nShift.toNat then
    .error "gapcoin-shift-out-of-range"
  else if block.nGapSize.toNat < 2 then .error "gapcoin-gap-too-small"
  else if maxAdder block ≤ block.nAdder then .error "gapcoin-adder-too-large"
  else
    let prime := calculatePrimeCandidate hashWithoutSign block
    if !isProbablePrime prime fermatTestRounds then .error "gapcoin-start-not-prime"
    else if !isProbablePrime (prime + block.nGapSize.toNat) fermatTestRounds then
      .error "gapcoin-end-not-prime"
    else if !verifyGapComposites prime block.nGapSize.toNat then .error "gapcoin-gap-contains-prime"
    else if merit.calculateMerit prime block.nGapSize < merit.compactToMerit block.nBits then
      .error "gapcoin-merit-below-target"
    else .ok ()

theorem maxAdder_toNat (block : BlockHeader) :
    (maxAdder block).toNat = if block.nShift.toNat < 256 then 2 ^ block.nShift.toNat else 0 := by
  have h1 : (1 : BitVec 256).toNat = 1 := rfl
  simp only [maxAdder, BitVec.toNat_shiftLeft, h1, Nat.one_shiftLeft]
  split
  · exact Nat.mod_eq_of_lt (Nat.pow_lt_pow_right (by norm_num) ‹_›)
  · exact Nat.mod_eq_zero_of_dvd (Nat.pow_dvd_pow 2 (by omega))

theorem checkGapcoinProof_eq_ok (block : BlockHeader) :
    checkGapcoinProof hashWithoutSign merit block = .ok () ↔
      14 ≤ block.nShift.toNat ∧ block.nShift.toNat ≤ 65536 ∧ 2 ≤ block.nGapSize.toNat ∧
      block.nAdder.toNat < (maxAdder block).toNat ∧
      isProbablePrime (calculatePrimeCandidate hashWithoutSign block) 3 = true ∧
      isProbablePrime (calculatePrimeCandidate hashWithoutSign block + block.nGapSize.toNat) 3 =
        true ∧
      verifyGapComposites (calculatePrimeCandidate hashWithoutSign block) block.nGapSize.toNat =
        true ∧
      merit.compactToMerit block.nBits ≤
        merit.calculateMerit (calculatePrimeCandidate hashWithoutSign block) block.nGapSize := by
  unfold checkGapcoinProof
  simp only [ite_eq_iff, reduceCtorEq, and_false, false_or, and_true, not_le, gapcoinShiftMin,
    gapcoinShiftMax, fermatTestRounds, BitVec.le_def, not_or, not_lt, Bool.not_eq_true',
    Bool.not_eq_false, and_assoc]

theorem adder_lt_of_lt_maxAdder {block : BlockHeader}
    (h : block.nAdder.toNat < (maxAdder block).toNat) :
    block.nShift.toNat < 256 ∧ block.nAdder.toNat < 2 ^ block.nShift.toNat := by
  rw [maxAdder_toNat] at h
  split at h
  · exact ⟨‹_›, h⟩
  · omega

theorem fermatProbablePrime_of_isProbablePrime {n : Nat} (h : isProbablePrime n 3 = true) :
    FermatProbablePrime [2, 3, 5] n :=
  ((isProbablePrime_spec n 3).mp h).2

theorem checkGapcoinProof_sound (block : BlockHeader)
    (h : checkGapcoinProof hashWithoutSign merit block = .ok ()) :
    let p := calculatePrimeCandidate hashWithoutSign block
    let g := block.nGapSize.toNat
    14 ≤ block.nShift.toNat ∧ block.nShift.toNat ≤ 65536 ∧ 2 ≤ g ∧
      block.nAdder.toNat < 2 ^ block.nShift.toNat ∧
      FermatProbablePrime [2, 3, 5] p ∧ FermatProbablePrime [2, 3, 5] (p + g) ∧
      merit.compactToMerit block.nBits ≤ merit.calculateMerit p block.nGapSize ∧
      (∀ q, p < q → q < p + g → q.Prime → q ≤ 31) ∧
      (31 ≤ p → ∀ n, p < n → n < p + g → 1 < n ∧ ¬ n.Prime) := by
  intro p g
  obtain ⟨h14, hmax, hg, hadd, hp, hpg, hv, hm⟩ := (checkGapcoinProof_eq_ok _ _ block).mp h
  have hnone : ∀ q, p < q → q < p + g → q.Prime → q ≤ 31 :=
    fun q h1 h2 hq => verifyGapComposites_no_large_prime hv h1 h2 hq
  refine ⟨h14, hmax, hg, (adder_lt_of_lt_maxAdder hadd).2, fermatProbablePrime_of_isProbablePrime hp,
    fermatProbablePrime_of_isProbablePrime hpg, hm, hnone, fun h31 n h1 h2 => ⟨by omega, ?_⟩⟩
  intro hn
  have := hnone n h1 h2 hn
  omega

theorem checkGapcoinProof_sound_gap_113 :
    checkGapcoinProof (M := Nat) (fun _ => 0) ⟨fun _ _ => 1, fun _ => 0⟩
        { nShift := 14, nAdder := 113, nGapSize := 14 } = .ok () ∧
      let p := calculatePrimeCandidate (fun _ => 0) { nShift := 14, nAdder := 113, nGapSize := 14 }
      let g := (14 : UInt32).toNat
      14 ≤ (14 : UInt32).toNat ∧ (14 : UInt32).toNat ≤ 65536 ∧ 2 ≤ g ∧
        (113 : BitVec 256).toNat < 2 ^ (14 : UInt32).toNat ∧
        FermatProbablePrime [2, 3, 5] p ∧ FermatProbablePrime [2, 3, 5] (p + g) ∧
        (0 : Nat) ≤ 1 ∧
        (∀ q, p < q → q < p + g → q.Prime → q ≤ 31) ∧
        (31 ≤ p → ∀ n, p < n → n < p + g → 1 < n ∧ ¬ n.Prime) :=
  ⟨rfl, checkGapcoinProof_sound (M := Nat) (fun _ => 0) ⟨fun _ _ => 1, fun _ => 0⟩
    { nShift := 14, nAdder := 113, nGapSize := 14 } rfl⟩

theorem checkGapcoinProof_complete (block : BlockHeader) (h14 : 14 ≤ block.nShift.toNat)
    (h256 : block.nShift.toNat < 256) (hg : 2 ≤ block.nGapSize.toNat)
    (hadd : block.nAdder.toNat < 2 ^ block.nShift.toNat)
    (hp : (calculatePrimeCandidate hashWithoutSign block).Prime)
    (hpg : (calculatePrimeCandidate hashWithoutSign block + block.nGapSize.toNat).Prime)
    (hint : ∀ n, calculatePrimeCandidate hashWithoutSign block < n →
      n < calculatePrimeCandidate hashWithoutSign block + block.nGapSize.toNat →
      ¬ n.Prime ∧ ¬ n.FermatPsp 2)
    (hm : merit.compactToMerit block.nBits ≤
      merit.calculateMerit (calculatePrimeCandidate hashWithoutSign block) block.nGapSize) :
    checkGapcoinProof hashWithoutSign merit block = .ok () := by
  have hshift : block.nShift.toNat ≤ 65536 := by omega
  have hmaxAdder : (maxAdder block).toNat = 2 ^ block.nShift.toNat := by
    simp [maxAdder_toNat, h256]
  refine (checkGapcoinProof_eq_ok _ _ block).mpr ⟨h14, hshift, hg, hmaxAdder ▸ hadd,
    isProbablePrime_of_prime hp 3, isProbablePrime_of_prime hpg 3, ?_, hm⟩
  refine (verifyGapComposites_spec _ _).mpr ⟨hg, fun n h1 h2 => ?_⟩
  exact compositeCheck_of_not_psp (by have := hp.two_le; omega) (hint n h1 h2).1 (hint n h1 h2).2

theorem checkGapcoinProof_complete_gap_113 :
    14 ≤ (14 : UInt32).toNat ∧ (14 : UInt32).toNat < 256 ∧ 2 ≤ (14 : UInt32).toNat ∧
      (113 : BitVec 256).toNat < 2 ^ (14 : UInt32).toNat ∧
      (calculatePrimeCandidate (fun _ => 0) { nShift := 14, nAdder := 113, nGapSize := 14 }).Prime ∧
      (calculatePrimeCandidate (fun _ => 0) { nShift := 14, nAdder := 113, nGapSize := 14 } +
        (14 : UInt32).toNat).Prime ∧
      (∀ n, calculatePrimeCandidate (fun _ => 0) { nShift := 14, nAdder := 113, nGapSize := 14 } < n →
        n < calculatePrimeCandidate (fun _ => 0) { nShift := 14, nAdder := 113, nGapSize := 14 } +
          (14 : UInt32).toNat → ¬ n.Prime ∧ ¬ n.FermatPsp 2) ∧
      checkGapcoinProof (M := Nat) (fun _ => 0) ⟨fun _ _ => 1, fun _ => 0⟩
        { nShift := 14, nAdder := 113, nGapSize := 14 } = .ok () :=
  have hp : calculatePrimeCandidate (fun _ => 0) { nShift := 14, nAdder := 113, nGapSize := 14 } = 113 :=
    rfl
  have hint : ∀ n, calculatePrimeCandidate (fun _ => 0) { nShift := 14, nAdder := 113, nGapSize := 14 } < n →
      n < calculatePrimeCandidate (fun _ => 0) { nShift := 14, nAdder := 113, nGapSize := 14 } +
        (14 : UInt32).toNat → ¬ n.Prime ∧ ¬ n.FermatPsp 2 := by
    rw [hp]
    intro n h1 h2
    have h2 : n < 127 := h2
    interval_cases n <;> exact ⟨by norm_num, by decide⟩
  have hp113 : (calculatePrimeCandidate (fun _ => 0)
      { nShift := 14, nAdder := 113, nGapSize := 14 }).Prime := by rw [hp]; norm_num
  have hp127 : (calculatePrimeCandidate (fun _ => 0) { nShift := 14, nAdder := 113, nGapSize := 14 } +
      (14 : UInt32).toNat).Prime := by rw [hp]; show Nat.Prime 127; norm_num
  ⟨by decide, by decide, by decide, by decide, hp113, hp127, hint,
    checkGapcoinProof_complete (fun _ => 0) ⟨fun _ _ => 1, fun _ => 0⟩ _ (by decide) (by decide)
      (by decide) (by decide) hp113 hp127 hint (by decide)⟩

theorem checkGapcoinProof_rejects_wide_shift (block : BlockHeader)
    (h256 : 256 ≤ block.nShift.toNat) (hmax : block.nShift.toNat ≤ 65536)
    (hg : 2 ≤ block.nGapSize.toNat) :
    checkGapcoinProof hashWithoutSign merit block = .error "gapcoin-adder-too-large" := by
  have hzero : (maxAdder block).toNat = 0 := by simp [maxAdder_toNat, Nat.not_lt.mpr h256]
  have hle : maxAdder block ≤ block.nAdder := by simp [BitVec.le_def, hzero]
  simp [checkGapcoinProof, gapcoinShiftMin, gapcoinShiftMax, hle, Nat.not_lt.mpr hg,
    Nat.not_lt.mpr hmax, show ¬ block.nShift.toNat < 14 by omega]

theorem checkGapcoinProof_rejects_shift_256 :
    256 ≤ (256 : UInt32).toNat ∧ (256 : UInt32).toNat ≤ 65536 ∧ 2 ≤ (2 : UInt32).toNat ∧
      checkGapcoinProof (M := Nat) (fun _ => 0) ⟨fun _ _ => 0, fun _ => 0⟩
        { nShift := 256, nGapSize := 2 } = .error "gapcoin-adder-too-large" :=
  ⟨by decide, by decide, by decide, checkGapcoinProof_rejects_wide_shift _ _ _ (by decide)
    (by decide) (by decide)⟩

theorem calculatePrimeCandidate_adder_eq_iff (block : BlockHeader) (a a' : BitVec 256)
    (ha : a.toNat < 2 ^ block.nShift.toNat) (ha' : a'.toNat < 2 ^ block.nShift.toNat) :
    calculatePrimeCandidate hashWithoutSign { block with nAdder := a } =
        calculatePrimeCandidate hashWithoutSign { block with nAdder := a' } ↔
      a.toNat / 2 = a'.toNat / 2 := by
  simp only [calculatePrimeCandidate]
  generalize (hashWithoutSign { block with nShift := 0, nAdder := 0, nGapSize := 0 }).toNat = H
  rcases Nat.eq_zero_or_pos block.nShift.toNat with hs | hs
  · rw [hs] at ha ha'
    simp only [pow_zero, Nat.lt_one_iff] at ha ha'
    simp [ha, ha']
  · obtain ⟨k, hk⟩ : ∃ k, H * 2 ^ block.nShift.toNat = 2 * k :=
      ⟨H * 2 ^ (block.nShift.toNat - 1), by
        rw [← Nat.mul_left_comm, ← pow_succ', Nat.sub_add_cancel hs]⟩
    have hodd : ∀ n : Nat, (if n % 2 = 0 then n + 1 else n) = 2 * (n / 2) + 1 := fun n => by
      split <;> omega
    rw [hk, hodd, hodd]
    omega

theorem checkGapcoinProof_adder_sibling (block : BlockHeader) (a a' : BitVec 256)
    (ha : a.toNat < 2 ^ block.nShift.toNat) (ha' : a'.toNat < 2 ^ block.nShift.toNat)
    (hsib : a.toNat / 2 = a'.toNat / 2) :
    checkGapcoinProof hashWithoutSign merit { block with nAdder := a } =
      checkGapcoinProof hashWithoutSign merit { block with nAdder := a' } := by
  have hcand := (calculatePrimeCandidate_adder_eq_iff hashWithoutSign block a a' ha ha').mpr hsib
  have hmax : (maxAdder { block with nAdder := a } ≤ a) ↔ (maxAdder { block with nAdder := a' } ≤ a') := by
    simp only [BitVec.le_def, maxAdder_toNat]
    split <;> omega
  unfold checkGapcoinProof
  simp only [hcand, hmax]

theorem calculatePrimeCandidate_adder_classes (block : BlockHeader) (a a' : BitVec 256)
    (ha : a.toNat < 2 ^ block.nShift.toNat) (ha' : a'.toNat < 2 ^ block.nShift.toNat) :
    (calculatePrimeCandidate hashWithoutSign { block with nAdder := a } =
        calculatePrimeCandidate hashWithoutSign { block with nAdder := a' } ↔
      a.toNat / 2 = a'.toNat / 2) ∧
    (a.toNat / 2 = a'.toNat / 2 →
      checkGapcoinProof hashWithoutSign merit { block with nAdder := a } =
        checkGapcoinProof hashWithoutSign merit { block with nAdder := a' }) :=
  ⟨calculatePrimeCandidate_adder_eq_iff hashWithoutSign block a a' ha ha',
    checkGapcoinProof_adder_sibling hashWithoutSign merit block a a' ha ha'⟩

theorem calculatePrimeCandidate_adder_classes_witness :
    (112 : BitVec 256).toNat < 2 ^ (14 : UInt32).toNat ∧
      (113 : BitVec 256).toNat < 2 ^ (14 : UInt32).toNat ∧
      checkGapcoinProof (M := Nat) (fun _ => 0) ⟨fun _ _ => 1, fun _ => 0⟩
        { nShift := 14, nAdder := 112, nGapSize := 14 } = .ok () ∧
      checkGapcoinProof (M := Nat) (fun _ => 0) ⟨fun _ _ => 1, fun _ => 0⟩
        { nShift := 14, nAdder := 113, nGapSize := 14 } = .ok () ∧
      ((calculatePrimeCandidate (fun _ => 0) { nShift := 14, nAdder := 112, nGapSize := 14 } =
          calculatePrimeCandidate (fun _ => 0) { nShift := 14, nAdder := 113, nGapSize := 14 } ↔
        (112 : BitVec 256).toNat / 2 = (113 : BitVec 256).toNat / 2) ∧
      ((112 : BitVec 256).toNat / 2 = (113 : BitVec 256).toNat / 2 →
        checkGapcoinProof (M := Nat) (fun _ => 0) ⟨fun _ _ => 1, fun _ => 0⟩
            { nShift := 14, nAdder := 112, nGapSize := 14 } =
          checkGapcoinProof (M := Nat) (fun _ => 0) ⟨fun _ _ => 1, fun _ => 0⟩
            { nShift := 14, nAdder := 113, nGapSize := 14 })) :=
  ⟨by decide, by decide, rfl, rfl, calculatePrimeCandidate_adder_classes (fun _ => 0)
    ⟨fun _ _ => 1, fun _ => 0⟩ { nShift := 14, nGapSize := 14 } 112 113 (by decide) (by decide)⟩

end Wattx.GapcoinProof
