import Wattx.GapcoinMiner
import Wattx.GapcoinProof

/-!
`GapcoinMiner::MineThread` of `node/gapcoin_miner.cpp` as built with GMP: `CalculateBasePrime`,
the gap search of one sieved segment, `VerifyGap`, and the results handed to
`m_solutionCallback`. `mpz_probab_prime_p(n, reps) != 0` is a parameter `probabPrime n reps`, the
MPFR merit is a parameter in an ordered type `M`, and `uint32_t` values wrap by `% 2 ^ 32`.
`mpz_export` past the 32 bytes of `nAdder` is `Except.error`.
-/

namespace Wattx.GapcoinMineThread

open Block GapcoinSieve GapcoinProof GapcoinMiner

structure GapcoinMiningResult (M : Type) where
  found : Bool
  nShift : UInt32
  nAdder : BitVec 256
  nGapSize : UInt32
  merit : M
  deriving DecidableEq, Repr

def basePrimeBytes (block : BlockHeader) : List UInt8 :=
  leBytes 4 (block.nVersion % 2 ^ 32).toNat ++ leBytes 32 block.hashPrevBlock.toNat ++
    leBytes 32 block.hashMerkleRoot.toNat ++ leBytes 4 block.nTime.toNat ++
    leBytes 4 block.nBits.toNat ++ leBytes 4 block.nNonce.toNat

def calculateBasePrime (hash : List UInt8 → BitVec 256) (block : BlockHeader) (nShift : UInt32) :
    Nat :=
  (hash (basePrimeBytes block)).toNat * 2 ^ nShift.toNat

section VerifyGap

variable {M : Type} (probabPrime : Nat → Nat → Bool) (calculateMerit : Nat → Nat → M)

def sampleStep (gapSize : Nat) : Nat := max 1 (gapSize / 100)

def sampleLoop (startPrime gapSize step : Nat) : Nat → Nat → Bool
  | 0, _ => true
  | fuel + 1, i =>
    if i < gapSize then
      if probabPrime (startPrime + i) 2 then false
      else sampleLoop startPrime gapSize step fuel ((i + step) % 2 ^ 32)
    else true

def verifyGap (startPrime gapSize : Nat) : Option M :=
  if !probabPrime startPrime 10 then none
  else if !probabPrime (startPrime + gapSize) 10 then none
  else if !sampleLoop probabPrime startPrime gapSize (sampleStep gapSize) gapSize 2 then none
  else some (calculateMerit startPrime gapSize)

def Sampled (gapSize j : Nat) : Prop := 2 ≤ j ∧ j < gapSize ∧ sampleStep gapSize ∣ j - 2

instance (gapSize j : Nat) : Decidable (Sampled gapSize j) :=
  inferInstanceAs (Decidable (_ ∧ _ ∧ _))

theorem sampleStep_pos (gapSize : Nat) : 0 < sampleStep gapSize := by
  unfold sampleStep; omega

theorem le_of_dvd_sub_two {step i j : Nat} (hs : 0 < step) (hi : 2 ≤ i) (hij : i < j)
    (hdi : step ∣ i - 2) (hdj : step ∣ j - 2) : i + step ≤ j := by
  have h := Nat.le_of_dvd (by omega) (Nat.dvd_sub' hdj hdi)
  omega

theorem sampleLoop_spec {start gapSize step : Nat} (hs : 0 < step) (hg : gapSize + step ≤ 2 ^ 32) :
    ∀ fuel i, 2 ≤ i → step ∣ i - 2 → gapSize ≤ i + fuel →
      (sampleLoop probabPrime start gapSize step fuel i = true ↔
        ∀ j, i ≤ j → j < gapSize → step ∣ j - 2 → probabPrime (start + j) 2 = false) := by
  intro fuel
  induction fuel with
  | zero =>
    intro i _ _ hf
    simp only [sampleLoop, true_iff]
    intro j hj hjg
    omega
  | succ fuel ih =>
    intro i h2 hd hf
    by_cases hi : i < gapSize
    · have hwrap : (i + step) % 2 ^ 32 = i + step := Nat.mod_eq_of_lt (by omega)
      have hnext := ih (i + step) (by omega)
        (by rw [show i + step - 2 = i - 2 + step by omega]; exact Nat.dvd_add hd (Nat.dvd_refl _))
        (by omega)
      simp only [sampleLoop, if_pos hi, hwrap]
      constructor
      · intro h j hij hjg hdj
        split at h
        · exact absurd h Bool.false_ne_true
        · rcases Nat.eq_or_lt_of_le hij with rfl | hlt
          · exact Bool.of_not_eq_true ‹_›
          · exact hnext.mp h j (le_of_dvd_sub_two hs h2 hlt hd hdj) hjg hdj
      · intro h
        rw [h i le_rfl hi hd]
        exact hnext.mpr fun j hij hjg hdj => h j (by omega) hjg hdj
    · simp only [sampleLoop, if_neg hi, true_iff]
      intro j hij hjg
      omega

theorem verifyGap_eq_some {start gapSize : Nat} (hg : gapSize < 2 ^ 31) (m : M) :
    verifyGap probabPrime calculateMerit start gapSize = some m ↔
      probabPrime start 10 = true ∧ probabPrime (start + gapSize) 10 = true ∧
        (∀ j, Sampled gapSize j → probabPrime (start + j) 2 = false) ∧
        calculateMerit start gapSize = m := by
  have hstep : gapSize + sampleStep gapSize ≤ 2 ^ 32 := by unfold sampleStep; omega
  have hloop := @sampleLoop_spec probabPrime start gapSize (sampleStep gapSize)
    (sampleStep_pos gapSize) hstep gapSize 2 le_rfl (by simp) (by omega)
  unfold verifyGap
  by_cases h1 : probabPrime start 10 <;> by_cases h2 : probabPrime (start + gapSize) 10 <;>
    simp only [h1, h2, Bool.not_true, Bool.not_false, Bool.false_eq_true, if_false, if_true,
      reduceCtorEq, false_and, true_and, and_false]
  by_cases h3 : sampleLoop probabPrime start gapSize (sampleStep gapSize) gapSize 2 = true
  · simp only [h3, Bool.not_true, Bool.false_eq_true, if_false, Option.some.injEq]
    exact ⟨fun h => ⟨fun j ⟨hj2, hjg, hd⟩ => hloop.mp h3 j hj2 hjg hd, h⟩, fun h => h.2⟩
  · simp only [Bool.not_eq_true] at h3
    simp only [h3, Bool.not_false, if_true, reduceCtorEq, false_iff, not_and]
    intro h
    rw [← Bool.not_eq_true, hloop] at h3
    exact absurd (fun j hj2 hjg hd => h j ⟨hj2, hjg, hd⟩) h3

theorem sampleStep_of_lt_200 {gapSize : Nat} (h : gapSize < 200) : sampleStep gapSize = 1 := by
  unfold sampleStep; omega

theorem two_le_sampleStep {gapSize : Nat} (h : 200 ≤ gapSize) : 2 ≤ sampleStep gapSize := by
  unfold sampleStep; omega

theorem verifyGap_congr {q : Nat → Nat → Bool} {start gapSize : Nat} (hg : gapSize < 2 ^ 31)
    (hstart : probabPrime start 10 = q start 10)
    (hend : probabPrime (start + gapSize) 10 = q (start + gapSize) 10)
    (hsampled : ∀ j, Sampled gapSize j → probabPrime (start + j) 2 = q (start + j) 2) :
    verifyGap probabPrime calculateMerit start gapSize = verifyGap q calculateMerit start gapSize := by
  refine Option.ext fun m => ?_
  rw [Option.mem_def, Option.mem_def, verifyGap_eq_some _ _ hg, verifyGap_eq_some _ _ hg, hstart,
    hend]
  exact and_congr_right' (and_congr_right' (and_congr_left' (forall_congr' fun j =>
    imp_congr_right fun hj => by rw [hsampled j hj])))

def overrideAt (n : Nat) (b : Bool) : Nat → Nat → Bool :=
  fun k reps => if k = n then b else probabPrime k reps

theorem verifyGap_samples (start gapSize : Nat) (hg : gapSize < 2 ^ 31) :
    (gapSize < 200 → ∀ m, verifyGap probabPrime calculateMerit start gapSize = some m →
      ∀ j, 2 ≤ j → j < gapSize → probabPrime (start + j) 2 = false) ∧
    (gapSize ≠ 1 → ∀ b, verifyGap (overrideAt probabPrime (start + 1) b) calculateMerit start gapSize =
      verifyGap probabPrime calculateMerit start gapSize) ∧
    (200 ≤ gapSize → ∀ b, verifyGap (overrideAt probabPrime (start + 3) b) calculateMerit start gapSize =
      verifyGap probabPrime calculateMerit start gapSize) := by
  refine ⟨fun h200 m h j hj2 hjg => ((verifyGap_eq_some _ _ hg m).mp h).2.2.1 j
      ⟨hj2, hjg, by rw [sampleStep_of_lt_200 h200]; exact Nat.one_dvd _⟩,
    fun h1 b => (verifyGap_congr _ _ hg ?_ ?_ ?_).symm, fun h200 b => (verifyGap_congr _ _ hg ?_ ?_ ?_).symm⟩
  · simp [overrideAt]
  · simp [overrideAt, h1]
  · intro j hj
    simp [overrideAt, show j ≠ 1 by have := hj.1; omega]
  · simp [overrideAt]
  · simp [overrideAt, show gapSize ≠ 3 by omega]
  · intro j hj
    have hne : j ≠ 3 := by
      rintro rfl
      exact absurd (Nat.le_of_dvd one_pos hj.2.2) (by have := two_le_sampleStep h200; omega)
    simp [overrideAt, hne]

theorem verifyGap_samples_113 :
    (14 : Nat) < 2 ^ 31 ∧
      verifyGap (fun n reps => PrimalityTest.isProbablePrime n reps) (fun _ g => g) 113 14 = some 14 ∧
      (((14 : Nat) < 200 → ∀ m, verifyGap (fun n reps => PrimalityTest.isProbablePrime n reps)
          (fun _ g => g) 113 14 = some m →
        ∀ j, 2 ≤ j → j < 14 → PrimalityTest.isProbablePrime (113 + j) (2 : Nat) = false) ∧
      ((14 : Nat) ≠ 1 → ∀ b, verifyGap (overrideAt (fun n reps => PrimalityTest.isProbablePrime n reps)
          (113 + 1) b) (fun _ g => g) 113 14 =
        verifyGap (fun n reps => PrimalityTest.isProbablePrime n reps) (fun _ g => g) 113 14) ∧
      (200 ≤ (14 : Nat) → ∀ b, verifyGap (overrideAt (fun n reps => PrimalityTest.isProbablePrime n reps)
          (113 + 3) b) (fun _ g => g) 113 14 =
        verifyGap (fun n reps => PrimalityTest.isProbablePrime n reps) (fun _ g => g) 113 14)) ∧
    (200 : Nat) < 2 ^ 31 ∧ PrimalityTest.isProbablePrime 11 (10 : Nat) = true ∧
      PrimalityTest.isProbablePrime (11 + 200) (10 : Nat) = true ∧
      verifyGap (fun n reps => PrimalityTest.isProbablePrime n reps) (fun _ g => g) 11 200 = none ∧
      (((200 : Nat) < 200 → ∀ m, verifyGap (fun n reps => PrimalityTest.isProbablePrime n reps)
          (fun _ g => g) 11 200 = some m →
        ∀ j, 2 ≤ j → j < 200 → PrimalityTest.isProbablePrime (11 + j) (2 : Nat) = false) ∧
      ((200 : Nat) ≠ 1 → ∀ b, verifyGap (overrideAt (fun n reps => PrimalityTest.isProbablePrime n reps)
          (11 + 1) b) (fun _ g => g) 11 200 =
        verifyGap (fun n reps => PrimalityTest.isProbablePrime n reps) (fun _ g => g) 11 200) ∧
      (200 ≤ (200 : Nat) → ∀ b, verifyGap (overrideAt (fun n reps => PrimalityTest.isProbablePrime n reps)
          (11 + 3) b) (fun _ g => g) 11 200 =
        verifyGap (fun n reps => PrimalityTest.isProbablePrime n reps) (fun _ g => g) 11 200)) :=
  ⟨by decide, by decide,
    verifyGap_samples (fun n reps => PrimalityTest.isProbablePrime n reps) (fun _ g => g) 113 14 (by decide),
    by decide, by decide, by decide, by decide,
    verifyGap_samples (fun n reps => PrimalityTest.isProbablePrime n reps) (fun _ g => g) 11 200 (by decide)⟩

end VerifyGap

structure SegmentScan (M : Type) where
  currentGapStart : Nat := 0
  inGap : Bool := false
  localPrimesChecked : Nat := 0
  gapMerits : List M := []
  solutions : List (GapcoinMiningResult M) := []
  deriving DecidableEq, Repr

def exportAdder (gapStart : Nat) : Except String (BitVec 256) :=
  if gapStart < 2 ^ 256 then .ok (BitVec.ofNat 256 gapStart) else .error "mpz_export past nAdder"

section Scan

variable {M : Type} [LinearOrder M] (probabPrime : Nat → Nat → Bool)
  (calculateMerit : Nat → Nat → M) (nShift : UInt32) (targetMerit : M) (basePrime adder : Nat)

def endGap (scan : SegmentScan M) (offset : Nat) : Except String (SegmentScan M) :=
  let gapSize := (offset + 2 ^ 32 - scan.currentGapStart) % 2 ^ 32
  if gapSize < 10 then pure scan
  else
    let gapStart := scan.currentGapStart + adder + basePrime
    match verifyGap probabPrime calculateMerit gapStart gapSize with
    | none => pure scan
    | some merit =>
      let scan := { scan with gapMerits := scan.gapMerits ++ [merit] }
      if merit < targetMerit then pure scan
      else do
        let nAdder ← exportAdder gapStart
        pure { scan with
          solutions := scan.solutions ++ [⟨true, nShift, nAdder, gapSize.toUInt32, merit⟩] }

def scanOffset (scan : SegmentScan M) (offset : Nat) : Except String (SegmentScan M) :=
  if probabPrime (offset + adder + basePrime) 3 then do
    let scan := { scan with localPrimesChecked := scan.localPrimesChecked + 1 }
    let scan ← if scan.inGap then
        endGap probabPrime calculateMerit nShift targetMerit basePrime adder scan offset
      else pure scan
    pure { scan with currentGapStart := offset, inGap := true }
  else pure scan

def scanBit (sieve : Nat → Bool) (scan : SegmentScan M) (pos : Nat) : Except String (SegmentScan M) :=
  if sieve pos then scanOffset probabPrime calculateMerit nShift targetMerit basePrime adder scan
    (pos % 2 ^ 32)
  else pure scan

def scanSegment (sieve : Nat → Bool) (nBytes : Nat) : Except String (SegmentScan M) :=
  (List.range nBytes).foldlM (fun scan byteIdx =>
    (List.range 8).foldlM (fun scan bit =>
      scanBit probabPrime calculateMerit nShift targetMerit basePrime adder sieve scan
        (byteIdx * 8 + bit)) scan) {}

end Scan

section Gaps

variable {M : Type} (probabPrime : Nat → Nat → Bool) (calculateMerit : Nat → Nat → M)
  (basePrime adder : Nat)

def probablePrimes (sieve : Nat → Bool) (bits : Nat) : List Nat :=
  (List.range bits).filter fun i => sieve i && probabPrime (i + adder + basePrime) 3

def verifiedGap (a b : Nat) : Option (Nat × Nat × M) :=
  if b - a < 10 then none
  else (verifyGap probabPrime calculateMerit (a + adder + basePrime) (b - a)).map fun m => (a, b - a, m)

def verifiedGaps : Nat → List Nat → List (Nat × Nat × M)
  | _, [] => []
  | a, b :: ys => (verifiedGap probabPrime calculateMerit basePrime adder a b).toList ++
    verifiedGaps b ys

theorem verifiedGap_eq_some {a b a' g : Nat} {m : M} :
    verifiedGap probabPrime calculateMerit basePrime adder a b = some (a', g, m) ↔
      a' = a ∧ g = b - a ∧ 10 ≤ b - a ∧
        verifyGap probabPrime calculateMerit (a + adder + basePrime) (b - a) = some m := by
  unfold verifiedGap
  split
  · simp only [reduceCtorEq, false_iff, not_and]
    intro _ _ h
    omega
  · simp only [Option.map_eq_some', Prod.mk.injEq]
    constructor
    · rintro ⟨m', hv, rfl, rfl, rfl⟩
      exact ⟨rfl, rfl, by omega, hv⟩
    · rintro ⟨rfl, rfl, -, hv⟩
      exact ⟨m, hv, rfl, rfl, rfl⟩

theorem mem_verifiedGaps : ∀ (ys : List Nat) (a : Nat), (a :: ys).Pairwise (· < ·) →
    ∀ {a' g : Nat} {m : M}, (a', g, m) ∈ verifiedGaps probabPrime calculateMerit basePrime adder a ys ↔
      a' ∈ a :: ys ∧ a' + g ∈ a :: ys ∧ (∀ y ∈ a :: ys, ¬ (a' < y ∧ y < a' + g)) ∧ 10 ≤ g ∧
        verifyGap probabPrime calculateMerit (a' + adder + basePrime) g = some m := by
  intro ys
  induction ys with
  | nil =>
    intro a _ a' g m
    simp only [verifiedGaps, List.not_mem_nil, false_iff, List.mem_singleton, not_and]
    rintro rfl h
    omega
  | cons b ys ih =>
    intro a hs a' g m
    have hab : a < b := List.rel_of_pairwise_cons hs (List.mem_cons_self b ys)
    have hs' := List.Pairwise.of_cons hs
    have hb : ∀ y ∈ b :: ys, b ≤ y := fun y hy => by
      rcases List.mem_cons.mp hy with rfl | hy
      · exact le_rfl
      · exact (List.rel_of_pairwise_cons hs' hy).le
    simp only [verifiedGaps, List.mem_append, Option.mem_toList, Option.mem_def,
      verifiedGap_eq_some, ih b hs']
    constructor
    · rintro (⟨rfl, rfl, hg, hv⟩ | ⟨ha', hag, hbetween, hg, hv⟩)
      · refine ⟨List.mem_cons_self _ _, by rw [Nat.add_sub_cancel' hab.le]; simp, ?_, hg, hv⟩
        intro y hy ⟨h1, h2⟩
        rcases List.mem_cons.mp hy with rfl | hy
        · omega
        · have := hb y hy; omega
      · refine ⟨List.mem_cons_of_mem a ha', List.mem_cons_of_mem a hag, ?_, hg, hv⟩
        intro y hy
        rcases List.mem_cons.mp hy with rfl | hy
        · have := hb a' ha'; omega
        · exact hbetween y hy
    · rintro ⟨ha', hag, hbetween, hg, hv⟩
      rcases List.mem_cons.mp ha' with rfl | ha'
      · left
        have hag' : a' + g ∈ b :: ys := by
          rcases List.mem_cons.mp hag with h | h
          · omega
          · exact h
        have hgb : a' + g = b := by
          rcases List.mem_cons.mp hag' with h | h
          · exact h
          · exact absurd ⟨hab, List.rel_of_pairwise_cons hs' h⟩
              (hbetween b (List.mem_cons_of_mem _ (List.mem_cons_self b ys)))
        refine ⟨rfl, by omega, by omega, by rwa [show b - a' = g by omega]⟩
      · right
        have := hb a' ha'
        refine ⟨ha', ?_, fun y hy => hbetween y (List.mem_cons_of_mem a hy), hg, hv⟩
        rcases List.mem_cons.mp hag with h | h
        · omega
        · exact h

end Gaps

section ScanSpec

variable {M : Type} [LinearOrder M] (probabPrime : Nat → Nat → Bool)
  (calculateMerit : Nat → Nat → M) (nShift : UInt32) (targetMerit : M) (basePrime adder : Nat)

def IsSolution (g : Nat × Nat × M) : Bool := !decide (g.2.2 < targetMerit)

def toResult (g : Nat × Nat × M) : GapcoinMiningResult M :=
  ⟨true, nShift, BitVec.ofNat 256 (g.1 + adder + basePrime), g.2.1.toUInt32, g.2.2⟩

def scanFrom (scan : SegmentScan M) (a : Nat) (ys : List Nat) : Except String (SegmentScan M) :=
  let gaps := verifiedGaps probabPrime calculateMerit basePrime adder a ys
  let sols := gaps.filter (IsSolution targetMerit)
  if sols.all fun g => g.1 + adder + basePrime < 2 ^ 256 then
    .ok { scan with
      currentGapStart := ys.getLastD a
      inGap := true
      localPrimesChecked := scan.localPrimesChecked + ys.length
      gapMerits := scan.gapMerits ++ gaps.map (·.2.2)
      solutions := scan.solutions ++ sols.map (toResult nShift basePrime adder) }
  else .error "mpz_export past nAdder"

theorem endGap_eq {scan : SegmentScan M} {b : Nat} (hab : scan.currentGapStart < b)
    (hb : b < 2 ^ 32) :
    endGap probabPrime calculateMerit nShift targetMerit basePrime adder scan b =
      match verifiedGap probabPrime calculateMerit basePrime adder scan.currentGapStart b with
      | none => .ok scan
      | some g =>
        if IsSolution targetMerit g then
          if g.1 + adder + basePrime < 2 ^ 256 then
            .ok { scan with gapMerits := scan.gapMerits ++ [g.2.2],
                            solutions := scan.solutions ++ [toResult nShift basePrime adder g] }
          else .error "mpz_export past nAdder"
        else .ok { scan with gapMerits := scan.gapMerits ++ [g.2.2] } := by
  have hgap : (b + 2 ^ 32 - scan.currentGapStart) % 2 ^ 32 = b - scan.currentGapStart := by
    rw [show b + 2 ^ 32 - scan.currentGapStart = b - scan.currentGapStart + 2 ^ 32 by omega,
      Nat.add_mod_right, Nat.mod_eq_of_lt (by omega)]
  unfold endGap verifiedGap
  simp only [hgap]
  split
  · rfl
  · cases verifyGap probabPrime calculateMerit (scan.currentGapStart + adder + basePrime)
      (b - scan.currentGapStart) with
    | none => rfl
    | some m =>
      simp only [Option.map_some', IsSolution, Bool.not_eq_true', decide_eq_false_iff_not]
      by_cases hm : m < targetMerit
      · simp only [hm, if_true, not_true_eq_false, if_false]
        rfl
      · simp only [hm, if_false, not_false_eq_true, if_true, exportAdder]
        split <;> rfl

theorem scanFrom_cons (scan : SegmentScan M) (a b : Nat) (ys : List Nat) :
    scanFrom probabPrime calculateMerit nShift targetMerit basePrime adder scan a (b :: ys) =
      let next (scan : SegmentScan M) : SegmentScan M :=
        { scan with currentGapStart := b, inGap := true,
                    localPrimesChecked := scan.localPrimesChecked + 1 }
      match verifiedGap probabPrime calculateMerit basePrime adder a b with
      | none => scanFrom probabPrime calculateMerit nShift targetMerit basePrime adder (next scan) b ys
      | some g =>
        if IsSolution targetMerit g then
          if g.1 + adder + basePrime < 2 ^ 256 then
            scanFrom probabPrime calculateMerit nShift targetMerit basePrime adder
              (next { scan with gapMerits := scan.gapMerits ++ [g.2.2],
                                solutions := scan.solutions ++ [toResult nShift basePrime adder g] })
              b ys
          else .error "mpz_export past nAdder"
        else scanFrom probabPrime calculateMerit nShift targetMerit basePrime adder
          (next { scan with gapMerits := scan.gapMerits ++ [g.2.2] }) b ys := by
  have hlen : scan.localPrimesChecked + (ys.length + 1) = scan.localPrimesChecked + 1 + ys.length := by
    omega
  cases hv : verifiedGap probabPrime calculateMerit basePrime adder a b with
  | none =>
    simp only [scanFrom, verifiedGaps, hv, Option.toList_none, List.nil_append, List.getLastD_cons,
      List.length_cons, hlen]
  | some g =>
    by_cases hs : IsSolution targetMerit g = true
    · by_cases hlt : g.1 + adder + basePrime < 2 ^ 256
      · simp only [scanFrom, verifiedGaps, hv, Option.toList_some, List.singleton_append,
          List.filter_cons, hs, if_true, List.all_cons, hlt, decide_True, Bool.true_and,
          List.getLastD_cons, List.length_cons, hlen, List.map_cons, List.append_assoc,
          List.singleton_append]
      · simp only [scanFrom, verifiedGaps, hv, Option.toList_some, List.singleton_append,
          List.filter_cons, hs, if_true, List.all_cons, hlt, decide_False, Bool.false_and,
          Bool.false_eq_true, if_false]
    · simp only [scanFrom, verifiedGaps, hv, Option.toList_some, List.singleton_append,
        List.filter_cons, hs, if_false, Bool.false_eq_true, List.getLastD_cons, List.length_cons,
        hlen, List.map_cons, List.append_assoc, List.singleton_append]

variable {probabPrime calculateMerit nShift targetMerit basePrime adder} in
theorem foldlM_scanOffset : ∀ (ys : List Nat) (a : Nat) (scan : SegmentScan M),
    ys.Pairwise (· < ·) → (∀ y ∈ ys, a < y ∧ y < 2 ^ 32) →
    (∀ y ∈ ys, probabPrime (y + adder + basePrime) 3 = true) →
    scan.inGap = true → scan.currentGapStart = a →
      ys.foldlM (scanOffset probabPrime calculateMerit nShift targetMerit basePrime adder) scan =
        scanFrom probabPrime calculateMerit nShift targetMerit basePrime adder scan a ys := by
  intro ys
  induction ys with
  | nil =>
    intro a scan _ _ _ hg hc
    obtain ⟨c, g, n, ms, sols⟩ := scan
    simp only at hg hc
    subst hg hc
    simp only [scanFrom, verifiedGaps, List.filter_nil, List.all_nil, if_true, List.getLastD_nil,
      List.length_nil, Nat.add_zero, List.map_nil, List.append_nil]
    rfl
  | cons b ys ih =>
    intro a scan hs hlt hp hg hc
    rw [List.pairwise_cons] at hs
    have hb := hlt b (List.mem_cons_self b ys)
    have hrest : ∀ (scan : SegmentScan M), scan.inGap = true → scan.currentGapStart = b →
        ys.foldlM (scanOffset probabPrime calculateMerit nShift targetMerit basePrime adder) scan =
          scanFrom probabPrime calculateMerit nShift targetMerit basePrime adder scan b ys :=
      fun scan => ih b scan hs.2 (fun y hy => ⟨hs.1 y hy, (hlt y (List.mem_cons_of_mem b hy)).2⟩)
        fun y hy => hp y (List.mem_cons_of_mem b hy)
    rw [List.foldlM_cons, scanOffset, if_pos (hp b (List.mem_cons_self b ys)), scanFrom_cons]
    simp only [hg, if_true]
    rw [endGap_eq _ _ _ _ _ _ (by simp only [hc]; exact hb.1) hb.2]
    simp only [hc]
    cases verifiedGap probabPrime calculateMerit basePrime adder a b with
    | none => exact hrest _ rfl rfl
    | some g =>
      dsimp only
      split
      · split
        · exact hrest _ rfl rfl
        · rfl
      · exact hrest _ rfl rfl

variable (sieve : Nat → Bool)

theorem scanSegment_eq_foldlM (nBytes : Nat) :
    scanSegment probabPrime calculateMerit nShift targetMerit basePrime adder sieve nBytes =
      (List.range (nBytes * 8)).foldlM
        (scanBit probabPrime calculateMerit nShift targetMerit basePrime adder sieve) {} := by
  unfold scanSegment
  generalize ({} : SegmentScan M) = scan
  induction nBytes with
  | zero => rfl
  | succ n ih =>
    rw [List.range_succ n, List.foldlM_append, ih, show (n + 1) * 8 = n * 8 + 8 by omega,
      List.range_add (n * 8) 8, List.foldlM_append]
    simp only [List.foldlM_map, List.foldlM_cons, List.foldlM_nil, bind_pure]

theorem foldlM_scanBit : ∀ (xs : List Nat) (scan : SegmentScan M), (∀ x ∈ xs, x < 2 ^ 32) →
    xs.foldlM (scanBit probabPrime calculateMerit nShift targetMerit basePrime adder sieve) scan =
      (xs.filter fun i => sieve i && probabPrime (i + adder + basePrime) 3).foldlM
        (scanOffset probabPrime calculateMerit nShift targetMerit basePrime adder) scan := by
  intro xs
  induction xs with
  | nil => intro _ _; rfl
  | cons x xs ih =>
    intro scan hx
    have hrest := fun scan => ih scan fun y hy => hx y (List.mem_cons_of_mem x hy)
    rw [List.foldlM_cons, List.filter_cons, scanBit, Nat.mod_eq_of_lt (hx x (List.mem_cons_self x xs))]
    cases hs : sieve x <;> cases hp : probabPrime (x + adder + basePrime) 3 <;>
      simp only [if_true, if_false, Bool.false_eq_true, Bool.and_false, Bool.and_true,
        Bool.false_and, pure_bind, hrest, List.foldlM_cons]
    · rw [scanOffset, if_neg (by simp [hp]), pure_bind]

theorem scanSegment_eq (nBytes : Nat) (hbits : nBytes * 8 ≤ 2 ^ 32) :
    scanSegment probabPrime calculateMerit nShift targetMerit basePrime adder sieve nBytes =
      match probablePrimes probabPrime basePrime adder sieve (nBytes * 8) with
      | [] => .ok {}
      | a :: ys => scanFrom probabPrime calculateMerit nShift targetMerit basePrime adder
          { currentGapStart := a, inGap := true, localPrimesChecked := 1 } a ys := by
  have hlt : ∀ x ∈ List.range (nBytes * 8), x < 2 ^ 32 := fun x hx => by
    have := List.mem_range.mp hx; omega
  rw [scanSegment_eq_foldlM, foldlM_scanBit _ _ _ _ _ _ _ _ _ hlt, ← probablePrimes]
  have hsorted := (List.pairwise_lt_range (nBytes * 8)).filter
    fun i => sieve i && probabPrime (i + adder + basePrime) 3
  have hmem : ∀ y ∈ probablePrimes probabPrime basePrime adder sieve (nBytes * 8),
      y < 2 ^ 32 ∧ probabPrime (y + adder + basePrime) 3 = true := fun y hy => by
    rw [probablePrimes, List.mem_filter, Bool.and_eq_true] at hy
    exact ⟨hlt y hy.1, hy.2.2⟩
  rw [← probablePrimes] at hsorted
  revert hsorted hmem
  cases probablePrimes probabPrime basePrime adder sieve (nBytes * 8) with
  | nil => intro _ _; rfl
  | cons a ys =>
    intro hsorted hmem
    rw [List.pairwise_cons] at hsorted
    rw [List.foldlM_cons, scanOffset, if_pos (hmem a (List.mem_cons_self a ys)).2]
    exact foldlM_scanOffset ys a _ hsorted.2
      (fun y hy => ⟨hsorted.1 y hy, (hmem y (List.mem_cons_of_mem a hy)).1⟩)
      (fun y hy => (hmem y (List.mem_cons_of_mem a hy)).2) rfl rfl

def SegmentSolution (pp : List Nat) (a g : Nat) (m : M) : Prop :=
  a ∈ pp ∧ a + g ∈ pp ∧ (∀ i ∈ pp, ¬ (a < i ∧ i < a + g)) ∧ 10 ≤ g ∧
    verifyGap probabPrime calculateMerit (a + adder + basePrime) g = some m ∧ ¬ m < targetMerit

theorem mem_filter_verifiedGaps {a : Nat} {ys : List Nat} (hs : (a :: ys).Pairwise (· < ·))
    (g : Nat × Nat × M) :
    g ∈ (verifiedGaps probabPrime calculateMerit basePrime adder a ys).filter (IsSolution targetMerit) ↔
      SegmentSolution probabPrime calculateMerit targetMerit basePrime adder (a :: ys) g.1 g.2.1 g.2.2 := by
  obtain ⟨a', g, m⟩ := g
  rw [List.mem_filter, mem_verifiedGaps probabPrime calculateMerit basePrime adder ys a hs,
    SegmentSolution, IsSolution, Bool.not_eq_true', decide_eq_false_iff_not]
  simp only [and_assoc]

theorem scanSegment_ne_ok_of_solution (nBytes : Nat) (hbits : nBytes * 8 ≤ 2 ^ 32) {a g : Nat}
    {m : M} (hsol : SegmentSolution probabPrime calculateMerit targetMerit basePrime adder
      (probablePrimes probabPrime basePrime adder sieve (nBytes * 8)) a g m)
    (hbig : 2 ^ 256 ≤ a + adder + basePrime) (scan : SegmentScan M) :
    scanSegment probabPrime calculateMerit nShift targetMerit basePrime adder sieve nBytes ≠
      .ok scan := by
  have hsorted : (probablePrimes probabPrime basePrime adder sieve (nBytes * 8)).Pairwise (· < ·) :=
    (List.pairwise_lt_range (nBytes * 8)).filter _
  rw [scanSegment_eq _ _ _ _ _ _ _ _ hbits]
  revert hsorted hsol
  generalize probablePrimes probabPrime basePrime adder sieve (nBytes * 8) = pp
  intro hsol hsorted
  cases pp with
  | nil => exact absurd hsol.1 (List.not_mem_nil a)
  | cons b ys =>
    have hmem := (mem_filter_verifiedGaps probabPrime calculateMerit targetMerit basePrime adder
      hsorted (a, g, m)).mpr hsol
    simp only [scanFrom]
    rw [if_neg]
    · exact fun h => nomatch h
    · rw [List.all_eq_true]
      intro hall
      have := hall _ hmem
      simp only [decide_eq_true_eq] at this
      omega

end ScanSpec

structure Miner (M : Type) where
  nThreads : Nat
  nSieveSize : Nat
  smallPrimes : List Nat
  nShift : UInt32
  blockTemplate : BlockHeader
  targetMerit : M

structure MineThread (M : Type) where
  startAdder : Nat
  sieveCycles : Nat := 0
  primesChecked : Nat := 0
  gapMerits : List M := []
  solutions : List (GapcoinMiningResult M) := []

structure Cycle where
  nBytes : Nat
  rng : Nat

theorem bind_eq_ok {ε α β : Type} {x : Except ε α} {f : α → Except ε β} {b : β} :
    x >>= f = .ok b ↔ ∃ a, x = .ok a ∧ f a = .ok b := by
  cases x <;> simp [bind, Except.bind]

theorem foldlM_inv {σ α : Type} (Q : σ → Prop) {f : σ → α → Except String σ}
    (hf : ∀ s x s', f s x = .ok s' → Q s → Q s') :
    ∀ (xs : List α) (s s' : σ), xs.foldlM f s = .ok s' → Q s → Q s' := by
  intro xs
  induction xs with
  | nil => intro s s' h hs; cases h; exact hs
  | cons x xs ih =>
    intro s s' h hs
    rw [List.foldlM_cons] at h
    cases hx : f s x with
    | error e => rw [hx] at h; cases h
    | ok s₁ => rw [hx] at h; exact ih s₁ s' h (hf s x s₁ hx hs)

section Thread

variable {M : Type} [LinearOrder M] (probabPrime : Nat → Nat → Bool)
  (calculateMerit : Nat → Nat → M) (hash : List UInt8 → BitVec 256) (miner : Miner M)
  (threadId : Nat)

def mineCycle (th : MineThread M) (cycle : Cycle) : Except String (MineThread M) := do
  let sieve := sieveSegment miner.smallPrimes th.startAdder miner.nSieveSize fun _ => true
  let scan ← scanSegment probabPrime calculateMerit miner.nShift miner.targetMerit
    (calculateBasePrime hash miner.blockTemplate miner.nShift) th.startAdder sieve
    (min cycle.nBytes miner.nSieveSize)
  match nextStartAdder (rangePerThread miner.nShift.toNat miner.nThreads) threadId miner.nSieveSize
      cycle.rng th.startAdder with
  | none => throw "rng() % 0"
  | some startAdder =>
    pure { startAdder := startAdder
           sieveCycles := th.sieveCycles + 1
           primesChecked := th.primesChecked + scan.localPrimesChecked
           gapMerits := th.gapMerits ++ scan.gapMerits
           solutions := th.solutions ++ scan.solutions }

def mineThread (cycles : List Cycle) : Except String (MineThread M) :=
  cycles.foldlM (mineCycle probabPrime calculateMerit hash miner threadId)
    { startAdder := threadId * rangePerThread miner.nShift.toNat miner.nThreads }

end Thread

section Results

variable {M : Type} [LinearOrder M] (probabPrime : Nat → Nat → Bool)
  (calculateMerit : Nat → Nat → M) (nShift : UInt32) (targetMerit : M) (basePrime adder : Nat)

def ResultInv (r : GapcoinMiningResult M) : Prop :=
  r.nShift = nShift ∧ 10 ≤ r.nGapSize.toNat ∧ basePrime ≤ r.nAdder.toNat

theorem toNat_ofNat_mod (n : Nat) : (UInt32.ofNat (n % 2 ^ 32)).toNat = n % 2 ^ 32 :=
  UInt32.toNat_ofNat_of_lt (Nat.mod_lt _ (by decide))

theorem endGap_results {scan scan' : SegmentScan M} {offset : Nat}
    (h : endGap probabPrime calculateMerit nShift targetMerit basePrime adder scan offset = .ok scan')
    (hs : ∀ r ∈ scan.solutions, ResultInv nShift basePrime r) :
    ∀ r ∈ scan'.solutions, ResultInv nShift basePrime r := by
  unfold endGap at h
  dsimp only at h
  split at h
  · cases h; exact hs
  · split at h
    · cases h; exact hs
    · split at h
      · cases h; exact hs
      · unfold exportAdder at h
        split at h
        · cases h
          intro r hr
          rcases List.mem_append.mp hr with hr | hr
          · exact hs r hr
          · rw [List.mem_singleton.mp hr]
            refine ⟨rfl, ?_, ?_⟩
            · show 10 ≤ (UInt32.ofNat _).toNat
              rw [toNat_ofNat_mod]
              omega
            · show basePrime ≤ (BitVec.ofNat 256 _).toNat
              rw [BitVec.toNat_ofNat, Nat.mod_eq_of_lt ‹_›]
              omega
        · cases h

theorem scanOffset_results {scan scan' : SegmentScan M} {offset : Nat}
    (h : scanOffset probabPrime calculateMerit nShift targetMerit basePrime adder scan offset =
      .ok scan')
    (hs : ∀ r ∈ scan.solutions, ResultInv nShift basePrime r) :
    ∀ r ∈ scan'.solutions, ResultInv nShift basePrime r := by
  unfold scanOffset at h
  split at h
  · dsimp only at h
    split at h <;> obtain ⟨scan₁, h₁, h₂⟩ := bind_eq_ok.mp h <;> cases h₂
    · exact fun r hr => endGap_results probabPrime calculateMerit nShift targetMerit basePrime adder
        h₁ hs r hr
    · cases h₁; exact hs
  · cases h; exact hs

theorem scanSegment_results (sieve : Nat → Bool) (nBytes : Nat) {scan : SegmentScan M}
    (h : scanSegment probabPrime calculateMerit nShift targetMerit basePrime adder sieve nBytes =
      .ok scan) :
    ∀ r ∈ scan.solutions, ResultInv nShift basePrime r := by
  refine foldlM_inv (fun scan : SegmentScan M => ∀ r ∈ scan.solutions, ResultInv nShift basePrime r)
    (fun s byteIdx s' hs' hs => ?_) _ _ _ h (fun _ h => nomatch h)
  refine foldlM_inv (fun scan : SegmentScan M => ∀ r ∈ scan.solutions, ResultInv nShift basePrime r)
    (fun s bit s' hs' hs => ?_) _ _ _ hs' hs
  unfold scanBit at hs'
  split at hs'
  · exact scanOffset_results probabPrime calculateMerit nShift targetMerit basePrime adder hs' hs
  · cases hs'; exact hs

end Results

theorem checkGapcoinProof_adder_too_large {N : Type} [LinearOrder N]
    (hashWithoutSign : BlockHeader → BitVec 256) (merit : MeritArith N) (block : BlockHeader)
    (h14 : 14 ≤ block.nShift.toNat) (hmax : block.nShift.toNat ≤ 65536)
    (hg : 2 ≤ block.nGapSize.toNat) (hadd : 2 ^ block.nShift.toNat ≤ block.nAdder.toNat) :
    checkGapcoinProof hashWithoutSign merit block = .error "gapcoin-adder-too-large" := by
  have hle : maxAdder block ≤ block.nAdder := by
    rw [BitVec.le_def, maxAdder_toNat]
    split <;> omega
  simp [checkGapcoinProof, gapcoinShiftMin, gapcoinShiftMax, hle, Nat.not_lt.mpr hg,
    Nat.not_lt.mpr hmax, Nat.not_lt.mpr h14]

section ThreadResults

variable {M : Type} [LinearOrder M] (probabPrime : Nat → Nat → Bool)
  (calculateMerit : Nat → Nat → M) (hash : List UInt8 → BitVec 256) (miner : Miner M)
  (threadId : Nat)

theorem mineThread_results {cycles : List Cycle} {th : MineThread M}
    (h : mineThread probabPrime calculateMerit hash miner threadId cycles = .ok th) :
    ∀ r ∈ th.solutions,
      ResultInv miner.nShift (calculateBasePrime hash miner.blockTemplate miner.nShift) r := by
  refine foldlM_inv (fun th : MineThread M => ∀ r ∈ th.solutions,
      ResultInv miner.nShift (calculateBasePrime hash miner.blockTemplate miner.nShift) r)
    (fun th cycle th' hc hs => ?_) _ _ _ h (fun _ h => nomatch h)
  obtain ⟨scan, hscan, hnext⟩ := bind_eq_ok.mp hc
  split at hnext
  · cases hnext
  · cases hnext
    intro r hr
    rcases List.mem_append.mp hr with hr | hr
    · exact hs r hr
    · exact scanSegment_results probabPrime calculateMerit _ _ _ _ _ _ hscan r hr

theorem mineThread_solutions_rejected {N : Type} [LinearOrder N]
    (hashWithoutSign : BlockHeader → BitVec 256) (merit : MeritArith N)
    (hhash : hash (basePrimeBytes miner.blockTemplate) ≠ 0) (h14 : 14 ≤ miner.nShift.toNat)
    (hmax : miner.nShift.toNat ≤ 65536) {cycles : List Cycle} {th : MineThread M}
    (h : mineThread probabPrime calculateMerit hash miner threadId cycles = .ok th) :
    ∀ r ∈ th.solutions, r.nShift = miner.nShift ∧ 10 ≤ r.nGapSize.toNat ∧
      calculateBasePrime hash miner.blockTemplate miner.nShift ≤ r.nAdder.toNat ∧
      ∀ header : BlockHeader, checkGapcoinProof hashWithoutSign merit
        { header with nShift := r.nShift, nAdder := r.nAdder, nGapSize := r.nGapSize } =
          .error "gapcoin-adder-too-large" := by
  intro r hr
  obtain ⟨hs, hg, hadd⟩ := mineThread_results probabPrime calculateMerit hash miner threadId h r hr
  have hpos : 0 < (hash (basePrimeBytes miner.blockTemplate)).toNat :=
    Nat.pos_of_ne_zero fun h0 => hhash (BitVec.eq_of_toNat_eq (by simpa using h0))
  refine ⟨hs, hg, hadd, fun header => checkGapcoinProof_adder_too_large _ _ _
    (by simpa [hs] using h14) (by simpa [hs] using hmax) (by simp only; omega) ?_⟩
  calc 2 ^ r.nShift.toNat ≤ (hash (basePrimeBytes miner.blockTemplate)).toNat * 2 ^ r.nShift.toNat :=
        Nat.le_mul_of_pos_left _ hpos
    _ ≤ r.nAdder.toNat := by rw [hs]; exact hadd

theorem mineThread_solutions_rejected_tiny :
    (fun _ => (1 : BitVec 256)) (basePrimeBytes {}) ≠ 0 ∧ 14 ≤ (14 : UInt32).toNat ∧
      (14 : UInt32).toNat ≤ 65536 ∧
      mineThread (M := Nat) (fun n _ => n == 2 ^ 14 + 1 || n == 2 ^ 14 + 13) (fun _ g => g)
        (fun _ => 1) ⟨1, 2, [], 14, {}, 0⟩ 0 [⟨2, 0⟩] =
          .ok { startAdder := 16, sieveCycles := 1, primesChecked := 2, gapMerits := [12],
                solutions := [⟨true, 14, BitVec.ofNat 256 (2 ^ 14 + 1), 12, 12⟩] } ∧
      ∀ r ∈ [(⟨true, 14, BitVec.ofNat 256 (2 ^ 14 + 1), 12, 12⟩ : GapcoinMiningResult Nat)],
        r.nShift = 14 ∧ 10 ≤ r.nGapSize.toNat ∧
        calculateBasePrime (fun _ => 1) {} 14 ≤ r.nAdder.toNat ∧
        ∀ header : BlockHeader, checkGapcoinProof (M := Nat) (fun _ => 0) ⟨fun _ _ => 0, fun _ => 0⟩
          { header with nShift := r.nShift, nAdder := r.nAdder, nGapSize := r.nGapSize } =
            .error "gapcoin-adder-too-large" :=
  have h : mineThread (M := Nat) (fun n _ => n == 2 ^ 14 + 1 || n == 2 ^ 14 + 13) (fun _ g => g)
      (fun _ => 1) ⟨1, 2, [], 14, {}, 0⟩ 0 [⟨2, 0⟩] =
        .ok { startAdder := 16, sieveCycles := 1, primesChecked := 2, gapMerits := [12],
              solutions := [⟨true, 14, BitVec.ofNat 256 (2 ^ 14 + 1), 12, 12⟩] } := rfl
  ⟨by decide, by decide, by decide, h,
    mineThread_solutions_rejected _ _ _ _ _ (fun _ => 0) ⟨fun _ _ => 0, fun _ => 0⟩ (by decide)
      (by decide) (by decide) h⟩

theorem mineCycle_overflows (hsize : miner.nSieveSize * 8 ≤ 2 ^ 32)
    (hbase : 2 ^ 256 ≤ calculateBasePrime hash miner.blockTemplate miner.nShift)
    (th : MineThread M) (cycle : Cycle) {a g : Nat} {m : M}
    (hsol : SegmentSolution probabPrime calculateMerit miner.targetMerit
      (calculateBasePrime hash miner.blockTemplate miner.nShift) th.startAdder
      (probablePrimes probabPrime (calculateBasePrime hash miner.blockTemplate miner.nShift)
        th.startAdder (sieveSegment miner.smallPrimes th.startAdder miner.nSieveSize fun _ => true)
        (min cycle.nBytes miner.nSieveSize * 8)) a g m)
    (th' : MineThread M) :
    mineCycle probabPrime calculateMerit hash miner threadId th cycle ≠ .ok th' := by
  intro h
  obtain ⟨scan, hscan, -⟩ := bind_eq_ok.mp h
  have hbits : min cycle.nBytes miner.nSieveSize * 8 ≤ 2 ^ 32 := by
    have := Nat.min_le_right cycle.nBytes miner.nSieveSize; omega
  exact scanSegment_ne_ok_of_solution probabPrime calculateMerit _ _ _ _ _ _ hbits hsol
    (by omega) scan hscan

theorem mineCycle_overflows_tiny :
    2 * 8 ≤ 2 ^ 32 ∧ 2 ^ 256 ≤ calculateBasePrime (fun _ => BitVec.ofNat 256 (2 ^ 255)) {} 14 ∧
      SegmentSolution (M := Nat)
        (fun n _ => n == 2 ^ 255 * 2 ^ 14 + 1 || n == 2 ^ 255 * 2 ^ 14 + 13) (fun _ g => g) 0
        (calculateBasePrime (fun _ => BitVec.ofNat 256 (2 ^ 255)) {} 14) 0
        (probablePrimes (fun n _ => n == 2 ^ 255 * 2 ^ 14 + 1 || n == 2 ^ 255 * 2 ^ 14 + 13)
          (calculateBasePrime (fun _ => BitVec.ofNat 256 (2 ^ 255)) {} 14) 0
          (sieveSegment [] 0 2 fun _ => true) (min 2 2 * 8)) 1 12 12 ∧
      ∀ th', mineCycle (M := Nat)
        (fun n _ => n == 2 ^ 255 * 2 ^ 14 + 1 || n == 2 ^ 255 * 2 ^ 14 + 13) (fun _ g => g)
        (fun _ => BitVec.ofNat 256 (2 ^ 255)) ⟨1, 2, [], 14, {}, 0⟩ 0 { startAdder := 0 } ⟨2, 0⟩ ≠
          .ok th' := by
  have hbase : 2 ^ 256 ≤ calculateBasePrime (fun _ => BitVec.ofNat 256 (2 ^ 255)) {} 14 := by decide
  have hsol : SegmentSolution (M := Nat)
      (fun n _ => n == 2 ^ 255 * 2 ^ 14 + 1 || n == 2 ^ 255 * 2 ^ 14 + 13)
      (fun _ g => g) 0 (calculateBasePrime (fun _ => BitVec.ofNat 256 (2 ^ 255)) {} 14) 0
      (probablePrimes (fun n _ => n == 2 ^ 255 * 2 ^ 14 + 1 || n == 2 ^ 255 * 2 ^ 14 + 13)
        (calculateBasePrime (fun _ => BitVec.ofNat 256 (2 ^ 255)) {} 14) 0
        (sieveSegment [] 0 2 fun _ => true) (min 2 2 * 8)) 1 12 12 := by
    unfold SegmentSolution; decide
  exact ⟨by decide, hbase, hsol, mineCycle_overflows _ _ _ ⟨1, 2, [], 14, {}, 0⟩ 0 (by decide) hbase
    { startAdder := 0 } ⟨2, 0⟩ hsol⟩

end ThreadResults

end Wattx.GapcoinMineThread
