import Mathlib

/-!
`CalculateNextGapcoinDifficulty` (`consensus/gapcoin_pow.cpp`) over the blocks `pindexPrev` and
its `pprev` links reach, newest first. The walk, the counts and the timespans are exact integers
(`int64_t` division is `Int.tdiv`); the `double` operations are a parameter `DoubleArith`, read
exactly in an ordered field by `fieldArith`.
-/

namespace Wattx.GapcoinDifficulty

structure BlockIndex (M : Type) where
  gapcoinMerit : M
  blockTime : Int
  deriving DecidableEq, Repr

structure DoubleArith (M : Type) where
  zero : M
  add : M → M → M
  div : M → M → M
  mul : M → M → M
  ofInt : Int → M
  ten : M
  hundred : M

def lookback : Nat := 144

def OnSchedule {M : Type} (spacing : Int) (blocks : List (BlockIndex M)) : Prop :=
  blocks.Chain' fun newer older => older.blockTime = newer.blockTime - spacing

instance decidableOnSchedule {M : Type} (spacing : Int) :
    (blocks : List (BlockIndex M)) → Decidable (OnSchedule spacing blocks)
  | [] => isTrue List.chain'_nil
  | [_] => isTrue (List.chain'_singleton _)
  | b :: c :: cs =>
    have := decidableOnSchedule spacing (c :: cs)
    decidable_of_iff (c.blockTime = b.blockTime - spacing ∧ OnSchedule spacing (c :: cs))
      (List.chain'_cons (R := fun newer older : BlockIndex M =>
        older.blockTime = newer.blockTime - spacing)).symm

theorem getLastD_blockTime_of_onSchedule {M : Type} {spacing : Int} :
    ∀ (b : BlockIndex M) (bs : List (BlockIndex M)), OnSchedule spacing (b :: bs) →
      (bs.getLastD b).blockTime = b.blockTime - bs.length * spacing := by
  intro b bs
  induction bs generalizing b with
  | nil => intro _; simp
  | cons c cs ih =>
    intro h
    obtain ⟨hbc, hcs⟩ := List.chain'_cons.mp h
    rw [List.getLastD_cons, ih c hcs, hbc, List.length_cons]
    push_cast
    ring

section Retarget

variable {M : Type} [LinearOrder M] (arith : DoubleArith M)

def lookbackStep (acc : M × Nat × BlockIndex M) (b : BlockIndex M) : M × Nat × BlockIndex M :=
  if arith.zero < b.gapcoinMerit then (arith.add acc.1 b.gapcoinMerit, acc.2.1 + 1, b)
  else (acc.1, acc.2.1, b)

def visited (pindexPrev : BlockIndex M) (ancestors : List (BlockIndex M)) : List (BlockIndex M) :=
  (pindexPrev :: ancestors).take lookback

def lookbackLoop (pindexPrev : BlockIndex M) (ancestors : List (BlockIndex M)) :
    M × Nat × BlockIndex M :=
  (visited pindexPrev ancestors).foldl (lookbackStep arith) (arith.zero, 0, pindexPrev)

def clampTimespan (actualTimespan targetTimespan : Int) : Int :=
  let actualTimespan := if actualTimespan < targetTimespan.tdiv 4 then targetTimespan.tdiv 4
    else actualTimespan
  if targetTimespan * 4 < actualTimespan then targetTimespan * 4 else actualTimespan

def clampDifficulty (newDifficulty : M) : M :=
  let newDifficulty := if newDifficulty < arith.ten then arith.ten else newDifficulty
  if arith.hundred < newDifficulty then arith.hundred else newDifficulty

def retargetTimespans (powTargetSpacing : Int) (pindexPrev pindexFirst : BlockIndex M)
    (validBlocks : Nat) : Int × Int :=
  let targetTimespan := validBlocks * powTargetSpacing
  (clampTimespan (pindexPrev.blockTime - pindexFirst.blockTime) targetTimespan, targetTimespan)

def calculateNextGapcoinDifficulty (gapcoinInitialDifficulty : M) (powTargetSpacing : Int) :
    Option (BlockIndex M × List (BlockIndex M)) → M
  | none => gapcoinInitialDifficulty
  | some (pindexPrev, ancestors) =>
    let (totalMerit, validBlocks, pindexFirst) := lookbackLoop arith pindexPrev ancestors
    if validBlocks = 0 then gapcoinInitialDifficulty
    else
      let (actualTimespan, targetTimespan) :=
        retargetTimespans powTargetSpacing pindexPrev pindexFirst validBlocks
      let avgMerit := arith.div totalMerit (arith.ofInt validBlocks)
      let adjustment := arith.div (arith.ofInt actualTimespan) (arith.ofInt targetTimespan)
      clampDifficulty arith (arith.mul avgMerit adjustment)

def meritSum (blocks : List (BlockIndex M)) : M :=
  (blocks.filter fun b => arith.zero < b.gapcoinMerit).foldl (fun t b => arith.add t b.gapcoinMerit)
    arith.zero

def validCount (blocks : List (BlockIndex M)) : Nat :=
  blocks.countP fun b => arith.zero < b.gapcoinMerit

theorem foldl_lookbackStep (blocks : List (BlockIndex M)) (t : M) (v : Nat) (f : BlockIndex M) :
    blocks.foldl (lookbackStep arith) (t, v, f) =
      ((blocks.filter fun b => arith.zero < b.gapcoinMerit).foldl
          (fun t b => arith.add t b.gapcoinMerit) t,
        v + validCount arith blocks, blocks.getLastD f) := by
  induction blocks generalizing t v f with
  | nil => rfl
  | cons b blocks ih =>
    rw [List.foldl_cons, lookbackStep]
    by_cases hb : arith.zero < b.gapcoinMerit
    · simp only [hb, if_true, ih, List.filter_cons, decide_True, List.foldl_cons, validCount,
        List.countP_cons, List.getLastD_cons, Prod.mk.injEq, true_and, and_true]
      omega
    · simp only [hb, if_false, ih, List.filter_cons, decide_False, Bool.false_eq_true, validCount,
        List.countP_cons, List.getLastD_cons, Nat.add_zero]

theorem lookbackLoop_eq (pindexPrev : BlockIndex M) (ancestors : List (BlockIndex M)) :
    lookbackLoop arith pindexPrev ancestors =
      (meritSum arith (visited pindexPrev ancestors), validCount arith (visited pindexPrev ancestors),
        (visited pindexPrev ancestors).getLastD pindexPrev) := by
  rw [lookbackLoop, foldl_lookbackStep, Nat.zero_add, meritSum]

theorem lookbackLoop_on_schedule {spacing : Int} {pindexPrev : BlockIndex M}
    {ancestors : List (BlockIndex M)} (h : OnSchedule spacing (pindexPrev :: ancestors)) :
    pindexPrev.blockTime - (lookbackLoop arith pindexPrev ancestors).2.2.blockTime =
      ((visited pindexPrev ancestors).length - 1 : Nat) * spacing := by
  have hv : visited pindexPrev ancestors = pindexPrev :: ancestors.take (lookback - 1) := rfl
  have hs : OnSchedule spacing (pindexPrev :: ancestors.take (lookback - 1)) := by
    simpa only [hv] using List.Chain'.take h lookback
  rw [lookbackLoop_eq, hv, List.getLastD_cons, getLastD_blockTime_of_onSchedule _ _ hs,
    List.length_cons, Nat.add_sub_cancel]
  ring

theorem clampTimespan_of_le {actualTimespan targetTimespan : Int}
    (h1 : targetTimespan.tdiv 4 ≤ actualTimespan) (h2 : actualTimespan ≤ targetTimespan * 4) :
    clampTimespan actualTimespan targetTimespan = actualTimespan := by
  simp [clampTimespan, Int.not_lt.mpr h1, Int.not_lt.mpr h2]

theorem clampTimespan_pred_mul {k : Nat} {spacing : Int} (hk : 2 ≤ k) (hs : 0 < spacing) :
    clampTimespan ((k - 1 : Nat) * spacing) (k * spacing) = (k - 1 : Nat) * spacing := by
  obtain ⟨j, rfl⟩ : ∃ j, k = j + 2 := ⟨k - 2, by omega⟩
  have hj : 0 ≤ (j : Int) * spacing := mul_nonneg (Int.natCast_nonneg j) hs.le
  have hq : ((j + 2 : Nat) * spacing : Int).tdiv 4 = ((j + 2 : Nat) * spacing : Int) / 4 :=
    Int.tdiv_eq_ediv (mul_nonneg (Int.natCast_nonneg _) hs.le) (by norm_num)
  rw [show j + 2 - 1 = j + 1 by omega]
  push_cast at hq ⊢
  simp only [add_mul, one_mul] at hq ⊢
  exact clampTimespan_of_le (by rw [hq]; omega) (by omega)

theorem calculateNextGapcoinDifficulty_eq (gapcoinInitialDifficulty : M) {spacing : Int}
    {pindexPrev : BlockIndex M} {ancestors : List (BlockIndex M)}
    (h : OnSchedule spacing (pindexPrev :: ancestors))
    (hv : 0 < validCount arith (visited pindexPrev ancestors)) :
    calculateNextGapcoinDifficulty arith gapcoinInitialDifficulty spacing
        (some (pindexPrev, ancestors)) =
      clampDifficulty arith (arith.mul
        (arith.div (meritSum arith (visited pindexPrev ancestors))
          (arith.ofInt (validCount arith (visited pindexPrev ancestors))))
        (arith.div
          (arith.ofInt (clampTimespan (((visited pindexPrev ancestors).length - 1 : Nat) * spacing)
            (validCount arith (visited pindexPrev ancestors) * spacing)))
          (arith.ofInt (validCount arith (visited pindexPrev ancestors) * spacing)))) := by
  have hspan := lookbackLoop_on_schedule arith h
  rw [lookbackLoop_eq] at hspan
  rw [calculateNextGapcoinDifficulty, lookbackLoop_eq]
  simp only [Nat.pos_iff_ne_zero.mp hv, if_false, retargetTimespans, hspan]

end Retarget

section Exact

variable {K : Type} [LinearOrderedField K]

/-- The `double` operations read exactly in an ordered field. -/
def fieldArith (K : Type) [LinearOrderedField K] : DoubleArith K where
  zero := 0
  add a b := a + b
  div a b := a / b
  mul a b := a * b
  ofInt n := n
  ten := 10
  hundred := 100

@[simp] theorem fieldArith_mul (a b : K) : (fieldArith K).mul a b = a * b := rfl

@[simp] theorem fieldArith_div (a b : K) : (fieldArith K).div a b = a / b := rfl

@[simp] theorem fieldArith_ofInt (n : Int) : (fieldArith K).ofInt n = n := rfl

theorem ten_pos : (0 : K) < 10 := by norm_num

theorem clampDifficulty_lt {x a : K} (hx : x < a) (ha : 10 < a) :
    clampDifficulty (fieldArith K) x < a := by
  have h100 : ¬(100 : K) < 10 := by norm_num
  simp only [clampDifficulty, fieldArith]
  split_ifs with hlo hhi
  · exact ha
  · exact hhi.trans hx
  · exact hx

theorem clampDifficulty_of_lt_ten {x : K} (hx : x < 10) : clampDifficulty (fieldArith K) x = 10 := by
  simp only [clampDifficulty, fieldArith, if_pos hx]
  rw [if_neg (by norm_num)]

theorem ratio_pred_mul {k : Nat} {spacing : Int} (hk : 1 ≤ k) (hs : 0 < spacing) :
    (((k - 1 : Nat) * spacing : Int) : K) / ((k * spacing : Int) : K) = ((k : K) - 1) / k := by
  have hs' : (spacing : K) ≠ 0 := by exact_mod_cast hs.ne'
  push_cast [Nat.cast_sub hk]
  exact mul_div_mul_right _ _ hs'

theorem calculateNextGapcoinDifficulty_on_schedule (gapcoinInitialDifficulty : K) {spacing : Int}
    {pindexPrev : BlockIndex K} {ancestors : List (BlockIndex K)}
    (h : OnSchedule spacing (pindexPrev :: ancestors))
    (hv : 0 < validCount (fieldArith K) (visited pindexPrev ancestors)) :
    calculateNextGapcoinDifficulty (fieldArith K) gapcoinInitialDifficulty spacing
        (some (pindexPrev, ancestors)) =
      clampDifficulty (fieldArith K)
        (meritSum (fieldArith K) (visited pindexPrev ancestors) /
            validCount (fieldArith K) (visited pindexPrev ancestors) *
          (((clampTimespan (((visited pindexPrev ancestors).length - 1 : Nat) * spacing)
              (validCount (fieldArith K) (visited pindexPrev ancestors) * spacing) : Int) : K) /
            ((validCount (fieldArith K) (visited pindexPrev ancestors) * spacing : Int) : K))) ∧
    (validCount (fieldArith K) (visited pindexPrev ancestors) = (visited pindexPrev ancestors).length →
      2 ≤ (visited pindexPrev ancestors).length → 0 < spacing →
      calculateNextGapcoinDifficulty (fieldArith K) gapcoinInitialDifficulty spacing
          (some (pindexPrev, ancestors)) =
        clampDifficulty (fieldArith K)
          (meritSum (fieldArith K) (visited pindexPrev ancestors) / (visited pindexPrev ancestors).length *
            (((visited pindexPrev ancestors).length - 1) / (visited pindexPrev ancestors).length)) ∧
      (10 < meritSum (fieldArith K) (visited pindexPrev ancestors) / (visited pindexPrev ancestors).length →
        calculateNextGapcoinDifficulty (fieldArith K) gapcoinInitialDifficulty spacing
            (some (pindexPrev, ancestors)) <
          meritSum (fieldArith K) (visited pindexPrev ancestors) / (visited pindexPrev ancestors).length) ∧
      (meritSum (fieldArith K) (visited pindexPrev ancestors) / (visited pindexPrev ancestors).length ≤ 10 →
        calculateNextGapcoinDifficulty (fieldArith K) gapcoinInitialDifficulty spacing
            (some (pindexPrev, ancestors)) = 10)) := by
  have heq := calculateNextGapcoinDifficulty_eq (fieldArith K) gapcoinInitialDifficulty h hv
  refine ⟨by simpa only [fieldArith_mul, fieldArith_div, fieldArith_ofInt, Int.cast_natCast] using heq,
    fun hall hk hs => ?_⟩
  rw [hall, clampTimespan_pred_mul hk hs] at heq
  simp only [fieldArith_mul, fieldArith_div, fieldArith_ofInt, Int.cast_natCast] at heq
  rw [ratio_pred_mul (by omega) hs] at heq
  generalize (visited pindexPrev ancestors).length = k at hk heq ⊢
  generalize meritSum (fieldArith K) (visited pindexPrev ancestors) / (k : K) = avg at heq ⊢
  have hk0 : (0 : K) < k := by exact_mod_cast (show 0 < k by omega)
  have hr0 : 0 ≤ ((k : K) - 1) / k :=
    div_nonneg (sub_nonneg.mpr (by exact_mod_cast (show 1 ≤ k by omega))) hk0.le
  have hr1 : ((k : K) - 1) / k < 1 := (div_lt_one hk0).mpr (sub_lt_self _ one_pos)
  refine ⟨heq, fun ha => heq ▸ clampDifficulty_lt (mul_lt_of_lt_one_right (lt_trans ten_pos ha) hr1) ha,
    fun ha => heq ▸ clampDifficulty_of_lt_ten
      ((mul_le_mul_of_nonneg_right ha hr0).trans_lt (mul_lt_of_lt_one_right ten_pos hr1))⟩

theorem calculateNextGapcoinDifficulty_on_schedule_three_blocks :
    OnSchedule 600 [⟨20, 1200⟩, ⟨20, 600⟩, ⟨(20 : ℚ), 0⟩] ∧
      0 < validCount (fieldArith ℚ) (visited ⟨20, 1200⟩ [⟨20, 600⟩, ⟨20, 0⟩]) ∧
      (calculateNextGapcoinDifficulty (fieldArith ℚ) 20 600 (some (⟨20, 1200⟩, [⟨20, 600⟩, ⟨20, 0⟩])) =
        clampDifficulty (fieldArith ℚ)
          (meritSum (fieldArith ℚ) (visited ⟨20, 1200⟩ [⟨20, 600⟩, ⟨20, 0⟩]) /
              validCount (fieldArith ℚ) (visited ⟨20, 1200⟩ [⟨20, 600⟩, ⟨20, 0⟩]) *
            (((clampTimespan (((visited ⟨20, 1200⟩ [⟨20, 600⟩, ⟨(20 : ℚ), 0⟩]).length - 1 : Nat) * 600)
                (validCount (fieldArith ℚ) (visited ⟨20, 1200⟩ [⟨20, 600⟩, ⟨20, 0⟩]) * 600) : Int) : ℚ) /
              ((validCount (fieldArith ℚ) (visited ⟨20, 1200⟩ [⟨20, 600⟩, ⟨20, 0⟩]) * 600 : Int) : ℚ)))) ∧
      (validCount (fieldArith ℚ) (visited ⟨20, 1200⟩ [⟨20, 600⟩, ⟨20, 0⟩]) =
          (visited ⟨20, 1200⟩ [⟨20, 600⟩, ⟨(20 : ℚ), 0⟩]).length →
        2 ≤ (visited ⟨20, 1200⟩ [⟨20, 600⟩, ⟨(20 : ℚ), 0⟩]).length → (0 : Int) < 600 →
        calculateNextGapcoinDifficulty (fieldArith ℚ) 20 600 (some (⟨20, 1200⟩, [⟨20, 600⟩, ⟨20, 0⟩])) =
          clampDifficulty (fieldArith ℚ)
            (meritSum (fieldArith ℚ) (visited ⟨20, 1200⟩ [⟨20, 600⟩, ⟨20, 0⟩]) /
                (visited ⟨20, 1200⟩ [⟨20, 600⟩, ⟨(20 : ℚ), 0⟩]).length *
              (((visited ⟨20, 1200⟩ [⟨20, 600⟩, ⟨(20 : ℚ), 0⟩]).length - 1) /
                (visited ⟨20, 1200⟩ [⟨20, 600⟩, ⟨(20 : ℚ), 0⟩]).length)) ∧
        (10 < meritSum (fieldArith ℚ) (visited ⟨20, 1200⟩ [⟨20, 600⟩, ⟨20, 0⟩]) /
            (visited ⟨20, 1200⟩ [⟨20, 600⟩, ⟨(20 : ℚ), 0⟩]).length →
          calculateNextGapcoinDifficulty (fieldArith ℚ) 20 600 (some (⟨20, 1200⟩, [⟨20, 600⟩, ⟨20, 0⟩])) <
            meritSum (fieldArith ℚ) (visited ⟨20, 1200⟩ [⟨20, 600⟩, ⟨20, 0⟩]) /
              (visited ⟨20, 1200⟩ [⟨20, 600⟩, ⟨(20 : ℚ), 0⟩]).length) ∧
        (meritSum (fieldArith ℚ) (visited ⟨20, 1200⟩ [⟨20, 600⟩, ⟨20, 0⟩]) /
            (visited ⟨20, 1200⟩ [⟨20, 600⟩, ⟨(20 : ℚ), 0⟩]).length ≤ 10 →
          calculateNextGapcoinDifficulty (fieldArith ℚ) 20 600 (some (⟨20, 1200⟩, [⟨20, 600⟩, ⟨20, 0⟩])) =
            10)) :=
  have h : OnSchedule 600 [⟨20, 1200⟩, ⟨20, 600⟩, ⟨(20 : ℚ), 0⟩] := by decide
  have hv : 0 < validCount (fieldArith ℚ) (visited ⟨20, 1200⟩ [⟨20, 600⟩, ⟨20, 0⟩]) := by decide
  ⟨h, hv, calculateNextGapcoinDifficulty_on_schedule 20 h hv⟩

end Exact

end Wattx.GapcoinDifficulty
