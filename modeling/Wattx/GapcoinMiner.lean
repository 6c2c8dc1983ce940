import Wattx.GapcoinSieve

/-!
The threads of `GapcoinMiner`, the adders each examines, and the parameters the
`startgapcoinmining` RPC gives them, in the build of `node/gapcoin_miner.cpp` (a range
`2 ^ min(shift, 32) / m_nThreads` per thread) and in the OpenCL build (segments of
`m_nSieveSize * 8` adders with a stride, in `uint64_t`).
-/

namespace Wattx.GapcoinMiner

def minerThreads (hardwareConcurrency nThreads : Nat) : Nat :=
  if (if nThreads = 0 then hardwareConcurrency else nThreads) = 0 then 1
  else if nThreads = 0 then hardwareConcurrency else nThreads

structure StartRequest where
  threads : Option Int
  shift : Option Int
  deriving DecidableEq, Repr

inductive RpcError
  | intOutOfRange
  | invalidParameter (message : String)
  deriving DecidableEq, Repr

def getIntInt (v : Int) : Except RpcError Int :=
  if -2 ^ 31 ≤ v ∧ v < 2 ^ 31 then .ok v else .error .intOutOfRange

def parseThreads : Option Int → Except RpcError Nat
  | none => pure 0
  | some v => do
    let n ← getIntInt v
    pure (n % 2 ^ 32).toNat

def parseShift : Option Int → Except RpcError Nat
  | none => pure 25
  | some v => do
    let n ← getIntInt v
    if (n % 2 ^ 32).toNat < 14 ∨ 65536 < (n % 2 ^ 32).toNat then
      throw (.invalidParameter "Shift must be between 14 and 65536")
    else pure (n % 2 ^ 32).toNat

def startGapcoinMiningParams (request : StartRequest) : Except RpcError (Nat × Nat) := do
  let nThreads ← parseThreads request.threads
  let nShift ← parseShift request.shift
  pure (nThreads, nShift)

theorem parseShift_ok {param : Option Int} {nShift : Nat} (h : parseShift param = .ok nShift) :
    14 ≤ nShift ∧ nShift ≤ 65536 := by
  cases param with
  | none => cases h; decide
  | some v =>
    by_cases hv : -2 ^ 31 ≤ v ∧ v < 2 ^ 31
    · rw [parseShift, show getIntInt v = .ok v from if_pos hv] at h
      dsimp only [bind, Except.bind] at h
      split_ifs at h
      cases h
      omega
    · rw [parseShift, show getIntInt v = .error .intOutOfRange from if_neg hv] at h
      cases h

theorem startGapcoinMiningParams_shift {request : StartRequest} {nThreads nShift : Nat}
    (h : startGapcoinMiningParams request = .ok (nThreads, nShift)) :
    14 ≤ nShift ∧ nShift ≤ 65536 := by
  simp only [startGapcoinMiningParams, bind, Except.bind] at h
  split at h
  · cases h
  · split at h
    · cases h
    · cases h
      exact parseShift_ok ‹_›

def rangePerThread (nShift nThreads : Nat) : Nat :=
  2 ^ (if nShift > 32 then 32 else nShift) / nThreads

def nextStartAdder (rangePerThread threadId sieveSize rng startAdder : Nat) : Option Nat :=
  if rangePerThread * (threadId + 1) ≤ (startAdder + sieveSize * 8) % 2 ^ 64 then
    if rangePerThread = 0 then none
    else some (threadId * rangePerThread + rng % rangePerThread)
  else some ((startAdder + sieveSize * 8) % 2 ^ 64)

theorem rangePerThread_eq_zero_iff (nShift : Nat) {nThreads : Nat} (h : 0 < nThreads) :
    rangePerThread nShift nThreads = 0 ↔ 2 ^ min nShift 32 < nThreads := by
  rw [rangePerThread, Nat.div_eq_zero_iff h]
  split <;> rename_i hs
  · rw [min_eq_right (by omega)]
  · rw [min_eq_left (by omega)]

theorem minerThreads_pos (hardwareConcurrency nThreads : Nat) :
    0 < minerThreads hardwareConcurrency nThreads := by
  unfold minerThreads
  split_ifs <;> omega

theorem rangePerThread_zero_of_threads (hardwareConcurrency : Nat) {request : StartRequest}
    {nThreads nShift : Nat} (h : startGapcoinMiningParams request = .ok (nThreads, nShift)) :
    14 ≤ nShift ∧ nShift ≤ 65536 ∧
      (rangePerThread nShift (minerThreads hardwareConcurrency nThreads) = 0 ↔
        2 ^ min nShift 32 < minerThreads hardwareConcurrency nThreads) ∧
      (2 ^ min nShift 32 < minerThreads hardwareConcurrency nThreads → ∀ threadId sieveSize rng,
        nextStartAdder (rangePerThread nShift (minerThreads hardwareConcurrency nThreads)) threadId
          sieveSize rng (threadId * rangePerThread nShift (minerThreads hardwareConcurrency nThreads))
          = none) := by
  have hiff := rangePerThread_eq_zero_iff nShift (minerThreads_pos hardwareConcurrency nThreads)
  refine ⟨(startGapcoinMiningParams_shift h).1, (startGapcoinMiningParams_shift h).2, hiff,
    fun hlt threadId sieveSize rng => ?_⟩
  rw [hiff.mpr hlt, nextStartAdder, Nat.mul_zero, Nat.zero_mul, if_pos (Nat.zero_le _), if_pos rfl]

theorem rangePerThread_zero_of_threads_16385 :
    startGapcoinMiningParams ⟨some 16385, some 14⟩ = .ok (16385, 14) ∧
      rangePerThread 14 (minerThreads 8 16385) = 0 ∧
      nextStartAdder (rangePerThread 14 (minerThreads 8 16385)) 0 4194304 0
        (0 * rangePerThread 14 (minerThreads 8 16385)) = none :=
  have h : startGapcoinMiningParams ⟨some 16385, some 14⟩ = .ok (16385, 14) := rfl
  ⟨h, (rangePerThread_zero_of_threads 8 h).2.2.1.mpr (by decide),
    (rangePerThread_zero_of_threads 8 h).2.2.2 (by decide) 0 4194304 0⟩

def adderBaseAfter (adderBase adderIncrement : Nat) (cycles : Nat) : Nat :=
  (fun a => (a + adderIncrement % 2 ^ 64) % 2 ^ 64)^[cycles] (adderBase % 2 ^ 64)

def cpuAdderBase (nThreads sieveSize threadId cycles : Nat) : Nat :=
  adderBaseAfter (threadId * (sieveSize * 8)) (nThreads * (sieveSize * 8)) cycles

def gpuAdderBase (nThreads gpuCount sieveSize gpuIndex cycles : Nat) : Nat :=
  adderBaseAfter ((nThreads + gpuIndex) * (sieveSize * 8)) ((nThreads + gpuCount) * (sieveSize * 8))
    cycles

theorem adderBaseAfter_eq (adderBase adderIncrement cycles : Nat) :
    adderBaseAfter adderBase adderIncrement cycles = (adderBase + cycles * adderIncrement) % 2 ^ 64 := by
  induction cycles with
  | zero => simp [adderBaseAfter]
  | succ k ih =>
    rw [adderBaseAfter, Function.iterate_succ_apply', ← adderBaseAfter, ih, Nat.add_mod_mod,
      Nat.mod_add_mod, Nat.succ_mul, Nat.add_assoc]

theorem workers_share_adders :
    (∀ nThreads gpuCount sieveSize gpuIndex, 0 < nThreads →
      gpuIndex % nThreads < nThreads ∧
        cpuAdderBase nThreads sieveSize (gpuIndex % nThreads) (1 + gpuIndex / nThreads) =
          gpuAdderBase nThreads gpuCount sieveSize gpuIndex 0) ∧
      (∀ nShift nThreads sieveSize threadId,
        rangePerThread nShift nThreads < sieveSize * 8 →
          threadId * rangePerThread nShift nThreads ≤ (threadId + 1) * rangePerThread nShift nThreads ∧
            (threadId + 1) * rangePerThread nShift nThreads <
              threadId * rangePerThread nShift nThreads + sieveSize * 8) ∧
      ∀ nThreads sieveSize, cpuAdderBase nThreads sieveSize 0 0 = 0 := by
  refine ⟨fun nThreads gpuCount sieveSize gpuIndex hT => ⟨Nat.mod_lt _ hT, ?_⟩,
    fun nShift nThreads sieveSize threadId h => ⟨Nat.mul_le_mul_right _ (Nat.le_succ _), ?_⟩,
    fun nThreads sieveSize => by simp [cpuAdderBase, adderBaseAfter_eq]⟩
  · rw [cpuAdderBase, gpuAdderBase, adderBaseAfter_eq, adderBaseAfter_eq, Nat.zero_mul, Nat.add_zero]
    congr 1
    have h := Nat.mod_add_div gpuIndex nThreads
    set r := gpuIndex % nThreads
    set q := gpuIndex / nThreads
    rw [← h]
    ring
  · rw [Nat.succ_mul]; omega

theorem workers_share_adders_defaults :
    cpuAdderBase 1 33554432 0 1 = gpuAdderBase 1 1 33554432 0 0 ∧
      cpuAdderBase 1 33554432 0 0 = 0 ∧ 2 ^ 25 < 33554432 * 8 :=
  ⟨(workers_share_adders.1 1 1 33554432 0 (by decide)).2, workers_share_adders.2.2 1 33554432,
    by decide⟩

end Wattx.GapcoinMiner
