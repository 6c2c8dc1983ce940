import Wattx.GapcoinMiner
import Wattx.GapcoinProof
import Wattx.Stratum

/-!
`MiningLoop` of the OpenCL build's `rpc/gapcoin_mining.cpp`: pass after pass for up to a minute,
the first nonce below `0x1000000` whose `GetHash()` (a parameter `getHash`) is within
`SetCompact(nBits)` is handed to `ProcessNewBlock`. What the environment answers (templates, the
clock, how far a pass gets while `g_mining_active` holds, `ProcessNewBlock`'s verdict) is the
input of a run.
-/

namespace Wattx.GapcoinMiningLoop

open Block GapcoinProof GapcoinMiner

structure Pass where
  checkTime : Int
  time : Int
  activeNonces : Nat
  accepted : Bool
  newBlock : Bool
  deriving DecidableEq, Repr

structure Round where
  template : Option BlockHeader
  startTime : Int
  passes : List Pass
  deriving DecidableEq, Repr

structure LoopState where
  submitted : List BlockHeader := []
  blocksFound : Nat := 0
  deriving DecidableEq, Repr

inductive StartError
  | miscError (message : String)
  | rpc (e : RpcError)
  deriving DecidableEq, Repr

def startGapcoinMiningLoop (miningActive : Bool) (hardwareConcurrency : Nat)
    (request : StartRequest) : Except StartError (Nat × Nat) :=
  if miningActive then
    throw (.miscError "Mining is already active. Stop it first with stopgapcoinmining.")
  else
    match parseThreads request.threads, parseShift request.shift with
    | .error e, _ => throw (.rpc e)
    | .ok _, .error e => throw (.rpc e)
    | .ok nThreads, .ok nShift => pure (if nThreads = 0 then hardwareConcurrency else nThreads, nShift)

theorem startGapcoinMiningLoop_shift {miningActive : Bool} {hardwareConcurrency : Nat}
    {request : StartRequest} {nThreads nShift : Nat}
    (h : startGapcoinMiningLoop miningActive hardwareConcurrency request = .ok (nThreads, nShift)) :
    14 ≤ nShift ∧ nShift ≤ 65536 := by
  unfold startGapcoinMiningLoop at h
  split at h
  · cases h
  · split at h
    · cases h
    · cases h
    · cases h
      exact parseShift_ok ‹_›

def toUInt32 (t : Int) : UInt32 := (t % 2 ^ 32).toNat.toUInt32

section Loop

variable (getHash : BlockHeader → BitVec 256)

def nonceLoop (hashTarget : BitVec 256) (block : BlockHeader) : Nat → Nat → Option BlockHeader
  | 0, _ => none
  | fuel + 1, nonce =>
    let block := { block with nNonce := nonce.toUInt32 }
    if (getHash block).toNat ≤ hashTarget.toNat then some block
    else nonceLoop hashTarget block fuel (nonce + 1)

def minePasses (hashTarget : BitVec 256) (startTime : Int) (block : BlockHeader) :
    List Pass → LoopState → LoopState
  | [], st => st
  | pass :: passes, st =>
    if 60 ≤ pass.checkTime - startTime % 2 ^ 32 then st
    else
      match nonceLoop getHash hashTarget { block with nTime := toUInt32 pass.time }
          (min 0x1000000 pass.activeNonces) 0 with
      | none => minePasses hashTarget startTime block passes st
      | some found =>
        let st := { st with submitted := st.submitted ++ [found] }
        if pass.accepted then
          { st with blocksFound := st.blocksFound + if pass.newBlock then 1 else 0 }
        else minePasses hashTarget startTime block passes st

def mineRound (nShift : UInt32) (st : LoopState) (round : Round) : LoopState :=
  match round.template with
  | none => st
  | some template =>
    let block := { template with nShift := nShift, nAdder := 0, nGapSize := 0 }
    minePasses getHash (Stratum.setCompact block.nBits) round.startTime block round.passes st

def miningLoop (nShift : UInt32) (rounds : List Round) : LoopState :=
  rounds.foldl (mineRound getHash nShift) {}

theorem nonceLoop_eq_some {hashTarget : BitVec 256} :
    ∀ fuel nonce (block found : BlockHeader),
      nonceLoop getHash hashTarget block fuel nonce = some found →
        ∃ k, nonce ≤ k ∧ k < nonce + fuel ∧ found = { block with nNonce := k.toUInt32 } ∧
          (getHash found).toNat ≤ hashTarget.toNat ∧
          ∀ j, nonce ≤ j → j < k →
            hashTarget.toNat < (getHash { block with nNonce := j.toUInt32 }).toNat := by
  intro fuel
  induction fuel with
  | zero => intro _ _ _ h; cases h
  | succ fuel ih =>
    intro nonce block found h
    rw [nonceLoop] at h
    split at h
    · cases h
      exact ⟨nonce, le_rfl, by omega, rfl, ‹_›, fun j h1 h2 => absurd h2 (by omega)⟩
    · obtain ⟨k, hk1, hk2, rfl, hle, hlt⟩ := ih (nonce + 1) _ found h
      refine ⟨k, by omega, by omega, rfl, hle, fun j h1 h2 => ?_⟩
      rcases Nat.eq_or_lt_of_le h1 with rfl | h1
      · exact Nat.lt_of_not_le ‹_›
      · exact hlt j h1 h2

def Submitted (nShift : UInt32) (b : BlockHeader) : Prop :=
  b.nShift = nShift ∧ b.nAdder = 0 ∧ b.nGapSize = 0 ∧ b.nNonce.toNat < 0x1000000 ∧
    (getHash b).toNat ≤ (Stratum.setCompact b.nBits).toNat ∧
    ∀ j < b.nNonce.toNat,
      (Stratum.setCompact b.nBits).toNat < (getHash { b with nNonce := j.toUInt32 }).toNat

theorem nonceLoop_submitted {nShift : UInt32} {template found : BlockHeader} {time : UInt32}
    {fuel : Nat}
    (h : nonceLoop getHash
      (Stratum.setCompact { template with nShift := nShift, nAdder := 0, nGapSize := 0 }.nBits)
      { { template with nShift := nShift, nAdder := 0, nGapSize := 0 } with nTime := time }
      (min 0x1000000 fuel) 0 = some found) :
    Submitted getHash nShift found := by
  obtain ⟨k, -, hk, rfl, hle, hlt⟩ := nonceLoop_eq_some getHash _ 0 _ found h
  have hk' : k < 0x1000000 := by have := Nat.min_le_left 0x1000000 fuel; omega
  have hkn : k.toUInt32.toNat = k := UInt32.toNat_ofNat_of_lt (by simp only [UInt32.size]; omega)
  refine ⟨rfl, rfl, rfl, by rw [hkn]; exact hk', hle, fun j hj => ?_⟩
  rw [hkn] at hj
  exact hlt j (Nat.zero_le j) hj

theorem minePasses_submitted (nShift : UInt32) (template : BlockHeader) (startTime : Int) :
    ∀ (passes : List Pass) (st : LoopState), (∀ b ∈ st.submitted, Submitted getHash nShift b) →
      ∀ b ∈ (minePasses getHash
        (Stratum.setCompact { template with nShift := nShift, nAdder := 0, nGapSize := 0 }.nBits)
        startTime { template with nShift := nShift, nAdder := 0, nGapSize := 0 } passes st).submitted,
        Submitted getHash nShift b := by
  intro passes
  induction passes with
  | nil => intro st hst; exact hst
  | cons pass passes ih =>
    intro st hst
    rw [minePasses]
    split
    · exact hst
    · split
      · exact ih st hst
      · rename_i found hfound
        have hst' : ∀ b ∈ (st.submitted ++ [found]), Submitted getHash nShift b := fun b hb => by
          rcases List.mem_append.mp hb with hb | hb
          · exact hst b hb
          · rw [List.mem_singleton.mp hb]; exact nonceLoop_submitted getHash hfound
        split
        · exact hst'
        · exact ih _ hst'

theorem miningLoop_submitted (nShift : UInt32) (rounds : List Round) :
    ∀ b ∈ (miningLoop getHash nShift rounds).submitted, Submitted getHash nShift b := by
  suffices h : ∀ (rounds : List Round) (st : LoopState),
      (∀ b ∈ st.submitted, Submitted getHash nShift b) →
        ∀ b ∈ (rounds.foldl (mineRound getHash nShift) st).submitted, Submitted getHash nShift b from
    h rounds {} fun b hb => absurd hb (List.not_mem_nil b)
  intro rounds
  induction rounds with
  | nil => intro st hst; exact hst
  | cons round rounds ih =>
    intro st hst
    refine ih _ ?_
    unfold mineRound
    split
    · exact hst
    · exact minePasses_submitted getHash nShift _ _ _ _ hst

theorem miningLoop_rejected {N : Type} [LinearOrder N] (hashWithoutSign : BlockHeader → BitVec 256)
    (merit : MeritArith N) {miningActive : Bool} {hardwareConcurrency : Nat} {request : StartRequest}
    {nThreads nShift : Nat}
    (h : startGapcoinMiningLoop miningActive hardwareConcurrency request = .ok (nThreads, nShift))
    (rounds : List Round) :
    ∀ b ∈ (miningLoop getHash nShift.toUInt32 rounds).submitted,
      Submitted getHash nShift.toUInt32 b ∧
        checkGapcoinProof hashWithoutSign merit b = .error "gapcoin-gap-too-small" := by
  intro b hb
  have hsub := miningLoop_submitted getHash nShift.toUInt32 rounds b hb
  obtain ⟨h14, hmax⟩ := startGapcoinMiningLoop_shift h
  have hshift : b.nShift.toNat = nShift := by
    rw [hsub.1]; exact UInt32.toNat_ofNat_of_lt (by simp only [UInt32.size]; omega)
  refine ⟨hsub, ?_⟩
  simp [checkGapcoinProof, gapcoinShiftMin, gapcoinShiftMax, hshift, hsub.2.2.1,
    Nat.not_lt.mpr h14, Nat.not_lt.mpr hmax]

theorem miningLoop_rejected_default :
    startGapcoinMiningLoop false 4 ⟨none, none⟩ = .ok (4, 25) ∧
      ∀ b ∈ (miningLoop (fun _ => 0) (25 : Nat).toUInt32 [⟨some {}, 0, [⟨0, 0, 1, false, false⟩]⟩]).submitted,
        Submitted (fun _ => 0) (25 : Nat).toUInt32 b ∧
          checkGapcoinProof (M := Nat) (fun _ => 0) ⟨fun _ _ => 0, fun _ => 0⟩ b =
            .error "gapcoin-gap-too-small" :=
  have h : startGapcoinMiningLoop false 4 ⟨none, none⟩ = .ok (4, 25) := rfl
  ⟨h, miningLoop_rejected (fun _ => 0) (fun _ => 0) ⟨fun _ _ => 0, fun _ => 0⟩ h _⟩

example : ((miningLoop (fun _ => 0) 25 [⟨some {}, 0, [⟨0, 0, 1, false, false⟩,
    ⟨0, 0, 1, true, true⟩]⟩]).submitted.map (·.nNonce), (miningLoop (fun _ => 0) 25
      [⟨some {}, 0, [⟨0, 0, 1, false, false⟩, ⟨0, 0, 1, true, true⟩]⟩]).blocksFound) = ([0, 0], 1) :=
  rfl

end Loop

end Wattx.GapcoinMiningLoop
