import Mathlib.Data.List.Basic

/-!
The lifecycle of `node::RandomXMiner` (`node/randomx_miner.cpp`): `Initialize`,
`ReinitializeIfNeeded`, `Cleanup` and the validation VM of `CalculateHash`. What the RandomX
library answers is an input: whether each allocation succeeds, and the hash itself, a function
of the key the VM's memory was built from and of the input bytes.
-/

namespace Wattx.RandomXEngine

inductive Mode
  | light
  | full
  deriving DecidableEq, Repr

def randomxFlagFullMem : UInt32 := 4

def randomxFlagJit : UInt32 := 8

def randomxFlagArgon2Avx2 : UInt32 := 64

structure Memory where
  flags : UInt32
  key : List UInt8
  deriving DecidableEq, Repr

structure Vm where
  flags : UInt32
  key : List UInt8
  deriving DecidableEq, Repr

structure RandomXMiner where
  flags : UInt32
  mode : Mode := .light
  safeMode : Bool := false
  cache : Option Memory := none
  dataset : Option Memory := none
  validationVm : Option Vm := none
  vms : List Vm := []
  currentKey : List UInt8 := []
  initialized : Bool := false
  deriving DecidableEq, Repr

def defaultSafeMode : Bool := false

structure Allocation where
  cache : Bool
  cacheRetry : Bool
  dataset : Bool
  deriving DecidableEq, Repr

def cleanupInternal (s : RandomXMiner) : RandomXMiner :=
  { s with vms := [], validationVm := none, dataset := none, cache := none, initialized := false }

def cleanup (s : RandomXMiner) : RandomXMiner := cleanupInternal s

def initFlags (flags : UInt32) (mode : Mode) (safeMode : Bool) : UInt32 :=
  let flags := if mode = .full then flags ||| randomxFlagFullMem else flags
  if safeMode then flags &&& ~~~randomxFlagJit &&& ~~~randomxFlagArgon2Avx2 else flags

def allocCache (alloc : Allocation) (flags : UInt32) : Option UInt32 :=
  if alloc.cache then some flags
  else if alloc.cacheRetry then some (flags &&& ~~~randomxFlagJit)
  else none

def prepare (mode : Mode) (safeMode : Bool) (s : RandomXMiner) : RandomXMiner :=
  let s := if s.initialized then cleanupInternal s else s
  { s with mode := mode, safeMode := safeMode }

def loadKey (alloc : Allocation) (key : List UInt8) (mode : Mode) (flags : UInt32)
    (s : RandomXMiner) : RandomXMiner :=
  let s := { s with cache := some ⟨flags, key⟩, currentKey := key }
  let s := if mode = .full then
      if alloc.dataset then { s with dataset := some ⟨flags, key⟩ } else { s with mode := .light }
    else s
  { s with flags := flags, initialized := true }

def initializeMiner (alloc : Allocation) (key : List UInt8) (mode : Mode) (safeMode : Bool)
    (s : RandomXMiner) : Bool × RandomXMiner :=
  let s := prepare mode safeMode s
  match allocCache alloc (initFlags s.flags mode safeMode) with
  | none => (false, { s with cache := none })
  | some flags => (true, loadKey alloc key mode flags s)

def reinitializeIfNeeded (alloc : Allocation) (key : List UInt8) (s : RandomXMiner) :
    Bool × RandomXMiner :=
  if s.currentKey = key then (true, s) else initializeMiner alloc key s.mode defaultSafeMode s

def createVm (ok : Bool) (flags : UInt32) (cache dataset : Option Memory) : Option Vm :=
  if ok then
    if flags &&& randomxFlagFullMem ≠ 0 then dataset.map fun d => ⟨flags, d.key⟩
    else cache.map fun c => ⟨flags, c.key⟩
  else none

section Hash

variable (randomxHash : List UInt8 → List UInt8 → BitVec 256)

def calculateHash (vmOk : Bool) (input : List UInt8) (s : RandomXMiner) :
    BitVec 256 × RandomXMiner :=
  if !s.initialized then (0, s)
  else match s.validationVm with
    | some vm => (randomxHash vm.key input, s)
    | none => match createVm vmOk s.flags s.cache s.dataset with
      | none => (0, s)
      | some vm => (randomxHash vm.key input, { s with validationVm := some vm })

end Hash

inductive EngineOp
  | initializeMiner (alloc : Allocation) (key : List UInt8) (mode : Mode) (safeMode : Bool)
  | reinitializeIfNeeded (alloc : Allocation) (key : List UInt8)
  | cleanup

def applyOp : EngineOp → RandomXMiner → Bool × RandomXMiner
  | .initializeMiner alloc key mode safeMode, s => initializeMiner alloc key mode safeMode s
  | .reinitializeIfNeeded alloc key, s => reinitializeIfNeeded alloc key s
  | .cleanup, s => (true, cleanup s)

inductive Reachable : RandomXMiner → Prop
  | init (flags : UInt32) : Reachable { flags := flags }
  | step {s : RandomXMiner} (op : EngineOp) : Reachable s → Reachable (applyOp op s).2

structure EngineInv (s : RandomXMiner) : Prop where
  live : s.initialized = true → ∃ c, s.cache = some c ∧ c.key = s.currentKey
  cache_key : ∀ c, s.cache = some c → c.key = s.currentKey
  dataset_key : ∀ d, s.dataset = some d → d.key = s.currentKey
  vm_key : ∀ vm, s.validationVm = some vm → vm.key = s.currentKey
  released : s.initialized = false →
    s.cache = none ∧ s.dataset = none ∧ s.validationVm = none ∧ s.vms = []

theorem engineInv_cleanupInternal (s : RandomXMiner) : EngineInv (cleanupInternal s) where
  live := by simp [cleanupInternal]
  cache_key := by simp [cleanupInternal]
  dataset_key := by simp [cleanupInternal]
  vm_key := by simp [cleanupInternal]
  released := by simp [cleanupInternal]

@[simp] theorem loadKey_initialized (alloc : Allocation) (key : List UInt8) (mode : Mode)
    (flags : UInt32) (s : RandomXMiner) : (loadKey alloc key mode flags s).initialized = true := by
  unfold loadKey; split <;> (try split) <;> rfl

@[simp] theorem loadKey_currentKey (alloc : Allocation) (key : List UInt8) (mode : Mode)
    (flags : UInt32) (s : RandomXMiner) : (loadKey alloc key mode flags s).currentKey = key := by
  unfold loadKey; split <;> (try split) <;> rfl

@[simp] theorem loadKey_cache (alloc : Allocation) (key : List UInt8) (mode : Mode)
    (flags : UInt32) (s : RandomXMiner) :
    (loadKey alloc key mode flags s).cache = some ⟨flags, key⟩ := by
  unfold loadKey; split <;> (try split) <;> rfl

@[simp] theorem loadKey_validationVm (alloc : Allocation) (key : List UInt8) (mode : Mode)
    (flags : UInt32) (s : RandomXMiner) :
    (loadKey alloc key mode flags s).validationVm = s.validationVm := by
  unfold loadKey; split <;> (try split) <;> rfl

theorem loadKey_dataset (alloc : Allocation) (key : List UInt8) (mode : Mode)
    (flags : UInt32) (s : RandomXMiner) :
    (loadKey alloc key mode flags s).dataset = some ⟨flags, key⟩ ∨
      (loadKey alloc key mode flags s).dataset = s.dataset := by
  unfold loadKey; split <;> (try split) <;> simp

@[simp] theorem prepare_flags (mode : Mode) (safeMode : Bool) (s : RandomXMiner) :
    (prepare mode safeMode s).flags = s.flags := by
  unfold prepare; split <;> rfl

theorem prepare_released (mode : Mode) (safeMode : Bool) {s : RandomXMiner} (h : EngineInv s) :
    (prepare mode safeMode s).initialized = false ∧ (prepare mode safeMode s).cache = none ∧
      (prepare mode safeMode s).dataset = none ∧ (prepare mode safeMode s).validationVm = none ∧
      (prepare mode safeMode s).vms = [] := by
  unfold prepare
  split
  · simp [cleanupInternal]
  · have hi := Bool.eq_false_iff.mpr ‹_›
    simpa [hi] using h.released hi

theorem initializeMiner_cases (alloc : Allocation) (key : List UInt8) (mode : Mode)
    (safeMode : Bool) (s : RandomXMiner) :
    initializeMiner alloc key mode safeMode s = (false, { prepare mode safeMode s with cache := none }) ∨
      ∃ flags, initializeMiner alloc key mode safeMode s =
        (true, loadKey alloc key mode flags (prepare mode safeMode s)) := by
  unfold initializeMiner
  simp only [prepare_flags]
  cases allocCache alloc (initFlags s.flags mode safeMode) with
  | none => exact .inl rfl
  | some flags => exact .inr ⟨flags, rfl⟩

theorem initializeMiner_true {alloc : Allocation} {key : List UInt8} {mode : Mode}
    {safeMode : Bool} {s : RandomXMiner} (h : (initializeMiner alloc key mode safeMode s).1 = true) :
    (initializeMiner alloc key mode safeMode s).2.initialized = true ∧
      (initializeMiner alloc key mode safeMode s).2.currentKey = key ∧
      ∃ c, (initializeMiner alloc key mode safeMode s).2.cache = some c ∧ c.key = key := by
  rcases initializeMiner_cases alloc key mode safeMode s with he | ⟨flags, he⟩ <;> rw [he] at h ⊢
  · simp at h
  · exact ⟨loadKey_initialized .., loadKey_currentKey .., _, loadKey_cache .., rfl⟩

theorem engineInv_loadKey (alloc : Allocation) (key : List UInt8) (mode : Mode) (flags : UInt32)
    {s : RandomXMiner} (hd : s.dataset = none) (hv : s.validationVm = none) :
    EngineInv (loadKey alloc key mode flags s) where
  live := by simp
  cache_key := by simp
  dataset_key := by
    intro d h
    rcases loadKey_dataset alloc key mode flags s with h' | h' <;> rw [h'] at h
    · cases h; simp
    · simp [hd] at h
  vm_key := by simp [hv]
  released := by simp

theorem engineInv_initializeMiner (alloc : Allocation) (key : List UInt8) (mode : Mode)
    (safeMode : Bool) {s : RandomXMiner} (h : EngineInv s) :
    EngineInv (initializeMiner alloc key mode safeMode s).2 := by
  obtain ⟨hi, hc, hd, hv, hvs⟩ := prepare_released mode safeMode h
  rcases initializeMiner_cases alloc key mode safeMode s with he | ⟨flags, he⟩ <;> rw [he]
  · constructor <;> simp_all
  · exact engineInv_loadKey _ _ _ _ hd hv

theorem engineInv_reinitializeIfNeeded (alloc : Allocation) (key : List UInt8) {s : RandomXMiner}
    (h : EngineInv s) : EngineInv (reinitializeIfNeeded alloc key s).2 := by
  unfold reinitializeIfNeeded
  split
  · exact h
  · exact engineInv_initializeMiner _ _ _ _ h

theorem engineInv_applyOp (op : EngineOp) {s : RandomXMiner} (h : EngineInv s) :
    EngineInv (applyOp op s).2 := by
  cases op with
  | initializeMiner alloc key mode safeMode => exact engineInv_initializeMiner _ _ _ _ h
  | reinitializeIfNeeded alloc key => exact engineInv_reinitializeIfNeeded _ _ h
  | cleanup => exact engineInv_cleanupInternal s

theorem reachable_engineInv {s : RandomXMiner} (h : Reachable s) : EngineInv s := by
  induction h with
  | init flags => constructor <;> simp
  | step op _ ih => exact engineInv_applyOp op ih

theorem reinitializeIfNeeded_true {alloc : Allocation} {key : List UInt8} {s : RandomXMiner}
    (h : (reinitializeIfNeeded alloc key s).1 = true) :
    (s.currentKey = key ∧ (reinitializeIfNeeded alloc key s).2 = s) ∨
      ((reinitializeIfNeeded alloc key s).2.initialized = true ∧
        (reinitializeIfNeeded alloc key s).2.currentKey = key ∧
        ∃ c, (reinitializeIfNeeded alloc key s).2.cache = some c ∧ c.key = key) := by
  unfold reinitializeIfNeeded at h ⊢
  split
  · exact .inl ⟨‹_›, rfl⟩
  · rw [if_neg ‹_›] at h
    exact .inr (initializeMiner_true h)

theorem randomXMiner_key_lifecycle :
    (∀ alloc key mode safeMode s, (initializeMiner alloc key mode safeMode s).1 = true →
      (initializeMiner alloc key mode safeMode s).2.initialized = true ∧
        (initializeMiner alloc key mode safeMode s).2.currentKey = key ∧
        ∃ c, (initializeMiner alloc key mode safeMode s).2.cache = some c ∧ c.key = key) ∧
    (∀ alloc key s, (reinitializeIfNeeded alloc key s).1 = true →
      (s.currentKey = key ∧ (reinitializeIfNeeded alloc key s).2 = s) ∨
        ((reinitializeIfNeeded alloc key s).2.initialized = true ∧
          (reinitializeIfNeeded alloc key s).2.currentKey = key ∧
          ∃ c, (reinitializeIfNeeded alloc key s).2.cache = some c ∧ c.key = key)) ∧
    (∀ s, Reachable s → s.initialized = true →
      (∃ c, s.cache = some c ∧ c.key = s.currentKey) ∧
        ∀ d, s.dataset = some d → d.key = s.currentKey) :=
  ⟨fun _ _ _ _ _ h => initializeMiner_true h, fun _ _ _ h => reinitializeIfNeeded_true h,
    fun _ hr hi => ⟨(reachable_engineInv hr).live hi, (reachable_engineInv hr).dataset_key⟩⟩

theorem reinitializeIfNeeded_after_cleanup :
    let s := cleanup (initializeMiner ⟨true, true, true⟩ [7] .light false { flags := 0 }).2
    Reachable s ∧ (reinitializeIfNeeded ⟨true, true, true⟩ [7] s).1 = true ∧
      (reinitializeIfNeeded ⟨true, true, true⟩ [7] s).2.initialized = false :=
  ⟨.step .cleanup (.step (.initializeMiner _ _ _ _) (.init 0)), by decide, by decide⟩

end Wattx.RandomXEngine
