import Wattx.Block

/-!
`RandomXMiner::StartMining` and `RandomXMiner::MineThread`: the split of the 32-bit nonce space
and the threads' loops interleaved step by step, one atomic action of one thread or the store of
`StopMining` per step. Hash counters, log lines and sleeps are left out.
-/

namespace Wattx.RandomXMining

open Block

def meetsTarget (hash target : BitVec 256) : Bool := decide (hash.toNat ≤ target.toNat)

def startMiningThreads (hardwareConcurrency : Nat) (numThreads : Int) (vmCount : Nat) :
    Option Nat :=
  let numThreads :=
    if numThreads ≤ 0 then max 1 ((hardwareConcurrency : Int) - 1) else numThreads
  let numThreads := min numThreads vmCount
  if numThreads = 0 then none else some numThreads.toNat

def nonceRange (numThreads : Nat) : Nat := (2 ^ 32 - 1) / numThreads

def startNonce (numThreads i : Nat) : Nat := i * nonceRange numThreads % 2 ^ 32

theorem startNonce_bounds {n i : Nat} (hi : i < n) :
    startNonce n i = i * nonceRange n ∧ (i + 1) * nonceRange n ≤ 2 ^ 32 - 1 := by
  have hn : n * nonceRange n ≤ 2 ^ 32 - 1 := Nat.mul_div_le _ _
  have hi' : (i + 1) * nonceRange n ≤ n * nonceRange n := Nat.mul_le_mul_right _ hi
  rw [Nat.succ_mul] at hi'
  exact ⟨Nat.mod_eq_of_lt (by omega), by rw [Nat.succ_mul]; omega⟩

inductive Pc
  | loopCheck
  | hash
  | checkTarget
  | setStop
  | callback
  | done
  deriving DecidableEq, Repr

def Pc.inBody : Pc → Bool
  | .hash | .checkTarget | .setStop | .callback => true
  | .loopCheck | .done => false

structure MineThread where
  startNonce : Nat
  nonceRange : Nat
  nonce : Nat
  hash : BitVec 256
  pc : Pc
  deriving DecidableEq, Repr

structure Session where
  stopMining : Bool
  threads : Nat → MineThread
  found : List (Nat × BlockHeader)

inductive Event
  | thread (threadId : Nat)
  | stopMining
  deriving DecidableEq, Repr

def startMining (numThreads : Nat) : Session where
  stopMining := false
  threads i :=
    if i < numThreads then
      ⟨startNonce numThreads i, nonceRange numThreads, startNonce numThreads i, 0, .loopCheck⟩
    else ⟨0, 0, 0, 0, .done⟩
  found := []

def withNonce (block : BlockHeader) (nonce : Nat) : BlockHeader :=
  { block with nNonce := nonce.toUInt32 }

section Mining

variable (randomxHash : List UInt8 → BitVec 256) (block : BlockHeader) (target : BitVec 256)

def threadStep (stop : Bool) (th : MineThread) : Bool × MineThread × Option BlockHeader :=
  match th.pc with
  | .loopCheck =>
    (stop, { th with
      pc := if !stop && th.nonce < (th.startNonce + th.nonceRange) % 2 ^ 32 then .hash else .done },
      none)
  | .hash =>
    (stop, { th with
      hash := randomxHash (serializeBlockHeader (withNonce block th.nonce)), pc := .checkTarget },
      none)
  | .checkTarget =>
    if meetsTarget th.hash target then (stop, { th with pc := .setStop }, none)
    else (stop, { th with nonce := (th.nonce + 1) % 2 ^ 32, pc := .loopCheck }, none)
  | .setStop => (true, { th with pc := .callback }, none)
  | .callback => (stop, { th with pc := .done }, some (withNonce block th.nonce))
  | .done => (stop, th, none)

def step (s : Session) : Event → Session
  | .thread i =>
    let r := threadStep randomxHash block target s.stopMining (s.threads i)
    { stopMining := r.1, threads := Function.update s.threads i r.2.1,
      found := s.found ++ (r.2.2.map fun b => (i, b)).toList }
  | .stopMining => { s with stopMining := true }

def run (evs : List Event) (s : Session) : Session := evs.foldl (step randomxHash block target) s

@[simp] theorem run_nil (s : Session) : run randomxHash block target [] s = s := rfl

@[simp] theorem run_cons (ev : Event) (evs : List Event) (s : Session) :
    run randomxHash block target (ev :: evs) s =
      run randomxHash block target evs (step randomxHash block target s ev) := rfl

theorem run_append (evs evs' : List Event) (s : Session) :
    run randomxHash block target (evs ++ evs') s =
      run randomxHash block target evs' (run randomxHash block target evs s) :=
  List.foldl_append _ _ _ _

def Hashes (n i nonce : Nat) : Prop :=
  ∃ evs, ((run randomxHash block target evs (startMining n)).threads i).pc = .hash ∧
    ((run randomxHash block target evs (startMining n)).threads i).nonce = nonce

def ScanInv (th : MineThread) : Prop :=
  th.startNonce + th.nonceRange < 2 ^ 32 ∧ th.startNonce ≤ th.nonce ∧
    th.nonce ≤ th.startNonce + th.nonceRange ∧
    (th.pc.inBody → th.nonce < th.startNonce + th.nonceRange)

theorem threadStep_bounds (stop : Bool) (th : MineThread) :
    (threadStep randomxHash block target stop th).2.1.startNonce = th.startNonce ∧
      (threadStep randomxHash block target stop th).2.1.nonceRange = th.nonceRange := by
  unfold threadStep
  split <;> (try split) <;> exact ⟨rfl, rfl⟩

theorem scanInv_threadStep (stop : Bool) {th : MineThread} (h : ScanInv th) :
    ScanInv (threadStep randomxHash block target stop th).2.1 := by
  rcases th with ⟨lo, len, nonce, hash, pc⟩
  obtain ⟨hw, hlo, hhi, hbody⟩ := h
  dsimp only at hw hlo hhi hbody
  unfold ScanInv
  cases pc
  case loopCheck =>
    refine ⟨hw, hlo, hhi, fun hin => ?_⟩
    simp only [threadStep, Nat.mod_eq_of_lt hw] at hin ⊢
    split_ifs at hin ⊢ with hc
    · simp only [Bool.and_eq_true, decide_eq_true_eq] at hc
      exact hc.2
    · simp [Pc.inBody] at hin
  case checkTarget =>
    have hn : nonce < lo + len := hbody rfl
    simp only [threadStep]
    split_ifs
    · exact ⟨hw, hlo, hhi, fun _ => hn⟩
    · dsimp only
      rw [Nat.mod_eq_of_lt (by omega : nonce + 1 < 2 ^ 32)]
      exact ⟨hw, by omega, by omega, fun h => by simp [Pc.inBody] at h⟩
  case callback => exact ⟨hw, hlo, hhi, fun h => by simp [threadStep, Pc.inBody] at h⟩
  all_goals exact ⟨hw, hlo, hhi, hbody⟩

theorem step_bounds (s : Session) (ev : Event) (i : Nat) :
    ((step randomxHash block target s ev).threads i).startNonce = (s.threads i).startNonce ∧
      ((step randomxHash block target s ev).threads i).nonceRange = (s.threads i).nonceRange := by
  cases ev with
  | thread j =>
    by_cases hij : i = j
    · subst hij; simpa [step] using threadStep_bounds randomxHash block target _ _
    · simp [step, Function.update_noteq hij]
  | stopMining => exact ⟨rfl, rfl⟩

theorem scanInv_step {s : Session} (h : ∀ i, ScanInv (s.threads i)) (ev : Event) (i : Nat) :
    ScanInv ((step randomxHash block target s ev).threads i) := by
  cases ev with
  | thread j =>
    by_cases hij : i = j
    · subst hij; simpa [step] using scanInv_threadStep randomxHash block target _ (h i)
    · simpa [step, Function.update_noteq hij] using h i
  | stopMining => exact h i

theorem run_scanInv (evs : List Event) {s : Session} (h : ∀ i, ScanInv (s.threads i)) (i : Nat) :
    ((run randomxHash block target evs s).threads i).startNonce = (s.threads i).startNonce ∧
      ((run randomxHash block target evs s).threads i).nonceRange = (s.threads i).nonceRange ∧
      ScanInv ((run randomxHash block target evs s).threads i) := by
  induction evs generalizing s with
  | nil => exact ⟨rfl, rfl, h i⟩
  | cons ev evs ih =>
    obtain ⟨h1, h2, h3⟩ := ih (scanInv_step randomxHash block target h ev)
    obtain ⟨e1, e2⟩ := step_bounds randomxHash block target s ev i
    exact ⟨h1.trans e1, h2.trans e2, h3⟩

theorem scanInv_startMining (n i : Nat) : ScanInv ((startMining n).threads i) := by
  by_cases hi : i < n
  · obtain ⟨hs, hb⟩ := startNonce_bounds hi
    simp only [startMining, if_pos hi, ScanInv, hs, Pc.inBody, Bool.false_eq_true, false_implies,
      and_true]
    rw [Nat.succ_mul] at hb
    omega
  · simp [startMining, if_neg hi, ScanInv, Pc.inBody]

theorem hashes_interval {n i nonce : Nat} (h : Hashes randomxHash block target n i nonce) :
    i < n ∧ i * nonceRange n ≤ nonce ∧ nonce < (i + 1) * nonceRange n := by
  obtain ⟨evs, hpc, rfl⟩ := h
  obtain ⟨hs, hr, -, hlo, -, hbody⟩ := run_scanInv randomxHash block target evs
    (scanInv_startMining n) i
  have hin := hbody (by rw [hpc]; rfl)
  rw [hs] at hlo
  rw [hs, hr] at hin
  by_cases hi : i < n
  · simp only [startMining, if_pos hi, (startNonce_bounds hi).1] at hlo hin
    rw [Nat.succ_mul]
    exact ⟨hi, hlo, hin⟩
  · simp [startMining, if_neg hi] at hin

theorem run_loop_miss (s : Session) (i : Nat) (hstop : s.stopMining = false)
    (hpc : (s.threads i).pc = .loopCheck)
    (hlt : (s.threads i).nonce < ((s.threads i).startNonce + (s.threads i).nonceRange) % 2 ^ 32)
    (hmiss : meetsTarget
      (randomxHash (serializeBlockHeader (withNonce block (s.threads i).nonce))) target = false) :
    (run randomxHash block target (List.replicate 3 (.thread i)) s).stopMining = false ∧
      ((run randomxHash block target (List.replicate 3 (.thread i)) s).threads i).pc =
        .loopCheck ∧
      ((run randomxHash block target (List.replicate 3 (.thread i)) s).threads i).nonce =
        ((s.threads i).nonce + 1) % 2 ^ 32 ∧
      ((run randomxHash block target (List.replicate 3 (.thread i)) s).threads i).startNonce =
        (s.threads i).startNonce ∧
      ((run randomxHash block target (List.replicate 3 (.thread i)) s).threads i).nonceRange =
        (s.threads i).nonceRange := by
  simp only [Nat.reducePow] at hlt
  simp [List.replicate, step, threadStep, hstop, hpc, hlt, hmiss]

theorem run_alone {n i : Nat} (hi : i < n) (k : Nat) (hk : k ≤ nonceRange n)
    (hmiss : ∀ m < k, meetsTarget
      (randomxHash (serializeBlockHeader (withNonce block (i * nonceRange n + m)))) target = false) :
    (run randomxHash block target (List.replicate (3 * k) (.thread i)) (startMining n)).stopMining =
        false ∧
      ((run randomxHash block target (List.replicate (3 * k) (.thread i)) (startMining n)).threads
          i).pc = .loopCheck ∧
      ((run randomxHash block target (List.replicate (3 * k) (.thread i)) (startMining n)).threads
          i).nonce = i * nonceRange n + k ∧
      ((run randomxHash block target (List.replicate (3 * k) (.thread i)) (startMining n)).threads
          i).startNonce = i * nonceRange n ∧
      ((run randomxHash block target (List.replicate (3 * k) (.thread i)) (startMining n)).threads
          i).nonceRange = nonceRange n := by
  obtain ⟨hs, hb⟩ := startNonce_bounds hi
  rw [Nat.succ_mul] at hb
  induction k with
  | zero => simp [startMining, if_pos hi, hs]
  | succ k ih =>
    obtain ⟨hstop, hpc, hnonce, hsn, hnr⟩ := ih (by omega) fun m hm => hmiss m (by omega)
    have hlt : i * nonceRange n + k < (i * nonceRange n + nonceRange n) % 2 ^ 32 := by
      rw [Nat.mod_eq_of_lt (by omega)]; omega
    rw [show 3 * (k + 1) = 3 * k + 3 by omega, List.replicate_add, run_append]
    obtain ⟨h1, h2, h3, h4, h5⟩ := run_loop_miss randomxHash block target _ i hstop hpc
      (by rwa [hnonce, hsn, hnr]) (by rw [hnonce]; exact hmiss k (Nat.lt_succ_self k))
    refine ⟨h1, h2, ?_, h4.trans hsn, h5.trans hnr⟩
    rw [h3, hnonce, Nat.mod_eq_of_lt (by omega)]
    rfl

theorem hashes_of_miss {n i k : Nat} (hi : i < n) (hk : k < nonceRange n)
    (hmiss : ∀ m < k, meetsTarget
      (randomxHash (serializeBlockHeader (withNonce block (i * nonceRange n + m)))) target = false) :
    Hashes randomxHash block target n i (i * nonceRange n + k) := by
  obtain ⟨-, hb⟩ := startNonce_bounds hi
  rw [Nat.succ_mul] at hb
  obtain ⟨hstop, hpc, hnonce, hsn, hnr⟩ := run_alone randomxHash block target hi k hk.le hmiss
  have hlt : i * nonceRange n + k < (i * nonceRange n + nonceRange n) % 2 ^ 32 := by
    rw [Nat.mod_eq_of_lt (by omega)]; omega
  refine ⟨List.replicate (3 * k) (.thread i) ++ [.thread i], ?_⟩
  simp only [Nat.reducePow] at hlt
  simp [run_append, step, threadStep, hstop, hnonce, hpc, hsn, hnr, hlt]

end Mining

theorem hashes_of_miss_second_thread :
    1 < 2 ∧ 1 < nonceRange 2 ∧
      (∀ m < 1, meetsTarget ((fun _ => 1 : List UInt8 → BitVec 256)
        (serializeBlockHeader (withNonce {} (1 * nonceRange 2 + m)))) 0 = false) ∧
      Hashes (fun _ => 1) {} 0 2 1 (1 * nonceRange 2 + 1) :=
  have hmiss : ∀ m < 1, meetsTarget ((fun _ => 1 : List UInt8 → BitVec 256)
      (serializeBlockHeader (withNonce {} (1 * nonceRange 2 + m)))) 0 = false := fun _ _ => rfl
  ⟨by decide, by decide, hmiss, hashes_of_miss (fun _ => 1) {} 0 (by decide) (by decide) hmiss⟩

section Mining

variable (randomxHash : List UInt8 → BitVec 256) (block : BlockHeader) (target : BitVec 256)

theorem nonce_split_misses_top (n : Nat) :
    (∀ i < n, startNonce n i = i * nonceRange n ∧
        (startNonce n i + nonceRange n) % 2 ^ 32 = (i + 1) * nonceRange n ∧
        (i + 1) * nonceRange n < 2 ^ 32) ∧
      (∀ randomxHash block target i nonce, Hashes randomxHash block target n i nonce →
        i < n ∧ i * nonceRange n ≤ nonce ∧ nonce < (i + 1) * nonceRange n) ∧
      (∀ randomxHash block target i j nonce, Hashes randomxHash block target n i nonce →
        Hashes randomxHash block target n j nonce → i = j) ∧
      ∀ randomxHash block target i, ¬Hashes randomxHash block target n i (2 ^ 32 - 1) := by
  have hR : n * nonceRange n ≤ 2 ^ 32 - 1 := Nat.mul_div_le _ _
  refine ⟨fun i hi => ?_, fun h b t i nonce hh => hashes_interval h b t hh, ?_, ?_⟩
  · obtain ⟨hs, hb⟩ := startNonce_bounds hi
    refine ⟨hs, ?_, by omega⟩
    rw [Nat.succ_mul] at hb ⊢
    rw [hs, Nat.mod_eq_of_lt (by omega)]
  · intro h b t i j nonce hi hj
    obtain ⟨-, hi1, hi2⟩ := hashes_interval h b t hi
    obtain ⟨-, hj1, hj2⟩ := hashes_interval h b t hj
    rw [← Nat.div_eq_of_lt_le hi1 hi2, ← Nat.div_eq_of_lt_le hj1 hj2]
  · intro h b t i hi
    obtain ⟨hin, -, hlt⟩ := hashes_interval h b t hi
    have : (i + 1) * nonceRange n ≤ n * nonceRange n := Nat.mul_le_mul_right _ hin
    omega

theorem nonce_split_misses_top_one_thread :
    startNonce 1 0 = 0 ∧ (startNonce 1 0 + nonceRange 1) % 2 ^ 32 = 4294967295 ∧
      ¬Hashes (fun _ => 0) {} 0 1 0 4294967295 :=
  ⟨(nonce_split_misses_top 1).1 0 (by decide) |>.1,
    (nonce_split_misses_top 1).1 0 (by decide) |>.2.1,
    (nonce_split_misses_top 1).2.2.2 (fun _ => 0) {} 0 0⟩

def CallInv (s : Session) : Prop :=
  (s.found.map Prod.fst).Nodup ∧ ∀ i ∈ s.found.map Prod.fst, (s.threads i).pc = .done

theorem threadStep_call (stop : Bool) (th : MineThread) :
    (threadStep randomxHash block target stop th).2.2 =
      if th.pc = .callback then some (withNonce block th.nonce) else none := by
  unfold threadStep
  split <;> (try split) <;> simp_all

theorem threadStep_pc_done (stop : Bool) {th : MineThread} (h : th.pc = .done ∨ th.pc = .callback) :
    (threadStep randomxHash block target stop th).2.1.pc = .done := by
  unfold threadStep
  rcases h with h | h <;> simp [h]

theorem callInv_step {s : Session} (h : CallInv s) (ev : Event) :
    CallInv (step randomxHash block target s ev) := by
  obtain ⟨hnd, hdone⟩ := h
  cases ev with
  | stopMining => exact ⟨hnd, hdone⟩
  | thread j =>
    simp only [CallInv, step, threadStep_call]
    by_cases hc : (s.threads j).pc = .callback
    · have hj : j ∉ s.found.map Prod.fst := fun hj => by simp [hdone j hj] at hc
      simp only [hc, if_true, Option.map_some', Option.toList_some, List.map_append,
        List.map_cons, List.map_nil, List.nodup_append, List.nodup_singleton, hnd,
        List.disjoint_singleton, hj, List.mem_append, List.mem_singleton]
      refine ⟨⟨trivial, trivial, not_false⟩, fun i hi => ?_⟩
      by_cases hij : i = j
      · subst hij; simpa using threadStep_pc_done randomxHash block target _ (.inr hc)
      · rcases hi with hi | hi
        · simpa [Function.update_noteq hij] using hdone i hi
        · exact absurd hi hij
    · simp only [hc, if_false, Option.map_none', Option.toList_none, List.append_nil, hnd,
        true_and]
      intro i hi
      by_cases hij : i = j
      · subst hij; simpa using threadStep_pc_done randomxHash block target _ (.inl (hdone i hi))
      · simpa [Function.update_noteq hij] using hdone i hi

theorem run_callInv (evs : List Event) {s : Session} (h : CallInv s) :
    CallInv (run randomxHash block target evs s) := by
  induction evs generalizing s with
  | nil => exact h
  | cons ev evs ih => exact ih (callInv_step randomxHash block target h ev)

def TargetInv (th : MineThread) : Prop :=
  (th.pc = .checkTarget →
    th.hash = randomxHash (serializeBlockHeader (withNonce block th.nonce))) ∧
  (th.pc = .setStop ∨ th.pc = .callback →
    meetsTarget (randomxHash (serializeBlockHeader (withNonce block th.nonce))) target = true)

def Reported (th : MineThread) (b : BlockHeader) : Prop :=
  ∃ nonce, b = withNonce block nonce ∧ th.startNonce ≤ nonce ∧
    nonce < th.startNonce + th.nonceRange ∧
    meetsTarget (randomxHash (serializeBlockHeader b)) target = true

theorem targetInv_threadStep (stop : Bool) {th : MineThread}
    (h : TargetInv randomxHash block target th) :
    TargetInv randomxHash block target (threadStep randomxHash block target stop th).2.1 := by
  obtain ⟨hhash, hmeets⟩ := h
  rcases th with ⟨lo, len, nonce, hash, pc⟩
  cases pc with
  | loopCheck =>
    simp only [threadStep]
    refine ⟨fun h => ?_, fun h => ?_⟩ <;> split_ifs at h <;> simp at h
  | hash => exact ⟨fun _ => rfl, fun h => by simp [threadStep] at h⟩
  | checkTarget =>
    simp only [threadStep]
    split_ifs with hm
    · exact ⟨fun h => by simp at h, fun _ => hhash rfl ▸ hm⟩
    · exact ⟨fun h => by simp at h, fun h => by simp at h⟩
  | setStop => exact ⟨fun h => by simp [threadStep] at h, fun _ => hmeets (.inl rfl)⟩
  | callback => exact ⟨fun h => by simp [threadStep] at h, fun h => by simp [threadStep] at h⟩
  | done => exact ⟨hhash, hmeets⟩

theorem Reported.of_bounds {th th' : MineThread} {b : BlockHeader}
    (h : Reported randomxHash block target th b) (hs : th'.startNonce = th.startNonce)
    (hr : th'.nonceRange = th.nonceRange) : Reported randomxHash block target th' b := by
  rw [Reported, hs, hr]; exact h

structure FoundInv (s : Session) : Prop where
  thread : ∀ i, TargetInv randomxHash block target (s.threads i)
  found : ∀ e ∈ s.found, Reported randomxHash block target (s.threads e.1) e.2

theorem foundInv_step {s : Session} (hscan : ∀ i, ScanInv (s.threads i))
    (h : FoundInv randomxHash block target s) (ev : Event) :
    FoundInv randomxHash block target (step randomxHash block target s ev) := by
  have hbounds := step_bounds randomxHash block target s ev
  have hold : ∀ e ∈ s.found,
      Reported randomxHash block target ((step randomxHash block target s ev).threads e.1) e.2 :=
    fun e he => (h.found e he).of_bounds randomxHash block target (hbounds e.1).1 (hbounds e.1).2
  cases ev with
  | stopMining => exact ⟨h.thread, hold⟩
  | thread j =>
    refine ⟨fun i => ?_, fun e he => ?_⟩
    · by_cases hij : i = j
      · subst hij; simpa [step] using targetInv_threadStep randomxHash block target _ (h.thread i)
      · simpa [step, Function.update_noteq hij] using h.thread i
    · simp only [step, List.mem_append] at he
      rcases he with he | he
      · exact hold e he
      · rw [threadStep_call] at he
        split at he
        · rename_i hc
          simp only [Option.map_some', Option.toList_some, List.mem_singleton] at he
          subst he
          obtain ⟨-, hlo, -, hbody⟩ := hscan j
          refine Reported.of_bounds randomxHash block target ?_ (hbounds j).1 (hbounds j).2
          exact ⟨_, rfl, hlo, hbody (by rw [hc]; rfl), (h.thread j).2 (.inr hc)⟩
        · simp at he

theorem run_foundInv (evs : List Event) {s : Session} (hscan : ∀ i, ScanInv (s.threads i))
    (h : FoundInv randomxHash block target s) :
    FoundInv randomxHash block target (run randomxHash block target evs s) := by
  induction evs generalizing s with
  | nil => exact h
  | cons ev evs ih =>
    exact ih (scanInv_step randomxHash block target hscan ev)
      (foundInv_step randomxHash block target hscan h ev)

theorem foundInv_startMining (n : Nat) : FoundInv randomxHash block target (startMining n) where
  thread i := by
    by_cases hi : i < n <;> simp [TargetInv, startMining, hi]
  found _ h := absurd h (List.not_mem_nil _)

theorem run_found_meetsTarget (n : Nat) (evs : List Event) :
    ∀ e ∈ (run randomxHash block target evs (startMining n)).found,
      e.1 < n ∧ ∃ nonce, e.2 = withNonce block nonce ∧ e.1 * nonceRange n ≤ nonce ∧
        nonce < (e.1 + 1) * nonceRange n ∧
        meetsTarget (randomxHash (serializeBlockHeader e.2)) target = true := by
  intro e he
  have hinv := run_foundInv randomxHash block target evs (scanInv_startMining n)
    (foundInv_startMining randomxHash block target n)
  obtain ⟨nonce, hb, hlo, hhi, hm⟩ := hinv.found e he
  obtain ⟨hs, hr, -⟩ := run_scanInv randomxHash block target evs (scanInv_startMining n) e.1
  rw [hs] at hlo
  rw [hs, hr] at hhi
  by_cases hi : e.1 < n
  · simp only [startMining, if_pos hi, (startNonce_bounds hi).1] at hlo hhi
    exact ⟨hi, nonce, hb, hlo, by rw [Nat.succ_mul]; exact hhi, hm⟩
  · simp only [startMining, if_neg hi] at hhi
    omega

theorem run_found_meetsTarget_one_thread :
    (0, withNonce {} 0) ∈
        (run (fun _ => 0) {} 0 (List.replicate 5 (.thread 0)) (startMining 1)).found ∧
      (0 < 1 ∧ ∃ nonce, withNonce {} 0 = withNonce {} nonce ∧ 0 * nonceRange 1 ≤ nonce ∧
        nonce < (0 + 1) * nonceRange 1 ∧
        meetsTarget ((fun _ => 0) (serializeBlockHeader (withNonce {} 0))) 0 = true) :=
  have h : (0, withNonce {} 0) ∈
      (run (fun _ => 0) {} 0 (List.replicate 5 (.thread 0)) (startMining 1)).found := by decide
  ⟨h, run_found_meetsTarget (fun _ => 0) {} 0 1 _ _ h⟩

end Mining

def doubleFound : List Event :=
  [.thread 0, .thread 1, .thread 0, .thread 0, .thread 1, .thread 1, .thread 0, .thread 0,
    .thread 1, .thread 1]

theorem blockFound_twice (randomxHash : List UInt8 → BitVec 256) (block : BlockHeader)
    (target : BitVec 256) (n : Nat) :
    (∀ evs, ((run randomxHash block target evs (startMining n)).found.map Prod.fst).Nodup) ∧
      (2 ≤ n → n < 2 ^ 32 →
        meetsTarget (randomxHash (serializeBlockHeader (withNonce block 0))) target →
        meetsTarget (randomxHash (serializeBlockHeader (withNonce block (nonceRange n)))) target →
        (run randomxHash block target doubleFound (startMining n)).found =
          [(0, withNonce block 0), (1, withNonce block (nonceRange n))]) := by
  refine ⟨fun evs => (run_callInv randomxHash block target evs
      ⟨by simp [startMining], by simp [startMining]⟩).1,
    fun h2 hn h0 h1 => ?_⟩
  have hpos : 0 < nonceRange n := Nat.div_pos (by omega) (by omega)
  obtain ⟨hs0, -⟩ := startNonce_bounds (show 0 < n by omega)
  obtain ⟨hs1, hb1⟩ := startNonce_bounds (show 1 < n by omega)
  simp only [zero_mul, one_mul] at hs0 hs1 hb1
  have hm0 : nonceRange n % 4294967296 = nonceRange n := Nat.mod_eq_of_lt (by omega)
  have hm1 : (nonceRange n + nonceRange n) % 4294967296 = nonceRange n + nonceRange n :=
    Nat.mod_eq_of_lt (by omega)
  simp [doubleFound, step, threadStep, startMining, show 0 < n by omega, show 1 < n by omega, hs0,
    hs1, hm0, hm1, hpos, h0, h1, Function.update_noteq]

theorem blockFound_twice_two_threads :
    (run (fun _ => 0) {} 0 doubleFound (startMining 2)).found =
      [(0, withNonce {} 0), (1, withNonce {} 2147483647)] :=
  (blockFound_twice (fun _ => 0) {} 0 2).2 (by decide) (by decide) rfl rfl

end Wattx.RandomXMining
