import Mathlib.Data.Nat.Digits
import Wattx.Block

/-!
Jobs of the stratum server: `GenerateJobId`, the XMRig blob and the history `m_jobs`. The order in
which `m_jobs` lists its keys is a parameter `before`; `std::map<std::string, _>` is `stringLess`.
-/

namespace Wattx.StratumJobs

open Block

structure BlockTemplate where
  block : BlockHeader
  deriving DecidableEq, Repr

structure StratumJob where
  jobId : String := ""
  timestamp : UInt32 := 0
  bits : UInt32 := 0
  prevHash : String := ""
  height : Int := 0
  blockTemplate : Option BlockTemplate := none
  blob : String := ""
  target : String := ""
  seedHash : String := ""
  deriving DecidableEq, Repr

def hexDigit (n : Nat) : Char := Nat.digitChar (n % 16)

def hexByte (b : UInt8) : String := String.mk [hexDigit (b.toNat / 16), hexDigit b.toNat]

def hexStr (bytes : List UInt8) : String := String.join (bytes.map hexByte)

def getHex (v : BitVec 256) : String := hexStr (leBytes 32 v.toNat).reverse

def hexNumber (n : Nat) : String := String.mk (Nat.toDigits 16 n)

def padHex8 (s : String) : String := String.mk (List.replicate (8 - s.length) '0') ++ s

def generateJobId (time : Int) (counter : Nat) : String :=
  hexNumber (time % 2 ^ 64).toNat ++ padHex8 (hexNumber (counter % 2 ^ 64))

def miningBlob (block : BlockHeader) : List UInt8 :=
  leBytes 32 block.hashPrevBlock.toNat ++ leBytes 3 (block.nVersion % 2 ^ 32).toNat ++
    leBytes 4 block.nTime.toNat ++ [0, 0, 0, 0] ++ leBytes 32 block.hashMerkleRoot.toNat ++
    [block.nBits.toNat.toUInt8]

def shareTarget : String := "b88d0600"

def makeJob (tmpl : BlockTemplate) (tipHeight : Option Int) (jobId : String) : StratumJob where
  jobId := jobId
  timestamp := tmpl.block.nTime
  bits := tmpl.block.nBits
  prevHash := getHex tmpl.block.hashPrevBlock
  height := (tipHeight.map (· + 1)).getD 1
  blockTemplate := some tmpl
  blob := hexStr (miningBlob tmpl.block)
  target := shareTarget
  seedHash := getHex tmpl.block.hashPrevBlock

def maxStoredJobs : Nat := 10

abbrev JobMap := List (String × StratumJob)

def putJob (m : JobMap) (key : String) (job : StratumJob) : JobMap :=
  if m.any (·.1 == key) then m.map fun e => if e.1 == key then (key, job) else e
  else m ++ [(key, job)]

def charsLess : List Char → List Char → Bool
  | [], [] => false
  | [], _ :: _ => true
  | _ :: _, [] => false
  | a :: as, b :: bs => if a.toNat < b.toNat then true else if a = b then charsLess as bs else false

def stringLess (a b : String) : Bool := charsLess a.data b.data

def beginKey (before : String → String → Bool) : List String → Option String
  | [] => none
  | k :: ks => some (ks.foldl (fun best k' => if before k' best then k' else best) k)

def eraseJob (m : JobMap) (key : String) : JobMap := m.filter (·.1 != key)

def storeJob (before : String → String → Bool) (job : StratumJob) (m : JobMap) : JobMap :=
  let m := putJob m job.jobId job
  if maxStoredJobs < m.length then
    match beginKey before (m.map (·.1)) with
    | some k => eraseJob m k
    | none => m
  else m

theorem putJob_of_fresh {m : JobMap} {key : String} (job : StratumJob) (h : ∀ e ∈ m, e.1 ≠ key) :
    putJob m key job = m ++ [(key, job)] := by
  have : m.any (·.1 == key) = false := List.any_eq_false.mpr fun e he => by simpa using h e he
  simp [putJob, this]

theorem beginKey_foldl_mem (before : String → String → Bool) (k : String) (ks : List String) :
    ks.foldl (fun best k' => if before k' best then k' else best) k ∈ k :: ks := by
  induction ks generalizing k with
  | nil => exact List.mem_singleton_self k
  | cons k' ks ih =>
    rw [List.foldl_cons]
    split
    · exact List.mem_cons_of_mem k (ih k')
    · rcases List.mem_cons.mp (ih k) with h | h
      · rw [h]; exact List.mem_cons_self k _
      · exact List.mem_cons_of_mem k (List.mem_cons_of_mem k' h)

theorem beginKey_append_of_first {before : String → String → Bool} {k : String} {ks : List String}
    (h : ∀ k' ∈ ks, before k k' = true) : beginKey before (ks ++ [k]) = some k := by
  cases ks with
  | nil => rfl
  | cons k₀ ks =>
    simp only [beginKey, List.cons_append, List.foldl_append, List.foldl_cons, List.foldl_nil]
    rw [if_pos (h _ (beginKey_foldl_mem before k₀ ks))]

theorem beginKey_cons_of_least {before : String → String → Bool} {k : String} {ks : List String}
    (h : ∀ k' ∈ ks, before k' k = false) : beginKey before (k :: ks) = some k := by
  simp only [beginKey, Option.some.injEq]
  induction ks with
  | nil => rfl
  | cons k' ks ih =>
    rw [List.foldl_cons, if_neg (by simp [h k' (List.mem_cons_self k' ks)])]
    exact ih fun k'' hk => h k'' (List.mem_cons_of_mem k' hk)

theorem storeJob_of_first {before : String → String → Bool} {job : StratumJob} {m : JobMap}
    (hfresh : ∀ e ∈ m, e.1 ≠ job.jobId) (hlen : m.length = maxStoredJobs)
    (hfirst : ∀ e ∈ m, before job.jobId e.1 = true) : storeJob before job m = m := by
  have hkeys : ∀ k' ∈ m.map (·.1), before job.jobId k' = true := by
    simpa using hfirst
  simp only [storeJob, putJob_of_fresh job hfresh, List.length_append, hlen, List.map_append,
    List.map_cons, List.map_nil, beginKey_append_of_first hkeys, eraseJob, List.filter_append,
    List.length_singleton]
  rw [if_pos (Nat.lt_succ_self _), List.filter_eq_self.mpr fun e he => by simpa using hfresh e he]
  simp

def IncreasingKeys (before : String → String → Bool) (m : JobMap) : Prop :=
  m.Pairwise fun a b => a.1 ≠ b.1 ∧ before b.1 a.1 = false

instance (before : String → String → Bool) (m : JobMap) : Decidable (IncreasingKeys before m) :=
  inferInstanceAs (Decidable (m.Pairwise _))

theorem storeJob_of_last {before : String → String → Bool} {job : StratumJob} {m : JobMap}
    (hm : IncreasingKeys before m) (hj : ∀ e ∈ m, e.1 ≠ job.jobId ∧ before job.jobId e.1 = false) :
    storeJob before job m =
      if maxStoredJobs < m.length + 1 then (m ++ [(job.jobId, job)]).tail
      else m ++ [(job.jobId, job)] := by
  simp only [storeJob, putJob_of_fresh job fun e he => (hj e he).1, List.length_append,
    List.length_singleton]
  split
  · obtain ⟨e₀, rest⟩ | ⟨e₀, rest⟩ := m
    · simp [maxStoredJobs] at *
    obtain ⟨he₀, hrest⟩ := List.pairwise_cons.mp hm
    have hleast : ∀ k' ∈ rest.map (·.1) ++ [job.jobId], before k' e₀.1 = false := by
      intro k' hk
      rcases List.mem_append.mp hk with hk | hk
      · obtain ⟨e, he, rfl⟩ := List.mem_map.mp hk
        exact (he₀ e he).2
      · rw [List.mem_singleton.mp hk]
        exact (hj e₀ (List.mem_cons_self _ _)).2
    simp only [List.cons_append, List.map_cons, List.map_append, List.map_nil]
    rw [beginKey_cons_of_least hleast]
    simp only [eraseJob, List.filter_cons, bne_self_eq_false, Bool.false_eq_true, if_false,
      List.tail_cons]
    refine List.filter_eq_self.mpr fun e he => ?_
    rcases List.mem_append.mp he with he | he
    · simpa using Ne.symm (he₀ e he).1
    · simp only [List.mem_singleton] at he
      subst he
      simpa using Ne.symm (hj e₀ (List.mem_cons_self _ _)).1
  · rfl

theorem foldl_storeJob_of_increasing {before : String → String → Bool} {jobs : List StratumJob}
    (h : IncreasingKeys before (jobs.map fun j => (j.jobId, j))) :
    jobs.foldl (fun m j => storeJob before j m) [] =
      (jobs.map fun j => (j.jobId, j)).drop (jobs.length - maxStoredJobs) := by
  induction jobs using List.reverseRecOn with
  | nil => rfl
  | append_singleton l j ih =>
    obtain ⟨hl, -, hlj⟩ := List.pairwise_append.mp (by simpa only [List.map_append] using h)
    have hw : IncreasingKeys before ((l.map fun j => (j.jobId, j)).drop (l.length - maxStoredJobs)) :=
      hl.sublist (List.drop_sublist _ _)
    have hj : ∀ e ∈ (l.map fun j => (j.jobId, j)).drop (l.length - maxStoredJobs),
        e.1 ≠ j.jobId ∧ before j.jobId e.1 = false := fun e he =>
      hlj e (List.mem_of_mem_drop he) _ (List.mem_singleton_self _)
    rw [List.foldl_append, List.foldl_cons, List.foldl_nil, ih hl, storeJob_of_last hw hj,
      List.map_append, List.length_append, List.length_drop, List.length_map]
    simp only [maxStoredJobs, List.map_cons, List.map_nil, List.length_singleton]
    split
    · rw [show l.length + 1 - 10 = l.length - 10 + 1 by omega, ← List.tail_drop,
        List.drop_append_of_le_length (by simp)]
    · rw [show l.length + 1 - 10 = 0 by omega, show l.length - 10 = 0 by omega]
      rfl

def increasingJobs : List StratumJob :=
  (List.range 12).map fun i => { jobId := generateJobId 0x67000000 i }

theorem foldl_storeJob_of_increasing_twelve :
    IncreasingKeys stringLess (increasingJobs.map fun j => (j.jobId, j)) ∧
      increasingJobs.foldl (fun m j => storeJob stringLess j m) [] =
        (increasingJobs.map fun j => (j.jobId, j)).drop (increasingJobs.length - maxStoredJobs) :=
  have h : IncreasingKeys stringLess (increasingJobs.map fun j => (j.jobId, j)) := by decide
  ⟨h, foldl_storeJob_of_increasing h⟩

def digitCharValue (c : Char) : Nat :=
  if c.toNat ≤ '9'.toNat then c.toNat - '0'.toNat else c.toNat - 'a'.toNat + 10

def hexDigitsValue (cs : List Char) : Nat := cs.foldl (fun n c => n * 16 + digitCharValue c) 0

theorem digitCharValue_digitChar : ∀ d < 16, digitCharValue (Nat.digitChar d) = d := by decide

theorem foldl_toDigitsCore : ∀ fuel n ds, n < fuel →
    (Nat.toDigitsCore 16 fuel n ds).foldl (fun n c => n * 16 + digitCharValue c) 0 =
      ds.foldl (fun n c => n * 16 + digitCharValue c) n := by
  intro fuel
  induction fuel with
  | zero => intro n ds h; omega
  | succ fuel ih =>
    intro n ds h
    have hd := digitCharValue_digitChar (n % 16) (Nat.mod_lt _ (by omega))
    rw [Nat.toDigitsCore]
    split
    · rw [List.foldl_cons, hd]; congr 1; omega
    · rw [ih _ _ (by omega), List.foldl_cons, hd, Nat.div_add_mod']

theorem hexDigitsValue_hexNumber (n : Nat) : hexDigitsValue (hexNumber n).data = n := by
  simpa [hexDigitsValue] using foldl_toDigitsCore (n + 1) n [] (by omega)

theorem foldl_zeros (k : Nat) (ds : List Char) :
    (List.replicate k '0' ++ ds).foldl (fun n c => n * 16 + digitCharValue c) 0 =
      ds.foldl (fun n c => n * 16 + digitCharValue c) 0 := by
  induction k with
  | zero => rfl
  | succ k ih => simpa [List.replicate_succ] using ih

theorem hexDigitsValue_padHex8 (s : String) : hexDigitsValue (padHex8 s).data = hexDigitsValue s.data :=
  foldl_zeros _ _

theorem length_padHex8_hexNumber {n : Nat} (h : n < 2 ^ 32) :
    (padHex8 (hexNumber n)).data.length = 8 := by
  have : (hexNumber n).data.length ≤ 8 :=
    Nat.toDigitsCore_length 16 (by omega) (n + 1) n 8 (by simpa using h) (by omega)
  simp only [padHex8, String.data_append, List.length_append, List.length_replicate]
  exact Nat.sub_add_cancel this

theorem generateJobId_data (time : Int) (c : Nat) : (generateJobId time c).data =
    (hexNumber (time % 2 ^ 64).toNat).data ++ (padHex8 (hexNumber (c % 2 ^ 64))).data := rfl

theorem generateJobId_counter_eq {time time' : Int} {c c' : Nat} (hc : c < 2 ^ 32) (hc' : c' < 2 ^ 32)
    (h : generateJobId time c = generateJobId time' c') : c = c' := by
  have hdata := congrArg String.data h
  rw [generateJobId_data, generateJobId_data] at hdata
  have hsuffix := List.append_inj_right' hdata (by
    rw [length_padHex8_hexNumber (by omega), length_padHex8_hexNumber (by omega)])
  have := congrArg hexDigitsValue hsuffix
  rwa [hexDigitsValue_padHex8, hexDigitsValue_padHex8, hexDigitsValue_hexNumber, hexDigitsValue_hexNumber,
    Nat.mod_eq_of_lt (by omega), Nat.mod_eq_of_lt (by omega)] at this

theorem mem_putJob {m : JobMap} {key : String} {job : StratumJob} {e : String × StratumJob}
    (h : e ∈ putJob m key job) : e ∈ m ∨ e.1 = key := by
  unfold putJob at h
  split at h
  · obtain ⟨e', he', rfl⟩ := List.mem_map.mp h
    split
    · exact .inr rfl
    · exact .inl he'
  · rcases List.mem_append.mp h with h | h
    · exact .inl h
    · exact .inr (by rw [List.mem_singleton.mp h])

theorem mem_storeJob {before : String → String → Bool} {job : StratumJob} {m : JobMap}
    {e : String × StratumJob} (h : e ∈ storeJob before job m) : e ∈ m ∨ e.1 = job.jobId := by
  unfold storeJob at h
  dsimp only at h
  split at h
  · split at h
    · exact mem_putJob (List.mem_filter.mp h).1
    · exact mem_putJob h
  · exact mem_putJob h

end Wattx.StratumJobs
