import Mathlib.Data.List.Sort
import Wattx.LockDiscipline

/-!
The job thread and one client's reader thread of `StratumServer`, interleaved at their
`lock_guard`s. A job is named by its creation number (`m_job_counter` after it is built, 0 for the
empty `m_current_job`); who holds each mutex is read off the program counters, and a thread
waiting for a mutex has no step. Left out: the other readers and the accept thread, the replies,
which carry no job, a `CreateNewJob` that returns early, and the wait on `m_job_cv`.
-/

namespace Wattx.JobDelivery

open LockDiscipline StratumJobs

structure ClientFlags where
  subscribed : Bool := false
  authorized : Bool := false
  deriving DecidableEq, Repr

inductive Request
  | subscribe
  | authorize
  | submit
  | getJob
  | other
  deriving DecidableEq, Repr

inductive JobPc
  | createNewJob
  | storeJob (job : Nat)
  | storedJob (job : Nat)
  | broadcastJob (job : Nat)
  | visit (job : Nat) (clients : List (Int × ClientFlags))
  | sendJob (job : Nat) (id : Int) (clients : List (Int × ClientFlags))
  | sentJob (job : Nat) (clients : List (Int × ClientFlags))
  deriving DecidableEq, Repr

def JobPc.holds : JobPc → Mutex → Bool
  | .storedJob _, .jobs => true
  | .visit .., .clients => true
  | .sendJob .., .clients => true
  | .sentJob .., .clients => true
  | _, _ => false

inductive ReaderPc
  | dispatch (reqs : List Request)
  | setFlags (subscribe authorize : Bool) (k : ReaderPc)
  | scope (m : Mutex) (k : ReaderPc)
  | sendToClient (job : Option Nat) (k : ReaderPc)
  | unlock (m : Mutex) (k : ReaderPc)
  | copyJob (reqs : List Request)
  | sendCurrentJob (reqs : List Request)
  deriving DecidableEq, Repr

def ReaderPc.holds : ReaderPc → Mutex → Bool
  | .setFlags _ _ k, m => k.holds m
  | .scope _ k, m => k.holds m
  | .sendToClient _ k, m => k.holds m
  | .unlock m' k, m => m' == m || k.holds m
  | _, _ => false

def ReaderPc.pending : ReaderPc → List Nat
  | .setFlags _ _ k => k.pending
  | .scope _ k => k.pending
  | .sendToClient job k => job.toList ++ k.pending
  | .unlock _ k => k.pending
  | _ => []

def handleMessage : Request → List Request → ReaderPc
  | .subscribe, reqs => .setFlags true false (.sendToClient none (.dispatch reqs))
  | .authorize, reqs => .setFlags false true (.sendToClient none (.sendCurrentJob reqs))
  | .submit, reqs => .scope .jobs (.sendToClient none (.scope .clients (.dispatch reqs)))
  | .getJob, reqs => .setFlags true true (.copyJob reqs)
  | .other, reqs => .sendToClient none (.dispatch reqs)

structure Server where
  clients : List (Int × ClientFlags)
  currentJob : Nat
  created : Nat
  delivered : List (Int × Nat)
  client : Int
  jobThread : JobPc
  reader : ReaderPc
  deriving DecidableEq, Repr

def Server.free (t : Server) (m : Mutex) : Bool := !t.jobThread.holds m && !t.reader.holds m

def Server.send (t : Server) (id : Int) (job : Option Nat) : List (Int × Nat) :=
  t.delivered ++ job.toList.map fun j => (id, j)

@[simp] theorem Server.send_map_snd (t : Server) (id : Int) (job : Option Nat) :
    (t.send id job).map Prod.snd = t.delivered.map Prod.snd ++ job.toList := by
  simp [Server.send, Function.comp_def]

def markClient (client : Int) (subscribe authorize : Bool) :
    List (Int × ClientFlags) → List (Int × ClientFlags) :=
  List.map fun e =>
    if e.1 = client then (e.1, ⟨e.2.subscribed || subscribe, e.2.authorized || authorize⟩) else e

def jobStep (t : Server) : JobPc → Option Server
  | .createNewJob => some { t with created := t.created + 1, jobThread := .storeJob (t.created + 1) }
  | .storeJob job =>
    if t.free .jobs then some { t with currentJob := job, jobThread := .storedJob job } else none
  | .storedJob job => some { t with jobThread := .broadcastJob job }
  | .broadcastJob job =>
    if t.free .clients then some { t with jobThread := .visit job t.clients } else none
  | .visit _ [] => some { t with jobThread := .createNewJob }
  | .visit job ((id, flags) :: clients) =>
    some { t with jobThread :=
      if flags.subscribed && flags.authorized then .sendJob job id clients else .visit job clients }
  | .sendJob job id clients =>
    if t.free .clients then
      some { t with delivered := t.send id (some job), jobThread := .sentJob job clients }
    else none
  | .sentJob job clients => some { t with jobThread := .visit job clients }

def readerStep (t : Server) : ReaderPc → Option Server
  | .dispatch [] => none
  | .dispatch (r :: reqs) => some { t with reader := handleMessage r reqs }
  | .setFlags subscribe authorize k =>
    if t.free .clients then
      some { t with
        clients := markClient t.client subscribe authorize t.clients
        reader := .unlock .clients k }
    else none
  | .scope m k => if t.free m then some { t with reader := .unlock m k } else none
  | .sendToClient job k =>
    if t.free .clients then
      some { t with delivered := t.send t.client job, reader := .unlock .clients k }
    else none
  | .unlock _ k => some { t with reader := k }
  | .copyJob reqs =>
    if t.free .jobs then
      some { t with reader := .unlock .jobs (.sendToClient (some t.currentJob) (.dispatch reqs)) }
    else none
  | .sendCurrentJob reqs =>
    if t.free .jobs then
      some { t with reader := if t.currentJob = 0 then .unlock .jobs (.dispatch reqs)
        else .sendToClient (some t.currentJob) (.unlock .jobs (.dispatch reqs)) }
    else none

inductive Thread
  | jobThread
  | reader
  deriving DecidableEq, Repr

def step (t : Server) : Thread → Option Server
  | .jobThread => jobStep t t.jobThread
  | .reader => readerStep t t.reader

def run (sched : List Thread) (t : Server) : Server := sched.foldl (fun t th => (step t th).getD t) t

def start (clients : List (Int × ClientFlags)) (client : Int) (reqs : List Request) : Server :=
  ⟨clients, 0, 0, [], client, .createNewJob, .dispatch reqs⟩

def jobsSentTo (t : Server) (c : Int) : List Nat := (t.delivered.filter fun e => e.1 = c).map Prod.snd

@[simp] theorem run_nil (t : Server) : run [] t = t := rfl

@[simp] theorem run_cons (th : Thread) (sched : List Thread) (t : Server) :
    run (th :: sched) t = run sched ((step t th).getD t) := rfl

theorem jobStep_sendJob {t : Server} {job : Nat} {id : Int} {clients : List (Int × ClientFlags)}
    (h : t.jobThread = .sendJob job id clients) : jobStep t t.jobThread = none := by
  simp [h, jobStep, Server.free, JobPc.holds]

def Server.committed (t : Server) : List Nat := t.delivered.map Prod.snd ++ t.reader.pending

structure Inv (t : Server) : Prop where
  sorted : t.committed.Sorted (· ≤ ·)
  le_currentJob : ∀ j ∈ t.committed, j ≤ t.currentJob
  currentJob_le : t.currentJob ≤ t.created
  storeJob_le : ∀ job, t.jobThread = .storeJob job → t.currentJob ≤ job ∧ job ≤ t.created

theorem inv_start (clients : List (Int × ClientFlags)) (client : Int) (reqs : List Request) :
    Inv (start clients client reqs) :=
  ⟨List.sorted_nil, by simp [Server.committed, start, ReaderPc.pending], le_rfl, by simp [start]⟩

theorem Inv.setJobThread {t : Server} (hi : Inv t) {pc : JobPc} (hpc : ∀ job, pc ≠ .storeJob job) :
    Inv { t with jobThread := pc } :=
  ⟨hi.sorted, hi.le_currentJob, hi.currentJob_le, fun job h => absurd h (hpc job)⟩

theorem jobStep_inv {t t' : Server} (hi : Inv t) (h : jobStep t t.jobThread = some t') : Inv t' := by
  cases hpc : t.jobThread with
  | createNewJob =>
    rw [hpc] at h
    cases h
    exact ⟨hi.sorted, hi.le_currentJob, Nat.le_succ_of_le hi.currentJob_le,
      fun _ h => by cases h; exact ⟨Nat.le_succ_of_le hi.currentJob_le, le_rfl⟩⟩
  | storeJob job =>
    rw [hpc, jobStep] at h
    split_ifs at h
    cases h
    obtain ⟨hle, hcr⟩ := hi.storeJob_le job hpc
    exact ⟨hi.sorted, fun j hj => (hi.le_currentJob j hj).trans hle, hcr, fun _ h => by cases h⟩
  | sendJob job id clients => rw [jobStep_sendJob hpc] at h; cases h
  | visit job clients =>
    rw [hpc] at h
    rcases clients with _ | ⟨⟨id, flags⟩, clients⟩ <;> cases h
    · exact hi.setJobThread fun _ => JobPc.noConfusion
    · exact hi.setJobThread fun _ => by split <;> exact JobPc.noConfusion
  | _ =>
    rw [hpc, jobStep] at h
    try split_ifs at h
    cases h
    exact hi.setJobThread fun _ => JobPc.noConfusion

theorem handleMessage_pending (r : Request) (reqs : List Request) :
    (handleMessage r reqs).pending = [] := by
  cases r <;> rfl

theorem readerStep_spec {t t' : Server} (h : readerStep t t.reader = some t') :
    t'.currentJob = t.currentJob ∧ t'.created = t.created ∧ t'.jobThread = t.jobThread ∧
      (t'.committed = t.committed ∨ t'.committed = t.committed ++ [t.currentJob]) := by
  unfold readerStep at h
  split at h <;> (try split_ifs at h) <;> cases h <;> refine ⟨rfl, rfl, rfl, ?_⟩ <;>
    simp only [Server.committed, Server.send_map_snd, ReaderPc.pending, handleMessage_pending, *,
      Option.toList_some, List.append_nil, List.append_assoc, true_or, or_true, eq_self_iff_true]

theorem readerStep_inv {t t' : Server} (hi : Inv t) (h : readerStep t t.reader = some t') :
    Inv t' := by
  obtain ⟨hcur, hcr, hjob, hc⟩ := readerStep_spec h
  have hstore : ∀ job, t'.jobThread = .storeJob job → t'.currentJob ≤ job ∧ job ≤ t'.created := by
    rw [hcur, hcr, hjob]; exact hi.storeJob_le
  rcases hc with hc | hc
  · exact ⟨hc ▸ hi.sorted, hc ▸ hcur ▸ hi.le_currentJob, hcur ▸ hcr ▸ hi.currentJob_le, hstore⟩
  · refine ⟨?_, ?_, hcur ▸ hcr ▸ hi.currentJob_le, hstore⟩
    · rw [hc]
      exact List.pairwise_append.mpr ⟨hi.sorted, List.sorted_singleton _,
        fun j hj _ hk => (List.mem_singleton.mp hk) ▸ hi.le_currentJob j hj⟩
    · intro j hj
      rw [hc, List.mem_append, List.mem_singleton] at hj
      rw [hcur]
      rcases hj with hj | rfl
      · exact hi.le_currentJob j hj
      · exact le_rfl

theorem step_inv {t : Server} (hi : Inv t) (th : Thread) : Inv ((step t th).getD t) := by
  cases h : step t th with
  | none => exact hi
  | some t' =>
    cases th
    · exact jobStep_inv hi h
    · exact readerStep_inv hi h

theorem run_inv {t : Server} (hi : Inv t) (sched : List Thread) : Inv (run sched t) := by
  induction sched generalizing t with
  | nil => exact hi
  | cons th sched ih => exact ih (step_inv hi th)

theorem jobsSentTo_sorted (clients : List (Int × ClientFlags)) (client : Int) (reqs : List Request)
    (sched : List Thread) (c : Int) :
    (jobsSentTo (run sched (start clients client reqs)) c).Sorted (· ≤ ·) :=
  List.Pairwise.sublist ((List.filter_sublist _).map Prod.snd)
    (List.pairwise_append.mp (run_inv (inv_start clients client reqs) sched).sorted).1

example :
    jobsSentTo (run (List.replicate 6 .jobThread ++ List.replicate 16 .reader)
      (start [(7, {})] 7 [.getJob, .authorize])) 7 = [1, 1] :=
  rfl

end Wattx.JobDelivery
