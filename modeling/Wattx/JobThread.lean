import Mathlib.Data.List.Basic

/-!
`JobThread` and `m_job_cv` (`stratum/stratum_server.cpp`): `CreateNewJob`, then
`wait_for(lock, seconds(job_timeout_seconds), [this] { return !m_running; })`; `NotifyNewBlock`
and `Stop` call `notify_all()`.
-/

namespace Wattx.JobThread

inductive Pc
  | creating
  | waiting (deadline : Nat)
  | exited
  deriving DecidableEq, Repr

structure JobState where
  pc : Pc := .creating
  running : Bool := true
  now : Nat := 0
  deriving DecidableEq, Repr

inductive JobEvent
  | createDone
  | notifyNewBlock
  | tick (seconds : Nat)
  | timeout
  | stop
  deriving DecidableEq, Repr

def enterWait (timeoutSeconds : Nat) (t : JobState) : JobState :=
  if !t.running then { t with pc := .exited } else { t with pc := .waiting (t.now + timeoutSeconds) }

def wake (t : JobState) : JobState :=
  match t.pc with
  | .waiting _ => if !t.running then { t with pc := .exited } else t
  | _ => t

def jobStep (timeoutSeconds : Nat) (t : JobState) : JobEvent → JobState
  | .createDone => if t.pc = .creating then enterWait timeoutSeconds t else t
  | .notifyNewBlock => wake t
  | .tick seconds => { t with now := t.now + seconds }
  | .timeout =>
    match t.pc with
    | .waiting deadline =>
      if deadline ≤ t.now then { t with pc := if t.running then .creating else .exited } else t
    | _ => t
  | .stop => wake { t with running := false }

def jobRun (timeoutSeconds : Nat) (t : JobState) (evs : List JobEvent) : JobState :=
  evs.foldl (jobStep timeoutSeconds) t

theorem jobStep_notifyNewBlock (timeoutSeconds : Nat) {t : JobState} (h : t.running = true) :
    jobStep timeoutSeconds t .notifyNewBlock = t := by
  simp only [jobStep, wake]
  split <;> simp [h]

theorem jobStep_running (timeoutSeconds : Nat) (t : JobState) {ev : JobEvent} (h : ev ≠ .stop) :
    (jobStep timeoutSeconds t ev).running = t.running := by
  cases ev with
  | createDone => simp only [jobStep, enterWait]; split_ifs <;> rfl
  | notifyNewBlock => simp only [jobStep, wake]; split <;> (try split_ifs) <;> rfl
  | tick seconds => rfl
  | timeout => simp only [jobStep]; split <;> (try split_ifs) <;> rfl
  | stop => exact absurd rfl h

theorem jobRun_without_notify (timeoutSeconds : Nat) (evs : List JobEvent)
    (hstop : JobEvent.stop ∉ evs) {t : JobState} (hr : t.running = true) :
    jobRun timeoutSeconds t evs = jobRun timeoutSeconds t (evs.filter (· ≠ .notifyNewBlock)) := by
  induction evs generalizing t with
  | nil => rfl
  | cons ev evs ih =>
    have hs : ev ≠ .stop := fun h => hstop (h ▸ List.mem_cons_self ev evs)
    have hstop' : JobEvent.stop ∉ evs := fun h => hstop (List.mem_cons_of_mem ev h)
    by_cases hn : ev = .notifyNewBlock
    · subst hn
      simp only [jobRun, List.foldl_cons, jobStep_notifyNewBlock _ hr, List.filter_cons,
        ne_eq, not_true_eq_false, decide_False, Bool.false_eq_true, if_false]
      exact ih hstop' hr
    · simp only [jobRun, List.foldl_cons, List.filter_cons, ne_eq, hn, not_false_eq_true,
        decide_True, if_true]
      exact ih hstop' ((jobStep_running timeoutSeconds t hs).trans hr)

theorem jobRun_without_notify_block_found :
    JobEvent.stop ∉ [.createDone, .notifyNewBlock, .tick 30, .timeout] ∧
      ({} : JobState).running = true ∧
      jobRun 30 {} [.createDone, .notifyNewBlock] = { pc := .waiting 30 } ∧
      jobRun 30 {} [.createDone, .notifyNewBlock, .tick 29] = { pc := .waiting 30, now := 29 } ∧
      jobRun 30 {} [.createDone, .notifyNewBlock, .tick 30, .timeout] = { pc := .creating, now := 30 } ∧
      jobRun 30 {} [.createDone, .notifyNewBlock, .tick 30, .timeout] =
        jobRun 30 {} ([JobEvent.createDone, .notifyNewBlock, .tick 30, .timeout].filter
          (· ≠ .notifyNewBlock)) :=
  ⟨by decide, rfl, by decide, by decide, by decide,
    jobRun_without_notify 30 [.createDone, .notifyNewBlock, .tick 30, .timeout] (by decide) rfl⟩

end Wattx.JobThread
