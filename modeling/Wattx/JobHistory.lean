import Wattx.StratumSessions

/-!
`m_jobs` and the job ids over runs of the server. Eviction erases `m_jobs.begin()`, the key that
comes first in the container's order, which need not be the oldest job.
-/

namespace Wattx.JobHistory

open Block Json StratumJobs Stratum

theorem lookup_eq_none_of_fresh {k : String} {m : JobMap} (h : ∀ e ∈ m, e.1 ≠ k) :
    m.lookup k = none := by
  induction m with
  | nil => rfl
  | cons e m ih =>
    obtain ⟨k', v⟩ := e
    have hb : (k == k') = false := by simpa using (h _ (List.mem_cons_self _ m)).symm
    simp only [List.lookup_cons, hb]
    exact ih fun e' he' => h e' (List.mem_cons_of_mem _ he')

theorem validateAndSubmitShare_unknown_job (env : Env) (answers : Answers) {jobId : String}
    (nonceHex : String) {s : StratumServer} (h : s.jobs.lookup jobId = none) :
    validateAndSubmitShare env answers jobId nonceHex s = (false, s) := by
  simp [validateAndSubmitShare, h]

theorem createNewJob_some (env : Env) (tmpl : BlockTemplate) (tipHeight : Option Int) (time : Int)
    {s : StratumServer} (h : s.mining = true) :
    (createNewJob env (some tmpl) tipHeight time s).1 =
      { s with jobCounter := s.jobCounter + 1,
               jobs := storeJob env.jobOrder (makeJob tmpl tipHeight (generateJobId time s.jobCounter))
                 s.jobs,
               currentJob := makeJob tmpl tipHeight (generateJobId time s.jobCounter) } := by
  simp [createNewJob, h]

theorem run_createNewJob_iterate {env : Env} {evs : List Event} {s : StratumServer}
    (tmpl : Option BlockTemplate) (tipHeight : Option Int) (time : Int) (n : Nat)
    (h : Run env evs s) (hr : s.running = true) :
    Run env (evs ++ List.replicate n (.newJob tmpl tipHeight time))
      ((fun s => (createNewJob env tmpl tipHeight time s).1)^[n] s) := by
  induction n generalizing evs s with
  | zero => simpa using h
  | succ n ih =>
    have hr' : (createNewJob env tmpl tipHeight time s).1.running = true := by
      unfold createNewJob; split
      · exact hr
      · split <;> exact hr
    rw [List.replicate_succ, ← List.singleton_append, ← List.append_assoc, Function.iterate_succ_apply]
    exact ih (.step h hr) hr'

theorem createNewJob_loses_current_job {env : Env} {evs : List Event} {s : StratumServer}
    (tmpl : BlockTemplate) (tipHeight : Option Int) (time : Int) (h : Run env evs s)
    (hr : s.running = true) (hm : s.mining = true) (hlen : s.jobs.length = maxStoredJobs)
    (hfresh : ∀ e ∈ s.jobs, e.1 ≠ generateJobId time s.jobCounter)
    (hfirst : ∀ e ∈ s.jobs, env.jobOrder (generateJobId time s.jobCounter) e.1 = true) :
    Run env (evs ++ [.newJob (some tmpl) tipHeight time])
        (step env s (.newJob (some tmpl) tipHeight time)).1 ∧
      (step env s (.newJob (some tmpl) tipHeight time)).1.currentJob.jobId =
        generateJobId time s.jobCounter ∧
      (step env s (.newJob (some tmpl) tipHeight time)).1.jobs = s.jobs ∧
      ∀ answers nonceHex,
        validateAndSubmitShare env answers (generateJobId time s.jobCounter) nonceHex
          (step env s (.newJob (some tmpl) tipHeight time)).1 =
        (false, (step env s (.newJob (some tmpl) tipHeight time)).1) := by
  have hjobs : (step env s (.newJob (some tmpl) tipHeight time)).1.jobs = s.jobs := by
    rw [step, createNewJob_some env tmpl tipHeight time hm]
    exact storeJob_of_first hfresh hlen hfirst
  refine ⟨.step h hr, by rw [step, createNewJob_some env tmpl tipHeight time hm]; rfl, hjobs,
    fun answers nonceHex => validateAndSubmitShare_unknown_job env answers nonceHex ?_⟩
  rw [hjobs]
  exact lookup_eq_none_of_fresh hfresh

def tenJobsAt (time : Int) : StratumServer :=
  (fun s => (createNewJob (fixedEnv 0 true) (some ⟨{}⟩) none time s).1)^[10] (start ⟨"", 30⟩ 0)

set_option maxRecDepth 8000 in
theorem createNewJob_loses_current_job_clock_step_back :
    Run (fixedEnv 0 true) (List.replicate 10 (.newJob (some ⟨{}⟩) none 0x67000001))
        (tenJobsAt 0x67000001) ∧
      (tenJobsAt 0x67000001).running = true ∧ (tenJobsAt 0x67000001).mining = true ∧
      (tenJobsAt 0x67000001).jobs.length = maxStoredJobs ∧
      (∀ e ∈ (tenJobsAt 0x67000001).jobs,
        e.1 ≠ generateJobId 0x67000000 (tenJobsAt 0x67000001).jobCounter) ∧
      (∀ e ∈ (tenJobsAt 0x67000001).jobs, (fixedEnv 0 true).jobOrder
        (generateJobId 0x67000000 (tenJobsAt 0x67000001).jobCounter) e.1 = true) ∧
      (Run (fixedEnv 0 true) (List.replicate 10 (.newJob (some ⟨{}⟩) none 0x67000001) ++
          [.newJob (some ⟨{}⟩) none 0x67000000])
          (step (fixedEnv 0 true) (tenJobsAt 0x67000001) (.newJob (some ⟨{}⟩) none 0x67000000)).1 ∧
        (step (fixedEnv 0 true) (tenJobsAt 0x67000001)
          (.newJob (some ⟨{}⟩) none 0x67000000)).1.currentJob.jobId =
          generateJobId 0x67000000 (tenJobsAt 0x67000001).jobCounter ∧
        (step (fixedEnv 0 true) (tenJobsAt 0x67000001) (.newJob (some ⟨{}⟩) none 0x67000000)).1.jobs =
          (tenJobsAt 0x67000001).jobs ∧
        ∀ answers nonceHex,
          validateAndSubmitShare (fixedEnv 0 true) answers
            (generateJobId 0x67000000 (tenJobsAt 0x67000001).jobCounter) nonceHex
            (step (fixedEnv 0 true) (tenJobsAt 0x67000001) (.newJob (some ⟨{}⟩) none 0x67000000)).1 =
          (false, (step (fixedEnv 0 true) (tenJobsAt 0x67000001)
            (.newJob (some ⟨{}⟩) none 0x67000000)).1)) :=
  have h : Run (fixedEnv 0 true) (List.replicate 10 (.newJob (some ⟨{}⟩) none 0x67000001))
      (tenJobsAt 0x67000001) :=
    @run_createNewJob_iterate (fixedEnv 0 true) [] _ (some ⟨{}⟩) none 0x67000001 10
      (.start ⟨"", 30⟩ 0) rfl
  have hr : (tenJobsAt 0x67000001).running = true := by decide
  have hm : (tenJobsAt 0x67000001).mining = true := by decide
  have hlen : (tenJobsAt 0x67000001).jobs.length = maxStoredJobs := by decide
  have hfresh : ∀ e ∈ (tenJobsAt 0x67000001).jobs,
      e.1 ≠ generateJobId 0x67000000 (tenJobsAt 0x67000001).jobCounter := by decide
  have hfirst : ∀ e ∈ (tenJobsAt 0x67000001).jobs, (fixedEnv 0 true).jobOrder
      (generateJobId 0x67000000 (tenJobsAt 0x67000001).jobCounter) e.1 = true := by decide
  ⟨h, hr, hm, hlen, hfresh, hfirst,
    createNewJob_loses_current_job ⟨{}⟩ none 0x67000000 h hr hm hlen hfresh hfirst⟩

def jobState (s : StratumServer) : JobMap × Nat × StratumJob := (s.jobs, s.jobCounter, s.currentJob)

theorem jobState_handleSubmit (env : Env) (answers : Answers) (c : Int) (id : String)
    (params : List String) (s : StratumServer) :
    jobState (handleSubmit env answers c id params s).1 = jobState s := by
  unfold handleSubmit
  dsimp only
  split
  · rfl
  · obtain ⟨engine, blocksFound, hv⟩ :=
      validateAndSubmitShare_shape env answers (submitFields env params).1 (submitFields env params).2 s
    simp only [hv, countShare]
    split <;> rfl

theorem jobState_handleRequest (env : Env) (answers : Answers) (c : Int) (request : UniValue)
    (s : StratumServer) : jobState (handleRequest env answers c request s).1 = jobState s := by
  unfold handleRequest
  split
  · rfl
  · split_ifs
    · unfold handleSubscribe; split <;> rfl
    · unfold handleAuthorize; split <;> rfl
    · exact jobState_handleSubmit ..
    · unfold handleGetJob; split <;> rfl
    · rfl

structure IdsIssued (s : StratumServer) : Prop where
  jobs : ∀ e ∈ s.jobs, ∃ t c, c < s.jobCounter ∧ e.1 = generateJobId t c
  current : s.currentJob.jobId = "" ∨ ∃ t c, c < s.jobCounter ∧ s.currentJob.jobId = generateJobId t c

theorem IdsIssued.of_jobState {s s' : StratumServer} (h : IdsIssued s) (hs : jobState s' = jobState s) :
    IdsIssued s' := by
  simp only [jobState, Prod.mk.injEq] at hs
  obtain ⟨hj, hc, hcur⟩ := hs
  exact ⟨by simpa [hj, hc] using h.jobs, by simpa [hc, hcur] using h.current⟩

theorem idsIssued_createNewJob (env : Env) (tmpl : Option BlockTemplate) (tipHeight : Option Int)
    (time : Int) {s : StratumServer} (h : IdsIssued s) :
    IdsIssued (createNewJob env tmpl tipHeight time s).1 := by
  unfold createNewJob
  split
  · exact h
  · split
    · exact h
    · refine ⟨fun e he => ?_, .inr ⟨time, s.jobCounter, Nat.lt_succ_self _, rfl⟩⟩
      rcases mem_storeJob he with he | he
      · obtain ⟨t, c, hc, hid⟩ := h.jobs e he
        exact ⟨t, c, Nat.lt_succ_of_lt hc, hid⟩
      · exact ⟨time, s.jobCounter, Nat.lt_succ_self _, he⟩

theorem idsIssued_step (env : Env) {s : StratumServer} (ev : Event) (h : IdsIssued s) :
    IdsIssued (step env s ev).1 := by
  cases ev with
  | message c request answers => exact h.of_jobState (jobState_handleRequest env answers c request s)
  | newJob tmpl tipHeight time => exact idsIssued_createNewJob env tmpl tipHeight time h
  | _ => exact h.of_jobState rfl

theorem run_idsIssued {env : Env} {evs : List Event} {s : StratumServer} (h : Run env evs s) :
    IdsIssued s := by
  induction h with
  | start config flags => exact ⟨fun e he => absurd he (List.not_mem_nil e), .inl rfl⟩
  | step _ _ ih => exact idsIssued_step env _ ih

theorem generateJobId_ne_empty (time : Int) (c : Nat) : generateJobId time c ≠ "" := by
  intro h
  have hlen := congrArg (fun s => s.data.length) h
  simp only [generateJobId_data, padHex8, String.data_append, List.length_append,
    List.length_replicate] at hlen
  change _ + (8 - (hexNumber _).data.length + _) = 0 at hlen
  omega

theorem run_generateJobId_fresh {env : Env} {evs : List Event} {s : StratumServer}
    (h : Run env evs s) (hc : s.jobCounter < 2 ^ 32) (time : Int) :
    (∀ e ∈ s.jobs, e.1 ≠ generateJobId time s.jobCounter) ∧
      s.currentJob.jobId ≠ generateJobId time s.jobCounter ∧
      ∀ job, putJob s.jobs (generateJobId time s.jobCounter) job =
        s.jobs ++ [(generateJobId time s.jobCounter, job)] := by
  have hi := run_idsIssued h
  have hfresh : ∀ e ∈ s.jobs, e.1 ≠ generateJobId time s.jobCounter := by
    intro e he hid
    obtain ⟨t, c, hlt, he'⟩ := hi.jobs e he
    exact absurd (generateJobId_counter_eq (by omega) hc (he' ▸ hid)) (Nat.ne_of_lt hlt)
  refine ⟨hfresh, ?_, fun job => putJob_of_fresh job hfresh⟩
  rcases hi.current with h0 | ⟨t, c, hlt, hid⟩
  · rw [h0]; exact (generateJobId_ne_empty time _).symm
  · rw [hid]; exact fun heq => Nat.ne_of_lt hlt (generateJobId_counter_eq (by omega) hc heq)

set_option maxRecDepth 8000 in
theorem run_generateJobId_fresh_clock_step_back :
    Run (fixedEnv 0 true) (List.replicate 10 (.newJob (some ⟨{}⟩) none 0x67000001))
        (tenJobsAt 0x67000001) ∧
      (tenJobsAt 0x67000001).jobCounter < 2 ^ 32 ∧
      (∀ e ∈ (tenJobsAt 0x67000001).jobs,
        e.1 ≠ generateJobId 0x67000000 (tenJobsAt 0x67000001).jobCounter) ∧
      (tenJobsAt 0x67000001).currentJob.jobId ≠
        generateJobId 0x67000000 (tenJobsAt 0x67000001).jobCounter ∧
      ∀ job, putJob (tenJobsAt 0x67000001).jobs
          (generateJobId 0x67000000 (tenJobsAt 0x67000001).jobCounter) job =
        (tenJobsAt 0x67000001).jobs ++
          [(generateJobId 0x67000000 (tenJobsAt 0x67000001).jobCounter, job)] :=
  have h : Run (fixedEnv 0 true) (List.replicate 10 (.newJob (some ⟨{}⟩) none 0x67000001))
      (tenJobsAt 0x67000001) :=
    @run_createNewJob_iterate (fixedEnv 0 true) [] _ (some ⟨{}⟩) none 0x67000001 10
      (.start ⟨"", 30⟩ 0) rfl
  have hc : (tenJobsAt 0x67000001).jobCounter < 2 ^ 32 := by decide
  ⟨h, hc, run_generateJobId_fresh h hc 0x67000000⟩

end Wattx.JobHistory
