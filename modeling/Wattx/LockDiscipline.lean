import Mathlib.Logic.Relation
import Wattx.StratumSessions

/-!
The `lock_guard` traces of the server's handlers on `m_clients_mutex` and `m_jobs_mutex`, and
their interleaving: an acquisition waits until the mutex is free, a `std::mutex` taken again by
its holder never returns, and only the owner releases. The RandomX engine's mutexes and the
condition variable's mutex are left out.
-/

namespace Wattx.LockDiscipline

open Json Stratum

inductive Mutex
  | clients
  | jobs
  deriving DecidableEq, Repr

inductive LockOp
  | acquire (m : Mutex)
  | release (m : Mutex)
  deriving DecidableEq, Repr

structure Held where
  clients : Bool := false
  jobs : Bool := false
  deriving DecidableEq, Repr

def Held.get (h : Held) : Mutex → Bool
  | .clients => h.clients
  | .jobs => h.jobs

def Held.set (h : Held) (b : Bool) : Mutex → Held
  | .clients => { h with clients := b }
  | .jobs => { h with jobs := b }

inductive LockFault
  | relock (m : Mutex)
  | order
  | unlockFree (m : Mutex)
  deriving DecidableEq, Repr

def runLocks (held : Held) : List LockOp → Except LockFault Held
  | [] => .ok held
  | .acquire m :: ops =>
    if held.get m then .error (.relock m)
    else if m = .jobs ∧ held.clients then .error .order
    else runLocks (held.set true m) ops
  | .release m :: ops => if held.get m then runLocks (held.set false m) ops else .error (.unlockFree m)

theorem runLocks_append (held : Held) (xs ys : List LockOp) :
    runLocks held (xs ++ ys) = (runLocks held xs).bind fun h => runLocks h ys := by
  induction xs generalizing held with
  | nil => rfl
  | cons op xs ih =>
    cases op with
    | acquire m => simp only [List.cons_append, runLocks]; split_ifs <;> first | exact ih _ | rfl
    | release m => simp only [List.cons_append, runLocks]; split_ifs <;> first | exact ih _ | rfl

def scope (m : Mutex) (body : List LockOp) : List LockOp := .acquire m :: (body ++ [.release m])

def sendToClientLocks : List LockOp := scope .clients []

def broadcastJobLocks (s : StratumServer) : List LockOp :=
  scope .clients ((s.clients.filter fun e => e.2.subscribed && e.2.authorized).flatMap
    fun _ => sendToClientLocks)

def handleSubscribeLocks (s : StratumServer) (c : Int) : List LockOp :=
  scope .clients [] ++ if (findClient s c).isSome then sendToClientLocks else []

def handleAuthorizeLocks (s : StratumServer) (c : Int) : List LockOp :=
  scope .clients [] ++
    if (findClient s c).isSome then
      sendToClientLocks ++ scope .jobs (if s.currentJob.jobId.isEmpty then [] else sendToClientLocks)
    else []

def handleGetJobLocks (s : StratumServer) (c : Int) : List LockOp :=
  scope .clients [] ++ if (findClient s c).isSome then scope .jobs [] ++ sendToClientLocks else []

def validateAndSubmitShareLocks : List LockOp := scope .jobs []

def handleSubmitLocks (env : Env) (params : List String) : List LockOp :=
  if (submitFields env params).1.isEmpty || (submitFields env params).2.isEmpty then sendToClientLocks
  else validateAndSubmitShareLocks ++ sendToClientLocks ++ scope .clients []

def handleRequestLocks (env : Env) (s : StratumServer) (c : Int) (request : UniValue) :
    List LockOp :=
  match parseRequest env request with
  | none => []
  | some r =>
    if r.method = "mining.subscribe" then handleSubscribeLocks s c
    else if r.method = "mining.authorize" then handleAuthorizeLocks s c
    else if r.method = "mining.submit" ∨ r.method = "submit" then handleSubmitLocks env r.params
    else if r.method = "login" ∨ r.method = "getjob" then handleGetJobLocks s c
    else sendToClientLocks

def clientReadLocks : List LockOp := scope .clients [] ++ scope .clients []

def createNewJobLocks (s : StratumServer) (tmpl : Option StratumJobs.BlockTemplate) : List LockOp :=
  if !s.mining then []
  else match tmpl with
    | none => []
    | some _ => scope .jobs [] ++ broadcastJobLocks s

def stepLocks (env : Env) (s : StratumServer) : Event → List LockOp
  | .accept .. => scope .clients []
  | .message c request _ => clientReadLocks ++ handleRequestLocks env s c request
  | .disconnect _ => scope .clients []
  | .newJob tmpl _ _ => createNewJobLocks s tmpl
  | .engineOp _ => []
  | .stop => scope .clients []

def broadcastsToClient (s : StratumServer) : Event → Bool
  | .newJob (some _) _ _ => s.mining && s.clients.any fun e => e.2.subscribed && e.2.authorized
  | _ => false

theorem runLocks_broadcastJobLocks (s : StratumServer) :
    runLocks {} (broadcastJobLocks s) =
      if s.clients.any (fun e => e.2.subscribed && e.2.authorized) then .error (.relock .clients)
      else .ok {} := by
  unfold broadcastJobLocks
  cases hf : s.clients.filter (fun e => e.2.subscribed && e.2.authorized) with
  | nil =>
    rw [if_neg (by simpa [List.filter_eq_nil_iff] using hf)]
    rfl
  | cons e l =>
    have hany : s.clients.any (fun e => e.2.subscribed && e.2.authorized) = true := by
      have he : e ∈ s.clients.filter (fun e => e.2.subscribed && e.2.authorized) := hf ▸ List.mem_cons_self e l
      exact List.any_eq_true.mpr ⟨e, List.mem_of_mem_filter he, (List.mem_filter.mp he).2⟩
    rw [if_pos hany]
    rfl

theorem runLocks_handleRequestLocks (env : Env) (s : StratumServer) (c : Int) (request : UniValue) :
    runLocks {} (handleRequestLocks env s c request) = .ok {} := by
  unfold handleRequestLocks
  split
  · rfl
  · split_ifs <;>
      (try simp only [handleSubscribeLocks, handleAuthorizeLocks, handleSubmitLocks, handleGetJobLocks]) <;>
      (try split_ifs) <;> rfl

theorem runLocks_stepLocks (env : Env) (s : StratumServer) (ev : Event) :
    runLocks {} (stepLocks env s ev) =
      if broadcastsToClient s ev then .error (.relock .clients) else .ok {} := by
  cases ev with
  | message c request answers =>
    rw [stepLocks, runLocks_append]
    exact runLocks_handleRequestLocks env s c request
  | newJob tmpl tipHeight time =>
    cases tmpl with
    | none => simp only [stepLocks, createNewJobLocks]; split <;> rfl
    | some tmpl =>
      cases hm : s.mining
      · simp only [stepLocks, createNewJobLocks, broadcastsToClient, hm]; rfl
      · simp only [stepLocks, createNewJobLocks, broadcastsToClient, hm, Bool.not_true,
          Bool.false_eq_true, if_false, Bool.true_and, runLocks_append]
        exact runLocks_broadcastJobLocks s
  | _ => rfl

structure Threads where
  ops : Nat → List LockOp
  owner : Mutex → Option Nat

def Threads.init (ops : Nat → List LockOp) : Threads := ⟨ops, fun _ => none⟩

def heldBy (t : Threads) (i : Nat) : Held := ⟨t.owner .clients = some i, t.owner .jobs = some i⟩

/-- One lock operation of one thread; a waiting thread has no step. -/
inductive Step : Threads → Threads → Prop
  | acquire {t : Threads} {i : Nat} {m : Mutex} {rest : List LockOp}
      (hops : t.ops i = .acquire m :: rest) (hfree : t.owner m = none) :
      Step t ⟨Function.update t.ops i rest, Function.update t.owner m (some i)⟩
  | release {t : Threads} {i : Nat} {m : Mutex} {rest : List LockOp}
      (hops : t.ops i = .release m :: rest) (hown : t.owner m = some i) :
      Step t ⟨Function.update t.ops i rest, Function.update t.owner m none⟩

def Disciplined (t : Threads) : Prop := ∀ i, runLocks (heldBy t i) (t.ops i) = .ok {}

theorem heldBy_get (t : Threads) (i : Nat) (m : Mutex) :
    (heldBy t i).get m = decide (t.owner m = some i) := by
  cases m <;> rfl

theorem heldBy_acquire {t : Threads} (ops : Nat → List LockOp) {m : Mutex} (hfree : t.owner m = none)
    (i j : Nat) :
    heldBy ⟨ops, Function.update t.owner m (some i)⟩ j =
      if j = i then (heldBy t j).set true m else heldBy t j := by
  by_cases hj : j = i
  · subst hj; cases m <;> simp [heldBy, Held.set, Function.update]
  · cases m <;> simp [heldBy, Held.set, Function.update, hj, Ne.symm hj, hfree]

theorem heldBy_release {t : Threads} (ops : Nat → List LockOp) {m : Mutex} {i : Nat}
    (hown : t.owner m = some i) (j : Nat) :
    heldBy ⟨ops, Function.update t.owner m none⟩ j =
      if j = i then (heldBy t j).set false m else heldBy t j := by
  by_cases hj : j = i
  · subst hj; cases m <;> simp [heldBy, Held.set, Function.update]
  · cases m <;> simp [heldBy, Held.set, Function.update, hj, hown, Ne.symm hj]

theorem disciplined_init {ops : Nat → List LockOp} (h : ∀ i, runLocks {} (ops i) = .ok {}) :
    Disciplined (Threads.init ops) :=
  h

theorem disciplined_step {t t' : Threads} (hd : Disciplined t) (hs : Step t t') : Disciplined t' := by
  intro j
  cases hs with
  | @acquire i m rest hops hfree =>
    rw [heldBy_acquire _ hfree]
    by_cases hj : j = i
    · subst hj
      have h := hd j
      rw [hops, runLocks, heldBy_get, hfree] at h
      simp only [reduceCtorEq, decide_False, Bool.false_eq_true, if_false] at h
      split_ifs at h
      simpa using h
    · simpa [hj, Function.update_noteq hj] using hd j
  | @release i m rest hops hown =>
    rw [heldBy_release _ hown]
    by_cases hj : j = i
    · subst hj
      have h := hd j
      rw [hops, runLocks] at h
      split_ifs at h
      simpa using h
    · simpa [hj, Function.update_noteq hj] using hd j

theorem reachable_disciplined {t t' : Threads} (hd : Disciplined t)
    (h : Relation.ReflTransGen Step t t') : Disciplined t' := by
  induction h with
  | refl => exact hd
  | tail _ hs ih => exact disciplined_step ih hs

theorem ops_ne_nil_of_owner {t : Threads} (hd : Disciplined t) {m : Mutex} {j : Nat}
    (h : t.owner m = some j) : t.ops j ≠ [] := by
  intro hj
  have := hd j
  rw [hj, runLocks, Except.ok.injEq] at this
  cases m <;> simp_all [heldBy]

theorem step_or_waits {t : Threads} (hd : Disciplined t) {i : Nat} (hi : t.ops i ≠ []) :
    (∃ t', Step t t') ∨ ∃ m j rest, t.ops i = .acquire m :: rest ∧ t.owner m = some j ∧
      t.owner m ≠ some i ∧ (m = .jobs → t.owner .clients ≠ some i) := by
  obtain ⟨op, rest, hops⟩ := List.exists_cons_of_ne_nil hi
  have h := hd i
  rw [hops] at h
  cases op with
  | release m =>
    rw [runLocks] at h
    split_ifs at h with hm
    exact .inl ⟨_, .release hops (by simpa [heldBy_get] using hm)⟩
  | acquire m =>
    rw [runLocks] at h
    split_ifs at h with hm ho
    cases hw : t.owner m with
    | none => exact .inl ⟨_, .acquire hops hw⟩
    | some j =>
      refine .inr ⟨m, j, rest, hops, hw, by simpa [heldBy_get, hw] using hm, fun hmj => ?_⟩
      simpa [heldBy, hmj] using ho

theorem progress {t : Threads} (hd : Disciplined t) {i : Nat} (hi : t.ops i ≠ []) :
    ∃ t', Step t t' := by
  rcases step_or_waits hd hi with hs | ⟨m, j, -, -, hj, hij, hmi⟩
  · exact hs
  rcases step_or_waits hd (ops_ne_nil_of_owner hd hj) with hs | ⟨m', k, -, -, hk, hjk, hmj⟩
  · exact hs
  cases m <;> cases m'
  · exact absurd hj hjk
  · exact absurd hj (hmj rfl)
  · rcases step_or_waits hd (ops_ne_nil_of_owner hd hk) with hs | ⟨m'', l, -, -, hl, hkl, hmk⟩
    · exact hs
    cases m''
    · exact absurd hk hkl
    · exact absurd hk (hmk rfl)
  · exact absurd hj hjk

theorem reachable_progress {ops : Nat → List LockOp} (h : ∀ i, runLocks {} (ops i) = .ok {})
    {t : Threads} (ht : Relation.ReflTransGen Step (Threads.init ops) t) {i : Nat}
    (hi : t.ops i ≠ []) : ∃ t', Step t t' :=
  progress (reachable_disciplined (disciplined_init h) ht) hi

theorem stuck_forever {t t' : Threads} {i : Nat} {m : Mutex} {rest : List LockOp}
    (hops : t.ops i = .acquire m :: rest) (hown : t.owner m = some i)
    (h : Relation.ReflTransGen Step t t') : t'.ops i = t.ops i ∧ t'.owner m = some i := by
  induction h with
  | refl => exact ⟨rfl, hown⟩
  | tail _ hs ih =>
    obtain ⟨ih₁, ih₂⟩ := ih
    cases hs with
    | @acquire j m' rest' hops' hfree =>
      have hj : j ≠ i := by rintro rfl; rw [ih₁, hops] at hops'; cases hops'; simp_all
      have hm : m ≠ m' := by rintro rfl; simp_all
      exact ⟨(Function.update_noteq (Ne.symm hj) _ _).trans ih₁,
        (Function.update_noteq hm _ _).trans ih₂⟩
    | @release j m' rest' hops' hown' =>
      have hj : j ≠ i := by rintro rfl; rw [ih₁, hops] at hops'; cases hops'
      have hm : m ≠ m' := by rintro rfl; simp_all
      exact ⟨(Function.update_noteq (Ne.symm hj) _ _).trans ih₁,
        (Function.update_noteq hm _ _).trans ih₂⟩

theorem init_reaches_relock {ops : Nat → List LockOp} {rest : List LockOp}
    (h : ops 0 = .acquire .jobs :: .release .jobs :: .acquire .clients :: .acquire .clients :: rest) :
    ∃ t, Relation.ReflTransGen Step (Threads.init ops) t ∧
      t.ops 0 = .acquire .clients :: rest ∧ t.owner .clients = some 0 :=
  ⟨_, .tail (.tail (.single (.acquire h rfl))
      (@Step.release _ 0 .jobs (.acquire .clients :: .acquire .clients :: rest) (by simp) (by simp)))
    (@Step.acquire _ 0 .clients (.acquire .clients :: rest) (by simp) (by simp [Function.update, Threads.init])),
    by simp, by simp⟩

theorem broadcastJobLocks_of_any {s : StratumServer}
    (h : s.clients.any (fun e => e.2.subscribed && e.2.authorized) = true) :
    ∃ rest, broadcastJobLocks s = .acquire .clients :: .acquire .clients :: rest := by
  obtain ⟨e, he, hse⟩ := List.any_eq_true.mp h
  cases hf : s.clients.filter (fun e => e.2.subscribed && e.2.authorized) with
  | nil => exact absurd (List.mem_filter.mpr ⟨he, hse⟩) (hf ▸ List.not_mem_nil e)
  | cons e' l => exact ⟨_, by rw [broadcastJobLocks, hf]; rfl⟩

theorem mem_of_lookup {l : List (Int × StratumClient)} {c : Int} {cl : StratumClient}
    (h : l.lookup c = some cl) : (c, cl) ∈ l := by
  induction l with
  | nil => cases h
  | cons e l ih =>
    obtain ⟨k, v⟩ := e
    by_cases hc : c = k
    · subst hc
      simp only [List.lookup_nil, List.lookup_cons, beq_self_eq_true, Option.some.injEq] at h
      subst h
      exact List.mem_cons_self _ _
    · have hb : (c == k) = false := by simpa using hc
      simp only [List.lookup_nil, List.lookup_cons, hb] at h
      exact List.mem_cons_of_mem _ (ih h)

theorem createNewJob_relocks_clients {env : Env} {evs : List Event} {s : StratumServer}
    (tmpl : StratumJobs.BlockTemplate) (tipHeight : Option Int) (time : Int) (h : Run env evs s)
    (hr : s.running = true) (hm : s.mining = true) {c : Int} {cl : StratumClient}
    (hc : findClient s c = some cl) (hsub : cl.subscribed = true) (hauth : cl.authorized = true)
    (ops : Nat → List LockOp) (hjob : ops 0 = stepLocks env s (.newJob (some tmpl) tipHeight time)) :
    Run env (evs ++ [.newJob (some tmpl) tipHeight time])
        (step env s (.newJob (some tmpl) tipHeight time)).1 ∧
      runLocks {} (ops 0) = .error (.relock .clients) ∧
      ∃ t, Relation.ReflTransGen Step (Threads.init ops) t ∧
        ∀ t', Relation.ReflTransGen Step t t' → t'.ops 0 = t.ops 0 ∧ t'.ops 0 ≠ [] ∧
          t'.owner .clients = some 0 := by
  have hany : s.clients.any (fun e => e.2.subscribed && e.2.authorized) = true :=
    List.any_eq_true.mpr ⟨_, mem_of_lookup hc, by simp [hsub, hauth]⟩
  obtain ⟨rest, hb⟩ := broadcastJobLocks_of_any hany
  have hops : ops 0 = .acquire .jobs :: .release .jobs :: .acquire .clients :: .acquire .clients :: rest := by
    rw [hjob, stepLocks, createNewJobLocks, hm, hb]; rfl
  obtain ⟨t, ht, hto, htc⟩ := init_reaches_relock hops
  refine ⟨.step h hr, ?_, t, ht, fun t' ht' => ?_⟩
  · rw [hjob, runLocks_stepLocks, if_pos (by simp [broadcastsToClient, hm, hany])]
  · obtain ⟨h₁, h₂⟩ := stuck_forever hto htc ht'
    exact ⟨h₁, by simp [h₁, hto], h₂⟩

def subscribeRequest : UniValue := .obj [("method", .str "mining.subscribe")]

def authorizedServer : StratumServer :=
  (step (fixedEnv 0 true)
    (step (fixedEnv 0 true) (acceptClient 0 "" 0 (start ⟨"", 30⟩ 0))
      (.message 0 subscribeRequest ⟨⟨true, true, true⟩, true⟩)).1
    (.message 0 (authorizeRequest "WALLET.w1") ⟨⟨true, true, true⟩, true⟩)).1

theorem createNewJob_relocks_clients_after_authorize :
    Run (fixedEnv 0 true)
        [.accept 0 "" 0, .message 0 subscribeRequest ⟨⟨true, true, true⟩, true⟩,
          .message 0 (authorizeRequest "WALLET.w1") ⟨⟨true, true, true⟩, true⟩] authorizedServer ∧
      authorizedServer.running = true ∧ authorizedServer.mining = true ∧
      findClient authorizedServer 0 =
        some (authorizeClient "WALLET" "w1" (subscribeClient { socketFd := 0, sessionId := "" })) ∧
      (Run (fixedEnv 0 true)
          ([.accept 0 "" 0, .message 0 subscribeRequest ⟨⟨true, true, true⟩, true⟩,
            .message 0 (authorizeRequest "WALLET.w1") ⟨⟨true, true, true⟩, true⟩] ++
            [.newJob (some ⟨{}⟩) none 0x67000001])
          (step (fixedEnv 0 true) authorizedServer (.newJob (some ⟨{}⟩) none 0x67000001)).1 ∧
        runLocks {} (stepLocks (fixedEnv 0 true) authorizedServer (.newJob (some ⟨{}⟩) none 0x67000001)) =
          .error (.relock .clients) ∧
        ∃ t, Relation.ReflTransGen Step (Threads.init fun i => if i = 0 then
            stepLocks (fixedEnv 0 true) authorizedServer (.newJob (some ⟨{}⟩) none 0x67000001)
          else clientReadLocks) t ∧
          ∀ t', Relation.ReflTransGen Step t t' → t'.ops 0 = t.ops 0 ∧ t'.ops 0 ≠ [] ∧
            t'.owner .clients = some 0) :=
  have h : Run (fixedEnv 0 true)
      [.accept 0 "" 0, .message 0 subscribeRequest ⟨⟨true, true, true⟩, true⟩,
        .message 0 (authorizeRequest "WALLET.w1") ⟨⟨true, true, true⟩, true⟩] authorizedServer :=
    @Run.step _ [.accept 0 "" 0, .message 0 subscribeRequest ⟨⟨true, true, true⟩, true⟩] _ _
      (@Run.step _ [.accept 0 "" 0] _ _
        (@Run.step _ [] _ (.accept 0 "" 0) (.start ⟨"", 30⟩ 0) rfl) ⟨rfl, rfl⟩) ⟨rfl, rfl⟩
  ⟨h, rfl, rfl, rfl, @createNewJob_relocks_clients _ _ _ ⟨{}⟩ none 0x67000001 h rfl rfl 0
    (authorizeClient "WALLET" "w1" (subscribeClient { socketFd := 0, sessionId := "" })) rfl rfl rfl
    (fun i => if i = 0 then
      stepLocks (fixedEnv 0 true) authorizedServer (.newJob (some ⟨{}⟩) none 0x67000001)
    else clientReadLocks) rfl⟩

theorem stepLocks_progress (env : Env) (states : Nat → StratumServer) (evs : Nat → Event)
    (h : ∀ i, broadcastsToClient (states i) (evs i) = false) {t : Threads}
    (ht : Relation.ReflTransGen Step (Threads.init fun i => stepLocks env (states i) (evs i)) t)
    {i : Nat} (hi : t.ops i ≠ []) : ∃ t', Step t t' :=
  reachable_progress (fun j => by rw [runLocks_stepLocks, h j]; rfl) ht hi

def authorizeLocks : List LockOp :=
  stepLocks (fixedEnv 0 true) authorizedServer
    (.message 0 (authorizeRequest "WALLET.w1") ⟨⟨true, true, true⟩, true⟩)

def oneHolder : Threads :=
  ⟨Function.update (fun _ => authorizeLocks) 1 authorizeLocks.tail,
    Function.update (fun _ => none) .clients (some 1)⟩

theorem stepLocks_progress_one_holder :
    broadcastsToClient authorizedServer
        (.message 0 (authorizeRequest "WALLET.w1") ⟨⟨true, true, true⟩, true⟩) = false ∧
      Relation.ReflTransGen Step (Threads.init fun _ => authorizeLocks) oneHolder ∧
      oneHolder.ops 0 = authorizeLocks ∧ authorizeLocks.head? = some (.acquire .clients) ∧
      oneHolder.owner .clients = some 1 ∧ oneHolder.ops 0 ≠ [] ∧ ∃ t', Step oneHolder t' :=
  have h : ∀ i : Nat, broadcastsToClient authorizedServer
      (.message 0 (authorizeRequest "WALLET.w1") ⟨⟨true, true, true⟩, true⟩) = false := fun _ => rfl
  have ht : Relation.ReflTransGen Step (Threads.init fun _ => authorizeLocks) oneHolder :=
    .single (@Step.acquire _ 1 .clients authorizeLocks.tail rfl rfl)
  have hi : oneHolder.ops 0 ≠ [] := by decide
  ⟨h 0, ht, rfl, rfl, rfl, hi, stepLocks_progress (fixedEnv 0 true) (fun _ => authorizedServer)
    (fun _ => .message 0 (authorizeRequest "WALLET.w1") ⟨⟨true, true, true⟩, true⟩) h ht hi⟩

end Wattx.LockDiscipline
