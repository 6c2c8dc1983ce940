import Wattx.Stratum

/-!
What the server records about each client over a run: its flags and its share counters. Every
handler changes only its own client's record, through one update function.
-/

namespace Wattx.Stratum

open Json StratumJobs RandomXEngine

def shareCount (cl : StratumClient) : Nat := cl.sharesAccepted + cl.sharesRejected

def totalShares (s : StratumServer) : Nat := s.totalSharesAccepted + s.totalSharesRejected

def methodOf (env : Env) (request : UniValue) : Option String :=
  (parseRequest env request).map (·.method)

def subscribesClient (env : Env) (request : UniValue) : Bool :=
  match methodOf env request with
  | some m => m = "mining.subscribe" ∨ m = "login" ∨ m = "getjob"
  | none => false

def authorizesClient (env : Env) (request : UniValue) : Bool :=
  match methodOf env request with
  | some m => m = "mining.authorize" ∨ m = "login" ∨ m = "getjob"
  | none => false

def dispatchedSubmit (env : Env) (request : UniValue) : Bool :=
  match methodOf env request with
  | some m => m = "mining.submit" ∨ m = "submit"
  | none => false

def submitWellFormed (env : Env) (params : List String) : Bool :=
  !((submitFields env params).1.isEmpty || (submitFields env params).2.isEmpty)

def countedSubmit (env : Env) (request : UniValue) : Bool :=
  match parseRequest env request with
  | some r => (r.method = "mining.submit" ∨ r.method = "submit") && submitWellFormed env r.params
  | none => false

def messageFrom (c : Int) (p : UniValue → Bool) : Event → Bool
  | .message c' request _ => c' = c ∧ p request
  | _ => false

def anyMessage (p : UniValue → Bool) : Event → Bool
  | .message _ request _ => p request
  | _ => false

def submitVerdict (env : Env) (answers : Answers) (params : List String) (s : StratumServer) :
    Option Bool :=
  if submitWellFormed env params then
    some (validateAndSubmitShare env answers (submitFields env params).1 (submitFields env params).2 s).1
  else none

/-- The result of `ValidateAndSubmitShare` that `HandleSubmit` counts, if it counts one. -/
def shareVerdict (env : Env) (answers : Answers) (request : UniValue) (s : StratumServer) :
    Option Bool :=
  match parseRequest env request with
  | some r =>
    if r.method = "mining.submit" ∨ r.method = "submit" then submitVerdict env answers r.params s
    else none
  | none => none

def creditOf (verdict : Option Bool) (b : Bool) : Nat := if verdict = some b then 1 else 0

theorem creditOf_add (verdict : Option Bool) :
    creditOf verdict true + creditOf verdict false = if verdict.isSome then 1 else 0 := by
  rcases verdict with _ | _ | _ <;> rfl

theorem shareVerdict_isSome (env : Env) (answers : Answers) (request : UniValue)
    (s : StratumServer) : (shareVerdict env answers request s).isSome = countedSubmit env request := by
  unfold shareVerdict countedSubmit submitVerdict
  cases parseRequest env request with
  | none => rfl
  | some r => by_cases hm : r.method = "mining.submit" ∨ r.method = "submit" <;> simp [hm]; split <;> simp_all

def ClientUpdate (sub auth : Bool) (verdict : Option Bool) (f : StratumClient → StratumClient) :
    Prop :=
  ∀ cl, (f cl).subscribed = (cl.subscribed || sub) ∧ (f cl).authorized = (cl.authorized || auth) ∧
    (f cl).sharesAccepted = cl.sharesAccepted + creditOf verdict true ∧
    (f cl).sharesRejected = cl.sharesRejected + creditOf verdict false

theorem ClientUpdate.shareCount_eq {sub auth : Bool} {verdict : Option Bool}
    {f : StratumClient → StratumClient} (h : ClientUpdate sub auth verdict f) (cl : StratumClient) :
    shareCount (f cl) = shareCount cl + if verdict.isSome then 1 else 0 := by
  obtain ⟨-, -, ha, hr⟩ := h cl
  rw [shareCount, shareCount, ha, hr, ← creditOf_add]
  omega

def CountsTotals (verdict : Option Bool) (s s' : StratumServer) : Prop :=
  s'.totalSharesAccepted = s.totalSharesAccepted + creditOf verdict true ∧
    s'.totalSharesRejected = s.totalSharesRejected + creditOf verdict false

theorem CountsTotals.totalShares_eq {verdict : Option Bool} {s s' : StratumServer}
    (h : CountsTotals verdict s s') :
    totalShares s' = totalShares s + if verdict.isSome then 1 else 0 := by
  rw [totalShares, totalShares, h.1, h.2, ← creditOf_add]
  omega

def UpdatesOnly (c : Int) (f : StratumClient → StratumClient) (s s' : StratumServer) : Prop :=
  ∀ c', findClient s' c' = if c' = c then (findClient s c').map f else findClient s c'

theorem lookup_map_update (c c' : Int) (f : StratumClient → StratumClient)
    (l : List (Int × StratumClient)) :
    (l.map fun e => if e.1 = c then (e.1, f e.2) else e).lookup c' =
      if c' = c then (l.lookup c').map f else l.lookup c' := by
  induction l with
  | nil => split <;> rfl
  | cons e l ih =>
    obtain ⟨k, v⟩ := e
    by_cases hk : k = c
    · dsimp only [List.map_cons]
      rw [if_pos hk]
      by_cases h : c' = k
      · simp [List.lookup_nil, List.lookup_cons, h, hk]
      · have hc : ¬ c' = c := hk ▸ h
        have hb : (c' == k) = false := by simpa using h
        simp [List.lookup_nil, List.lookup_cons, hb, hc, ih]
    · dsimp only [List.map_cons]
      rw [if_neg hk]
      by_cases h : c' = k
      · subst h
        simp [List.lookup_nil, List.lookup_cons, hk]
      · have hb : (c' == k) = false := by simpa using h
        simp [List.lookup_nil, List.lookup_cons, hb, ih]

theorem updatesOnly_modifyClient (c : Int) (f : StratumClient → StratumClient)
    (s : StratumServer) : UpdatesOnly c f s (modifyClient c f s) :=
  fun c' => lookup_map_update c c' f s.clients

theorem updatesOnly_id (c : Int) (s : StratumServer) : UpdatesOnly c id s s := by
  intro c'; split <;> simp_all

theorem updatesOnly_of_clients {c : Int} {f : StratumClient → StratumClient}
    {s t t' : StratumServer} (h : UpdatesOnly c f s t) (he : t'.clients = t.clients) :
    UpdatesOnly c f s t' := by
  intro c'; simp only [findClient, he]; exact h c'

theorem updatesOnly_of_absent {c : Int} (f : StratumClient → StratumClient) {s : StratumServer}
    (h : findClient s c = none) : UpdatesOnly c f s s := by
  intro c'; split <;> simp_all

theorem clientUpdate_subscribeClient : ClientUpdate true false none subscribeClient := by
  intro cl; simp [subscribeClient, creditOf]

theorem clientUpdate_authorizeClient (walletAddress workerName : String) :
    ClientUpdate false true none (authorizeClient walletAddress workerName) := by
  intro cl; simp [authorizeClient, creditOf]

theorem clientUpdate_loginClient (walletAddress : String) :
    ClientUpdate true true none (loginClient walletAddress) := by
  intro cl; simp [loginClient, creditOf]

theorem clientUpdate_creditShare (accepted : Bool) :
    ClientUpdate false false (some accepted) (creditShare accepted) := by
  intro cl; cases accepted <;> simp [creditShare, creditOf]

theorem clientUpdate_id : ClientUpdate false false none id := by
  intro cl; simp [creditOf]

theorem handleSubscribe_update (c : Int) (id : String) (s : StratumServer) :
    UpdatesOnly c subscribeClient s (handleSubscribe c id s).1 := by
  unfold handleSubscribe
  split
  · exact updatesOnly_of_absent _ ‹_›
  · exact updatesOnly_modifyClient c _ s

theorem handleAuthorize_update (c : Int) (id : String) (params : List String)
    (s : StratumServer) :
    UpdatesOnly c (authorizeClient (splitWorker (params.headD "")).1
      (splitWorker (params.headD "")).2) s (handleAuthorize c id params s).1 := by
  unfold handleAuthorize
  split
  · exact updatesOnly_of_absent _ ‹_›
  · exact updatesOnly_modifyClient c _ s

theorem handleGetJob_update (env : Env) (c : Int) (id : String) (params : List String)
    (s : StratumServer) :
    ∃ walletAddress, UpdatesOnly c (loginClient walletAddress) s (handleGetJob env c id params s).1 := by
  unfold handleGetJob
  split
  · exact ⟨"", updatesOnly_of_absent _ ‹_›⟩
  · exact ⟨_, updatesOnly_modifyClient c _ s⟩

theorem validateAndSubmitShare_shape (env : Env) (answers : Answers) (jobId nonceHex : String)
    (s : StratumServer) : ∃ engine blocksFound,
      (validateAndSubmitShare env answers jobId nonceHex s).2 =
        { s with engine := engine, blocksFound := blocksFound } := by
  unfold validateAndSubmitShare
  split
  · exact ⟨s.engine, s.blocksFound, rfl⟩
  · split
    · exact ⟨s.engine, s.blocksFound, rfl⟩
    · split
      · exact ⟨_, s.blocksFound, rfl⟩
      · simp only
        split_ifs
        · exact ⟨_, s.blocksFound, rfl⟩
        · exact ⟨_, _, rfl⟩
        · exact ⟨_, s.blocksFound, rfl⟩

theorem validateAndSubmitShare_clients (env : Env) (answers : Answers) (jobId nonceHex : String)
    (s : StratumServer) :
    (validateAndSubmitShare env answers jobId nonceHex s).2.clients = s.clients := by
  obtain ⟨e, b, h⟩ := validateAndSubmitShare_shape env answers jobId nonceHex s
  rw [h]

theorem countsTotals_validateAndSubmitShare (env : Env) (answers : Answers)
    (jobId nonceHex : String) (s : StratumServer) :
    CountsTotals none s (validateAndSubmitShare env answers jobId nonceHex s).2 := by
  obtain ⟨e, b, h⟩ := validateAndSubmitShare_shape env answers jobId nonceHex s
  rw [h]; exact ⟨rfl, rfl⟩

theorem validateAndSubmitShare_nextClientId (env : Env) (answers : Answers)
    (jobId nonceHex : String) (s : StratumServer) :
    (validateAndSubmitShare env answers jobId nonceHex s).2.nextClientId = s.nextClientId := by
  obtain ⟨e, b, h⟩ := validateAndSubmitShare_shape env answers jobId nonceHex s
  rw [h]

theorem updatesOnly_congr {c : Int} {f : StratumClient → StratumClient} {s t u : StratumServer}
    (he : t.clients = s.clients) (h : UpdatesOnly c f t u) : UpdatesOnly c f s u := by
  intro c'; simpa only [findClient, he] using h c'

@[simp] theorem countShare_clients (accepted : Bool) (s : StratumServer) :
    (countShare accepted s).clients = s.clients := by
  cases accepted <;> rfl

theorem countsTotals_countShare {s t : StratumServer} (h : CountsTotals none s t)
    (accepted : Bool) : CountsTotals (some accepted) s (countShare accepted t) := by
  obtain ⟨ha, hr⟩ := h
  cases accepted <;> simp [CountsTotals, countShare, creditOf, ha, hr]

theorem handleSubmit_update (env : Env) (answers : Answers) (c : Int) (id : String)
    (params : List String) (s : StratumServer) :
    ∃ f, UpdatesOnly c f s (handleSubmit env answers c id params s).1 ∧
      ClientUpdate false false (submitVerdict env answers params s) f ∧
      CountsTotals (submitVerdict env answers params s) s (handleSubmit env answers c id params s).1 := by
  by_cases h : ((submitFields env params).1.isEmpty || (submitFields env params).2.isEmpty) = true
  · have hw : submitVerdict env answers params s = none := by
      simp [submitVerdict, submitWellFormed, h]
    simp only [handleSubmit, h, if_true, hw]
    exact ⟨fun cl => cl, updatesOnly_id c s, clientUpdate_id, by simp [CountsTotals, creditOf]⟩
  · have hw : submitVerdict env answers params s =
        some (validateAndSubmitShare env answers (submitFields env params).1
          (submitFields env params).2 s).1 := by
      simpa [submitVerdict, submitWellFormed] using h
    simp only [handleSubmit, h, hw, Bool.false_eq_true, if_false]
    refine ⟨creditShare _, ?_, clientUpdate_creditShare _, ?_⟩
    · exact updatesOnly_congr (validateAndSubmitShare_clients ..) (updatesOnly_of_clients
        (updatesOnly_modifyClient c _ _) (countShare_clients ..))
    · have hv := countsTotals_validateAndSubmitShare env answers (submitFields env params).1
        (submitFields env params).2 s
      exact countsTotals_countShare (t := modifyClient c (creditShare _) _) ⟨hv.1, hv.2⟩ _

theorem countsTotals_handleSubscribe (c : Int) (id : String) (s : StratumServer) :
    CountsTotals none s (handleSubscribe c id s).1 := by
  unfold handleSubscribe; split <;> exact ⟨rfl, rfl⟩

theorem countsTotals_handleAuthorize (c : Int) (id : String) (params : List String)
    (s : StratumServer) : CountsTotals none s (handleAuthorize c id params s).1 := by
  unfold handleAuthorize; split <;> exact ⟨rfl, rfl⟩

theorem countsTotals_handleGetJob (env : Env) (c : Int) (id : String) (params : List String)
    (s : StratumServer) : CountsTotals none s (handleGetJob env c id params s).1 := by
  unfold handleGetJob; split <;> exact ⟨rfl, rfl⟩

theorem countsTotals_self (s : StratumServer) : CountsTotals none s s := ⟨rfl, rfl⟩

theorem handleRequest_update (env : Env) (answers : Answers) (c : Int) (request : UniValue)
    (s : StratumServer) :
    ∃ f, UpdatesOnly c f s (handleRequest env answers c request s).1 ∧
      ClientUpdate (subscribesClient env request) (authorizesClient env request)
        (shareVerdict env answers request s) f ∧
      CountsTotals (shareVerdict env answers request s) s (handleRequest env answers c request s).1 := by
  unfold handleRequest subscribesClient authorizesClient shareVerdict methodOf
  cases parseRequest env request with
  | none => exact ⟨fun cl => cl, updatesOnly_id c s, clientUpdate_id, countsTotals_self s⟩
  | some r =>
    simp only [Option.map_some']
    by_cases h1 : r.method = "mining.subscribe"
    · have h3 : ¬ (r.method = "mining.submit" ∨ r.method = "submit") := by rw [h1]; decide
      rw [if_pos h1, if_neg h3]
      exact ⟨subscribeClient, handleSubscribe_update c r.id s,
        by simpa [h1] using clientUpdate_subscribeClient, countsTotals_handleSubscribe c r.id s⟩
    by_cases h2 : r.method = "mining.authorize"
    · have h3 : ¬ (r.method = "mining.submit" ∨ r.method = "submit") := by rw [h2]; decide
      rw [if_neg h1, if_pos h2, if_neg h3]
      exact ⟨_, handleAuthorize_update c r.id r.params s,
        by simpa [h2] using clientUpdate_authorizeClient _ _, countsTotals_handleAuthorize ..⟩
    by_cases h3 : r.method = "mining.submit" ∨ r.method = "submit"
    · obtain ⟨f, hu, hc, ht⟩ := handleSubmit_update env answers c r.id r.params s
      rw [if_neg h1, if_neg h2, if_pos h3, if_pos h3]
      exact ⟨f, hu, by rcases h3 with h | h <;> simpa [h] using hc, ht⟩
    rw [if_neg h1, if_neg h2, if_neg h3, if_neg h3]
    by_cases h4 : r.method = "login" ∨ r.method = "getjob"
    · obtain ⟨w, hu⟩ := handleGetJob_update env c r.id r.params s
      rw [if_pos h4]
      exact ⟨loginClient w, hu, by rcases h4 with h | h <;> simpa [h] using clientUpdate_loginClient w,
        countsTotals_handleGetJob ..⟩
    rw [if_neg h4]
    exact ⟨fun cl => cl, updatesOnly_id c s, by simpa [h1, h2, h4] using clientUpdate_id,
      countsTotals_self s⟩

@[simp] theorem modifyClient_nextClientId (c : Int) (f : StratumClient → StratumClient)
    (s : StratumServer) : (modifyClient c f s).nextClientId = s.nextClientId := rfl

@[simp] theorem countShare_nextClientId (accepted : Bool) (s : StratumServer) :
    (countShare accepted s).nextClientId = s.nextClientId := by
  cases accepted <;> rfl

theorem handleSubmit_nextClientId (env : Env) (answers : Answers) (c : Int) (id : String)
    (params : List String) (s : StratumServer) :
    (handleSubmit env answers c id params s).1.nextClientId = s.nextClientId := by
  by_cases h : ((submitFields env params).1.isEmpty || (submitFields env params).2.isEmpty) = true
  · simp only [handleSubmit, h, if_true]
  · simp only [handleSubmit, h, Bool.false_eq_true, if_false, countShare_nextClientId,
      modifyClient_nextClientId, validateAndSubmitShare_nextClientId]

theorem handleRequest_nextClientId (env : Env) (answers : Answers) (c : Int) (request : UniValue)
    (s : StratumServer) : (handleRequest env answers c request s).1.nextClientId = s.nextClientId := by
  unfold handleRequest
  split
  · rfl
  · split_ifs
    · unfold handleSubscribe; split <;> rfl
    · unfold handleAuthorize; split <;> rfl
    · exact handleSubmit_nextClientId ..
    · unfold handleGetJob; split <;> rfl
    · rfl

theorem lookup_filter_ne (k c' : Int) (l : List (Int × StratumClient)) :
    (l.filter (·.1 ≠ k)).lookup c' = if c' = k then none else l.lookup c' := by
  induction l with
  | nil => split <;> rfl
  | cons e l ih =>
    obtain ⟨a, b⟩ := e
    rw [List.filter_cons]
    by_cases ha : a = k
    · rw [if_neg (by simp [ha]), ih]
      by_cases h : c' = k
      · simp [h]
      · have hb : (c' == a) = false := by simp [ha, h]
        simp [h, List.lookup_nil, List.lookup_cons, hb]
    · rw [if_pos (by simp [ha])]
      by_cases h : c' = a
      · have hk : ¬ c' = k := h ▸ ha
        simp [List.lookup_nil, List.lookup_cons, h, hk, ha]
      · have hb : (c' == a) = false := by simpa using h
        simp only [List.lookup_nil, List.lookup_cons, hb, ih]

theorem lookup_append (c : Int) (l l' : List (Int × StratumClient)) :
    (l ++ l').lookup c = (l.lookup c).or (l'.lookup c) := by
  induction l with
  | nil => rfl
  | cons e l ih =>
    obtain ⟨k, v⟩ := e
    simp only [List.cons_append, List.lookup_cons]
    split <;> simp_all

theorem lookup_filter_append (k c' : Int) (v : StratumClient) (l : List (Int × StratumClient)) :
    (l.filter (·.1 ≠ k) ++ [(k, v)]).lookup c' = if c' = k then some v else l.lookup c' := by
  rw [lookup_append, lookup_filter_ne]
  by_cases h : c' = k
  · simp [h, List.lookup_nil, List.lookup_cons]
  · have hb : (c' == k) = false := by simpa using h
    cases l.lookup c' <;> simp [h, List.lookup_nil, List.lookup_cons, hb]

theorem findClient_acceptClient (fd : Int) (sessionId : String) (time c' : Int)
    (s : StratumServer) :
    findClient (acceptClient fd sessionId time s) c' =
      if c' = s.nextClientId then some { socketFd := fd, sessionId := sessionId, connectTime := time,
                                         lastActivity := time }
      else findClient s c' :=
  lookup_filter_append _ _ _ _

theorem findClient_disconnectClient (c c' : Int) (s : StratumServer) :
    findClient (disconnectClient c s) c' = if c' = c then none else findClient s c' :=
  lookup_filter_ne _ _ _

theorem createNewJob_sessions (env : Env) (tmpl : Option BlockTemplate) (tipHeight : Option Int)
    (time : Int) (s : StratumServer) :
    (createNewJob env tmpl tipHeight time s).1.clients = s.clients ∧
      (createNewJob env tmpl tipHeight time s).1.nextClientId = s.nextClientId ∧
      totalShares (createNewJob env tmpl tipHeight time s).1 = totalShares s := by
  unfold createNewJob
  split
  · exact ⟨rfl, rfl, rfl⟩
  · split <;> exact ⟨rfl, rfl, rfl⟩

structure SessionInv (env : Env) (evs : List Event) (s : StratumServer) : Prop where
  fresh : ∀ c request answers, Event.message c request answers ∈ evs → c < s.nextClientId
  present : ∀ c cl, findClient s c = some cl → c < s.nextClientId
  subscribed : ∀ c cl, findClient s c = some cl →
    cl.subscribed = evs.any (messageFrom c (subscribesClient env))
  authorized : ∀ c cl, findClient s c = some cl →
    cl.authorized = evs.any (messageFrom c (authorizesClient env))
  shares : ∀ c cl, findClient s c = some cl →
    shareCount cl = (evs.filter (messageFrom c (countedSubmit env))).length
  total : totalShares s = (evs.filter (anyMessage (countedSubmit env))).length

theorem messageFrom_of_ne {ev : Event} (hm : ∀ c r a, ev ≠ .message c r a) (c : Int)
    (p : UniValue → Bool) : messageFrom c p ev = false := by
  cases ev <;> simp_all [messageFrom]

theorem anyMessage_of_ne {ev : Event} (hm : ∀ c r a, ev ≠ .message c r a) (p : UniValue → Bool) :
    anyMessage p ev = false := by
  cases ev <;> simp_all [anyMessage]

theorem sessionInv_of_shrink {env : Env} {evs : List Event} {s t : StratumServer} {ev : Event}
    (h : SessionInv env evs s) (hm : ∀ c r a, ev ≠ .message c r a)
    (hsub : ∀ c cl, findClient t c = some cl → findClient s c = some cl)
    (hn : t.nextClientId = s.nextClientId) (ht : totalShares t = totalShares s) :
    SessionInv env (evs ++ [ev]) t where
  fresh c r a hev := by
    rcases List.mem_append.mp hev with hev | hev
    · exact hn ▸ h.fresh c r a hev
    · exact absurd (List.mem_singleton.mp hev).symm (hm c r a)
  present c cl hc := hn ▸ h.present c cl (hsub c cl hc)
  subscribed c cl hc := by
    simpa [messageFrom_of_ne hm] using h.subscribed c cl (hsub c cl hc)
  authorized c cl hc := by
    simpa [messageFrom_of_ne hm] using h.authorized c cl (hsub c cl hc)
  shares c cl hc := by
    simpa [messageFrom_of_ne hm] using h.shares c cl (hsub c cl hc)
  total := by simpa [anyMessage_of_ne hm, ht] using h.total

theorem sessionInv_accept {env : Env} {evs : List Event} {s : StratumServer} (fd : Int)
    (sessionId : String) (time : Int) (h : SessionInv env evs s) :
    SessionInv env (evs ++ [.accept fd sessionId time]) (acceptClient fd sessionId time s) := by
  have hnew : ∀ p, ∀ ev ∈ evs, messageFrom s.nextClientId p ev = false := by
    intro p ev hev
    cases ev with
    | message c r a => have := h.fresh c r a hev; simp [messageFrom]; omega
    | _ => rfl
  have hany : ∀ p, evs.any (messageFrom s.nextClientId p) = false := fun p =>
    List.any_eq_false.mpr fun ev hev => by simp [hnew p ev hev]
  have hfilter : ∀ p, evs.filter (messageFrom s.nextClientId p) = [] := fun p =>
    List.filter_eq_nil_iff.mpr fun ev hev => by simp [hnew p ev hev]
  have hm : ∀ c r a, Event.accept fd sessionId time ≠ .message c r a := by simp
  refine ⟨?_, ?_, ?_, ?_, ?_, ?_⟩
  · intro c r a hev
    rcases List.mem_append.mp hev with hev | hev
    · have := h.fresh c r a hev
      simp only [acceptClient]; omega
    · simp at hev
  · intro c cl hc
    rw [findClient_acceptClient] at hc
    simp only [acceptClient]
    split at hc
    · omega
    · have := h.present c cl hc; omega
  · intro c cl hc
    rw [findClient_acceptClient] at hc
    split at hc
    · cases hc; subst c; simp [messageFrom_of_ne hm, hany]
    · simpa [messageFrom_of_ne hm] using h.subscribed c cl hc
  · intro c cl hc
    rw [findClient_acceptClient] at hc
    split at hc
    · cases hc; subst c; simp [messageFrom_of_ne hm, hany]
    · simpa [messageFrom_of_ne hm] using h.authorized c cl hc
  · intro c cl hc
    rw [findClient_acceptClient] at hc
    split at hc
    · cases hc; subst c; simp [messageFrom_of_ne hm, hfilter, shareCount]
    · simpa [messageFrom_of_ne hm] using h.shares c cl hc
  · simpa [anyMessage_of_ne hm] using h.total

theorem sessionInv_message {env : Env} {evs : List Event} {s : StratumServer} {c : Int}
    (request : UniValue) (answers : Answers) (h : SessionInv env evs s)
    (hc : (findClient s c).isSome) :
    SessionInv env (evs ++ [.message c request answers])
      (handleRequest env answers c request s).1 := by
  obtain ⟨f, hu, hf, ht⟩ := handleRequest_update env answers c request s
  obtain ⟨cl₀, hcl₀⟩ := Option.isSome_iff_exists.mp hc
  have hn := handleRequest_nextClientId env answers c request s
  have hfrom : ∀ c' p, messageFrom c' p (.message c request answers) = (decide (c = c') && p request) := by
    simp [messageFrom]
  have hold : ∀ c' cl, findClient (handleRequest env answers c request s).1 c' = some cl →
      c' ≠ c → findClient s c' = some cl := fun c' cl h' hne => by
    rw [hu c', if_neg hne] at h'; exact h'
  have hnew : ∀ cl, findClient (handleRequest env answers c request s).1 c = some cl →
      cl = f cl₀ := fun cl h' => by
    rw [hu c, if_pos rfl, hcl₀] at h'; exact (Option.some.inj h').symm
  refine ⟨?_, ?_, ?_, ?_, ?_, ?_⟩
  · intro c' r a hev
    rw [hn]
    rcases List.mem_append.mp hev with hev | hev
    · exact h.fresh c' r a hev
    · obtain rfl : c' = c := by simp at hev; exact hev.1
      exact h.present c' cl₀ hcl₀
  · intro c' cl h'
    rw [hn]
    by_cases hne : c' = c
    · subst hne; exact h.present c' cl₀ hcl₀
    · exact h.present c' cl (hold c' cl h' hne)
  · intro c' cl h'
    by_cases hne : c' = c
    · subst hne
      simp [hnew cl h', (hf cl₀).1, h.subscribed c' cl₀ hcl₀, hfrom]
    · simpa [hfrom, Ne.symm hne] using h.subscribed c' cl (hold c' cl h' hne)
  · intro c' cl h'
    by_cases hne : c' = c
    · subst hne
      simp [hnew cl h', (hf cl₀).2.1, h.authorized c' cl₀ hcl₀, hfrom]
    · simpa [hfrom, Ne.symm hne] using h.authorized c' cl (hold c' cl h' hne)
  · intro c' cl h'
    by_cases hne : c' = c
    · subst hne
      rw [hnew cl h', hf.shareCount_eq, shareVerdict_isSome, h.shares c' cl₀ hcl₀,
        List.filter_append, List.length_append]
      cases hq : countedSubmit env request <;> simp [hfrom, hq]
    · simpa [hfrom, Ne.symm hne] using h.shares c' cl (hold c' cl h' hne)
  · rw [ht.totalShares_eq, shareVerdict_isSome, h.total, List.filter_append, List.length_append]
    cases hq : countedSubmit env request <;> simp [anyMessage, hq]

theorem sessionInv_step {env : Env} {evs : List Event} {s : StratumServer} {ev : Event}
    (h : SessionInv env evs s) (he : Enabled s ev) : SessionInv env (evs ++ [ev]) (step env s ev).1 := by
  cases ev with
  | accept fd sessionId time => exact sessionInv_accept fd sessionId time h
  | message c request answers => exact sessionInv_message request answers h he.2
  | disconnect c =>
    refine sessionInv_of_shrink h (by simp) (fun c' cl hc => ?_) rfl rfl
    rw [step, findClient_disconnectClient] at hc
    split at hc
    · cases hc
    · exact hc
  | newJob tmpl tipHeight time =>
    obtain ⟨hcl, hn, ht⟩ := createNewJob_sessions env tmpl tipHeight time s
    exact sessionInv_of_shrink h (by simp) (fun c' cl hc => by simpa [findClient, step, hcl] using hc)
      hn ht
  | engineOp op => exact sessionInv_of_shrink h (by simp) (fun _ _ hc => hc) rfl rfl
  | stop => exact sessionInv_of_shrink h (by simp) (fun _ _ hc => by cases hc) rfl rfl

theorem sessionInv_start (env : Env) (config : StratumConfig) (flags : UInt32) :
    SessionInv env [] (start config flags) where
  fresh _ _ _ hev := by cases hev
  present _ _ hc := by cases hc
  subscribed _ _ hc := by cases hc
  authorized _ _ hc := by cases hc
  shares _ _ hc := by cases hc
  total := rfl

theorem run_sessionInv {env : Env} {evs : List Event} {s : StratumServer} (h : Run env evs s) :
    SessionInv env evs s := by
  induction h with
  | start config flags => exact sessionInv_start env config flags
  | step _ he ih => exact sessionInv_step ih he

theorem handleRequest_malformedSubmit {env : Env} {answers : Answers} {c : Int} {request : UniValue}
    {s : StratumServer} {r : Request} (hp : parseRequest env request = some r)
    (hm : r.method = "mining.submit" ∨ r.method = "submit") (hw : submitWellFormed env r.params = false) :
    handleRequest env answers c request s = (s, sendError s c r.id 20 "Invalid submit format") := by
  have h1 : ¬ r.method = "mining.subscribe" := by rcases hm with h | h <;> rw [h] <;> decide
  have h2 : ¬ r.method = "mining.authorize" := by rcases hm with h | h <;> rw [h] <;> decide
  have hf : ((submitFields env r.params).1.isEmpty || (submitFields env r.params).2.isEmpty) = true := by
    unfold submitWellFormed at hw
    generalize ((submitFields env r.params).1.isEmpty || (submitFields env r.params).2.isEmpty) = b at hw ⊢
    cases b <;> simp_all
  simp only [handleRequest, hp, if_neg h1, if_neg h2, if_pos hm, handleSubmit, hf, if_true]

theorem step_message_counters (env : Env) (s : StratumServer) (c : Int) (request : UniValue)
    (answers : Answers) :
    (shareVerdict env answers request s).isSome = countedSubmit env request ∧
    CountsTotals (shareVerdict env answers request s) s (step env s (.message c request answers)).1 ∧
    (∀ cl, findClient s c = some cl → ∃ cl', findClient (step env s (.message c request answers)).1 c =
      some cl' ∧ cl'.sharesAccepted = cl.sharesAccepted + creditOf (shareVerdict env answers request s) true ∧
      cl'.sharesRejected = cl.sharesRejected + creditOf (shareVerdict env answers request s) false) ∧
    (∀ c', c' ≠ c → findClient (step env s (.message c request answers)).1 c' = findClient s c') ∧
    (∀ r, parseRequest env request = some r → (r.method = "mining.submit" ∨ r.method = "submit") →
      submitWellFormed env r.params = false →
      step env s (.message c request answers) = (s, sendError s c r.id 20 "Invalid submit format")) := by
  obtain ⟨f, hu, hf, ht⟩ := handleRequest_update env answers c request s
  refine ⟨shareVerdict_isSome .., ht, fun cl hc => ⟨f cl, ?_, (hf cl).2.2⟩, fun c' hc' => ?_,
    fun r hp hm hw => handleRequest_malformedSubmit hp hm hw⟩
  · rw [step, hu c, if_pos rfl, hc, Option.map_some']
  · rw [step, hu c', if_neg hc']

theorem shareCount_eq_countedSubmits {env : Env} {evs : List Event} {s : StratumServer}
    (h : Run env evs s) :
    (∀ c cl, findClient s c = some cl →
      shareCount cl = (evs.filter (messageFrom c (countedSubmit env))).length) ∧
    totalShares s = (evs.filter (anyMessage (countedSubmit env))).length ∧
    ∀ c request answers,
      (shareVerdict env answers request s).isSome = countedSubmit env request ∧
      CountsTotals (shareVerdict env answers request s) s (step env s (.message c request answers)).1 ∧
      (∀ cl, findClient s c = some cl → ∃ cl', findClient (step env s (.message c request answers)).1 c =
        some cl' ∧ cl'.sharesAccepted = cl.sharesAccepted + creditOf (shareVerdict env answers request s) true ∧
        cl'.sharesRejected = cl.sharesRejected + creditOf (shareVerdict env answers request s) false) ∧
      (∀ c', c' ≠ c → findClient (step env s (.message c request answers)).1 c' = findClient s c') ∧
      (∀ r, parseRequest env request = some r → (r.method = "mining.submit" ∨ r.method = "submit") →
        submitWellFormed env r.params = false →
        step env s (.message c request answers) = (s, sendError s c r.id 20 "Invalid submit format")) :=
  ⟨(run_sessionInv h).shares, (run_sessionInv h).total, step_message_counters env s⟩

def emptySubmit : UniValue := .obj [("method", .str "mining.submit"), ("params", .arr [])]

theorem shareCount_eq_countedSubmits_emptySubmit :
    let env := fixedEnv 0 true
    let evs := [.accept 0 "" 0, .message 0 emptySubmit ⟨⟨true, true, true⟩, true⟩]
    let s := (step env (acceptClient 0 "" 0 (start ⟨"", 30⟩ 0))
      (.message 0 emptySubmit ⟨⟨true, true, true⟩, true⟩)).1
    Run env evs s ∧
      ((∀ c cl, findClient s c = some cl →
        shareCount cl = (evs.filter (messageFrom c (countedSubmit env))).length) ∧
      totalShares s = (evs.filter (anyMessage (countedSubmit env))).length ∧
      ∀ c request answers,
        (shareVerdict env answers request s).isSome = countedSubmit env request ∧
        CountsTotals (shareVerdict env answers request s) s (step env s (.message c request answers)).1 ∧
        (∀ cl, findClient s c = some cl → ∃ cl', findClient (step env s (.message c request answers)).1 c =
          some cl' ∧ cl'.sharesAccepted = cl.sharesAccepted + creditOf (shareVerdict env answers request s) true ∧
          cl'.sharesRejected = cl.sharesRejected + creditOf (shareVerdict env answers request s) false) ∧
        (∀ c', c' ≠ c → findClient (step env s (.message c request answers)).1 c' = findClient s c') ∧
        (∀ r, parseRequest env request = some r → (r.method = "mining.submit" ∨ r.method = "submit") →
          submitWellFormed env r.params = false →
          step env s (.message c request answers) = (s, sendError s c r.id 20 "Invalid submit format"))) :=
  have h : Run (fixedEnv 0 true) [.accept 0 "" 0, .message 0 emptySubmit ⟨⟨true, true, true⟩, true⟩]
      (step (fixedEnv 0 true) (acceptClient 0 "" 0 (start ⟨"", 30⟩ 0))
        (.message 0 emptySubmit ⟨⟨true, true, true⟩, true⟩)).1 :=
    @Run.step _ [.accept 0 "" 0] _ _ (@Run.step _ [] _ (.accept 0 "" 0) (.start ⟨"", 30⟩ 0) rfl)
      ⟨rfl, rfl⟩
  ⟨h, shareCount_eq_countedSubmits h⟩

theorem emptySubmit_not_counted :
    let env := fixedEnv 0 true
    let answers : Answers := ⟨⟨true, true, true⟩, true⟩
    let s := (step env (acceptClient 0 "" 0 (start ⟨"", 30⟩ 0)) (.message 0 emptySubmit answers)).1
    Run env [.accept 0 "" 0, .message 0 emptySubmit answers] s ∧
      ([Event.accept 0 "" 0, .message 0 emptySubmit answers].filter
        (messageFrom 0 (dispatchedSubmit env))).length = 1 ∧
      (∃ cl, findClient s 0 = some cl ∧ shareCount cl = 0) ∧ totalShares s = 0 :=
  ⟨@Run.step _ [.accept 0 "" 0] _ _ (@Run.step _ [] _ (.accept 0 "" 0) (.start ⟨"", 30⟩ 0) rfl)
    ⟨rfl, rfl⟩, rfl, ⟨_, rfl, rfl⟩, rfl⟩

def sendsAuthorize (env : Env) (request : UniValue) : Bool :=
  methodOf env request == some "mining.authorize"

theorem sendsAuthorize_of_authorizesClient {env : Env} {request : UniValue}
    (ha : authorizesClient env request = true) (hs : subscribesClient env request = false) :
    sendsAuthorize env request = true := by
  unfold authorizesClient subscribesClient sendsAuthorize at *
  split at ha <;> simp_all

theorem authorizesClient_of_sendsAuthorize {env : Env} {request : UniValue}
    (h : sendsAuthorize env request = true) : authorizesClient env request = true := by
  unfold authorizesClient sendsAuthorize at *
  split <;> simp_all

theorem messageFrom_sendsAuthorize {env : Env} {c : Int} {ev : Event}
    (ha : messageFrom c (authorizesClient env) ev = true)
    (hs : messageFrom c (subscribesClient env) ev = false) :
    messageFrom c (sendsAuthorize env) ev = true := by
  cases ev with
  | message c' request answers =>
    simp only [messageFrom, decide_eq_true_eq, decide_eq_false_iff_not, not_and] at *
    exact ⟨ha.1, sendsAuthorize_of_authorizesClient ha.2 (by simpa using hs ha.1)⟩
  | _ => cases ha

theorem messageFrom_authorizesClient {env : Env} {c : Int} {ev : Event}
    (h : messageFrom c (sendsAuthorize env) ev = true) :
    messageFrom c (authorizesClient env) ev = true := by
  cases ev with
  | message c' request answers =>
    simp only [messageFrom, decide_eq_true_eq] at *
    exact ⟨h.1, authorizesClient_of_sendsAuthorize h.2⟩
  | _ => cases h

theorem run_clientFlags {env : Env} {evs : List Event} {s : StratumServer} (h : Run env evs s)
    {c : Int} {cl : StratumClient} (hc : findClient s c = some cl) :
    cl.subscribed = evs.any (messageFrom c (subscribesClient env)) ∧
    cl.authorized = evs.any (messageFrom c (authorizesClient env)) ∧
    (cl.authorized = true ∧ cl.subscribed = false ↔
      evs.any (messageFrom c (sendsAuthorize env)) = true ∧
        evs.any (messageFrom c (subscribesClient env)) = false) := by
  have hS := (run_sessionInv h).subscribed c cl hc
  have hA := (run_sessionInv h).authorized c cl hc
  refine ⟨hS, hA, ?_⟩
  rw [hS, hA]
  constructor
  · rintro ⟨ha, hs⟩
    obtain ⟨ev, hev, he⟩ := List.any_eq_true.mp ha
    have hse : messageFrom c (subscribesClient env) ev = false := by
      simpa using List.any_eq_false.mp hs ev hev
    exact ⟨List.any_eq_true.mpr ⟨ev, hev, messageFrom_sendsAuthorize he hse⟩, hs⟩
  · rintro ⟨ha, hs⟩
    obtain ⟨ev, hev, he⟩ := List.any_eq_true.mp ha
    exact ⟨List.any_eq_true.mpr ⟨ev, hev, messageFrom_authorizesClient he⟩, hs⟩

def authorizeRequest (worker : String) : UniValue :=
  .obj [("method", .str "mining.authorize"), ("params", .arr [.str worker])]

theorem authorize_without_subscribe {env : Env} {evs : List Event} {s : StratumServer} {c : Int}
    {cl : StratumClient} (h : Run env evs s) (hr : s.running = true)
    (hc : findClient s c = some cl) (hs : cl.subscribed = false) (worker : String)
    (answers : Answers) :
    Run env (evs ++ [.message c (authorizeRequest worker) answers])
      (step env s (.message c (authorizeRequest worker) answers)).1 ∧
    ∃ cl', findClient (step env s (.message c (authorizeRequest worker) answers)).1 c = some cl' ∧
      cl'.authorized = true ∧ cl'.subscribed = false := by
  have hp : parseRequest env (authorizeRequest worker) = some ⟨"mining.authorize", "null", [worker]⟩ :=
    rfl
  have hstep : (step env s (.message c (authorizeRequest worker) answers)).1 =
      (handleAuthorize c "null" [worker] s).1 := by
    simp [step, handleRequest, hp]
  refine ⟨.step h ⟨hr, by simp [hc]⟩, authorizeClient (splitWorker worker).1 (splitWorker worker).2 cl,
    ?_, rfl, hs⟩
  rw [hstep, handleAuthorize_update c "null" [worker] s c, if_pos rfl, hc]
  rfl

theorem authorize_without_subscribe_first_client :
    Run (fixedEnv 0 true) [.accept 0 "" 0] (acceptClient 0 "" 0 (start ⟨"", 30⟩ 0)) ∧
    (acceptClient 0 "" 0 (start ⟨"", 30⟩ 0)).running = true ∧
    findClient (acceptClient 0 "" 0 (start ⟨"", 30⟩ 0)) 0 = some { socketFd := 0, sessionId := "" } ∧
    ({ socketFd := 0, sessionId := "" } : StratumClient).subscribed = false ∧
    (Run (fixedEnv 0 true) [.accept 0 "" 0, .message 0 (authorizeRequest "WALLET.w1") ⟨⟨true, true, true⟩, true⟩]
      (step (fixedEnv 0 true) (acceptClient 0 "" 0 (start ⟨"", 30⟩ 0))
        (.message 0 (authorizeRequest "WALLET.w1") ⟨⟨true, true, true⟩, true⟩)).1 ∧
    ∃ cl', findClient (step (fixedEnv 0 true) (acceptClient 0 "" 0 (start ⟨"", 30⟩ 0))
        (.message 0 (authorizeRequest "WALLET.w1") ⟨⟨true, true, true⟩, true⟩)).1 0 = some cl' ∧
      cl'.authorized = true ∧ cl'.subscribed = false) :=
  have h : Run (fixedEnv 0 true) [.accept 0 "" 0] (acceptClient 0 "" 0 (start ⟨"", 30⟩ 0)) :=
    @Run.step _ [] _ (.accept 0 "" 0) (.start ⟨"", 30⟩ 0) rfl
  ⟨h, rfl, rfl, rfl, @authorize_without_subscribe _ _ _ 0 { socketFd := 0, sessionId := "" } h rfl rfl rfl
    "WALLET.w1" ⟨⟨true, true, true⟩, true⟩⟩

theorem run_clientFlags_authorize_first :
    Run (fixedEnv 0 true) [.accept 0 "" 0, .message 0 (authorizeRequest "WALLET.w1") ⟨⟨true, true, true⟩, true⟩]
      (step (fixedEnv 0 true) (acceptClient 0 "" 0 (start ⟨"", 30⟩ 0))
        (.message 0 (authorizeRequest "WALLET.w1") ⟨⟨true, true, true⟩, true⟩)).1 ∧
    findClient (step (fixedEnv 0 true) (acceptClient 0 "" 0 (start ⟨"", 30⟩ 0))
        (.message 0 (authorizeRequest "WALLET.w1") ⟨⟨true, true, true⟩, true⟩)).1 0 =
      some (authorizeClient "WALLET" "w1" { socketFd := 0, sessionId := "" }) ∧
    ((authorizeClient "WALLET" "w1" { socketFd := 0, sessionId := "" }).subscribed =
        [Event.accept 0 "" 0, .message 0 (authorizeRequest "WALLET.w1") ⟨⟨true, true, true⟩, true⟩].any
          (messageFrom 0 (subscribesClient (fixedEnv 0 true))) ∧
      (authorizeClient "WALLET" "w1" { socketFd := 0, sessionId := "" }).authorized =
        [Event.accept 0 "" 0, .message 0 (authorizeRequest "WALLET.w1") ⟨⟨true, true, true⟩, true⟩].any
          (messageFrom 0 (authorizesClient (fixedEnv 0 true))) ∧
      ((authorizeClient "WALLET" "w1" { socketFd := 0, sessionId := "" }).authorized = true ∧
          (authorizeClient "WALLET" "w1" { socketFd := 0, sessionId := "" }).subscribed = false ↔
        [Event.accept 0 "" 0, .message 0 (authorizeRequest "WALLET.w1") ⟨⟨true, true, true⟩, true⟩].any
            (messageFrom 0 (sendsAuthorize (fixedEnv 0 true))) = true ∧
          [Event.accept 0 "" 0, .message 0 (authorizeRequest "WALLET.w1") ⟨⟨true, true, true⟩, true⟩].any
            (messageFrom 0 (subscribesClient (fixedEnv 0 true))) = false)) :=
  have h : Run (fixedEnv 0 true)
      [.accept 0 "" 0, .message 0 (authorizeRequest "WALLET.w1") ⟨⟨true, true, true⟩, true⟩]
      (step (fixedEnv 0 true) (acceptClient 0 "" 0 (start ⟨"", 30⟩ 0))
        (.message 0 (authorizeRequest "WALLET.w1") ⟨⟨true, true, true⟩, true⟩)).1 :=
    @Run.step _ [.accept 0 "" 0] _ _ (@Run.step _ [] _ (.accept 0 "" 0) (.start ⟨"", 30⟩ 0) rfl)
      ⟨rfl, rfl⟩
  ⟨h, rfl, run_clientFlags h rfl⟩

end Wattx.Stratum
