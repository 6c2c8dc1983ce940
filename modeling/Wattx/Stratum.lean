import Wattx.Json
import Wattx.StratumJobs
import Wattx.RandomXEngine

/-!
`stratum::StratumServer` (`stratum/stratum_server.cpp`) as a sequential state machine: each
handler runs to completion on the server record and returns the lines it sends. The JSON library,
the chain parameters, the RandomX function, the block template provider and the order of `m_jobs`
are the fields of `Env`. `StratumClient` and `StratumJob` are declared in `stratum_server.h`, which
is not among the sources: their fields are the spec's, with its defaults. `BroadcastJob` is
modelled by the sends it attempts; `LockDiscipline` shows where it blocks.
-/

namespace Wattx.Stratum

open Block Json StratumJobs RandomXEngine

structure StratumClient where
  socketFd : Int
  sessionId : String
  connectTime : Int := 0
  lastActivity : Int := 0
  recvBuffer : String := ""
  subscribed : Bool := false
  authorized : Bool := false
  walletAddress : String := ""
  workerName : String := ""
  sharesAccepted : Nat := 0
  sharesRejected : Nat := 0
  deriving DecidableEq, Repr

structure StratumConfig where
  defaultWallet : String
  jobTimeoutSeconds : Nat
  deriving DecidableEq, Repr

structure StratumServer where
  config : StratumConfig
  running : Bool := true
  mining : Bool := true
  clients : List (Int × StratumClient) := []
  nextClientId : Int := 0
  jobs : JobMap := []
  currentJob : StratumJob := {}
  jobCounter : Nat := 0
  totalSharesAccepted : Nat := 0
  totalSharesRejected : Nat := 0
  blocksFound : Nat := 0
  engine : RandomXMiner
  deriving Repr

structure Env where
  readJson : String → Option UniValue
  writeJson : UniValue → String
  genesisKey : List UInt8
  randomxHash : List UInt8 → List UInt8 → BitVec 256
  submitSolution : BlockTemplate → Int → UInt32 → UInt32 → Bool
  jobOrder : String → String → Bool

structure Answers where
  alloc : Allocation
  vmOk : Bool
  deriving DecidableEq, Repr

abbrev Sends := List (Int × String)

def findClient (s : StratumServer) (c : Int) : Option StratumClient := s.clients.lookup c

def modifyClient (c : Int) (f : StratumClient → StratumClient) (s : StratumServer) :
    StratumServer :=
  { s with clients := s.clients.map fun e => if e.1 = c then (e.1, f e.2) else e }

def sendToClient (s : StratumServer) (c : Int) (message : String) : Sends :=
  if (findClient s c).isSome then [(c, message)] else []

def lb : String := "\x7b"

def rb : String := "\x7d"

def errorResponse (id : String) (code : Int) (message : String) : String :=
  lb ++ "\"id\":" ++ id ++ ",\"result\":null,\"error\":[" ++ toString code ++ ",\"" ++ message ++
    "\",null]" ++ rb ++ "\n"

def sendError (s : StratumServer) (c : Int) (id : String) (code : Int) (message : String) : Sends :=
  sendToClient s c (errorResponse id code message)

def jobFields (job : StratumJob) : String :=
  "\"blob\":\"" ++ job.blob ++ "\",\"job_id\":\"" ++ job.jobId ++ "\",\"target\":\"" ++
    job.target ++ "\",\"algo\":\"rx/0\",\"height\":" ++ toString job.height ++
    ",\"seed_hash\":\"" ++ job.seedHash ++ "\""

def jobNotification (job : StratumJob) : String :=
  lb ++ "\"jsonrpc\":\"2.0\",\"method\":\"job\",\"params\":" ++ lb ++ jobFields job ++ rb ++ rb ++
    "\n"

def sendJob (s : StratumServer) (c : Int) (job : StratumJob) : Sends :=
  sendToClient s c (jobNotification job)

def broadcastJob (s : StratumServer) (job : StratumJob) : Sends :=
  s.clients.filterMap fun e =>
    if e.2.subscribed && e.2.authorized then some (e.1, jobNotification job) else none

def subscribeResponse (id sessionId : String) : String :=
  lb ++ "\"id\":" ++ id ++ ",\"result\":[[[\"mining.notify\",\"" ++ sessionId ++ "\"]],\"" ++
    sessionId.take 8 ++ "\",4],\"error\":null" ++ rb ++ "\n"

def subscribeClient (cl : StratumClient) : StratumClient := { cl with subscribed := true }

def handleSubscribe (c : Int) (id : String) (s : StratumServer) : StratumServer × Sends :=
  match findClient s c with
  | none => (s, [])
  | some client =>
    let s := modifyClient c subscribeClient s
    (s, sendToClient s c (subscribeResponse id client.sessionId))

def splitWorker (worker : String) : String × String :=
  match worker.data.span (· ≠ '.') with
  | (_, []) => (worker, "default")
  | (wallet, _ :: rest) => (String.mk wallet, String.mk rest)

def authorizeClient (walletAddress workerName : String) (cl : StratumClient) : StratumClient :=
  { cl with authorized := true, walletAddress := walletAddress, workerName := workerName }

def handleAuthorize (c : Int) (id : String) (params : List String) (s : StratumServer) :
    StratumServer × Sends :=
  let worker := params.headD ""
  let (walletAddress, workerName) := splitWorker worker
  match findClient s c with
  | none => (s, [])
  | some _ =>
    let s := modifyClient c (authorizeClient walletAddress workerName) s
    let out := sendToClient s c (lb ++ "\"id\":" ++ id ++ ",\"result\":true,\"error\":null" ++ rb ++ "\n")
    (s, out ++ if s.currentJob.jobId.isEmpty then [] else sendJob s c s.currentJob)

def loginOf (env : Env) (params : List String) : String :=
  match params with
  | [] => ""
  | p :: _ =>
    match env.readJson p with
    | none => ""
    | some v =>
      let login := if v.existsKey "login" then (v.get "login").getStr else some ""
      let pass := if v.existsKey "pass" then (v.get "pass").getStr else some ""
      match login, pass with
      | some login, some _ => login
      | _, _ => p

def loginResponse (id sessionId : String) (job : StratumJob) : String :=
  lb ++ "\"id\":" ++ id ++ ",\"jsonrpc\":\"2.0\",\"result\":" ++ lb ++ "\"id\":\"" ++ sessionId ++
    "\",\"job\":" ++ lb ++ jobFields job ++ rb ++ ",\"status\":\"OK\"" ++ rb ++ ",\"error\":null" ++
    rb ++ "\n"

def loginClient (walletAddress : String) (cl : StratumClient) : StratumClient :=
  { cl with subscribed := true, authorized := true, walletAddress := walletAddress,
            workerName := "xmrig" }

def handleGetJob (env : Env) (c : Int) (id : String) (params : List String)
    (s : StratumServer) : StratumServer × Sends :=
  let login := loginOf env params
  match findClient s c with
  | none => (s, [])
  | some client =>
    let s := modifyClient c (loginClient (if login.isEmpty then s.config.defaultWallet else login)) s
    (s, sendToClient s c (loginResponse id client.sessionId s.currentJob))

def isSpace (b : UInt8) : Bool := b = 32 || (9 ≤ b && b ≤ 13)

def hexDigitValue (b : UInt8) : Option Nat :=
  if 48 ≤ b ∧ b ≤ 57 then some (b.toNat - 48)
  else if 97 ≤ b ∧ b ≤ 102 then some (b.toNat - 87)
  else if 65 ≤ b ∧ b ≤ 70 then some (b.toNat - 55)
  else none

def tryParseHex : List UInt8 → Option (List UInt8)
  | [] => some []
  | [c] => if isSpace c then some [] else none
  | c :: c2 :: rest =>
    if isSpace c then tryParseHex (c2 :: rest)
    else match hexDigitValue c, hexDigitValue c2 with
      | some h, some l => (tryParseHex rest).map ((h * 16 + l).toUInt8 :: ·)
      | _, _ => none

def utf8Bytes (s : String) : List UInt8 := s.data.flatMap String.utf8EncodeChar

def parseHex (s : String) : List UInt8 := (tryParseHex (utf8Bytes s)).getD []

def parseNonce (nonceHex : String) : UInt32 :=
  if nonceHex.utf8ByteSize = 8 then
    match parseHex nonceHex with
    | [b0, b1, b2, b3] =>
      (b0.toNat + b1.toNat * 2 ^ 8 + b2.toNat * 2 ^ 16 + b3.toNat * 2 ^ 24).toUInt32
    | _ => 0
  else 0

def setCompact (nCompact : UInt32) : BitVec 256 :=
  let nSize := nCompact.toNat / 2 ^ 24
  let nWord := nCompact.toNat % 2 ^ 23
  if nSize ≤ 3 then BitVec.ofNat 256 (nWord / 2 ^ (8 * (3 - nSize)))
  else BitVec.ofNat 256 nWord <<< (8 * (nSize - 3))

def ensureEngine (env : Env) (alloc : Allocation) (engine : RandomXMiner) : Bool × RandomXMiner :=
  if engine.initialized then (true, engine)
  else initializeMiner alloc env.genesisKey .light defaultSafeMode engine

def validateAndSubmitShare (env : Env) (answers : Answers) (jobId nonceHex : String)
    (s : StratumServer) : Bool × StratumServer :=
  match s.jobs.lookup jobId with
  | none => (false, s)
  | some job =>
    match job.blockTemplate with
    | none => (false, s)
    | some tmpl =>
      let nonce := parseNonce nonceHex
      let block := { tmpl.block with nNonce := nonce }
      match ensureEngine env answers.alloc s.engine with
      | (false, engine) => (false, { s with engine := engine })
      | (true, engine) =>
        let (hash, engine) :=
          calculateHash env.randomxHash answers.vmOk (serializeBlockHeader block) engine
        let s := { s with engine := engine }
        if (setCompact block.nBits).toNat < hash.toNat then (false, s)
        else if env.submitSolution tmpl block.nVersion block.nTime nonce then
          (true, { s with blocksFound := s.blocksFound + 1 })
        else (false, s)

def submitFields (env : Env) (params : List String) : String × String :=
  if 5 ≤ params.length then (params.getD 1 "", params.getD 4 "")
  else match params with
    | [] => ("", "")
    | p :: _ =>
      match env.readJson p with
      | none => ("", "")
      | some v =>
        match (if v.existsKey "job_id" then (v.get "job_id").getStr else some "") with
        | none => ("", "")
        | some jobId =>
          match (if v.existsKey "nonce" then (v.get "nonce").getStr else some "") with
          | none => (jobId, "")
          | some nonce => (jobId, nonce)

def creditShare (accepted : Bool) (cl : StratumClient) : StratumClient :=
  if accepted then { cl with sharesAccepted := cl.sharesAccepted + 1 }
  else { cl with sharesRejected := cl.sharesRejected + 1 }

def countShare (accepted : Bool) (s : StratumServer) : StratumServer :=
  if accepted then { s with totalSharesAccepted := s.totalSharesAccepted + 1 }
  else { s with totalSharesRejected := s.totalSharesRejected + 1 }

def submitOkResponse (id : String) : String :=
  lb ++ "\"id\":" ++ id ++ ",\"result\":" ++ lb ++ "\"status\":\"OK\"" ++ rb ++ ",\"error\":null" ++ rb ++
    "\n"

def handleSubmit (env : Env) (answers : Answers) (c : Int) (id : String) (params : List String)
    (s : StratumServer) : StratumServer × Sends :=
  let fields := submitFields env params
  if fields.1.isEmpty || fields.2.isEmpty then (s, sendError s c id 20 "Invalid submit format")
  else
    let validated := validateAndSubmitShare env answers fields.1 fields.2 s
    let accepted := validated.1
    let s := validated.2
    let out := if accepted then sendToClient s c (submitOkResponse id)
      else sendError s c id 23 "Invalid share"
    (countShare accepted (modifyClient c (creditShare accepted) s), out)

structure Request where
  method : String
  id : String
  params : List String

def paramString (env : Env) : UniValue → String
  | .str s => s
  | v => env.writeJson v

def parseRequest (env : Env) (request : UniValue) : Option Request := do
  let method ← if request.existsKey "method" then (request.get "method").getStr else some ""
  let idValue := request.get "id"
  let id := if request.existsKey "id" && !idValue.isNull then
      (match idValue with
        | .str s => "\"" ++ s ++ "\""
        | v => env.writeJson v)
    else "null"
  let params := if request.existsKey "params" then
      (match request.get "params" with
        | .arr values => values.map (paramString env)
        | .obj entries => [env.writeJson (.obj entries)]
        | _ => [])
    else []
  pure ⟨method, id, params⟩

def handleRequest (env : Env) (answers : Answers) (c : Int) (request : UniValue)
    (s : StratumServer) : StratumServer × Sends :=
  match parseRequest env request with
  | none => (s, [])
  | some r =>
    if r.method = "mining.subscribe" then handleSubscribe c r.id s
    else if r.method = "mining.authorize" then handleAuthorize c r.id r.params s
    else if r.method = "mining.submit" ∨ r.method = "submit" then
      handleSubmit env answers c r.id r.params s
    else if r.method = "login" ∨ r.method = "getjob" then handleGetJob env c r.id r.params s
    else (s, sendError s c r.id (-1) "Unknown method")

def handleMessage (env : Env) (answers : Answers) (c : Int) (message : String)
    (s : StratumServer) : StratumServer × Sends :=
  match env.readJson message with
  | none => (s, [])
  | some request => handleRequest env answers c request s

def createNewJob (env : Env) (tmpl : Option BlockTemplate) (tipHeight : Option Int) (time : Int)
    (s : StratumServer) : StratumServer × Sends :=
  if !s.mining then (s, [])
  else match tmpl with
    | none => (s, [])
    | some tmpl =>
      let job := makeJob tmpl tipHeight (generateJobId time s.jobCounter)
      let s := { s with jobCounter := s.jobCounter + 1, jobs := storeJob env.jobOrder job s.jobs,
                        currentJob := job }
      (s, broadcastJob s job)

def acceptClient (fd : Int) (sessionId : String) (time : Int) (s : StratumServer) :
    StratumServer :=
  let client : StratumClient := { socketFd := fd, sessionId := sessionId, connectTime := time,
                                  lastActivity := time }
  { s with clients := s.clients.filter (·.1 ≠ s.nextClientId) ++ [(s.nextClientId, client)],
           nextClientId := s.nextClientId + 1 }

def disconnectClient (c : Int) (s : StratumServer) : StratumServer :=
  { s with clients := s.clients.filter (·.1 ≠ c) }

def stop (s : StratumServer) : StratumServer := { s with running := false, clients := [] }

inductive Event
  | accept (fd : Int) (sessionId : String) (time : Int)
  | message (clientId : Int) (request : UniValue) (answers : Answers)
  | disconnect (clientId : Int)
  | newJob (tmpl : Option BlockTemplate) (tipHeight : Option Int) (time : Int)
  | engineOp (op : EngineOp)
  | stop

def step (env : Env) (s : StratumServer) : Event → StratumServer × Sends
  | .accept fd sessionId time => (acceptClient fd sessionId time s, [])
  | .message c request answers => handleRequest env answers c request s
  | .disconnect c => (disconnectClient c s, [])
  | .newJob tmpl tipHeight time => createNewJob env tmpl tipHeight time s
  | .engineOp op => ({ s with engine := (applyOp op s.engine).2 }, [])
  | .stop => (stop s, [])

def Enabled (s : StratumServer) : Event → Prop
  | .accept .. => s.running = true
  | .message c .. => s.running = true ∧ (findClient s c).isSome
  | .newJob .. => s.running = true
  | _ => True

def start (config : StratumConfig) (flags : UInt32) : StratumServer :=
  { config := config, engine := { flags := flags } }

/-- Runs of the server from `Start`, one event at a time. -/
inductive Run (env : Env) : List Event → StratumServer → Prop
  | start (config : StratumConfig) (flags : UInt32) : Run env [] (start config flags)
  | step {evs : List Event} {s : StratumServer} {ev : Event} :
      Run env evs s → Enabled s ev → Run env (evs ++ [ev]) (step env s ev).1

def fixedEnv (hash : BitVec 256) (accept : Bool) : Env where
  readJson _ := none
  writeJson _ := ""
  genesisKey := []
  randomxHash _ _ := hash
  submitSolution _ _ _ _ := accept
  jobOrder := stringLess

end Wattx.Stratum
