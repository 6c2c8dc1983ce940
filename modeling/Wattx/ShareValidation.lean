import Wattx.Stratum

/-!
What an accepted share guarantees (`ValidateAndSubmitShare`), over every run of the server.
-/

namespace Wattx.ShareValidation

open Block StratumJobs RandomXEngine Stratum

section Hash

variable (randomxHash : List UInt8 → List UInt8 → BitVec 256)

theorem calculateHash_cases (vmOk : Bool) (input : List UInt8) (e : RandomXMiner) :
    (calculateHash randomxHash vmOk input e).1 = 0 ∨
      ∃ vm, (calculateHash randomxHash vmOk input e).2.validationVm = some vm ∧
        (calculateHash randomxHash vmOk input e).1 = randomxHash vm.key input := by
  unfold calculateHash
  split
  · exact .inl rfl
  · split
    · exact .inr ⟨_, ‹_›, rfl⟩
    · split
      · exact .inl rfl
      · exact .inr ⟨_, rfl, rfl⟩

@[simp] theorem calculateHash_currentKey (vmOk : Bool) (input : List UInt8) (e : RandomXMiner) :
    (calculateHash randomxHash vmOk input e).2.currentKey = e.currentKey := by
  unfold calculateHash
  split
  · rfl
  · split
    · rfl
    · split <;> rfl

theorem calculateHash_vm_failure (input : List UInt8) {e : RandomXMiner}
    (hinit : e.initialized = true) (hvm : e.validationVm = none) :
    calculateHash randomxHash false input e = (0, e) := by
  simp [calculateHash, hinit, hvm, createVm]

theorem createVm_key {ok : Bool} {flags : UInt32} {cache dataset : Option Memory} {vm : Vm}
    (h : createVm ok flags cache dataset = some vm) :
    (∃ c, cache = some c ∧ vm.key = c.key) ∨ ∃ d, dataset = some d ∧ vm.key = d.key := by
  unfold createVm at h
  split at h <;> [split at h; cases h]
  · obtain ⟨d, hd, rfl⟩ := Option.map_eq_some'.mp h
    exact .inr ⟨d, hd, rfl⟩
  · obtain ⟨c, hc, rfl⟩ := Option.map_eq_some'.mp h
    exact .inl ⟨c, hc, rfl⟩

theorem engineInv_calculateHash (vmOk : Bool) (input : List UInt8) {e : RandomXMiner}
    (h : EngineInv e) : EngineInv (calculateHash randomxHash vmOk input e).2 := by
  by_cases hi : e.initialized = true
  · cases hv : e.validationVm with
    | some vm => simpa [calculateHash, hi, hv] using h
    | none =>
      cases hc : createVm vmOk e.flags e.cache e.dataset with
      | none => simpa [calculateHash, hi, hv, hc] using h
      | some vm =>
        simp only [calculateHash, hi, hv, hc, Bool.not_true, Bool.false_eq_true, if_false]
        refine ⟨fun _ => h.live hi, h.cache_key, h.dataset_key, fun vm' hv' => ?_, fun hr => by
          cases hr⟩
        cases hv'
        rcases createVm_key hc with ⟨c, hc', hk⟩ | ⟨d, hd, hk⟩
        · exact hk.trans (h.cache_key c hc')
        · exact hk.trans (h.dataset_key d hd)
  · simpa [calculateHash, hi] using h

end Hash

theorem toNat_toUInt8 (n : Nat) : n.toUInt8.toNat = n % 256 := by
  simp [Nat.toUInt8, UInt8.ofNat, UInt8.toNat, BitVec.toNat_ofNat]

theorem toNat_toUInt32 (n : Nat) : n.toUInt32.toNat = n % 2 ^ 32 := by
  simp [Nat.toUInt32, UInt32.ofNat, UInt32.toNat, BitVec.toNat_ofNat]

def digitByte (d : Nat) : UInt8 := (hexDigit d).toNat.toUInt8

theorem utf8EncodeChar_hexDigit : ∀ d : Fin 16, String.utf8EncodeChar (hexDigit d) = [digitByte d] := by
  decide

theorem digitByte_decodes : ∀ d : Fin 16,
    hexDigitValue (digitByte d.val) = some d.val ∧ isSpace (digitByte d.val) = false := by
  decide

theorem hexDigit_mod (n : Nat) : hexDigit (n % 16) = hexDigit n := by
  simp [hexDigit]

theorem utf8Bytes_append (s t : String) : utf8Bytes (s ++ t) = utf8Bytes s ++ utf8Bytes t := by
  simp [utf8Bytes]

theorem data_foldl_append (acc : String) (l : List String) :
    (l.foldl (· ++ ·) acc).data = acc.data ++ (l.map String.data).flatten := by
  induction l generalizing acc with
  | nil => simp
  | cons s l ih => simp [ih]

theorem utf8Bytes_hexStr (bytes : List UInt8) :
    utf8Bytes (hexStr bytes) = bytes.flatMap fun b => utf8Bytes (hexByte b) := by
  simp only [utf8Bytes, hexStr, String.join, data_foldl_append, List.nil_append, List.map_map]
  induction bytes with
  | nil => rfl
  | cons b bs ih => simp only [List.map_cons, List.flatten_cons, List.flatMap_append, ih,
      List.flatMap_cons, Function.comp]

theorem utf8Bytes_hexByte (b : UInt8) :
    utf8Bytes (hexByte b) = [digitByte (b.toNat / 16), digitByte (b.toNat % 16)] := by
  have hb : b.toNat < 256 := b.toBitVec.isLt
  have h1 := utf8EncodeChar_hexDigit ⟨b.toNat / 16, by omega⟩
  have h2 := utf8EncodeChar_hexDigit ⟨b.toNat % 16, by omega⟩
  simp only [hexDigit_mod] at h2
  simp only [utf8Bytes, hexByte, List.flatMap_cons, List.flatMap_nil, List.append_nil, h1, h2]
  simp [digitByte, hexDigit_mod]

theorem tryParseHex_hexByte_append (b : UInt8) (rest : List UInt8) :
    tryParseHex (utf8Bytes (hexByte b) ++ rest) = (tryParseHex rest).map (b :: ·) := by
  have hb : b.toNat < 256 := b.toBitVec.isLt
  obtain ⟨hv₁, hs₁⟩ := digitByte_decodes ⟨b.toNat / 16, by omega⟩
  obtain ⟨hv₂, -⟩ := digitByte_decodes ⟨b.toNat % 16, by omega⟩
  have hval : (b.toNat / 16 * 16 + b.toNat % 16).toUInt8 = b :=
    UInt8.toNat.inj (by rw [toNat_toUInt8]; omega)
  rw [utf8Bytes_hexByte, List.cons_append, List.cons_append, tryParseHex, if_neg (by simp [hs₁]),
    hv₁, hv₂]
  simp only [List.nil_append, hval]

theorem tryParseHex_hexStr (bytes : List UInt8) : tryParseHex (utf8Bytes (hexStr bytes)) = some bytes := by
  rw [utf8Bytes_hexStr]
  induction bytes with
  | nil => rfl
  | cons b bs ih => rw [List.flatMap_cons, tryParseHex_hexByte_append, ih]; rfl

theorem utf8ByteSize_eq_length (s : String) : s.utf8ByteSize = (utf8Bytes s).length := by
  rw [← String.size_toUTF8]; rfl

theorem parseNonce_hexStr (n : UInt32) : parseNonce (hexStr (leBytes 4 n.toNat)) = n := by
  have hlen : (hexStr (leBytes 4 n.toNat)).utf8ByteSize = 8 := by
    rw [utf8ByteSize_eq_length, utf8Bytes_hexStr]
    simp [leBytes, List.range, List.range.loop, utf8Bytes_hexByte]
  have hn : n.toNat < 2 ^ 32 := n.toBitVec.isLt
  rw [parseNonce, if_pos hlen, parseHex, tryParseHex_hexStr, Option.getD_some]
  simp only [leBytes, List.range, List.range.loop, List.map_cons, List.map_nil]
  apply UInt32.toNat.inj
  simp only [toNat_toUInt32, toNat_toUInt8, Nat.reducePow]
  omega

theorem ensureEngine_true {env : Env} {alloc : Allocation} {e : RandomXMiner}
    (h : (ensureEngine env alloc e).1 = true) :
    (ensureEngine env alloc e).2.initialized = true ∧
      (ensureEngine env alloc e).2.currentKey = if e.initialized then e.currentKey else env.genesisKey := by
  unfold ensureEngine at h ⊢
  split
  · exact ⟨‹_›, by simp [‹_›]⟩
  · rename_i hi
    simp only [hi, Bool.false_eq_true, if_false] at h ⊢
    exact ⟨(initializeMiner_true h).1, (initializeMiner_true h).2.1⟩

theorem engineInv_ensureEngine (env : Env) (alloc : Allocation) {e : RandomXMiner}
    (h : EngineInv e) : EngineInv (ensureEngine env alloc e).2 := by
  unfold ensureEngine
  split
  · exact h
  · exact engineInv_initializeMiner alloc env.genesisKey .light defaultSafeMode h

theorem validateAndSubmitShare_eq_true_iff (env : Env) (answers : Answers) (jobId nonceHex : String)
    (s : StratumServer) :
    (validateAndSubmitShare env answers jobId nonceHex s).1 = true ↔
      ∃ job tmpl engine, s.jobs.lookup jobId = some job ∧ job.blockTemplate = some tmpl ∧
        ensureEngine env answers.alloc s.engine = (true, engine) ∧
        (calculateHash env.randomxHash answers.vmOk
          (serializeBlockHeader { tmpl.block with nNonce := parseNonce nonceHex }) engine).1.toNat ≤
          (setCompact tmpl.block.nBits).toNat ∧
        env.submitSolution tmpl tmpl.block.nVersion tmpl.block.nTime (parseNonce nonceHex) = true := by
  unfold validateAndSubmitShare
  rcases hj : s.jobs.lookup jobId with _ | job
  · simp
  rcases ht : job.blockTemplate with _ | tmpl
  · simp [ht]
  rcases he : ensureEngine env answers.alloc s.engine with ⟨_ | _, engine⟩
  · simp [ht, he]
  simp only [ht, Option.some.injEq, Prod.mk.injEq, true_and, exists_and_left, exists_eq_left',
    exists_eq_left]
  split_ifs with hlt hsub <;> simp_all

theorem validateAndSubmitShare_true_hash {env : Env} {answers : Answers} {jobId nonceHex : String}
    {s : StratumServer} (hinv : EngineInv s.engine)
    (h : (validateAndSubmitShare env answers jobId nonceHex s).1 = true) :
    ∃ tmpl, (s.jobs.lookup jobId).bind (·.blockTemplate) = some tmpl ∧
      env.submitSolution tmpl tmpl.block.nVersion tmpl.block.nTime (parseNonce nonceHex) = true ∧
      ((calculateHash env.randomxHash answers.vmOk
          (serializeBlockHeader { tmpl.block with nNonce := parseNonce nonceHex })
          (ensureEngine env answers.alloc s.engine).2).1 = 0 ∨
        (env.randomxHash (if s.engine.initialized then s.engine.currentKey else env.genesisKey)
          (serializeBlockHeader { tmpl.block with nNonce := parseNonce nonceHex })).toNat ≤
          (setCompact tmpl.block.nBits).toNat) := by
  obtain ⟨job, tmpl, engine, hj, ht, he, hle, hsub⟩ :=
    (validateAndSubmitShare_eq_true_iff env answers jobId nonceHex s).mp h
  refine ⟨tmpl, by simp [hj, ht], hsub, ?_⟩
  have hkey := (ensureEngine_true (by rw [he])).2
  have hinv' := engineInv_ensureEngine env answers.alloc hinv
  rw [he] at hkey hinv' ⊢
  rcases calculateHash_cases env.randomxHash answers.vmOk
    (serializeBlockHeader { tmpl.block with nNonce := parseNonce nonceHex }) engine with h0 | ⟨vm, hvm, hh⟩
  · exact .inl h0
  · have hvk := (engineInv_calculateHash env.randomxHash answers.vmOk _ hinv').vm_key vm hvm
    rw [calculateHash_currentKey] at hvk
    exact .inr (by rw [← hkey, ← hvk, ← hh]; exact hle)

theorem engineInv_validateAndSubmitShare (env : Env) (answers : Answers) (jobId nonceHex : String)
    {s : StratumServer} (h : EngineInv s.engine) :
    EngineInv (validateAndSubmitShare env answers jobId nonceHex s).2.engine := by
  have he := engineInv_ensureEngine env answers.alloc h
  unfold validateAndSubmitShare
  split
  · exact h
  · split
    · exact h
    · split
      · rename_i heq; rw [heq] at he; exact he
      · rename_i heq; rw [heq] at he
        simp only
        split_ifs <;> exact engineInv_calculateHash env.randomxHash answers.vmOk _ he

theorem engineInv_handleSubmit (env : Env) (answers : Answers) (c : Int) (id : String)
    (params : List String) {s : StratumServer} (h : EngineInv s.engine) :
    EngineInv (handleSubmit env answers c id params s).1.engine := by
  by_cases hf : ((submitFields env params).1.isEmpty || (submitFields env params).2.isEmpty) = true
  · simp only [handleSubmit, hf, if_true]
    exact h
  · simp only [handleSubmit, hf, Bool.false_eq_true, if_false]
    cases (validateAndSubmitShare env answers _ _ s).1 <;>
      exact engineInv_validateAndSubmitShare env answers _ _ h

theorem engineInv_handleRequest (env : Env) (answers : Answers) (c : Int) (request : Json.UniValue)
    {s : StratumServer} (h : EngineInv s.engine) :
    EngineInv (handleRequest env answers c request s).1.engine := by
  unfold handleRequest
  cases parseRequest env request with
  | none => exact h
  | some r =>
    simp only
    split_ifs
    · unfold handleSubscribe; split <;> exact h
    · unfold handleAuthorize; split <;> exact h
    · exact engineInv_handleSubmit env answers c r.id r.params h
    · unfold handleGetJob; split <;> exact h
    · exact h

theorem engineInv_step (env : Env) {s : StratumServer} (ev : Event) (h : EngineInv s.engine) :
    EngineInv (step env s ev).1.engine := by
  cases ev with
  | message c request answers => exact engineInv_handleRequest env answers c request h
  | newJob tmpl tipHeight time =>
    show EngineInv (createNewJob env tmpl tipHeight time s).1.engine
    unfold createNewJob; split
    · exact h
    · split <;> exact h
  | engineOp op => exact engineInv_applyOp op h
  | _ => exact h

theorem run_engineInv {env : Env} {evs : List Event} {s : StratumServer} (h : Run env evs s) :
    EngineInv s.engine := by
  induction h with
  | start config flags => exact reachable_engineInv (.init flags)
  | step _ _ ih => exact engineInv_step env _ ih

theorem run_validateAndSubmitShare_true {env : Env} {evs : List Event} {s : StratumServer}
    (hrun : Run env evs s) {answers : Answers} {jobId nonceHex : String}
    (h : (validateAndSubmitShare env answers jobId nonceHex s).1 = true) :
    ∃ tmpl, (s.jobs.lookup jobId).bind (·.blockTemplate) = some tmpl ∧
      env.submitSolution tmpl tmpl.block.nVersion tmpl.block.nTime (parseNonce nonceHex) = true ∧
      ((calculateHash env.randomxHash answers.vmOk
          (serializeBlockHeader { tmpl.block with nNonce := parseNonce nonceHex })
          (ensureEngine env answers.alloc s.engine).2).1 = 0 ∨
        (env.randomxHash (if s.engine.initialized then s.engine.currentKey else env.genesisKey)
          (serializeBlockHeader { tmpl.block with nNonce := parseNonce nonceHex })).toNat ≤
          (setCompact tmpl.block.nBits).toNat) :=
  validateAndSubmitShare_true_hash (run_engineInv hrun) h

def oneJobServer : StratumServer :=
  (step (fixedEnv 0 true) (start ⟨"", 30⟩ 0) (.newJob (some ⟨{}⟩) none 0x67000001)).1

theorem run_validateAndSubmitShare_true_first_share :
    Run (fixedEnv 0 true) [.newJob (some ⟨{}⟩) none 0x67000001] oneJobServer ∧
      (validateAndSubmitShare (fixedEnv 0 true) ⟨⟨true, true, true⟩, true⟩
        (generateJobId 0x67000001 0) "00000000" oneJobServer).1 = true ∧
      ∃ tmpl, (oneJobServer.jobs.lookup (generateJobId 0x67000001 0)).bind (·.blockTemplate) =
          some tmpl ∧
        (fixedEnv 0 true).submitSolution tmpl tmpl.block.nVersion tmpl.block.nTime
          (parseNonce "00000000") = true ∧
        ((calculateHash (fixedEnv 0 true).randomxHash true
            (serializeBlockHeader { tmpl.block with nNonce := parseNonce "00000000" })
            (ensureEngine (fixedEnv 0 true) ⟨true, true, true⟩ oneJobServer.engine).2).1 = 0 ∨
          ((fixedEnv 0 true).randomxHash
              (if oneJobServer.engine.initialized then oneJobServer.engine.currentKey
                else (fixedEnv 0 true).genesisKey)
              (serializeBlockHeader { tmpl.block with nNonce := parseNonce "00000000" })).toNat ≤
            (setCompact tmpl.block.nBits).toNat) :=
  have hrun : Run (fixedEnv 0 true) [.newJob (some ⟨{}⟩) none 0x67000001] oneJobServer :=
    @Run.step _ [] _ (.newJob (some ⟨{}⟩) none 0x67000001) (.start ⟨"", 30⟩ 0) rfl
  have h : (validateAndSubmitShare (fixedEnv 0 true) ⟨⟨true, true, true⟩, true⟩
      (generateJobId 0x67000001 0) "00000000" oneJobServer).1 = true := by decide
  ⟨hrun, h, run_validateAndSubmitShare_true hrun h⟩

theorem validateAndSubmitShare_accepts_without_hash {env : Env} {answers : Answers} {jobId : String}
    (nonceHex : String) {s : StratumServer} {tmpl : BlockTemplate}
    (htmpl : (s.jobs.lookup jobId).bind (·.blockTemplate) = some tmpl)
    (hinit : s.engine.initialized = true) (hvm : s.engine.validationVm = none)
    (hfail : answers.vmOk = false)
    (hsubmit : env.submitSolution tmpl tmpl.block.nVersion tmpl.block.nTime (parseNonce nonceHex) = true) :
    validateAndSubmitShare env answers jobId nonceHex s =
      (true, { s with blocksFound := s.blocksFound + 1 }) := by
  obtain ⟨job, hj, ht⟩ := Option.bind_eq_some.mp htmpl
  simp [validateAndSubmitShare, hj, ht, ensureEngine, hinit, hfail,
    calculateHash_vm_failure _ _ hinit hvm, hsubmit]

def minerKeyedServer : StratumServer :=
  (step (fixedEnv (BitVec.allOnes 256) true)
    (step (fixedEnv (BitVec.allOnes 256) true) (start ⟨"", 30⟩ 0)
      (.newJob (some ⟨{}⟩) none 0x67000001)).1
    (.engineOp (.initializeMiner ⟨true, true, true⟩ [7] .light false))).1

theorem validateAndSubmitShare_accepts_zz :
    Run (fixedEnv (BitVec.allOnes 256) true)
        [.newJob (some ⟨{}⟩) none 0x67000001,
          .engineOp (.initializeMiner ⟨true, true, true⟩ [7] .light false)] minerKeyedServer ∧
      "zz".length ≠ 8 ∧ minerKeyedServer.engine.currentKey ≠ (fixedEnv (BitVec.allOnes 256) true).genesisKey ∧
      (∀ key input, (setCompact (⟨{}⟩ : BlockTemplate).block.nBits).toNat <
        ((fixedEnv (BitVec.allOnes 256) true).randomxHash key input).toNat) ∧
      (minerKeyedServer.jobs.lookup (generateJobId 0x67000001 0)).bind (·.blockTemplate) = some ⟨{}⟩ ∧
      minerKeyedServer.engine.initialized = true ∧ minerKeyedServer.engine.validationVm = none ∧
      (⟨⟨true, true, true⟩, false⟩ : Answers).vmOk = false ∧
      (fixedEnv (BitVec.allOnes 256) true).submitSolution ⟨{}⟩ (⟨{}⟩ : BlockTemplate).block.nVersion
        (⟨{}⟩ : BlockTemplate).block.nTime (parseNonce "zz") = true ∧
      validateAndSubmitShare (fixedEnv (BitVec.allOnes 256) true) ⟨⟨true, true, true⟩, false⟩
          (generateJobId 0x67000001 0) "zz" minerKeyedServer =
        (true, { minerKeyedServer with blocksFound := minerKeyedServer.blocksFound + 1 }) :=
  have htmpl : (minerKeyedServer.jobs.lookup (generateJobId 0x67000001 0)).bind (·.blockTemplate) =
      some ⟨{}⟩ := by decide
  ⟨@Run.step _ [.newJob (some ⟨{}⟩) none 0x67000001] _ _
      (@Run.step _ [] _ (.newJob (some ⟨{}⟩) none 0x67000001) (.start ⟨"", 30⟩ 0) rfl) trivial,
    by decide, by decide, fun _ _ => show (setCompact 0).toNat < (BitVec.allOnes 256).toNat by decide,
    htmpl, rfl, rfl, rfl, rfl,
    validateAndSubmitShare_accepts_without_hash "zz" htmpl rfl rfl rfl rfl⟩

theorem validateAndSubmitShare_true_nonce (bytes : List UInt8) (n : UInt32) :
    parseHex (hexStr bytes) = bytes ∧ parseNonce (hexStr (leBytes 4 n.toNat)) = n ∧
      ∀ (env : Env) (answers : Answers) (jobId : String) (s : StratumServer),
        (validateAndSubmitShare env answers jobId (hexStr (leBytes 4 n.toNat)) s).1 = true →
        ∃ tmpl, (s.jobs.lookup jobId).bind (·.blockTemplate) = some tmpl ∧
          env.submitSolution tmpl tmpl.block.nVersion tmpl.block.nTime n = true := by
  refine ⟨by rw [parseHex, tryParseHex_hexStr, Option.getD_some], parseNonce_hexStr n,
    fun env answers jobId s h => ?_⟩
  obtain ⟨job, tmpl, -, hj, ht, -, -, hsub⟩ :=
    (validateAndSubmitShare_eq_true_iff env answers jobId _ s).mp h
  exact ⟨tmpl, by simp [hj, ht], parseNonce_hexStr n ▸ hsub⟩

theorem validateAndSubmitShare_true_nonce_zero :
    (validateAndSubmitShare (fixedEnv 0 true) ⟨⟨true, true, true⟩, true⟩ (generateJobId 0x67000001 0)
        (hexStr (leBytes 4 (0 : UInt32).toNat)) oneJobServer).1 = true ∧
      parseHex (hexStr [0xde, 0xad, 0xbe, 0xef]) = [0xde, 0xad, 0xbe, 0xef] ∧
      parseNonce (hexStr (leBytes 4 (0 : UInt32).toNat)) = 0 ∧
      ∀ (env : Env) (answers : Answers) (jobId : String) (s : StratumServer),
        (validateAndSubmitShare env answers jobId (hexStr (leBytes 4 (0 : UInt32).toNat)) s).1 = true →
        ∃ tmpl, (s.jobs.lookup jobId).bind (·.blockTemplate) = some tmpl ∧
          env.submitSolution tmpl tmpl.block.nVersion tmpl.block.nTime 0 = true :=
  ⟨by decide, validateAndSubmitShare_true_nonce [0xde, 0xad, 0xbe, 0xef] 0⟩

end Wattx.ShareValidation
