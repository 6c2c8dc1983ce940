import Wattx.Stratum

/-!
The `"id"` of the server's replies, read by `readJsonText`, a reader of RFC 8259 JSON
(`UniValue::read` is not part of the repository). A `\u` escape is read as the code unit it names.
-/

namespace Wattx.ResponseIds

open Json Stratum

abbrev quote : Char := Char.ofNat 34

abbrev backslash : Char := Char.ofNat 92

abbrev lbrace : Char := Char.ofNat 123

abbrev rbrace : Char := Char.ofNat 125

def isWs (c : Char) : Bool := c == ' ' || c == '\t' || c == '\n' || c == '\r'

def skipWs : List Char → List Char
  | [] => []
  | c :: cs => if isWs c then skipWs cs else c :: cs

def expect (c : Char) (cs : List Char) : Option (List Char) :=
  match skipWs cs with
  | d :: cs => if d = c then some cs else none
  | [] => none

def readWord (word cs : List Char) : Option (List Char) :=
  if word.isPrefixOf cs then some (cs.drop word.length) else none

def hexValue (c : Char) : Option Nat :=
  if '0' ≤ c ∧ c ≤ '9' then some (c.toNat - 48)
  else if 'a' ≤ c ∧ c ≤ 'f' then some (c.toNat - 87)
  else if 'A' ≤ c ∧ c ≤ 'F' then some (c.toNat - 55)
  else none

def simpleEscape (e : Char) : Option Char :=
  if e = quote then some quote
  else if e = backslash then some backslash
  else if e = '/' then some '/'
  else if e = 'b' then some (Char.ofNat 8)
  else if e = 'f' then some (Char.ofNat 12)
  else if e = 'n' then some '\n'
  else if e = 'r' then some '\r'
  else if e = 't' then some '\t'
  else none

def hexCode (a b d f : Char) : Option Nat := do
  let a ← hexValue a
  let b ← hexValue b
  let d ← hexValue d
  let f ← hexValue f
  pure (((a * 16 + b) * 16 + d) * 16 + f)

def readChars : List Char → Option (List Char × List Char)
  | [] => none
  | c :: cs =>
    if c = quote then some ([], cs)
    else if c = backslash then
      match cs with
      | e :: rest =>
        if e = 'u' then
          match rest with
          | a :: b :: d :: f :: rest =>
            (hexCode a b d f).bind fun n => (readChars rest).map fun r => (Char.ofNat n :: r.1, r.2)
          | _ => none
        else (simpleEscape e).bind fun x => (readChars rest).map fun r => (x :: r.1, r.2)
      | [] => none
    else if c.toNat < 32 then none
    else (readChars cs).map fun r => (c :: r.1, r.2)

def readDigits (cs : List Char) : Option (List Char × List Char) :=
  match cs.span Char.isDigit with
  | ([], _) => none
  | r => some r

def readInt (cs : List Char) : Option (List Char × List Char) :=
  match readDigits cs with
  | some ('0' :: _ :: _, _) => none
  | r => r

def readFrac : List Char → Option (List Char × List Char)
  | '.' :: cs => (readDigits cs).map fun r => ('.' :: r.1, r.2)
  | cs => some ([], cs)

def readExp : List Char → Option (List Char × List Char)
  | e :: cs =>
    if e = 'e' ∨ e = 'E' then
      match cs with
      | '+' :: cs => (readDigits cs).map fun r => (e :: '+' :: r.1, r.2)
      | '-' :: cs => (readDigits cs).map fun r => (e :: '-' :: r.1, r.2)
      | cs => (readDigits cs).map fun r => (e :: r.1, r.2)
    else some ([], e :: cs)
  | [] => some ([], [])

def readNumber (cs : List Char) : Option (List Char × List Char) := do
  let (sign, cs) := match cs with
    | '-' :: cs => (['-'], cs)
    | cs => ([], cs)
  let (int, cs) ← readInt cs
  let (frac, cs) ← readFrac cs
  let (exp, cs) ← readExp cs
  pure (sign ++ int ++ frac ++ exp, cs)

def readElements (readV : List Char → Option (UniValue × List Char)) :
    Nat → List Char → Option (List UniValue × List Char)
  | 0, _ => none
  | fuel + 1, cs => do
    let (v, cs) ← readV cs
    match expect ',' cs with
    | some cs => (readElements readV fuel cs).map fun r => (v :: r.1, r.2)
    | none => (expect ']' cs).map fun cs => ([v], cs)

def readMembers (readV : List Char → Option (UniValue × List Char)) :
    Nat → List Char → Option (List (String × UniValue) × List Char)
  | 0, _ => none
  | fuel + 1, cs => do
    let cs ← expect quote cs
    let (key, cs) ← readChars cs
    let cs ← expect ':' cs
    let (v, cs) ← readV cs
    match expect ',' cs with
    | some cs => (readMembers readV fuel cs).map fun r => ((String.mk key, v) :: r.1, r.2)
    | none => (expect rbrace cs).map fun cs => ([(String.mk key, v)], cs)

def readValue : Nat → List Char → Option (UniValue × List Char)
  | 0, _ => none
  | fuel + 1, cs =>
    match skipWs cs with
    | [] => none
    | c :: cs =>
      if c = quote then (readChars cs).map fun r => (.str (String.mk r.1), r.2)
      else if c = lbrace then
        match expect rbrace cs with
        | some cs => some (.obj [], cs)
        | none => (readMembers (fun cs => readValue fuel cs) fuel cs).map fun r => (.obj r.1, r.2)
      else if c = '[' then
        match expect ']' cs with
        | some cs => some (.arr [], cs)
        | none => (readElements (fun cs => readValue fuel cs) fuel cs).map fun r => (.arr r.1, r.2)
      else if c = 't' then (readWord ['r', 'u', 'e'] cs).map fun cs => (.bool true, cs)
      else if c = 'f' then (readWord ['a', 'l', 's', 'e'] cs).map fun cs => (.bool false, cs)
      else if c = 'n' then (readWord ['u', 'l', 'l'] cs).map fun cs => (.null, cs)
      else (readNumber (c :: cs)).map fun r => (.num (String.mk r.1), r.2)

def readJsonText (text : String) : Option UniValue :=
  match readValue text.length text.data with
  | some (v, rest) => if skipWs rest = [] then some v else none
  | none => none

example : readJsonText "\x7b\"id\":[1,-2.5e3,\"a\\n\"],\"x\":\x7b\x7d\x7d\n" =
    some (.obj [("id", .arr [.num "1", .num "-2.5e3", .str "a\n"]), ("x", .obj [])]) := rfl

def Plain (c : Char) : Prop := c ≠ quote ∧ c ≠ backslash ∧ 32 ≤ c.toNat

instance : DecidablePred Plain := fun _ => inferInstanceAs (Decidable (_ ∧ _ ∧ _))

theorem backslash_ne_quote : backslash ≠ quote := by decide

theorem skipWs_cons {c : Char} (h : isWs c = false) (cs : List Char) : skipWs (c :: cs) = c :: cs := by
  rw [skipWs, h, if_neg Bool.false_ne_true]

theorem readChars_length {inp out rest : List Char} (h : readChars inp = some (out, rest)) :
    out.length + rest.length < inp.length := by
  induction inp using readChars.induct generalizing out rest with
  | case1 => simp [readChars] at h
  | case2 cs =>
    unfold readChars at h
    simp only [↓reduceIte, Option.some.injEq, Prod.mk.injEq] at h
    obtain ⟨rfl, rfl⟩ := h
    simp
  | case3 a b d f cs hq ih =>
    unfold readChars at h
    simp only [hq, ↓reduceIte, Option.bind_eq_some, Option.map_eq_some'] at h
    obtain ⟨n, -, r, hr, hout⟩ := h
    cases hout
    have := ih hr
    simp only [List.length_cons]
    omega
  | case4 cs hcs hq =>
    unfold readChars at h
    simp only [hq, ↓reduceIte] at h
    cases h
  | case5 e cs he hq ih =>
    unfold readChars at h
    simp only [hq, he, ↓reduceIte, Option.bind_eq_some, Option.map_eq_some'] at h
    obtain ⟨x, -, r, hr, hout⟩ := h
    cases hout
    have := ih hr
    simp only [List.length_cons]
    omega
  | case6 hq =>
    unfold readChars at h
    simp [hq] at h
  | case7 c cs hq hb hc =>
    unfold readChars at h
    simp [hq, hb, hc] at h
  | case8 c cs hq hb hc ih =>
    unfold readChars at h
    simp only [hq, hb, hc, ↓reduceIte, Option.map_eq_some'] at h
    obtain ⟨r, hr, hout⟩ := h
    cases hout
    have := ih hr
    simp only [List.length_cons]
    omega

theorem readChars_escape_length {inp out rest : List Char}
    (h : readChars (backslash :: inp) = some (out, rest)) : out.length + rest.length < inp.length := by
  unfold readChars at h
  simp only [backslash_ne_quote, ↓reduceIte] at h
  rcases inp with _ | ⟨e, inp⟩
  · cases h
  · simp only at h
    split_ifs at h
    · rcases inp with _ | ⟨a, _ | ⟨b, _ | ⟨d, _ | ⟨f, inp⟩⟩⟩⟩ <;>
        simp only [Option.bind_eq_some, Option.map_eq_some', Prod.mk.injEq, reduceCtorEq] at h
      obtain ⟨n, -, r, hr, rfl, rfl⟩ := h
      have := readChars_length hr
      simp only [List.length_cons]
      omega
    · simp only [Option.bind_eq_some, Option.map_eq_some', Prod.mk.injEq] at h
      obtain ⟨x, -, r, hr, rfl, rfl⟩ := h
      have := readChars_length hr
      simp only [List.length_cons]
      omega

theorem readChars_plain {cs : List Char} (h : ∀ c ∈ cs, Plain c) (rest : List Char) :
    readChars (cs ++ quote :: rest) = some (cs, rest) := by
  induction cs with
  | nil => unfold readChars; simp
  | cons c cs ih =>
    obtain ⟨hq, hb, hc⟩ := h c (List.mem_cons_self c cs)
    rw [List.cons_append]
    unfold readChars
    simp only [hq, hb, show ¬c.toNat < 32 by omega, ↓reduceIte,
      ih fun d hd => h d (List.mem_cons_of_mem c hd), Option.map_some']

theorem readChars_quoted_iff (cs rest : List Char) :
    readChars (cs ++ quote :: rest) = some (cs, rest) ↔ ∀ c ∈ cs, Plain c := by
  refine ⟨fun h => ?_, fun h => readChars_plain h rest⟩
  induction cs with
  | nil => simp
  | cons c cs ih =>
    rw [List.cons_append] at h
    by_cases hq : c = quote
    · unfold readChars at h
      simp [hq] at h
    by_cases hb : c = backslash
    · subst hb
      have := readChars_escape_length h
      simp only [List.length_cons, List.length_append] at this
      omega
    by_cases hc : c.toNat < 32
    · unfold readChars at h
      simp [hq, hb, hc] at h
    unfold readChars at h
    simp only [hq, hb, hc, ↓reduceIte, Option.map_eq_some'] at h
    obtain ⟨⟨t, r⟩, hr, hout⟩ := h
    simp only [Prod.mk.injEq, List.cons.injEq, true_and] at hout
    obtain ⟨rfl, rfl⟩ := hout
    intro d hd
    rcases List.mem_cons.mp hd with rfl | hd
    · exact ⟨hq, hb, by omega⟩
    · exact ih hr d hd

theorem readValue_string (fuel : Nat) (cs : List Char) :
    readValue (fuel + 1) (quote :: cs) = (readChars cs).map fun r => (.str (String.mk r.1), r.2) := by
  simp [readValue, skipWs_cons, isWs, quote]

theorem readValue_object (fuel : Nat) {cs : List Char} (h : expect rbrace cs = none) :
    readValue (fuel + 1) (lbrace :: cs) =
      (readMembers (fun cs => readValue fuel cs) fuel cs).map fun r => (.obj r.1, r.2) := by
  simp [readValue, skipWs_cons, isWs, h, quote, lbrace]

theorem readMembers_cons (readV : List Char → Option (UniValue × List Char)) (fuel : Nat)
    {cs key val rest : List Char} {v : UniValue}
    (hkey : readChars cs = some (key, ':' :: val)) (hv : readV val = some (v, ',' :: rest)) :
    readMembers readV (fuel + 1) (quote :: cs) =
      (readMembers readV fuel rest).map fun r => ((String.mk key, v) :: r.1, r.2) := by
  simp [readMembers, expect, skipWs_cons, isWs, hkey, hv, quote]

def authorizeReply (id : String) : String :=
  lb ++ "\"id\":" ++ id ++ ",\"result\":true,\"error\":null" ++ rb ++ "\n"

theorem readJsonText_authorizeReply {s : String} (hs : ∀ c ∈ s.data, Plain c) :
    readJsonText (authorizeReply ("\"" ++ s ++ "\"")) =
      some (.obj [("id", .str s), ("result", .bool true), ("error", .null)]) := by
  have hid (fuel : Nat) : readValue (fuel + 3)
      (quote :: (s.data ++ quote :: ',' :: "\"result\":true,\"error\":null\x7d\n".data)) =
        some (.str s, ',' :: "\"result\":true,\"error\":null\x7d\n".data) := by
    rw [readValue_string, readChars_plain hs]; rfl
  have htext : (authorizeReply ("\"" ++ s ++ "\"")).data = lbrace :: quote :: (['i', 'd'] ++
      quote :: ':' :: quote :: (s.data ++ quote :: ',' :: "\"result\":true,\"error\":null\x7d\n".data)) := by
    simp [authorizeReply, lb, rb]
  have hlen : 4 ≤ (authorizeReply ("\"" ++ s ++ "\"")).length := by
    show 4 ≤ (String.mk (authorizeReply ("\"" ++ s ++ "\"")).data).length
    rw [String.length_mk, htext]; simp
  obtain ⟨fuel, hfuel⟩ : ∃ fuel, (authorizeReply ("\"" ++ s ++ "\"")).length = fuel + 4 :=
    ⟨_, (Nat.sub_add_cancel hlen).symm⟩
  rw [readJsonText, hfuel, htext, readValue_object _ (by simp [expect, skipWs_cons, isWs, rbrace, quote]),
    readMembers_cons _ _ (readChars_plain (by decide) _) (hid fuel)]
  rfl

def AnswersId (id line : String) : Prop := ∃ tail, line = lb ++ "\"id\":" ++ id ++ ",\"" ++ tail

theorem answersId_errorResponse (id : String) (code : Int) (message : String) :
    AnswersId id (errorResponse id code message) := by
  unfold AnswersId
  rw [errorResponse, show ",\"result\":null,\"error\":[" = ",\"" ++ "result\":null,\"error\":[" by decide]
  simp only [String.append_assoc]
  exact ⟨_, rfl⟩

theorem answersId_subscribeResponse (id sessionId : String) :
    AnswersId id (subscribeResponse id sessionId) := by
  unfold AnswersId
  rw [subscribeResponse, show ",\"result\":[[[\"mining.notify\",\"" =
    ",\"" ++ "result\":[[[\"mining.notify\",\"" by decide]
  simp only [String.append_assoc]
  exact ⟨_, rfl⟩

theorem answersId_authorizeReply (id : String) : AnswersId id (authorizeReply id) := by
  unfold AnswersId
  rw [authorizeReply, show ",\"result\":true,\"error\":null" = ",\"" ++ "result\":true,\"error\":null" by decide]
  simp only [String.append_assoc]
  exact ⟨_, rfl⟩

theorem answersId_loginResponse (id sessionId : String) (job : StratumJobs.StratumJob) :
    AnswersId id (loginResponse id sessionId job) := by
  unfold AnswersId
  rw [loginResponse, show ",\"jsonrpc\":\"2.0\",\"result\":" = ",\"" ++ "jsonrpc\":\"2.0\",\"result\":" by decide]
  simp only [String.append_assoc]
  exact ⟨_, rfl⟩

theorem answersId_submitOkResponse (id : String) : AnswersId id (submitOkResponse id) := by
  unfold AnswersId
  rw [submitOkResponse, show ",\"result\":" = ",\"" ++ "result\":" by decide]
  simp only [String.append_assoc]
  exact ⟨_, rfl⟩

theorem mem_sendToClient {s : StratumServer} {c : Int} {message : String} {out : Int × String}
    (h : out ∈ sendToClient s c message) : out = (c, message) := by
  unfold sendToClient at h
  split_ifs at h
  · simpa using h
  · simp at h

theorem handleRequest_answersId (env : Env) (answers : Answers) (c : Int) (request : UniValue)
    (s : StratumServer) {r : Request} (h : parseRequest env request = some r) :
    ∀ out ∈ (handleRequest env answers c request s).2,
      out.1 = c ∧ (AnswersId r.id out.2 ∨ ∃ job, out.2 = jobNotification job) := by
  have reply : ∀ {msg s' out}, AnswersId r.id msg → out ∈ sendToClient s' c msg →
      out.1 = c ∧ (AnswersId r.id out.2 ∨ ∃ job, out.2 = jobNotification job) := by
    intro msg s' out hm hout
    rw [mem_sendToClient hout]
    exact ⟨rfl, .inl hm⟩
  intro out hout
  simp only [handleRequest, h] at hout
  split_ifs at hout
  · simp only [handleSubscribe] at hout
    split at hout
    · simp at hout
    · exact reply (answersId_subscribeResponse _ _) hout
  · simp only [handleAuthorize] at hout
    split at hout
    · simp at hout
    · rcases List.mem_append.mp hout with hout | hout
      · exact reply (answersId_authorizeReply _) hout
      · split_ifs at hout
        · simp at hout
        · rw [mem_sendToClient hout]
          exact ⟨rfl, .inr ⟨_, rfl⟩⟩
  · simp only [handleSubmit] at hout
    split_ifs at hout
    · exact reply (answersId_errorResponse _ _ _) hout
    · exact reply (answersId_submitOkResponse _) hout
    · exact reply (answersId_errorResponse _ _ _) hout
  · simp only [handleGetJob] at hout
    split at hout
    · simp at hout
    · exact reply (answersId_loginResponse _ _ _) hout
  · exact reply (answersId_errorResponse _ _ _) hout

theorem parseRequest_str_id {env : Env} {request : UniValue} {r : Request}
    (h : parseRequest env request = some r) {s : String} (hid : request.existsKey "id" = true)
    (hs : request.get "id" = .str s) : r.id = "\"" ++ s ++ "\"" := by
  unfold parseRequest at h
  simp only [hid, hs, UniValue.isNull, Bool.not_false, Bool.and_self, ↓reduceIte] at h
  split_ifs at h <;> obtain ⟨_, -, h⟩ := Option.bind_eq_some.mp h <;> cases h <;> rfl

theorem stringId_replies (s : String) :
    (∀ env answers c request srv r, parseRequest env request = some r →
        request.existsKey "id" = true → request.get "id" = .str s →
        ∀ out ∈ (handleRequest env answers c request srv).2,
          out.1 = c ∧ (AnswersId ("\"" ++ s ++ "\"") out.2 ∨ ∃ job, out.2 = jobNotification job)) ∧
      (∀ rest, readChars (s.data ++ quote :: rest) = some (s.data, rest) ↔ ∀ c ∈ s.data, Plain c) ∧
      ((∀ c ∈ s.data, Plain c) → readJsonText (authorizeReply ("\"" ++ s ++ "\"")) =
          some (.obj [("id", .str s), ("result", .bool true), ("error", .null)])) := by
  refine ⟨fun env answers c request srv r h hid hs => ?_, fun rest => readChars_quoted_iff s.data rest,
    readJsonText_authorizeReply⟩
  rw [← parseRequest_str_id h hid hs]
  exact handleRequest_answersId env answers c request srv h

theorem stringId_replies_quote :
    (handleRequest (fixedEnv 0 true) ⟨⟨true, true, true⟩, true⟩ 0
        (.obj [("method", .str "mining.authorize"), ("id", .str "\"")])
        (acceptClient 0 "" 0 (start ⟨"", 30⟩ 0))).2 = [(0, authorizeReply "\"\"\"")] ∧
      readJsonText (authorizeReply "\"\"\"") = none ∧
      readJsonText (authorizeReply "\"\\n\"") =
        some (.obj [("id", .str "\n"), ("result", .bool true), ("error", .null)]) ∧
      ¬∀ c ∈ "\"".data, Plain c :=
  ⟨rfl, rfl, rfl, fun h => absurd (((stringId_replies "\"").2.1 []).mpr h) (by decide)⟩

end Wattx.ResponseIds
