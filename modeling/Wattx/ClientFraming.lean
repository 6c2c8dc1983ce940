import Mathlib.Data.List.Basic

/-!
The read side of `StratumServer::ClientThread`: each `recv` fills `buffer` with 1 to 4095 bytes
and a `'\0'`, `recv_buffer += buffer` appends it as a C string, and the loop over
`recv_buffer.find('\n')` takes out the complete messages. `frame` is the reader's meaning of a byte
stream. `last_activity` and the client lookups are left out.
-/

namespace Wattx.ClientFraming

def extractMessages : Nat → List UInt8 → List (List UInt8) × List UInt8
  | 0, recvBuffer => ([], recvBuffer)
  | fuel + 1, recvBuffer =>
    let pos := recvBuffer.indexOf 10
    if pos < recvBuffer.length then
      let message := recvBuffer.take pos
      let rest := extractMessages fuel (recvBuffer.drop (pos + 1))
      ((if message.isEmpty then [] else [message]) ++ rest.1, rest.2)
    else ([], recvBuffer)

def receive (recvBuffer chunk : List UInt8) : List (List UInt8) × List UInt8 :=
  let recvBuffer := recvBuffer ++ chunk.takeWhile (· != 0)
  extractMessages recvBuffer.length recvBuffer

def clientThread (chunks : List (List UInt8)) : List (List UInt8) × List UInt8 :=
  chunks.foldl (fun acc chunk => let r := receive acc.2 chunk; (acc.1 ++ r.1, r.2)) ([], [])

def frameStep (acc : List (List UInt8) × List UInt8) (b : UInt8) :
    List (List UInt8) × List UInt8 :=
  if b = 10 then (if acc.2 = [] then acc.1 else acc.1 ++ [acc.2], []) else (acc.1, acc.2 ++ [b])

def frameFrom (acc : List (List UInt8) × List UInt8) (bytes : List UInt8) :
    List (List UInt8) × List UInt8 :=
  bytes.foldl frameStep acc

def frame (stream : List UInt8) : List (List UInt8) × List UInt8 := frameFrom ([], []) stream

theorem frameFrom_append (acc : List (List UInt8) × List UInt8) (a b : List UInt8) :
    frameFrom acc (a ++ b) = frameFrom (frameFrom acc a) b :=
  List.foldl_append _ _ _ _

theorem frameFrom_shift (msgs lines : List (List UInt8)) (pending bytes : List UInt8) :
    frameFrom (msgs ++ lines, pending) bytes =
      (msgs ++ (frameFrom (lines, pending) bytes).1, (frameFrom (lines, pending) bytes).2) := by
  induction bytes generalizing lines pending with
  | nil => rfl
  | cons b bytes ih =>
    simp only [frameFrom, List.foldl_cons, frameStep] at ih ⊢
    split_ifs
    · exact ih _ _
    · rw [List.append_assoc]; exact ih _ _
    · exact ih _ _

theorem frameFrom_no_newline (acc : List (List UInt8) × List UInt8) {bytes : List UInt8}
    (h : (10 : UInt8) ∉ bytes) : frameFrom acc bytes = (acc.1, acc.2 ++ bytes) := by
  induction bytes generalizing acc with
  | nil => simp [frameFrom]
  | cons b bytes ih =>
    have hb : b ≠ 10 := fun hb => h (hb ▸ List.mem_cons_self b bytes)
    rw [frameFrom, List.foldl_cons, frameStep, if_neg hb, ← frameFrom,
      ih _ fun h' => h (List.mem_cons_of_mem b h')]
    simp

theorem frame_line {line : List UInt8} (h : (10 : UInt8) ∉ line) (rest : List UInt8) :
    frame (line ++ 10 :: rest) =
      ((if line = [] then [] else [line]) ++ (frame rest).1, (frame rest).2) := by
  rw [frame, frameFrom_append, frameFrom_no_newline _ h, frameFrom, List.foldl_cons, ← frameFrom]
  simp only [frameStep, if_pos, List.nil_append]
  have := frameFrom_shift (if line = [] then [] else [line]) [] [] rest
  rwa [List.append_nil] at this

theorem frame_pending {acc : List (List UInt8) × List UInt8} (h : (10 : UInt8) ∉ acc.2)
    (bytes : List UInt8) : (10 : UInt8) ∉ (frameFrom acc bytes).2 := by
  induction bytes generalizing acc with
  | nil => exact h
  | cons b bytes ih =>
    apply ih
    by_cases hb : b = 10
    · simp [frameStep, if_pos hb]
    · simp [frameStep, if_neg hb, h, Ne.symm hb]

theorem exists_first_newline {buf : List UInt8} (h : (10 : UInt8) ∈ buf) :
    ∃ line rest, (10 : UInt8) ∉ line ∧ buf = line ++ 10 :: rest := by
  induction buf with
  | nil => simp at h
  | cons b buf ih =>
    by_cases hb : b = 10
    · exact ⟨[], buf, by simp, by simp [hb]⟩
    · obtain ⟨line, rest, hl, rfl⟩ := ih (by simpa [Ne.symm hb] using h)
      exact ⟨b :: line, rest, by simp [Ne.symm hb, hl], rfl⟩

theorem extractMessages_eq_frame (fuel : Nat) (buf : List UInt8) (h : buf.length ≤ fuel) :
    extractMessages fuel buf = frame buf := by
  induction fuel generalizing buf with
  | zero =>
    obtain rfl : buf = [] := List.length_eq_zero.mp (by omega)
    rfl
  | succ fuel ih =>
    by_cases hn : (10 : UInt8) ∈ buf
    · obtain ⟨line, rest, hl, rfl⟩ := exists_first_newline hn
      have hpos : (line ++ 10 :: rest).indexOf 10 = line.length := by
        rw [List.indexOf_append_of_not_mem hl, List.indexOf_cons_self]; rfl
      have htake : (line ++ 10 :: rest).take line.length = line := by simp
      have hdrop : (line ++ 10 :: rest).drop (line.length + 1) = rest := by simp
      simp only [List.length_append, List.length_cons] at h
      rw [extractMessages, hpos, if_pos (by simp), htake, hdrop, frame_line hl, ih _ (by omega)]
      simp [List.isEmpty_iff]
    · rw [extractMessages, if_neg (by rwa [List.indexOf_lt_length]), frame,
        frameFrom_no_newline _ hn]
      rfl

theorem receive_eq_frameFrom {buf : List UInt8} (h : (10 : UInt8) ∉ buf) (chunk : List UInt8) :
    receive buf chunk = frameFrom ([], buf) (chunk.takeWhile (· != 0)) := by
  rw [receive, extractMessages_eq_frame _ _ le_rfl, frame, frameFrom_append,
    frameFrom_no_newline _ h]
  rfl

theorem foldl_receive (chunks : List (List UInt8)) (msgs : List (List UInt8)) {buf : List UInt8}
    (h : (10 : UInt8) ∉ buf) :
    chunks.foldl (fun acc chunk => let r := receive acc.2 chunk; (acc.1 ++ r.1, r.2)) (msgs, buf) =
      frameFrom (msgs, buf) (chunks.flatMap fun chunk => chunk.takeWhile (· != 0)) := by
  induction chunks generalizing msgs buf with
  | nil => rfl
  | cons chunk chunks ih =>
    rw [List.foldl_cons, List.flatMap_cons, frameFrom_append,
      show (msgs, buf) = (msgs ++ [], buf) by simp, frameFrom_shift, List.append_nil]
    dsimp only
    rw [receive_eq_frameFrom h, ih]
    exact frame_pending h _

theorem clientThread_frames (chunks : List (List UInt8)) :
    clientThread chunks = frame (chunks.flatMap fun chunk => chunk.takeWhile (· != 0)) ∧
      ((0 : UInt8) ∉ chunks.flatten → clientThread chunks = frame chunks.flatten) := by
  have h := foldl_receive chunks [] (List.not_mem_nil 10)
  refine ⟨h, fun h0 => ?_⟩
  rw [clientThread, h, List.flatten_eq_flatMap]
  congr 1
  refine List.flatMap_congr fun chunk hc => List.takeWhile_eq_self_iff.mpr fun b hb => ?_
  have : b ≠ 0 := fun hb0 => h0 (List.mem_flatten.mpr ⟨chunk, hc, hb0 ▸ hb⟩)
  simpa using this

theorem clientThread_frames_nul :
    clientThread [[97, 0, 10, 98, 10]] = frame [97] ∧ frame [97] = ([], [97]) ∧
      clientThread [[97, 0], [10, 98, 10]] = frame [97, 10, 98, 10] ∧
      frame [97, 10, 98, 10] = ([[97], [98]], []) ∧
      frame [97, 0, 10, 98, 10] = ([[97, 0], [98]], []) :=
  ⟨(clientThread_frames _).1, rfl, (clientThread_frames _).1, rfl, rfl⟩

end Wattx.ClientFraming
