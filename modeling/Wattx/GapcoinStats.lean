import Wattx.GapcoinMineThread

/-!
`m_stats.bestMerit` of `GapcoinMiner`, the `std::atomic<double>` each mining thread raises with
a `load` and a `compare_exchange_weak` loop. A step is one atomic action of one thread; a failed
exchange, spurious or not, stores the value it found in `currentBest`. Merits are in an ordered
type `M`.
-/

namespace Wattx.GapcoinStats

open GapcoinMineThread

inductive Pc (M : Type)
  | idle
  | load (merit : M)
  | exchange (merit currentBest : M)
  deriving DecidableEq, Repr

structure Updater (M : Type) where
  pending : List M
  pc : Pc M := .idle
  offered : List M := []
  deriving DecidableEq, Repr

structure Stats (M : Type) where
  gapsFound : Nat
  bestMerit : M
  threads : Nat → Updater M

def Updater.taken {M : Type} (u : Updater M) : List M :=
  u.offered ++ match u.pc with
    | .idle => []
    | .load merit => [merit]
    | .exchange merit _ => [merit]

def Updater.finish {M : Type} (u : Updater M) (merit : M) : Updater M :=
  { u with pc := .idle, offered := u.offered ++ [merit] }

theorem Updater.taken_reload {M : Type} {u : Updater M} {merit b : M}
    (h : u.pc = .load merit ∨ ∃ c, u.pc = .exchange merit c) :
    { u with pc := .exchange merit b }.taken = u.taken := by
  rcases h with h | ⟨c, h⟩ <;> simp [Updater.taken, h]

theorem Updater.taken_finish {M : Type} {u : Updater M} {merit c : M} (h : u.pc = .exchange merit c) :
    (u.finish merit).taken = u.taken := by
  simp [Updater.taken, Updater.finish, h]

def Stats.setThread {M : Type} (s : Stats M) (i : Nat) (u : Updater M) : Stats M :=
  { s with threads := fun j => if j = i then u else s.threads j }

@[simp] theorem Stats.setThread_bestMerit {M : Type} (s : Stats M) (i : Nat) (u : Updater M) :
    (s.setThread i u).bestMerit = s.bestMerit := rfl

@[simp] theorem Stats.setThread_threads {M : Type} (s : Stats M) (i j : Nat) (u : Updater M) :
    (s.setThread i u).threads j = if j = i then u else s.threads j := rfl

theorem mem_setThread {M : Type} {zero b : M} {s : Stats M} {i : Nat} {u : Updater M}
    (hsub : (s.threads i).taken ⊆ u.taken) (h : b = zero ∨ ∃ j, b ∈ (s.threads j).taken) :
    b = zero ∨ ∃ j, b ∈ ((s.setThread i u).threads j).taken := by
  rcases h with h | ⟨j, hj⟩
  · exact .inl h
  · refine .inr ⟨j, ?_⟩
    rw [Stats.setThread_threads]
    split
    · subst j; exact hsub hj
    · exact hj

variable {M : Type} [LinearOrder M]

def step (s : Stats M) (i : Nat) (spurious : Bool) : Stats M :=
  let u := s.threads i
  match u.pc with
  | .idle =>
    match u.pending with
    | [] => s
    | merit :: pending =>
      { s.setThread i { u with pending := pending, pc := .load merit } with
        gapsFound := s.gapsFound + 1 }
  | .load merit => s.setThread i { u with pc := .exchange merit s.bestMerit }
  | .exchange merit currentBest =>
    if currentBest < merit then
      if s.bestMerit = currentBest ∧ spurious = false then
        { s.setThread i (u.finish merit) with bestMerit := merit }
      else s.setThread i { u with pc := .exchange merit s.bestMerit }
    else s.setThread i (u.finish merit)

def run (sched : List (Nat × Bool)) (s : Stats M) : Stats M :=
  sched.foldl (fun s e => step s e.1 e.2) s

def start (zero : M) (merits : List (List M)) : Stats M :=
  ⟨0, zero, fun i => { pending := merits.getD i [] }⟩

structure ThreadInv (best : M) (merits : List M) (u : Updater M) : Prop where
  currentBest_le : ∀ merit currentBest, u.pc = .exchange merit currentBest → currentBest ≤ best
  offered_le : ∀ m ∈ u.offered, m ≤ best
  taken : u.taken ++ u.pending = merits

theorem ThreadInv.mono {best best' : M} {merits : List M} {u : Updater M}
    (h : ThreadInv best merits u) (hle : best ≤ best') : ThreadInv best' merits u :=
  ⟨fun m c hpc => (h.1 m c hpc).trans hle, fun m hm => (h.2 m hm).trans hle, h.3⟩

structure Inv (zero : M) (merits : List (List M)) (s : Stats M) : Prop where
  zero_le : zero ≤ s.bestMerit
  thread : ∀ i, ThreadInv s.bestMerit (merits.getD i []) (s.threads i)
  bestMerit_mem : s.bestMerit = zero ∨ ∃ i, s.bestMerit ∈ (s.threads i).taken

theorem inv_start (zero : M) (merits : List (List M)) : Inv zero merits (start zero merits) where
  zero_le := le_rfl
  thread _ := ⟨fun _ _ h => (nomatch h), fun _ h => (nomatch h), by simp [start, Updater.taken]⟩
  bestMerit_mem := .inl rfl

theorem thread_setThread {merits : List (List M)} {s : Stats M} {i : Nat} {u : Updater M}
    {best : M} (hle : s.bestMerit ≤ best)
    (h : ∀ j, ThreadInv s.bestMerit (merits.getD j []) (s.threads j))
    (hi : ThreadInv best (merits.getD i []) u) :
    ∀ j, ThreadInv best (merits.getD j []) ((s.setThread i u).threads j) := by
  intro j
  rw [Stats.setThread_threads]
  split
  · subst j; exact hi
  · exact (h j).mono hle

theorem step_cases (s : Stats M) (i : Nat) (spurious : Bool) :
    step s i spurious = s ∨
    (∃ merit pending, (s.threads i).pc = .idle ∧ (s.threads i).pending = merit :: pending ∧
      step s i spurious = { s.setThread i { s.threads i with pending := pending, pc := .load merit }
        with gapsFound := s.gapsFound + 1 }) ∨
    (∃ merit, ((s.threads i).pc = .load merit ∨ ∃ c, (s.threads i).pc = .exchange merit c) ∧
      step s i spurious = s.setThread i { s.threads i with pc := .exchange merit s.bestMerit }) ∨
    (∃ merit currentBest, (s.threads i).pc = .exchange merit currentBest ∧
      currentBest < merit ∧ s.bestMerit = currentBest ∧
      step s i spurious = { s.setThread i ((s.threads i).finish merit) with bestMerit := merit }) ∨
    (∃ merit currentBest, (s.threads i).pc = .exchange merit currentBest ∧ ¬ currentBest < merit ∧
      step s i spurious = s.setThread i ((s.threads i).finish merit)) := by
  dsimp only [step]
  split
  · rename_i hpc
    split
    · exact .inl rfl
    · exact .inr (.inl ⟨_, _, hpc, ‹_›, rfl⟩)
  · exact .inr (.inr (.inl ⟨_, .inl ‹_›, rfl⟩))
  · rename_i merit currentBest hpc
    split
    · split
      · exact .inr (.inr (.inr (.inl ⟨merit, currentBest, hpc, ‹_›, (‹_ ∧ _›).1, rfl⟩)))
      · exact .inr (.inr (.inl ⟨merit, .inr ⟨currentBest, hpc⟩, rfl⟩))
    · exact .inr (.inr (.inr (.inr ⟨merit, currentBest, hpc, ‹_›, rfl⟩)))

theorem le_step (s : Stats M) (i : Nat) (spurious : Bool) :
    s.bestMerit ≤ (step s i spurious).bestMerit := by
  rcases step_cases s i spurious with h | ⟨_, _, _, _, h⟩ | ⟨_, _, h⟩ | ⟨_, _, _, hlt, heq, h⟩ |
    ⟨_, _, _, _, h⟩ <;> simp only [h, Stats.setThread_bestMerit, le_refl]
  exact heq ▸ hlt.le

theorem inv_step {zero : M} {merits : List (List M)} {s : Stats M} (h : Inv zero merits s)
    (i : Nat) (spurious : Bool) : Inv zero merits (step s i spurious) := by
  have hi := h.thread i
  rcases step_cases s i spurious with h' | ⟨m, rest, hpc, hpend, h'⟩ | ⟨m, hpc, h'⟩ |
    ⟨m, c, hpc, hlt, heq, h'⟩ | ⟨m, c, hpc, hlt, h'⟩ <;> rw [h']
  · exact h
  case inr.inl =>
    refine ⟨h.zero_le, thread_setThread le_rfl h.thread ⟨fun _ _ h => (nomatch h), hi.offered_le, ?_⟩,
      mem_setThread (by simp [Updater.taken, hpc]) h.bestMerit_mem⟩
    simpa [Updater.taken, hpc, hpend] using hi.taken
  case inr.inr.inl =>
    have ht := Updater.taken_reload (b := s.bestMerit) hpc
    refine ⟨h.zero_le, thread_setThread le_rfl h.thread ⟨fun _ _ h => ?_, hi.offered_le, ?_⟩,
      mem_setThread (fun x hx => ht ▸ hx) h.bestMerit_mem⟩
    · cases h; exact le_rfl
    · rw [ht]; exact hi.taken
  case inr.inr.inr.inl =>
    have hle : s.bestMerit ≤ m := heq ▸ hlt.le
    refine ⟨h.zero_le.trans hle, thread_setThread hle h.thread
      ⟨fun _ _ h => (nomatch h), fun x hx => ?_, ?_⟩, .inr ⟨i, by simp [Updater.taken, Updater.finish]⟩⟩
    · rcases List.mem_append.mp hx with hx | hx
      · exact (hi.offered_le x hx).trans hle
      · rw [List.mem_singleton.mp hx]
    · rw [Updater.taken_finish hpc]; exact hi.taken
  case inr.inr.inr.inr =>
    have ht := Updater.taken_finish hpc
    refine ⟨h.zero_le, thread_setThread le_rfl h.thread ⟨fun _ _ h => (nomatch h), fun x hx => ?_, ?_⟩,
      mem_setThread (fun x hx => ht ▸ hx) h.bestMerit_mem⟩
    · rcases List.mem_append.mp hx with hx | hx
      · exact hi.offered_le x hx
      · rw [List.mem_singleton.mp hx]
        exact (not_lt.mp hlt).trans (hi.currentBest_le m c hpc)
    · rw [ht]; exact hi.taken

theorem run_inv {zero : M} {merits : List (List M)} (sched : List (Nat × Bool)) {s : Stats M}
    (h : Inv zero merits s) : Inv zero merits (run sched s) := by
  induction sched generalizing s with
  | nil => exact h
  | cons e sched ih => exact ih (inv_step h e.1 e.2)

theorem le_run (sched : List (Nat × Bool)) (s : Stats M) : s.bestMerit ≤ (run sched s).bestMerit := by
  induction sched generalizing s with
  | nil => exact le_rfl
  | cons e sched ih => exact (le_step s e.1 e.2).trans (ih _)

theorem offered_of_done {best : M} {ms : List M} {u : Updater M} (h : ThreadInv best ms u)
    (hpc : u.pc = .idle) (hpend : u.pending = []) : u.offered = ms := by
  simpa [Updater.taken, hpc, hpend] using h.taken

theorem run_bestMerit (zero : M) (merits : List (List M)) (sched sched' : List (Nat × Bool))
    {s : Stats M} (hs : run sched (start zero merits) = s) :
    s.bestMerit ≤ (run sched' s).bestMerit ∧
    (s.bestMerit = zero ∨ ∃ i, s.bestMerit ∈ (s.threads i).taken) ∧
    (∀ i, ∀ m ∈ (s.threads i).offered, m ≤ s.bestMerit) ∧
    ((∀ i, (s.threads i).pc = .idle ∧ (s.threads i).pending = []) →
      zero ≤ s.bestMerit ∧ (∀ ms ∈ merits, ∀ m ∈ ms, m ≤ s.bestMerit) ∧
      (s.bestMerit = zero ∨ ∃ ms ∈ merits, s.bestMerit ∈ ms)) := by
  have h : Inv zero merits s := hs ▸ run_inv sched (inv_start zero merits)
  refine ⟨le_run sched' s, h.bestMerit_mem,
    fun i => (h.thread i).offered_le, fun hdone => ⟨h.zero_le, fun ms hms m hm => ?_, ?_⟩⟩
  · obtain ⟨i, hi⟩ := List.mem_iff_getElem?.mp hms
    have hoff := offered_of_done (h.thread i) (hdone i).1 (hdone i).2
    rw [List.getD_eq_getElem?_getD, hi, Option.getD_some] at hoff
    exact (h.thread i).offered_le m (hoff ▸ hm)
  · rcases h.bestMerit_mem with h0 | ⟨i, hi⟩
    · exact .inl h0
    · have hoff := offered_of_done (h.thread i) (hdone i).1 (hdone i).2
      simp only [Updater.taken, (hdone i).1, List.append_nil, hoff,
        List.getD_eq_getElem?_getD] at hi
      cases hget : merits[i]? with
      | none => rw [hget] at hi; exact absurd hi (List.not_mem_nil _)
      | some ms =>
        rw [hget, Option.getD_some] at hi
        exact .inr ⟨ms, List.mem_iff_getElem?.mpr ⟨i, hget⟩, hi⟩

def twoThreadSchedule : List (Nat × Bool) :=
  [(0, false), (1, false), (0, false), (1, false), (0, false), (1, false), (1, false),
    (0, false), (0, false), (0, false), (1, false), (1, false), (1, true), (1, false)]

theorem run_bestMerit_two_threads :
    let s := run twoThreadSchedule (start (0 : Nat) [[3, 1], [2, 5]])
    (∀ i, (s.threads i).pc = .idle ∧ (s.threads i).pending = []) ∧ s.bestMerit = 5 ∧
      s.bestMerit ≤ (run [(0, false), (1, true)] s).bestMerit ∧
      (s.bestMerit = 0 ∨ ∃ i, s.bestMerit ∈ (s.threads i).taken) ∧
      (∀ i, ∀ m ∈ (s.threads i).offered, m ≤ s.bestMerit) ∧
      ((∀ i, (s.threads i).pc = .idle ∧ (s.threads i).pending = []) →
        0 ≤ s.bestMerit ∧ (∀ ms ∈ [[3, 1], [2, 5]], ∀ m ∈ ms, m ≤ s.bestMerit) ∧
        (s.bestMerit = 0 ∨ ∃ ms ∈ [[3, 1], [2, 5]], s.bestMerit ∈ ms)) :=
  ⟨fun i => by rcases i with _ | _ | i <;> exact ⟨rfl, rfl⟩, rfl,
    run_bestMerit 0 [[3, 1], [2, 5]] twoThreadSchedule [(0, false), (1, true)] rfl⟩

end Wattx.GapcoinStats
