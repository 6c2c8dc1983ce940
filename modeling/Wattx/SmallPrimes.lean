import Mathlib.Data.Nat.Prime.Basic

/-!
`node::GenerateSmallPrimes` in its two versions: `generateSmallPrimes` of
`node/gapcoin_miner.cpp`, all `uint32_t`, and the OpenCL build's `generateSmallPrimesOpenCl` with a
`uint64_t` crossing-off counter. The `std::vector<bool>` is a `BoolVector` whose size is computed
in 32 bits; an index past its end is `Fault.outOfRange`. Every loop has `fuel`.
-/

namespace Wattx.SmallPrimes

inductive Fault
  | outOfRange (index : Nat)
  | outOfFuel
  deriving DecidableEq, Repr

structure BoolVector where
  size : Nat
  get : Nat → Bool

namespace BoolVector

def read (v : BoolVector) (i : Nat) : Except Fault Bool :=
  if i < v.size then .ok (v.get i) else .error (.outOfRange i)

def clear (v : BoolVector) (i : Nat) : Except Fault BoolVector :=
  if i < v.size then .ok ⟨v.size, fun k => v.get k && k != i⟩ else .error (.outOfRange i)

theorem read_of_lt (v : BoolVector) {i : Nat} (h : i < v.size) : v.read i = .ok (v.get i) :=
  if_pos h

theorem clear_of_lt (v : BoolVector) {i : Nat} (h : i < v.size) :
    v.clear i = .ok ⟨v.size, fun k => v.get k && k != i⟩ :=
  if_pos h

end BoolVector

theorem ok_bind {α β : Type} (a : α) (f : α → Except Fault β) : (Except.ok a >>= f) = f a := rfl

def crossOff (width limit i : Nat) : Nat → Nat → BoolVector → Except Fault BoolVector
  | 0, _, _ => .error .outOfFuel
  | fuel + 1, j, v =>
    if j ≤ limit then do
      let v ← v.clear j
      crossOff width limit i fuel ((j + i) % 2 ^ width) v
    else .ok v

def sieve (limit fuel : Nat) : Nat → Nat → BoolVector → Except Fault BoolVector
  | 0, _, _ => .error .outOfFuel
  | n + 1, i, v =>
    if i * i % 2 ^ 32 ≤ limit then do
      let prime ← v.read i
      let v ← (if prime then crossOff 32 limit i fuel (i * i % 2 ^ 32) v else pure v)
      sieve limit fuel n ((i + 1) % 2 ^ 32) v
    else .ok v

def collect (limit : Nat) : Nat → Nat → BoolVector → List Nat → Except Fault (List Nat)
  | 0, _, _, _ => .error .outOfFuel
  | fuel + 1, i, v, primes =>
    if i ≤ limit then do
      let prime ← v.read i
      collect limit fuel ((i + 1) % 2 ^ 32) v (if prime then primes ++ [i] else primes)
    else .ok primes

def initialSieve (limit : Nat) : Except Fault BoolVector := do
  let v : BoolVector := ⟨(limit + 1) % 2 ^ 32, fun _ => true⟩
  let v ← v.clear 1
  v.clear 0

def generateSmallPrimes (fuel : Nat) (limit : UInt32) : Except Fault (List Nat) :=
  if limit.toNat < 2 then .ok []
  else do
    let isPrime ← initialSieve limit.toNat
    let isPrime ← sieve limit.toNat fuel fuel 2 isPrime
    collect limit.toNat fuel 2 isPrime []

def sieveCollect (limit fuel : Nat) : Nat → Nat → BoolVector → List Nat → Except Fault (List Nat)
  | 0, _, _, _ => .error .outOfFuel
  | n + 1, i, v, primes =>
    if i ≤ limit then do
      let prime ← v.read i
      let v ← (if prime then crossOff 64 limit i fuel (i * i % 2 ^ 64) v else pure v)
      sieveCollect limit fuel n ((i + 1) % 2 ^ 32) v (if prime then primes ++ [i] else primes)
    else .ok primes

def generateSmallPrimesOpenCl (fuel : Nat) (limit : UInt32) : Except Fault (List Nat) := do
  let sieve ← initialSieve limit.toNat
  sieveCollect limit.toNat fuel fuel 2 sieve []

def primesUpTo (limit : Nat) : List Nat := (List.range (limit + 1)).filter Nat.Prime

theorem primesUpTo_eq_range' (limit : Nat) :
    primesUpTo limit = (List.range' 2 (limit - 1)).filter Nat.Prime := by
  rcases limit with _ | _ | limit
  · rfl
  · rfl
  · rw [primesUpTo, List.range_eq_range', show limit + 1 + 1 + 1 = limit + 1 + 2 by omega,
      ← List.range'_append_1 0 2 (limit + 1), List.filter_append]
    simp [List.range'_succ, Nat.not_prime_zero, Nat.not_prime_one]

def SieveInv (limit d : Nat) (v : BoolVector) : Prop :=
  v.size = limit + 1 ∧
    ∀ j, j ≤ limit → (v.get j = true ↔ 2 ≤ j ∧ ∀ p, p.Prime → p < d → p ∣ j → j < p * p)

theorem sieveInv_self {limit d : Nat} {v : BoolVector} (h : SieveInv limit d v) (hd : d ≤ limit) :
    v.get d = true ↔ d.Prime := by
  rw [h.2 d hd]
  constructor
  · rintro ⟨h2, hcond⟩
    by_contra hnp
    have hp := Nat.minFac_prime (n := d) (by omega)
    have hsq : d.minFac * d.minFac ≤ d := by
      simpa [pow_two] using Nat.minFac_sq_le_self (by omega) hnp
    have hne : d.minFac ≠ d := fun he => hnp (he ▸ hp)
    have := hcond _ hp (lt_of_le_of_ne (Nat.minFac_le (by omega)) hne) (Nat.minFac_dvd d)
    omega
  · intro hp
    refine ⟨hp.two_le, fun p hpp hlt hdvd => ?_⟩
    exact absurd ((Nat.prime_dvd_prime_iff_eq hpp hp).mp hdvd) (by omega)

theorem sieveInv_final {limit d : Nat} {v : BoolVector} (h : SieveInv limit d v)
    (hd : limit < d * d) : ∀ j, j ≤ limit → (v.get j = true ↔ j.Prime) := by
  intro j hj
  rw [h.2 j hj]
  constructor
  · rintro ⟨h2, hcond⟩
    by_contra hnp
    have hp := Nat.minFac_prime (n := j) (by omega)
    have hsq : j.minFac * j.minFac ≤ j := by
      simpa [pow_two] using Nat.minFac_sq_le_self (by omega) hnp
    have hlt : j.minFac < d := by
      by_contra hge
      have := Nat.mul_le_mul (not_lt.mp hge) (not_lt.mp hge)
      omega
    have := hcond _ hp hlt (Nat.minFac_dvd j)
    omega
  · intro hp
    refine ⟨hp.two_le, fun p hpp _ hdvd => ?_⟩
    obtain rfl := (Nat.prime_dvd_prime_iff_eq hpp hp).mp hdvd
    calc p < p * 2 := by have := hpp.two_le; omega
      _ ≤ p * p := Nat.mul_le_mul_left p hpp.two_le

theorem sieveInv_initial {limit : Nat} (hl : 1 ≤ limit) (hs : limit < 2 ^ 32 - 1) :
    ∃ v, initialSieve limit = .ok v ∧ SieveInv limit 2 v := by
  have hsize : (limit + 1) % 2 ^ 32 = limit + 1 := Nat.mod_eq_of_lt (by omega)
  simp only [initialSieve, hsize, BoolVector.clear, show 1 < limit + 1 by omega,
    show 0 < limit + 1 by omega, if_true, bind, Except.bind, Except.ok.injEq, exists_eq_left']
  refine ⟨rfl, fun j _ => ?_⟩
  simp only [Bool.true_and, Bool.and_eq_true, bne_iff_ne, ne_eq]
  constructor
  · rintro ⟨h1, h0⟩
    exact ⟨by omega, fun p hp hlt _ => absurd hp.two_le (by omega)⟩
  · rintro ⟨h2, -⟩
    exact ⟨by omega, by omega⟩

theorem crossOff_cleared {limit i j k : Nat} (hj : j ≤ limit) :
    (k != j && !decide (j + i ≤ k ∧ k ≤ limit ∧ i ∣ k - (j + i))) =
      !decide (j ≤ k ∧ k ≤ limit ∧ i ∣ k - j) := by
  rw [Bool.eq_iff_iff]
  simp only [Bool.and_eq_true, bne_iff_ne, Bool.not_eq_true', decide_eq_false_iff_not]
  constructor
  · rintro ⟨hne, hn⟩ ⟨h1, h2, t, ht⟩
    rcases t with _ | t
    · omega
    · rw [Nat.mul_succ] at ht
      exact hn ⟨by omega, h2, t, by omega⟩
  · intro h
    refine ⟨fun he => h ⟨by omega, by omega, 0, by omega⟩, fun ⟨h1, h2, t, ht⟩ => ?_⟩
    exact h ⟨by omega, h2, t + 1, by rw [Nat.mul_succ]; omega⟩

theorem crossOff_spec {width limit i : Nat} (hw : limit + i < 2 ^ width) :
    ∀ fuel j (v : BoolVector), limit < v.size → limit < j + fuel * i →
      crossOff width limit i (fuel + 1) j v =
        .ok ⟨v.size, fun k => v.get k && !decide (j ≤ k ∧ k ≤ limit ∧ i ∣ k - j)⟩ := by
  intro fuel
  induction fuel with
  | zero =>
    rintro j ⟨size, get⟩ _ hf
    rw [crossOff, if_neg (by omega)]
    congr
    funext k
    have : ¬ (j ≤ k ∧ k ≤ limit ∧ i ∣ k - j) := fun h => by omega
    simp [this]
  | succ fuel ih =>
    rintro j ⟨size, get⟩ hv hf
    dsimp only at hv
    rw [crossOff]
    by_cases hj : j ≤ limit
    · simp only [if_pos hj, BoolVector.clear_of_lt ⟨size, get⟩ (show j < size by omega), bind,
        Except.bind, Nat.mod_eq_of_lt (show j + i < 2 ^ width by omega)]
      refine (ih (j + i) _ hv (by rw [Nat.succ_mul] at hf; omega)).trans ?_
      congr
      funext k
      rw [Bool.and_assoc, crossOff_cleared hj]
    · rw [if_neg hj]
      congr
      funext k
      have : ¬ (j ≤ k ∧ k ≤ limit ∧ i ∣ k - j) := fun h => by omega
      simp [this]

theorem sieveInv_step {limit i : Nat} {v : BoolVector} (hinv : SieveInv limit i v) (h2 : 2 ≤ i)
    (hi : i ≤ limit) :
    SieveInv limit (i + 1)
      ⟨v.size, fun k => v.get k && !(v.get i && decide (i * i ≤ k ∧ k ≤ limit ∧ i ∣ k - i * i))⟩ := by
  refine ⟨hinv.1, fun j hj => ?_⟩
  cases hbit : v.get i with
  | false =>
    have hnp : ¬ i.Prime := fun hp => by simp [(sieveInv_self hinv hi).mpr hp] at hbit
    simp only [Bool.false_and, Bool.not_false, Bool.and_true, hinv.2 j hj]
    refine and_congr_right fun _ => ⟨fun hc p hp hlt => ?_, fun hc p hp hlt => hc p hp (by omega)⟩
    rcases Nat.lt_or_ge p i with h | h
    · exact hc p hp h
    · exact absurd (show p = i by omega ▸ hp) hnp
  | true =>
    have hp : i.Prime := (sieveInv_self hinv hi).mp hbit
    simp only [Bool.true_and, Bool.and_eq_true, Bool.not_eq_true', decide_eq_false_iff_not,
      hinv.2 j hj]
    constructor
    · rintro ⟨⟨hj2, hc⟩, hnot⟩
      refine ⟨hj2, fun p hpp hlt hdvd => ?_⟩
      rcases Nat.lt_or_ge p i with h | h
      · exact hc p hpp h hdvd
      · obtain rfl : p = i := by omega
        by_contra hge
        obtain ⟨t, rfl⟩ := hdvd
        have ht : p ≤ t := by
          by_contra htlt
          exact hge (Nat.mul_lt_mul_of_pos_left (by omega) (by omega))
        exact hnot ⟨Nat.mul_le_mul_left p ht, hj, ⟨t - p, by rw [Nat.mul_sub]⟩⟩
    · rintro ⟨hj2, hc⟩
      refine ⟨⟨hj2, fun p hpp hlt => hc p hpp (by omega)⟩, ?_⟩
      rintro ⟨hge, -, t, ht⟩
      have hdvd : i ∣ j := ⟨t + i, by rw [Nat.mul_add, ← ht]; omega⟩
      have := hc i hp (by omega) hdvd
      omega

def round (limit i : Nat) (v : BoolVector) : BoolVector :=
  ⟨v.size, fun k => v.get k && !(v.get i && decide (i * i ≤ k ∧ k ≤ limit ∧ i ∣ k - i * i))⟩

theorem sieveInv_round {limit i : Nat} {v : BoolVector} (hinv : SieveInv limit i v) (h2 : 2 ≤ i)
    (hi : i ≤ limit) : SieveInv limit (i + 1) (round limit i v) :=
  sieveInv_step hinv h2 hi

theorem crossOff_round {width limit i fuel : Nat} {v : BoolVector} (hw : limit + i < 2 ^ width)
    (hv : limit < v.size) (hf : limit + 1 ≤ fuel) (hi : 1 ≤ i) :
    (if v.get i then crossOff width limit i fuel (i * i) v else pure v) = .ok (round limit i v) := by
  obtain ⟨f, rfl⟩ : ∃ f, fuel = f + 1 := ⟨fuel - 1, by omega⟩
  cases hbit : v.get i
  · simp [round, hbit, pure, Except.pure]
  · have h1 : f ≤ f * i := Nat.le_mul_of_pos_right f hi
    have h2 : 1 ≤ i * i := Nat.one_le_iff_ne_zero.mpr (Nat.mul_ne_zero (by omega) (by omega))
    rw [if_pos rfl, crossOff_spec hw f (i * i) v hv (by omega)]
    simp [round, hbit]

theorem sieve_spec {limit fuel : Nat} (hl : limit < 65535 ^ 2) (hf : limit + 1 ≤ fuel) :
    ∀ n i v, SieveInv limit i v → 2 ≤ i → i ≤ 65535 → i ≤ limit + 1 → limit + 2 ≤ i + n →
      ∃ d v', sieve limit fuel n i v = .ok v' ∧ limit < d * d ∧ SieveInv limit d v' := by
  intro n
  induction n with
  | zero => intro i v _ _ _ _ h; omega
  | succ n ih =>
    intro i v hinv h2 h65535 hi hn
    have hsq : i * i ≤ 65535 * 65535 := Nat.mul_le_mul h65535 h65535
    rw [sieve, Nat.mod_eq_of_lt (show i * i < 2 ^ 32 by omega)]
    by_cases hii : i * i ≤ limit
    · have hil : i ≤ limit := le_trans (Nat.le_mul_self i) hii
      have hlt : i < 65535 := Nat.mul_self_lt_mul_self_iff.mp (by omega)
      rw [if_pos hii, BoolVector.read_of_lt v (show i < v.size by rw [hinv.1]; omega)]
      simp only [ok_bind]
      rw [crossOff_round (by omega) (by rw [hinv.1]; omega) hf (by omega), ok_bind,
        Nat.mod_eq_of_lt (show i + 1 < 2 ^ 32 by omega)]
      exact ih (i + 1) _ (sieveInv_round hinv h2 hil) (by omega) (by omega) (by omega) (by omega)
    · exact ⟨i, v, if_neg hii, by omega, hinv⟩

theorem collect_spec {limit : Nat} {v : BoolVector} (hl : limit < 2 ^ 32 - 1)
    (hs : v.size = limit + 1) (hv : ∀ j, j ≤ limit → (v.get j = true ↔ j.Prime)) :
    ∀ fuel i primes, i ≤ limit + 1 → limit + 1 < i + fuel →
      collect limit fuel i v primes =
        .ok (primes ++ (List.range' i (limit + 1 - i)).filter Nat.Prime) := by
  intro fuel
  induction fuel with
  | zero => intro i _ _ h; omega
  | succ fuel ih =>
    intro i primes hi hf
    rw [collect]
    by_cases hil : i ≤ limit
    · simp only [if_pos hil, BoolVector.read_of_lt v (show i < v.size by omega), bind,
        Except.bind, Nat.mod_eq_of_lt (show i + 1 < 2 ^ 32 by omega)]
      rw [ih (i + 1) _ (by omega) (by omega), show limit + 1 - i = limit + 1 - (i + 1) + 1 by omega,
        List.range'_succ, List.filter_cons]
      by_cases hp : i.Prime <;> simp [(hv i hil).mpr, hp, (hv i hil).not.mpr]
    · rw [if_neg hil, show limit + 1 - i = 0 by omega]
      simp

theorem generateSmallPrimes_eq_primesUpTo (limit : UInt32) (hl : limit.toNat < 65535 ^ 2)
    {fuel : Nat} (hf : limit.toNat + 1 ≤ fuel) :
    generateSmallPrimes fuel limit = .ok (primesUpTo limit.toNat) := by
  rw [generateSmallPrimes, primesUpTo_eq_range']
  by_cases h2 : limit.toNat < 2
  · rw [if_pos h2, show limit.toNat - 1 = 0 by omega]
    rfl
  · obtain ⟨v, hv, hinv⟩ := @sieveInv_initial limit.toNat (by omega) (by omega)
    obtain ⟨d, v', hs, hd, hinv'⟩ :=
      sieve_spec hl hf fuel 2 v hinv le_rfl (by omega) (by omega) (by omega)
    rw [if_neg h2, hv]
    simp only [bind, Except.bind, hs]
    rw [collect_spec (by omega) hinv'.1 (sieveInv_final hinv' hd) fuel 2 [] (by omega) (by omega),
      List.nil_append, show limit.toNat + 1 - 2 = limit.toNat - 1 by omega]

theorem crossOff_evens_no_end (fuel : Nat) : ∀ j (v : BoolVector), v.size = 4294967295 →
    j % 2 = 0 → j ≤ 4294967294 → crossOff 32 4294967294 2 fuel j v = .error .outOfFuel := by
  induction fuel with
  | zero => intro _ _ _ _ _; rfl
  | succ fuel ih =>
    intro j v hs he hj
    rw [crossOff, if_pos hj, BoolVector.clear_of_lt v (by omega)]
    exact ih _ _ hs (by omega) (by omega)

theorem generateSmallPrimes_no_end (fuel : Nat) :
    generateSmallPrimes fuel 4294967294 = .error .outOfFuel := by
  rcases fuel with _ | fuel
  · rfl
  · have hinit : initialSieve 4294967294 =
        .ok ⟨4294967295, fun k => true && k != 1 && k != 0⟩ := rfl
    have hcross := crossOff_evens_no_end (fuel + 1) 4
      ⟨4294967295, fun k => true && k != 1 && k != 0⟩ rfl rfl (by omega)
    rw [generateSmallPrimes, show (4294967294 : UInt32).toNat = 4294967294 from rfl,
      if_neg (by decide), hinit, ok_bind, sieve, if_pos (by decide),
      BoolVector.read_of_lt _ (by decide)]
    simp only [ok_bind]
    rw [if_pos (by decide), show 2 * 2 % 2 ^ 32 = 4 from rfl, hcross]
    rfl

theorem sieveCollect_spec {limit fuel : Nat} (hl : limit < 2 ^ 32 - 1) (hf : limit + 1 ≤ fuel) :
    ∀ n i v primes, SieveInv limit i v → 2 ≤ i → i ≤ limit + 1 → limit + 2 ≤ i + n →
      sieveCollect limit fuel n i v primes =
        .ok (primes ++ (List.range' i (limit + 1 - i)).filter Nat.Prime) := by
  intro n
  induction n with
  | zero => intro i _ _ _ _ _ h; omega
  | succ n ih =>
    intro i v primes hinv h2 hi hn
    rw [sieveCollect]
    by_cases hil : i ≤ limit
    · have hprime := sieveInv_self hinv hil
      have hsq : i * i < 2 ^ 64 :=
        lt_of_lt_of_le (Nat.mul_lt_mul'' (show i < 2 ^ 32 by omega) (show i < 2 ^ 32 by omega))
          (by decide)
      rw [if_pos hil, BoolVector.read_of_lt v (show i < v.size by rw [hinv.1]; omega)]
      simp only [ok_bind]
      rw [Nat.mod_eq_of_lt hsq, crossOff_round (by omega) (by rw [hinv.1]; omega) hf (by omega),
        ok_bind, Nat.mod_eq_of_lt (show i + 1 < 2 ^ 32 by omega), ih (i + 1) _ _ (sieveInv_round hinv h2 hil) (by omega) (by omega) (by omega),
        show limit + 1 - i = limit + 1 - (i + 1) + 1 by omega, List.range'_succ, List.filter_cons]
      by_cases hp : i.Prime <;> simp [hprime, hp]
    · rw [if_neg hil, show limit + 1 - i = 0 by omega]
      simp

theorem generateSmallPrimesOpenCl_eq_primesUpTo (limit : UInt32) (h1 : 1 ≤ limit.toNat)
    (hl : limit.toNat ≤ 2 ^ 32 - 2) {fuel : Nat} (hf : limit.toNat + 1 ≤ fuel) :
    generateSmallPrimesOpenCl fuel limit = .ok (primesUpTo limit.toNat) := by
  obtain ⟨v, hv, hinv⟩ := @sieveInv_initial limit.toNat h1 (by omega)
  rw [generateSmallPrimesOpenCl, hv, primesUpTo_eq_range']
  simp only [bind, Except.bind]
  rw [sieveCollect_spec (by omega) hf fuel 2 v [] hinv le_rfl (by omega) (by omega),
    List.nil_append, show limit.toNat + 1 - 2 = limit.toNat - 1 by omega]

theorem initialSieve_out_of_range (limit : UInt32) (h : limit.toNat = 0 ∨ limit.toNat = 2 ^ 32 - 1) :
    initialSieve limit.toNat = .error (.outOfRange 1) := by
  rcases h with h | h <;> rw [h] <;> rfl

theorem generateSmallPrimes_limits :
    (∀ limit : UInt32, limit.toNat < 65535 ^ 2 → ∀ fuel, limit.toNat + 1 ≤ fuel →
        generateSmallPrimes fuel limit = .ok (primesUpTo limit.toNat)) ∧
      (∀ fuel, generateSmallPrimes fuel 4294967294 = .error .outOfFuel) ∧
      (∀ fuel, generateSmallPrimes fuel 4294967295 = .error (.outOfRange 1)) ∧
      (∀ limit : UInt32, 1 ≤ limit.toNat → limit.toNat ≤ 2 ^ 32 - 2 → ∀ fuel,
        limit.toNat + 1 ≤ fuel → generateSmallPrimesOpenCl fuel limit = .ok (primesUpTo limit.toNat)) ∧
      ∀ limit : UInt32, limit.toNat = 0 ∨ limit.toNat = 2 ^ 32 - 1 →
        ∀ fuel, generateSmallPrimesOpenCl fuel limit = .error (.outOfRange 1) :=
  ⟨fun limit hl _ hf => generateSmallPrimes_eq_primesUpTo limit hl hf,
    generateSmallPrimes_no_end,
    fun _ => by
      rw [generateSmallPrimes, if_neg (by decide), initialSieve_out_of_range 4294967295 (.inr rfl)]
      rfl,
    fun limit h1 hl _ hf => generateSmallPrimesOpenCl_eq_primesUpTo limit h1 hl hf,
    fun limit h _ => by rw [generateSmallPrimesOpenCl, initialSieve_out_of_range limit h]; rfl⟩

theorem generateSmallPrimes_limits_thirty :
    generateSmallPrimes 31 30 = .ok (primesUpTo 30) ∧
      generateSmallPrimes 31 30 = .ok [2, 3, 5, 7, 11, 13, 17, 19, 23, 29] ∧
      generateSmallPrimesOpenCl 31 30 = .ok (primesUpTo 30) ∧
      generateSmallPrimes 31 4294967294 = .error .outOfFuel ∧
      generateSmallPrimesOpenCl 31 0 = .error (.outOfRange 1) :=
  ⟨generateSmallPrimes_limits.1 30 (by decide) 31 (by decide), rfl,
    generateSmallPrimes_limits.2.2.2.1 30 (by decide) (by decide) 31 (by decide),
    generateSmallPrimes_limits.2.1 31, generateSmallPrimes_limits.2.2.2.2 0 (.inl rfl) 31⟩

end Wattx.SmallPrimes
