import Mathlib.FieldTheory.Finite.Basic
import Mathlib.NumberTheory.FermatPsp
import Mathlib.Tactic.NormNum.Prime

/-!
The GMP primality checks of `consensus/gapcoin_pow.cpp`: the Fermat test `IsProbablePrime`
over a fixed witness list and the interior scan `VerifyGapComposites`. Candidates are
non-negative, so `mpz_t` is `Nat` and `mpz_powm` is `a ^ e % n`.
-/

namespace Wattx.PrimalityTest

def witnesses : List Nat := [2, 3, 5, 7, 11, 13, 17, 19, 23, 29, 31, 37]

def fermatLoop (n : Nat) : List Nat → Bool
  | [] => true
  | a :: as => if n ≤ a then fermatLoop n as else a ^ (n - 1) % n == 1 && fermatLoop n as

def isProbablePrime (n : Nat) (rounds : Int) : Bool :=
  if n < 2 then false
  else if n = 2 then true
  else if n % 2 = 0 then false
  else if n = 3 then true
  else fermatLoop n (witnesses.take (min rounds 12).toNat)

def smallPrimes : List Nat := [3, 5, 7, 11, 13, 17, 19, 23, 29, 31]

def compositeCheck (candidate : Nat) : Bool :=
  candidate % 2 == 0 || smallPrimes.any (fun p => candidate % p == 0) ||
    !isProbablePrime candidate 1

def verifyGapComposites (start gapSize : Nat) : Bool :=
  if gapSize < 2 then false
  else (List.range' 1 (gapSize - 1)).all fun offset => compositeCheck (start + offset)

def FermatProbablePrime (bases : List Nat) (n : Nat) : Prop :=
  n = 2 ∨ n = 3 ∨ (n % 2 = 1 ∧ ∀ a ∈ bases, a < n → a ^ (n - 1) % n = 1)

theorem fermatLoop_spec (n : Nat) (ws : List Nat) :
    fermatLoop n ws = true ↔ ∀ a ∈ ws, a < n → a ^ (n - 1) % n = 1 := by
  induction ws with
  | nil => simp [fermatLoop]
  | cons a as ih =>
    by_cases ha : n ≤ a
    · simp [fermatLoop, ha, ih, Nat.not_lt.mpr ha]
    · simp [fermatLoop, ha, ih, Nat.lt_of_not_le ha]

theorem isProbablePrime_spec (n : Nat) (rounds : Int) :
    isProbablePrime n rounds = true ↔
      2 ≤ n ∧ FermatProbablePrime (witnesses.take (min rounds 12).toNat) n := by
  unfold isProbablePrime FermatProbablePrime
  by_cases h2 : n < 2
  · simp only [h2, if_true, Bool.false_eq_true, false_iff, not_and]
    omega
  by_cases he : n = 2
  · simp [he]
  by_cases hev : n % 2 = 0
  · simp only [h2, he, hev, if_true, if_false, Bool.false_eq_true, false_iff, not_and, false_or]
    rintro - (h | ⟨h, -⟩) <;> omega
  by_cases h3 : n = 3
  · simp [h3]
  simp only [h2, he, hev, h3, if_false, fermatLoop_spec, false_or]
  exact ⟨fun h => ⟨by omega, by omega, h⟩, fun h => h.2.2⟩

theorem pow_sub_one_mod_of_prime {q a : Nat} (hq : q.Prime) (ha : 0 < a) (haq : a < q) :
    a ^ (q - 1) % q = 1 := by
  have hcop : a.Coprime q :=
    (Nat.Prime.coprime_iff_not_dvd hq).mpr (Nat.not_dvd_of_pos_of_lt ha haq) |>.symm
  have h := Nat.ModEq.pow_totient hcop
  rw [Nat.totient_prime hq] at h
  rw [h, Nat.mod_eq_of_lt hq.one_lt]

theorem fermatLoop_of_prime {q : Nat} (hq : q.Prime) (ws : List Nat) (hws : ∀ a ∈ ws, 0 < a) :
    fermatLoop q ws = true :=
  (fermatLoop_spec q ws).mpr fun a ha haq => pow_sub_one_mod_of_prime hq (hws a ha) haq

theorem witnesses_pos : ∀ a ∈ witnesses, 0 < a := by decide

theorem isProbablePrime_of_prime {q : Nat} (hq : q.Prime) (rounds : Int) :
    isProbablePrime q rounds = true := by
  refine (isProbablePrime_spec q rounds).mpr ⟨hq.two_le, ?_⟩
  rcases hq.eq_two_or_odd with h | h
  · exact .inl h
  · refine .inr (.inr ⟨h, (fermatLoop_spec q _).mp (fermatLoop_of_prime hq _ ?_)⟩)
    exact fun a ha => witnesses_pos a (List.mem_of_mem_take ha)

theorem isProbablePrime_accepts_primes {q : Nat} (hq : q.Prime) (rounds : Int) :
    isProbablePrime q rounds = true ∧
      fermatLoop q (witnesses.take (min rounds 12).toNat) = true ∧
      ∀ a ∈ witnesses, a < q → a ^ (q - 1) % q = 1 :=
  ⟨isProbablePrime_of_prime hq rounds,
    fermatLoop_of_prime hq _ fun a ha => witnesses_pos a (List.mem_of_mem_take ha),
    fun a ha haq => pow_sub_one_mod_of_prime hq (witnesses_pos a ha) haq⟩

theorem isProbablePrime_accepts_primes_37 :
    Nat.Prime 37 ∧ isProbablePrime 37 12 = true ∧
      fermatLoop 37 (witnesses.take (min (12 : Int) 12).toNat) = true ∧
      ∀ a ∈ witnesses, a < 37 → a ^ (37 - 1) % 37 = 1 :=
  ⟨by norm_num, isProbablePrime_accepts_primes (by norm_num) 12⟩

theorem smallPrimes_prime : ∀ p ∈ smallPrimes, p.Prime ∧ p ≤ 31 := by
  intro p hp
  simp only [smallPrimes, List.mem_cons, List.mem_singleton, List.not_mem_nil, or_false] at hp
  rcases hp with rfl | rfl | rfl | rfl | rfl | rfl | rfl | rfl | rfl | rfl <;> norm_num

theorem compositeCheck_prime {q : Nat} (hq : q.Prime) (h31 : 31 < q) :
    compositeCheck q = false := by
  have hodd : q % 2 = 1 := (hq.eq_two_or_odd).resolve_left (by omega)
  have hsmall : ∀ p ∈ smallPrimes, q % p ≠ 0 := by
    intro p hp hdvd
    obtain ⟨hpp, hp31⟩ := smallPrimes_prime p hp
    have := (Nat.prime_dvd_prime_iff_eq hpp hq).mp (Nat.dvd_of_mod_eq_zero hdvd)
    omega
  simp [compositeCheck, hodd, isProbablePrime_of_prime hq, List.any_eq_true]
  exact hsmall

theorem compositeCheck_of_not_psp {n : Nat} (hn : 1 < n) (hc : ¬ n.Prime)
    (hpsp : ¬ n.FermatPsp 2) : compositeCheck n = true := by
  by_cases hodd : n % 2 = 0
  · simp [compositeCheck, hodd]
  have h4 : 4 ≤ n := by
    rcases (show n = 2 ∨ n = 3 ∨ 4 ≤ n by omega) with rfl | rfl | h
    · simp at hodd
    · exact absurd Nat.prime_three hc
    · exact h
  have hfermat : 2 ^ (n - 1) % n ≠ 1 := by
    intro h
    refine hpsp ⟨?_, hc, hn⟩
    have hmod : 2 ^ (n - 1) ≡ 1 [MOD n] := by
      rw [Nat.ModEq, h, Nat.mod_eq_of_lt hn]
    exact (Nat.modEq_iff_dvd' (Nat.one_le_two_pow)).mp hmod.symm
  have hpp : isProbablePrime n 1 = false := by
    simp [isProbablePrime, witnesses, fermatLoop, hodd, hfermat]
    omega
  simp [compositeCheck, hpp]

theorem verifyGapComposites_spec (start gapSize : Nat) :
    verifyGapComposites start gapSize = true ↔
      2 ≤ gapSize ∧ ∀ n, start < n → n < start + gapSize → compositeCheck n = true := by
  unfold verifyGapComposites
  by_cases hg : gapSize < 2
  · simp [hg]
  simp only [hg, if_false, List.all_eq_true, List.mem_range'_1]
  constructor
  · intro h
    refine ⟨by omega, fun n h1 h2 => ?_⟩
    simpa [Nat.add_sub_cancel' h1.le] using h (n - start) ⟨by omega, by omega⟩
  · rintro ⟨-, h⟩ offset ⟨h1, h2⟩
    exact h _ (by omega) (by omega)

theorem verifyGapComposites_no_large_prime {start gapSize : Nat}
    (h : verifyGapComposites start gapSize = true) {q : Nat} (h1 : start < q)
    (h2 : q < start + gapSize) (hq : q.Prime) : q ≤ 31 := by
  by_contra h31
  have := ((verifyGapComposites_spec start gapSize).mp h).2 q h1 h2
  rw [compositeCheck_prime hq (by omega)] at this
  exact Bool.false_ne_true this

end Wattx.PrimalityTest
