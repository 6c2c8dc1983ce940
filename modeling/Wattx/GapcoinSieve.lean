import Wattx.SmallPrimes
import Wattx.PrimalityTest

/-!
The segment sieve of `GapcoinMiner` and the gap search over it, in the two versions of
`node/gapcoin_miner.cpp`: `sieveSegment` (starts all ones, clears) and the OpenCL build's
`sieveSegmentOpenCl` and `findGaps` (starts all zeros, sets). A buffer is a function from bit
positions to `Bool`; `size_t` arithmetic does not wrap.
-/

namespace Wattx.GapcoinSieve

open SmallPrimes PrimalityTest

def clearMultiples (segmentStart bits prime : Nat) : Nat → Nat → (Nat → Bool) → Nat → Bool
  | 0, _, sieve => sieve
  | fuel + 1, mult, sieve =>
    if mult < segmentStart + bits then
      let bit := mult - segmentStart
      clearMultiples segmentStart bits prime fuel (mult + prime)
        (if bit < bits then fun k => sieve k && k != bit else sieve)
    else sieve

def firstMultiple (segmentStart prime : Nat) : Nat :=
  if segmentStart / prime * prime < segmentStart then segmentStart / prime * prime + prime
  else segmentStart / prime * prime

def sieveSegment (smallPrimes : List Nat) (segmentStart segmentSize : Nat) (sieve : Nat → Bool) :
    Nat → Bool :=
  smallPrimes.foldl (fun sieve prime =>
    if prime ≤ 2 then sieve
    else clearMultiples segmentStart (segmentSize * 8) prime (segmentSize * 8 + 1)
      (firstMultiple segmentStart prime) sieve) sieve

def setMultiples (bits p : Nat) : Nat → Nat → (Nat → Bool) → Nat → Bool
  | 0, _, sieve => sieve
  | fuel + 1, j, sieve =>
    if j < bits then setMultiples bits p fuel (j + p) (fun k => sieve k || k == j) else sieve

def sieveSegmentOpenCl (smallPrimes : List Nat) (segmentStart segmentSize : Nat)
    (sieve : Nat → Bool) : Nat → Bool :=
  (smallPrimes.take 1000).foldl (fun sieve p =>
    if segmentSize * 8 ≤ (segmentStart / p + 1) * p - segmentStart then sieve
    else setMultiples (segmentSize * 8) p (segmentSize * 8 + 1)
      ((segmentStart / p + 1) * p - segmentStart) sieve) sieve

theorem progression_cleared {bound i j k : Nat} (hj : j < bound) :
    (k != j && !decide (j + i ≤ k ∧ k < bound ∧ i ∣ k - (j + i))) =
      !decide (j ≤ k ∧ k < bound ∧ i ∣ k - j) := by
  have h := crossOff_cleared (k := k) (i := i) (show j ≤ bound - 1 by omega)
  have e : ∀ a, (a ≤ k ∧ k < bound ∧ i ∣ k - a) ↔ (a ≤ k ∧ k ≤ bound - 1 ∧ i ∣ k - a) :=
    fun a => ⟨fun ⟨h1, h2, h3⟩ => ⟨h1, by omega, h3⟩, fun ⟨h1, h2, h3⟩ => ⟨h1, by omega, h3⟩⟩
  simpa only [e] using h

theorem clearMultiples_spec {s bits p : Nat} :
    ∀ fuel mult sieve, s ≤ mult → s + bits ≤ mult + fuel * p →
      clearMultiples s bits p fuel mult sieve =
        fun k => sieve k && !decide (mult ≤ s + k ∧ s + k < s + bits ∧ p ∣ s + k - mult) := by
  intro fuel
  induction fuel with
  | zero =>
    intro mult sieve _ hf
    funext k
    have : ¬ (mult ≤ s + k ∧ s + k < s + bits ∧ p ∣ s + k - mult) := fun h => by omega
    simp only [clearMultiples, decide_eq_false this, Bool.not_false, Bool.and_true]
  | succ fuel ih =>
    intro mult sieve hs hf
    rw [clearMultiples]
    by_cases hm : mult < s + bits
    · rw [if_pos hm]
      dsimp only
      rw [if_pos (show mult - s < bits by omega),
        ih _ _ (by omega) (by rw [Nat.succ_mul] at hf; omega)]
      funext k
      have hk : (k != mult - s) = (s + k != mult) := by
        rw [Bool.eq_iff_iff]; simp only [bne_iff_ne, ne_eq]; omega
      rw [Bool.and_assoc, hk, progression_cleared hm]
    · rw [if_neg hm]
      funext k
      have : ¬ (mult ≤ s + k ∧ s + k < s + bits ∧ p ∣ s + k - mult) := fun h => by omega
      simp only [decide_eq_false this, Bool.not_false, Bool.and_true]

theorem setMultiples_spec {bits p : Nat} :
    ∀ fuel j sieve, bits ≤ j + fuel * p →
      setMultiples bits p fuel j sieve =
        fun k => sieve k || decide (j ≤ k ∧ k < bits ∧ p ∣ k - j) := by
  intro fuel
  induction fuel with
  | zero =>
    intro j sieve hf
    funext k
    have : ¬ (j ≤ k ∧ k < bits ∧ p ∣ k - j) := fun h => by omega
    simp only [setMultiples, decide_eq_false this, Bool.or_false]
  | succ fuel ih =>
    intro j sieve hf
    rw [setMultiples]
    by_cases hj : j < bits
    · rw [if_pos hj, ih _ _ (by rw [Nat.succ_mul] at hf; omega)]
      funext k
      have h := congrArg (!·) (progression_cleared (k := k) (i := p) hj)
      simp only [Bool.not_and, Bool.not_not, bne] at h
      rw [Bool.or_assoc, ← h]
    · rw [if_neg hj]
      funext k
      have : ¬ (j ≤ k ∧ k < bits ∧ p ∣ k - j) := fun h => by omega
      simp only [decide_eq_false this, Bool.or_false]

theorem le_firstMultiple (s : Nat) {p : Nat} (hp : 0 < p) : s ≤ firstMultiple s p := by
  have := Nat.div_add_mod' s p
  have := Nat.mod_lt s hp
  unfold firstMultiple
  split <;> omega

theorem succ_div_mul_le {s n p : Nat} (hd : p ∣ n) (h : s < n) : (s / p + 1) * p ≤ n :=
  calc (s / p + 1) * p ≤ n / p * p := Nat.mul_le_mul_right p (Nat.div_lt_div_of_lt_of_dvd hd h)
    _ = n := Nat.div_mul_cancel hd

theorem firstMultiple_dvd_iff {s p k : Nat} :
    (firstMultiple s p ≤ s + k ∧ p ∣ s + k - firstMultiple s p) ↔ p ∣ s + k := by
  have hf : p ∣ firstMultiple s p := by
    unfold firstMultiple
    split
    · exact Nat.dvd_add (Nat.dvd_mul_left p _) (Nat.dvd_refl p)
    · exact Nat.dvd_mul_left p _
  constructor
  · rintro ⟨hle, hd⟩
    rw [show s + k = s + k - firstMultiple s p + firstMultiple s p by omega]
    exact Nat.dvd_add hd hf
  · intro hd
    refine ⟨?_, Nat.dvd_sub' hd hf⟩
    unfold firstMultiple
    split
    · rename_i hlt
      have hk : k ≠ 0 := by
        rintro rfl
        exact hlt.ne (Nat.div_mul_cancel hd)
      rw [← Nat.succ_mul]
      exact succ_div_mul_le hd (by omega)
    · exact (Nat.div_mul_le_self s p).trans (Nat.le_add_right s k)

theorem sieveSegment_spec {primes : List Nat} (hp : ∀ p ∈ primes, 0 < p) (s size : Nat) :
    ∀ (sieve : Nat → Bool) k, k < size * 8 →
      sieveSegment primes s size sieve k = (sieve k && !decide (∃ p ∈ primes, 2 < p ∧ p ∣ s + k)) := by
  induction primes with
  | nil => intro sieve k _; simp [sieveSegment]
  | cons p primes ih =>
    intro sieve k hk
    have hp' : ∀ q ∈ primes, 0 < q := fun q hq => hp q (List.mem_cons_of_mem p hq)
    simp only [sieveSegment, List.foldl_cons] at ih ⊢
    rw [ih hp' _ k hk]
    by_cases h2 : p ≤ 2
    · simp [if_pos h2, show ¬ 2 < p by omega]
    · have hp0 := hp p (List.mem_cons_self p primes)
      rw [if_neg h2, clearMultiples_spec _ _ _ (le_firstMultiple s hp0)
        (by have := Nat.le_mul_of_pos_right (size * 8 + 1) hp0; have := le_firstMultiple s hp0; omega)]
      have hk' : (firstMultiple s p ≤ s + k ∧ s + k < s + size * 8 ∧
          p ∣ s + k - firstMultiple s p) ↔ p ∣ s + k := by
        rw [← firstMultiple_dvd_iff]
        exact ⟨fun ⟨h1, _, h3⟩ => ⟨h1, h3⟩, fun ⟨h1, h3⟩ => ⟨h1, by omega, h3⟩⟩
      simp only [hk', List.mem_cons, exists_eq_or_imp, show 2 < p by omega, true_and]
      rw [Bool.eq_iff_iff]
      simp only [Bool.and_eq_true, Bool.not_eq_true', decide_eq_false_iff_not, not_or]
      exact and_assoc

theorem firstOffset_dvd_iff {s p j : Nat} (hp : 0 < p) :
    ((s / p + 1) * p - s ≤ j ∧ p ∣ j - ((s / p + 1) * p - s)) ↔ (0 < j ∧ p ∣ s + j) := by
  have hlt : s < (s / p + 1) * p := by rw [Nat.succ_mul]; exact Nat.lt_div_mul_add hp
  have hM : p ∣ (s / p + 1) * p := Nat.dvd_mul_left p _
  constructor
  · rintro ⟨hle, hd⟩
    refine ⟨by omega, ?_⟩
    rw [show s + j = j - ((s / p + 1) * p - s) + (s / p + 1) * p by omega]
    exact Nat.dvd_add hd hM
  · rintro ⟨hj, hd⟩
    have hle := succ_div_mul_le hd (show s < s + j by omega)
    refine ⟨by omega, ?_⟩
    rw [show j - ((s / p + 1) * p - s) = s + j - (s / p + 1) * p by omega]
    exact Nat.dvd_sub' hd hM

theorem markOpenCl_spec (s size k : Nat) (hk : k < size * 8) :
    ∀ (ps : List Nat), (∀ p ∈ ps, 0 < p) → ∀ sieve : Nat → Bool,
      ps.foldl (fun sieve p =>
          if size * 8 ≤ (s / p + 1) * p - s then sieve
          else setMultiples (size * 8) p (size * 8 + 1) ((s / p + 1) * p - s) sieve) sieve k =
        (sieve k || decide (0 < k ∧ ∃ p ∈ ps, p ∣ s + k)) := by
  intro ps
  induction ps with
  | nil => intro _ sieve; simp
  | cons p ps ih =>
    intro hp sieve
    have hp0 := hp p (List.mem_cons_self p ps)
    rw [List.foldl_cons, ih (fun q hq => hp q (List.mem_cons_of_mem p hq))]
    have hstep : (if size * 8 ≤ (s / p + 1) * p - s then sieve
        else setMultiples (size * 8) p (size * 8 + 1) ((s / p + 1) * p - s) sieve) k =
        (sieve k || decide (0 < k ∧ p ∣ s + k)) := by
      split
      · have : ¬ (0 < k ∧ p ∣ s + k) := fun h =>
          absurd ((firstOffset_dvd_iff hp0).mpr h).1 (by omega)
        simp only [decide_eq_false this, Bool.or_false]
      · rw [setMultiples_spec _ _ _ (by have := Nat.le_mul_of_pos_right (size * 8 + 1) hp0; omega)]
        have e : ((s / p + 1) * p - s ≤ k ∧ k < size * 8 ∧ p ∣ k - ((s / p + 1) * p - s)) ↔
            (0 < k ∧ p ∣ s + k) := by
          rw [← firstOffset_dvd_iff hp0]
          exact ⟨fun ⟨h1, _, h3⟩ => ⟨h1, h3⟩, fun ⟨h1, h3⟩ => ⟨h1, hk, h3⟩⟩
        simp only [e]
    rw [hstep, Bool.eq_iff_iff]
    simp only [Bool.or_eq_true, decide_eq_true_eq, List.mem_cons, exists_eq_or_imp]
    rw [and_or_left, or_assoc]

theorem sieveSegmentOpenCl_spec {primes : List Nat} (hp : ∀ p ∈ primes, 0 < p) (s size : Nat)
    (sieve : Nat → Bool) {k : Nat} (hk : k < size * 8) :
    sieveSegmentOpenCl primes s size sieve k =
      (sieve k || decide (0 < k ∧ ∃ p ∈ primes.take 1000, p ∣ s + k)) :=
  markOpenCl_spec s size k hk _ (fun p h => hp p (List.mem_of_mem_take h)) sieve

theorem sieveSegment_marks {smallPrimes : List Nat} (hp : ∀ p ∈ smallPrimes, p.Prime)
    (s size i : Nat) (hi : i < size * 8) :
    (sieveSegment smallPrimes s size (fun _ => true) i = false ↔
        ∃ p ∈ smallPrimes, 2 < p ∧ p ∣ s + i) ∧
      (sieveSegmentOpenCl smallPrimes s size (fun _ => false) i = true ↔
        0 < i ∧ ∃ p ∈ smallPrimes.take 1000, p ∣ s + i) := by
  have hp0 : ∀ p ∈ smallPrimes, 0 < p := fun p h => (hp p h).pos
  rw [sieveSegment_spec hp0 s size _ i hi, sieveSegmentOpenCl_spec hp0 s size _ hi]
  simp

theorem sieveSegment_marks_prime_candidate :
    SmallPrimes.generateSmallPrimes 4 3 = .ok [2, 3] ∧
      sieveSegment [2, 3] 0 4 (fun _ => true) 27 = false ∧
      sieveSegmentOpenCl [2, 3] 0 4 (fun _ => false) 27 = true ∧
      sieveSegmentOpenCl [2, 3] 0 4 (fun _ => false) 0 = false ∧
      Nat.Prime (1 * 2 ^ 14 + 0 + 27) ∧ 2 ∣ 1 * 2 ^ 14 + 0 + 0 := by
  have hp : ∀ p ∈ [2, 3], Nat.Prime p := by decide
  refine ⟨rfl, (sieveSegment_marks hp 0 4 27 (by decide)).1.mpr ⟨3, by simp, by decide, by decide⟩,
    (sieveSegment_marks hp 0 4 27 (by decide)).2.mpr ⟨by decide, 3, by simp, by decide⟩, ?_,
    by norm_num, by decide⟩
  rw [← Bool.not_eq_true, (sieveSegment_marks hp 0 4 0 (by decide)).2]
  simp

structure GapScan where
  lastPrimePos : Nat := 0
  foundFirstPrime : Bool := false
  reports : List (Nat × Nat) := []
  deriving DecidableEq, Repr

def findGapsBit (meetsTarget : Nat → Nat → Bool) (sieve : Nat → Bool) (scan : GapScan) (pos : Nat) :
    GapScan :=
  if sieve pos then scan
  else if !scan.foundFirstPrime then { scan with lastPrimePos := pos, foundFirstPrime := true }
  else
    let gapSize := pos - scan.lastPrimePos
    { scan with
      lastPrimePos := pos
      reports :=
        if 0 < gapSize then
          if meetsTarget gapSize pos then scan.reports ++ [(scan.lastPrimePos, gapSize)]
          else scan.reports
        else scan.reports }

def findGaps (meetsTarget : Nat → Nat → Bool) (sieve : Nat → Bool) (segmentSize : Nat) :
    List (Nat × Nat) :=
  ((List.range segmentSize).foldl (fun scan byte =>
      if (List.range 8).all fun bit => sieve (byte * 8 + bit) then scan
      else (List.range 8).foldl (fun scan bit => findGapsBit meetsTarget sieve scan (byte * 8 + bit))
        scan)
    {}).reports

def unmarked (sieve : Nat → Bool) (bits : Nat) : List Nat := (List.range bits).filter fun i => !sieve i

def gapsFrom (meetsTarget : Nat → Nat → Bool) : Nat → List Nat → List (Nat × Nat)
  | _, [] => []
  | a, b :: rest => (if meetsTarget (b - a) b then [(a, b - a)] else []) ++ gapsFrom meetsTarget b rest

def consecutiveGaps (meetsTarget : Nat → Nat → Bool) : List Nat → List (Nat × Nat)
  | [] => []
  | a :: rest => gapsFrom meetsTarget a rest

section FindGaps

variable (meetsTarget : Nat → Nat → Bool) (sieve : Nat → Bool)

theorem foldl_findGapsBit_found : ∀ (xs : List Nat) (a : Nat) (reports : List (Nat × Nat)),
    xs.Pairwise (· < ·) → (∀ x ∈ xs, a < x) →
      (xs.foldl (findGapsBit meetsTarget sieve) ⟨a, true, reports⟩).reports =
        reports ++ gapsFrom meetsTarget a (xs.filter fun i => !sieve i) := by
  intro xs
  induction xs with
  | nil => intro _ _ _ _; simp [gapsFrom]
  | cons x xs ih =>
    intro a reports hs ha
    rw [List.pairwise_cons] at hs
    have hax := ha x (List.mem_cons_self x xs)
    cases hx : sieve x
    · rw [List.foldl_cons, List.filter_cons, hx]
      simp only [findGapsBit, hx, Bool.false_eq_true, if_false, Bool.not_true,
        show 0 < x - a by omega, if_true, Bool.not_false, if_true, gapsFrom]
      rw [ih x _ hs.2 hs.1]
      split <;> simp
    · rw [List.foldl_cons, List.filter_cons, hx]
      simp only [findGapsBit, hx, if_true, Bool.not_true, Bool.false_eq_true, if_false]
      exact ih a reports hs.2 fun y hy => ha y (List.mem_cons_of_mem x hy)

theorem foldl_findGapsBit : ∀ xs : List Nat, xs.Pairwise (· < ·) →
    (xs.foldl (findGapsBit meetsTarget sieve) {}).reports =
      consecutiveGaps meetsTarget (xs.filter fun i => !sieve i) := by
  intro xs
  induction xs with
  | nil => intro _; rfl
  | cons x xs ih =>
    intro hs
    rw [List.pairwise_cons] at hs
    cases hx : sieve x
    · rw [List.foldl_cons, List.filter_cons, hx]
      simp only [findGapsBit, hx, Bool.false_eq_true, if_false, Bool.not_false, if_true,
        consecutiveGaps]
      rw [show ({ lastPrimePos := x, foundFirstPrime := true } : GapScan) = ⟨x, true, []⟩ from rfl,
        foldl_findGapsBit_found meetsTarget sieve xs x [] hs.2 hs.1, List.nil_append]
    · rw [List.foldl_cons, List.filter_cons, hx]
      simp only [findGapsBit, hx, if_true, Bool.not_true, Bool.false_eq_true, if_false]
      exact ih hs.2

theorem foldl_findGapsBit_marked (byte : Nat) (scan : GapScan)
    (h : (List.range 8).all fun bit => sieve (byte * 8 + bit)) :
    (List.range 8).foldl (fun scan bit => findGapsBit meetsTarget sieve scan (byte * 8 + bit)) scan =
      scan := by
  rw [List.all_eq_true] at h
  generalize List.range 8 = bits at h ⊢
  induction bits generalizing scan with
  | nil => rfl
  | cons b bits ih =>
    rw [List.foldl_cons, findGapsBit, if_pos (h b (List.mem_cons_self b bits)),
      ih _ fun x hx => h x (List.mem_cons_of_mem b hx)]

theorem findGaps_eq_foldl (segmentSize : Nat) :
    findGaps meetsTarget sieve segmentSize =
      ((List.range (segmentSize * 8)).foldl (findGapsBit meetsTarget sieve) {}).reports := by
  unfold findGaps
  congr 1
  generalize ({} : GapScan) = scan
  induction segmentSize generalizing scan with
  | zero => rfl
  | succ n ih =>
    rw [List.range_succ n, List.foldl_append, ih, List.foldl_cons, List.foldl_nil,
      show (n + 1) * 8 = n * 8 + 8 by omega, List.range_add, List.foldl_append, List.foldl_map]
    split
    · rw [foldl_findGapsBit_marked meetsTarget sieve n _ ‹_›]
    · rfl

theorem findGaps_spec (segmentSize : Nat) :
    findGaps meetsTarget sieve segmentSize =
      consecutiveGaps meetsTarget (unmarked sieve (segmentSize * 8)) := by
  rw [findGaps_eq_foldl, foldl_findGapsBit _ _ _ (List.pairwise_lt_range _), unmarked]

end FindGaps

theorem isProbablePrime_of_four_dvd {n : Nat} (h : n % 4 = 0) (rounds : Int) :
    isProbablePrime n rounds = false := by
  simp [isProbablePrime, show n % 2 = 0 by omega, show n ≠ 2 by omega]

theorem findGaps_composite_start (hash shift : Nat) (hshift : 2 ≤ shift) {smallPrimes : List Nat}
    (hp : ∀ p ∈ smallPrimes, p.Prime) (meetsTarget : Nat → Nat → Bool) {size s : Nat}
    (hsize : 0 < size) (hs : 8 ∣ s) :
    findGaps meetsTarget (sieveSegmentOpenCl smallPrimes s size fun _ => false) size =
        consecutiveGaps meetsTarget
          (unmarked (sieveSegmentOpenCl smallPrimes s size fun _ => false) (size * 8)) ∧
      (unmarked (sieveSegmentOpenCl smallPrimes s size fun _ => false) (size * 8)).head? = some 0 ∧
      isProbablePrime (hash * 2 ^ shift + s + 0) 3 = false := by
  refine ⟨findGaps_spec _ _ size, ?_, ?_⟩
  · have h0 : sieveSegmentOpenCl smallPrimes s size (fun _ => false) 0 = false := by
      rw [sieveSegmentOpenCl_spec (fun p h => (hp p h).pos) s size _ (by omega)]
      simp
    rw [unmarked, show size * 8 = size * 8 - 1 + 1 by omega, List.range_succ_eq_map,
      List.filter_cons, h0]
    rfl
  · have h4 : 4 ∣ hash * 2 ^ shift :=
      Dvd.dvd.mul_left (Nat.pow_dvd_pow 2 hshift) hash
    exact isProbablePrime_of_four_dvd (by omega) 3

theorem findGaps_composite_start_first_segment :
    findGaps (fun _ _ => true) (sieveSegmentOpenCl [2, 3, 5, 7] 0 1 fun _ => false) 1 = [(0, 1)] ∧
      isProbablePrime (1 * 2 ^ 14 + 0 + 0) 3 = false :=
  ⟨rfl, (@findGaps_composite_start 1 14 (by decide) [2, 3, 5, 7] (by decide) (fun _ _ => true) 1 0
    (by decide) (by decide)).2.2⟩

end Wattx.GapcoinSieve
