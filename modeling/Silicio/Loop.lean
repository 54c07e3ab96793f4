import Mathlib.Tactic

/-!
Counting loops, searching loops, and loops that may not end.

Two shapes of `for` cover every loop of a C program that walks a table: one that runs its
body for each index below a bound, and one that stops at the first index that satisfies a
test. A `while` whose body decides when it ends is run with fuel. Each comes with the rule its
proofs use.
-/

namespace Silicio.Loop

variable {σ : Type*}

/-- `for (i = 0; i < n; i++) s = body(i, s)`. -/
def loop (body : ℕ → σ → σ) : ℕ → σ → σ
  | 0, s => s
  | n + 1, s => body n (loop body n s)

@[simp] lemma loop_zero (body : ℕ → σ → σ) (s : σ) : loop body 0 s = s := rfl
lemma loop_succ (body : ℕ → σ → σ) (n : ℕ) (s : σ) :
    loop body (n + 1) s = body n (loop body n s) := rfl

-- a loop over a table is never run by a proof: the rules below are its meaning
attribute [irreducible] loop

/-- **The rule of a counting loop**: what holds at the start and is carried from index to
index holds at the end. -/
theorem loop_rule {body : ℕ → σ → σ} {n : ℕ} {s : σ} (P : ℕ → σ → Prop) (h0 : P 0 s)
    (hstep : ∀ i < n, ∀ t, P i t → P (i + 1) (body i t)) : P n (loop body n s) := by
  induction n with
  | zero => rwa [loop_zero]
  | succ n ih =>
    rw [loop_succ]
    exact hstep n (by omega) _ (ih fun i hi t ht => hstep i (by omega) t ht)

lemma loop_congr {body body' : ℕ → σ → σ} {n : ℕ} (h : ∀ i < n, ∀ t, body i t = body' i t)
    (s : σ) : loop body n s = loop body' n s := by
  induction n with
  | zero => rw [loop_zero, loop_zero]
  | succ n ih => rw [loop_succ, loop_succ, ih fun i hi => h i (by omega), h n (by omega)]

/-- What no turn of the body changes, the loop does not change. -/
lemma loop_frame {α : Type*} {body : ℕ → σ → σ} (f : σ → α)
    (hstep : ∀ i t, f (body i t) = f t) (n : ℕ) (s : σ) : f (loop body n s) = f s :=
  loop_rule (fun _ t => f t = f s) rfl fun i _ t ht => (hstep i t).trans ht

/-- A view of the state that each turn of the body carries along. -/
lemma loop_map {τ : Type*} {body : ℕ → σ → σ} {body' : ℕ → τ → τ} (f : σ → τ)
    (hstep : ∀ i t, f (body i t) = body' i (f t)) (n : ℕ) (s : σ) :
    f (loop body n s) = loop body' n (f s) := by
  induction n with
  | zero => rw [loop_zero, loop_zero]
  | succ n ih => rw [loop_succ, loop_succ, hstep, ih]

/-- What each turn of the body adds to what holds, the loop adds for some index. -/
lemma loop_or {body : ℕ → σ → σ} {Q : σ → Prop} {P : ℕ → Prop}
    (hstep : ∀ i t, Q (body i t) ↔ Q t ∨ P i) (n : ℕ) (s : σ) :
    Q (loop body n s) ↔ Q s ∨ ∃ i < n, P i := by
  induction n with
  | zero => simp
  | succ n ih => rw [loop_succ, hstep, ih, or_assoc, Nat.exists_lt_succ_right]

/-- `for (i = 0; i < n; i++) a[i] = g(i)`. -/
lemma loop_update {α : Type*} (g : ℕ → α) (n : ℕ) (a : ℕ → α) (j : ℕ) :
    loop (fun i a => Function.update a i (g i)) n a j = if j < n then g j else a j := by
  induction n with
  | zero => simp
  | succ n ih =>
    rw [loop_succ, Function.update_apply, ih]
    rcases Nat.lt_trichotomy j n with h | rfl | h
    · rw [if_neg (by omega), if_pos h, if_pos (by omega)]
    · rw [if_pos rfl, if_pos (by omega)]
    · rw [if_neg (by omega), if_neg (by omega), if_neg (by omega)]

/-- `for (; n--; i++) if (p(i)) break;`: the index a search from `i` over `n` places stops
at. -/
def scan (p : ℕ → Bool) : ℕ → ℕ → ℕ
  | 0, i => i
  | n + 1, i => if p i then i else scan p n (i + 1)

variable {p : ℕ → Bool}

lemma le_scan (n i : ℕ) : i ≤ scan p n i := by
  induction n generalizing i with
  | zero => exact le_rfl
  | succ n ih =>
    unfold scan
    split
    · exact le_rfl
    · exact le_trans (by omega) (ih (i + 1))

lemma scan_le (n i : ℕ) : scan p n i ≤ i + n := by
  induction n generalizing i with
  | zero => exact le_rfl
  | succ n ih =>
    unfold scan
    split
    · omega
    · have := ih (i + 1)
      omega

lemma before_scan {n i j : ℕ} (hi : i ≤ j) (hj : j < scan p n i) : p j = false := by
  induction n generalizing i with
  | zero => simp only [scan] at hj; omega
  | succ n ih =>
    unfold scan at hj
    split at hj
    · omega
    · next h =>
      rcases Nat.eq_or_lt_of_le hi with rfl | hlt
      · simpa using h
      · exact ih hlt hj

lemma at_scan {n i : ℕ} (h : scan p n i < i + n) : p (scan p n i) = true := by
  induction n generalizing i with
  | zero => simp only [scan] at h; omega
  | succ n ih =>
    unfold scan at h ⊢
    split
    · assumption
    · next hp =>
      rw [if_neg hp] at h
      exact ih (by omega)

/-- **The rule of a searching loop**: where a search stops. -/
theorem scan_eq {n i j : ℕ} (hi : i ≤ j) (hj : j ≤ i + n) (hno : ∀ l, i ≤ l → l < j → p l = false)
    (hit : j < i + n → p j = true) : scan p n i = j := by
  rcases Nat.lt_trichotomy (scan p n i) j with h | h | h
  · have := hno _ (le_scan n i) h
    rw [at_scan (p := p) (n := n) (i := i) (by omega)] at this
    cases this
  · exact h
  · have h1 := scan_le (p := p) n i
    have h2 := before_scan hi h
    rw [hit (by omega)] at h2
    cases h2

lemma scan_lt_iff {n i : ℕ} : scan p n i < i + n ↔ ∃ j, i ≤ j ∧ j < i + n ∧ p j = true := by
  constructor
  · exact fun h => ⟨_, le_scan n i, h, at_scan h⟩
  · rintro ⟨j, hi, hj, hp⟩
    by_contra hc
    have := before_scan (p := p) (n := n) hi (by omega)
    rw [hp] at this
    cases this

lemma scan_congr {q : ℕ → Bool} {n i : ℕ} (h : ∀ j, i ≤ j → j < i + n → p j = q j) :
    scan p n i = scan q n i := by
  refine scan_eq (le_scan n i) (scan_le n i) (fun l h1 h2 => ?_) fun hlt => ?_
  · have := scan_le (p := q) n i
    rw [h l h1 (by omega), before_scan h1 h2]
  · rw [h _ (le_scan n i) hlt]
    exact at_scan hlt

/-- Two searches whose tests agree on each place the first comes to stop at the same index. -/
lemma scan_congr_hasta {q : ℕ → Bool} {n i : ℕ}
    (h : ∀ j, i ≤ j → j < i + n → (∀ l, i ≤ l → l < j → p l = false) → q j = p j) :
    scan q n i = scan p n i := by
  refine scan_eq (le_scan n i) (scan_le n i) (fun l h1 h2 => ?_) fun hlt => ?_
  · have := scan_le (p := p) n i
    rw [h l h1 (by omega) fun l' h1' h2' => before_scan (n := n) h1' (by omega)]
    exact before_scan h1 h2
  · rw [h _ (le_scan n i) hlt fun l' h1' h2' => before_scan (n := n) h1' h2']
    exact at_scan hlt

/-! ### While -/

/-- `while (p(s)) s = body(s)`, at most `fuel` tests of it. -/
def mientras (p : σ → Prop) [DecidablePred p] (body : σ → σ) : ℕ → σ → Option σ
  | 0, _ => none
  | fuel + 1, s => if p s then mientras p body fuel (body s) else some s

/-- **The rule of a while loop**: it ends in the first state of its iteration that fails the test,
if the fuel is enough to reach it. -/
theorem mientras_eq_some {p : σ → Prop} [DecidablePred p] {body : σ → σ} {fuel : ℕ} {s t : σ} :
    mientras p body fuel s = some t ↔
      ∃ k < fuel, (∀ i < k, p (body^[i] s)) ∧ ¬ p (body^[k] s) ∧ body^[k] s = t := by
  induction fuel generalizing s with
  | zero => simp [mientras]
  | succ fuel ih =>
    rw [mientras]
    by_cases hp : p s
    · rw [if_pos hp, ih]
      constructor
      · rintro ⟨k, hk, hall, hno, rfl⟩
        refine ⟨k + 1, Nat.succ_lt_succ hk, fun i hi => ?_, hno, rfl⟩
        cases i with
        | zero => exact hp
        | succ i => exact hall i (Nat.lt_of_succ_lt_succ hi)
      · rintro ⟨k, hk, hall, hno, rfl⟩
        cases k with
        | zero => exact absurd hp hno
        | succ k =>
          exact ⟨k, Nat.lt_of_succ_lt_succ hk, fun i hi => hall (i + 1) (Nat.succ_lt_succ hi), hno,
            rfl⟩
    · rw [if_neg hp]
      constructor
      · rintro ⟨⟩
        exact ⟨0, Nat.succ_pos fuel, fun i hi => absurd hi (Nat.not_lt_zero i), hp, rfl⟩
      · rintro ⟨k, -, hall, -, rfl⟩
        cases k with
        | zero => rfl
        | succ k => exact absurd (hall 0 (Nat.succ_pos k)) hp

/-- **Total correctness of a while loop**: an invariant that bounds the turns left. -/
theorem mientras_rule (p : σ → Prop) [DecidablePred p] (body : σ → σ) (I : ℕ → σ → Prop)
    (h0 : ∀ s, I 0 s → ¬ p s) (hstep : ∀ d s, I (d + 1) s → p s → I d (body s)) {d : ℕ} {s : σ}
    (h : I d s) : ∃ t, (∀ fuel > d, mientras p body fuel s = some t) ∧ (∃ d', I d' t) ∧ ¬ p t := by
  induction d generalizing s with
  | zero =>
    refine ⟨s, fun fuel hf => ?_, ⟨0, h⟩, h0 s h⟩
    obtain ⟨fuel, rfl⟩ := Nat.exists_eq_succ_of_ne_zero (Nat.ne_of_gt hf)
    rw [mientras, if_neg (h0 s h)]
  | succ d ih =>
    by_cases hp : p s
    · obtain ⟨t, ht, hI, hno⟩ := ih (hstep d s h hp)
      refine ⟨t, fun fuel hf => ?_, hI, hno⟩
      obtain ⟨fuel, rfl⟩ := Nat.exists_eq_succ_of_ne_zero (show fuel ≠ 0 by omega)
      rw [mientras, if_pos hp, ht fuel (by omega)]
    · refine ⟨s, fun fuel hf => ?_, ⟨d + 1, h⟩, hp⟩
      obtain ⟨fuel, rfl⟩ := Nat.exists_eq_succ_of_ne_zero (show fuel ≠ 0 by omega)
      rw [mientras, if_neg hp]

/-- The loop of `mientras` stopped after `fuel` turns: whether it has ended, and where it stands. -/
def avanza (p : σ → Prop) [DecidablePred p] (body : σ → σ) : ℕ → σ → Bool × σ
  | 0, s => (false, s)
  | fuel + 1, s => if p s then avanza p body fuel (body s) else (true, s)

/-- Where a stopped loop stands: at its end, or after as many turns as it was given. -/
lemma avanza_eq (p : σ → Prop) [DecidablePred p] (body : σ → σ) (fuel : ℕ) (s : σ) :
    (∃ k < fuel, (∀ i < k, p (body^[i] s)) ∧ ¬ p (body^[k] s) ∧
      avanza p body fuel s = (true, body^[k] s)) ∨
    (∀ i < fuel, p (body^[i] s)) ∧ avanza p body fuel s = (false, body^[fuel] s) := by
  induction fuel generalizing s with
  | zero => exact Or.inr ⟨fun i hi => absurd hi (Nat.not_lt_zero i), rfl⟩
  | succ fuel ih =>
    rw [avanza]
    by_cases hp : p s
    · have hall : ∀ n, (∀ i < n, p (body^[i] (body s))) → ∀ i < n + 1, p (body^[i] s) := by
        intro n h i hi
        cases i with
        | zero => exact hp
        | succ i => exact h i (Nat.lt_of_succ_lt_succ hi)
      rw [if_pos hp]
      rcases ih (body s) with ⟨k, hk, hk', hno, he⟩ | ⟨hk', he⟩
      · exact Or.inl ⟨k + 1, Nat.succ_lt_succ hk, hall k hk', hno, he⟩
      · exact Or.inr ⟨hall fuel hk', he⟩
    · rw [if_neg hp]
      exact Or.inl ⟨0, Nat.succ_pos fuel, fun i hi => absurd hi (Nat.not_lt_zero i), hp, rfl⟩

lemma mientras_eq_avanza (p : σ → Prop) [DecidablePred p] (body : σ → σ) (fuel : ℕ) (s : σ) :
    mientras p body fuel s =
      if (avanza p body fuel s).1 then some (avanza p body fuel s).2 else none := by
  induction fuel generalizing s with
  | zero => rfl
  | succ fuel ih =>
    rw [mientras, avanza]
    by_cases hp : p s
    · rw [if_pos hp, if_pos hp, ih]
    · rw [if_neg hp, if_neg hp, if_pos rfl]

lemma avanza_map {τ : Type*} {p : σ → Prop} [DecidablePred p] {q : τ → Prop} [DecidablePred q]
    {body : σ → σ} {body' : τ → τ} (f : σ → τ) (hp : ∀ s, q (f s) ↔ p s)
    (hstep : ∀ s, f (body s) = body' (f s)) (fuel : ℕ) (s : σ) :
    avanza q body' fuel (f s) = ((avanza p body fuel s).1, f (avanza p body fuel s).2) := by
  induction fuel generalizing s with
  | zero => rfl
  | succ fuel ih =>
    rw [avanza, avanza]
    by_cases h : p s
    · rw [if_pos h, if_pos ((hp s).mpr h), ← hstep, ih]
    · rw [if_neg h, if_neg fun hc => h ((hp s).mp hc)]

end Silicio.Loop
