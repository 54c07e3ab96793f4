import Mathlib.Tactic

/-!
Going round a ring of places `1, …, n - 1`.

A choice that always takes the first ready place after the last one chosen never passes a
place that stays ready: each choice of another place brings the ring nearer to it. Distances
are counted from the last choice and run from 1, the next place, to `n - 1`, the same place
again; place 0 is off the ring and is where a first round may start.
-/

namespace Silicio.Rotation

/-- The steps from `t` round to `u`. -/
def dist (n t u : ℕ) : ℕ := if t < u then u - t else n - 1 - t + u

def suc (n t : ℕ) : ℕ := if t + 1 < n then t + 1 else 1

variable {n t u w : ℕ}

lemma dist_pos (hu : 1 ≤ u) : 0 < dist n t u := by
  unfold dist
  split <;> omega

lemma dist_le (ht : t < n) (hu : u < n) : dist n t u ≤ n - 1 := by
  unfold dist
  split <;> omega

lemma dist_inj (ht : t < n) (hu : 1 ≤ u) (hun : u < n) (hw : 1 ≤ w) (hwn : w < n)
    (h : dist n t u = dist n t w) : u = w := by
  unfold dist at h
  split_ifs at h <;> omega

lemma suc_mem (hn : 1 < n) (t : ℕ) : 1 ≤ suc n t ∧ suc n t < n := by
  unfold suc
  split <;> omega

lemma dist_suc_self (ht : t < n) (hn : 1 < n) : dist n t (suc n t) = 1 := by
  unfold dist suc
  split_ifs <;> omega

lemma dist_suc (ht : t < n) (hu : 1 ≤ u) (hun : u < n) (hne : u ≠ suc n t) :
    dist n (suc n t) u + 1 = dist n t u := by
  unfold suc at hne
  unfold dist suc
  split_ifs at hne ⊢ <;> omega

/-- Places nearer than `w` lie on the way to `w`. -/
lemma dist_add (ht : t < n) (hu : 1 ≤ u) (hun : u < n) (hwn : w < n)
    (h : dist n t u < dist n t w) : dist n u w + dist n t u = dist n t w := by
  unfold dist at h ⊢
  split_ifs at h ⊢ <;> omega

/-- `u` is the first ready place after `t`. -/
structure Elige (n : ℕ) (listo : ℕ → Prop) (t u : ℕ) : Prop where
  desde : 1 ≤ u
  hasta : u < n
  lista : listo u
  primero : ∀ w, 1 ≤ w → w < n → listo w → dist n t u ≤ dist n t w

lemma Elige.acerca {listo : ℕ → Prop} {k : ℕ} (ht : t < n) (h : Elige n listo t u) (hk : 1 ≤ k)
    (hkn : k < n) (hlisto : listo k) (hne : u ≠ k) : dist n u k < dist n t k := by
  have hle := h.primero k hk hkn hlisto
  have hlt : dist n t u < dist n t k :=
    lt_of_le_of_ne hle fun he => hne (dist_inj ht h.desde h.hasta hk hkn he)
  have hadd := dist_add ht h.desde h.hasta hkn hlt
  have hpos : 0 < dist n t u := dist_pos h.desde
  omega

/-- **Nobody is overtaken twice.** In a run of choices, between two choices of one place every
other place that was ready all along is chosen. -/
theorem entre_dos {listo : ℕ → ℕ → Prop} {sel : ℕ → ℕ} {k : ℕ} (h0 : sel 0 < n)
    (hsel : ∀ i, Elige n (listo i) (sel i) (sel (i + 1))) (hk : 1 ≤ k) (hkn : k < n)
    (hlisto : ∀ i, listo i k) {a b : ℕ} (hab : a < b) (hdos : sel (a + 1) = sel (b + 1))
    (hne : sel (a + 1) ≠ k) : ∃ c, a < c ∧ c < b ∧ sel (c + 1) = k := by
  by_contra hno
  have hlt : ∀ i, sel i < n := fun i => by
    cases i with
    | zero => exact h0
    | succ i => exact (hsel i).hasta
  -- each choice after the first brings the ring at least one step nearer to `k`
  have hcerca : ∀ d, a + d ≤ b → dist n (sel (a + d + 1)) k + d ≤ dist n (sel (a + 1)) k := by
    intro d
    induction d with
    | zero => exact fun _ => le_rfl
    | succ d ih =>
      intro hd
      have hnot : sel (a + (d + 1) + 1) ≠ k := by
        intro hc
        rcases Nat.lt_or_eq_of_le hd with hlt' | heq
        · exact hno ⟨a + (d + 1), by omega, hlt', hc⟩
        · rw [heq, ← hdos] at hc
          exact hne hc
      have := (hsel (a + (d + 1))).acerca (hlt _) hk hkn (hlisto _) hnot
      have := ih (by omega)
      rw [show a + d + 1 = a + (d + 1) by omega] at this
      omega
  have := hcerca (b - a) (by omega)
  rw [show a + (b - a) + 1 = b + 1 by omega, ← hdos] at this
  omega

end Silicio.Rotation
