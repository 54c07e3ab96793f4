import Mathlib.Data.Nat.Digits.Lemmas
import Silicio.Bitmap

/-!
Numerals in a base of at most sixteen, as bytes.

A numeral is canonical when it has no zero before its first digit. Each number has one, and
reading it gives the number back; an integer has a sign before it when it is negative.
-/

namespace Silicio.Numerals

open Silicio.Bitmap

def digito (d : ℕ) : Byte :=
  if d < 10 then BitVec.ofNat 8 (0x30 + d) else BitVec.ofNat 8 (0x61 + (d - 10))

def valor (c : Byte) : ℕ := if c.toNat < 0x61 then c.toNat - 0x30 else c.toNat - 0x61 + 10

abbrev menos : Byte := 0x2d

/-- `n` in base `b`, the first digit first. -/
def numeral (b n : ℕ) : List Byte :=
  if n = 0 then [digito 0] else ((Nat.digits b n).map digito).reverse

def leer (b : ℕ) (t : List Byte) : ℕ := t.foldl (fun v c => b * v + valor c) 0

def numeralEntero (b : ℕ) (z : ℤ) : List Byte :=
  if z < 0 then menos :: numeral b z.natAbs else numeral b z.natAbs

def leerEntero (b : ℕ) : List Byte → ℤ
  | [] => 0
  | c :: t => if c = menos then -(leer b t : ℤ) else leer b (c :: t)

/-- No zero before the first digit, and every byte a digit of the base. -/
structure Canonico (b : ℕ) (t : List Byte) : Prop where
  cifras : ∀ c ∈ t, ∃ d < b, c = digito d
  primera : ∃ c l, t = c :: l ∧ (c = digito 0 → l = [])

/-- A canonical numeral, or one other than 0 after a sign. -/
def CanonicoEntero (b : ℕ) (t : List Byte) : Prop :=
  Canonico b t ∨ ∃ u, t = menos :: u ∧ Canonico b u ∧ u ≠ [digito 0]

lemma valor_digito {d : ℕ} (h : d < 16) : valor (digito d) = d := by
  interval_cases d <;> decide

lemma digito_ne_menos {d : ℕ} (h : d < 16) : digito d ≠ menos := by
  interval_cases d <;> decide

lemma digito_ne_cero {d : ℕ} (h : d < 16) : digito d ≠ 0 := by
  interval_cases d <;> decide

section
variable {b n : ℕ}

/-- The last digit and the numeral before it. -/
lemma numeral_div (hb : 1 < b) (n : ℕ) : numeral b n =
    (if n / b = 0 then [] else numeral b (n / b)) ++ [digito (n % b)] := by
  unfold numeral
  rcases Nat.eq_zero_or_pos n with rfl | hn
  · simp
  · rw [if_neg hn.ne', Nat.digits_def' hb hn, List.map_cons, List.reverse_cons]
    split
    · next h => rw [h, Nat.digits_zero, List.map_nil, List.reverse_nil]
    · rfl

lemma leer_concat (b : ℕ) (t : List Byte) (c : Byte) :
    leer b (t ++ [c]) = b * leer b t + valor c := by
  rw [leer, List.foldl_append, List.foldl_cons, List.foldl_nil, leer]

/-- **Reading a numeral gives the number back.** -/
theorem leer_numeral (hb : 1 < b) (h16 : b ≤ 16) (n : ℕ) : leer b (numeral b n) = n := by
  induction n using Nat.strong_induction_on with
  | _ n ih =>
    have hmod := Nat.mod_lt n (show 0 < b by omega)
    have hdiv := Nat.div_add_mod n b
    rw [numeral_div hb, leer_concat, valor_digito (by omega)]
    split
    · next h =>
      rw [h] at hdiv
      simpa [leer] using hdiv
    · next h =>
      have hpos : 0 < n := Nat.pos_of_ne_zero fun h0 => h (by rw [h0, Nat.zero_div])
      rw [ih _ (Nat.div_lt_self hpos hb), hdiv]

lemma canonico_numeral (hb : 1 < b) (h16 : b ≤ 16) (n : ℕ) : Canonico b (numeral b n) := by
  induction n using Nat.strong_induction_on with
  | _ n ih =>
    have hmod := Nat.mod_lt n (show 0 < b by omega)
    rw [numeral_div hb]
    split
    · refine ⟨fun c hc => ⟨n % b, hmod, by simpa using hc⟩, _, [], rfl, fun _ => rfl⟩
    · next h =>
      have hpos : 0 < n := Nat.pos_of_ne_zero fun h0 => h (by rw [h0, Nat.zero_div])
      have hlt := Nat.div_lt_self hpos hb
      obtain ⟨hcif, c, l, hcl, hcero⟩ := ih _ hlt
      refine ⟨fun x hx => ?_, c, l ++ [digito (n % b)], by rw [hcl]; rfl, fun hc => ?_⟩
      · rcases List.mem_append.mp hx with hx | hx
        · exact hcif x hx
        · exact ⟨n % b, hmod, by simpa using hx⟩
      · -- a numeral that is `0` is that of 0
        have hval := leer_numeral hb h16 (n / b)
        rw [hcl, hcero hc, hc] at hval
        exact absurd (hval.symm.trans (by simp [leer, valor_digito])) h

lemma length_numeral_le (hb : 1 < b) {k : ℕ} (hk : 0 < k) (hn : n < b ^ k) :
    (numeral b n).length ≤ k := by
  unfold numeral
  split
  · exact hk
  · rw [List.length_reverse, List.length_map]
    exact (Nat.digits_length_le_iff hb n).mpr hn

lemma canonico_numeralEntero (hb : 1 < b) (h16 : b ≤ 16) (z : ℤ) :
    CanonicoEntero b (numeralEntero b z) := by
  have hcan := canonico_numeral hb h16 z.natAbs
  unfold numeralEntero
  split
  · refine Or.inr ⟨_, rfl, hcan, fun h0 => ?_⟩
    have hval := leer_numeral hb h16 z.natAbs
    have hcero : leer b [digito 0] = 0 := by
      simp [leer, valor_digito]
    rw [h0, hcero] at hval
    omega
  · exact Or.inl hcan

/-- **Reading the numeral of an integer gives the integer back.** -/
theorem leerEntero_numeral (hb : 1 < b) (h16 : b ≤ 16) (z : ℤ) :
    leerEntero b (numeralEntero b z) = z := by
  have hval := leer_numeral hb h16 z.natAbs
  unfold numeralEntero
  split
  · next hz =>
    rw [leerEntero, if_pos rfl, hval]
    omega
  · next hz =>
    obtain ⟨hcif, c, l, hcl, -⟩ := canonico_numeral hb h16 z.natAbs
    rw [hcl] at hval hcif ⊢
    obtain ⟨d, hd, rfl⟩ := hcif c List.mem_cons_self
    rw [leerEntero, if_neg (digito_ne_menos (by omega)), hval]
    omega

end

end Silicio.Numerals
