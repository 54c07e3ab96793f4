import Silicio.Console
import Silicio.Numerals
import Silicio.Terminators

/-!
`itoa`: the numeral of an `int` in a buffer, in the three formats `printk` knows.

The digits come out last first, into an array of the function's own, and are then copied the
other way round. Everything is done on the unsigned `ud`: the most negative integer, which has no
opposite, is its own, and as an unsigned number that is its absolute value.
-/

namespace Silicio.Itoa

open Silicio.Bitmap Silicio.Console Silicio.Numerals Silicio.Terminators

abbrev DECIMAL : Entero := 0x64#32
abbrev SIN_SIGNO : Entero := 0x75#32
abbrev HEXA : Entero := 0x78#32

structure Cifras where
  a : ℕ → Byte
  i : ℕ
  ud : ℕ

def divisor (base : Entero) : ℕ := if base = HEXA then 16 else 10

def Cifras.vuelta (base : Entero) (s : Cifras) : Cifras :=
  let resto := s.ud % divisor base
  let ud := s.ud / divisor base
  let resto := if resto < 10 then resto + 0x30 else resto + 0x61 - 10
  ⟨Function.update s.a s.i (BitVec.ofNat 8 resto), s.i + 1, ud⟩

lemma Cifras.vuelta_lt (base : Entero) (s : Cifras) (h : (s.vuelta base).ud ≠ 0) :
    (s.vuelta base).ud < s.ud := by
  have hud : (s.vuelta base).ud = s.ud / divisor base := rfl
  rw [hud] at h ⊢
  refine Nat.div_lt_self (Nat.pos_of_ne_zero fun h0 => h (by rw [h0, Nat.zero_div])) ?_
  unfold divisor
  split <;> decide

/-- `do { ... } while (ud != 0)`. -/
def cifras (base : Entero) (s : Cifras) : Cifras :=
  if _h : (s.vuelta base).ud ≠ 0 then cifras base (s.vuelta base) else s.vuelta base
termination_by s.ud
decreasing_by exact Cifras.vuelta_lt base s _h

/-- `while (i != 0) { i--; *p = a[i]; p++; }`: where `p` ends, and the buffer. -/
def volcar (a : ℕ → Byte) : ℕ → ℕ → (ℕ → Byte) → ℕ × (ℕ → Byte)
  | 0, p, buf => (p, buf)
  | i + 1, p, buf => volcar a i (p + 1) (Function.update buf p (a i))

/-- The characters in the function's array, last first, the sign included. -/
def llenar (a : ℕ → Byte) (base d : Entero) : Cifras :=
  let ud := if base = DECIMAL ∧ d.slt 0#32 then (-d).toNat else d.toNat
  let s := cifras base ⟨a, 0, ud⟩
  if base = DECIMAL ∧ d.slt 0#32 then { s with a := Function.update s.a s.i 0x2d, i := s.i + 1 }
  else s

/-- `itoa`; `a` is what its array holds before, and the buffer is what `*p` writes to. -/
def itoa (a buf : ℕ → Byte) (base d : Entero) : ℕ → Byte :=
  let s := llenar a base d
  let v := volcar s.a s.i 0 buf
  Function.update v.2 v.1 0

variable {a buf : ℕ → Byte} {base d : Entero} {t : List Byte} {s : Cifras}

lemma divisor_bounds (base : Entero) : 1 < divisor base ∧ divisor base ≤ 16 := by
  unfold divisor
  split <;> decide

/-! ### The loops -/

/-- From place `i` on the array holds `t`, last byte first; the rest is as it was. -/
structure Guarda (t : List Byte) (i : ℕ) (a a' : ℕ → Byte) : Prop where
  letras : ∀ k < t.length, a' (i + k) = t.reverse.getD k 0
  resto : ∀ j, j < i ∨ i + t.length ≤ j → a' j = a j

lemma Guarda.signo {a a' : ℕ → Byte} (h : Guarda t 0 a a') (c : Byte) :
    Guarda (c :: t) 0 a (Function.update a' t.length c) := by
  refine ⟨fun k hk => ?_, fun j hj => ?_⟩
  · rw [List.length_cons] at hk
    rw [List.reverse_cons, Nat.zero_add]
    by_cases hlast : k = t.length
    · rw [hlast, Function.update_self, List.getD_append_right _ _ _ _ (by simp)]
      simp
    · have hget := h.letras k (by omega)
      rw [Nat.zero_add] at hget
      rw [Function.update_of_ne hlast, hget,
        List.getD_append _ _ _ _ (by rw [List.length_reverse]; omega)]
  · rw [List.length_cons] at hj
    rw [Function.update_of_ne (by omega), h.resto j (by omega)]

/-- **The digits**: the first loop leaves the numeral of what it is given. -/
lemma cifras_spec (base : Entero) (s : Cifras) :
    (cifras base s).i = s.i + (numeral (divisor base) s.ud).length ∧
      Guarda (numeral (divisor base) s.ud) s.i s.a (cifras base s).a := by
  obtain ⟨hb, h16⟩ := divisor_bounds base
  induction h : s.ud using Nat.strong_induction_on generalizing s with
  | _ n ih =>
    subst h
    have hmod := Nat.mod_lt s.ud (show 0 < divisor base by omega)
    have hvuelta : s.vuelta base = ⟨Function.update s.a s.i (digito (s.ud % divisor base)), s.i + 1,
        s.ud / divisor base⟩ := by
      unfold Cifras.vuelta digito
      simp only [Cifras.mk.injEq, and_true]
      congr 1
      split
      · rw [Nat.add_comm]
      · congr 1
        omega
    rw [cifras, numeral_div hb]
    by_cases hud : s.ud / divisor base = 0
    · have h0 : ¬ (s.vuelta base).ud ≠ 0 := by rw [hvuelta]; exact not_not.mpr hud
      rw [dif_neg h0, if_pos hud, hvuelta]
      refine ⟨rfl, fun k hk => ?_, fun j hj => Function.update_of_ne ?_ _ _⟩
      · obtain rfl : k = 0 := by simpa using hk
        simp
      · rcases hj with hj | hj
        · omega
        · simp only [List.nil_append, List.length_singleton] at hj
          omega
    · have h0 : (s.vuelta base).ud ≠ 0 := by rw [hvuelta]; exact hud
      have hlt := Cifras.vuelta_lt base s h0
      obtain ⟨hi, hg⟩ := ih _ hlt (s.vuelta base) rfl
      rw [dif_pos h0, if_neg hud, hi]
      rw [hvuelta] at hg ⊢
      simp only at hg
      refine ⟨?_, fun k hk => ?_, fun j hj => ?_⟩
      · simp only [List.length_append, List.length_singleton]
        omega
      · rw [List.length_append, List.length_singleton] at hk
        rw [List.reverse_append, List.reverse_singleton, List.singleton_append]
        rcases k with _ | k
        · rw [hg.resto _ (Or.inl (by omega))]
          simp
        · rw [show s.i + (k + 1) = s.i + 1 + k by omega, hg.letras k (by omega),
            List.getD_cons_succ]
      · rw [List.length_append, List.length_singleton] at hj
        rw [hg.resto j (by omega)]
        exact Function.update_of_ne (by omega) _ _

/-- **The copy**: the second loop reads the array backwards. -/
lemma volcar_spec (a : ℕ → Byte) (i p : ℕ) (buf : ℕ → Byte) : (volcar a i p buf).1 = p + i ∧
    ∀ j, (volcar a i p buf).2 j = if p ≤ j ∧ j < p + i then a (p + i - 1 - j) else buf j := by
  induction i generalizing p buf with
  | zero => exact ⟨rfl, fun j => (if_neg (by omega)).symm⟩
  | succ i ih =>
    obtain ⟨h1, h2⟩ := ih (p + 1) (Function.update buf p (a i))
    rw [volcar]
    refine ⟨by rw [h1]; omega, fun j => ?_⟩
    rw [h2, Function.update_apply]
    rcases Nat.lt_trichotomy j p with hj | rfl | hj
    · rw [if_neg (by omega), if_neg (by omega), if_neg (by omega)]
    · rw [if_neg (by omega), if_pos rfl, if_pos (by omega), show j + (i + 1) - 1 - j = i by omega]
    · by_cases hin : j < p + (i + 1)
      · rw [if_pos (by omega), if_pos (by omega), show p + 1 + i - 1 - j = p + (i + 1) - 1 - j by omega]
      · rw [if_neg (by omega), if_neg (by omega), if_neg (by omega)]

/-! ### The text -/

def texto (base d : Entero) : List Byte :=
  if base = DECIMAL then numeralEntero 10 d.toInt else numeral (divisor base) d.toNat

structure Escrita (t : List Byte) (buf buf' : ℕ → Byte) : Prop where
  letras : ∀ j < t.length, buf' j = t.getD j 0
  acaba : Acaba buf' t.length
  resto : ∀ j, t.length < j → buf' j = buf j

lemma ud_negativo (h : d.slt 0#32 = true) : (-d).toNat = d.toInt.natAbs ∧ d.toInt < 0 := by
  rw [BitVec.slt_iff_toInt_lt] at h
  have := d.isLt
  rw [BitVec.toNat_neg]
  rw [BitVec.toInt_eq_toNat_cond] at h ⊢
  simp only [BitVec.toInt_zero] at h
  split at h <;> omega

lemma ud_positivo (h : ¬ d.slt 0#32 = true) : d.toNat = d.toInt.natAbs ∧ ¬ d.toInt < 0 := by
  rw [BitVec.slt_iff_toInt_lt] at h
  have := d.isLt
  rw [BitVec.toInt_eq_toNat_cond] at h ⊢
  simp only [BitVec.toInt_zero] at h
  split at h <;> omega

/-- **The array** holds the text, last byte first, and no more. -/
lemma llenar_spec (a : ℕ → Byte) (base d : Entero) : (llenar a base d).i = (texto base d).length ∧
    Guarda (texto base d) 0 a (llenar a base d).a := by
  have hd : divisor DECIMAL = 10 := rfl
  unfold llenar texto numeralEntero
  simp only
  by_cases hneg : base = DECIMAL ∧ d.slt 0#32 = true
  · obtain ⟨rfl, hslt⟩ := hneg
    obtain ⟨hud, hz⟩ := ud_negativo hslt
    obtain ⟨hi, hg⟩ := cifras_spec DECIMAL ⟨a, 0, d.toInt.natAbs⟩
    simp only [hd, Nat.zero_add] at hi hg
    rw [if_pos ⟨rfl, hslt⟩, if_pos ⟨rfl, hslt⟩, if_pos rfl, if_pos hz, hud, hi]
    exact ⟨rfl, hg.signo menos⟩
  · rw [if_neg hneg, if_neg hneg]
    by_cases hdec : base = DECIMAL
    · subst hdec
      obtain ⟨hud, hz⟩ := ud_positivo fun h => hneg ⟨rfl, h⟩
      rw [if_pos rfl, if_neg hz, ← hud]
      have := cifras_spec DECIMAL ⟨a, 0, d.toNat⟩
      simpa only [hd, Nat.zero_add] using this
    · rw [if_neg hdec]
      have := cifras_spec base ⟨a, 0, d.toNat⟩
      simpa only [Nat.zero_add] using this

lemma texto_letras (base d : Entero) : ∀ c ∈ texto base d, c ≠ 0 := by
  have hnum : ∀ b n, 1 < b → b ≤ 16 → ∀ c ∈ numeral b n, c ≠ 0 := by
    intro b n hb h16 c hc
    obtain ⟨k, hk, rfl⟩ := (canonico_numeral hb h16 n).cifras c hc
    exact digito_ne_cero (by omega)
  obtain ⟨hb, h16⟩ := divisor_bounds base
  unfold texto numeralEntero
  split
  · split
    · exact List.forall_mem_cons.mpr ⟨by decide, hnum 10 _ (by decide) (by decide)⟩
    · exact hnum 10 _ (by decide) (by decide)
  · exact hnum _ _ hb h16

/-- **`itoa` writes its text.** -/
theorem itoa_escrita (a buf : ℕ → Byte) (base d : Entero) :
    Escrita (texto base d) buf (itoa a buf base d) := by
  obtain ⟨hi, hg⟩ := llenar_spec a base d
  obtain ⟨h1, h2⟩ := volcar_spec (llenar a base d).a (llenar a base d).i 0 buf
  rw [hi] at h1 h2
  have hj : ∀ j, itoa a buf base d j = if j < (texto base d).length then (texto base d).getD j 0
      else if j = (texto base d).length then 0 else buf j := by
    intro j
    unfold itoa
    rw [hi, h1, Nat.zero_add, Function.update_apply]
    rcases Nat.lt_trichotomy j (texto base d).length with hlt | rfl | hgt
    · have hget := hg.letras ((texto base d).length - 1 - j) (by omega)
      rw [Nat.zero_add, List.getD_reverse _ (by omega)] at hget
      rw [if_neg (by omega), h2, if_pos (by omega), if_pos hlt,
        show 0 + (texto base d).length - 1 - j = (texto base d).length - 1 - j by omega, hget,
        show (texto base d).length - 1 - ((texto base d).length - 1 - j) = j by omega]
    · rw [if_pos rfl, if_neg (lt_irrefl _), if_pos rfl]
    · rw [if_neg (by omega), h2, if_neg (by omega), if_neg (by omega), if_neg (by omega)]
  have hlet : ∀ j < (texto base d).length, (texto base d).getD j 0 ≠ 0 := by
    intro j hlt
    rw [List.getD_eq_getElem _ _ hlt]
    exact texto_letras base d _ (List.getElem_mem hlt)
  refine ⟨fun j hlt => ?_, ⟨?_, fun j hlt => ?_⟩, fun j hlt => ?_⟩
  · rw [hj, if_pos hlt]
  · rw [hj, if_neg (lt_irrefl _), if_pos rfl]
  · rw [hj, if_pos hlt]
    exact hlet j hlt
  · rw [hj, if_neg (by omega), if_neg (by omega)]

lemma length_texto (base d : Entero) : (texto base d).length ≤ 11 := by
  have hd := d.isLt
  unfold texto numeralEntero
  have h10 : ∀ n < 2 ^ 32, (numeral 10 n).length ≤ 10 := fun n hn =>
    length_numeral_le (by decide) (by decide) (by omega)
  split
  · have hz : d.toInt.natAbs < 2 ^ 32 := by
      rw [BitVec.toInt_eq_toNat_cond]
      split <;> omega
    split
    · rw [List.length_cons]
      exact Nat.succ_le_succ (h10 _ hz)
    · exact (h10 _ hz).trans (by decide)
  · unfold divisor
    split
    · exact (length_numeral_le (by decide) (show 0 < 8 by decide) (by omega)).trans (by decide)
    · exact (h10 _ hd).trans (by decide)

/-- **`itoa` is exact** for every `int`, in the three formats: it writes the canonical numeral and
a terminator, reading it back gives the number, and neither the buffer nor its own array is
written past its twelfth byte. -/
theorem itoa_exacta (a buf : ℕ → Byte) (d : Entero) :
    (Escrita (numeralEntero 10 d.toInt) buf (itoa a buf DECIMAL d) ∧
      CanonicoEntero 10 (numeralEntero 10 d.toInt) ∧
      leerEntero 10 (numeralEntero 10 d.toInt) = d.toInt) ∧
    (Escrita (numeral 10 d.toNat) buf (itoa a buf SIN_SIGNO d) ∧ Canonico 10 (numeral 10 d.toNat) ∧
      leer 10 (numeral 10 d.toNat) = d.toNat) ∧
    (Escrita (numeral 16 d.toNat) buf (itoa a buf HEXA d) ∧ Canonico 16 (numeral 16 d.toNat) ∧
      leer 16 (numeral 16 d.toNat) = d.toNat) ∧
    ∀ base, (∀ j, 12 ≤ j → itoa a buf base d j = buf j) ∧ (llenar a base d).i ≤ 11 ∧
      ∀ j, 11 ≤ j → (llenar a base d).a j = a j := by
  refine ⟨⟨itoa_escrita a buf DECIMAL d, canonico_numeralEntero (by decide) (by decide) _,
    leerEntero_numeral (by decide) (by decide) _⟩, ⟨itoa_escrita a buf SIN_SIGNO d,
    canonico_numeral (by decide) (by decide) _, leer_numeral (by decide) (by decide) _⟩,
    ⟨itoa_escrita a buf HEXA d, canonico_numeral (by decide) (by decide) _,
    leer_numeral (by decide) (by decide) _⟩, fun base => ⟨fun j hj => ?_, ?_, fun j hj => ?_⟩⟩
  · have hlen := length_texto base d
    exact (itoa_escrita a buf base d).resto j (by omega)
  · rw [(llenar_spec a base d).1]
    exact length_texto base d
  · have hlen := length_texto base d
    exact (llenar_spec a base d).2.resto j (by omega)

end Silicio.Itoa
