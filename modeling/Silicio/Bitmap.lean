import Silicio.Loop

/-!
Bitmaps: a set of numbers kept as an array of bytes, eight members a byte.

The bit of `p` is bit `p % 8` of byte `p / 8`. Setting and clearing a bit are read as
adding and removing one member, and the search for a clear bit that goes byte by byte and
then bit by bit is read as a search for the least number missing from the set. The
lemmas on promoted masks are for C, where a byte is widened to 32 bits before a bit
operation, with its sign when it is a `char`.
-/

namespace Silicio.Bitmap

open Silicio.Loop

abbrev Byte := BitVec 8

def bit (m : ℕ → Byte) (p : ℕ) : Bool := (m (p / 8)).getLsbD (p % 8)

def mark (m : ℕ → Byte) (p : ℕ) : ℕ → Byte :=
  Function.update m (p / 8) (m (p / 8) ||| 1#8 <<< (p % 8))

def erase (m : ℕ → Byte) (p : ℕ) : ℕ → Byte :=
  Function.update m (p / 8) (m (p / 8) &&& ~~~(1#8 <<< (p % 8)))

lemma getLsbD_mask {k j : ℕ} (hj : j < 8) : (1#8 <<< k).getLsbD j = decide (j = k) := by
  rw [← BitVec.twoPow_eq, BitVec.getLsbD_twoPow]
  rcases eq_or_ne j k with rfl | h
  · simp [hj]
  · simp [h, h.symm]

@[simp] lemma bit_mark (m : ℕ → Byte) (p q : ℕ) :
    bit (mark m p) q = (bit m q || decide (q = p)) := by
  have hq : q % 8 < 8 := Nat.mod_lt _ (by decide)
  rcases eq_or_ne (q / 8) (p / 8) with h | h
  · have hqp : (q % 8 = p % 8) = (q = p) := by
      apply propext
      omega
    simp only [bit, mark, h, Function.update_self, BitVec.getLsbD_or, getLsbD_mask hq, hqp]
  · have hne : q ≠ p := fun e => h (by rw [e])
    simp [bit, mark, h, hne]

@[simp] lemma bit_erase (m : ℕ → Byte) (p q : ℕ) :
    bit (erase m p) q = (bit m q && decide (q ≠ p)) := by
  have hq : q % 8 < 8 := Nat.mod_lt _ (by decide)
  rcases eq_or_ne (q / 8) (p / 8) with h | h
  · have hqp : (q % 8 = p % 8) = (q = p) := by
      apply propext
      omega
    simp only [bit, erase, h, Function.update_self, BitVec.getLsbD_and, BitVec.getLsbD_not,
      getLsbD_mask hq, hqp, hq]
    simp
  · have hne : q ≠ p := fun e => h (by rw [e])
    simp [bit, erase, h, hne]

lemma byte_full {m : ℕ → Byte} {i : ℕ} :
    m i = 0xff#8 ↔ ∀ p, 8 * i ≤ p → p < 8 * i + 8 → bit m p = true := by
  constructor
  · intro h p h1 h2
    have hp : p / 8 = i := by omega
    have hlt : p % 8 < 8 := Nat.mod_lt _ (by decide)
    rw [bit, hp, h, show (0xff#8) = BitVec.allOnes 8 by decide, BitVec.getLsbD_allOnes]
    simpa using hlt
  · intro h
    refine BitVec.eq_of_getLsbD_eq fun j hj => ?_
    have := h (8 * i + j) (by omega) (by omega)
    rw [bit, show (8 * i + j) / 8 = i by omega, show (8 * i + j) % 8 = j by omega] at this
    rw [this, show (0xff#8) = BitVec.allOnes 8 by decide, BitVec.getLsbD_allOnes]
    simpa using hj

/-! ### Masks as C computes them -/

lemma getLsbD_signExtend_low (b : Byte) {j : ℕ} (hj : j < 8) :
    (b.signExtend 32).getLsbD j = b.getLsbD j := by
  simp only [BitVec.getLsbD_signExtend, hj, show j < 32 by omega, decide_true, Bool.true_and,
    if_true]

/-- `(1 << k) & b`, the mask a `char` and so widened with its sign. -/
lemma and_char_eq_zero {b : Byte} {k : ℕ} (hk : k < 8) :
    b.setWidth 32 &&& (1#8 <<< k).signExtend 32 = 0#32 ↔ b.getLsbD k = false := by
  constructor
  · intro h
    have := congrArg (fun x => x.getLsbD k) h
    simpa only [BitVec.getLsbD_and, BitVec.getLsbD_setWidth, getLsbD_signExtend_low _ hk,
      getLsbD_mask hk, show k < 32 by omega, decide_true, Bool.true_and, Bool.and_true,
      BitVec.getLsbD_zero] using this
  · intro h
    refine BitVec.eq_of_getLsbD_eq fun j hj => ?_
    rw [BitVec.getLsbD_and, BitVec.getLsbD_setWidth, BitVec.getLsbD_zero]
    by_cases hj8 : j < 8
    · rw [getLsbD_signExtend_low _ hj8, getLsbD_mask hj8]
      rcases eq_or_ne j k with rfl | hne
      · simp only [h, Bool.and_false, Bool.false_and]
      · simp only [hne, decide_false, Bool.and_false]
    · rw [BitVec.getLsbD_of_ge b j (by omega), Bool.and_false, Bool.false_and]

/-- `(1 << k) & b`, the mask an `int`. -/
lemma and_int_eq_zero {b : Byte} {k : ℕ} (hk : k < 8) :
    b.setWidth 32 &&& 1#32 <<< k = 0#32 ↔ b.getLsbD k = false := by
  rw [← BitVec.twoPow_eq]
  constructor
  · intro h
    have := congrArg (fun x => x.getLsbD k) h
    simpa only [BitVec.getLsbD_and, BitVec.getLsbD_setWidth, BitVec.getLsbD_twoPow,
      show k < 32 by omega, decide_true, Bool.true_and, Bool.and_true, BitVec.getLsbD_zero]
      using this
  · intro h
    refine BitVec.eq_of_getLsbD_eq fun j hj => ?_
    rw [BitVec.getLsbD_and, BitVec.getLsbD_setWidth, BitVec.getLsbD_zero, BitVec.getLsbD_twoPow]
    rcases eq_or_ne k j with rfl | hne
    · simp only [h, Bool.and_false, Bool.false_and]
    · simp only [hne, decide_false, Bool.and_false]

/-- `b | mask` stored back in a byte. -/
lemma or_char (b mask : Byte) :
    (b.setWidth 32 ||| mask.signExtend 32).setWidth 8 = b ||| mask := by
  refine BitVec.eq_of_getLsbD_eq fun j hj => ?_
  simp only [BitVec.getLsbD_setWidth, BitVec.getLsbD_or, getLsbD_signExtend_low _ hj, hj,
    show j < 32 by omega, decide_true, Bool.true_and]

/-- `b & ~mask` stored back in a byte. -/
lemma and_not_char (b mask : Byte) :
    (b.setWidth 32 &&& ~~~(mask.signExtend 32)).setWidth 8 = b &&& ~~~mask := by
  refine BitVec.eq_of_getLsbD_eq fun j hj => ?_
  simp only [BitVec.getLsbD_setWidth, BitVec.getLsbD_and, BitVec.getLsbD_not,
    getLsbD_signExtend_low _ hj, hj, show j < 32 by omega, decide_true, Bool.true_and]

/-! ### First fit -/

lemma scan_full {m : ℕ → Byte} {n a : ℕ} (h : scan (fun i => m i != 0xff#8) n a = a + n) :
    ∀ p, 8 * a ≤ p → p < 8 * (a + n) → bit m p = true := by
  intro p h1 h2
  have hno := before_scan (p := fun i => m i != 0xff#8) (n := n) (i := a) (j := p / 8)
    (by omega) (by omega)
  have hfull : m (p / 8) = 0xff#8 := by simpa using hno
  exact byte_full.mp hfull p (by omega) (by omega)

lemma bit_scan {m : ℕ → Byte} {i : ℕ} (h : m i ≠ 0xff#8) :
    scan (fun j => !bit m (8 * i + j)) 8 0 < 8 := by
  have : ∃ j, 0 ≤ j ∧ j < 0 + 8 ∧ (fun j => !bit m (8 * i + j)) j = true := by
    by_contra hc
    refine h (byte_full.mpr fun p h1 h2 => ?_)
    by_contra hp
    refine hc ⟨p - 8 * i, by omega, by omega, ?_⟩
    simpa [show 8 * i + (p - 8 * i) = p by omega] using hp
  simpa using scan_lt_iff.mpr this

/-- **First fit**: byte by byte, then bit by bit, the search ends at the least number of the
range that is not a member. -/
theorem first_fit {m : ℕ → Byte} {n a i : ℕ} (hi : scan (fun i => m i != 0xff#8) n a = i)
    (hlt : i < a + n) :
    IsLeast {p | 8 * a ≤ p ∧ p < 8 * (a + n) ∧ bit m p = false}
      (8 * i + scan (fun j => !bit m (8 * i + j)) 8 0) := by
  have hai : a ≤ i := hi ▸ le_scan n a
  have hne : m i ≠ 0xff#8 := by
    have := at_scan (p := fun i => m i != 0xff#8) (n := n) (i := a) (by omega)
    rw [hi] at this
    simpa using this
  have hlt8 := bit_scan hne
  have hclear := at_scan (p := fun j => !bit m (8 * i + j)) (n := 8) (i := 0) (by omega)
  refine ⟨⟨by omega, by omega, by simpa using hclear⟩, ?_⟩
  rintro p ⟨h1, h2, hp⟩
  by_contra hc
  rcases Nat.lt_or_ge p (8 * i) with hlow | hlow
  · have hno := before_scan (p := fun i => m i != 0xff#8) (n := n) (i := a) (j := p / 8)
      (by omega) (by omega)
    have hfull : m (p / 8) = 0xff#8 := by simpa using hno
    rw [byte_full.mp hfull p (by omega) (by omega)] at hp
    cases hp
  · have hno := before_scan (p := fun j => !bit m (8 * i + j)) (n := 8) (i := 0) (j := p - 8 * i)
      (by omega) (by omega)
    rw [show 8 * i + (p - 8 * i) = p by omega, hp] at hno
    cases hno

end Silicio.Bitmap
