import Silicio.Bitmap

/-!
A 32-bit address space of bytes, read and written by bytes and by little-endian words.

An address is taken modulo `2 ^ 32`, so every access is defined and pointer arithmetic wraps
as it does on the machine. Pages of 4096 bytes are also read as tables of 1024 words; the
lemmas on `word` and `setWord` are all a proof about page tables needs.
-/

namespace Silicio.Bytes

open Silicio.Loop Silicio.Bitmap

abbrev Mem := ℕ → Byte

def rd8 (m : Mem) (a : ℕ) : Byte := m (a % 2 ^ 32)

def wr8 (m : Mem) (a : ℕ) (b : Byte) : Mem := Function.update m (a % 2 ^ 32) b

def rd32 (m : Mem) (a : ℕ) : ℕ :=
  (rd8 m a).toNat + 2 ^ 8 * (rd8 m (a + 1)).toNat + 2 ^ 16 * (rd8 m (a + 2)).toNat +
    2 ^ 24 * (rd8 m (a + 3)).toNat

def wr32 (m : Mem) (a v : ℕ) : Mem :=
  wr8 (wr8 (wr8 (wr8 m a (BitVec.ofNat 8 v)) (a + 1) (BitVec.ofNat 8 (v / 2 ^ 8))) (a + 2)
    (BitVec.ofNat 8 (v / 2 ^ 16))) (a + 3) (BitVec.ofNat 8 (v / 2 ^ 24))

lemma rd8_mod (m : Mem) (a : ℕ) : rd8 m (a % 2 ^ 32) = rd8 m a := by
  rw [rd8, rd8, Nat.mod_mod]

lemma rd8_wr8 (m : Mem) (a b : ℕ) (v : Byte) :
    rd8 (wr8 m a v) b = if b % 2 ^ 32 = a % 2 ^ 32 then v else rd8 m b := by
  simp only [rd8, wr8, Function.update_apply]

lemma rd8_wr8_of_ne {m : Mem} {a b : ℕ} {v : Byte} (h : b % 2 ^ 32 ≠ a % 2 ^ 32) :
    rd8 (wr8 m a v) b = rd8 m b := by
  rw [rd8_wr8, if_neg h]

lemma rd32_lt (m : Mem) (a : ℕ) : rd32 m a < 2 ^ 32 := by
  have h0 := (rd8 m a).isLt
  have h1 := (rd8 m (a + 1)).isLt
  have h2 := (rd8 m (a + 2)).isLt
  have h3 := (rd8 m (a + 3)).isLt
  unfold rd32
  omega

lemma rd32_congr {m m' : Mem} {a : ℕ} (h : ∀ k < 4, rd8 m (a + k) = rd8 m' (a + k)) :
    rd32 m a = rd32 m' a := by
  have h0 := h 0 (by decide)
  rw [Nat.add_zero] at h0
  rw [rd32, rd32, h0, h 1 (by decide), h 2 (by decide), h 3 (by decide)]

lemma rd8_wr32_self (m : Mem) (a v : ℕ) {k : ℕ} (hk : k < 4) :
    rd8 (wr32 m a v) (a + k) = BitVec.ofNat 8 (v / 2 ^ (8 * k)) := by
  have h : k = 0 ∨ k = 1 ∨ k = 2 ∨ k = 3 := by omega
  rcases h with rfl | rfl | rfl | rfl
  · rw [wr32, rd8_wr8_of_ne (by omega), rd8_wr8_of_ne (by omega), rd8_wr8_of_ne (by omega),
      rd8_wr8, if_pos (by omega)]
    simp
  · rw [wr32, rd8_wr8_of_ne (by omega), rd8_wr8_of_ne (by omega), rd8_wr8, if_pos rfl]
  · rw [wr32, rd8_wr8_of_ne (by omega), rd8_wr8, if_pos rfl]
  · rw [wr32, rd8_wr8, if_pos rfl]

lemma rd8_wr32_of_ne {m : Mem} {a b v : ℕ} (h : ∀ k < 4, b % 2 ^ 32 ≠ (a + k) % 2 ^ 32) :
    rd8 (wr32 m a v) b = rd8 m b := by
  have h0 := h 0 (by decide)
  rw [Nat.add_zero] at h0
  rw [wr32, rd8_wr8_of_ne (h 3 (by decide)), rd8_wr8_of_ne (h 2 (by decide)),
    rd8_wr8_of_ne (h 1 (by decide)), rd8_wr8_of_ne h0]

lemma rd8_wr32_of_disjoint {m : Mem} {a b v : ℕ} (ha : a + 4 ≤ 2 ^ 32) (hb : b < 2 ^ 32)
    (h : b < a ∨ a + 4 ≤ b) : rd8 (wr32 m a v) b = rd8 m b :=
  rd8_wr32_of_ne fun k hk => by
    rw [Nat.mod_eq_of_lt hb, Nat.mod_eq_of_lt (by omega)]
    omega

/-- **A word is read back as it was stored.** -/
theorem rd32_wr32_self (m : Mem) (a v : ℕ) : rd32 (wr32 m a v) a = v % 2 ^ 32 := by
  have h0 := rd8_wr32_self m a v (show 0 < 4 by decide)
  rw [Nat.add_zero] at h0
  rw [rd32, h0, rd8_wr32_self m a v (show 1 < 4 by decide),
    rd8_wr32_self m a v (show 2 < 4 by decide), rd8_wr32_self m a v (show 3 < 4 by decide)]
  simp only [BitVec.toNat_ofNat]
  omega

lemma rd32_wr32_of_disjoint {m : Mem} {a b v : ℕ} (ha : a + 4 ≤ 2 ^ 32) (hb : b + 4 ≤ 2 ^ 32)
    (h : b + 4 ≤ a ∨ a + 4 ≤ b) : rd32 (wr32 m a v) b = rd32 m b :=
  rd32_congr fun k hk => rd8_wr32_of_ne fun l hl => by omega

lemma ofNat_rd32 (m : Mem) (a : ℕ) {i : ℕ} (hi : i < 4) :
    BitVec.ofNat 8 (rd32 m a / 2 ^ (8 * i)) = rd8 m (a + i) := by
  have h0 := (rd8 m a).isLt
  have h1 := (rd8 m (a + 1)).isLt
  have h2 := (rd8 m (a + 2)).isLt
  have h3 := (rd8 m (a + 3)).isLt
  apply BitVec.eq_of_toNat_eq
  rw [BitVec.toNat_ofNat]
  unfold rd32
  have h : i = 0 ∨ i = 1 ∨ i = 2 ∨ i = 3 := by omega
  rcases h with rfl | rfl | rfl | rfl
  · rw [show a + 0 = a from rfl]
    omega
  · omega
  · omega
  · omega

lemma rd8_wr32_igual {v a : ℕ} (h : rd32 m a = v) (x : ℕ) : rd8 (wr32 m a v) x = rd8 m x := by
  by_cases hx : ∃ i < 4, x % 2 ^ 32 = (a + i) % 2 ^ 32
  · obtain ⟨i, hi, he⟩ := hx
    have hmod : ∀ m : Mem, rd8 m x = rd8 m (a + i) := fun m => congrArg m he
    rw [hmod, hmod, rd8_wr32_self m a v hi, ← h, ofNat_rd32 m a hi]
  · simp only [not_exists, not_and] at hx
    exact rd8_wr32_of_ne hx

/-! ### Pages as tables of words -/

def word (m : Mem) (p i : ℕ) : ℕ := rd32 m (4096 * p + 4 * i)

def setWord (m : Mem) (p i v : ℕ) : Mem := wr32 m (4096 * p + 4 * i) v

lemma word_lt (m : Mem) (p i : ℕ) : word m p i < 2 ^ 32 := rd32_lt _ _

lemma word_setWord_self (m : Mem) (p i v : ℕ) : word (setWord m p i v) p i = v % 2 ^ 32 :=
  rd32_wr32_self _ _ _

lemma word_setWord_of_ne {m : Mem} {p i q j v : ℕ} (hp : p < 2 ^ 20) (hi : i < 1024)
    (hq : q < 2 ^ 20) (hj : j < 1024) (h : q ≠ p ∨ j ≠ i) :
    word (setWord m p i v) q j = word m q j :=
  rd32_wr32_of_disjoint (by omega) (by omega) (by omega)

lemma rd8_setWord {m : Mem} {p i v a : ℕ} (hp : p < 2 ^ 20) (hi : i < 1024) (ha : a < 2 ^ 32)
    (h : a / 4096 ≠ p) : rd8 (setWord m p i v) a = rd8 m a :=
  rd8_wr32_of_ne fun k hk => by omega

/-- Words `0 .. n - 1` of page `p` stored one after the other, each value computed from the
memory so far. -/
def fill (p : ℕ) (f : ℕ → Mem → ℕ) (n : ℕ) (m : Mem) : Mem :=
  loop (fun i m => setWord m p i (f i m)) n m

/-- What a page holds after its first `n` words have been stored, when the values stored do
not depend on the page itself. -/
theorem word_fill {p n : ℕ} {f : ℕ → Mem → ℕ} {g : ℕ → ℕ} {m : Mem} (hp : p < 2 ^ 20)
    (hn : n ≤ 1024)
    (hf : ∀ i < n, ∀ m', (∀ q < 2 ^ 20, q ≠ p → ∀ j < 1024, word m' q j = word m q j) →
      f i m' = g i) {q j : ℕ} (hq : q < 2 ^ 20) (hj : j < 1024) :
    word (fill p f n m) q j = if q = p ∧ j < n then g j % 2 ^ 32 else word m q j := by
  have key : ∀ q < 2 ^ 20, ∀ j < 1024,
      word (fill p f n m) q j = if q = p ∧ j < n then g j % 2 ^ 32 else word m q j := by
    unfold fill
    refine loop_rule (fun k m' => ∀ q < 2 ^ 20, ∀ j < 1024,
      word m' q j = if q = p ∧ j < k then g j % 2 ^ 32 else word m q j) ?_ ?_
    · simp
    · intro i hi m' ih q hq j hj
      have hfi : f i m' = g i := hf i hi m' fun q hq hne j hj => by
        rw [ih q hq j hj, if_neg (by tauto)]
      by_cases h : q = p ∧ j = i
      · obtain ⟨rfl, rfl⟩ := h
        rw [word_setWord_self, hfi, if_pos ⟨rfl, by omega⟩]
      · rw [word_setWord_of_ne hp (by omega) hq hj (by tauto), ih q hq j hj]
        congr 1
        apply propext
        constructor
        · exact fun ⟨h1, h2⟩ => ⟨h1, by omega⟩
        · exact fun ⟨h1, h2⟩ => ⟨h1, by
            have : j ≠ i := fun e => h ⟨h1, e⟩
            omega⟩
  exact key q hq j hj

lemma rd8_fill {p n : ℕ} {f : ℕ → Mem → ℕ} {m : Mem} (hp : p < 2 ^ 20) (hn : n ≤ 1024) {a : ℕ}
    (ha : a < 2 ^ 32) (h : a / 4096 ≠ p) : rd8 (fill p f n m) a = rd8 m a := by
  unfold fill
  refine loop_rule (fun _ m' => rd8 m' a = rd8 m a) rfl ?_
  intro i hi m' ih
  rw [rd8_setWord hp (by omega) ha h, ih]

/-! ### Copying -/

/-- `n` bytes copied from `src` to `dst`, one after the other from the lowest. -/
def copy (src dst n : ℕ) (m : Mem) : Mem :=
  loop (fun i m => wr8 m (dst + i) (rd8 m (src + i))) n m

def above (a b : ℕ) : ℕ := (a + (2 ^ 32 - b % 2 ^ 32)) % 2 ^ 32

/-- **What a copy leaves**: where the two ranges overlap the copy reads its own output, so the
bytes up to `dst` repeat. -/
theorem rd8_copy {src dst n : ℕ} (hn : n ≤ 2 ^ 32) (m : Mem) (a : ℕ) :
    rd8 (copy src dst n m) a =
      if above a dst < n then rd8 m (src + above a dst % above dst src) else rd8 m a := by
  induction n generalizing a with
  | zero => rw [copy, loop_zero, if_neg (Nat.not_lt_zero _)]
  | succ n ih =>
    have hstep : rd8 (copy src dst (n + 1) m) a = if a % 2 ^ 32 = (dst + n) % 2 ^ 32 then
        rd8 (copy src dst n m) (src + n) else rd8 (copy src dst n m) a := by
      unfold copy
      rw [loop_succ, rd8_wr8]
    have hat : a % 2 ^ 32 = (dst + n) % 2 ^ 32 ↔ above a dst = n := by
      unfold above
      omega
    rw [hstep]
    by_cases ha : above a dst = n
    · rw [if_pos (hat.mpr ha), if_pos (by omega), ih (by omega), ha]
      -- the byte read last: written before, if the source has run into the destination
      have hback : above (src + n) dst = (n + (2 ^ 32 - above dst src)) % 2 ^ 32 := by
        unfold above
        omega
      have hlt : above dst src < 2 ^ 32 := Nat.mod_lt _ (by decide)
      generalize above dst src = δ at hback hlt ⊢
      rw [hback]
      rcases Nat.lt_or_ge n δ with h | h
      · rw [if_neg (by omega), Nat.mod_eq_of_lt h]
      · rcases Nat.eq_zero_or_pos δ with rfl | hpos
        · rw [if_neg (by omega), Nat.mod_zero]
        · rw [if_pos (by omega), show (n + (2 ^ 32 - δ)) % 2 ^ 32 = n - δ by omega,
            Nat.mod_eq_sub_mod h]
    · rw [if_neg fun h => ha (hat.mp h), ih (by omega)]
      congr 1
      apply propext
      omega

/-- The `n` bytes from `x` on and the `m` bytes from `y` on have no byte in common. -/
def Apart (x n y m : ℕ) : Prop := ∀ i < n, ∀ j < m, (x + i) % 2 ^ 32 ≠ (y + j) % 2 ^ 32

lemma Apart.mono {x n y m n' m' : ℕ} (h : Apart x n y m) (hn : n' ≤ n) (hm : m' ≤ m) :
    Apart x n' y m' := fun i hi j hj => h i (hi.trans_le hn) j (hj.trans_le hm)

lemma rd8_copy_of_ne {src dst n : ℕ} (hn : n ≤ 2 ^ 32) {m : Mem} {a : ℕ}
    (h : ∀ j < n, a % 2 ^ 32 ≠ (dst + j) % 2 ^ 32) : rd8 (copy src dst n m) a = rd8 m a := by
  rw [rd8_copy hn, if_neg]
  intro hlt
  refine h _ hlt ?_
  unfold above
  omega

/-- **Between ranges that do not overlap a copy is a copy.** -/
theorem rd8_copy_self {src dst n : ℕ} (hn : n ≤ 2 ^ 32) {m : Mem} (h : Apart src n dst n) {j : ℕ}
    (hj : j < n) : rd8 (copy src dst n m) (dst + j) = rd8 m (src + j) := by
  have habove : above (dst + j) dst = j := by
    unfold above
    omega
  -- the source would have to run into the destination
  have hfar : j < above dst src := by
    by_contra hc
    refine h (above dst src) (by omega) 0 (by omega) ?_
    unfold above
    omega
  rw [rd8_copy hn, habove, if_pos hj, Nat.mod_eq_of_lt hfar]

/-! ### Fields of a word -/

lemma and_page_mask {x : ℕ} (hx : x < 2 ^ 32) : x &&& 0xfffff000 = x / 4096 * 4096 := by
  have h : x &&& 0xfffff000 = x >>> 12 <<< 12 := by
    refine Nat.eq_of_testBit_eq fun i => ?_
    rw [Nat.testBit_and, Nat.testBit_shiftLeft, Nat.testBit_shiftRight,
      show (0xfffff000 : ℕ) = (2 ^ 20 - 1) <<< 12 by decide, Nat.testBit_shiftLeft,
      Nat.testBit_two_pow_sub_one]
    by_cases h1 : 12 ≤ i
    · rw [show 12 + (i - 12) = i by omega]
      by_cases h2 : i - 12 < 20
      · simp [h1, h2]
      · have : x.testBit i = false :=
          Nat.testBit_lt_two_pow (lt_of_lt_of_le hx (Nat.pow_le_pow_right (by decide) (by omega)))
        simp [this]
    · simp [h1]
  rw [h, Nat.shiftLeft_eq, Nat.shiftRight_eq_div_pow]

lemma and_seven (x : ℕ) : x &&& 7 = x % 8 := Nat.and_two_pow_sub_one_eq_mod x 3

lemma and_page_offset (x : ℕ) : x &&& 0xfff = x % 4096 := Nat.and_two_pow_sub_one_eq_mod x 12

lemma and_index_mask (x : ℕ) : x &&& 0x3ff = x % 1024 := Nat.and_two_pow_sub_one_eq_mod x 10

lemma or_seven (x : ℕ) : x ||| 7 = x / 8 * 8 + 7 := by
  have h := Nat.two_pow_add_eq_or_of_lt (show 7 < 2 ^ 3 by decide) (x / 8)
  have e : x ||| 7 = 2 ^ 3 * (x / 8) ||| 7 := by
    refine Nat.eq_of_testBit_eq fun i => ?_
    rw [Nat.testBit_or, Nat.testBit_or, Nat.mul_comm, ← Nat.shiftLeft_eq, Nat.testBit_shiftLeft,
      show x / 8 = x >>> 3 from (Nat.shiftRight_eq_div_pow x 3).symm, Nat.testBit_shiftRight]
    by_cases hi : 3 ≤ i
    · rw [show 3 + (i - 3) = i by omega]
      simp [hi]
    · have h7 : (7 : ℕ).testBit i = true := by
        have : i = 0 ∨ i = 1 ∨ i = 2 := by omega
        rcases this with rfl | rfl | rfl <;> decide
      simp [h7]
  rw [e, ← h]
  omega

end Silicio.Bytes
