import Silicio.Bytes

/-!
The page walk of the processor: a directory and a table of 1024 entries each, found from
`cr3` and from the fields of a 32-bit virtual address.

Bits 0, 1 and 2 of an entry say that it is present, that it may be written through and that
user code may use it; user code may write where both entries have all three.
-/

namespace Silicio.Mmu

open Silicio.Bytes

def pde (m : Mem) (cr3 v : ℕ) : ℕ := rd32 m ((cr3 &&& 0xfffff000) + 4 * (v >>> 22))

def pte (m : Mem) (cr3 v : ℕ) : ℕ :=
  rd32 m ((pde m cr3 v &&& 0xfffff000) + 4 * ((v >>> 12) &&& 0x3ff))

def phys (m : Mem) (cr3 v : ℕ) : ℕ := (pte m cr3 v &&& 0xfffff000) + (v &&& 0xfff)

def Present (e : ℕ) : Prop := e &&& 1 = 1
def Supervisor (e : ℕ) : Prop := e &&& 4 = 0

/-- User code may write at `v`. -/
def UserWrite (m : Mem) (cr3 v : ℕ) : Prop := pde m cr3 v &&& 7 = 7 ∧ pte m cr3 v &&& 7 = 7

instance (m : Mem) (cr3 v : ℕ) : Decidable (UserWrite m cr3 v) :=
  inferInstanceAs (Decidable (_ ∧ _))

lemma and_one (e : ℕ) : e &&& 1 = e % 2 := Nat.and_two_pow_sub_one_eq_mod e 1

lemma and_four_eq_zero {e : ℕ} (h : e % 8 < 4) : e &&& 4 = 0 := by
  refine Nat.eq_of_testBit_eq fun i => ?_
  rw [Nat.testBit_and, Nat.zero_testBit, show (4 : ℕ) = 2 ^ 2 by rfl, Nat.testBit_two_pow]
  rcases eq_or_ne 2 i with rfl | hne
  · have h2 : e.testBit 2 = false := by
      rw [Nat.testBit_eq_decide_div_mod_eq]
      have : e / 2 ^ 2 % 2 = 0 := by omega
      rw [this]
      rfl
    simp [h2]
  · simp [hne]

lemma pde_lt (m : Mem) (cr3 v : ℕ) : pde m cr3 v < 2 ^ 32 := rd32_lt _ _
lemma pte_lt (m : Mem) (cr3 v : ℕ) : pte m cr3 v < 2 ^ 32 := rd32_lt _ _

lemma pde_eq {m : Mem} {cr3 d v : ℕ} (hd : d < 2 ^ 20) (hcr3 : cr3 / 4096 = d) :
    pde m cr3 v = word m d (v / 2 ^ 22) := by
  rw [pde, and_page_mask (by omega), hcr3, Nat.shiftRight_eq_div_pow, word]
  congr 1
  ring

lemma pte_eq {m : Mem} {cr3 v t : ℕ} (ht : pde m cr3 v / 4096 = t) :
    pte m cr3 v = word m t (v / 4096 % 1024) := by
  rw [pte, and_page_mask (pde_lt _ _ _), ht, Nat.shiftRight_eq_div_pow, and_index_mask, word]
  congr 1
  ring

lemma phys_eq (m : Mem) (cr3 v : ℕ) : phys m cr3 v = pte m cr3 v / 4096 * 4096 + v % 4096 := by
  rw [phys, and_page_mask (pte_lt _ _ _), and_page_offset]

lemma phys_lt (m : Mem) (cr3 v : ℕ) : phys m cr3 v < 2 ^ 32 := by
  have := pte_lt m cr3 v
  rw [phys_eq]
  omega

lemma userWrite_iff {m : Mem} {cr3 v : ℕ} :
    UserWrite m cr3 v ↔ pde m cr3 v % 8 = 7 ∧ pte m cr3 v % 8 = 7 := by
  rw [UserWrite, and_seven, and_seven]

end Silicio.Mmu
