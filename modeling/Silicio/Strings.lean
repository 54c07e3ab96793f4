import Silicio.Defs

/-!
The string functions of `stdio/stdio.c` that the task tables are filled with.

A string is the bytes from a pointer on. `strcpy` copies no terminator, so a copy shows where
it ends only if the bytes after it were zero; it copies at most `MAX_STRING` bytes, which is
what keeps names inside their fields.
-/

namespace Silicio.Strings

open Silicio.Loop Silicio.Bitmap Silicio.Defs

def strlen (str : ℕ → Byte) : ℕ :=
  let cont := scan (fun cont => str cont == 0#8) 0xffffffff 0
  if cont = 0xffffffff then 0 else cont

/-- The length copied, and the bytes of `destino` after the copy. -/
def strcpy (origen destino : ℕ → Byte) : ℕ × (ℕ → Byte) :=
  let largo := strlen origen
  if largo = 0 then (0, destino)
  else if largo > MAX_STRING then (0, destino)
  else (largo, loop (fun i destino => Function.update destino i (origen i)) largo destino)

def strcat (base agr : ℕ → Byte) : ℕ × (ℕ → Byte) :=
  let a := strlen base
  let b := strlen agr
  if (a + b) % 2 ^ 32 > MAX_STRING then (1, base)
  else
    let cola := (strcpy agr fun j => base (a + j)).2
    (0, fun j => if j < a then base j else cola (j - a))

/-- `ret` is not set where the strings differ: it is then whatever the stack held, `basura`. -/
def strcmp (basura : ℕ) (buf str : ℕ → Byte) : ℕ :=
  let lb := strlen buf
  let ls := strlen str
  if lb ≠ 0 ∧ ls ≠ 0 then
    if lb = ls then
      let i := scan (fun i => buf i == 0#8 || buf i != str i) lb 0
      if i = lb then 0 else basura
    else 1
  else 1

/-! ### Reading a string -/

/-- How many bytes `strlen` passes over: it looks at that many and at one more. -/
def contar (str : ℕ → Byte) : ℕ := scan (fun cont => str cont == 0#8) 0xffffffff 0

section
variable {s s' buf str : ℕ → Byte} {n : ℕ}

lemma strlen_eq (s : ℕ → Byte) : strlen s = if contar s = 0xffffffff then 0 else contar s := rfl

lemma contar_de_strlen (h : strlen s ≠ 0) : contar s = strlen s := by
  rw [strlen_eq] at h ⊢
  split at h
  · exact absurd rfl h
  · next hn => rw [if_neg hn]

lemma strlen_le_contar (s : ℕ → Byte) : strlen s ≤ contar s := by
  rw [strlen_eq]
  split <;> omega

lemma strlen_lt (s : ℕ → Byte) : strlen s < 0xffffffff := by
  have := scan_le (p := fun cont => s cont == 0#8) 0xffffffff 0
  rw [strlen_eq, contar]
  split <;> omega

lemma antes_contar {j : ℕ} (h : j < contar s) : s j ≠ 0 := by
  have := before_scan (p := fun cont => s cont == 0#8) (Nat.zero_le j) h
  simpa using this

lemma strlen_of (hn : n < 0xffffffff) (h0 : s n = 0) (hno : ∀ j < n, s j ≠ 0) : strlen s = n := by
  have hc : contar s = n := by
    refine scan_eq (Nat.zero_le n) (by omega) (fun j _ hj => ?_) fun _ => ?_
    · simpa using hno j hj
    · simpa using h0
  rw [strlen_eq, hc, if_neg (by omega)]

lemma contar_congr (h : ∀ j ≤ contar s, s' j = s j) : contar s' = contar s := by
  refine scan_eq (Nat.zero_le _) (scan_le _ _) (fun j _ hj => ?_) fun hlt => ?_
  · rw [h j hj.le]
    simpa using antes_contar hj
  · rw [h _ le_rfl]
    exact at_scan hlt

lemma strlen_congr (h : ∀ j ≤ contar s, s' j = s j) : strlen s' = strlen s := by
  rw [strlen_eq, strlen_eq, contar_congr h]

/-- **`strcmp` returns 0** for equal strings, and may for others of the same length. -/
lemma strcmp_eq_zero {basura : ℕ} : strcmp basura buf str = 0 ↔
    strlen buf ≠ 0 ∧ strlen buf = strlen str ∧
      ((∀ j < strlen buf, buf j = str j) ∨ basura = 0) := by
  unfold strcmp
  simp only
  by_cases hl : strlen buf ≠ 0 ∧ strlen str ≠ 0
  · rw [if_pos hl]
    by_cases he : strlen buf = strlen str
    · rw [if_pos he]
      have hiff : scan (fun i => buf i == 0#8 || buf i != str i) (strlen buf) 0 = strlen buf ↔
          ∀ j < strlen buf, buf j = str j := by
        constructor
        · intro hs j hj
          have := before_scan (p := fun i => buf i == 0#8 || buf i != str i) (n := strlen buf)
            (Nat.zero_le j) (by rwa [hs])
          simpa using (Bool.or_eq_false_iff.mp this).2
        · intro hall
          refine scan_eq (Nat.zero_le _) (by omega) (fun j _ hj => ?_) fun hlt => by omega
          have h0 := antes_contar (by rwa [contar_de_strlen hl.1] : j < contar buf)
          simpa [hall j hj] using hall j hj ▸ h0
      by_cases hs : scan (fun i => buf i == 0#8 || buf i != str i) (strlen buf) 0 = strlen buf
      · rw [if_pos hs]
        exact iff_of_true rfl ⟨hl.1, he, Or.inl (hiff.mp hs)⟩
      · rw [if_neg hs]
        exact ⟨fun hb => ⟨hl.1, he, Or.inr hb⟩, fun ⟨_, _, hb⟩ =>
          hb.resolve_left fun hall => hs (hiff.mpr hall)⟩
    · rw [if_neg he]
      exact ⟨fun h => absurd h one_ne_zero, fun h => absurd h.2.1 he⟩
  · rw [if_neg hl]
    refine ⟨fun h => absurd h one_ne_zero, fun h => absurd ⟨h.1, ?_⟩ hl⟩
    rw [← h.2.1]
    exact h.1

end

/-! ### Copies -/

lemma strcpy_apply (origen destino : ℕ → Byte) (j : ℕ) :
    (strcpy origen destino).2 j =
      if j < strlen origen ∧ strlen origen ≤ MAX_STRING then origen j else destino j := by
  unfold strcpy
  simp only
  split
  · next h => rw [if_neg (by omega)]
  · split
    · next h => rw [if_neg (by omega)]
    · next h =>
      simp only [loop_update]
      congr 1
      apply propext
      exact ⟨fun hj => ⟨hj, by omega⟩, fun hj => hj.1⟩

/-- **A copy stays inside a field of `MAX_STRING` bytes.** -/
theorem strcpy_dentro (origen destino : ℕ → Byte) {j : ℕ} (hj : MAX_STRING ≤ j) :
    (strcpy origen destino).2 j = destino j := by
  rw [strcpy_apply, if_neg (by omega)]

/-- **So does a string appended to one**, the sum of the lengths being one that does not
wrap. -/
theorem strcat_dentro (base agr : ℕ → Byte) (h : strlen base + strlen agr < 2 ^ 32) {j : ℕ}
    (hj : MAX_STRING ≤ j) : (strcat base agr).2 j = base j := by
  unfold strcat
  simp only
  split
  · rfl
  · next hle =>
    rw [Nat.mod_eq_of_lt h] at hle
    have hcola : (strcpy agr fun j => base (strlen base + j)).2 (j - strlen base) = base j := by
      rw [strcpy_apply, if_neg (by omega), show strlen base + (j - strlen base) = j by omega]
    simp only [hcola, ite_self]

end Silicio.Strings
