import Silicio.Mm

/-!
`testmem`: how much memory there is, and that asking does no harm.

A byte is probed by storing a 1 and looking whether it is there; a byte of memory is put back before
the next is probed. Three searches, each from the last byte that answered in the search before: by
megabytes, by kilobytes and by bytes. What answers where there is no memory may be anything but a 1,
and another thing each time.
-/

namespace Silicio.Sizing

open Silicio.Loop Silicio.Bitmap Silicio.Defs Silicio.Mm

abbrev BYTE : ℕ := 1
abbrev KILOBYTES : ℕ := 1024

/-- A machine with `n` bytes of memory; `eco t a` is what a read of address `a` finds above them
after `t` writes. -/
structure Bus where
  n : ℕ
  eco : ℕ → ℕ → Byte
  eco_ne : ∀ t a, eco t a ≠ 1

structure Ram where
  mem : ℕ → Byte
  reloj : ℕ

def Bus.lee (b : Bus) (a : ℕ) (r : Ram) : Byte := if a < b.n then r.mem a else b.eco r.reloj a

def Bus.pone (b : Bus) (a : ℕ) (v : Byte) (r : Ram) : Ram :=
  ⟨if a < b.n then Function.update r.mem a v else r.mem, r.reloj + 1⟩

structure Sonda where
  i : ℕ
  aux : Byte
  ram : Ram

/-- `aux = *i; *i = 1;` -/
def probar (b : Bus) (s : Sonda) : Sonda :=
  { s with aux := b.lee s.i s.ram, ram := b.pone s.i 1 s.ram }

/-- The body of the `while`. -/
def avanzar (b : Bus) (salto : ℕ) (s : Sonda) : Sonda :=
  probar b { s with ram := b.pone s.i s.aux s.ram, i := (s.i + salto) % 2 ^ 32 }

def salto (ciclo : ℕ) : ℕ :=
  if ciclo = 0 then MEGABYTES else if ciclo = 1 then KILOBYTES else BYTE

/-- A turn of the `for`, at most `fuel` tests of its `while`. -/
def buscar (b : Bus) (fuel : ℕ) (s : Sonda) (ciclo : ℕ) : Option Sonda :=
  (mientras (fun s => b.lee s.i s.ram = 1) (avanzar b (salto ciclo)) fuel (probar b s)).map fun s =>
    { s with i := (s.i + 2 ^ 32 - salto ciclo) % 2 ^ 32 }

def testmem (b : Bus) (kernelFin fuel : ℕ) (r : Ram) : Option (ℕ × Ram) :=
  ((List.range 3).foldlM (buscar b fuel) ⟨kernelFin, 0, r⟩).map fun s =>
    ((s.i + 1) % 2 ^ 32 / PAG_LEN, s.ram)

/-- `ini_mm`, from the measure on. -/
def iniMmMide (b : Bus) (kernelFin fuel : ℕ) (mm : Mm) (r : Ram) : Option (Mm × Ram) :=
  (testmem b kernelFin fuel r).map fun p => (iniMm kernelFin p.1 mm, p.2)

variable {b : Bus} {s : Sonda} {m : ℕ → Byte} {i d n fuel k : ℕ}

/-! ### One probe -/

/-- A probe of memory `m`: the byte under it is kept aside, and all others are as they were. -/
structure Sondada (b : Bus) (m : ℕ → Byte) (s : Sonda) : Prop where
  dentro : s.i < b.n → s.aux = m s.i ∧ s.ram.mem = Function.update m s.i 1
  fuera : b.n ≤ s.i → s.ram.mem = m

lemma sondada_probar (h : s.ram.mem = m) : Sondada b m (probar b s) := by
  refine ⟨fun hlt => ⟨?_, ?_⟩, fun hge => ?_⟩
  · exact (if_pos hlt).trans (congrFun h s.i)
  · exact (if_pos hlt).trans (by rw [h]; rfl)
  · exact (if_neg (Nat.not_lt.mpr hge)).trans h

lemma Sondada.lee_iff (h : Sondada b m s) : b.lee s.i s.ram = 1 ↔ s.i < b.n := by
  unfold Bus.lee
  by_cases hlt : s.i < b.n
  · rw [if_pos hlt, (h.dentro hlt).2, Function.update_self]
    exact iff_of_true rfl hlt
  · rw [if_neg hlt]
    exact iff_of_false (b.eco_ne _ _) hlt

lemma Sondada.avanzar (h : Sondada b m s) (hlt : s.i < b.n) (n : ℕ) :
    Sondada b m (avanzar b n s) := by
  obtain ⟨haux, hmem⟩ := h.dentro hlt
  refine sondada_probar ?_
  -- the byte is put back
  refine (if_pos hlt).trans ?_
  rw [hmem, haux, Function.update_idem, Function.update_eq_self]

/-! ### One search -/

/-- **A search** by steps of `n` ends with memory as it was, at the first place it comes to that does
not answer. -/
lemma mientras_sonda (h : Sondada b m s) (hin : s.i < b.n) (hn : 0 < n) (hb : b.n + n ≤ 2 ^ 32)
    (hd : b.n ≤ s.i + n * d) : ∃ t : Sonda,
    (∀ fuel > d, mientras (fun s => b.lee s.i s.ram = 1) (Sizing.avanzar b n) fuel s = some t) ∧
      t.ram.mem = m ∧ b.n ≤ t.i ∧ t.i < b.n + n ∧ s.i + n ≤ t.i := by
  -- `d` turns are enough from here, and the place is that of the start or a step after it
  obtain ⟨t, ht, ⟨d', hs, hlt, -, hfrom⟩, hno⟩ := mientras_rule
    (fun s => b.lee s.i s.ram = 1) (Sizing.avanzar b n)
    (fun d t => Sondada b m t ∧ t.i < b.n + n ∧ b.n ≤ t.i + n * d ∧ (t.i = s.i ∨ s.i + n ≤ t.i))
    (fun t ⟨hs, _, hd, _⟩ hp => by
      have := hs.lee_iff.mp hp
      omega)
    (fun d t ⟨hs, hlt, hd, hfrom⟩ hp => by
      have hin := hs.lee_iff.mp hp
      have hi : (Sizing.avanzar b n t).i = t.i + n := Nat.mod_eq_of_lt (by omega)
      rw [Nat.mul_succ] at hd
      exact ⟨hs.avanzar hin n, by omega, by omega, Or.inr (by omega)⟩)
    ⟨h, by omega, hd, Or.inl rfl⟩
  have hge : b.n ≤ t.i := by
    by_contra hlt
    exact hno (hs.lee_iff.mpr (Nat.lt_of_not_le hlt))
  exact ⟨t, ht, hs.fuera hge, hge, hlt, hfrom.resolve_left (by omega)⟩

lemma buscar_spec (hm : s.ram.mem = m) (hin : s.i < b.n) (hb : b.n + salto k ≤ 2 ^ 32)
    (hd : b.n ≤ s.i + salto k * d) : ∃ t : Sonda, (∀ fuel > d, buscar b fuel s k = some t) ∧
      t.ram.mem = m ∧ t.i < b.n ∧ b.n ≤ t.i + salto k := by
  have hn : 0 < salto k := by
    unfold salto
    split_ifs <;> decide
  obtain ⟨t, ht, hmem, hge, hlt, hfrom⟩ :=
    mientras_sonda (sondada_probar hm) hin hn hb (s := probar b s) hd
  have hi : (t.i + 2 ^ 32 - salto k) % 2 ^ 32 = t.i - salto k := by
    change s.i + salto k ≤ t.i at hfrom
    omega
  refine ⟨{ t with i := t.i - salto k }, fun fuel hf => ?_, hmem, ?_, ?_⟩
  · rw [buscar, ht fuel hf, Option.map_some, hi]
  · simp only
    omega
  · simp only
    omega

/-! ### The three of them -/

/-- The last search ends at the last byte of memory. -/
lemma buscar_tres (b : Bus) {kernelFin : ℕ} (hfin : kernelFin < b.n) (hb : b.n ≤ 2 ^ 32 - 2 ^ 20)
    (r : Ram) : ∃ t : Sonda,
    (∀ fuel > 4096, (List.range 3).foldlM (buscar b fuel) ⟨kernelFin, 0, r⟩ = some t) ∧
      t.ram.mem = r.mem ∧ t.i + 1 = b.n := by
  have h0 : salto 0 = 2 ^ 20 := rfl
  have h1 : salto 1 = 2 ^ 10 := rfl
  have h2 : salto 2 = 1 := rfl
  have hd₀ : b.n ≤ kernelFin + salto 0 * 4096 := by
    rw [h0]
    omega
  obtain ⟨s₁, hs₁, hm₁, hlt₁, hle₁⟩ :=
    buscar_spec (s := ⟨kernelFin, 0, r⟩) (k := 0) rfl hfin (by rw [h0]; omega) hd₀
  have hd₁ : b.n ≤ s₁.i + salto 1 * 1024 := by
    rw [h1]
    rw [h0] at hle₁
    omega
  obtain ⟨s₂, hs₂, hm₂, hlt₂, hle₂⟩ := buscar_spec hm₁ hlt₁ (by rw [h1]; omega) hd₁
  have hd₂ : b.n ≤ s₂.i + salto 2 * 1024 := by
    rw [h2]
    rw [h1] at hle₂
    omega
  obtain ⟨s₃, hs₃, hm₃, hlt₃, hle₃⟩ := buscar_spec hm₂ hlt₂ (by rw [h2]; omega) hd₂
  rw [h2] at hle₃
  refine ⟨s₃, fun fuel hf => ?_, hm₃, by omega⟩
  rw [show List.range 3 = [0, 1, 2] from rfl, List.foldlM_cons, hs₁ fuel (by omega)]
  change (List.foldlM (buscar b fuel) s₁ [1, 2]) = some s₃
  rw [List.foldlM_cons, hs₂ fuel (by omega)]
  change (List.foldlM (buscar b fuel) s₂ [2]) = some s₃
  rw [List.foldlM_cons, hs₃ fuel (by omega)]
  rfl

/-- **`testmem` finds how much memory there is and leaves it as it was.** -/
theorem testmem_exacta (b : Bus) {kernelFin : ℕ} (hfin : kernelFin < b.n)
    (hb : b.n ≤ 2 ^ 32 - 2 ^ 20) (r : Ram) : ∃ r' : Ram,
    (∀ fuel > 4096, testmem b kernelFin fuel r = some (b.n / PAG_LEN, r')) ∧
      ∀ a < b.n, r'.mem a = r.mem a := by
  obtain ⟨t, ht, hm, hi⟩ := buscar_tres b hfin hb r
  refine ⟨t.ram, fun fuel hf => ?_, fun a _ => congrFun hm a⟩
  rw [testmem, ht fuel hf, Option.map_some, hi, Nat.mod_eq_of_lt (by omega)]

def busChico : Bus := ⟨0x1000001, fun _ _ => 0xff, fun _ _ => by decide⟩

theorem testmem_exacta_chica : ∃ r' : Ram,
    (∀ fuel > 4096, testmem busChico 0x151000 fuel ⟨fun _ => 1, 0⟩ =
      some (busChico.n / PAG_LEN, r')) ∧ ∀ a < busChico.n, r'.mem a = 1 :=
  testmem_exacta busChico (by decide) (by decide) ⟨fun _ => 1, 0⟩

/-- The map of a machine: its pages fit in it, and no byte of memory changes. -/
theorem iniMmMide_eq (b : Bus) {kernelFin : ℕ} (hfin : kernelFin < b.n)
    (hb : b.n ≤ 2 ^ 32 - 2 ^ 20) (mm : Mm) (r : Ram) : b.n / PAG_LEN ≤ PAG_MEM ∧ ∃ r' : Ram,
    (∀ fuel > 4096, iniMmMide b kernelFin fuel mm r =
      some (iniMm kernelFin (b.n / PAG_LEN) mm, r')) ∧ r'.mem = r.mem := by
  obtain ⟨t, ht, hm, hi⟩ := buscar_tres b hfin hb r
  refine ⟨by simp only [PAG_LEN, PAG_MEM]; omega, t.ram, fun fuel hf => ?_, hm⟩
  rw [iniMmMide, testmem, ht fuel hf, Option.map_some, Option.map_some, hi,
    Nat.mod_eq_of_lt (by omega)]

end Silicio.Sizing
