import Silicio.Mask
import Silicio.Runs
import Silicio.Syscall

/-!
The fast calls: `int_soft_speed`, which runs on the caller's directory and returns in the
caller's registers.

A task registers a handler for an interrupt in `r_int`, once, and tasks pass words through the
mailboxes of `r_pipe`. The index of both tables is a register of the caller, and nobody looks at
its size: an index past the end is some address of the caller's linear memory. Here the tables
are where they are in that memory, so that what such an index meets is in the model too. The
result is the local `i`, which two of the calls never set.
-/

namespace Silicio.Fast

open Silicio.Loop Silicio.Bitmap Silicio.Bytes Silicio.Defs Silicio.Mask Silicio.Runs
open Silicio.Syscall

abbrev SYS_DEBUG : ℕ := 200
abbrev SYS_PIPER : ℕ := 203
abbrev SYS_PIPEW : ℕ := 204
abbrev SYS_RINT : ℕ := 205

/-- `sizeof(run)`, the offset of `task_tss` in it, and that of `cr3` in a `tss`. -/
abbrev RUN_LEN : ℕ := 1040
abbrev RUN_TSS : ℕ := 1028
abbrev TSS_CR3 : ℕ := 28

/-- Where the linker puts the variables of these calls, in this order. -/
structure Tablas where
  tInt : ℕ
  tIndice : ℕ
  rInt : ℕ
  rPipe : ℕ
  rTareas : ℕ
  hInt : tInt < rInt
  hIndice : tIndice + 4 ≤ rInt
  hPipe : rInt + 12 * 256 ≤ rPipe
  hTareas : rPipe + 4 * 256 ≤ rTareas
  h32 : rTareas + RUN_LEN * MAX_TASK ≤ 2 ^ 32

structure Maquina where
  mem : Mem
  salida : List (ℕ × Byte)

section
variable (l : Tablas) (m : Mem)

def tarea : ℕ := rd32 m l.tIndice

/-- `r_int[n]`. -/
def dueno (n : ℕ) : ℕ := rd32 m (l.rInt + 12 * n)
def func (n : ℕ) : ℕ := rd32 m (l.rInt + 12 * n + 4)
def cr3 (n : ℕ) : ℕ := rd32 m (l.rInt + 12 * n + 8)

/-- `r_pipe[k]`. -/
def buzon (k : ℕ) : ℕ := rd32 m (l.rPipe + 4 * k)

def tssDe (t : ℕ) : ℕ := rd32 m (l.rTareas + RUN_LEN * t + RUN_TSS)

def cr3De (t : ℕ) : ℕ := rd32 m (tssDe l m t + TSS_CR3)

/-- What `ini_tss` does to `r_int`. -/
def iniRInt : Mem :=
  let m := loop (fun i m => wr32 m (l.rInt + 12 * i) 1) 16 m
  let m := loop (fun i m => wr32 m (l.rInt + 12 * (16 + i)) 0) (256 - 16) m
  wr32 m (l.rInt + 12 * 16) 1

end

/-- `case SYS_RINT`. -/
def rint (l : Tablas) (ebx ecx : ℕ) (s : Maquina) : ℕ × Maquina :=
  if dueno l s.mem ebx = 0 then
    let m := wr32 s.mem (l.rInt + 12 * ebx) (tarea l s.mem)
    let m := wr32 m (l.rInt + 12 * ebx + 4) ecx
    let m := wr32 m (l.rInt + 12 * ebx + 8) (cr3De l m (tarea l m))
    let p := (intUp (BitVec.ofNat 8 ebx) ⟨rd8 m l.tInt, s.salida⟩).2
    (0, ⟨wr8 m l.tInt p.tInt, p.salida⟩)
  else (registro (-1), s)

/-- `case SYS_PIPEW`. -/
def pipew (l : Tablas) (ebx ecx : ℕ) (s : Maquina) : Maquina :=
  { s with mem := wr32 s.mem (l.rPipe + 4 * ebx) ecx }

/-- `int_soft_speed`. `basura` is what `i` holds before it is set: `SYS_PIPER`, `SYS_PIPEW` and
`SYS_DEBUG` do not set it. The calls about ports and video and the one that halts are `otra`. What
`printk` writes for these three, the cursor and the screen of the console, is left out. -/
def intSoftSpeed (l : Tablas) (basura : ℕ) (otra : Regs → Maquina → ℕ × Maquina) (r : Regs)
    (s : Maquina) : Regs × Maquina :=
  let i :=
    if r.eax = SYS_PIPER then (basura, s)
    else if r.eax = SYS_PIPEW then (basura, pipew l r.ebx r.ecx s)
    else if r.eax = SYS_DEBUG then (basura, s)
    else if r.eax = SYS_RINT then rint l r.ebx r.ecx s
    else otra r s
  (⟨i.1, r.ebx, r.ecx, r.edx⟩, i.2)

variable {l : Tablas} {basura n k t : ℕ} {otra : Regs → Maquina → ℕ × Maquina} {r : Regs}
  {s s' : Maquina} {m m' : Mem}

/-! ### The calls -/

lemma intSoftSpeed_piper (h : r.eax = SYS_PIPER) :
    intSoftSpeed l basura otra r s = (⟨basura, r.ebx, r.ecx, r.edx⟩, s) := by
  unfold intSoftSpeed
  simp only [if_pos h]

lemma intSoftSpeed_pipew (h : r.eax = SYS_PIPEW) : intSoftSpeed l basura otra r s =
    (⟨basura, r.ebx, r.ecx, r.edx⟩, pipew l r.ebx r.ecx s) := by
  have h1 : r.eax ≠ SYS_PIPER := by rw [h]; decide
  unfold intSoftSpeed
  simp only [if_neg h1, if_pos h]

lemma intSoftSpeed_rint (h : r.eax = SYS_RINT) : intSoftSpeed l basura otra r s =
    (⟨(rint l r.ebx r.ecx s).1, r.ebx, r.ecx, r.edx⟩, (rint l r.ebx r.ecx s).2) := by
  have h1 : r.eax ≠ SYS_PIPER := by rw [h]; decide
  have h2 : r.eax ≠ SYS_PIPEW := by rw [h]; decide
  have h3 : r.eax ≠ SYS_DEBUG := by rw [h]; decide
  unfold intSoftSpeed
  simp only [if_neg h1, if_neg h2, if_neg h3, if_pos h]

/-- The address is one of `r_int[n]`. -/
def EnRInt (l : Tablas) (n a : ℕ) : Prop := l.rInt + 12 * n ≤ a ∧ a < l.rInt + 12 * n + 12

def EnRPipe (l : Tablas) (k a : ℕ) : Prop := l.rPipe + 4 * k ≤ a ∧ a < l.rPipe + 4 * k + 4

/-- The address is one of `r_int` or of `r_pipe`. -/
def EnTablas (l : Tablas) (a : ℕ) : Prop :=
  l.rInt ≤ a ∧ a < l.rInt + 12 * 256 ∨ l.rPipe ≤ a ∧ a < l.rPipe + 4 * 256

structure Misma (l : Tablas) (m m' : Mem) (n : ℕ) : Prop where
  dueno : dueno l m' n = dueno l m n
  func : func l m' n = func l m n
  cr3 : cr3 l m' n = cr3 l m n

lemma misma_congr (hn : n < 256) (h : ∀ a < 2 ^ 32, EnRInt l n a → rd8 m' a = rd8 m a) :
    Misma l m m' n := by
  have h1 := l.hPipe
  have h2 := l.hTareas
  have h3 := l.h32
  refine ⟨rd32_congr fun i hi => h _ ?_ ?_, rd32_congr fun i hi => h _ ?_ ?_,
    rd32_congr fun i hi => h _ ?_ ?_⟩ <;> first | (unfold EnRInt; omega) | omega

lemma buzon_congr (hk : k < 256) (h : ∀ a < 2 ^ 32, EnRPipe l k a → rd8 m' a = rd8 m a) :
    buzon l m' k = buzon l m k := by
  have h2 := l.hTareas
  have h3 := l.h32
  exact rd32_congr fun i hi => h _ (by omega) ⟨by omega, by omega⟩

/-! ### What a registration writes -/

lemma dueno_wr32 {v : ℕ} (hn : n < 256) (hk : k < 256) (hv : v < 2 ^ 32) :
    dueno l (wr32 m (l.rInt + 12 * n) v) k = if k = n then v else dueno l m k := by
  have h1 := l.hPipe
  have h2 := l.hTareas
  have h3 := l.h32
  unfold dueno
  by_cases h : k = n
  · rw [if_pos h, h, rd32_wr32_self, Nat.mod_eq_of_lt hv]
  · rw [if_neg h, rd32_wr32_of_disjoint (by omega) (by omega) (by omega)]

/-- Numbers 0 to 16 are reserved, the others are free. -/
lemma dueno_iniRInt (l : Tablas) (m : Mem) (hn : n < 256) :
    dueno l (iniRInt l m) n = if n ≤ 16 then 1 else 0 := by
  have hlow : ∀ k < 256, dueno l (loop (fun i m => wr32 m (l.rInt + 12 * i) 1) 16 m) k =
      if k < 16 then 1 else dueno l m k := by
    refine loop_rule (fun j m' => ∀ k < 256, dueno l m' k = if k < j then 1 else dueno l m k)
      (fun k _ => (if_neg (Nat.not_lt_zero k)).symm) ?_
    intro i hi m' ih k hk
    rw [dueno_wr32 (by omega) hk (by decide), ih k hk]
    split_ifs <;> first | rfl | omega
  have hhigh : ∀ m' : Mem, ∀ k < 256,
      dueno l (loop (fun i m => wr32 m (l.rInt + 12 * (16 + i)) 0) (256 - 16) m') k =
        if 16 ≤ k then 0 else dueno l m' k := by
    intro m₀ k hk
    have key : ∀ k < 256,
        dueno l (loop (fun i m => wr32 m (l.rInt + 12 * (16 + i)) 0) (256 - 16) m₀) k =
          if 16 ≤ k ∧ k < 16 + (256 - 16) then 0 else dueno l m₀ k := by
      refine loop_rule (fun j m' => ∀ k < 256,
        dueno l m' k = if 16 ≤ k ∧ k < 16 + j then 0 else dueno l m₀ k)
        (fun k _ => (if_neg (by omega)).symm) ?_
      intro i hi m' ih k hk
      rw [dueno_wr32 (by omega) hk (by decide), ih k hk]
      split_ifs <;> first | rfl | omega
    rw [key k hk]
    split_ifs <;> first | rfl | omega
  unfold iniRInt
  rw [dueno_wr32 (by decide) hn (by decide), hhigh _ n hn, hlow n hn]
  split_ifs <;> first | rfl | omega

lemma rd8_iniRInt (m : Mem) {a : ℕ} (ha : a < 2 ^ 32)
    (h : a < l.rInt ∨ l.rInt + 12 * 256 ≤ a) :
    rd8 (iniRInt l m) a = rd8 m a := by
  have h1 := l.hPipe
  have h2 := l.hTareas
  have h3 := l.h32
  have hloop : ∀ f : ℕ → ℕ, ∀ v n : ℕ, ∀ m' : Mem,
      (∀ i < n, l.rInt ≤ f i ∧ f i + 4 ≤ l.rInt + 12 * 256) →
      rd8 (loop (fun i m => wr32 m (f i) v) n m') a = rd8 m' a := by
    intro f v n m' hf
    refine loop_rule (fun _ m => rd8 m a = rd8 m' a) rfl fun i hi m ih => ?_
    have := hf i hi
    rw [rd8_wr32_of_disjoint (by omega) ha (by omega), ih]
  unfold iniRInt
  rw [rd8_wr32_of_disjoint (by omega) ha (by omega), hloop _ _ _ _ fun i hi => by omega,
    hloop _ _ _ _ fun i hi => by omega]

lemma Tablas.task (l : Tablas) {i : ℕ} (ht : t < MAX_TASK) (hi : i < 4) :
    l.rPipe + 4 * 256 ≤ l.rTareas + RUN_LEN * t + RUN_TSS + i ∧
      l.rTareas + RUN_LEN * t + RUN_TSS + i < 2 ^ 32 := by
  have h2 := l.hTareas
  have h3 := l.h32
  have hlen : RUN_LEN * t + RUN_LEN ≤ RUN_LEN * MAX_TASK := Nat.mul_le_mul_left RUN_LEN ht
  have hoff : RUN_TSS + 4 ≤ RUN_LEN := by decide
  omega

/-- Who calls: a task, and the `cr3` of its `tss` is not in a table of these. -/
structure Llamador (l : Tablas) (m : Mem) : Prop where
  tres : 3 ≤ tarea l m
  max : tarea l m < MAX_TASK
  lejos : ∀ i < 4, ¬ EnTablas l ((tssDe l m (tarea l m) + TSS_CR3 + i) % 2 ^ 32)

/-- What a call reads of its caller does not depend on the tables. -/
lemma Llamador.congr (hq : Llamador l m)
    (h : ∀ a < 2 ^ 32, ¬ EnTablas l a → rd8 m' a = rd8 m a) :
    tarea l m' = tarea l m ∧ cr3De l m' (tarea l m) = cr3De l m (tarea l m) := by
  have h0 := l.hIndice
  have h1 := l.hPipe
  have h2 := l.hTareas
  have h3 := l.h32
  have htss : tssDe l m' (tarea l m) = tssDe l m (tarea l m) := by
    refine rd32_congr fun i hi => ?_
    obtain ⟨hlo, hhi⟩ := l.task hq.max hi
    exact h _ hhi (by unfold EnTablas; omega)
  refine ⟨rd32_congr fun i hi => h _ (by omega) (by unfold EnTablas; omega), ?_⟩
  unfold cr3De
  rw [htss]
  refine rd32_congr fun i hi => ?_
  rw [← rd8_mod m', ← rd8_mod m]
  exact h _ (Nat.mod_lt _ (by decide)) (hq.lejos i hi)

lemma rint_rechaza {ecx : ℕ} (h : dueno l s.mem n ≠ 0) :
    rint l n ecx s = (registro (-1), s) := by
  rw [rint, if_neg h]

lemma rint_salida {ecx : ℕ} (h : dueno l s.mem n = 0) : (rint l n ecx s).1 = 0 := by
  rw [rint, if_pos h]

lemma rd8_rint {ecx a : ℕ} (hn : n < 256) (h : dueno l s.mem n = 0) (ha : a < 2 ^ 32)
    (hfuera : ¬ EnRInt l n a) (ht : a ≠ l.tInt) :
    rd8 (rint l n ecx s).2.mem a = rd8 s.mem a := by
  have h0 := l.hInt
  have h1 := l.hPipe
  have h2 := l.hTareas
  have h3 := l.h32
  unfold EnRInt at hfuera
  rw [rint, if_pos h]
  rw [rd8_wr8_of_ne (by omega), rd8_wr32_of_ne fun i hi => by omega,
    rd8_wr32_of_ne fun i hi => by omega, rd8_wr32_of_ne fun i hi => by omega]

/-- **What a registration leaves.** The entry holds who called, the handler, and the caller's
directory. -/
lemma rint_entrada {ecx : ℕ} (hn : n < 256) (h : dueno l s.mem n = 0) (hecx : ecx < 2 ^ 32)
    (hq : Llamador l s.mem) :
    dueno l (rint l n ecx s).2.mem n = tarea l s.mem ∧ func l (rint l n ecx s).2.mem n = ecx ∧
      cr3 l (rint l n ecx s).2.mem n = cr3De l s.mem (tarea l s.mem) := by
  have h0 := l.hInt
  have h1 := l.hPipe
  have h2 := l.hTareas
  have h3 := l.h32
  -- what the two stores before `cr3` is read leave of the caller
  obtain ⟨htarea, hcr3⟩ : tarea l (wr32 (wr32 s.mem (l.rInt + 12 * n) (tarea l s.mem))
      (l.rInt + 12 * n + 4) ecx) = tarea l s.mem ∧ cr3De l (wr32 (wr32 s.mem (l.rInt + 12 * n)
      (tarea l s.mem)) (l.rInt + 12 * n + 4) ecx) (tarea l s.mem) =
        cr3De l s.mem (tarea l s.mem) := by
    refine hq.congr fun a ha hno => ?_
    unfold EnTablas at hno
    rw [rd8_wr32_of_disjoint (by omega) ha (by omega),
      rd8_wr32_of_disjoint (by omega) ha (by omega)]
  -- `t_int` is not in the entry
  have hbytes : ∀ a < 2 ^ 32, EnRInt l n a → rd8 (rint l n ecx s).2.mem a =
      rd8 (wr32 (wr32 (wr32 s.mem (l.rInt + 12 * n) (tarea l s.mem)) (l.rInt + 12 * n + 4) ecx)
        (l.rInt + 12 * n + 8) (cr3De l s.mem (tarea l s.mem))) a := by
    intro a ha hen
    unfold EnRInt at hen
    rw [rint, if_pos h]
    simp only
    rw [rd8_wr8_of_ne (by omega), htarea, hcr3]
  obtain ⟨e1, e2, e3⟩ := misma_congr hn hbytes
  refine ⟨e1.trans ?_, e2.trans ?_, e3.trans ?_⟩
  · unfold dueno
    rw [rd32_wr32_of_disjoint (by omega) (by omega) (by omega),
      rd32_wr32_of_disjoint (by omega) (by omega) (by omega), rd32_wr32_self]
    exact Nat.mod_eq_of_lt (rd32_lt _ _)
  · unfold func
    rw [rd32_wr32_of_disjoint (by omega) (by omega) (by omega), rd32_wr32_self,
      Nat.mod_eq_of_lt hecx]
  · unfold cr3
    rw [rd32_wr32_self]
    exact Nat.mod_eq_of_lt (rd32_lt _ _)

/-! ### Runs -/

structure Registro where
  n : ℕ
  tarea : ℕ
  func : ℕ
  cr3 : ℕ

/-- What the answers have told so far: the registrations accepted, last first, and the last word
sent to each mailbox, 0 if none. -/
structure Anota where
  registros : List Registro
  ultimo : ℕ → ℕ

structure Llamada where
  basura : ℕ
  regs : Regs

def anotar (l : Tablas) (c : Llamada) (eax : ℕ) (m : Mem) (g : Anota) : Anota :=
  if c.regs.eax = SYS_RINT ∧ eax = 0 then
    { g with registros := ⟨c.regs.ebx, tarea l m, c.regs.ecx, cr3De l m (tarea l m)⟩ ::
      g.registros }
  else if c.regs.eax = SYS_PIPEW ∧ c.regs.ebx < 256 then
    { g with ultimo := Function.update g.ultimo c.regs.ebx c.regs.ecx }
  else g

/-- A registration, or a word sent to a mailbox or asked of one. -/
structure Llamada.Admite (c : Llamada) (l : Tablas) (m : Mem) : Prop where
  eax : c.regs.eax = SYS_RINT ∨ c.regs.eax = SYS_PIPEW ∨ c.regs.eax = SYS_PIPER
  ecx : c.regs.ecx < 2 ^ 32
  quien : Llamador l m

/-- One step: a call, or anything else of the system, which leaves the two tables. -/
inductive Paso (l : Tablas) (otra : Regs → Maquina → ℕ × Maquina) :
    Maquina × Anota → Option Llamada → Maquina × Anota → Prop
  | llamada {s : Maquina} {g : Anota} {c : Llamada} (h : c.Admite l s.mem) :
      Paso l otra (s, g) (some c) ((intSoftSpeed l c.basura otra c.regs s).2,
        anotar l c (intSoftSpeed l c.basura otra c.regs s).1.eax s.mem g)
  | ajeno {s s' : Maquina} {g : Anota}
      (h : ∀ a < 2 ^ 32, EnTablas l a → rd8 s'.mem a = rd8 s.mem a) :
      Paso l otra (s, g) none (s', g)

/-- The index is in the table, or the word it meets past the end stops a registration, or is the
one sent. -/
def Llamada.Respeta (c : Llamada) (l : Tablas) (m : Mem) : Prop :=
  (c.regs.eax = SYS_RINT → c.regs.ebx < 256 ∨ dueno l m c.regs.ebx ≠ 0) ∧
    (c.regs.eax = SYS_PIPEW → c.regs.ebx < 256 ∨ buzon l m c.regs.ebx = c.regs.ecx)

def PasoBueno (l : Tablas) (otra : Regs → Maquina → ℕ × Maquina) (p : Maquina × Anota)
    (a : Option Llamada) (q : Maquina × Anota) : Prop :=
  Paso l otra p a q ∧ ∀ c ∈ a, c.Respeta l p.1.mem

def Inicial (l : Tablas) (p : Maquina × Anota) : Prop :=
  p.2 = ⟨[], fun _ => 0⟩ ∧ ∃ m, p.1.mem = iniRInt l m ∧ ∀ k < 256, buzon l m k = 0

/-- Entry `n` as the registrations say: nobody's, or that of the only one accepted. -/
def Exclusivo (l : Tablas) (m : Mem) (g : Anota) (n : ℕ) : Prop :=
  dueno l m n = 0 ∧ (∀ x ∈ g.registros, x.n ≠ n) ∨
    ∃ x, g.registros.filter (fun y => y.n == n) = [x] ∧ 3 ≤ x.tarea ∧ x.tarea < MAX_TASK ∧
      dueno l m n = x.tarea ∧ func l m n = x.func ∧ cr3 l m n = x.cr3

structure Inv (l : Tablas) (p : Maquina × Anota) : Prop where
  reservados : ∀ n ≤ 16, dueno l p.1.mem n = 1
  exclusivos : ∀ n, 16 < n → n < 256 → Exclusivo l p.1.mem p.2 n
  buzones : ∀ k < 256, buzon l p.1.mem k = p.2.ultimo k

variable {g : Anota} {c : Llamada} {p q : Maquina × Anota} {a : Option Llamada}

lemma tablas_congr (h : ∀ a < 2 ^ 32, EnTablas l a → rd8 m' a = rd8 m a) :
    (∀ n < 256, Misma l m m' n) ∧ ∀ k < 256, buzon l m' k = buzon l m k := by
  refine ⟨fun n hn => misma_congr hn fun a ha he => h a ha ?_,
    fun k hk => buzon_congr hk fun a ha he => h a ha ?_⟩
  · unfold EnRInt at he
    exact Or.inl (by omega)
  · unfold EnRPipe at he
    exact Or.inr (by omega)

lemma Exclusivo.congr (h : Exclusivo l m g n) (he : Misma l m m' n) : Exclusivo l m' g n := by
  unfold Exclusivo
  rw [he.dueno, he.func, he.cr3]
  exact h

lemma Inv.congr (hinv : Inv l (s, g))
    (h : ∀ a < 2 ^ 32, EnTablas l a → rd8 s'.mem a = rd8 s.mem a) : Inv l (s', g) := by
  obtain ⟨hent, hbuz⟩ := tablas_congr h
  exact ⟨fun n hn => (hent n (by omega)).dueno.trans (hinv.reservados n hn),
    fun n h1 h2 => (hinv.exclusivos n h1 h2).congr (hent n h2),
    fun k hk => (hbuz k hk).trans (hinv.buzones k hk)⟩

lemma Inicial.inv (h : Inicial l p) : Inv l p := by
  obtain ⟨hg, m, hm, hpipe⟩ := h
  have h1 := l.hPipe
  have h2 := l.hTareas
  have h3 := l.h32
  refine ⟨fun n hn => ?_, fun n hn hlt => Or.inl ⟨?_, ?_⟩, fun k hk => ?_⟩
  · rw [hm, dueno_iniRInt l m (by omega), if_pos hn]
  · rw [hm, dueno_iniRInt l m hlt, if_neg (by omega)]
  · rw [hg]
    exact fun x hx => absurd hx List.not_mem_nil
  · rw [hm, hg]
    refine (buzon_congr hk fun a ha he => ?_).trans (hpipe k hk)
    unfold EnRPipe at he
    exact rd8_iniRInt m ha (Or.inr (by omega))

lemma misma_rint {ecx : ℕ} (hn : n < 256) (h : dueno l s.mem n = 0) (hk : k < 256)
    (hne : k ≠ n) : Misma l s.mem (rint l n ecx s).2.mem k := by
  have h0 := l.hInt
  refine misma_congr hk fun a ha he => ?_
  unfold EnRInt at he
  refine rd8_rint hn h ha (fun hen => ?_) (by omega)
  unfold EnRInt at hen
  omega

/-- A registration of another number leaves what is told of this one. -/
lemma Exclusivo.suma (h : Exclusivo l m g n) {x : Registro} (hne : x.n ≠ n) :
    Exclusivo l m { g with registros := x :: g.registros } n := by
  rcases h with ⟨hcero, hno⟩ | ⟨y, hy, hd⟩
  · refine Or.inl ⟨hcero, fun z hz => ?_⟩
    rcases List.mem_cons.mp hz with rfl | hz
    · exact hne
    · exact hno z hz
  · refine Or.inr ⟨y, ?_, hd⟩
    rw [List.filter_cons_of_neg (by simpa using hne)]
    exact hy

/-- The registration of a number that is nobody's is the first of it. -/
lemma Exclusivo.primera (h : Exclusivo l m g n) (hcero : dueno l m n = 0) {x : Registro}
    (hx : x.n = n) : (x :: g.registros).filter (fun y => y.n == n) = [x] := by
  rcases h with ⟨-, hno⟩ | ⟨y, -, htres, -, hy, -⟩
  · rw [List.filter_cons_of_pos (by simpa using hx), List.filter_eq_nil_iff.mpr]
    exact fun z hz => by simpa using hno z hz
  · rw [hcero] at hy
    omega

lemma Inv.registra {ecx : ℕ} (hinv : Inv l (s, g)) (hn : n < 256) (h : dueno l s.mem n = 0)
    (hecx : ecx < 2 ^ 32) (hq : Llamador l s.mem) :
    Inv l ((rint l n ecx s).2, { g with registros :=
      ⟨n, tarea l s.mem, ecx, cr3De l s.mem (tarea l s.mem)⟩ :: g.registros }) := by
  have h0 := l.hInt
  have h1 := l.hPipe
  have hlibre : 16 < n := by
    by_contra hle
    have := hinv.reservados n (by omega)
    rw [h] at this
    exact absurd this (by decide)
  refine ⟨fun k hk => ?_, fun k hk hlt => ?_, fun k hk => ?_⟩
  · have hmisma : Misma l s.mem (rint l n ecx s).2.mem k :=
      misma_rint hn h (by omega) (by omega)
    exact hmisma.dueno.trans (hinv.reservados k hk)
  · have hex := hinv.exclusivos k hk hlt
    rcases eq_or_ne k n with rfl | hne
    · obtain ⟨e1, e2, e3⟩ := rint_entrada hn h hecx hq
      exact Or.inr ⟨⟨k, tarea l s.mem, ecx, cr3De l s.mem (tarea l s.mem)⟩, hex.primera h rfl,
        hq.tres, hq.max, e1, e2, e3⟩
    · exact (Exclusivo.suma hex hne.symm).congr (misma_rint hn h hlt hne)
  · refine (buzon_congr hk fun a ha he => ?_).trans (hinv.buzones k hk)
    unfold EnRPipe at he
    refine rd8_rint hn h ha (fun hen => ?_) (by omega)
    unfold EnRInt at hen
    omega

lemma rd8_pipew {ecx a : ℕ} (hk : k < 256) (ha : a < 2 ^ 32) (h : ¬ EnRPipe l k a) :
    rd8 (pipew l k ecx s).mem a = rd8 s.mem a := by
  have h2 := l.hTareas
  have h3 := l.h32
  unfold EnRPipe at h
  exact rd8_wr32_of_disjoint (by omega) ha (by omega)

lemma buzon_pipew {ecx : ℕ} (hecx : ecx < 2 ^ 32) : buzon l (pipew l k ecx s).mem k = ecx := by
  rw [buzon, pipew, rd32_wr32_self, Nat.mod_eq_of_lt hecx]

lemma misma_pipew {ecx : ℕ} (hk : k < 256) (hn : n < 256) :
    Misma l s.mem (pipew l k ecx s).mem n := by
  have h1 := l.hPipe
  refine misma_congr hn fun a ha he => rd8_pipew hk ha fun hp => ?_
  unfold EnRInt at he
  unfold EnRPipe at hp
  omega

lemma Inv.envia {ecx : ℕ} (hinv : Inv l (s, g)) (hk : k < 256) (hecx : ecx < 2 ^ 32) :
    Inv l (pipew l k ecx s, { g with ultimo := Function.update g.ultimo k ecx }) := by
  have hent : ∀ n < 256, Misma l s.mem (pipew l k ecx s).mem n := fun n hn => misma_pipew hk hn
  refine ⟨fun n hn => (hent n (by omega)).dueno.trans (hinv.reservados n hn),
    fun n hn hlt => Exclusivo.congr (g := g) (hinv.exclusivos n hn hlt) (hent n hlt),
    fun j hj => ?_⟩
  rcases eq_or_ne j k with rfl | hne
  · exact (buzon_pipew hecx).trans (Function.update_self j ecx g.ultimo).symm
  · have hcongr : buzon l (pipew l k ecx s).mem j = buzon l s.mem j := by
      refine buzon_congr hj fun a ha he => rd8_pipew hk ha fun hp => ?_
      unfold EnRPipe at he hp
      omega
    exact hcongr.trans ((hinv.buzones j hj).trans (Function.update_of_ne hne _ _).symm)

lemma registro_ne_cero : registro (-1) ≠ 0 := by decide

/-- **A step that respects the tables keeps the invariant.** -/
lemma Inv.paso (hinv : Inv l p) (hs : PasoBueno l otra p a q) : Inv l q := by
  obtain ⟨hs, hr⟩ := hs
  cases hs with
  | @ajeno s s' g h => exact hinv.congr h
  | @llamada s g c h =>
    obtain ⟨hrint, hpipew⟩ := hr c rfl
    rcases h.eax with he | he | he
    · have hno : ¬ (c.regs.eax = SYS_PIPEW ∧ c.regs.ebx < 256) := by
        rw [he]
        exact fun h => absurd h.1 (by decide)
      rw [intSoftSpeed_rint he]
      by_cases hd : dueno l s.mem c.regs.ebx = 0
      · have hn : c.regs.ebx < 256 := (hrint he).resolve_right (not_not_intro hd)
        rw [anotar, if_pos ⟨he, rint_salida hd⟩]
        exact hinv.registra hn hd h.ecx h.quien
      · rw [rint_rechaza hd, anotar, if_neg fun h => registro_ne_cero h.2, if_neg hno]
        exact hinv
    · have hno : c.regs.eax ≠ SYS_RINT := by
        rw [he]
        decide
      rw [intSoftSpeed_pipew he, anotar, if_neg fun h => hno h.1]
      by_cases hk : c.regs.ebx < 256
      · rw [if_pos ⟨he, hk⟩]
        exact hinv.envia hk h.ecx
      · rw [if_neg fun h => hk h.2]
        exact hinv.congr fun a _ _ => rd8_wr32_igual ((hpipew he).resolve_left hk) a
    · have hno : c.regs.eax ≠ SYS_RINT ∧ c.regs.eax ≠ SYS_PIPEW := by
        rw [he]
        decide
      rw [intSoftSpeed_piper he, anotar, if_neg fun h => hno.1 h.1, if_neg fun h => hno.2 h.1]
      exact hinv

theorem inv_reach (h : Reach (Inicial l) (PasoBueno l otra) p) : Inv l p :=
  h.invariant (fun _ h => h.inv) fun _ _ _ hinv hs => hinv.paso hs

/-! ### A machine -/

def nucleoBin : Tablas where
  tInt := 0x11afe4
  tIndice := 0x13da80
  rInt := 0x13dac0
  rPipe := 0x13e6c0
  rTareas := 0x14f480
  hInt := by decide
  hIndice := by decide
  hPipe := by decide
  hTareas := by decide
  h32 := by decide

/-- After the boot, with task 3 on its way: its number, its `tss` and its directory. -/
def enTres : Maquina :=
  ⟨wr32 (wr32 (wr32 (iniRInt nucleoBin fun _ => 0) 0x13da80 3) 0x1504b4 0x13f060) 0x13f07c 0x500000,
    []⟩

def nadie : Anota := ⟨[], fun _ => 0⟩

def quieta (_ : Regs) (s : Maquina) : ℕ × Maquina := (0, s)

lemma enTres_tarea : tarea nucleoBin enTres.mem = 3 := by
  unfold tarea enTres
  rw [rd32_wr32_of_disjoint (by decide) (by decide) (by decide),
    rd32_wr32_of_disjoint (by decide) (by decide) (by decide)]
  exact rd32_wr32_self _ _ _

lemma enTres_llamador : Llamador nucleoBin enTres.mem := by
  have htss : tssDe nucleoBin enTres.mem 3 = 0x13f060 := by
    unfold tssDe enTres
    rw [rd32_wr32_of_disjoint (by decide) (by decide) (by decide)]
    exact rd32_wr32_self _ _ _
  refine ⟨enTres_tarea.ge, by rw [enTres_tarea]; decide, fun i hi => ?_⟩
  unfold EnTablas TSS_CR3
  rw [enTres_tarea, htss, Nat.mod_eq_of_lt (by omega)]
  unfold nucleoBin
  simp only
  omega

lemma enTres_reach : Reach (Inicial nucleoBin) (PasoBueno nucleoBin quieta) (enTres, nadie) := by
  refine Reach.step (s := (⟨iniRInt nucleoBin fun _ => 0, []⟩, nadie)) (a := none)
    (.init ⟨rfl, fun _ => 0, rfl, fun _ _ => rfl⟩) ⟨.ajeno fun a ha he => ?_, by simp⟩
  unfold EnTablas nucleoBin at he
  simp only at he
  unfold enTres
  rw [rd8_wr32_of_disjoint (by decide) ha (by omega),
    rd8_wr32_of_disjoint (by decide) ha (by omega), rd8_wr32_of_disjoint (by decide) ha (by omega)]

lemma enTres_buzon {k : ℕ} (hk : k < 256) : buzon nucleoBin enTres.mem k = 0 :=
  (inv_reach enTres_reach).buzones k hk

/-! ### Registration -/

/-- What a registration owes: a number above 255, reserved or taken gets -1 and nothing changes;
any other gets 0 and the entry is the caller's. -/
structure CumpleRint (l : Tablas) (otra : Regs → Maquina → ℕ × Maquina) (c : Llamada)
    (s : Maquina) : Prop where
  rechaza : 255 < c.regs.ebx ∨ c.regs.ebx ≤ 16 ∨ dueno l s.mem c.regs.ebx ≠ 0 →
    (intSoftSpeed l c.basura otra c.regs s).1.eax = registro (-1) ∧
      (intSoftSpeed l c.basura otra c.regs s).2 = s
  acepta : 16 < c.regs.ebx → c.regs.ebx ≤ 255 → dueno l s.mem c.regs.ebx = 0 →
    (intSoftSpeed l c.basura otra c.regs s).1.eax = 0 ∧
      dueno l (intSoftSpeed l c.basura otra c.regs s).2.mem c.regs.ebx = tarea l s.mem ∧
      func l (intSoftSpeed l c.basura otra c.regs s).2.mem c.regs.ebx = c.regs.ecx ∧
      cr3 l (intSoftSpeed l c.basura otra c.regs s).2.mem c.regs.ebx =
        cr3De l s.mem (tarea l s.mem)

lemma cumpleRint_iff (hres : ∀ n ≤ 16, dueno l s.mem n = 1) (h : c.Admite l s.mem)
    (he : c.regs.eax = SYS_RINT) : CumpleRint l otra c s ↔
      c.regs.ebx < 256 ∨ dueno l s.mem c.regs.ebx ≠ 0 := by
  constructor
  · rintro ⟨hrechaza, -⟩
    by_contra hno
    rw [not_or, not_not] at hno
    have := (hrechaza (Or.inl (by omega))).1
    rw [intSoftSpeed_rint he, rint_salida hno.2] at this
    exact registro_ne_cero this.symm
  · intro hsi
    refine ⟨fun hmal => ?_, fun _ hle hd => ?_⟩
    · have hd : dueno l s.mem c.regs.ebx ≠ 0 := by
        rcases hmal with hgt | hle | hd
        · exact hsi.resolve_left (by omega)
        · rw [hres _ hle]
          exact Nat.one_ne_zero
        · exact hd
      rw [intSoftSpeed_rint he, rint_rechaza hd]
      exact ⟨rfl, rfl⟩
    · rw [intSoftSpeed_rint he]
      exact ⟨rint_salida hd, rint_entrada (by omega) hd h.ecx h.quien⟩

lemma PasoBueno.misma (hs : PasoBueno l otra p a q) (hn : n < 256)
    (hd : dueno l p.1.mem n ≠ 0) : Misma l p.1.mem q.1.mem n := by
  obtain ⟨hs, hr⟩ := hs
  cases hs with
  | @ajeno s s' g h => exact (tablas_congr h).1 n hn
  | @llamada s g c h =>
    obtain ⟨hrint, hpipew⟩ := hr c rfl
    rcases h.eax with he | he | he
    · rw [intSoftSpeed_rint he]
      by_cases h0 : dueno l s.mem c.regs.ebx = 0
      · refine misma_rint ((hrint he).resolve_right (not_not_intro h0)) h0 hn ?_
        rintro rfl
        exact hd h0
      · rw [rint_rechaza h0]
        exact ⟨rfl, rfl, rfl⟩
    · rw [intSoftSpeed_pipew he]
      by_cases hk : c.regs.ebx < 256
      · exact misma_pipew hk hn
      · exact misma_congr hn fun a _ _ => rd8_wr32_igual ((hpipew he).resolve_left hk) a
    · rw [intSoftSpeed_piper he]
      exact ⟨rfl, rfl, rfl⟩

lemma misma_run {t : List (Option Llamada)} (h : Steps (PasoBueno l otra) p t q) (hn : n < 256)
    (hd : dueno l p.1.mem n ≠ 0) : Misma l p.1.mem q.1.mem n := by
  refine h.rel (R := fun p q => dueno l p.1.mem n ≠ 0 → Misma l p.1.mem q.1.mem n)
    (fun _ _ => ⟨rfl, rfl, rfl⟩) (fun p q r h h' hd => ?_) (fun _ _ _ hs hd => hs.misma hn hd) hd
  have h1 := h hd
  have h2 := h' (by rwa [h1.dueno])
  exact ⟨h2.dueno.trans h1.dueno, h2.func.trans h1.func, h2.cr3.trans h1.cr3⟩

/-- **Registration is exclusive.** In every state of a run whose calls respect the tables: a
registration does its duty just when its number is in the table, or the word it meets past the end
is not 0; every entry is nobody's or that of the only registration accepted for it; and an entry
that is somebody's stays as it is. -/
theorem registro_exclusivo (h : Reach (Inicial l) (PasoBueno l otra) (s, g)) :
    (∀ c : Llamada, c.Admite l s.mem → c.regs.eax = SYS_RINT → (CumpleRint l otra c s ↔
      c.regs.ebx < 256 ∨ dueno l s.mem c.regs.ebx ≠ 0)) ∧
    (∀ n ≤ 16, dueno l s.mem n = 1) ∧ (∀ n, 16 < n → n < 256 → Exclusivo l s.mem g n) ∧
    ∀ t q, Steps (PasoBueno l otra) (s, g) t q → ∀ n < 256, dueno l s.mem n ≠ 0 →
      Misma l s.mem q.1.mem n := by
  have hinv := inv_reach h
  exact ⟨fun c hc he => cumpleRint_iff hinv.reservados hc he, hinv.reservados, hinv.exclusivos,
    fun t q ht n hn hd => misma_run ht hn hd⟩

/-- Task 3 registers interrupt 17. -/
theorem registro_exclusivo_tres :
    CumpleRint nucleoBin quieta ⟨0, SYS_RINT, 17, 0x400000, 0⟩ enTres ∧
      Exclusivo nucleoBin enTres.mem nadie 17 := by
  have h := registro_exclusivo enTres_reach
  exact ⟨(h.1 _ ⟨Or.inl rfl, by decide, enTres_llamador⟩ rfl).mpr (Or.inl (by decide)),
    h.2.2.1 17 (by decide) (by decide)⟩

/-- Interrupt 256 is the first mailbox: the call is accepted, and the mailbox holds the task. -/
theorem registro_ajeno :
    Reach (Inicial nucleoBin) (PasoBueno nucleoBin quieta) (enTres, nadie) ∧
    (intSoftSpeed nucleoBin 0 quieta ⟨SYS_RINT, 256, 0x400000, 0⟩ enTres).1.eax = 0 ∧
    buzon nucleoBin enTres.mem 0 = 0 ∧
    buzon nucleoBin (intSoftSpeed nucleoBin 0 quieta ⟨SYS_RINT, 256, 0x400000, 0⟩ enTres).2.mem 0 =
      3 ∧
    ¬ CumpleRint nucleoBin quieta ⟨0, SYS_RINT, 256, 0x400000, 0⟩ enTres := by
  have hlibre : dueno nucleoBin enTres.mem 256 = 0 := enTres_buzon (k := 0) (by decide)
  refine ⟨enTres_reach, ?_, enTres_buzon (by decide), ?_, fun h => ?_⟩
  · rw [intSoftSpeed_rint rfl]
    exact rint_salida hlibre
  · rw [intSoftSpeed_rint rfl, rint, if_pos hlibre, enTres_tarea]
    refine (rd32_congr fun i hi => rd8_wr8_of_ne ?_).trans ?_
    · unfold nucleoBin
      simp only
      omega
    · rw [rd32_wr32_of_disjoint (by decide) (by decide) (by decide),
        rd32_wr32_of_disjoint (by decide) (by decide) (by decide)]
      exact rd32_wr32_self _ _ _
  · have := ((cumpleRint_iff (inv_reach enTres_reach).reservados
      ⟨Or.inl rfl, by decide, enTres_llamador⟩ rfl).mp h).resolve_left (by decide)
    exact this hlibre

/-! ### Mailboxes -/

/-- What a word sent owes: it is in its mailbox and nothing else changes but what `printk` writes,
the cursor and the screen; past the last mailbox nothing else changes either. -/
structure CumplePipew (l : Tablas) (otra : Regs → Maquina → ℕ × Maquina) (c : Llamada)
    (s : Maquina) : Prop where
  dentro : c.regs.ebx < 256 →
    buzon l (intSoftSpeed l c.basura otra c.regs s).2.mem c.regs.ebx = c.regs.ecx ∧
      ∀ a < 2 ^ 32, ¬ EnRPipe l c.regs.ebx a →
        rd8 (intSoftSpeed l c.basura otra c.regs s).2.mem a = rd8 s.mem a
  fuera : 256 ≤ c.regs.ebx →
    ∀ a, rd8 (intSoftSpeed l c.basura otra c.regs s).2.mem a = rd8 s.mem a

/-- What a word asked for owes: the last one sent, and the other registers as they were. -/
def CumplePiper (l : Tablas) (otra : Regs → Maquina → ℕ × Maquina) (c : Llamada) (s : Maquina)
    (g : Anota) : Prop :=
  c.regs.ebx < 256 → (intSoftSpeed l c.basura otra c.regs s).1 =
    ⟨g.ultimo c.regs.ebx, c.regs.ebx, c.regs.ecx, c.regs.edx⟩

lemma cumplePipew_iff (h : c.Admite l s.mem) (he : c.regs.eax = SYS_PIPEW) :
    CumplePipew l otra c s ↔ c.regs.ebx < 256 ∨ buzon l s.mem c.regs.ebx = c.regs.ecx := by
  constructor
  · rintro ⟨-, hfuera⟩
    rcases Nat.lt_or_ge c.regs.ebx 256 with hlt | hge
    · exact Or.inl hlt
    · right
      have hbytes := hfuera hge
      rw [intSoftSpeed_pipew he] at hbytes
      rw [← buzon_pipew (l := l) (s := s) h.ecx]
      exact (rd32_congr fun i _ => hbytes _).symm
  · intro hsi
    refine ⟨fun hlt => ?_, fun hge a => ?_⟩
    · rw [intSoftSpeed_pipew he]
      exact ⟨buzon_pipew h.ecx, fun a ha hno => rd8_pipew hlt ha hno⟩
    · rw [intSoftSpeed_pipew he]
      exact rd8_wr32_igual (hsi.resolve_left (by omega)) a

lemma cumplePiper_iff (he : c.regs.eax = SYS_PIPER) : CumplePiper l otra c s g ↔
    (c.regs.ebx < 256 → c.basura = g.ultimo c.regs.ebx) := by
  unfold CumplePiper
  rw [intSoftSpeed_piper he]
  simp only [Regs.mk.injEq, and_self, and_true]

/-- **The mailboxes.** In every state of a run whose calls respect the tables: a word sent does its
duty just when its mailbox is one of the 256, or the word past them is already the one sent; a word
asked for does, just when the local nobody sets happens to hold the last one sent; and the
mailboxes hold the last words sent. -/
theorem palabras_enviadas (h : Reach (Inicial l) (PasoBueno l otra) (s, g)) :
    (∀ c : Llamada, c.Admite l s.mem → c.regs.eax = SYS_PIPEW → (CumplePipew l otra c s ↔
      c.regs.ebx < 256 ∨ buzon l s.mem c.regs.ebx = c.regs.ecx)) ∧
    (∀ c : Llamada, c.regs.eax = SYS_PIPER → (CumplePiper l otra c s g ↔
      (c.regs.ebx < 256 → c.basura = g.ultimo c.regs.ebx))) ∧
    ∀ k < 256, buzon l s.mem k = g.ultimo k :=
  ⟨fun _ hc he => cumplePipew_iff hc he, fun _ he => cumplePiper_iff he, (inv_reach h).buzones⟩

/-- Task 3 sends 7 to mailbox 1, and asks for it while the local happens to hold it. -/
theorem palabras_enviadas_tres :
    CumplePipew nucleoBin quieta ⟨0, SYS_PIPEW, 1, 7, 0⟩ enTres ∧
      CumplePiper nucleoBin quieta ⟨0, SYS_PIPER, 1, 0, 0⟩ enTres nadie := by
  have h := palabras_enviadas enTres_reach
  exact ⟨(h.1 _ ⟨Or.inr (Or.inl rfl), by decide, enTres_llamador⟩ rfl).mpr (Or.inl (by decide)),
    (h.2.1 _ rfl).mpr fun _ => rfl⟩

/-- The mailbox has been written, and who asks gets the 0 the local holds; a word sent to mailbox
256 lands in the table of `tss`. -/
theorem buzon_perdido :
    Reach (Inicial nucleoBin) (PasoBueno nucleoBin quieta)
      ((intSoftSpeed nucleoBin 0 quieta ⟨SYS_PIPEW, 1, 7, 0⟩ enTres).2,
        ⟨[], Function.update (fun _ => 0) 1 7⟩) ∧
    ¬ CumplePiper nucleoBin quieta ⟨0, SYS_PIPER, 1, 0, 0⟩
      (intSoftSpeed nucleoBin 0 quieta ⟨SYS_PIPEW, 1, 7, 0⟩ enTres).2
      ⟨[], Function.update (fun _ => 0) 1 7⟩ ∧
    ¬ CumplePipew nucleoBin quieta ⟨0, SYS_PIPEW, 256, 7, 0⟩ enTres := by
  refine ⟨enTres_reach.step (a := some ⟨0, SYS_PIPEW, 1, 7, 0⟩)
    ⟨.llamada ⟨Or.inr (Or.inl rfl), by decide, enTres_llamador⟩, ?_⟩, fun h => ?_, fun h => ?_⟩
  · rintro c ⟨⟩
    exact ⟨fun _ => Or.inl (by decide), fun _ => Or.inl (by decide)⟩
  · exact absurd ((cumplePiper_iff rfl).mp h (by decide)) (by decide)
  · have h7 : buzon nucleoBin enTres.mem 256 = 7 :=
      ((cumplePipew_iff ⟨Or.inr (Or.inl rfl), by decide, enTres_llamador⟩ rfl).mp
        h).resolve_left (by decide)
    have h0 : buzon nucleoBin enTres.mem 256 = rd32 (fun _ => 0) 0x13eac0 := by
      refine rd32_congr fun i hi => ?_
      unfold enTres nucleoBin
      simp only
      rw [rd8_wr32_of_disjoint (by decide) (by omega) (by omega),
        rd8_wr32_of_disjoint (by decide) (by omega) (by omega),
        rd8_wr32_of_disjoint (by decide) (by omega) (by omega)]
      exact rd8_iniRInt _ (by omega) (Or.inr (by simp only; omega))
    rw [h7] at h0
    exact absurd h0 (by decide)

end Silicio.Fast
