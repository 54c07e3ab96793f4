import Silicio.Bitmap

/-!
The handshake with the floppy controller: `fd_out` and `fd_in` of `fd/fd.c`.

The controller says on port 0x3f4 whether it takes a byte or has one, and bytes go through 0x3f5.
A call asks up to a million times, and leaves its loop the same way when the answer came and when it
did not: what it does next hangs on the last answer, which may be neither the one waited for nor 0.
-/

namespace Silicio.Floppy

open Silicio.Bitmap

inductive Suceso
  | inb (port : ℕ)
  | outb (port : ℕ) (val : Byte)
  | printk (s : String)
  deriving DecidableEq

/-- What the reads of each port will give, in order, and what was done, the last first. -/
structure Bus where
  resp : ℕ → ℕ → Byte
  log : List Suceso

def Bus.inb (port : ℕ) (s : Bus) : Byte × Bus :=
  (s.resp port 0,
    ⟨Function.update s.resp port fun k => s.resp port (k + 1), Suceso.inb port :: s.log⟩)

def Bus.outb (port : ℕ) (val : Byte) (s : Bus) : Bus := { s with log := .outb port val :: s.log }

def Bus.printk (txt : String) (s : Bus) : Bus := { s with log := .printk txt :: s.log }

/-- `do { c = inb(0x3f4) & mask; if (c == listo) break; i--; } while (i);`, with `c` as it is before
a turn. -/
def sondeo (mask listo : Byte) : ℕ → Byte → Bus → Byte × Bus
  | 0, c, s => (c, s)
  | i + 1, _, s =>
    let (b, s) := s.inb 0x3f4
    let c := b &&& mask
    if c = listo then (c, s) else sondeo mask listo i c s

def fdOut (val : Byte) (s : Bus) : Bus :=
  let (c, s) := sondeo (0x80 ||| 0x40) 0x80 1000000 0 s
  if c = 0 then s.printk "fd : fd_out() : Tiempo excedido\n"
  else s.outb 0x3f5 val

def fdIn (s : Bus) : Byte × Bus :=
  let (c, s) := sondeo (0x80 ||| 0x40 ||| 0x10) (0x80 ||| 0x40 ||| 0x10) 1000000 0 s
  if c = 0 then (0, s.printk "kernel : fd : Tiempo excedido\n")
  else s.inb 0x3f5

/-- Status `b` is what `fd_out` waits for. -/
def Recibe (b : Byte) : Prop := b.getLsbD 7 = true ∧ b.getLsbD 6 = false

/-- Status `b` is what `fd_in` waits for. -/
def Entrega (b : Byte) : Prop := b.getLsbD 7 = true ∧ b.getLsbD 6 = true ∧ b.getLsbD 4 = true

def Bus.Alguna (P : Byte → Prop) (n : ℕ) (s : Bus) : Prop := ∃ k < n, P (s.resp 0x3f4 k)

def Bus.escritos (s : Bus) : List (ℕ × Byte) :=
  s.log.filterMap fun | .outb port val => some (port, val) | _ => none

def Bus.leidos (port : ℕ) (s : Bus) : ℕ := s.log.count (.inb port)

/-- What `fd_out` owes: the byte is written once if the controller takes it, and else nothing is. -/
structure CumpleOut (val : Byte) (s : Bus) : Prop where
  escribe : s.Alguna Recibe 1000000 → (fdOut val s).escritos = (0x3f5, val) :: s.escritos
  calla : ¬ s.Alguna Recibe 1000000 → (fdOut val s).escritos = s.escritos

/-- What `fd_in` owes: one byte is read if the controller has it, and else none is. -/
structure CumpleIn (s : Bus) : Prop where
  lee : s.Alguna Entrega 1000000 → (fdIn s).2.leidos 0x3f5 = s.leidos 0x3f5 + 1
  calla : ¬ s.Alguna Entrega 1000000 →
    (fdIn s).2.leidos 0x3f5 = s.leidos 0x3f5 ∧ (fdIn s).1 = 0

variable {mask listo c val : Byte} {n k : ℕ} {s : Bus}

/-! ### The loop -/

def Bus.tras (k : ℕ) (s : Bus) : Bus :=
  ⟨Function.update s.resp 0x3f4 fun j => s.resp 0x3f4 (j + k),
    List.replicate k (Suceso.inb 0x3f4) ++ s.log⟩

lemma Bus.tras_zero (s : Bus) : s.tras 0 = s := by
  unfold Bus.tras
  simp only [Nat.add_zero, Function.update_eq_self, List.replicate_zero, List.nil_append]

lemma Bus.tras_succ (k : ℕ) (s : Bus) : (s.inb 0x3f4).2.tras k = s.tras (k + 1) := by
  unfold Bus.tras Bus.inb
  simp only [Function.update_self, Function.update_idem, Bus.mk.injEq]
  refine ⟨congrArg _ (funext fun j => by rw [Nat.add_assoc]), ?_⟩
  rw [List.replicate_succ', List.append_assoc, List.singleton_append]

lemma inb_resp (s : Bus) (k : ℕ) : (s.inb 0x3f4).2.resp 0x3f4 k = s.resp 0x3f4 (k + 1) := by
  simp only [Bus.inb, Function.update_self]

/-- **What the loop has when it ends**: the answer waited for, at the first place it comes, or that
of the last turn. -/
lemma sondeo_eq (mask listo : Byte) (n : ℕ) (c : Byte) (s : Bus) :
    (∃ k < n, s.resp 0x3f4 k &&& mask = listo ∧ (∀ j < k, s.resp 0x3f4 j &&& mask ≠ listo) ∧
      sondeo mask listo n c s = (listo, s.tras (k + 1))) ∨
    (∀ k < n, s.resp 0x3f4 k &&& mask ≠ listo) ∧
      sondeo mask listo n c s = (if n = 0 then c else s.resp 0x3f4 (n - 1) &&& mask, s.tras n) := by
  induction n generalizing c s with
  | zero => exact Or.inr ⟨fun k hk => absurd hk (Nat.not_lt_zero k), by rw [s.tras_zero]; rfl⟩
  | succ n ih =>
    unfold sondeo
    simp only
    by_cases h0 : s.resp 0x3f4 0 &&& mask = listo
    · refine Or.inl ⟨0, Nat.succ_pos n, h0, fun j hj => absurd hj (Nat.not_lt_zero j), ?_⟩
      rw [if_pos (show (s.inb 0x3f4).1 &&& mask = listo from h0), ← s.tras_succ,
        Bus.tras_zero, show (s.inb 0x3f4).1 &&& mask = listo from h0]
    · rw [if_neg (show ¬ (s.inb 0x3f4).1 &&& mask = listo from h0)]
      -- the turns left meet the answers from the second on
      rcases ih ((s.inb 0x3f4).1 &&& mask) (s.inb 0x3f4).2 with ⟨k, hk, hl, hno, he⟩ | ⟨hno, he⟩
      · rw [inb_resp] at hl
        refine Or.inl ⟨k + 1, Nat.succ_lt_succ hk, hl, fun j hj => ?_, by rw [he, s.tras_succ]⟩
        rcases j with _ | j
        · exact h0
        · rw [← inb_resp]
          exact hno j (Nat.lt_of_succ_lt_succ hj)
      · refine Or.inr ⟨fun k hk => ?_, ?_⟩
        · rcases k with _ | k
          · exact h0
          · rw [← inb_resp]
            exact hno k (Nat.lt_of_succ_lt_succ hk)
        · rw [he, s.tras_succ, inb_resp, if_neg (Nat.succ_ne_zero n)]
          rcases n with _ | n
          · rfl
          · rfl

lemma escritos_tras (k : ℕ) (s : Bus) : (s.tras k).escritos = s.escritos := by
  unfold Bus.escritos Bus.tras
  rw [List.filterMap_append, List.filterMap_eq_nil_iff.mpr, List.nil_append]
  intro a ha
  rw [List.eq_of_mem_replicate ha]

lemma leidos_tras (k : ℕ) (s : Bus) : (s.tras k).leidos 0x3f5 = s.leidos 0x3f5 := by
  unfold Bus.leidos Bus.tras
  rw [List.count_append, List.count_eq_zero.mpr, Nat.zero_add]
  intro ha
  exact absurd (List.eq_of_mem_replicate ha) (by decide)

lemma escritos_outb (port : ℕ) (val : Byte) (s : Bus) :
    (s.outb port val).escritos = (port, val) :: s.escritos := rfl

lemma escritos_printk (txt : String) (s : Bus) : (s.printk txt).escritos = s.escritos := rfl

lemma leidos_inb (port : ℕ) (s : Bus) : (s.inb port).2.leidos port = s.leidos port + 1 :=
  List.count_cons_self

lemma leidos_printk (txt : String) (port : ℕ) (s : Bus) :
    (s.printk txt).leidos port = s.leidos port :=
  List.count_cons_of_ne (fun h => by cases h)

/-! ### The two calls -/

lemma recibe_iff (b : Byte) : Recibe b ↔ b &&& (0x80 ||| 0x40) = 0x80 := by
  revert b
  unfold Recibe
  decide

lemma entrega_iff (b : Byte) :
    Entrega b ↔ b &&& (0x80 ||| 0x40 ||| 0x10) = 0x80 ||| 0x40 ||| 0x10 := by
  revert b
  unfold Entrega
  decide

/-- **How a loop of `n` turns ends**: with the answer waited for, if one of the first `n` is it, and
else with the last of them, masked. -/
lemma sondeo_termina {P : Byte → Prop} (hP : ∀ b, P b ↔ b &&& mask = listo) (hn : n ≠ 0) (c : Byte)
    (s : Bus) : (s.Alguna P n ∧ ∃ k, sondeo mask listo n c s = (listo, s.tras k)) ∨
      ¬ s.Alguna P n ∧ sondeo mask listo n c s = (s.resp 0x3f4 (n - 1) &&& mask, s.tras n) := by
  rcases sondeo_eq mask listo n c s with ⟨k, hk, hl, -, he⟩ | ⟨hno, he⟩
  · exact Or.inl ⟨⟨k, hk, (hP _).mpr hl⟩, k + 1, he⟩
  · rw [if_neg hn] at he
    refine Or.inr ⟨?_, he⟩
    rintro ⟨k, hk, hp⟩
    exact hno k hk ((hP _).mp hp)

lemma cumpleOut_iff (val : Byte) (s : Bus) : CumpleOut val s ↔
    s.Alguna Recibe 1000000 ∨ s.resp 0x3f4 999999 &&& (0x80 ||| 0x40) = 0 := by
  rcases sondeo_termina recibe_iff (show 1000000 ≠ 0 by decide) 0 s with ⟨h, k, he⟩ | ⟨h, he⟩
  · refine iff_of_true ⟨fun _ => ?_, fun hc => absurd h hc⟩ (Or.inl h)
    unfold fdOut
    rw [he]
    simp only
    rw [if_neg (by decide), escritos_outb, escritos_tras]
  · have hout : fdOut val s = if s.resp 0x3f4 999999 &&& (0x80 ||| 0x40) = 0
        then (s.tras 1000000).printk "fd : fd_out() : Tiempo excedido\n"
        else (s.tras 1000000).outb 0x3f5 val := by
      unfold fdOut
      rw [he]
    rw [or_iff_right h]
    constructor
    · intro hc
      by_contra h0
      have hw := hc.calla h
      rw [hout, if_neg h0, escritos_outb, escritos_tras] at hw
      exact absurd hw (List.cons_ne_self _ _)
    · intro h0
      refine ⟨fun hc => absurd hc h, fun _ => ?_⟩
      rw [hout, if_pos h0, escritos_printk, escritos_tras]

lemma cumpleIn_iff (s : Bus) : CumpleIn s ↔
    s.Alguna Entrega 1000000 ∨ s.resp 0x3f4 999999 &&& (0x80 ||| 0x40 ||| 0x10) = 0 := by
  rcases sondeo_termina entrega_iff (show 1000000 ≠ 0 by decide) 0 s with ⟨h, k, he⟩ | ⟨h, he⟩
  · refine iff_of_true ⟨fun _ => ?_, fun hc => absurd h hc⟩ (Or.inl h)
    unfold fdIn
    rw [he]
    simp only
    rw [if_neg (by decide), leidos_inb, leidos_tras]
  · have hin : fdIn s = if s.resp 0x3f4 999999 &&& (0x80 ||| 0x40 ||| 0x10) = 0
        then (0, (s.tras 1000000).printk "kernel : fd : Tiempo excedido\n")
        else (s.tras 1000000).inb 0x3f5 := by
      unfold fdIn
      rw [he]
    rw [or_iff_right h]
    constructor
    · intro hc
      by_contra h0
      have hw := (hc.calla h).1
      rw [hin, if_neg h0, leidos_inb, leidos_tras] at hw
      exact absurd hw (Nat.succ_ne_self _)
    · intro h0
      refine ⟨fun hc => absurd hc h, fun _ => ?_⟩
      rw [hin, if_pos h0]
      exact ⟨by rw [leidos_printk, leidos_tras], rfl⟩

/-- **The handshake.** Whatever the controller answers, `fd_out` and `fd_in` do what they owe just
when one of the first million answers is the one waited for, or the last of them has none of the
bits looked at. -/
theorem sondeo_cumple (val : Byte) (s : Bus) :
    (CumpleOut val s ↔
      s.Alguna Recibe 1000000 ∨ s.resp 0x3f4 999999 &&& (0x80 ||| 0x40) = 0) ∧
    (CumpleIn s ↔
      s.Alguna Entrega 1000000 ∨ s.resp 0x3f4 999999 &&& (0x80 ||| 0x40 ||| 0x10) = 0) :=
  ⟨cumpleOut_iff val s, cumpleIn_iff s⟩

def fijo (b : Byte) : Bus := ⟨fun _ _ => b, []⟩

/-- A controller that waits to be read is written to, and one that waits to be written is read. -/
theorem sondeo_al_reves : ¬ CumpleOut 0x10 (fijo 0xc0) ∧ ¬ CumpleIn (fijo 0x80) := by
  constructor
  · rw [cumpleOut_iff]
    rintro (⟨k, -, h⟩ | h)
    · exact absurd (show (0xc0#8).getLsbD 6 = false from h.2) (by decide)
    · exact absurd h (by decide)
  · rw [cumpleIn_iff]
    rintro (⟨k, -, h⟩ | h)
    · exact absurd (show (0x80#8).getLsbD 6 = true from h.2.1) (by decide)
    · exact absurd h (by decide)

end Silicio.Floppy
