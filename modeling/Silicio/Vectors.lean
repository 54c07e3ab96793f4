import Silicio.Loop
import Silicio.Mask

/-!
Interrupts, from the wire to the routine: the table of `int/int.c`, and the two 8259 that
`set_8259` of `stdio/stdio.c` sets up.

An entry of the table holds the address of its routine in two halves. A program may ask with
`int n` for the entries of its level; the wires of a chip come in at the numbers from a base the
chip was told, in a few bytes that go to the same ports as its mask does later. What a byte means
to a chip depends on those before it.
-/

namespace Silicio.Vectors

open Silicio.Loop Silicio.Bitmap

/-! ### The table -/

structure Idtp where
  despL : ℕ
  selec : ℕ
  cont : ℕ
  acceso : ℕ
  despH : ℕ

def ptoshort (func : ℕ) : ℕ × ℕ := (0xffff &&& func, 0xffff &&& (func >>> 16))

def addInt (numInt funcion : ℕ) (p : ℕ → Idtp) (acceso selec cont : ℕ) : ℕ → Idtp :=
  let (pl, ph) := ptoshort funcion
  Function.update p numInt ⟨pl, selec, cont, acceso, ph⟩

/-- The addresses of the routines: `intnula`, `int_00` to `int_0f`, `int_hard_17` and
`int_soft_speed`. -/
structure Rutinas where
  nula : ℕ
  excepcion : ℕ → ℕ
  hard17 : ℕ
  softSpeed : ℕ
  nula_lt : nula < 2 ^ 32
  excepcion_lt : ∀ i, excepcion i < 2 ^ 32
  hard17_lt : hard17 < 2 ^ 32
  softSpeed_lt : softSpeed < 2 ^ 32

def intSet (f : Rutinas) (p : ℕ → Idtp) : ℕ → Idtp :=
  let p := loop (fun i p => addInt i f.nula p 0x8e 0x8 0) 256 p
  let p := loop (fun i p => addInt i (f.excepcion i) p 0x8e 0x8 0) 16 p
  let p := addInt 17 f.hard17 p 0x8e 0x8 0
  addInt 0x41 f.softSpeed p 0xee 0x8 0

/-- `aux - 8`, as the `unsigned short` that `add_int` takes. -/
def selector (aux : ℕ) : ℕ := (aux + 2 ^ 32 - 8) % 2 ^ 16

/-- The table when `main` calls `task_control`; `call` and `control` are what `execs` returned for
the tasks `sys_call` and `sys_control`. -/
def idtMain (f : Rutinas) (call control : ℕ) (p : ℕ → Idtp) : ℕ → Idtp :=
  let p := intSet f p
  let p := addInt 0x40 0 p 0xe5 (selector call) 0
  addInt 16 0 p 0x85 (selector control) 0

/-! ### The processor at the table -/

inductive Destino
  | tarea (selec : ℕ)
  | rutina (selec dir : ℕ)
  deriving DecidableEq

def Idtp.nivel (d : Idtp) : ℕ := d.acceso / 2 ^ 5 % 4

/-- An entry that is present and a gate: to a task, or of 32 bits to a routine. -/
def Idtp.destino (d : Idtp) : Option Destino :=
  if d.acceso / 2 ^ 7 % 2 = 0 then none
  else if d.acceso % 2 ^ 5 = 0x5 then some (.tarea d.selec)
  else if d.acceso % 2 ^ 5 = 0xe then some (.rutina d.selec (d.despL + 2 ^ 16 * d.despH))
  else none

/-- `int n` in a program of level `cpl`. -/
def pedida (idt : ℕ → Idtp) (cpl n : ℕ) : Option Destino :=
  if cpl ≤ (idt n).nivel then (idt n).destino else none

def Rutinas.de (f : Rutinas) (n : ℕ) : ℕ :=
  if n < 16 then f.excepcion n
  else if n = 17 then f.hard17
  else if n = 0x41 then f.softSpeed
  else f.nula

variable {f : Rutinas} {p : ℕ → Idtp} {call control n i : ℕ}

lemma addInt_apply (numInt funcion : ℕ) (p : ℕ → Idtp) (acceso selec cont j : ℕ) :
    addInt numInt funcion p acceso selec cont j =
      if j = numInt then ⟨(ptoshort funcion).1, selec, cont, acceso, (ptoshort funcion).2⟩
      else p j := Function.update_apply _ _ _ _

lemma ptoshort_junta {func : ℕ} (h : func < 2 ^ 32) :
    (ptoshort func).1 + 2 ^ 16 * (ptoshort func).2 = func := by
  have hand : ∀ x, 0xffff &&& x = x % 2 ^ 16 := fun x => by
    rw [Nat.and_comm]
    exact Nat.and_two_pow_sub_one_eq_mod x 16
  simp only [ptoshort, hand, Nat.shiftRight_eq_div_pow]
  omega

lemma addInt_loop (g : ℕ → ℕ) (acceso selec cont m : ℕ) (p : ℕ → Idtp) (j : ℕ) :
    loop (fun i p => addInt i (g i) p acceso selec cont) m p j =
      if j < m then ⟨(ptoshort (g j)).1, selec, cont, acceso, (ptoshort (g j)).2⟩ else p j := by
  exact loop_update
    (fun i => (⟨(ptoshort (g i)).1, selec, cont, acceso, (ptoshort (g i)).2⟩ : Idtp)) m p j

lemma Rutinas.de_lt (f : Rutinas) (n : ℕ) : f.de n < 2 ^ 32 := by
  unfold Rutinas.de
  split_ifs
  · exact f.excepcion_lt n
  · exact f.hard17_lt
  · exact f.softSpeed_lt
  · exact f.nula_lt

/-- **Every entry**: the two gates to tasks, and a routine in all the others. -/
lemma idtMain_apply (hn : n < 256) : idtMain f call control p n =
    if n = 16 then ⟨0, selector control, 0, 0x85, 0⟩
    else if n = 0x40 then ⟨0, selector call, 0, 0xe5, 0⟩
    else ⟨(ptoshort (f.de n)).1, 0x8, 0, if n = 0x41 then 0xee else 0x8e,
      (ptoshort (f.de n)).2⟩ := by
  unfold idtMain intSet Rutinas.de
  simp only [addInt_apply, addInt_loop]
  split_ifs <;> first | rfl | omega

lemma idtMain_destino (hn : n < 256) : (idtMain f call control p n).destino = some
    (if n = 16 then .tarea (selector control) else if n = 0x40 then .tarea (selector call)
      else .rutina 0x8 (f.de n)) := by
  have hj := ptoshort_junta (f.de_lt n)
  rw [idtMain_apply hn]
  by_cases h16 : n = 16
  · simp [h16, Idtp.destino]
  by_cases h40 : n = 0x40
  · simp [h40, Idtp.destino]
  by_cases h41 : n = 0x41
  · subst h41
    simpa [Idtp.destino] using hj
  · simpa [h16, h40, h41, Idtp.destino] using hj

/-- **The table of interrupts.** After `main` each of the 256 entries leads where it should: 0x40
and 16 to the tasks `sys_call` and `sys_control`, the others to their routine, with the address it
has; and of all of them a program of level 3 can ask for 0x40 and 0x41 only. -/
theorem tabla_completa (f : Rutinas) (call control : ℕ) (p : ℕ → Idtp) {n : ℕ} (hn : n < 256) :
    (idtMain f call control p n).destino = some
      (if n = 16 then .tarea (selector control) else if n = 0x40 then .tarea (selector call)
        else .rutina 0x8 (f.de n)) ∧
    pedida (idtMain f call control p) 3 n =
      if n = 0x40 ∨ n = 0x41 then (idtMain f call control p n).destino else none := by
  refine ⟨idtMain_destino hn, ?_⟩
  have hnivel : 3 ≤ (idtMain f call control p n).nivel ↔ n = 0x40 ∨ n = 0x41 := by
    rw [idtMain_apply hn, Idtp.nivel]
    by_cases h16 : n = 16
    · simp [h16]
    by_cases h40 : n = 0x40
    · simp [h40]
    by_cases h41 : n = 0x41
    · simp [h41]
    · simp [h16, h40, h41]
  unfold pedida
  simp only [hnivel]

def rutinasUno : Rutinas :=
  ⟨0x110000, fun _ => 0x110100, 0x110200, 0x110300, by decide, fun _ => by decide, by decide,
    by decide⟩

/-- The table of interrupts as it is loaded, with routines at some addresses. -/
def tablaUno : ℕ → Idtp := fun _ => ⟨0, 0, 0, 0, 0⟩

theorem tabla_completa_llamada :
    pedida (idtMain rutinasUno 56 72 tablaUno) 3 0x40 = some (.tarea 48) := by
  have h := tabla_completa rutinasUno 56 72 tablaUno (show 0x40 < 256 by decide)
  rw [h.2, h.1]
  rfl

/-! ### The two chips -/

/-- Which byte of its setting up a chip waits for on its second port. -/
inductive Espera
  | icw2 | icw3 | icw4 | nada
  deriving DecidableEq, Repr

/-- An 8259, but for the lines in service. -/
structure Chip where
  espera : Espera
  /-- A fourth byte was announced. -/
  cuatro : Bool
  /-- It was told that there is no second chip. -/
  sola : Bool
  base : Byte
  mascara : Byte
  deriving DecidableEq

/-- A byte on the first port: bit 4 begins to set the chip up, which opens all its lines. -/
def Chip.comando (val : Byte) (c : Chip) : Chip :=
  if val.getLsbD 4 then ⟨.icw2, val.getLsbD 0, val.getLsbD 1, c.base, 0⟩ else c

def Chip.dato (val : Byte) (c : Chip) : Chip :=
  match c.espera with
  | .icw2 =>
    { c with
      base := val &&& 0xf8
      espera := if c.sola then if c.cuatro then .icw4 else .nada else .icw3 }
  | .icw3 => { c with espera := if c.cuatro then .icw4 else .nada }
  | .icw4 => { c with espera := .nada }
  | .nada => { c with mascara := val }

structure Chips where
  maestro : Chip
  esclavo : Chip

def Chips.outb (w : ℕ × Byte) (s : Chips) : Chips :=
  if w.1 = 0x20 then { s with maestro := s.maestro.comando w.2 }
  else if w.1 = 0x21 then { s with maestro := s.maestro.dato w.2 }
  else if w.1 = 0xa0 then { s with esclavo := s.esclavo.comando w.2 }
  else if w.1 = 0xa1 then { s with esclavo := s.esclavo.dato w.2 }
  else s

def Chips.tras (salida : List (ℕ × Byte)) (s : Chips) : Chips :=
  salida.foldl (fun s w => s.outb w) s

/-- The number line `i` comes in with, if the chip works and lets it through. -/
def Chip.vector (i : ℕ) (c : Chip) : Option ℕ :=
  if c.espera = .nada ∧ c.mascara.getLsbD i = false then some (c.base.toNat + i) else none

/-- What is done to the chips after the boot: a call of `int_up` or `int_down`, and
`reset_8259`, which every routine and every turn of `task_control` ends with. -/
inductive Orden
  | llamada (c : Mask.Llamada)
  | reset

def Orden.ejecutar (s : Mask.Pic) : Orden → Mask.Pic
  | .llamada c => (Mask.ejecutar c s).2
  | .reset => Mask.outb 0x20 0x20#8 s

def correr (es : List Orden) (s : Mask.Pic) : Mask.Pic := es.foldl Orden.ejecutar s

/-- Both chips are set up, the second is shut, and the first has the mask last written. -/
structure Puestos (s : Mask.Pic) (q : Chips) : Prop where
  espera : q.maestro.espera = .nada
  base : q.maestro.base = 0x10#8
  mascara : q.maestro.mascara = Mask.mascara s
  esclavo : q.esclavo.espera = .nada ∧ q.esclavo.base = 0x18#8 ∧ q.esclavo.mascara = 0xff#8

lemma tras_outb (s : Mask.Pic) (port : ℕ) (val : Byte) (q : Chips) :
    q.tras (Mask.outb port val s).salida = (q.tras s.salida).outb (port, val) := by
  unfold Chips.tras Mask.outb
  simp only [List.foldl_append, List.foldl_cons, List.foldl_nil]

/-- The boot sets the chips up, whatever they were before. -/
lemma puestos_arranque (q : Chips) : Puestos Mask.arranque (q.tras Mask.arranque.salida) :=
  ⟨rfl, rfl, rfl, rfl, rfl, rfl⟩

/-- A mask written to a chip that is set up is a mask. -/
lemma Puestos.outb_mask {s s' : Mask.Pic} {q : Chips} (h : Puestos s (q.tras s.salida)) (val : Byte)
    (hs : s'.salida = s.salida) :
    Puestos (Mask.outb 0x21 val s') (q.tras (Mask.outb 0x21 val s').salida) := by
  rw [tras_outb, hs]
  refine ⟨?_, ?_, ?_, h.esclavo⟩
  · simp [Chips.outb, Chip.dato, h.espera]
  · simp [Chips.outb, Chip.dato, h.espera, h.base]
  · simp [Chips.outb, Chip.dato, h.espera]

/-- **The step lemma.** -/
lemma Puestos.paso {s : Mask.Pic} {q : Chips} (h : Puestos s (q.tras s.salida)) (e : Orden) :
    Puestos (e.ejecutar s) (q.tras (e.ejecutar s).salida) := by
  cases e with
  | llamada c =>
    simp only [Orden.ejecutar, Mask.ejecutar_eq]
    split
    · exact h.outb_mask _ rfl
    · exact h
  | reset =>
    simp only [Orden.ejecutar, tras_outb]
    refine ⟨?_, ?_, ?_, h.esclavo⟩
    · simp [Chips.outb, Chip.comando, h.espera]
    · simp [Chips.outb, Chip.comando, h.base]
    · simp [Chips.outb, Chip.comando, h.mascara]

lemma puestos_correr (es : List Orden) (q : Chips) :
    Puestos (correr es Mask.arranque) (q.tras (correr es Mask.arranque).salida) := by
  induction es using List.reverseRecOn with
  | nil => exact puestos_arranque q
  | append_singleton es e ih =>
    unfold correr at ih ⊢
    rw [List.foldl_append]
    exact ih.paso e

/-- **Every line has its routine.** After the boot, which ends with the mask `task_control` sets,
and any run of `int_up`, `int_down` and `reset_8259`, whatever the chips were before: line `i` of
the first chip comes in just when the mask last written lets it, at entry 16 + `i`, where the table
has the task `sys_control` for the clock, `int_hard_17` for the keyboard and `intnula` for the rest;
no line of the second chip comes in. No line is taken to be in service. -/
theorem lineas_atendidas (f : Rutinas) (call control : ℕ) (p : ℕ → Idtp) (es : List Orden)
    (q : Chips) {i : ℕ} (hi : i < 8) :
    let s := correr es Mask.arranque
    ((q.tras s.salida).maestro.vector i =
      if (Mask.mascara s).getLsbD i then none else some (16 + i)) ∧
    (q.tras s.salida).esclavo.vector i = none ∧
    (idtMain f call control p (16 + i)).destino = some
      (if i = 0 then .tarea (selector control)
        else .rutina 0x8 (if i = 1 then f.hard17 else f.nula)) := by
  intro s
  have h : Puestos s (q.tras s.salida) := puestos_correr es q
  refine ⟨?_, ?_, ?_⟩
  · unfold Chip.vector
    rw [h.espera, h.base, h.mascara]
    cases (Mask.mascara s).getLsbD i <;> simp
  · have hff : (0xff#8).getLsbD i = true := by
      interval_cases i <;> rfl
    unfold Chip.vector
    rw [h.esclavo.2.2, hff, if_neg (by simp)]
  · rw [idtMain_destino (by omega)]
    unfold Rutinas.de
    split_ifs <;> first | omega | rfl

/-- The keyboard's line, in a machine whose chips have not been set up. -/
theorem lineas_atendidas_teclado :
    let apagado : Chip := ⟨.nada, false, false, 0, 0⟩
    ((Chips.mk apagado apagado).tras (correr [.reset] Mask.arranque).salida).maestro.vector 1 =
      some 17 := by
  intro apagado
  have hm : Mask.mascara (correr [.reset] Mask.arranque) = 0xdc#8 := by
    simp [correr, Orden.ejecutar, Mask.arranque]
  rw [(lineas_atendidas rutinasUno 56 72 tablaUno [.reset] ⟨apagado, apagado⟩
    (show 1 < 8 by decide)).1, hm]
  rfl

end Silicio.Vectors
