import Silicio.IoMap
import Silicio.Switching
import Silicio.Turns
import Silicio.Vectors

/-!
The machine the kernel runs on: the processor's change of task, and the code between two changes.

A far jump to a TSS or to a task gate saves the registers in the TSS of the task that leaves, marks
the descriptors and loads the other TSS, after many checks; an interruption through a task gate does
the same, but leaves the old task marked. `task_control` jumps to the task it has chosen; `int 0x40`
and the clock bring in `sys_call` and `sys_control`, which jump back to `task_control`. Each of the
three goes on where its last jump left it.

The registers of a program of the user are its own business: it may load what segments the processor
lets in at its level, but it cannot shut interruptions out. What the kernel's code leaves in its
registers before a jump is not looked at, but for where it goes on. The steps are those that keep
out of the tables of the kernel; within their tables, the other calls of `int 0x41` do not touch
what is here.
-/

namespace Silicio.Processor

open Silicio.Bitmap Silicio.Bytes Silicio.Defs Silicio.Mm Silicio.Mmu Silicio.Paging Silicio.Tasks
open Silicio.Gates Silicio.IoMap Silicio.Ports Silicio.Runs Silicio.Sched Silicio.Syscall
open Silicio.Turns Silicio.Vectors
open Silicio.Boot (soltarVideo)
open Silicio.Contained (Contenida EnTablas Fuera)

/-! ### Registers -/

/-- What a change of task saves and loads. -/
structure Contexto where
  eip : ℕ
  eflag : ℕ
  eax : ℕ
  ecx : ℕ
  edx : ℕ
  ebx : ℕ
  esp : ℕ
  ebp : ℕ
  esi : ℕ
  edi : ℕ
  es : ℕ
  cs : ℕ
  ss : ℕ
  ds : ℕ
  fs : ℕ
  gs : ℕ

def contexto (s : Tss) : Contexto :=
  ⟨s.eip, s.eflag, s.eax, s.ecx, s.edx, s.ebx, s.esp, s.ebp, s.esi, s.edi, s.es, s.cs, s.ss, s.ds,
    s.fs, s.gs⟩

def Contexto.salvar (c : Contexto) (s : Tss) : Tss :=
  { s with
    eip := c.eip, eflag := c.eflag, eax := c.eax, ecx := c.ecx, edx := c.edx, ebx := c.ebx,
    esp := c.esp, ebp := c.ebp, esi := c.esi, edi := c.edi, es := c.es, cs := c.cs, ss := c.ss,
    ds := c.ds, fs := c.fs, gs := c.gs }

/-- The link of a task that is nested in the one of a selector. -/
def enlazar (sel : ℕ) (s : Tss) : Tss := { s with bLink := sel }

def Contexto.param (c : Contexto) : Regs := ⟨c.eax, c.ebx, c.ecx, c.edx⟩

def Contexto.conEax (v : ℕ) (c : Contexto) : Contexto := { c with eax := v }

def Contexto.Abierta (c : Contexto) : Prop := c.eflag.testBit 9 = true

def Contexto.nivel (c : Contexto) : ℕ := c.cs % 4

def Contexto.anidar (c : Contexto) : Contexto := { c with eflag := c.eflag ||| 2 ^ 14 }

/-! ### Descriptors -/

def Presente (d : Gdtp) : Prop := d.acceso.testBit 7 = true

def nivel (d : Gdtp) : ℕ := d.acceso / 2 ^ 5 % 4

/-- The kind of a descriptor, bit 4 included. -/
def tipo (d : Gdtp) : ℕ := d.acceso % 2 ^ 5

def marcar (d : Gdtp) : Gdtp := { d with acceso := d.acceso ||| 2 }

def desmarcar (d : Gdtp) : Gdtp := { d with acceso := d.acceso &&& 0xfd }

/-- The six entries of the LDT of `asm/boot.S`. -/
def ldtBoot : ℕ → Gdtp
  | 2 => ⟨0xffff, 0, 0, 0xfa, 0xcf, 0⟩
  | 3 => ⟨0xffff, 0, 0, 0xf2, 0xcf, 0⟩
  | _ => ⟨0, 0, 0, 0, 0, 0⟩

/-- `gdt_size`, which `gdtr` has for its limit. -/
abbrev GDT_SIZE : ℕ := 8 * 8191

def EnGdt (sel : ℕ) : Prop := sel / 4 % 2 = 0 ∧ sel / 8 ≠ 0 ∧ 8 * (sel / 8) + 7 ≤ GDT_SIZE

instance (sel : ℕ) : Decidable (EnGdt sel) := inferInstanceAs (Decidable (_ ∧ _ ∧ _))

/-- The descriptor of a segment, if its table reaches so far; `dl` is the descriptor of the LDT. -/
def segmento (ldt gdt : ℕ → Gdtp) (dl : Gdtp) (sel : ℕ) : Option Gdtp :=
  if sel / 4 % 2 = 1 then if 8 * (sel / 8) + 7 ≤ limite dl then some (ldt (sel / 8)) else none
  else if EnGdt sel then some (gdt (sel / 8)) else none

def Codigo (sel : ℕ) (d : Gdtp) : Prop :=
  Presente d ∧ tipo d / 8 = 3 ∧ if tipo d / 4 % 2 = 1 then nivel d ≤ sel % 4 else nivel d = sel % 4

def Pila (cpl sel : ℕ) (d : Gdtp) : Prop :=
  Presente d ∧ tipo d / 8 = 2 ∧ tipo d / 2 % 2 = 1 ∧ nivel d = cpl ∧ sel % 4 = cpl

def Datos (cpl sel : ℕ) (d : Gdtp) : Prop :=
  Presente d ∧ (tipo d / 8 = 2 ∨ tipo d / 8 = 3 ∧ tipo d / 2 % 2 = 1) ∧
    (tipo d / 4 = 7 ∨ max cpl (sel % 4) ≤ nivel d)

instance (d : Gdtp) : Decidable (Presente d) := inferInstanceAs (Decidable (_ = _))
instance (sel : ℕ) (d : Gdtp) : Decidable (Codigo sel d) := inferInstanceAs (Decidable (_ ∧ _ ∧ _))
instance (cpl sel : ℕ) (d : Gdtp) : Decidable (Pila cpl sel d) :=
  inferInstanceAs (Decidable (_ ∧ _ ∧ _ ∧ _ ∧ _))
instance (cpl sel : ℕ) (d : Gdtp) : Decidable (Datos cpl sel d) :=
  inferInstanceAs (Decidable (_ ∧ _ ∧ _))

/-- Segments of one level: code, stack, and data segments that are null or may be read. -/
def Segmentos (ldt gdt : ℕ → Gdtp) (dl : Gdtp) (c : Contexto) : Prop :=
  (segmento ldt gdt dl c.cs).any (fun d => Codigo c.cs d) ∧
  (segmento ldt gdt dl c.ss).any (fun d => Pila c.nivel c.ss d) ∧
  ∀ sel ∈ [c.ds, c.es, c.fs, c.gs],
    sel < 4 ∨ (segmento ldt gdt dl sel).any (fun d => Datos c.nivel sel d)

instance (ldt gdt : ℕ → Gdtp) (dl : Gdtp) (c : Contexto) : Decidable (Segmentos ldt gdt dl c) :=
  inferInstanceAs (Decidable (_ ∧ _ ∧ _))

/-- What the processor asks of a TSS it loads: an LDT, here the one at `ldtP`, and segments. -/
def Cargable (l : Link) (ldt gdt : ℕ → Gdtp) (s : Tss) : Prop :=
  let dl := gdt (s.ldt / 8)
  (EnGdt s.ldt ∧ Presente dl ∧ tipo dl = 2 ∧ base dl = l.ldtP % 2 ^ 32) ∧
  Segmentos ldt gdt dl (contexto s)

instance (l : Link) (ldt gdt : ℕ → Gdtp) (s : Tss) : Decidable (Cargable l ldt gdt s) :=
  inferInstanceAs (Decidable (_ ∧ _))

def tssEn (l : Link) (a : ℕ) : Option ℕ :=
  let d := (a + 2 ^ 32 - l.tssP % 2 ^ 32) % 2 ^ 32
  if d % TSS_LEN = 0 ∧ d / TSS_LEN < MAX_TASK then some (d / TSS_LEN) else none

/-! ### The kernel -/

/-- The kernel as it is linked: where its image ends, its tables, the LDT with whatever stands after
it, which its limit reaches, the entry point, stack and name of its own tasks, where each of them
goes on after its jump, the head of the loop of `task_control`, and its routines. -/
structure Nucleo where
  kernelFin : ℕ
  enlace : Link
  ldt : ℕ → Gdtp
  ldt_boot : ∀ i < 6, ldt i = ldtBoot i
  propias : ℕ → ℕ × ℕ × (ℕ → Byte)
  tras : ℕ → ℕ
  bucle : ℕ
  rutinas : Rutinas
  distintos : [bucle, tras 0, (propias 1).1, tras 1, (propias 2).1, tras 2].Nodup

/-! ### The change of task -/

/-- Memory and tables, the registers, the entry of the GDT that `ltr` names, and the locals `tr`
and `acceso` of `task_control`. -/
structure Maquina where
  k : Kernel
  regs : Contexto
  tr : ℕ
  cr3 : ℕ
  guarda : ℕ × ℕ

/-- The tables once the registers are in TSS `t` and the mark, and the link if the new task is
nested, is set for TSS `u`, whose descriptor is entry `j` of the GDT. -/
def cambiado (anidada : Bool) (t u j : ℕ) (m : Maquina) : Kernel :=
  let gdt := if anidada then m.k.gdt else Function.update m.k.gdt m.tr (desmarcar (m.k.gdt m.tr))
  let k := { m.k.updTss (some t) m.regs.salvar with
    gdt := Function.update gdt j (marcar (gdt j)) }
  if anidada then k.updTss (some u) (enlazar (8 * m.tr)) else k

/-- The change to the TSS that entry `j` of the GDT describes, or `none` when a check fails. -/
def cambiar (n : Nucleo) (anidada : Bool) (j : ℕ) (m : Maquina) : Option Maquina := do
  let t ← tssEn n.enlace (base (m.k.gdt m.tr))
  let u ← tssEn n.enlace (base (m.k.gdt j))
  let k := cambiado anidada t u j m
  let s := k.tss (some u)
  if (tipo (m.k.gdt j) = 9 ∧ Presente (m.k.gdt j) ∧ 103 ≤ limite (m.k.gdt j)) ∧
      Cargable n.enlace n.ldt k.gdt s then
    some { m with
      k := k
      regs := if anidada then (contexto s).anidar else contexto s
      tr := j
      cr3 := s.cr3 }
  else none

/-- A far jump to selector `sel`, of a TSS or of a task gate. -/
def saltar (n : Nucleo) (sel : ℕ) (m : Maquina) : Option Maquina :=
  let d := m.k.gdt (sel / 8)
  if ¬ EnGdt sel ∨ nivel d < max m.regs.nivel (sel % 4) then none
  else if tipo d = 5 then
    if Presente d ∧ EnGdt d.baseL then cambiar n false (d.baseL / 8) m else none
  else cambiar n false (sel / 8) m

/-- An interruption by what the table has for it. -/
def interrumpir (n : Nucleo) (g : Option Destino) (m : Maquina) : Option Maquina :=
  match g with
  | some (.tarea sel) => if EnGdt sel then cambiar n true (sel / 8) m else none
  | _ => none

/-! ### The code -/

/-- `ltr(aux-8)`, of the descriptor of `task_control`. -/
def ltr (k : Kernel) : Kernel := { k with gdt := Function.update k.gdt 4 (marcar (k.gdt 4)) }

def Nucleo.arranque (n : Nucleo) (mem : Mem) (mm : Mm) : Kernel :=
  let propia (i : ℕ) (k : Kernel) : Kernel :=
    (execs n.enlace (n.propias i).1 (n.propias i).2.1 (n.propias i).2.2 k).2
  propia 2 (propia 1 (ltr (propia 0
    (iniPag (iniTss (iniLdt n.enlace { Kernel.cargado mem with mm := mm }))))))

/-- The machine when `main` calls `task_control`; `MODE_KERNEL` is 0, so `exec` loads every
module. -/
def Nucleo.Cargado (n : Nucleo) : Kernel → Prop :=
  Reach (fun k => ∃ mem mm, k = n.arranque mem mm) fun k (_ : Unit) k' =>
    ∃ start fin name, k' = (exec n.enlace start fin name k).2

/-- The table of interrupts; `execs` returned 56 and 72 for `sys_call` and `sys_control`. -/
def Nucleo.idt (n : Nucleo) (p : ℕ → Idtp) : ℕ → Idtp := idtMain n.rutinas 56 72 p

structure Propio (n : Nucleo) (k : Kernel) (c c' : Contexto) : Prop where
  nivel : c'.nivel = 3
  segmentos : Segmentos n.ldt k.gdt (k.gdt 3) c'
  abierta : c'.Abierta ↔ c.Abierta

/-- The registers of the kernel's code between two changes of task: the segments stay, and so does
the flag of interruptions. -/
structure Sigue (c c' : Contexto) : Prop where
  cs : c'.cs = c.cs
  ss : c'.ss = c.ss
  ds : c'.ds = c.ds
  es : c'.es = c.es
  fs : c'.fs = c.fs
  gs : c'.gs = c.gs
  abierta : c'.Abierta ↔ c.Abierta

def atrapados (k : Kernel) : Regs := (contexto (k.tssOf k.tIndice)).param

/-- `task_control` after its jump gives the descriptor the access it had before. -/
def restaurar (guarda : ℕ × ℕ) (k : Kernel) : Kernel :=
  { k with gdt := Function.update k.gdt guarda.1 { k.gdt guarda.1 with acceso := guarda.2 } }

/-- What `task_control` reads of the task it has chosen: `tr/8` and `acceso`. -/
def anotar (k : Kernel) (u : ℕ) : ℕ × ℕ :=
  let tr := (k.gdt ((k.rTareas u).task / 8)).baseL
  (tr / 8, (k.gdt (tr / 8)).acceso)

inductive Evento
  | usuario
  | puerto
  | escritura
  | trampa
  | reloj
  | llamada (t : ℕ) (r : Regs)
  | control
  | turno (u : ℕ)

/-- One step. The programs: one runs, asks for a port or gives it back with `int 0x41`, stores a
byte, traps with `int 0x40`. The clock comes in. The kernel's tasks: `sys_call` serves a call,
`sys_control` does nothing, `task_control` lets a task in; each ends in its jump. A machine whose
processor finds a fault is `none`. -/
inductive Paso (n : Nucleo) (p : ℕ → Idtp) : Option Maquina → Evento → Option Maquina → Prop
  | usuario {m : Maquina} {c : Contexto} (h3 : m.regs.nivel = 3) (hc : Propio n m.k m.regs c) :
      Paso n p (some m) .usuario (some { m with regs := c })
  | setPort {m : Maquina} {q : ℕ} (h3 : m.regs.nivel = 3) (hq : q < 8 * TSS_PORT) :
      Paso n p (some m) .puerto (some { m with
        k := (setPort q m.k).2, regs := m.regs.conEax (registro (setPort q m.k).1) })
  | unsetPort {m : Maquina} {q : ℕ} (h3 : m.regs.nivel = 3) (hq : q < 8 * TSS_PORT) :
      Paso n p (some m) .puerto (some { m with
        k := (unsetPort q m.k).2, regs := m.regs.conEax (registro (unsetPort q m.k).1) })
  | escritura {m : Maquina} {v : ℕ} {b : Byte} (h3 : m.regs.nivel = 3)
      (hw : UserWrite m.k.mem m.cr3 v) (hf : Fuera n.kernelFin (phys m.k.mem m.cr3 v))
      (ht : ¬ EnTablas m.k (phys m.k.mem m.cr3 v)) :
      Paso n p (some m) .escritura
        (some { m with k := { m.k with mem := wr8 m.k.mem (phys m.k.mem m.cr3 v) b } })
  | trampa {m : Maquina} (h3 : m.regs.nivel = 3) : Paso n p (some m) .trampa
      (interrumpir n (pedida (n.idt p) m.regs.nivel 0x40) m)
  | reloj {m : Maquina} (hi : m.regs.Abierta) : Paso n p (some m) .reloj
      (interrumpir n (n.idt p 16).destino m)
  | llamada {m : Maquina} {c : Contexto} (basura : ℕ → ℕ)
      (he : m.regs.cs = KERNEL_CS ∧ (m.regs.eip = (n.propias 1).1 ∨ m.regs.eip = n.tras 1))
      (hc : Sigue m.regs c) (hl : Contenida n.kernelFin (atrapados m.k) m.k) :
      Paso n p (some m) (.llamada m.k.tIndice (atrapados m.k))
        (saltar n 0x20
          { m with k := sysCall basura m.k, regs := { c with eip := n.tras 1 } })
  | control {m : Maquina} {c : Contexto}
      (he : m.regs.cs = KERNEL_CS ∧ (m.regs.eip = (n.propias 2).1 ∨ m.regs.eip = n.tras 2))
      (hc : Sigue m.regs c) : Paso n p (some m) .control
        (saltar n 0x20 { m with regs := { c with eip := n.tras 2 } })
  | turno {m : Maquina} {c : Contexto} {u : ℕ} {k : Kernel}
      (he : m.regs.cs = KERNEL_CS)
      (hk : m.regs.eip = n.bucle ∧ k = m.k ∨ m.regs.eip = n.tras 0 ∧ k = restaurar m.guarda m.k)
      (hu : Decide k.rTareas k.tIndice u) (hc : Sigue m.regs c) : Paso n p (some m) (.turno u)
        (saltar n (k.rTareas u).task
          { m with
            k := { k with tIndice := u }, regs := { c with eip := n.tras 0 },
            guarda := anotar k u })

/-- `task_control` has begun: the processor runs with the kernel's segments, no interruption let
in, in the task `ltr` was told. -/
structure Inicial (n : Nucleo) (m : Maquina) : Prop where
  cargado : ∃ k, n.Cargado k ∧ m.k = soltarVideo k
  eip : m.regs.eip = n.bucle
  segmentos : m.regs.cs = KERNEL_CS ∧ m.regs.ss = KERNEL_DS ∧ m.regs.ds = KERNEL_DS ∧
    m.regs.es = KERNEL_DS ∧ m.regs.fs = KERNEL_DS ∧ m.regs.gs = KERNEL_DS
  cerrada : ¬ m.regs.Abierta
  tr : m.tr = 4
  cr3 : m.cr3 = m.k.gDir

end Silicio.Processor
