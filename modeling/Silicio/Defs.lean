import Silicio.Bytes

/-!
The data of the kernel: the constants of its headers, the records of its tables, and one
state that holds every global the memory manager and the task manager share.

An `unsigned long` is 32 bits wide and is kept as a natural number; arithmetic that may
leave the 32 bits is reduced where the source computes it. An array is a function of its
index, and stands apart from the other globals: what the function has past the end of the array
is nobody else's, while the code finds there the globals the linker put next. So a map that is
reached with an index of the caller's, `mem_map`, `r_port` or the map of ports of a TSS, is the
code's as long as the index is in it; `Overrun` and `PortBytes` have what follows. A pointer into
`tss_p` is the index it points at, and `none` is the null pointer.
-/

namespace Silicio.Defs

open Silicio.Bitmap Silicio.Bytes

/-! ### Constants -/

abbrev PAG_OK : ℕ := 0
abbrev PAG_ERROR : ℕ := 1
abbrev MEGABYTES : ℕ := 1024 * 1024
abbrev PAG_LEN : ℕ := 4 * 1024
abbrev PAG_MEM : ℕ := 1024 * 1024
abbrev SEC_MEM : ℕ := 8
abbrev MAP_LEN : ℕ := PAG_MEM / SEC_MEM

abbrev KERNEL_INI : ℕ := 0x100000
abbrev DIR_PAG_LEN : ℕ := 1024
abbrev TAB_PAG_LEN : ℕ := 1024
abbrev CAN_TAB_PAG : ℕ := 1024

abbrev KERNEL_DS : ℕ := 0x10
abbrev KERNEL_CS : ℕ := 0x08
abbrev USER_CS : ℕ := 0x17
abbrev USER_DS : ℕ := 0x1f
abbrev MAX_TASK : ℕ := 100
abbrev MAX_DRIVERS : ℕ := 10
abbrev MAX_GDT : ℕ := 200
abbrev MAX_PAG_DRIVER : ℕ := 14
abbrev MAX_PAG_VIRTUAL : ℕ := 14
abbrev MAX_STRING : ℕ := 1024
abbrev TAM_LDT : ℕ := 5 * 8
abbrev TSS_PORT : ℕ := 256
abbrev V_USER : ℕ := 0x300
abbrev V_STACK : ℕ := 0x3ff

abbrev SYS_OPEN : ℕ := 4
abbrev SYS_READ : ℕ := 5
abbrev SYS_WRITE : ℕ := 6
abbrev SYS_WAIT : ℕ := 7
abbrev SYS_SEEK : ℕ := 8
abbrev SYS_REG : ℕ := 100
abbrev SYS_MEM : ℕ := 101
abbrev SYS_RET : ℕ := 102

/-- `sizeof(tss)`, and the offset of `iobp` in it. -/
abbrev TSS_LEN : ℕ := 480
abbrev TSS_IOBP : ℕ := 220

/-! ### Records -/

/-- The status of a task; `zero` is what the loader leaves in a slot never used. -/
inductive Status
  | zero | running | starting | sleeping | waiting
  deriving DecidableEq, Repr

/-- A `tss*`: an index of `tss_p`, or the null pointer. -/
abbrev Ptr := Option ℕ

structure Tss where
  bLink : ℕ
  n : ℕ
  esp0 : ℕ
  ss0 : ℕ
  n0 : ℕ
  esp1 : ℕ
  ss1 : ℕ
  n1 : ℕ
  esp2 : ℕ
  ss2 : ℕ
  n2 : ℕ
  cr3 : ℕ
  eip : ℕ
  eflag : ℕ
  eax : ℕ
  ecx : ℕ
  edx : ℕ
  ebx : ℕ
  esp : ℕ
  ebp : ℕ
  esi : ℕ
  edi : ℕ
  es : ℕ
  n3 : ℕ
  cs : ℕ
  n4 : ℕ
  ss : ℕ
  n5 : ℕ
  ds : ℕ
  n6 : ℕ
  fs : ℕ
  n7 : ℕ
  gs : ℕ
  n8 : ℕ
  ldt : ℕ
  n9 : ℕ
  n10 : ℕ
  bitMap : ℕ
  pagMem : ℕ → ℕ
  pagVirtual : ℕ → ℕ
  pagStack : ℕ
  iobp : ℕ → Byte
  fin : Byte

structure Run where
  name : ℕ → Byte
  task : ℕ
  taskTss : Ptr
  status : Status

structure Drv where
  arch : ℕ → Byte
  idDrv : ℕ
  buf : ℕ
  bufRet : ℕ
  size : ℕ
  idRet : ℕ
  call : ℕ
  sys : ℕ

structure Gdtp where
  limL : ℕ
  baseL : ℕ
  baseM : ℕ
  acceso : ℕ
  limH : ℕ
  baseH : ℕ

/-- The bitmap of the memory manager, of `MAP_LEN` bytes, and the bounds of its search. -/
structure Mm where
  memMap : ℕ → Byte
  memMax : ℕ
  memOff : ℕ

/-- The state of the machine as the kernel sees it. The kernel's own tables stand beside the
physical memory `mem`, which holds page tables, modules, stacks and granted pages; `tss none`
is what the bytes at address 0 read as through a null `tss*`. -/
structure Kernel where
  mem : Mem
  mm : Mm
  gDir : ℕ
  gTab : ℕ
  rTareas : ℕ → Run
  rDrv : ℕ → Drv
  tss : Ptr → Tss
  gdt : ℕ → Gdtp
  rPort : ℕ → Byte
  tIndice : ℕ

/-- The GDT of `asm/boot.S`: the null descriptor, ring 0 code and data, and no LDT yet. -/
def gdtBoot : ℕ → Gdtp
  | 1 => ⟨0xffff, 0, 0, 0x9a, 0xcf, 0⟩
  | 2 => ⟨0xffff, 0, 0, 0x92, 0xcf, 0⟩
  | _ => ⟨0, 0, 0, 0, 0, 0⟩

/-- The state the loader leaves: memory as found, every table of the kernel zero. -/
def Kernel.cargado (mem : Mem) : Kernel where
  mem := mem
  mm := ⟨fun _ => 0, 0, 0⟩
  gDir := 0
  gTab := 0
  rTareas _ := ⟨fun _ => 0, 0, none, .zero⟩
  rDrv _ := ⟨fun _ => 0, 0, 0, 0, 0, 0, 0, 0⟩
  tss _ := ⟨0, 0, 0, 0, 0, 0, 0, 0, 0, 0, 0, 0, 0, 0, 0, 0, 0, 0, 0, 0, 0, 0, 0, 0, 0, 0, 0, 0, 0, 0,
    0, 0, 0, 0, 0, 0, 0, 0, fun _ => 0, fun _ => 0, 0, fun _ => 0, 0⟩
  gdt := gdtBoot
  rPort _ := 0
  tIndice := 0

/-- The addresses the linker gives to the tables a descriptor or a stack pointer names. -/
structure Link where
  tssP : ℕ
  intPila : ℕ
  ldtP : ℕ

def Link.dirTss (l : Link) : Ptr → ℕ
  | none => 0
  | some j => l.tssP + TSS_LEN * j

/-! ### Updates of the state -/

/-- `r_tareas[t].task_tss`, followed. -/
def Kernel.tssOf (k : Kernel) (t : ℕ) : Tss := k.tss (k.rTareas t).taskTss

def Kernel.updTss (k : Kernel) (t : Ptr) (f : Tss → Tss) : Kernel :=
  { k with tss := Function.update k.tss t (f (k.tss t)) }

def Kernel.updRun (k : Kernel) (t : ℕ) (f : Run → Run) : Kernel :=
  { k with rTareas := Function.update k.rTareas t (f (k.rTareas t)) }

def Kernel.updDrv (k : Kernel) (i : ℕ) (f : Drv → Drv) : Kernel :=
  { k with rDrv := Function.update k.rDrv i (f (k.rDrv i)) }

def Kernel.updStatus (k : Kernel) (t : ℕ) (e : Status) : Kernel :=
  k.updRun t fun r => { r with status := e }

section
variable (k : Kernel) (p : Ptr) (t : ℕ)

@[simp] lemma updTss_mem (f : Tss → Tss) : (k.updTss p f).mem = k.mem := rfl
@[simp] lemma updTss_mm (f : Tss → Tss) : (k.updTss p f).mm = k.mm := rfl
@[simp] lemma updTss_gDir (f : Tss → Tss) : (k.updTss p f).gDir = k.gDir := rfl
@[simp] lemma updTss_gTab (f : Tss → Tss) : (k.updTss p f).gTab = k.gTab := rfl
@[simp] lemma updTss_rTareas (f : Tss → Tss) : (k.updTss p f).rTareas = k.rTareas := rfl
@[simp] lemma updTss_rDrv (f : Tss → Tss) : (k.updTss p f).rDrv = k.rDrv := rfl
@[simp] lemma updTss_gdt (f : Tss → Tss) : (k.updTss p f).gdt = k.gdt := rfl
@[simp] lemma updTss_rPort (f : Tss → Tss) : (k.updTss p f).rPort = k.rPort := rfl
@[simp] lemma updTss_tIndice (f : Tss → Tss) : (k.updTss p f).tIndice = k.tIndice := rfl
lemma updTss_tss (f : Tss → Tss) (q : Ptr) :
    (k.updTss p f).tss q = if q = p then f (k.tss p) else k.tss q :=
  Function.update_apply _ _ _ _

@[simp] lemma updRun_mem (f : Run → Run) : (k.updRun t f).mem = k.mem := rfl
@[simp] lemma updRun_mm (f : Run → Run) : (k.updRun t f).mm = k.mm := rfl
@[simp] lemma updRun_gDir (f : Run → Run) : (k.updRun t f).gDir = k.gDir := rfl
@[simp] lemma updRun_gTab (f : Run → Run) : (k.updRun t f).gTab = k.gTab := rfl
@[simp] lemma updRun_tss (f : Run → Run) : (k.updRun t f).tss = k.tss := rfl
@[simp] lemma updRun_rDrv (f : Run → Run) : (k.updRun t f).rDrv = k.rDrv := rfl
@[simp] lemma updRun_gdt (f : Run → Run) : (k.updRun t f).gdt = k.gdt := rfl
@[simp] lemma updRun_rPort (f : Run → Run) : (k.updRun t f).rPort = k.rPort := rfl
@[simp] lemma updRun_tIndice (f : Run → Run) : (k.updRun t f).tIndice = k.tIndice := rfl
lemma updRun_rTareas (f : Run → Run) (u : ℕ) :
    (k.updRun t f).rTareas u = if u = t then f (k.rTareas t) else k.rTareas u :=
  Function.update_apply _ _ _ _

@[simp] lemma updDrv_mem (f : Drv → Drv) : (k.updDrv t f).mem = k.mem := rfl
@[simp] lemma updDrv_mm (f : Drv → Drv) : (k.updDrv t f).mm = k.mm := rfl
@[simp] lemma updDrv_gDir (f : Drv → Drv) : (k.updDrv t f).gDir = k.gDir := rfl
@[simp] lemma updDrv_gTab (f : Drv → Drv) : (k.updDrv t f).gTab = k.gTab := rfl
@[simp] lemma updDrv_tss (f : Drv → Drv) : (k.updDrv t f).tss = k.tss := rfl
@[simp] lemma updDrv_rTareas (f : Drv → Drv) : (k.updDrv t f).rTareas = k.rTareas := rfl
@[simp] lemma updDrv_gdt (f : Drv → Drv) : (k.updDrv t f).gdt = k.gdt := rfl
@[simp] lemma updDrv_rPort (f : Drv → Drv) : (k.updDrv t f).rPort = k.rPort := rfl
@[simp] lemma updDrv_tIndice (f : Drv → Drv) : (k.updDrv t f).tIndice = k.tIndice := rfl
lemma updDrv_rDrv (f : Drv → Drv) (i : ℕ) :
    (k.updDrv t f).rDrv i = if i = t then f (k.rDrv t) else k.rDrv i :=
  Function.update_apply _ _ _ _

lemma updStatus_status (e : Status) (u : ℕ) :
    ((k.updStatus t e).rTareas u).status = if u = t then e else (k.rTareas u).status := by
  unfold Kernel.updStatus
  rw [updRun_rTareas]
  split <;> rfl

end

end Silicio.Defs
