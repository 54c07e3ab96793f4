import Silicio.Paging
import Silicio.Strings

/-!
The task tables of `exec/exec.c`: how a TSS, a pair of GDT descriptors and a slot of
`r_tareas` are found, and how `execs`, `exec` and `execd` fill them.

`exec` and `execd` differ in the segments the task starts with and in nothing else. Neither
looks at what its allocators return: a null TSS, a descriptor 0 and a page 0 are used as if
they had been found. A null TSS is the record `tss none`, the bytes at address 0.
-/

namespace Silicio.Tasks

open Silicio.Loop Silicio.Bitmap Silicio.Bytes Silicio.Defs Silicio.Mm Silicio.Mmu
open Silicio.Paging Silicio.Strings

/-! ### The tables -/

def clearTss (t : Tss) : Tss :=
  { t with
    bLink := 0, n := 0, esp0 := 0, ss0 := 0, n0 := 0, esp1 := 0, ss1 := 0, n1 := 0, esp2 := 0,
    ss2 := 0, n2 := 0, cr3 := 0, eip := 0, eflag := 0, eax := 0, ecx := 0, edx := 0, ebx := 0,
    esp := 0, ebp := 0, esi := 0, edi := 0, es := 0, n3 := 0, cs := 0, n4 := 0, ss := 0, n5 := 0,
    ds := 0, n6 := 0, fs := 0, n7 := 0, gs := 0, n8 := 0, ldt := 0, n9 := 0, n10 := 0, bitMap := 0
    pagMem := loop (fun i a => Function.update a i 0) MAX_PAG_DRIVER t.pagMem
    pagVirtual := loop (fun i a => Function.update a i 0) MAX_PAG_VIRTUAL t.pagVirtual
    pagStack := 0
    iobp := loop (fun i a => Function.update a i 0xff#8) TSS_PORT t.iobp
    fin := 0xff#8 }

def iniTarea (i : ℕ) (k : Kernel) : Kernel :=
  (k.updTss (some i) clearTss).updRun i fun r => { r with task := 0 }

def iniDrv (i : ℕ) (k : Kernel) : Kernel := k.updDrv i fun d => { d with idDrv := 0 }

/-- `ini_tss`, less the table of hardware interrupts. -/
def iniTss (k : Kernel) : Kernel :=
  let k := loop iniTarea MAX_TASK k
  let k := loop iniDrv MAX_DRIVERS k
  { k with rPort := loop (fun i a => Function.update a i 0xff#8) TSS_PORT k.rPort }

def descLdt (m : ℕ) : Gdtp where
  limL := (TAM_LDT - 1) % 2 ^ 16
  baseL := m % 2 ^ 16
  baseM := m / 2 ^ 16 % 2 ^ 8
  acceso := 0x82
  limH := (TAM_LDT - 1) / 2 ^ 16 % 2 ^ 4 + 0xc0
  baseH := m / 2 ^ 24 % 2 ^ 8

def setDescLdt (l : Link) (i : ℕ) (k : Kernel) : Kernel :=
  { k with gdt := Function.update k.gdt i (descLdt l.ldtP) }

def iniLdt (l : Link) (k : Kernel) : Kernel := setDescLdt l (0x18 / 8) k

def tareaLibre (rTareas : ℕ → Run) : ℕ :=
  let cont := scan (fun cont => (rTareas cont).task == 0) MAX_TASK 0
  if cont < MAX_TASK then cont else 0

/-- The fields `set_tss` fills; the rest of the record is as it was. -/
def tssNuevo (tarea code data esp eflag esp0 data0 : ℕ) (t : Tss) : Tss :=
  { t with
    n := 0, n0 := 0, n1 := 0, n2 := 0, n3 := 0, n4 := 0, n5 := 0, n6 := 0, n7 := 0, n8 := 0,
    n9 := 0, n10 := 0, eip := tarea, cs := code, ds := data, es := data, fs := data, gs := data,
    ss := data, ss0 := data0, ss1 := data0, ss2 := data0, esp := esp, esp0 := esp0, esp1 := esp0,
    esp2 := esp0, ldt := 0x18, eflag := eflag, bitMap := TSS_IOBP % 2 ^ 16, fin := 0xff#8 }

/-- The TSS a search settles on. The loop counts once more after a hit, so a hit in the last
entry looks like no hit. -/
def tssLibre (n : Ptr → Tss) : Ptr :=
  let j := scan (fun i => (n (some i)).cs == 0) MAX_TASK 0
  let i := if j < MAX_TASK then j + 1 else j
  if i = MAX_TASK then none else some j

def setTss (tarea code data esp eflag esp0 data0 : ℕ) (n : Ptr → Tss) : Ptr × (Ptr → Tss) :=
  match tssLibre n with
  | none => (none, n)
  | some j =>
    (some j,
      Function.update n (some j) (tssNuevo tarea code data esp eflag esp0 data0 (n (some j))))

def descTss (m : ℕ) : Gdtp where
  limL := TSS_LEN % 2 ^ 16
  baseL := m % 2 ^ 16
  baseM := m / 2 ^ 16 % 2 ^ 8
  acceso := 0x89
  limH := TSS_LEN / 2 ^ 16 % 2 ^ 4 + 0xc0
  baseH := m / 2 ^ 24 % 2 ^ 8

def descPuerta (f : ℕ) (d : Gdtp) : Gdtp :=
  { d with
    baseL := f % 2 ^ 16, baseM := f / 2 ^ 16 % 2 ^ 8, baseH := f / 2 ^ 24 % 2 ^ 8, acceso := 0x85 }

def descLibre (d : ℕ → Gdtp) : ℕ := scan (fun i => (d i).acceso == 0) (MAX_GDT - 4) 4

def setDescTss (m : ℕ) (d : ℕ → Gdtp) : ℕ × (ℕ → Gdtp) :=
  let i := descLibre d
  if i = MAX_GDT then (0, d)
  else
    let d := Function.update d i (descTss m)
    -- the gate goes one entry further on, whatever is there
    (i + 1, Function.update d (i + 1) (descPuerta (i * 8) (d (i + 1))))

/-! ### Loading a task -/

def execs (l : Link) (start pila : ℕ) (name : ℕ → Byte) (k : Kernel) : ℕ × Kernel :=
  let s := setTss start KERNEL_CS KERNEL_DS pila 0 pila KERNEL_DS k.tss
  let t := s.1
  let i := setDescTss (l.dirTss t) k.gdt
  let id := tareaLibre k.rTareas
  let r : Run :=
    { name := (strcpy name (k.rTareas id).name).2, task := i.1 * 8, taskTss := t
      status := .sleeping }
  (r.task,
    { k with
      tss := Function.update s.2 t { s.2 t with cr3 := k.gDir }
      gdt := i.2
      rTareas := Function.update k.rTareas id r })

def cantPaginas (start fin : ℕ) : ℕ :=
  let largo := (fin + 2 ^ 32 - start) % 2 ^ 32
  largo / PAG_LEN + if largo % PAG_LEN ≠ 0 then 1 else 0

/-- The pages `exec` takes for a task: its directory, its first table, its stack. -/
structure Espacio where
  dir : ℕ
  tabla : ℕ
  pila : ℕ

def tomarEspacio (mm : Mm) : Espacio × Mm :=
  let dir := buscarMem mm
  let mm := (setMem mm dir).2
  let tabla := buscarMem mm
  let mm := (setMem mm tabla).2
  let pila := buscarMem mm
  let mm := (setMem mm pila).2
  (⟨dir, tabla, pila⟩, mm)

def notarPaginas (start pag : ℕ) (pagMem : ℕ → ℕ) : ℕ → ℕ :=
  loop (fun cont a => Function.update a cont (start / PAG_LEN + cont)) pag pagMem

/-- The task's first table, on page `tabla`: the kernel's, with the module at `V_USER` and the
stack at `V_STACK`. -/
def tablaUsuario (kTab tabla pag pila : ℕ) (pagMem : ℕ → ℕ) (m : Mem) : Mem :=
  let m := fill tabla (fun cont m => rd32 m (kTab + 4 * cont)) TAB_PAG_LEN m
  let m := loop (fun cont m => setWord m tabla (cont + V_USER) (pagMem cont * 4096 + 7)) pag m
  setWord m tabla V_STACK (pila * 4096 + 7)

/-- The task's directory, on page `dir`: the kernel's, but for the first table. -/
def directorioUsuario (kDir dir tabla : ℕ) (m : Mem) : Mem :=
  let m := fill dir (fun cont m => rd32 m (kDir + 4 * cont)) DIR_PAG_LEN m
  setWord m dir 0 (tabla * 4096 + 7)

/-- What `exec` looks at before it starts: a free slot, and a module of few enough pages. -/
def Admite (start fin : ℕ) (k : Kernel) : Prop :=
  tareaLibre k.rTareas ≠ 0 ∧ cantPaginas start fin ≤ MAX_PAG_DRIVER

instance (start fin : ℕ) (k : Kernel) : Decidable (Admite start fin k) :=
  inferInstanceAs (Decidable (_ ∧ _))

/-- `exec` and `execd`, given the segments of the task. One loop of the source marks each page
of the module and notes it in the TSS; the two stand apart here. -/
def cargar (cs ds : ℕ) (l : Link) (start fin : ℕ) (name : ℕ → Byte) (k : Kernel) : ℕ × Kernel :=
  let id := tareaLibre k.rTareas
  let pag := cantPaginas start fin
  if Admite start fin k then
    let s := setTss (V_USER * 4096) cs ds (V_STACK * 4096 + 0xfff) 0x200
      (l.intPila + 200 * id + 199) KERNEL_DS k.tss
    let t := s.1
    let pagMem := notarPaginas start pag (s.2 t).pagMem
    let e := tomarEspacio (setMems (start / PAG_LEN) pag k.mm)
    let i := setDescTss (l.dirTss t) k.gdt
    let r : Run :=
      { name := (strcpy name (k.rTareas id).name).2, task := 8 * i.1, taskTss := t
        status := .running }
    let pagVirtual := Function.update (Function.update (s.2 t).pagVirtual 0 e.1.dir) 1 e.1.tabla
    let mem := tablaUsuario k.gTab e.1.tabla pag e.1.pila pagMem k.mem
    let cr3 := 4096 * e.1.dir % 2 ^ 32
    (id,
      { k with
        mem := directorioUsuario k.gDir e.1.dir e.1.tabla mem
        mm := e.2
        gdt := i.2
        rTareas := Function.update k.rTareas id r
        tss := Function.update s.2 t
          { s.2 t with
            pagMem := pagMem, pagVirtual := pagVirtual, pagStack := e.1.pila, cr3 := cr3 } })
  else (id, k)

def exec (l : Link) (start fin : ℕ) (name : ℕ → Byte) (k : Kernel) : ℕ × Kernel :=
  cargar USER_CS USER_DS l start fin name k

def execd (l : Link) (start fin : ℕ) (name : ℕ → Byte) (k : Kernel) : ℕ × Kernel :=
  cargar KERNEL_CS KERNEL_DS l start fin name k

/-! ### What the searches find -/

section
variable {n : Ptr → Tss}

lemma tssLibre_eq (n : Ptr → Tss) : tssLibre n =
    if scan (fun i => (n (some i)).cs == 0) MAX_TASK 0 < MAX_TASK - 1 then
      some (scan (fun i => (n (some i)).cs == 0) MAX_TASK 0)
    else none := by
  have hle := scan_le (p := fun i => (n (some i)).cs == 0) MAX_TASK 0
  unfold tssLibre
  simp only [MAX_TASK] at hle ⊢
  split_ifs <;> first | rfl | omega

lemma tssLibre_eq_some {j : ℕ} : tssLibre n = some j ↔
    j < MAX_TASK - 1 ∧ (n (some j)).cs = 0 ∧ ∀ i < j, (n (some i)).cs ≠ 0 := by
  rw [tssLibre_eq]
  constructor
  · intro h
    split at h
    · next hlt =>
      obtain rfl := Option.some.inj h
      refine ⟨hlt, ?_, fun i hi => ?_⟩
      · simpa using at_scan (p := fun i => (n (some i)).cs == 0) (n := MAX_TASK) (i := 0)
          (by simp only [MAX_TASK] at hlt ⊢; omega)
      · simpa using before_scan (p := fun i => (n (some i)).cs == 0) (Nat.zero_le i) hi
    · cases h
  · rintro ⟨hlt, hj, hno⟩
    have hs : scan (fun i => (n (some i)).cs == 0) MAX_TASK 0 = j := by
      refine scan_eq (Nat.zero_le j) ?_ (fun l _ hl => by simpa using hno l hl)
        fun _ => by simpa using hj
      simp only [MAX_TASK] at hlt ⊢
      omega
    rw [hs, if_pos hlt]

lemma tssLibre_eq_none : tssLibre n = none ↔ ∀ j < MAX_TASK - 1, (n (some j)).cs ≠ 0 := by
  rw [tssLibre_eq]
  constructor
  · intro h j hj
    split at h
    · cases h
    · next hge =>
      simpa using before_scan (p := fun i => (n (some i)).cs == 0) (n := MAX_TASK) (Nat.zero_le j)
        (by omega)
  · intro h
    refine if_neg fun hlt => h _ hlt ?_
    simpa using at_scan (p := fun i => (n (some i)).cs == 0) (n := MAX_TASK) (i := 0)
      (by simp only [MAX_TASK] at hlt ⊢; omega)

variable (tarea code data esp eflag esp0 data0 : ℕ)

lemma setTss_fst :
    (setTss tarea code data esp eflag esp0 data0 n).1 = tssLibre n := by
  unfold setTss
  cases tssLibre n <;> rfl

lemma setTss_snd (q : Ptr) : (setTss tarea code data esp eflag esp0 data0 n).2 q =
    if q = tssLibre n ∧ q ≠ none then tssNuevo tarea code data esp eflag esp0 data0 (n q)
    else n q := by
  unfold setTss
  cases h : tssLibre n with
  | none => exact (if_neg fun hq => hq.2 hq.1).symm
  | some j =>
    simp only [Function.update_apply]
    rcases eq_or_ne q (some j) with rfl | hne
    · rw [if_pos rfl, if_pos ⟨rfl, by simp⟩]
    · rw [if_neg hne, if_neg fun hq => hne hq.1]

end

lemma descLibre_bounds (d : ℕ → Gdtp) : 4 ≤ descLibre d ∧ descLibre d ≤ MAX_GDT :=
  ⟨le_scan _ _, scan_le _ _⟩

lemma acceso_descLibre {d : ℕ → Gdtp} (h : descLibre d ≠ MAX_GDT) :
    (d (descLibre d)).acceso = 0 := by
  have hb := descLibre_bounds d
  have := at_scan (p := fun i => (d i).acceso == 0) (n := MAX_GDT - 4) (i := 4)
    (by unfold descLibre at h hb; simp only [MAX_GDT] at h hb ⊢; omega)
  simpa [descLibre] using this

lemma setDescTss_lleno {m : ℕ} {d : ℕ → Gdtp} (h : descLibre d = MAX_GDT) :
    setDescTss m d = (0, d) := by
  unfold setDescTss
  simp only
  rw [if_pos h]

lemma setDescTss_libre {m : ℕ} {d : ℕ → Gdtp} (h : descLibre d ≠ MAX_GDT) :
    setDescTss m d = (descLibre d + 1,
      Function.update (Function.update d (descLibre d) (descTss m)) (descLibre d + 1)
        (descPuerta (descLibre d * 8) (d (descLibre d + 1)))) := by
  unfold setDescTss
  simp only
  rw [if_neg h, Function.update_of_ne (by omega) _ d]

lemma tareaLibre_eq {r : ℕ → Run} {i : ℕ} (hi : i < MAX_TASK) (hlibre : (r i).task = 0)
    (hno : ∀ j < i, (r j).task ≠ 0) : tareaLibre r = i := by
  have hs : scan (fun cont => (r cont).task == 0) MAX_TASK 0 = i :=
    scan_eq (Nat.zero_le i) (by omega) (fun l _ hl => by simpa using hno l hl)
      fun _ => by simpa using hlibre
  unfold tareaLibre
  simp only
  rw [hs, if_pos hi]

lemma task_tareaLibre {r : ℕ → Run} (h : tareaLibre r ≠ 0) : (r (tareaLibre r)).task = 0 := by
  unfold tareaLibre at h ⊢
  simp only at h ⊢
  split at h
  · next hlt =>
    rw [if_pos hlt]
    simpa using at_scan (p := fun cont => (r cont).task == 0) (n := MAX_TASK) (i := 0) (by omega)
  · exact absurd rfl h

lemma notarPaginas_apply (start pag : ℕ) (a : ℕ → ℕ) (j : ℕ) :
    notarPaginas start pag a j = if j < pag then start / PAG_LEN + j else a j :=
  loop_update _ _ _ _

lemma reservar_tres (mm : Mm) : reservar 3 mm =
    ([(tomarEspacio mm).1.dir, (tomarEspacio mm).1.tabla, (tomarEspacio mm).1.pila],
      (tomarEspacio mm).2) := by
  simp only [reservar, tomarEspacio]

lemma tablaUsuario_congr (kTab tabla pag pila : ℕ) {f g : ℕ → ℕ} (h : ∀ c < pag, f c = g c)
    (m : Mem) : tablaUsuario kTab tabla pag pila f m = tablaUsuario kTab tabla pag pila g m := by
  unfold tablaUsuario
  simp only
  rw [loop_congr fun c hc m => by rw [h c hc]]

/-! ### What `exec` does, field by field -/

section
variable (cs ds : ℕ) (l : Link) (start fin : ℕ) (name : ℕ → Byte) (k : Kernel)

def espacio : Espacio :=
  (tomarEspacio (setMems (start / PAG_LEN) (cantPaginas start fin) k.mm)).1

lemma reservar_espacio :
    (reservar 3 (setMems (start / PAG_LEN) (cantPaginas start fin) k.mm)).1 =
      [(espacio start fin k).dir, (espacio start fin k).tabla, (espacio start fin k).pila] := by
  rw [reservar_tres, espacio]

lemma cargar_fst : (cargar cs ds l start fin name k).1 = tareaLibre k.rTareas := by
  unfold cargar
  simp only
  split <;> rfl

variable {start fin k}

lemma cargar_rechazo (h : ¬ Admite start fin k) : (cargar cs ds l start fin name k).2 = k := by
  unfold cargar
  simp only
  rw [if_neg h]

lemma cargar_mm (h : Admite start fin k) : (cargar cs ds l start fin name k).2.mm =
    (reservar 3 (setMems (start / PAG_LEN) (cantPaginas start fin) k.mm)).2 := by
  unfold cargar
  simp only
  rw [if_pos h, reservar_tres]

lemma cargar_gdt (h : Admite start fin k) : (cargar cs ds l start fin name k).2.gdt =
    (setDescTss (l.dirTss (tssLibre k.tss)) k.gdt).2 := by
  unfold cargar
  simp only
  rw [if_pos h]
  simp only [setTss_fst]

lemma cargar_rTareas (h : Admite start fin k) : (cargar cs ds l start fin name k).2.rTareas =
    Function.update k.rTareas (tareaLibre k.rTareas)
      { name := (strcpy name (k.rTareas (tareaLibre k.rTareas)).name).2
        task := 8 * (setDescTss (l.dirTss (tssLibre k.tss)) k.gdt).1
        taskTss := tssLibre k.tss
        status := .running } := by
  unfold cargar
  simp only
  rw [if_pos h]
  simp only [setTss_fst]

lemma cargar_tss_of_ne (h : Admite start fin k) {q : Ptr} (hq : q ≠ tssLibre k.tss) :
    (cargar cs ds l start fin name k).2.tss q = k.tss q := by
  unfold cargar
  simp only
  rw [if_pos h]
  simp only [setTss_fst]
  rw [Function.update_of_ne hq, setTss_snd, if_neg fun hc => hq hc.1]

/-- The fields of the new TSS that the loader's later readers look at. -/
lemma cargar_tss (h : Admite start fin k) {j : ℕ} (hj : tssLibre k.tss = some j) :
    let t := (cargar cs ds l start fin name k).2.tss (some j)
    t.cs = cs ∧ t.cr3 = 4096 * (espacio start fin k).dir % 2 ^ 32 ∧
      t.iobp = (k.tss (some j)).iobp ∧
      t.pagMem = notarPaginas start (cantPaginas start fin) (k.tss (some j)).pagMem ∧
      t.pagVirtual 0 = (espacio start fin k).dir ∧ t.pagVirtual 1 = (espacio start fin k).tabla ∧
      t.pagStack = (espacio start fin k).pila := by
  intro t
  have ht : t = (cargar cs ds l start fin name k).2.tss (some j) := rfl
  unfold cargar at ht
  simp only at ht
  rw [if_pos h] at ht
  simp only [setTss_fst, hj, Function.update_self, setTss_snd] at ht
  rw [if_pos ⟨trivial, by simp⟩] at ht
  rw [ht]
  refine ⟨rfl, rfl, rfl, rfl, ?_, ?_, rfl⟩
  · simp only [Function.update_of_ne (show (0 : ℕ) ≠ 1 by omega), Function.update_self, espacio]
  · simp only [Function.update_self, espacio]

lemma cargar_arranca (h : Admite start fin k) {j : ℕ} (hj : tssLibre k.tss = some j) :
    ((cargar cs ds l start fin name k).2.tss (some j)).eip = V_USER * 4096 ∧
      ((cargar cs ds l start fin name k).2.tss (some j)).esp = V_STACK * 4096 + 0xfff := by
  unfold cargar
  simp only
  rw [if_pos h]
  simp only [setTss_fst, hj, Function.update_self, setTss_snd]
  rw [if_pos ⟨trivial, by simp⟩]
  exact ⟨rfl, rfl⟩

lemma cargar_mem (h : Admite start fin k) : (cargar cs ds l start fin name k).2.mem =
    directorioUsuario k.gDir (espacio start fin k).dir (espacio start fin k).tabla
      (tablaUsuario k.gTab (espacio start fin k).tabla (cantPaginas start fin)
        (espacio start fin k).pila (fun cont => start / PAG_LEN + cont) k.mem) := by
  unfold cargar
  simp only
  rw [if_pos h]
  simp only
  rw [tablaUsuario_congr _ _ _ _ (g := fun cont => start / PAG_LEN + cont), espacio]
  intro c hc
  rw [notarPaginas_apply, if_pos hc]

@[simp] lemma cargar_gDir : (cargar cs ds l start fin name k).2.gDir = k.gDir := by
  unfold cargar; simp only; split <;> rfl
@[simp] lemma cargar_gTab : (cargar cs ds l start fin name k).2.gTab = k.gTab := by
  unfold cargar; simp only; split <;> rfl
@[simp] lemma cargar_rDrv : (cargar cs ds l start fin name k).2.rDrv = k.rDrv := by
  unfold cargar; simp only; split <;> rfl
@[simp] lemma cargar_rPort : (cargar cs ds l start fin name k).2.rPort = k.rPort := by
  unfold cargar; simp only; split <;> rfl

end

end Silicio.Tasks
