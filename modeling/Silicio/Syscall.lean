import Silicio.Registry

/-!
The system calls of `exec/exec.c`: the handlers, and `sys_call`, which hands a trapped task's
registers to one of them.

A handler works with physical addresses: `check_addr` walks the caller's page tables and gives
the physical address of a virtual one, or 0. Requests to a driver (`sys_read`, `sys_write`,
`sys_seek`) put the caller to wait and wake the driver; the driver answers with `sys_ret`, which
wakes the client. Results are C `int`s, negative for an error; `sys_call` writes some of them to
the caller's saved `eax` and drops the others.
-/

namespace Silicio.Syscall

open Silicio.Loop Silicio.Bitmap Silicio.Bytes Silicio.Defs Silicio.Mm Silicio.Mmu
open Silicio.Strings

/-- The registers a task traps with. -/
structure Regs where
  eax : ℕ
  ebx : ℕ
  ecx : ℕ
  edx : ℕ

def entero (x : ℕ) : ℤ := if x < 2 ^ 31 then x else (x : ℤ) - 2 ^ 32

def registro (x : ℤ) : ℕ := (x % 2 ^ 32).toNat

/-! ### `sys_param` and `drv` in memory -/

abbrev PARAM_ARCH : ℕ := 0
abbrev PARAM_CALL : ℕ := 4
abbrev PARAM_SIZE : ℕ := 8
abbrev PARAM_COUNT : ℕ := 12
abbrev PARAM_RET : ℕ := 16
abbrev PARAM_BUF : ℕ := 28

/-- Byte `j` of a `drv`; the fields after `arch` are words. -/
def byteDrv (d : Drv) (j : ℕ) : Byte :=
  if j < MAX_STRING then d.arch j
  else
    let campos := [d.idDrv, d.buf, d.bufRet, d.size, d.idRet, d.call, d.sys]
    BitVec.ofNat 8 (campos.getD ((j - MAX_STRING) / 4) 0 / 2 ^ (8 * (j % 4)))

abbrev DRV_LEN : ℕ := MAX_STRING + 7 * 4

/-- The bytes of `r_drv` from slot `i` on: what a string in `arch` runs into. -/
def bytesDrv (r : ℕ → Drv) (i j : ℕ) : Byte := byteDrv (r (i + j / DRV_LEN)) (j % DRV_LEN)

/-! ### Addresses -/

/-- `check_addr(addr, &r_tareas[t])`. The directory entry is followed, its bits not looked at. -/
def checkAddr (addr t : ℕ) (k : Kernel) : ℕ :=
  let cr3 := (k.tssOf t).cr3 &&& 0xfffff000
  let tabla := rd32 k.mem (cr3 + 4 * (addr >>> 22)) &&& 0xfffff000
  let acceso := rd32 k.mem (tabla + 4 * ((addr >>> 12) &&& 0x3ff))
  if acceso &&& 7 ≠ 7 then 0 else (acceso &&& 0xfffff000) + (addr &&& 0xfff)

/-! ### Calls completed at once -/

def sysOpen (basura : ℕ → ℕ) (ebx ecx : ℕ) (k : Kernel) : ℤ × Kernel :=
  let t := k.tIndice
  let var1 := checkAddr ebx t k
  let s1 := fun j => rd8 k.mem (var1 + j)
  if var1 = 0 then (-1, k)
  else if strlen s1 = 0 then (-2, k)
  else if checkAddr ((ebx + strlen s1) % 2 ^ 32) t k = 0 then (-3, k)
  else
    let var2 := checkAddr ecx t k
    let s2 := fun j => rd8 k.mem (var2 + j)
    if var2 = 0 then (-4, k)
    else if strlen s2 = 0 then (-5, k)
    else if checkAddr ((ecx + strlen s2) % 2 ^ 32) t k = 0 then (-6, k)
    else
      let i := scan (fun i => strcmp (basura i) (bytesDrv k.rDrv i) s1 == 0) (MAX_DRIVERS - 3) 3
      if i = MAX_DRIVERS then (-7, k) else (i, k)

/-- The page tables after page `pedido` is granted to the current task: both entries on the way
to it get the user bits. -/
def conceder (pedido : ℕ) (k : Kernel) : Mem :=
  let dirPag := (k.tssOf k.tIndice).cr3 &&& 0xfffff000
  let pagina := pedido >>> 10
  let selPag := rd32 k.mem (dirPag + 4 * pagina) &&& 0xfffff000
  -- the low bits of `selPag` have just been cleared: always so
  if selPag &&& 7 ≠ 7 then
    let mem := wr32 k.mem (dirPag + 4 * pagina) (rd32 k.mem (dirPag + 4 * pagina) ||| 7)
    let pagina := pedido &&& 0x3ff
    wr32 mem (selPag + 4 * pagina) (rd32 mem (selPag + 4 * pagina) ||| 7)
  else k.mem

def sysMem (ebx : ℕ) (k : Kernel) : ℤ × Kernel :=
  let pedido := if ebx = 0 then buscarMem k.mm else ebx
  if ebx = 0 ∧ pedido = 0 then (-1, k)
  else
    let s := setMem k.mm pedido
    if s.1 = PAG_OK then (entero pedido, { k with mem := conceder pedido k, mm := s.2 })
    else (-3, k)

def sysWait (k : Kernel) : Kernel := k.updStatus k.tIndice .waiting

def prefijo : ℕ → Byte
  | 0 => 0x2f | 1 => 0x64 | 2 => 0x65 | 3 => 0x76 | 4 => 0x2f | _ => 0

/-- The slot `sys_reg` fills, after all its checks; a negative number otherwise. -/
def revisarReg (ebx : ℕ) (k : Kernel) : ℤ ⊕ ℕ :=
  let t := k.tIndice
  let i := scan (fun i => (k.rDrv i).idDrv == t) (MAX_DRIVERS - 3) 3
  if i < MAX_DRIVERS then .inl (-1)
  else
    let i := scan (fun i => (k.rDrv i).idDrv == 0) (MAX_DRIVERS - 3) 3
    if i = MAX_DRIVERS then .inl (-2)
    else
      let sys := checkAddr ebx t k
      if sys = 0 then .inl (-3)
      else if checkAddr (rd32 k.mem (sys + PARAM_ARCH)) t k = 0 then .inl (-4)
      else if checkAddr (rd32 k.mem (sys + PARAM_BUF)) t k = 0 then .inl (-5)
      else
        let size := rd32 k.mem (sys + PARAM_SIZE)
        if size > 4096 then .inl (-6)
        else if checkAddr ((rd32 k.mem (sys + PARAM_BUF) + size + 2 ^ 32 - 1) % 2 ^ 32) t k = 0 then
          .inl (-7)
        else .inr i

def sysReg (ebx : ℕ) (k : Kernel) : ℤ × Kernel :=
  match revisarReg ebx k with
  | .inl e => (e, k)
  | .inr i =>
    let t := k.tIndice
    let sys := checkAddr ebx t k
    let arch := checkAddr (rd32 k.mem (sys + PARAM_ARCH)) t k
    let buf := checkAddr (rd32 k.mem (sys + PARAM_BUF)) t k
    let dev := (strcpy prefijo (k.rDrv i).arch).2
    let r := Function.update k.rDrv i { k.rDrv i with arch := dev }
    let nombre := (strcat (bytesDrv r i) fun j => rd8 k.mem (arch + j)).2
    let k := k.updDrv i fun d =>
      { d with arch := nombre, idDrv := t, buf := buf, size := rd32 k.mem (sys + PARAM_SIZE),
               idRet := 0, sys := sys }
    (i, k.updStatus t .waiting)

/-! ### Requests to a driver -/

/-- The checks every request starts with: a slot number, a driver, and the driver waiting. -/
def revisarDrv (ebx : ℕ) (k : Kernel) : Option ℤ :=
  if ebx ≥ MAX_DRIVERS then some (-1)
  else if (k.rDrv ebx).idDrv = 0 then some (-2)
  else if (k.rTareas (k.rDrv ebx).idDrv).status ≠ .waiting then some (-3)
  else none

/-- The checks of the client's buffer; an empty one ends the call with 0. -/
def revisarBuf (ecx edx : ℕ) (k : Kernel) : Option ℤ :=
  if checkAddr ecx k.tIndice k = 0 then some (-4)
  else if edx > 4096 then some (-5)
  else if edx = 0 then some 0
  else if checkAddr ((ecx + edx + 2 ^ 32 - 1) % 2 ^ 32) k.tIndice k = 0 then some (-6)
  else none

/-- An accepted request: the client waits, the driver runs, and the slot notes who asked for
what. `f` and `mem` are what the three requests do each in their way. -/
def aceptar (ebx call : ℕ) (f : Drv → Drv) (mem : Mem) (k : Kernel) : Kernel :=
  let k := (k.updStatus k.tIndice .waiting).updStatus (k.rDrv ebx).idDrv .running
  { k with mem := mem }.updDrv ebx fun d => { f d with call := call, idRet := k.tIndice }

def cantidad (d : Drv) (edx : ℕ) : ℕ := if d.size > edx then edx else d.size

def sysRead (eax ebx ecx edx : ℕ) (k : Kernel) : ℤ × Kernel :=
  match revisarDrv ebx k with
  | some e => (e, k)
  | none =>
    match revisarBuf ecx edx k with
    | some e => (e, k)
    | none =>
      let data := checkAddr ecx k.tIndice k
      let d := k.rDrv ebx
      let mem := wr32 k.mem (d.sys + PARAM_COUNT) (cantidad d edx)
      let mem := wr32 mem (d.sys + PARAM_CALL) eax
      (0, aceptar ebx SYS_READ (fun d => { d with bufRet := data }) mem k)

def sysSeek (eax ebx : ℕ) (k : Kernel) : ℤ × Kernel :=
  match revisarDrv ebx k with
  | some e => (e, k)
  | none =>
    let mem := wr32 k.mem ((k.rDrv ebx).sys + PARAM_CALL) eax
    (0, aceptar ebx SYS_SEEK id mem k)

def sysWrite (eax ebx ecx edx : ℕ) (k : Kernel) : ℤ × Kernel :=
  match revisarDrv ebx k with
  | some e => (e, k)
  | none =>
    match revisarBuf ecx edx k with
    | some e => (e, k)
    | none =>
      let data := checkAddr ecx k.tIndice k
      let d := k.rDrv ebx
      let mem := loop (fun count m => wr8 m (d.buf + count) (rd8 m (data + count))) (cantidad d edx)
        k.mem
      let mem := wr32 mem (d.sys + PARAM_COUNT) (cantidad d edx)
      let mem := wr32 mem (d.sys + PARAM_CALL) eax
      (0, aceptar ebx SYS_WRITE id mem k)

/-! ### The answer of a driver -/

/-- `for(count=0; count < sys->count; count++) buf_ret[count]=buf[count]`, from `count` on and
for at most `m` turns: the memory after it, and the addresses read and written, in order. The
bound is read again each turn. -/
def copiar (d : Drv) : ℕ → ℕ → Mem → Mem × List (ℕ × ℕ)
  | 0, _, mem => (mem, [])
  | m + 1, count, mem =>
    if count < rd32 mem (d.sys + PARAM_COUNT) then
      let s := copiar d m (count + 1) (wr8 mem (d.bufRet + count) (rd8 mem (d.buf + count)))
      (s.1, ((d.buf + count) % 2 ^ 32, (d.bufRet + count) % 2 ^ 32) :: s.2)
    else (mem, [])

/-- The slot of the driver that calls, or `MAX_DRIVERS`. -/
def slotDe (t : ℕ) (r : ℕ → Drv) : ℕ := scan (fun i => (r i).idDrv == t) MAX_DRIVERS 0

/-- What `sys_ret` copies when it answers a request on slot `i`. No count is above the largest
`unsigned long`, so the turns are enough. -/
def respuesta (i : ℕ) (k : Kernel) : Mem × List (ℕ × ℕ) :=
  if (k.rDrv i).call = SYS_READ then copiar (k.rDrv i) (2 ^ 32 - 1) 0 k.mem else (k.mem, [])

def revisarRet (ebx : ℕ) (k : Kernel) : Option ℤ :=
  if slotDe k.tIndice k.rDrv = MAX_DRIVERS then some (-1)
  else if checkAddr ebx k.tIndice k = 0 then some (-2)
  else none

def conEax (v : ℕ) (s : Tss) : Tss := { s with eax := v }

def campoRet (ebx : ℕ) (k : Kernel) : ℕ := rd32 k.mem (checkAddr ebx k.tIndice k + PARAM_RET)

def sysRet (ebx : ℕ) (k : Kernel) : ℤ × Kernel :=
  match revisarRet ebx k with
  | some e => (e, k)
  | none =>
    let i := slotDe k.tIndice k.rDrv
    let id := (k.rDrv i).idRet
    let ret := campoRet ebx k
    let mem := (respuesta i k).1
    let k := k.updTss (k.rTareas id).taskTss (conEax ret)
    (0, ({ k with mem := mem }.updStatus id .running).updStatus k.tIndice .waiting)

/-! ### The dispatcher -/

/-- `r_tareas[t_indice].task_tss->eax = ret`. -/
def guardar (r : ℤ × Kernel) : Kernel :=
  r.2.updTss (r.2.rTareas r.2.tIndice).taskTss (conEax (registro r.1))

/-- The `switch` of `sys_call`. -/
def despachar (basura : ℕ → ℕ) (r : Regs) (k : Kernel) : Kernel :=
  if r.eax = SYS_OPEN then guardar (sysOpen basura r.ebx r.ecx k)
  else if r.eax = SYS_READ then (sysRead r.eax r.ebx r.ecx r.edx k).2
  else if r.eax = SYS_WRITE then (sysWrite r.eax r.ebx r.ecx r.edx k).2
  else if r.eax = SYS_REG then guardar (sysReg r.ebx k)
  else if r.eax = SYS_RET then (sysRet r.ebx k).2
  else if r.eax = SYS_WAIT then sysWait k
  else if r.eax = SYS_MEM then guardar (sysMem r.ebx k)
  else if r.eax = SYS_SEEK then (sysSeek r.eax r.ebx k).2
  else k

/-- One turn of `sys_call`, for the task `t_indice` names. -/
def sysCall (basura : ℕ → ℕ) (k : Kernel) : Kernel :=
  let s := k.tssOf k.tIndice
  despachar basura ⟨s.eax, s.ebx, s.ecx, s.edx⟩ k

def Regs.salvar (r : Regs) (s : Tss) : Tss :=
  { s with eax := r.eax, ebx := r.ebx, ecx := r.ecx, edx := r.edx }

/-- Task `t` traps: its registers go to its TSS, and `sys_call` runs. -/
def entrar (t : ℕ) (r : Regs) (k : Kernel) : Kernel :=
  { k.updTss (k.rTareas t).taskTss r.salvar with tIndice := t }

def llamar (basura : ℕ → ℕ) (t : ℕ) (r : Regs) (k : Kernel) : Kernel :=
  sysCall basura (entrar t r k)

/-- Task `t` stores a byte at a virtual address; an address it may not write at traps and
changes nothing. -/
def escribir (t v : ℕ) (b : Byte) (k : Kernel) : Kernel :=
  if UserWrite k.mem (k.tssOf t).cr3 v then
    { k with mem := wr8 k.mem (phys k.mem (k.tssOf t).cr3 v) b }
  else k

/-! ### The trap -/

section
variable (t : ℕ) (r : Regs) (k : Kernel)

@[simp] lemma entrar_mem : (entrar t r k).mem = k.mem := rfl
@[simp] lemma entrar_mm : (entrar t r k).mm = k.mm := rfl
@[simp] lemma entrar_rTareas : (entrar t r k).rTareas = k.rTareas := rfl
@[simp] lemma entrar_rDrv : (entrar t r k).rDrv = k.rDrv := rfl
@[simp] lemma entrar_tIndice : (entrar t r k).tIndice = t := rfl

lemma entrar_tss (q : Ptr) : (entrar t r k).tss q =
    if q = (k.rTareas t).taskTss then r.salvar (k.tssOf t) else k.tss q :=
  updTss_tss k _ r.salvar q

lemma entrar_tssOf : (entrar t r k).tssOf t = r.salvar (k.tssOf t) :=
  (entrar_tss t r k _).trans (if_pos rfl)

lemma llamar_eq (basura : ℕ → ℕ) : llamar basura t r k = despachar basura r (entrar t r k) := by
  unfold llamar sysCall
  simp only [entrar_tIndice, entrar_tssOf, Regs.salvar]

end

/-! ### Requests -/

def Pide (eax : ℕ) : Prop := eax = SYS_READ ∨ eax = SYS_WRITE ∨ eax = SYS_SEEK

instance (eax : ℕ) : Decidable (Pide eax) := inferInstanceAs (Decidable (_ ∨ _ ∨ _))

def revisar (r : Regs) (k : Kernel) : Option ℤ :=
  match revisarDrv r.ebx k with
  | some e => some e
  | none => if r.eax = SYS_SEEK then none else revisarBuf r.ecx r.edx k

def pedido (r : Regs) (k : Kernel) : ℤ × Kernel :=
  if r.eax = SYS_READ then sysRead r.eax r.ebx r.ecx r.edx k
  else if r.eax = SYS_WRITE then sysWrite r.eax r.ebx r.ecx r.edx k
  else sysSeek r.eax r.ebx k

variable {r : Regs} {k : Kernel}

lemma despachar_pide (basura : ℕ → ℕ) (h : Pide r.eax) :
    despachar basura r k = (pedido r k).2 := by
  unfold despachar pedido
  rcases h with h | h | h <;> simp [h]

lemma revisar_drv (h : revisar r k = none) : revisarDrv r.ebx k = none := by
  unfold revisar at h
  split at h
  · cases h
  · assumption

lemma revisar_buf (h : revisar r k = none) (hr : r.eax ≠ SYS_SEEK) :
    revisarBuf r.ecx r.edx k = none := by
  unfold revisar at h
  rwa [revisar_drv h, if_neg hr] at h

lemma revisarBuf_edx {ecx edx : ℕ} (h : revisarBuf ecx edx k = none) : edx ≤ 4096 := by
  by_contra hc
  unfold revisarBuf at h
  split_ifs at h with h1 h2
  omega

lemma pedido_rechazo (h : Pide r.eax) {e : ℤ} (hr : revisar r k = some e) :
    pedido r k = (e, k) := by
  unfold revisar at hr
  unfold pedido sysRead sysWrite sysSeek
  cases hd : revisarDrv r.ebx k with
  | some e' =>
    rw [hd] at hr
    obtain rfl := Option.some.inj hr
    split_ifs <;> rfl
  | none =>
    rw [hd] at hr
    simp only at hr
    rcases h with h | h | h
    · rw [if_neg (by rw [h]; decide)] at hr
      simp only [if_pos h, hr]
    · rw [if_neg (by rw [h]; decide)] at hr
      simp only [if_neg (show r.eax ≠ SYS_READ by rw [h]; decide), if_pos h, hr]
    · rw [if_pos h] at hr
      cases hr

/-- A request that passes the checks puts the client to wait and wakes the driver; in the slot
it may also set `buf_ret`. -/
lemma pedido_aceptado (h : Pide r.eax) (hr : revisar r k = none) :
    ∃ (mem : Mem) (buf : ℕ → ℕ), pedido r k =
      (0, aceptar r.ebx r.eax (fun d => { d with bufRet := buf d.bufRet }) mem k) := by
  unfold pedido sysRead sysWrite sysSeek
  simp only [revisar_drv hr]
  rcases h with h | h | h
  · have hb := revisar_buf hr (by rw [h]; decide)
    simp only [if_pos h, hb]
    exact ⟨_, fun _ => checkAddr r.ecx k.tIndice k, by rw [h]⟩
  · have hb := revisar_buf hr (by rw [h]; decide)
    simp only [if_neg (show r.eax ≠ SYS_READ by rw [h]; decide), if_pos h, hb]
    exact ⟨_, id, by rw [h]; rfl⟩
  · simp only [if_neg (show r.eax ≠ SYS_READ by rw [h]; decide),
      if_neg (show r.eax ≠ SYS_WRITE by rw [h]; decide)]
    exact ⟨_, id, by rw [h]; rfl⟩

lemma pedido_fst (h : Pide r.eax) : (pedido r k).1 = (revisar r k).getD 0 := by
  cases hr : revisar r k with
  | some e => rw [pedido_rechazo h hr]; rfl
  | none =>
    obtain ⟨mem, buf, he⟩ := pedido_aceptado h hr
    rw [he]
    rfl

lemma pedido_deja {β : Type*} (h : Pide r.eax) {f : Kernel → β}
    (hf : ∀ ebx call g mem, f (aceptar ebx call g mem k) = f k) : f (pedido r k).2 = f k := by
  cases hr : revisar r k with
  | some e => rw [pedido_rechazo h hr]
  | none =>
    obtain ⟨mem, buf, he⟩ := pedido_aceptado h hr
    simp only [he]
    exact hf _ _ _ _

lemma sysRet_fst (ebx : ℕ) : (sysRet ebx k).1 = (revisarRet ebx k).getD 0 := by
  unfold sysRet
  cases revisarRet ebx k <;> rfl

/-! ### What no call changes -/

/-- The tables of tasks and of memory, but for registers and statuses. -/
structure Marco (k k' : Kernel) : Prop where
  gDir : k'.gDir = k.gDir
  gTab : k'.gTab = k.gTab
  gdt : k'.gdt = k.gdt
  rPort : k'.rPort = k.rPort
  task : ∀ t, (k'.rTareas t).task = (k.rTareas t).task
  taskTss : ∀ t, (k'.rTareas t).taskTss = (k.rTareas t).taskTss
  tss : ∀ q, ∃ a b c d, k'.tss q = { k.tss q with eax := a, ebx := b, ecx := c, edx := d }

lemma Marco.rfl' : Marco k k :=
  ⟨rfl, rfl, rfl, rfl, fun _ => rfl, fun _ => rfl, fun _ => ⟨_, _, _, _, rfl⟩⟩

lemma Marco.trans {k₁ k₂ : Kernel} (h : Marco k k₁) (h' : Marco k₁ k₂) : Marco k k₂ := by
  refine ⟨h'.gDir.trans h.gDir, h'.gTab.trans h.gTab, h'.gdt.trans h.gdt, h'.rPort.trans h.rPort,
    fun t => (h'.task t).trans (h.task t), fun t => (h'.taskTss t).trans (h.taskTss t),
    fun q => ?_⟩
  obtain ⟨a, b, c, d, hq⟩ := h.tss q
  obtain ⟨a', b', c', d', hq'⟩ := h'.tss q
  rw [hq] at hq'
  exact ⟨a', b', c', d', hq'⟩

lemma marco_updTss (p : Ptr) (f : Tss → Tss)
    (hf : ∀ s, ∃ a b c d, f s = { s with eax := a, ebx := b, ecx := c, edx := d }) :
    Marco k (k.updTss p f) := by
  refine ⟨rfl, rfl, rfl, rfl, fun _ => rfl, fun _ => rfl, fun q => ?_⟩
  rw [updTss_tss]
  split
  · next h => exact h ▸ hf _
  · exact ⟨_, _, _, _, rfl⟩

lemma marco_updStatus (t : ℕ) (e : Status) : Marco k (k.updStatus t e) := by
  refine ⟨rfl, rfl, rfl, rfl, fun u => ?_, fun u => ?_, fun _ => ⟨_, _, _, _, rfl⟩⟩
  · unfold Kernel.updStatus
    rw [updRun_rTareas]
    split
    · next h => rw [h]
    · rfl
  · unfold Kernel.updStatus
    rw [updRun_rTareas]
    split
    · next h => rw [h]
    · rfl

/-- Neither the memory, its map, the slots of drivers nor `t_indice` are part of the frame. -/
lemma marco_resto (mem : Mem) (mm : Mm) (rDrv : ℕ → Drv) (t : ℕ) :
    Marco k { k with mem := mem, mm := mm, rDrv := rDrv, tIndice := t } :=
  ⟨rfl, rfl, rfl, rfl, fun _ => rfl, fun _ => rfl, fun _ => ⟨_, _, _, _, rfl⟩⟩

lemma aceptar_marco (ebx call : ℕ) (f : Drv → Drv) (mem : Mem) :
    Marco k (aceptar ebx call f mem k) :=
  ((marco_updStatus _ _).trans (marco_updStatus _ _)).trans (marco_resto _ _ _ _)

lemma guardar_marco {s : ℤ × Kernel} (h : Marco k s.2) : Marco k (guardar s) :=
  h.trans (marco_updTss _ _ fun _ => ⟨_, _, _, _, rfl⟩)

lemma sysOpen_snd (basura : ℕ → ℕ) (ebx ecx : ℕ) : (sysOpen basura ebx ecx k).2 = k := by
  unfold sysOpen
  simp only
  split_ifs <;> rfl

lemma sysMem_marco (ebx : ℕ) : Marco k (sysMem ebx k).2 := by
  unfold sysMem
  simp only
  generalize (if ebx = 0 then buscarMem k.mm else ebx) = pedido
  split_ifs
  · exact Marco.rfl'
  · exact marco_resto _ _ _ _
  · exact Marco.rfl'

lemma sysReg_marco (ebx : ℕ) : Marco k (sysReg ebx k).2 := by
  unfold sysReg
  split
  · exact Marco.rfl'
  · exact (marco_resto _ _ _ _).trans (marco_updStatus _ _)

lemma sysRet_marco (ebx : ℕ) : Marco k (sysRet ebx k).2 := by
  unfold sysRet
  split
  · exact Marco.rfl'
  · exact (((marco_updTss _ _ fun _ => ⟨_, _, _, _, rfl⟩).trans (marco_resto _ _ _ _)).trans
      (marco_updStatus _ _)).trans (marco_updStatus _ _)

lemma despachar_marco (basura : ℕ → ℕ) : Marco k (despachar basura r k) := by
  by_cases hp : Pide r.eax
  · rw [despachar_pide basura hp]
    cases hr : revisar r k with
    | some e =>
      rw [pedido_rechazo hp hr]
      exact Marco.rfl'
    | none =>
      obtain ⟨mem, buf, he⟩ := pedido_aceptado hp hr
      simp only [he]
      exact aceptar_marco _ _ _ _
  · simp only [Pide, not_or] at hp
    unfold despachar
    rw [if_neg hp.1, if_neg hp.2.1, if_neg hp.2.2]
    split_ifs
    · exact guardar_marco (by rw [sysOpen_snd]; exact Marco.rfl')
    · exact guardar_marco (sysReg_marco _)
    · exact sysRet_marco _
    · exact marco_updStatus _ _
    · exact guardar_marco (sysMem_marco _)
    · exact Marco.rfl'

lemma entrar_marco (t : ℕ) (r : Regs) (k : Kernel) : Marco k (entrar t r k) :=
  (marco_updTss _ _ fun _ => ⟨_, _, _, _, rfl⟩).trans (marco_resto _ _ _ _)

/-- **The frame of a call.** -/
theorem llamar_marco (basura : ℕ → ℕ) (t : ℕ) (r : Regs) (k : Kernel) :
    Marco k (llamar basura t r k) := by
  rw [llamar_eq]
  exact (entrar_marco t r k).trans (despachar_marco basura)

open Registry in
lemma Marco.registro {k' : Kernel} {n : ℕ} (h : Marco k k') (hr : Registro n k) :
    Registro n k' := by
  refine hr.congr (fun q => ?_) h.gdt h.task h.taskTss
  obtain ⟨a, b, c, d, hq⟩ := h.tss q
  rw [hq]

open Registry in
lemma Marco.tarea {k' : Kernel} (h : Marco k k') (t : ℕ) : Tarea k' t ↔ Tarea k t := by
  unfold Tarea
  rw [h.task]

/-! ### The registers a call writes -/

/-- The TSS whose `eax` a call of the current task writes, and the value. -/
def retorno (basura : ℕ → ℕ) (r : Regs) (k : Kernel) : Option (Ptr × ℕ) :=
  let propio := (k.rTareas k.tIndice).taskTss
  if r.eax = SYS_OPEN then some (propio, registro (sysOpen basura r.ebx r.ecx k).1)
  else if r.eax = SYS_REG then some (propio, registro (sysReg r.ebx k).1)
  else if r.eax = SYS_MEM then some (propio, registro (sysMem r.ebx k).1)
  else if r.eax = SYS_RET ∧ revisarRet r.ebx k = none then
    some ((k.rTareas (k.rDrv (slotDe k.tIndice k.rDrv)).idRet).taskTss, campoRet r.ebx k)
  else none

lemma guardar_tss {s : ℤ × Kernel} (htss : s.2.tss = k.tss) (hm : Marco k s.2)
    (ht : s.2.tIndice = k.tIndice) (q : Ptr) : (guardar s).tss q =
      if q = (k.rTareas k.tIndice).taskTss then
        conEax (registro s.1) (k.tss (k.rTareas k.tIndice).taskTss)
      else k.tss q := by
  unfold guardar
  rw [updTss_tss, ht, hm.taskTss, htss]

lemma sysReg_tss (ebx : ℕ) : (sysReg ebx k).2.tss = k.tss := by
  unfold sysReg
  split <;> rfl

lemma sysReg_tIndice (ebx : ℕ) : (sysReg ebx k).2.tIndice = k.tIndice := by
  unfold sysReg
  split <;> rfl

lemma sysMem_resto (ebx : ℕ) : (sysMem ebx k).2.tss = k.tss ∧ (sysMem ebx k).2.rDrv = k.rDrv ∧
    (sysMem ebx k).2.rTareas = k.rTareas ∧ (sysMem ebx k).2.tIndice = k.tIndice := by
  unfold sysMem
  simp only
  split_ifs <;> exact ⟨rfl, rfl, rfl, rfl⟩

lemma sysRet_acepta {ebx : ℕ} (h : revisarRet ebx k = none) : (sysRet ebx k).2 =
    (({ k.updTss (k.rTareas (k.rDrv (slotDe k.tIndice k.rDrv)).idRet).taskTss
          (conEax (campoRet ebx k)) with
        mem := (respuesta (slotDe k.tIndice k.rDrv) k).1 }.updStatus
      (k.rDrv (slotDe k.tIndice k.rDrv)).idRet .running).updStatus k.tIndice .waiting) := by
  unfold sysRet
  rw [h]
  rfl

lemma despachar_ret (basura : ℕ → ℕ) (h : r.eax = SYS_RET) :
    despachar basura r k = (sysRet r.ebx k).2 := by
  unfold despachar
  simp [h]

lemma despachar_reg (basura : ℕ → ℕ) (h : r.eax = SYS_REG) :
    despachar basura r k = guardar (sysReg r.ebx k) := by
  unfold despachar
  simp [h]

lemma sysRet_rechazo {ebx : ℕ} {e : ℤ} (h : revisarRet ebx k = some e) :
    sysRet ebx k = (e, k) := by
  unfold sysRet
  rw [h]

/-- **One call writes one `eax`**, if any. -/
theorem despachar_tss (basura : ℕ → ℕ) (q : Ptr) : (despachar basura r k).tss q =
    match retorno basura r k with
    | some (p, v) => if q = p then conEax v (k.tss p) else k.tss q
    | none => k.tss q := by
  by_cases hp : Pide r.eax
  · have hno : retorno basura r k = none := by
      unfold retorno
      rcases hp with h | h | h <;> simp [h]
    rw [despachar_pide basura hp, hno]
    exact pedido_deja (f := fun k => k.tss q) hp fun _ _ _ _ => rfl
  · simp only [Pide, not_or] at hp
    unfold despachar retorno
    rw [if_neg hp.1, if_neg hp.2.1, if_neg hp.2.2]
    by_cases h1 : r.eax = SYS_OPEN
    · simp only [if_pos h1]
      exact guardar_tss (by rw [sysOpen_snd]) (by rw [sysOpen_snd]; exact Marco.rfl')
        (by rw [sysOpen_snd]) q
    · simp only [if_neg h1]
      by_cases h2 : r.eax = SYS_REG
      · simp only [if_pos h2]
        exact guardar_tss (sysReg_tss _) (sysReg_marco _) (sysReg_tIndice _) q
      · simp only [if_neg h2]
        by_cases h3 : r.eax = SYS_RET
        · have h4 : r.eax ≠ SYS_MEM := by rw [h3]; decide
          simp only [if_pos h3, if_neg h4]
          cases hr : revisarRet r.ebx k with
          | some e => rw [sysRet_rechazo hr, if_neg (by simp)]
          | none =>
            rw [sysRet_acepta hr, if_pos ⟨h3, rfl⟩]
            exact updTss_tss k _ (conEax (campoRet r.ebx k)) q
        · simp only [h3, false_and, if_false]
          by_cases h4 : r.eax = SYS_MEM
          · have h5 : r.eax ≠ SYS_WAIT := by rw [h4]; decide
            simp only [if_pos h4, if_neg h5]
            obtain ⟨htss, -, -, ht⟩ := sysMem_resto (k := k) r.ebx
            exact guardar_tss htss (sysMem_marco _) ht q
          · simp only [if_neg h4]
            split <;> rfl

end Silicio.Syscall
