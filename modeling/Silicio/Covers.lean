import Silicio.Opens
import Silicio.Transfer

/-!
How much of what a driver hands over is looked at.

`check_addr` says of one address whether it is the caller's. `sys_reg` asks it about the first
byte of a `sys_param` and about the first byte of a name. The name is then read to its
terminator, and the pointer to the `sys_param` stays in the slot: every request and every answer
of the rest of the run goes through it. `sys_ret` looks at its own `sys_param` in the same way.
-/

namespace Silicio.Covers

open Silicio.Bitmap Silicio.Bytes Silicio.Defs Silicio.Strings Silicio.Registry Silicio.Runs
open Silicio.Syscall Silicio.Layout Silicio.Walk Silicio.Effects Silicio.Turns
open Silicio.Driver hiding Evento Paso Inicial Inv
open Silicio.Opens (cadena)
open Silicio.Transfer (PARAM_LEN)

def Dentro (k : Kernel) (t a n : ℕ) : Prop :=
  ∀ o < n, Accesible k t ((a + o) % 2 ^ 32 / 4096)

/-- The `sys_param` that task `t` hands over; `nombre` is the name in it. -/
def param (t : ℕ) (r : Regs) (k : Kernel) : ℕ := checkAddr r.ebx t (entrar t r k)

def nombre (t : ℕ) (r : Regs) (k : Kernel) : ℕ :=
  checkAddr (rd32 k.mem (param t r k + PARAM_ARCH)) t (entrar t r k)

/-- The fields of the driver's `sys_param` that a call on its slot reads or writes. -/
def campos (eax : ℕ) (d : Drv) : List ℕ :=
  if eax = SYS_RET then if d.call = SYS_READ then [PARAM_COUNT] else []
  else if eax = SYS_SEEK then [PARAM_CALL]
  else [PARAM_COUNT, PARAM_CALL]

def tocados (eax : ℕ) (d : Drv) : Set ℕ :=
  {x | ∃ c ∈ campos eax d, ∃ j < 4, x = (d.sys + c + j) % 2 ^ 32}

/-- What `sys_reg` has accepted from task `t` for slot `i` covers what the kernel touches: the
whole `sys_param` and the name with its terminator are in pages of the task, and so is all that
the calls on the slot touch for the rest of the run, as long as no step goes past the maps or
moves a byte of the kernel's image or of the tables of pages. -/
structure Cubre (kernelFin t i : ℕ) (r : Regs) (k : Kernel) : Prop where
  param : Dentro k t (param t r k) PARAM_LEN
  nombre : Dentro k t (nombre t r k) (contar (cadena k.mem (nombre t r k)) + 1)
  despues : ∀ basura es s u r', Steps (Contenido kernelFin) (llamar basura t r k, none) es s →
    s.2 = some u → Acepta u r' s.1 i ∨ Responde u r' s.1 i →
      ∀ x ∈ tocados r'.eax (s.1.rDrv i), Accesible k t (x / 4096)

/-- The `sys_param` at `a` starts in a page of the task, and if it goes on in the next page that
one is the task's too. -/
def CabeParam (k : Kernel) (t a : ℕ) : Prop :=
  Accesible k t (a / 4096) ∧
    (4096 - PARAM_LEN < a % 4096 → Accesible k t ((a / 4096 + 1) % 2 ^ 20))

/-- The name at `a` starts in a page of the task, and so is every page it goes on in. -/
def CabeNombre (k : Kernel) (t a : ℕ) : Prop :=
  Accesible k t (a / 4096) ∧
    ∀ q, 0 < q → 4096 * q ≤ a % 4096 + contar (cadena k.mem a) →
      Accesible k t ((a / 4096 + q) % 2 ^ 20)

variable {k k' : Kernel} {r r' : Regs} {s s' : Maquina} {kernelFin t u i a n : ℕ}

/-! ### Pages -/

/-- A range lies in pages of the task if its first page and each later one it reaches do. -/
lemma dentro_iff (ha : a < 2 ^ 32) (hn : 0 < n) : Dentro k t a n ↔ Accesible k t (a / 4096) ∧
    ∀ q, 0 < q → 4096 * q < a % 4096 + n → Accesible k t ((a / 4096 + q) % 2 ^ 20) := by
  constructor
  · intro h
    constructor
    · have := h 0 hn
      rwa [Nat.add_zero, Nat.mod_eq_of_lt ha] at this
    · intro q hq hlt
      -- the first byte of the page
      have := h (4096 * q - a % 4096) (by omega)
      rwa [show (a + (4096 * q - a % 4096)) % 2 ^ 32 / 4096 = (a / 4096 + q) % 2 ^ 20 by omega]
        at this
  · rintro ⟨h0, hq⟩ o ho
    rcases Nat.eq_zero_or_pos ((a % 4096 + o) / 4096) with hz | hp
    · rwa [show (a + o) % 2 ^ 32 / 4096 = a / 4096 by omega]
    · have := hq ((a % 4096 + o) / 4096) hp (by omega)
      rwa [show (a + o) % 2 ^ 32 / 4096 = (a / 4096 + (a % 4096 + o) / 4096) % 2 ^ 20 by omega]

lemma dentro_param (ha : a < 2 ^ 32) : Dentro k t a PARAM_LEN ↔ CabeParam k t a := by
  rw [dentro_iff ha (by decide), CabeParam]
  refine and_congr_right fun _ => ⟨fun h hlt => h 1 one_pos ?_, fun h q hq hlt => ?_⟩
  · simp only [PARAM_LEN] at hlt ⊢
    omega
  · simp only [PARAM_LEN] at hlt h
    obtain rfl : q = 1 := by omega
    exact h (by omega)

lemma dentro_nombre (ha : a < 2 ^ 32) :
    Dentro k t a (contar (cadena k.mem a) + 1) ↔ CabeNombre k t a := by
  rw [dentro_iff ha (Nat.succ_pos _), CabeNombre]
  refine and_congr_right fun _ => forall_congr' fun q => ?_
  rw [Nat.add_succ, Nat.lt_succ_iff]

lemma checkAddr_lt (addr t : ℕ) (k : Kernel) : checkAddr addr t k < 2 ^ 32 := by
  unfold checkAddr
  simp only
  split
  · decide
  · rw [and_page_mask (rd32_lt _ _), and_page_offset]
    have := rd32_lt k.mem ((rd32 k.mem (((k.tssOf t).cr3 &&& 0xfffff000) + 4 * (addr >>> 22)) &&&
      0xfffff000) + 4 * ((addr >>> 12) &&& 0x3ff))
    omega

lemma param_lt : param t r k < 2 ^ 32 := checkAddr_lt _ _ _

lemma nombre_lt : nombre t r k < 2 ^ 32 := checkAddr_lt _ _ _

/-! ### What the calls on a slot touch -/

lemma campos_dentro {eax c : ℕ} {d : Drv} (h : c ∈ campos eax d) : c + 4 ≤ PARAM_LEN := by
  unfold campos at h
  split_ifs at h <;>
    simp only [List.mem_cons, List.not_mem_nil, or_false, PARAM_COUNT, PARAM_CALL] at h <;>
    simp only [PARAM_LEN] <;> omega

lemma tocados_dentro {eax x : ℕ} {d : Drv} (h : x ∈ tocados eax d) :
    ∃ o < PARAM_LEN, x = (d.sys + o) % 2 ^ 32 := by
  obtain ⟨c, hc, j, hj, rfl⟩ := h
  have := campos_dentro hc
  exact ⟨c + j, by omega, by rw [Nat.add_assoc]⟩

lemma count_campos {eax : ℕ} (h : eax = SYS_READ ∨ eax = SYS_WRITE) (d : Drv) :
    PARAM_COUNT ∈ campos eax d := by
  rcases h with rfl | rfl <;> exact List.mem_cons_self

lemma call_campos {eax : ℕ} (h : Pide eax) (d : Drv) : PARAM_CALL ∈ campos eax d := by
  rcases h with rfl | rfl | rfl
  · exact List.mem_cons_of_mem _ List.mem_cons_self
  · exact List.mem_cons_of_mem _ List.mem_cons_self
  · exact List.mem_cons_self

/-- **A request changes memory in the `sys_param`**, and a write in the driver's buffer too. -/
theorem pedido_toca (basura : ℕ → ℕ) (ha : Acepta u r k i) {x : ℕ}
    (hx : rd8 (llamar basura u r k).mem x ≠ rd8 k.mem x) :
    x % 2 ^ 32 ∈ tocados r.eax (k.rDrv i) ∨
      r.eax = SYS_WRITE ∧ ∃ j < (k.rDrv i).size, x % 2 ^ 32 = ((k.rDrv i).buf + j) % 2 ^ 32 := by
  by_contra hno
  rw [not_or] at hno
  have hcampo : ∀ m c v, c ∈ campos r.eax (k.rDrv i) →
      rd8 (wr32 m ((k.rDrv i).sys + c) v) x = rd8 m x := fun m c v hc =>
    rd8_wr32_of_ne fun j hj he => hno.1 ⟨c, hc, j, hj, he⟩
  have hcall := call_campos ha.1 (k.rDrv i)
  refine hx ?_
  rcases ha.1 with hr | hr | hr
  · rw [Reply.lectura_mem basura hr ha, hcampo _ _ _ hcall,
      hcampo _ _ _ (count_campos (Or.inl hr) _)]
  · rw [Transfer.escritura_mem basura hr ha, hcampo _ _ _ hcall,
      hcampo _ _ _ (count_campos (Or.inr hr) _)]
    have hlen := Transfer.acepta_edx ha (by rw [hr]; decide)
    exact rd8_copy_of_ne (by omega) fun j hj he => hno.2 ⟨hr, j, by omega, he⟩
  · obtain ⟨hp, hrev, rfl⟩ := ha
    rw [llamar_eq, despachar_pide _ hp, pedido, if_neg (by rw [hr]; decide),
      if_neg (by rw [hr]; decide), sysSeek, revisar_drv hrev]
    exact hcampo _ _ _ hcall

lemma copiar_congr {d : Drv} {f c : ℕ} {m m' : Mem}
    (hc : ∀ j < 4, rd8 m' (d.sys + PARAM_COUNT + j) = rd8 m (d.sys + PARAM_COUNT + j))
    (hb : ∀ a ∈ (copiar d f c m).2, rd8 m' a.1 = rd8 m a.1) :
    (copiar d f c m').2 = (copiar d f c m).2 := by
  induction f generalizing c m m' with
  | zero => rfl
  | succ f ih =>
    unfold copiar at hb ⊢
    rw [rd32_congr hc]
    split
    · next hlt =>
      rw [if_pos hlt] at hb
      have h0 : rd8 m' (d.buf + c) = rd8 m (d.buf + c) := by
        have := hb _ List.mem_cons_self
        simp only [rd8, Nat.mod_mod] at this ⊢
        exact this
      -- the byte stored is the same, so the memories still agree
      have hw : ∀ x, rd8 m' x = rd8 m x → rd8 (wr8 m' (d.bufRet + c) (rd8 m' (d.buf + c))) x =
          rd8 (wr8 m (d.bufRet + c) (rd8 m (d.buf + c))) x := fun x hx => by
        rw [rd8_wr8, rd8_wr8, h0, hx]
      exact congrArg (List.cons _) (ih (fun j hj => hw _ (hc j hj))
        fun a ha => hw _ (hb a (List.mem_cons_of_mem _ ha)))
    · rfl

/-- **An answer looks there for how much to copy**: where memory is the same in those bytes and
in the bytes copied, it copies from the same places to the same places. -/
theorem respuesta_toca (hd : k'.rDrv i = k.rDrv i)
    (ht : ∀ x ∈ tocados SYS_RET (k.rDrv i), rd8 k'.mem x = rd8 k.mem x)
    (hb : ∀ a ∈ (respuesta i k).2, rd8 k'.mem a.1 = rd8 k.mem a.1) :
    (respuesta i k').2 = (respuesta i k).2 := by
  unfold respuesta at hb ⊢
  rw [hd]
  split
  · next hcall =>
    rw [if_pos hcall] at hb
    have hc : PARAM_COUNT ∈ campos SYS_RET (k.rDrv i) := by
      rw [campos, if_pos rfl, if_pos hcall]
      exact List.mem_cons_self
    refine copiar_congr (fun j hj => ?_) hb
    have := ht _ ⟨_, hc, j, hj, rfl⟩
    simp only [rd8, Nat.mod_mod] at this ⊢
    exact this
  · rfl

/-! ### The registration -/

/-- The slot keeps the pointer for the rest of the run. -/
lemma sys_queda {basura : ℕ → ℕ} {es : List Evento} (ht : t ≠ 0) (hr : r.eax = SYS_REG)
    (hi : revisarReg r.ebx (entrar t r k) = .inr i)
    (hs : Steps (Contenido kernelFin) (llamar basura t r k, none) es s) :
    (s.1.rDrv i).sys = param t r k := by
  obtain ⟨-, -, arch, hslot⟩ := llamar_registro basura hr hi
  have h0 : ((llamar basura t r k).rDrv i).idDrv ≠ 0 := by rwa [hslot]
  obtain ⟨b, c, e, hfin⟩ := steps_ranura (hs.mono fun _ _ _ hp => hp.paso) h0
  rw [hfin, hslot]
  rfl

/-- **What `sys_reg` and `sys_ret` accept covers what the kernel touches** just when neither the
`sys_param` nor the name goes over the end of a page into one that is not the task's, and the
page it starts in is the task's. -/
theorem sys_reg_cubre {l : Link} (h : Reach (Inicial l) (Contenido kernelFin) s)
    (hs : s.2 = some t) :
    (∀ r i, r.eax = SYS_REG → revisarReg r.ebx (entrar t r s.1) = .inr i →
      (Cubre kernelFin t i r s.1 ↔
        CabeParam s.1 t (param t r s.1) ∧ CabeNombre s.1 t (nombre t r s.1))) ∧
    ∀ r, r.eax = SYS_RET → revisarRet r.ebx (entrar t r s.1) = none →
      (Dentro s.1 t (param t r s.1) PARAM_LEN ↔ CabeParam s.1 t (param t r s.1)) := by
  obtain ⟨n, hn⟩ := run_inv (contenido_reach h)
  have ht : t ≠ 0 := by
    have := (hn.turno t hs).1.1
    omega
  refine ⟨fun r i hr hi => ?_, fun r _ _ => dentro_param param_lt⟩
  rw [← dentro_param param_lt, ← dentro_nombre nombre_lt]
  refine ⟨fun hc => ⟨hc.param, hc.nombre⟩, fun ⟨hp, hnom⟩ => ⟨hp, hnom, ?_⟩⟩
  intro basura es s' u r' hs' _ _ x hx
  obtain ⟨o, ho, rfl⟩ := tocados_dentro hx
  rw [sys_queda ht hr hi hs']
  exact hp o ho

/-! ### A `sys_param` at the end of a page -/

/-- As `memTres`, with the `sys_param` 8 bytes before the end of the first module. -/
def memPartida : Mem := fun x =>
  if x = 0x170ff9 then 0x08 else if x = 0x170ffa then 0x30
  else if x = 0x171000 then 0x10
  else if x = 0x171015 then 0x04 else if x = 0x171016 then 0x30
  else 0

lemma registra_partida : Scene.Registra memPartida 0xff8 0x800 0x400 16 where
  param := by decide
  arch := by decide
  buf := by decide
  size := by decide
  cabe := by decide

def reg : Regs := ⟨SYS_REG, 0x300ff8, 0, 0⟩

def inicio (m : Mem) : Maquina := Scene.turno 3 (Boot.soltarVideo (nucleoCon m 3), none)

section
variable {m : Mem} {k : Kernel} (h : Scene.Escenario m k)
include h

lemma turno_param {o a b n : ℕ} (hm : Scene.Registra m o a b n) (hr : r.ebx = 0x300000 + o) :
    param 3 r (Scene.turno 3 (k, none)).1 = 0x170000 + o ∧
      nombre 3 r (Scene.turno 3 (k, none)).1 = 0x170000 + a := by
  obtain ⟨hsys, harch, -, -⟩ := h.direcciones hm r
  have hp : param 3 r (Scene.turno 3 (k, none)).1 = 0x170000 + o := by rw [param, hr, hsys]
  have ho := hm.param
  refine ⟨hp, ?_⟩
  have hw : rd32 (Scene.turno 3 (k, none)).1.mem (0x170000 + o + PARAM_ARCH) = 0x300000 + a :=
    (h.word (by simp only [PARAM_ARCH]; omega) (by simp only [PARAM_ARCH]; omega)).trans hm.arch.1
  rw [nombre, hp, hw, harch]

lemma turno_nombre {a : ℕ} (ha : a < 4096) (h0 : rd8 m (0x170000 + a) = 0) :
    CabeNombre (Scene.turno 3 (k, none)).1 3 (0x170000 + a) := by
  have hvacia : contar (cadena (Scene.turno 3 (k, none)).1.mem (0x170000 + a)) = 0 := by
    refine Loop.scan_eq le_rfl (Nat.zero_le _) (fun j _ hj => by omega) fun _ => ?_
    exact beq_iff_eq.mpr ((h.mem (by omega) (by omega)).trans h0)
  refine ⟨?_, fun q hq hlt => ?_⟩
  · rw [show (0x170000 + a) / 4096 = 368 + 0 by omega]
    exact h.propia (c := 0) (by decide)
  · rw [hvacia] at hlt
    omega

end

lemma tres_cabe {k : Kernel} (h : Scene.Escenario memTres k) :
    CabeParam (Scene.turno 3 (k, none)).1 3 (param 3 Transfer.reg (Scene.turno 3 (k, none)).1) ∧
      CabeNombre (Scene.turno 3 (k, none)).1 3
        (nombre 3 Transfer.reg (Scene.turno 3 (k, none)).1) := by
  obtain ⟨hp, hn⟩ := turno_param h Transfer.registra_tres (r := Transfer.reg) rfl
  rw [hp, hn]
  exact ⟨⟨h.propia (c := 0) (by decide), fun hlt => absurd hlt (by decide)⟩,
    turno_nombre h (by decide) (by decide)⟩

theorem sys_reg_cubre_tres : Cubre Scene.KERNEL_FIN 3 3 Transfer.reg (inicio memTres).1 := by
  have h := Scene.escenario memTres
  exact ((sys_reg_cubre h.primera rfl).1 _ 3 rfl (h.registra Transfer.registra_tres rfl)).mpr
    (tres_cabe h)

section
variable {k : Kernel} (h : Scene.Escenario memPartida k)
include h

lemma partida_toca : Acepta 4 Transfer.leer (Scene.conductor reg k).1 3 ∧
    0x171004 ∈ tocados SYS_READ ((Scene.conductor reg k).1.rDrv 3) := by
  refine ⟨(h.acepta registra_partida (r := reg) (e := 0) rfl rfl (Or.inl rfl) rfl rfl
    (by decide)).1, ?_⟩
  obtain ⟨-, -, -, ⟨arch, hslot⟩, -⟩ := h.conduce registra_partida (r := reg) rfl rfl
  refine ⟨PARAM_COUNT, count_campos (Or.inl rfl) _, 0, by decide, ?_⟩
  rw [hslot]
  rfl

lemma partida_ajena : ¬ Accesible (Scene.turno 3 (k, none)).1 3 (0x171004 / 4096) :=
  h.ajena (c := 0) (d := 1) (by decide) (by decide) (by decide)

lemma partida_descubre : ¬ Cubre Scene.KERNEL_FIN 3 3 reg (Scene.turno 3 (k, none)).1 := by
  intro hc
  have := hc.param 12 (by decide)
  rw [(turno_param h registra_partida (r := reg) rfl).1] at this
  exact partida_ajena h this

end

/-- The count of a read goes to the module of task 4, which the driver has never been given. -/
theorem param_partido :
    Reach (Inicial enlace) (Contenido Scene.KERNEL_FIN) (inicio memPartida) ∧
      revisarReg reg.ebx (entrar 3 reg (inicio memPartida).1) = .inr 3 ∧
      ¬ Accesible (inicio memPartida).1 3 (0x171004 / 4096) ∧
      (∃ s, Reach (Inicial enlace) (Contenido Scene.KERNEL_FIN) s ∧ Acepta 4 Transfer.leer s.1 3 ∧
        0x171004 ∈ tocados SYS_READ (s.1.rDrv 3)) ∧
      ¬ Cubre Scene.KERNEL_FIN 3 3 reg (inicio memPartida).1 := by
  have h := Scene.escenario memPartida
  exact ⟨h.primera, h.registra registra_partida rfl, partida_ajena h,
    ⟨_, (h.conduce registra_partida rfl rfl).1, partida_toca h⟩, partida_descubre h⟩

end Silicio.Covers
