import Silicio.Overrun
import Silicio.Scene

/-!
Data from a client to a driver and back.

A write is one call: the kernel copies from the client's buffer to the driver's. A read is two:
the request notes where to, how much and for whom, the driver fills its buffer, and its answer
copies. Between the two any task may run; what the request noted stays noted as long as no other
request is accepted on the slot, and nobody asks `sys_mem` for a page past its map: that call may
set a bit of what has been noted.
-/

namespace Silicio.Transfer

open Silicio.Loop Silicio.Bitmap Silicio.Bytes Silicio.Defs Silicio.Registry Silicio.Runs
open Silicio.Syscall Silicio.Layout Silicio.View Silicio.Effects Silicio.Turns Silicio.Scene
open Silicio.Contained
open Silicio.Driver hiding Evento Paso Inicial Inv
open Silicio.Overrun (EnMapa)

abbrev PARAM_LEN : ℕ := 32

/-- The client's buffer of `n` bytes at `data`, the driver's buffer and the driver's
`sys_param` have no byte in common. -/
structure Separados (d : Drv) (data n : ℕ) : Prop where
  buffers : Apart data n d.buf d.size
  cliente : Apart data n d.sys PARAM_LEN
  driver : Apart d.buf d.size d.sys PARAM_LEN

/-- The physical address of the buffer task `c` offers. -/
def dato (c : ℕ) (r : Regs) (k : Kernel) : ℕ := checkAddr r.ecx c (entrar c r k)

/-- What a write on slot `i` leaves: the bytes, how many they are and what call it was, and
nothing else. -/
structure Escrita (c i : ℕ) (r : Regs) (k k' : Kernel) : Prop where
  bytes : ∀ j < min r.edx (k.rDrv i).size,
    rd8 k'.mem ((k.rDrv i).buf + j) = rd8 k.mem (dato c r k + j)
  count : rd32 k'.mem ((k.rDrv i).sys + PARAM_COUNT) = min r.edx (k.rDrv i).size
  call : rd32 k'.mem ((k.rDrv i).sys + PARAM_CALL) = SYS_WRITE
  resto : ∀ x, (∀ j < min r.edx (k.rDrv i).size, x % 2 ^ 32 ≠ ((k.rDrv i).buf + j) % 2 ^ 32) →
    (∀ j < 4, x % 2 ^ 32 ≠ ((k.rDrv i).sys + PARAM_COUNT + j) % 2 ^ 32) →
    (∀ j < 4, x % 2 ^ 32 ≠ ((k.rDrv i).sys + PARAM_CALL + j) % 2 ^ 32) →
    rd8 k'.mem x = rd8 k.mem x

/-- What the answer of driver `u` to a read leaves, the request made in `k₀` and the answer in
`k`: the bytes of the driver's buffer, and nothing else; the client goes on and the driver
waits. -/
structure Leida (c i u : ℕ) (r : Regs) (k₀ k k' : Kernel) : Prop where
  bytes : ∀ j < min r.edx (k₀.rDrv i).size,
    rd8 k'.mem (dato c r k₀ + j) = rd8 k.mem ((k₀.rDrv i).buf + j)
  resto : ∀ x, (∀ j < min r.edx (k₀.rDrv i).size, x % 2 ^ 32 ≠ (dato c r k₀ + j) % 2 ^ 32) →
    rd8 k'.mem x = rd8 k.mem x
  cliente : estados k' c = .running
  driver : estados k' u = .waiting

/-- A step on which no request is accepted on slot `i`. -/
def Ajeno (kernelFin i : ℕ) (s : Maquina) (e : Evento) (s' : Maquina) : Prop :=
  Overrun.Paso kernelFin s e s' ∧ ∀ t r, e = .llamada t r → ¬ Acepta t r s.1 i

/-- The step asks `sys_mem` for no page past the map. -/
abbrev EnMapas (paso : Maquina → Evento → Maquina → Prop) (s : Maquina) (e : Evento)
    (s' : Maquina) : Prop := paso s e s' ∧ EnMapa e

variable {l : Link} {s s' : Maquina} {k k' : Kernel} {r r' : Regs} {c i t u kernelFin : ℕ}
variable {e : Evento}

/-! ### The request -/

lemma cantidad_eq (d : Drv) (edx : ℕ) : cantidad d edx = min edx d.size := by
  unfold cantidad
  split <;> omega

lemma rd_param (m : Mem) (sys n call : ℕ) :
    rd32 (wr32 (wr32 m (sys + PARAM_COUNT) n) (sys + PARAM_CALL) call) (sys + PARAM_COUNT) =
      n % 2 ^ 32 ∧
    rd32 (wr32 (wr32 m (sys + PARAM_COUNT) n) (sys + PARAM_CALL) call) (sys + PARAM_CALL) =
      call % 2 ^ 32 ∧
    ∀ x, (∀ j < 4, x % 2 ^ 32 ≠ (sys + PARAM_COUNT + j) % 2 ^ 32) →
      (∀ j < 4, x % 2 ^ 32 ≠ (sys + PARAM_CALL + j) % 2 ^ 32) →
      rd8 (wr32 (wr32 m (sys + PARAM_COUNT) n) (sys + PARAM_CALL) call) x = rd8 m x := by
  refine ⟨?_, rd32_wr32_self _ _ _, fun x h1 h2 => ?_⟩
  · rw [← rd32_wr32_self m (sys + PARAM_COUNT) n]
    refine rd32_congr fun j hj => rd8_wr32_of_ne fun j' hj' => ?_
    simp only [PARAM_COUNT, PARAM_CALL]
    omega
  · rw [rd8_wr32_of_ne h2, rd8_wr32_of_ne h1]

lemma escritura_mem (basura : ℕ → ℕ) (hr : r.eax = SYS_WRITE) (ha : Acepta c r k i) :
    (llamar basura c r k).mem =
      wr32 (wr32 (copy (dato c r k) (k.rDrv i).buf (min r.edx (k.rDrv i).size) k.mem)
        ((k.rDrv i).sys + PARAM_COUNT) (min r.edx (k.rDrv i).size))
        ((k.rDrv i).sys + PARAM_CALL) SYS_WRITE := by
  obtain ⟨hp, hrev, rfl⟩ := ha
  have hb := revisar_buf hrev (by rw [hr]; decide)
  rw [llamar_eq, despachar_pide _ hp, pedido, if_neg (by rw [hr]; decide), if_pos hr, sysWrite,
    revisar_drv hrev]
  simp only [hb, hr, ← cantidad_eq]
  rfl

lemma acepta_edx (ha : Acepta c r k i) (hr : r.eax ≠ SYS_SEEK) : r.edx ≤ 4096 :=
  revisarBuf_edx (revisar_buf ha.2.1 hr)

/-- **An accepted write**, whatever the state. -/
lemma escrita (basura : ℕ → ℕ) (hr : r.eax = SYS_WRITE) (ha : Acepta c r k i)
    (hsep : Separados (k.rDrv i) (dato c r k) r.edx) :
    Escrita c i r k (llamar basura c r k) := by
  have hlen := acepta_edx ha (by rw [hr]; decide)
  have hmem := escritura_mem basura hr ha
  set n := min r.edx (k.rDrv i).size with hn
  have hn32 : n ≤ 2 ^ 32 := by omega
  obtain ⟨hcount, hcall, hresto⟩ := rd_param (copy (dato c r k) (k.rDrv i).buf n k.mem)
    (k.rDrv i).sys n SYS_WRITE
  rw [← hmem] at hcount hcall hresto
  refine ⟨fun j hj => ?_, ?_, hcall, fun x hx hx1 hx2 => ?_⟩
  · -- the driver's buffer lies apart from its `sys_param`
    have hd : ∀ o, o + 4 ≤ PARAM_LEN → ∀ j' < 4,
        ((k.rDrv i).buf + j) % 2 ^ 32 ≠ ((k.rDrv i).sys + o + j') % 2 ^ 32 := by
      intro o ho j' hj'
      rw [Nat.add_assoc]
      exact hsep.driver j (by omega) (o + j') (by omega)
    rw [hresto _ (hd _ (by decide)) (hd _ (by decide))]
    exact rd8_copy_self hn32 (hsep.buffers.mono (by omega) (by omega)) hj
  · rw [hcount]
    omega
  · rw [hresto x hx1 hx2]
    exact rd8_copy_of_ne hn32 hx

/-! ### Between the request and the answer -/

/-- A slot that has a driver changes by requests only, as long as pages are in the map. -/
lemma Ajeno.ranura (h : EnMapas (Ajeno kernelFin i) s e s') (h0 : (s.1.rDrv i).idDrv ≠ 0) :
    s'.1.rDrv i = s.1.rDrv i := by
  obtain ⟨⟨hp, hno⟩, he⟩ := h
  cases (hp.contenida he).paso with
  | turno => rfl
  | llamada basura => exact Reply.llamar_rDrv basura h0 (hno _ _ rfl)
  | setPort =>
    rw [Ports.setPort_eq]
    split <;> rfl
  | unsetPort => rw [Ports.unsetPort_eq]; rfl
  | escritura =>
    unfold escribir
    split <;> rfl

lemma ajenos_ranura {l : List Evento} (h : Steps (EnMapas (Ajeno kernelFin i)) s l s')
    (h0 : (s.1.rDrv i).idDrv ≠ 0) : s'.1.rDrv i = s.1.rDrv i := by
  refine h.rel (R := fun s s' => (s.1.rDrv i).idDrv ≠ 0 → s'.1.rDrv i = s.1.rDrv i)
    (fun _ _ => rfl) (fun s s₁ s' h1 h2 h0 => ?_) (fun _ _ _ hp => Ajeno.ranura hp) h0
  have h := h1 h0
  exact (h2 (by rwa [h])).trans h

lemma ajenos_reach {l' : List Evento} (h : Reach (Inicial l) Paso s)
    (hs : Steps (EnMapas (Ajeno kernelFin i)) s l' s') : Reach (Inicial l) Paso s' :=
  h.steps (hs.mono fun _ _ _ hp => (hp.1.1.contenida hp.2).paso)

/-! ### The answer -/

/-- When neither the copy nor anybody else has touched the count, the answer copies as many bytes
as the request said. -/
lemma respuesta_cuenta {n : ℕ} (hcall : (k.rDrv i).call = SYS_READ) (hn : n < 2 ^ 32)
    (hcount : rd32 k.mem ((k.rDrv i).sys + PARAM_COUNT) = n)
    (hap : Apart (k.rDrv i).bufRet n (k.rDrv i).sys PARAM_LEN) :
    respuesta i k = (copy (k.rDrv i).buf (k.rDrv i).bufRet n k.mem,
      (List.range n).map (Reply.turno (k.rDrv i))) := by
  obtain ⟨m, hm, he, hmas, hfin⟩ := Reply.respuesta_spec hcall
  -- the count reads the same while no more than `n` bytes have been copied
  have hfijo : ∀ c ≤ n, rd32 (copy (k.rDrv i).buf (k.rDrv i).bufRet c k.mem)
      ((k.rDrv i).sys + PARAM_COUNT) = n := by
    intro c hc
    rw [← hcount]
    refine rd32_congr fun j hj => rd8_copy_of_ne (by omega) fun j' hj' he' => ?_
    refine hap j' (by omega) (PARAM_COUNT + j) (by simp only [PARAM_COUNT, PARAM_LEN]; omega) ?_
    rw [← he', Nat.add_assoc]
  have hmn : m = n := by
    apply le_antisymm
    · by_contra hc
      have := hmas n (by omega)
      rw [hfijo n le_rfl] at this
      omega
    · by_contra hc
      rw [hfijo m (by omega)] at hfin
      omega
  rw [he, hmn]

/-- **An accepted answer**: what it does to memory, to its client and to the driver. -/
lemma llamar_respuesta (basura : ℕ → ℕ) (hr : Responde u r k i) :
    (llamar basura u r k).mem = (respuesta i (entrar u r k)).1 := by
  obtain ⟨heax, hrev, rfl⟩ := hr
  rw [llamar_eq, despachar_ret basura heax, sysRet_acepta hrev]
  rfl

/-- **The answer to a read**, in a state that has kept what the request noted. -/
lemma leida {k₀ : Kernel} (basura : ℕ → ℕ) {b : Drv} (hb : k₀.rDrv i = b) {data : ℕ}
    (hd : dato c r k₀ = data) (hslot : k.rDrv i =
      { b with bufRet := data, call := SYS_READ, idRet := c })
    (hsep : Separados b data r.edx) (hlen : r.edx ≤ 4096)
    (hcount : rd32 k.mem (b.sys + PARAM_COUNT) = min r.edx b.size) (hcu : c ≠ u)
    (hret : Responde u r' k i) : Leida c i u r k₀ k (llamar basura u r' k) := by
  subst hb hd
  set n := min r.edx (k₀.rDrv i).size with hn
  have hn32 : n < 2 ^ 32 := by omega
  have hmem : (llamar basura u r' k).mem =
      copy (k₀.rDrv i).buf (dato c r k₀) n k.mem := by
    rw [llamar_respuesta basura hret, respuesta_cuenta (n := n) ?_ hn32 ?_ ?_]
    · rw [entrar_rDrv, entrar_mem, hslot]
    · rw [entrar_rDrv, hslot]
    · rw [entrar_rDrv, entrar_mem, hslot]
      exact hcount
    · rw [entrar_rDrv, hslot]
      exact hsep.cliente.mono (by omega) le_rfl
  have hap : Apart (k₀.rDrv i).buf n (dato c r k₀) n := fun x hx y hy he =>
    hsep.buffers y (by omega) x (by omega) he.symm
  obtain ⟨-, hst⟩ := llamar_responde basura hret
  rw [hslot] at hst
  refine ⟨fun j hj => ?_, fun x hx => ?_, ?_, ?_⟩
  · rw [hmem]
    exact rd8_copy_self hn32.le hap hj
  · rw [hmem]
    exact rd8_copy_of_ne hn32.le hx
  · rw [hst, Function.update_of_ne hcu, Function.update_self]
  · rw [hst, Function.update_self]

/-- What an accepted request comes to, the steps after it being `paso`: a write leaves the client's
bytes in the driver's buffer, and the answer of the driver brings the client of a read the bytes of
the driver's buffer as they are then, if the count is still what the request noted; the answer to a
write or to a seek copies nothing. -/
def Transfiere (paso : Maquina → Evento → Maquina → Prop) (c i : ℕ) (r : Regs) (k : Kernel) :
    Prop :=
  ∀ basura : ℕ → ℕ,
    (r.eax = SYS_WRITE → Separados (k.rDrv i) (dato c r k) r.edx →
      Escrita c i r k (llamar basura c r k)) ∧
    ∀ es s' u r' basura', Steps paso (llamar basura c r k, none) es s' →
      paso s' (.llamada u r') (llamar basura' u r' s'.1, none) →
      u = (k.rDrv i).idDrv → r'.eax = SYS_RET → revisarRet r'.ebx (entrar u r' s'.1) = none →
      (r.eax = SYS_READ → Separados (k.rDrv i) (dato c r k) r.edx →
        rd32 s'.1.mem ((k.rDrv i).sys + PARAM_COUNT) = min r.edx (k.rDrv i).size →
        Leida c i u r k s'.1 (llamar basura' u r' s'.1)) ∧
      (r.eax ≠ SYS_READ → (llamar basura' u r' s'.1).mem = s'.1.mem)

/-- **Data end to end.** In every run in which nobody asks `sys_mem` for a page past the map, an
accepted request comes to what it should, whatever tasks do after it, so long as no other is
accepted on its slot. -/
theorem transferencias (h : Reach (Inicial l) (EnMapas (Overrun.Paso kernelFin)) s)
    (hc : s.2 = some c) (ha : Acepta c r s.1 i) (hcab : Contenida kernelFin r (entrar c r s.1)) :
    Transfiere (EnMapas (Ajeno kernelFin i)) c i r s.1 := by
  replace h : Reach (Inicial l) Paso s := h.mono fun _ _ _ hp => (hp.1.contenida hp.2).paso
  refine fun basura => ⟨fun hr hsep => escrita basura hr ha hsep, ?_⟩
  rintro es s' u r' basura' hs - rfl hr' hrev
  obtain ⟨hi, h0, hespera⟩ := acepta_dueno ha
  obtain ⟨k, o⟩ := s
  obtain rfl : o = some c := hc
  -- the client runs when it asks, the driver waits: they are two
  obtain ⟨n, hn⟩ := run_inv h
  have hcu : c ≠ (k.rDrv i).idDrv := by
    intro he
    have hj := (hn.turno c rfl).2
    rw [estados, ← he] at hespera
    rcases hj with hj | hj <;> · rw [hespera] at hj; cases hj
  have hpaso : Reach (Inicial l) Paso (llamar basura c r k, none) := h.step (.llamada basura)
  obtain ⟨⟨b, hd⟩, -⟩ := llamar_acepta basura ha
  have hslot : s'.1.rDrv i = { k.rDrv i with bufRet := b, call := r.eax, idRet := c } := by
    rw [ajenos_ranura hs (by rw [hd, Function.update_self]; exact h0), hd, Function.update_self]
  obtain ⟨n', hn'⟩ := run_inv (ajenos_reach hpaso hs)
  have hresp : Responde (k.rDrv i).idDrv r' s'.1 i := by
    refine ⟨hr', hrev, ?_⟩
    have := hn'.ranuras.slotDe hi (by rw [hslot]; exact h0)
    rwa [hslot] at this
  refine ⟨fun hr hsep hcount => ?_, fun hr => ?_⟩
  · have hlec := (Reply.lectura_rDrv basura hr ha).1
    have hslot' : s'.1.rDrv i = { k.rDrv i with
        bufRet := dato c r k, call := SYS_READ, idRet := c } := by
      rw [ajenos_ranura hs (by rw [hd, Function.update_self]; exact h0)]
      exact hlec
    exact leida basura' rfl rfl hslot' hsep (acepta_edx ha (by rw [hr]; decide)) hcount hcu hresp
  · rw [llamar_respuesta basura' hresp]
    unfold respuesta
    rw [entrar_rDrv, entrar_mem, hslot, if_neg hr]

/-! ### Four bytes there and four back -/

lemma registra_tres : Scene.Registra memTres 0 0x800 0x400 16 where
  param := by decide
  arch := by decide
  buf := by decide
  size := by decide
  cabe := by decide

/-- As `memTres`, with four bytes in the driver's buffer and four in the client's module. -/
def memHola : Mem := fun x =>
  if 0x170400 ≤ x ∧ x < 0x170404 then BitVec.ofNat 8 (0x61 + x % 4)
  else if 0x171010 ≤ x ∧ x < 0x171014 then BitVec.ofNat 8 (0x71 + x % 4)
  else memTres x

lemma registra_hola : Scene.Registra memHola 0 0x800 0x400 16 where
  param := by decide
  arch := by decide
  buf := by decide
  size := by decide
  cabe := by decide

/-- Task 3 registers; task 4 reads four bytes, `leer`, or writes four, `escribe`; the driver
answers, `responde`. -/
def reg : Regs := ⟨SYS_REG, 0x300000, 0, 0⟩

def leer : Regs := ⟨SYS_READ, 3, 0x300000, 4⟩
def escribe : Regs := ⟨SYS_WRITE, 3, 0x300010, 4⟩

def responde : Regs := ⟨SYS_RET, 0x300000, 0, 0⟩

def leyendo (k : Kernel) : Maquina := llama 4 leer (conductor reg k)

/-- After a turn of task 5 the driver has the processor. -/
def leido (k : Kernel) : Maquina := turno 3 (turno 5 (leyendo k))

/-- Task 5 asks for a page past the map. The bit taken for that of the page is the first of
`r_drv[3].buf_ret`. -/
def fuera : Regs := ⟨SYS_MEM, 0x1082e0, 0, 0⟩

/-- Task 5 asks for that page before the driver gets the processor. -/
def corrido (k : Kernel) : Maquina := turno 3 (Overrun.llamar 5 fuera (turno 5 (leyendo k)).1, none)

/-- A call that touches only the pages of the modules keeps out of the tables. -/
lemma contenida_modulos (hr : r.eax ≠ SYS_MEM) (ht : ∀ x, EnTablas k x → 0x174000 ≤ x)
    (h : ∀ x, Toca r k x → 0x170000 ≤ x ∧ x < 0x174000) : Contenida KERNEL_FIN r k := by
  refine ⟨fun hm => absurd hm hr, fun x hx => Or.inr ?_, fun _ x hx hd => ?_⟩
  · have := (h x hx).1
    simp only [KERNEL_FIN]
    omega
  · exact absurd (ht x hd) (not_le_of_gt (h x hx).2)

lemma vecino_modulos {m : Mem} (h : Escenario m k) (hk : Vecino (tresCon m) historia k k') {x : ℕ}
    (hx : EnTablas k' x) : 0x174000 ≤ x := by
  have hd := enTablas_vecino h.tablas tres_ventana hk hx
  have : 372 ≤ x / 4096 := tres_deTablas hd
  omega

/-- The driver may answer: four bytes of its buffer will go to `b` on. No table is in the pages of
the modules. -/
structure Pendiente (b : ℕ) (k : Kernel) : Prop where
  ranura : ∃ arch, k.rDrv 3 = ⟨arch, 3, 0x170400, b, 16, 4, SYS_READ, 0x170000⟩
  otras : ∀ j < 3, (k.rDrv j).idDrv = 0
  cuenta : rd32 k.mem (0x170000 + PARAM_COUNT) = 4
  ve : checkAddr 0x300000 3 (entrar 3 responde k) = 0x170000
  tablas : ∀ x, EnTablas (entrar 3 responde k) x → 0x174000 ≤ x

section
variable {b : ℕ} (h : Pendiente b k) (hb : 0x171000 ≤ b) (hb' : b + 4 ≤ 0x174000)
include h hb hb'

lemma Pendiente.respuesta : slotDe 3 k.rDrv = 3 ∧
    revisarRet responde.ebx (entrar 3 responde k) = none ∧
    respuesta 3 (entrar 3 responde k) = (copy 0x170400 b 4 k.mem,
      (List.range 4).map fun j => ((0x170400 + j) % 2 ^ 32, (b + j) % 2 ^ 32)) := by
  obtain ⟨arch, hslot⟩ := h.ranura
  have hs : slotDe 3 k.rDrv = 3 := by
    refine scan_eq (Nat.zero_le 3) (by decide) (fun j _ hj => ?_) fun _ => ?_
    · rw [h.otras j hj]
      rfl
    · rw [hslot]
      rfl
  refine ⟨hs, ?_, ?_⟩
  · unfold revisarRet
    rw [entrar_tIndice, entrar_rDrv, hs, show responde.ebx = 0x300000 from rfl, h.ve]
    decide
  · rw [respuesta_cuenta (n := 4), entrar_rDrv, entrar_mem, hslot]
    · rfl
    · rw [entrar_rDrv, hslot]
    · decide
    · rw [entrar_rDrv, entrar_mem, hslot]
      exact h.cuenta
    · rw [entrar_rDrv, hslot]
      intro x hx y hy
      simp only [PARAM_LEN] at hx hy ⊢
      omega

lemma Pendiente.contenida : Contenida KERNEL_FIN responde (entrar 3 responde k) := by
  obtain ⟨hs, -, he⟩ := h.respuesta hb hb'
  refine contenida_modulos (by decide) h.tablas fun x hx => ?_
  cases hx with
  | campo hp | origen hp | destino hp => exact absurd hp (by decide)
  | lee _ _ ha | copia _ _ ha =>
    rw [entrar_tIndice, entrar_rDrv, hs, he] at ha
    obtain ⟨j, hj, rfl⟩ := List.mem_map.mp ha
    rw [List.mem_range] at hj
    omega
  | dir hp | tabla hp => exact absurd hp (by decide)

end

lemma ajeno_turno {s s' : Maquina} (hp : Contenido KERNEL_FIN s (.turno u) s') :
    Ajeno KERNEL_FIN 3 s (.turno u) s' := ⟨.contenido hp, fun _ _ he => by cases he⟩

lemma Pendiente.ajeno {b : ℕ} {s : Maquina} (h : Pendiente b s.1) (hs : s.2 = some 3)
    (hb : 0x171000 ≤ b) (hb' : b + 4 ≤ 0x174000) :
    Ajeno KERNEL_FIN 3 s (.llamada 3 responde) (llama 3 responde s) := by
  refine ⟨.contenido (paso_llama hs (h.contenida hb hb')), fun t r he ha => ?_⟩
  cases he
  exact absurd ha.1 (by decide)

section
variable {m : Mem} {o : ℕ} (h : Escenario m k) (hm : Registra m 0 0x800 0x400 16)
include h hm

lemma pide (hp : r.eax = SYS_READ ∨ r.eax = SYS_WRITE) (hi : r.ebx = 3)
    (he : r.ecx = 0x300000 + o) (hl : 0 < r.edx ∧ o + r.edx ≤ 4096) :
    Acepta 4 r (conductor reg k).1 3 ∧
      Separados ((conductor reg k).1.rDrv 3) (dato 4 r (conductor reg k).1) r.edx ∧
      Contenida KERNEL_FIN r (entrar 4 r (conductor reg k).1) := by
  obtain ⟨ha, hd⟩ := h.acepta hm (r := reg) (e := o) rfl rfl hp hi he hl
  obtain ⟨-, -, -, ⟨arch, hslot⟩, -, hv⟩ := h.conduce hm (r := reg) rfl rfl
  have hlen : cantidad ((conductor reg k).1.rDrv 3) r.edx ≤ min r.edx 16 := by
    rw [cantidad_eq, hslot]
  have hno := pide_ne (hp.imp_right Or.inl)
  refine ⟨ha, ?_, contenida_modulos hno.1
    (fun x hx => vecino_modulos h (hv.trans (vecino_entrar 4 r)) hx) fun x hx => ?_⟩
  · rw [hslot, dato, hd]
    refine ⟨fun i hi j hj => ?_, fun i hi j hj => ?_, fun i hi j hj => ?_⟩
    · simp only at hj ⊢
      omega
    · simp only [PARAM_LEN] at hj ⊢
      omega
    · simp only [PARAM_LEN] at hi hj ⊢
      omega
  · cases hx with
    | campo _ _ ho hj =>
      rw [entrar_rDrv, hi, hslot]
      rcases ho with rfl | ⟨rfl, -⟩ <;> simp only [PARAM_CALL, PARAM_COUNT] <;> omega
    | origen _ _ hj =>
      rw [entrar_rDrv, hi] at hj
      rw [entrar_tIndice, hd]
      omega
    | destino _ _ hj =>
      rw [entrar_rDrv, hi] at hj
      rw [entrar_rDrv, hi, hslot]
      simp only
      omega
    | lee hret | copia hret => exact absurd hret hno.2
    | dir hmem | tabla hmem => exact absurd hmem hno.1

lemma conductor_ranura : ((conductor reg k).1.rDrv 3).idDrv = 3 ∧
    ((conductor reg k).1.rDrv 3).size = 16 ∧ ((conductor reg k).1.rDrv 3).sys = 0x170000 ∧
    ((conductor reg k).1.rDrv 3).buf = 0x170400 := by
  obtain ⟨-, -, -, ⟨arch, hslot⟩, -⟩ := h.conduce hm (r := reg) rfl rfl
  rw [hslot]
  exact ⟨rfl, rfl, rfl, rfl⟩

lemma leer_dato : dato 4 leer (conductor reg k).1 = 0x171000 :=
  (h.acepta hm (r := reg) (q := leer) (e := 0) rfl rfl (Or.inl rfl) rfl rfl (by decide)).2

/-! #### The read -/

lemma leer_acepta : Acepta 4 leer (conductor reg k).1 3 ∧
    Separados ((conductor reg k).1.rDrv 3) (dato 4 leer (conductor reg k).1) leer.edx ∧
    Contenida KERNEL_FIN leer (entrar 4 leer (conductor reg k).1) :=
  pide h hm (o := 0) (Or.inl rfl) rfl rfl (by decide)

lemma leyendo_reach : Reach (Turns.Inicial enlace) (Contenido KERNEL_FIN) (leyendo k) :=
  (h.conduce hm (r := reg) rfl rfl).1.step
    (paso_llama rfl (leer_acepta h hm).2.2)

lemma leyendo_mem : (leyendo k).1.mem = wr32 (wr32 k.mem (0x170000 + PARAM_COUNT) 4)
      (0x170000 + PARAM_CALL) SYS_READ ∧
    Vecino (tresCon m) historia k (leyendo k).1 := by
  obtain ⟨-, hk, -, ⟨arch, hslot⟩, -, hv⟩ := h.conduce hm (r := reg) rfl rfl
  obtain ⟨ha, -⟩ := leer_acepta h hm
  have hmem : (leyendo k).1.mem = _ := Reply.lectura_mem (fun _ => 0) rfl ha
  have hcant : cantidad ((conductor reg k).1.rDrv 3) leer.edx = 4 := by rw [hslot]; rfl
  rw [hcant, hslot, hk] at hmem
  refine ⟨hmem, hv.trans ⟨llamar_marco _ _ _ _, fun x hx hd => ?_⟩⟩
  have : 372 ≤ x / 4096 := tres_deTablas hd
  rw [hk]
  refine (congrArg (fun m' => rd8 m' x) hmem).trans ?_
  rw [rd8_wr32_of_ne fun j hj => by simp only [PARAM_CALL]; omega,
    rd8_wr32_of_ne fun j hj => by simp only [PARAM_COUNT]; omega]

lemma leyendo_ranura : (∃ arch, (leyendo k).1.rDrv 3 =
      ⟨arch, 3, 0x170400, 0x171000, 16, 4, SYS_READ, 0x170000⟩) ∧
    ∀ j < 3, ((leyendo k).1.rDrv j).idDrv = 0 := by
  obtain ⟨-, -, hotros, ⟨arch, hslot⟩, -⟩ := h.conduce hm (r := reg) rfl rfl
  obtain ⟨ha, -⟩ := leer_acepta h hm
  refine ⟨⟨arch, ?_⟩, fun j hj => ?_⟩
  · refine (Reply.lectura_rDrv (fun _ => 0) rfl ha).1.trans ?_
    rw [hslot, show checkAddr leer.ecx 4 (entrar 4 leer (conductor reg k).1) = 0x171000 from
      leer_dato h hm]
  · obtain ⟨⟨b, hdrv⟩, -⟩ := llamar_acepta (fun _ => 0) ha
    refine (congrArg Drv.idDrv (congrFun hdrv j)).trans ?_
    rw [Function.update_of_ne (by omega)]
    exact congrArg Drv.idDrv (hotros j (by simp only [MAX_DRIVERS]; omega) (by omega))

lemma leyendo_estados : estados (leyendo k).1 = Function.update (Function.update
      (Function.update (estados k) 3 .waiting) 4 .waiting) 3 .running := by
  obtain ⟨-, -, -, ⟨arch, hslot⟩, hst, -⟩ := h.conduce hm (r := reg) rfl rfl
  obtain ⟨ha, -⟩ := leer_acepta h hm
  refine (llamar_acepta (fun _ => 0) ha).2.trans ?_
  rw [hslot, hst]

lemma leyendo_cinco : Contenido KERNEL_FIN (leyendo k) (.turno 5) (turno 5 (leyendo k)) := by
  obtain ⟨-, hv⟩ := leyendo_mem h hm
  refine paso_siguiente (t := 4) (despachar_tIndice _ _ _) rfl (by decide)
    ((hv.marco.tarea 5).mpr (h.tarea 5 (by decide) (by decide))) ?_
  rw [leyendo_estados h hm, Function.update_of_ne (by decide), Function.update_of_ne (by decide),
    Function.update_of_ne (by decide)]
  exact h.corre 5 (by decide) (by decide)

lemma turno_driver {s : Maquina} (hrt : s.1.rTareas = (leyendo k).1.rTareas)
    (hi : s.1.tIndice = 5) : Contenido KERNEL_FIN s (.turno 3) (turno 3 s) := by
  obtain ⟨-, hv⟩ := leyendo_mem h hm
  obtain ⟨n, hn⟩ := run_inv (contenido_reach (leyendo_reach h hm))
  have h3 : Tarea (leyendo k).1 3 := (hv.marco.tarea 3).mpr (h.tarea 3 (by decide) (by decide))
  have he : estados (leyendo k).1 3 = .running := by
    rw [leyendo_estados h hm, Function.update_self]
  refine .turno ?_
  rw [hrt, hi]
  exact hn.pasa h3 (Or.inl he) (Or.inr ((hv.marco.task 6).trans h.hueco)) rfl

lemma cuenta_anotada {b : ℕ} (hp : Pendiente b k') :
    rd32 k'.mem (((conductor reg k).1.rDrv 3).sys + PARAM_COUNT) =
      min leer.edx ((conductor reg k).1.rDrv 3).size := by
  rw [(conductor_ranura h hm).2.1, (conductor_ranura h hm).2.2.1]
  exact hp.cuenta

lemma leido_pendiente : Pendiente 0x171000 (leido k).1 := by
  obtain ⟨hmem, hv⟩ := leyendo_mem h hm
  obtain ⟨hslot, hotras⟩ := leyendo_ranura h hm
  have hk := (vecino_turno (vecino_turno hv 5) 3).trans (vecino_entrar 3 responde)
  refine ⟨hslot, hotras, ?_, ?_, fun x hx => vecino_modulos h hk hx⟩
  · refine (congrArg (fun m' => rd32 m' (0x170000 + PARAM_COUNT)) hmem).trans ?_
    exact (rd_param _ _ _ _).1
  · exact (h.usuario hk (c := 0) (by decide) (show 0 < 4096 by decide)).2.2

lemma leido_pasos : Steps (EnMapas (Ajeno KERNEL_FIN 3)) (leyendo k) [.turno 5, .turno 3]
    (leido k) :=
  .cons ⟨ajeno_turno (leyendo_cinco h hm), trivial⟩
    (.cons ⟨ajeno_turno (turno_driver h hm rfl rfl), trivial⟩ (.nil _))

end

/-! ### A page past the map -/

section
variable {m : Mem} (h : Escenario m k)
include h

lemma raiz_tres (hu : Tarea k u) : Tables.raizDe (tresCon m) historia u ≠ 1404 ∧
    Tables.raizDe (tresCon m) historia u ≠ 32 := by
  rcases Tables.lt_tres_or (h.tablas.registro.tarea_iff.mp hu).1 with h3 | ⟨c, e, rfl, he⟩
  · rw [Tables.raizDe, if_pos h3, tresCon_raiz]
    decide
  · rw [Tables.raizDe_carga he]
    obtain ⟨i, -, rfl⟩ := List.mem_map.mp (List.mem_of_getElem? he)
    simp only [cargaTres]
    omega

/-- The way to the page: its directory entry is in the first table of task 5. -/
lemma fuera_camino (hk : Vecino (tresCon m) historia k k') (hi : k'.tIndice = 5) :
    dirDe fuera.ebx k' = 0x57c080 ∧ tabDe fuera.ebx k' = 0x20b80 := by
  have hreg : Registro (3 + historia.cargas.length) k := h.tablas.registro
  have ht : Tarea k 5 := h.tarea 5 (by decide) (by decide)
  have hcarga : historia.cargas[2]? = some (cargaTres 2) := historiaTres_get (by decide)
  have hcr : (k'.tssOf 5).cr3 = 4096 * 1403 := by
    rw [marco_cr3 hk.marco, hreg.tssOf ht, h.tablas.cr3 5 ht]
    exact congrArg (4096 * ·) (Tables.raizDe_carga hcarga)
  have hdir : dirDe fuera.ebx k' = 0x57c080 := by
    rw [dirDe, hi, hcr]
    decide
  refine ⟨hdir, ?_⟩
  have hword : word k'.mem 1404 32 = word k.mem 1404 32 :=
    word_congr (by decide) (by decide) fun x hx hp =>
      hk.mem x hx (hp ▸ Or.inr ⟨_, List.mem_of_getElem? hcarga, Or.inr rfl⟩)
  have hent := (h.tablas.mapa.propias 2 _ hcarga 32 (by decide)).pagina
  have hpag : word k'.mem 1404 32 / 4096 = 32 := hword ▸ hent
  rw [tabDe, hdir, and_page_mask (rd32_lt _ _), show rd32 k'.mem 0x57c080 = word k'.mem 1404 32
    from rfl, hpag]
  decide

lemma fuera_deja (hk : Vecino (tresCon m) historia k k') {arch : ℕ → Byte}
    (hslot : k'.rDrv 3 = ⟨arch, 3, 0x170400, 0x171000, 16, 4, SYS_READ, 0x170000⟩) :
    Overrun.Paso KERNEL_FIN (k', some 5) (.llamada 5 fuera) (Overrun.llamar 5 fuera k', none) ∧
    Marco k' (Overrun.llamar 5 fuera k') ∧
    ((Overrun.llamar 5 fuera k').rTareas = k'.rTareas ∧ (Overrun.llamar 5 fuera k').tIndice = 5) ∧
    (∀ x < 2 ^ 32, x / 4096 ≠ 1404 → x / 4096 ≠ 32 →
      rd8 (Overrun.llamar 5 fuera k').mem x = rd8 k'.mem x) ∧
    (Overrun.llamar 5 fuera k').rDrv = Function.update k'.rDrv 3
      ⟨arch, 3, 0x170400, 0x171001, 16, 4, SYS_READ, 0x170000⟩ := by
  obtain ⟨hdir, htab⟩ := fuera_camino h (hk.trans (vecino_entrar 5 fuera)) (entrar_tIndice _ _ _)
  have hbit : (bytesDrv k'.rDrv 0 (fuera.ebx / 8 - MAP_LEN)).getLsbD (fuera.ebx % 8) = false := by
    show (byteDrv (k'.rDrv 3) 1032).getLsbD 0 = false
    rw [hslot, Overrun.byteDrv_palabra _ (by decide)]
    show (BitVec.ofNat 8 (0x171000 / 2 ^ 0)).getLsbD 0 = false
    decide
  obtain ⟨hmarco, hrt, hi, hmem, hdrv⟩ := Overrun.llamar_libre (t := 5) (r := fuera) hbit
  refine ⟨.fuera rfl (by decide) fun j hj => ?_, hmarco, ⟨hrt, hi⟩, fun x hx h1 h2 => ?_,
    hdrv.trans ?_⟩
  · rw [hdir, htab, Fuera, Fuera]
    simp only [KERNEL_FIN, KERNEL_INI]
    omega
  · rw [hmem]
    refine Reply.conceder_toca (fun j hj => ?_) fun j hj => ?_
    · rw [hdir]
      omega
    · rw [htab]
      omega
  · have hmar : ∀ d : Drv, Overrun.marcarDrv 1032 0 d =
        { d with bufRet := d.bufRet ||| 2 ^ (8 * (1032 % 4) + 0) } := fun _ => if_neg (by decide)
    show Function.update k'.rDrv 3 (Overrun.marcarDrv 1032 0 (k'.rDrv 3)) = _
    rw [hmar, hslot, show 0x171000 ||| 2 ^ (8 * (1032 % 4) + 0) = 0x171001 by decide]

variable (hm : Registra m 0 0x800 0x400 16)
include hm

lemma corrido_pasos : Steps (Ajeno KERNEL_FIN 3) (leyendo k)
    [.turno 5, .llamada 5 fuera, .turno 3] (corrido k) := by
  obtain ⟨⟨arch, hslot⟩, -⟩ := leyendo_ranura h hm
  obtain ⟨hp, -, ⟨hrt, hi⟩, -⟩ := fuera_deja h (vecino_turno (leyendo_mem h hm).2 5) hslot
  have hno : ¬ Pide fuera.eax := by decide
  refine .cons (ajeno_turno (leyendo_cinco h hm)) (.cons ⟨hp, fun t r he ha => ?_⟩
    (.cons (ajeno_turno (turno_driver h hm hrt hi)) (.nil _)))
  cases he
  exact hno ha.1

lemma corrido_pendiente : Pendiente 0x171001 (corrido k).1 := by
  obtain ⟨hmem, hv⟩ := leyendo_mem h hm
  obtain ⟨⟨arch, hslot⟩, hotras⟩ := leyendo_ranura h hm
  have hk := vecino_turno hv 5
  obtain ⟨-, hmarco, -, hresto, hdrv⟩ := fuera_deja h hk hslot
  have ht : Tarea k 3 := h.tarea 3 (by decide) (by decide)
  -- nothing is stored in the tables of task 3, nor in a directory
  have hcamino : ∀ p, p ≠ 1404 → p ≠ 32 → Tables.DeTablas (tresCon m) historia p →
      ∀ x < 2 ^ 32, x / 4096 = p → rd8 (entrar 3 responde (corrido k).1).mem x = rd8 k.mem x :=
    fun p h1 h2 hd x hx hp =>
      (hresto x hx (hp ▸ h1) (hp ▸ h2)).trans (hk.mem x hx (hp ▸ hd))
  have hM : Marco k (entrar 3 responde (corrido k).1) :=
    ((hk.marco.trans hmarco).trans (marco_resto _ _ _ _)).trans (entrar_marco 3 responde _)
  refine ⟨⟨arch, ?_⟩, fun j hj => ?_, ?_, ?_, fun x hx => ?_⟩
  · exact (congrFun hdrv 3).trans (Function.update_self ..)
  · refine (congrArg Drv.idDrv (congrFun hdrv j)).trans ?_
    rw [Function.update_of_ne (ne_of_lt hj)]
    exact hotras j hj
  · refine (rd32_congr fun j hj => hresto _ ?_ ?_ ?_).trans ?_
    · simp only [PARAM_COUNT]
      omega
    · simp only [PARAM_COUNT]
      omega
    · simp only [PARAM_COUNT]
      omega
    · refine (congrArg (fun m' => rd32 m' (0x170000 + PARAM_COUNT)) hmem).trans ?_
      exact (rd_param _ _ _ _).1
  · have hcarga : historia.cargas[0]? = some (cargaTres 0) := historiaTres_get (by decide)
    have hin := List.mem_of_getElem? hcarga
    refine (checkAddr_pte (camino_de hM h.tablas tres_ventana ht (v := 0x300000) (by decide)
      (hcamino 1397 (by decide) (by decide) (Or.inr ⟨_, hin, Or.inl rfl⟩))
      (hcamino 1398 (by decide) (by decide) (Or.inr ⟨_, hin, Or.inr rfl⟩))).2).trans ?_
    exact (h.usuario vecino_rfl (c := 0) (by decide) (show 0 < 4096 by decide)).2.2
  · have hdir : ∀ u, Tarea k u → ∀ y < 2 ^ 32, y / 4096 = Tables.raizDe (tresCon m) historia u →
        rd8 (entrar 3 responde (corrido k).1).mem y = rd8 k.mem y := fun u hu y hy hp =>
      hcamino _ (raiz_tres h hu).1 (raiz_tres h hu).2 (raiz_deTablas h.tablas tres_ventana hu) y hy
        hp
    have hd := enTablas_de h.tablas tres_ventana hM hdir hx
    have : 372 ≤ x / 4096 := tres_deTablas hd
    omega

lemma corrido_mem {x : ℕ} (h1 : 0x170020 ≤ x) (h2 : x < 0x174000) :
    rd8 (corrido k).1.mem x = rd8 m x := by
  obtain ⟨hmem, hv⟩ := leyendo_mem h hm
  obtain ⟨⟨arch, hslot⟩, -⟩ := leyendo_ranura h hm
  obtain ⟨-, -, -, hresto, -⟩ := fuera_deja h (vecino_turno hv 5) hslot
  refine (hresto x (by omega) (by omega) (by omega)).trans ?_
  refine (congrArg (fun m' => rd8 m' x) hmem).trans ?_
  rw [rd8_wr32_of_ne fun j hj => by simp only [PARAM_CALL]; omega,
    rd8_wr32_of_ne fun j hj => by simp only [PARAM_COUNT]; omega]
  exact h.mem (by omega) (by omega)

end

section
variable (h : Escenario memHola k)
include h

lemma conductor_reach : Reach (Turns.Inicial enlace) (EnMapas (Overrun.Paso KERNEL_FIN))
    (conductor reg k) :=
  (h.conduce registra_hola (r := reg) rfl rfl).1.mono fun _ _ _ hp =>
    ⟨.contenido hp, Overrun.enMapa_contenido hp⟩

lemma corrido_byte : rd8 (corrido k).1.mem 0x170400 = 0x61 ∧
    rd8 (llama 3 responde (corrido k)).1.mem 0x171000 = 0 := by
  have hp := corrido_pendiente h registra_hola
  obtain ⟨hs, hrev, he⟩ := hp.respuesta (by decide) (by decide)
  refine ⟨(corrido_mem h registra_hola (by decide) (by decide)).trans (by decide), ?_⟩
  have hmem : (llama 3 responde (corrido k)).1.mem = copy 0x170400 0x171001 4 (corrido k).1.mem :=
    (llamar_respuesta (fun _ => 0) ⟨rfl, hrev, hs⟩).trans (congrArg Prod.fst he)
  rw [hmem, rd8_copy_of_ne (by decide) fun j hj => by omega]
  exact (corrido_mem h registra_hola (by decide) (by decide)).trans (by decide)

lemma corrido_no : ¬ Transfiere (Ajeno KERNEL_FIN 3) 4 3 leer (conductor reg k).1 := by
  intro ht
  have hp := corrido_pendiente h registra_hola
  obtain ⟨-, hrev, -⟩ := hp.respuesta (by decide) (by decide)
  obtain ⟨hid, hsize, -, hbuf⟩ := conductor_ranura h registra_hola
  obtain ⟨-, hsep, -⟩ := leer_acepta h registra_hola
  have hcount := cuenta_anotada h registra_hola hp
  have hleida := ((ht fun _ => 0).2 _ _ 3 responde (fun _ => 0) (corrido_pasos h registra_hola)
    (hp.ajeno rfl (by decide) (by decide)) hid.symm rfl hrev).1 rfl hsep hcount
  have hb := hleida.bytes 0 (by rw [hsize]; decide)
  rw [leer_dato h registra_hola, hbuf, Nat.add_zero, Nat.add_zero, (corrido_byte h).1] at hb
  exact absurd ((corrido_byte h).2.symm.trans hb) (by decide)

end

def inicio : Kernel := Boot.soltarVideo (nucleoCon memHola 3)

theorem transferencias_cuatro :
    Escrita 4 3 escribe (conductor reg inicio).1 (llamar (fun _ => 0) 4 escribe
      (conductor reg inicio).1) ∧
    Leida 4 3 3 leer (conductor reg inicio).1 (leido inicio).1
      (llamar (fun _ => 0) 3 responde (leido inicio).1) := by
  have h : Escenario memHola inicio := escenario memHola
  obtain ⟨ha, hsep, hc⟩ := pide h registra_hola (r := escribe) (o := 16) (Or.inr rfl) rfl rfl
    (by decide)
  obtain ⟨ha', hsep', hc'⟩ := leer_acepta h registra_hola
  have hp := leido_pendiente h registra_hola
  have hret := (hp.respuesta (by decide) (by decide)).2.1
  refine ⟨(transferencias (conductor_reach h) rfl ha hc (fun _ => 0)).1 rfl hsep, ?_⟩
  exact ((transferencias (conductor_reach h) rfl ha' hc' (fun _ => 0)).2 _ _ 3 responde
    (fun _ => 0) (leido_pasos h registra_hola)
    ⟨hp.ajeno rfl (by decide) (by decide), fun he => absurd he (by decide)⟩
    (conductor_ranura h registra_hola).1.symm rfl hret).1 rfl hsep'
      (cuenta_anotada h registra_hola hp)

/-- **A page past the map.** Between the request of task 4 and the answer, task 5 asks for page
0x1082e0. The driver's bytes go one byte further on than where they were asked for. -/
theorem transferencia_corrida :
    Reach (Turns.Inicial enlace) (Overrun.Paso KERNEL_FIN) (conductor reg inicio) ∧
    Acepta 4 leer (conductor reg inicio).1 3 ∧
    Separados ((conductor reg inicio).1.rDrv 3) (dato 4 leer (conductor reg inicio).1) leer.edx ∧
    dato 4 leer (conductor reg inicio).1 = 0x171000 ∧
    ((conductor reg inicio).1.rDrv 3).buf = 0x170400 ∧
    Steps (Ajeno KERNEL_FIN 3) (leyendo inicio) [.turno 5, .llamada 5 fuera, .turno 3]
      (corrido inicio) ∧
    Ajeno KERNEL_FIN 3 (corrido inicio) (.llamada 3 responde) (llama 3 responde (corrido inicio)) ∧
    rd32 (corrido inicio).1.mem (((conductor reg inicio).1.rDrv 3).sys + PARAM_COUNT) =
      min leer.edx ((conductor reg inicio).1.rDrv 3).size ∧
    rd8 (corrido inicio).1.mem 0x170400 = 0x61 ∧
    rd8 (llama 3 responde (corrido inicio)).1.mem 0x171000 = 0 ∧
    ¬ Transfiere (Ajeno KERNEL_FIN 3) 4 3 leer (conductor reg inicio).1 := by
  have h : Escenario memHola inicio := escenario memHola
  obtain ⟨ha, hsep, -⟩ := leer_acepta h registra_hola
  have hp := corrido_pendiente h registra_hola
  exact ⟨(conductor_reach h).mono fun _ _ _ hp => hp.1, ha, hsep, leer_dato h registra_hola,
    (conductor_ranura h registra_hola).2.2.2, corrido_pasos h registra_hola,
    hp.ajeno rfl (by decide) (by decide), cuenta_anotada h registra_hola hp, (corrido_byte h).1,
    (corrido_byte h).2, corrido_no h⟩

end Silicio.Transfer
