import Silicio.Contained
import Silicio.Ports

/-!
What an answer to `sys_read` copies.

The request checks the client's buffer and puts in the driver's `sys_param` how many bytes to
copy; the answer takes the number from there again, each turn, and copies physical memory from
the one buffer on and to the other. Between the two the driver may have stored what it likes.
-/

namespace Silicio.Reply

open Silicio.Loop Silicio.Bitmap Silicio.Bytes Silicio.Defs Silicio.Mmu Silicio.Registry
open Silicio.Runs Silicio.Syscall Silicio.Layout Silicio.View Silicio.Driver Silicio.Effects
open Silicio.Contained
open Silicio.Ports (setPort unsetPort)

/-! ### The copy -/

def turno (d : Drv) (j : ℕ) : ℕ × ℕ := ((d.buf + j) % 2 ^ 32, (d.bufRet + j) % 2 ^ 32)

lemma copiar_spec (d : Drv) (m : Mem) (f c : ℕ) : ∃ n ≤ f,
    copiar d f c (copy d.buf d.bufRet c m) =
      (copy d.buf d.bufRet (c + n) m, (List.range' c n).map (turno d)) ∧
    (∀ j, c ≤ j → j < c + n → j < rd32 (copy d.buf d.bufRet j m) (d.sys + PARAM_COUNT)) ∧
    (n < f → rd32 (copy d.buf d.bufRet (c + n) m) (d.sys + PARAM_COUNT) ≤ c + n) := by
  induction f generalizing c with
  | zero => exact ⟨0, le_rfl, rfl, fun j h1 h2 => by omega, fun h => absurd h (lt_irrefl _)⟩
  | succ f ih =>
    rw [copiar]
    split
    · next hc =>
      obtain ⟨n, hn, he, hlt, hfin⟩ := ih (c + 1)
      have hcopy : copy d.buf d.bufRet (c + 1) m = wr8 (copy d.buf d.bufRet c m) (d.bufRet + c)
          (rd8 (copy d.buf d.bufRet c m) (d.buf + c)) := by
        unfold copy
        rw [loop_succ]
      rw [hcopy] at he
      refine ⟨n + 1, by omega, ?_, fun j h1 h2 => ?_, fun h => ?_⟩
      · simp only [he]
        rw [List.range'_succ, List.map_cons, show c + 1 + n = c + (n + 1) by omega]
        rfl
      · rcases Nat.eq_or_lt_of_le h1 with rfl | h1
        · exact hc
        · exact hlt j h1 (by omega)
      · rw [show c + (n + 1) = c + 1 + n by omega]
        exact hfin (by omega)
    · next hc =>
      exact ⟨0, by omega, rfl, fun j h1 h2 => by omega, fun _ => not_lt.mp hc⟩

/-- The turns of an answer to a read: as many as it takes the count, read again each turn, to be
reached. -/
lemma respuesta_spec {i : ℕ} {k : Kernel} (h : (k.rDrv i).call = SYS_READ) : ∃ n < 2 ^ 32,
    respuesta i k = (copy (k.rDrv i).buf (k.rDrv i).bufRet n k.mem,
      (List.range n).map (turno (k.rDrv i))) ∧
    (∀ j < n, j < rd32 (copy (k.rDrv i).buf (k.rDrv i).bufRet j k.mem)
      ((k.rDrv i).sys + PARAM_COUNT)) ∧
    rd32 (copy (k.rDrv i).buf (k.rDrv i).bufRet n k.mem) ((k.rDrv i).sys + PARAM_COUNT) ≤ n := by
  unfold respuesta
  rw [if_pos h]
  generalize k.rDrv i = d
  generalize hf : 2 ^ 32 - 1 = f
  obtain ⟨n, hn, he, hlt, hfin⟩ := copiar_spec d k.mem f 0
  have h0 : copy d.buf d.bufRet 0 k.mem = k.mem := loop_zero _ _
  rw [h0] at he
  rw [Nat.zero_add] at he hlt hfin
  rw [← List.range_eq_range'] at he
  refine ⟨n, by omega, he, fun j hj => hlt j (Nat.zero_le j) hj, ?_⟩
  rcases Nat.eq_or_lt_of_le hn with hn | hn
  · have := rd32_lt (copy d.buf d.bufRet n k.mem) (d.sys + PARAM_COUNT)
    omega
  · exact hfin hn

/-- What memory reads as when `n` bytes of the answer have been copied. -/
def volcado (d : Drv) (n : ℕ) (m : Mem) : Mem := fun a =>
  if above a d.bufRet < n then rd8 m (d.buf + above a d.bufRet % above d.bufRet d.buf) else rd8 m a

/-- The answer stops within `n` bytes: with some `c` of them copied the count is at most `c`. -/
def Cabe (d : Drv) (n : ℕ) (m : Mem) : Prop :=
  ∃ c ≤ n, rd32 (volcado d c m) (d.sys + PARAM_COUNT) ≤ c

lemma rd8_volcado (d : Drv) {n : ℕ} (hn : n ≤ 2 ^ 32) (m : Mem) (a : ℕ) :
    rd8 (volcado d n m) a = rd8 (copy d.buf d.bufRet n m) a := by
  have hd : above (a % 2 ^ 32) d.bufRet = above a d.bufRet := by
    unfold above
    omega
  rw [rd8_copy hn, rd8, volcado, hd, rd8, rd8, rd8, Nat.mod_mod]

lemma rd32_volcado (d : Drv) {n : ℕ} (hn : n ≤ 2 ^ 32) (m : Mem) (a : ℕ) :
    rd32 (volcado d n m) a = rd32 (copy d.buf d.bufRet n m) a :=
  rd32_congr fun _ _ => rd8_volcado d hn m _

/-- When the copy does not reach the count, the count says how many bytes are copied. -/
lemma cabe_iff {d : Drv} {n : ℕ} {m : Mem}
    (h : ∀ j < 4, n ≤ above (d.sys + PARAM_COUNT + j) d.bufRet) :
    Cabe d n m ↔ rd32 m (d.sys + PARAM_COUNT) ≤ n := by
  have hc : ∀ c ≤ n, rd32 (volcado d c m) (d.sys + PARAM_COUNT) = rd32 m (d.sys + PARAM_COUNT) := by
    intro c hc
    refine rd32_congr fun j hj => ?_
    have hd : above ((d.sys + PARAM_COUNT + j) % 2 ^ 32) d.bufRet =
        above (d.sys + PARAM_COUNT + j) d.bufRet := by
      unfold above
      omega
    have := h j hj
    rw [rd8, volcado, hd, if_neg (by omega), rd8, rd8, Nat.mod_mod]
  constructor
  · rintro ⟨c, hcn, hle⟩
    rw [hc c hcn] at hle
    omega
  · intro hle
    exact ⟨n, le_rfl, by rwa [hc n le_rfl]⟩

/-- **The answer stays within `n` bytes** of the buffer just when it stops within them. -/
theorem respuesta_cabe {i n : ℕ} {k : Kernel} (h : (k.rDrv i).call = SYS_READ) (hn : n < 2 ^ 32) :
    (∀ a ∈ (respuesta i k).2, ∃ j < n, a = turno (k.rDrv i) j) ↔ Cabe (k.rDrv i) n k.mem := by
  obtain ⟨N, hN, he, hlt, hfin⟩ := respuesta_spec h
  rw [he]
  constructor
  · intro hall
    have hNn : N ≤ n := by
      by_contra hc
      obtain ⟨j, hj, hjn⟩ := hall (turno (k.rDrv i) n)
        (List.mem_map_of_mem (List.mem_range.mpr (by omega)))
      have := congrArg Prod.snd hjn
      simp only [turno] at this
      omega
    exact ⟨N, hNn, by rwa [rd32_volcado _ hN.le]⟩
  · rintro ⟨c, hcn, hc⟩ a ha
    obtain ⟨j, hj, rfl⟩ := List.mem_map.mp ha
    rw [List.mem_range] at hj
    refine ⟨j, ?_, rfl⟩
    by_contra hjn
    have := hlt c (by omega)
    rw [rd32_volcado _ (by omega)] at hc
    omega

lemma respuesta_turno {i : ℕ} {k : Kernel} {a : ℕ × ℕ} (h : a ∈ (respuesta i k).2) :
    ∃ j < 2 ^ 32, a = turno (k.rDrv i) j := by
  by_cases hcall : (k.rDrv i).call = SYS_READ
  · obtain ⟨n, hn, he, -⟩ := respuesta_spec hcall
    rw [he] at h
    obtain ⟨j, hj, rfl⟩ := List.mem_map.mp h
    exact ⟨j, lt_trans (List.mem_range.mp hj) hn, rfl⟩
  · rw [respuesta, if_neg hcall] at h
    cases h

lemma respuesta_mem (i : ℕ) (k : Kernel) {x : ℕ} (h : rd8 (respuesta i k).1 x ≠ rd8 k.mem x) :
    ∃ a ∈ (respuesta i k).2, a.2 = x % 2 ^ 32 := by
  by_cases hcall : (k.rDrv i).call = SYS_READ
  · obtain ⟨n, hn, he, -⟩ := respuesta_spec hcall
    rw [he] at h ⊢
    simp only [rd8_copy hn.le] at h
    by_cases hd : above x (k.rDrv i).bufRet < n
    · refine ⟨_, List.mem_map_of_mem (List.mem_range.mpr hd), ?_⟩
      simp only [turno]
      unfold above
      omega
    · rw [if_neg hd] at h
      exact absurd rfl h
  · rw [respuesta, if_neg hcall] at h
    exact absurd rfl h

variable {k k' k₀ : Kernel} {i c u kernelFin : ℕ} {r r' : Regs}

lemma conceder_toca {p x : ℕ} (hd : ∀ j < 4, x % 2 ^ 32 ≠ (dirDe p k + j) % 2 ^ 32)
    (ht : ∀ j < 4, x % 2 ^ 32 ≠ (tabDe p k + j) % 2 ^ 32) :
    rd8 (conceder p k) x = rd8 k.mem x := by
  unfold conceder
  simp only
  split
  · refine (rd8_wr32_of_ne ht).trans (rd8_wr32_of_ne hd)
  · rfl

/-- **A call changes no byte but those it touches.** -/
theorem despachar_toca (basura : ℕ → ℕ) {x : ℕ} (h : ¬ Toca r k (x % 2 ^ 32)) :
    rd8 (despachar basura r k).mem x = rd8 k.mem x := by
  by_cases hp : Pide r.eax
  · rw [despachar_pide basura hp]
    cases hrev : revisar r k with
    | some e => rw [pedido_rechazo hp hrev]
    | none =>
      have hd := revisar_drv hrev
      have hcampo : ∀ m o v, (o = PARAM_CALL ∨ o = PARAM_COUNT ∧ r.eax ≠ SYS_SEEK) →
          rd8 (wr32 m ((k.rDrv r.ebx).sys + o) v) x = rd8 m x := fun m o v ho =>
        rd8_wr32_of_ne fun j hj he => h (he ▸ .campo hp hrev ho hj)
      unfold pedido
      split_ifs with h1 h2
      · have hne : r.eax ≠ SYS_SEEK := by rw [h1]; decide
        rw [sysRead, hd]
        simp only [revisar_buf hrev hne]
        exact (hcampo _ _ _ (Or.inl rfl)).trans (hcampo _ _ _ (Or.inr ⟨rfl, hne⟩))
      · have hne : r.eax ≠ SYS_SEEK := by rw [h2]; decide
        have hb := revisar_buf hrev hne
        have hlen : cantidad (k.rDrv r.ebx) r.edx ≤ 2 ^ 32 := by
          have := revisarBuf_edx hb
          unfold cantidad
          split <;> omega
        rw [sysWrite, hd]
        simp only [hb]
        refine (hcampo _ _ _ (Or.inl rfl)).trans ((hcampo _ _ _ (Or.inr ⟨rfl, hne⟩)).trans ?_)
        exact rd8_copy_of_ne hlen fun j hj he => h (he ▸ .destino h2 hrev hj)
      · rw [sysSeek, hd]
        exact hcampo _ _ _ (Or.inl rfl)
  · simp only [Pide, not_or] at hp
    unfold despachar
    rw [if_neg hp.1, if_neg hp.2.1, if_neg hp.2.2]
    split_ifs with h1 h2 h3 h4 h5
    · unfold guardar
      rw [sysOpen_snd]
      rfl
    · unfold guardar sysReg
      split <;> rfl
    · cases hrev : revisarRet r.ebx k with
      | some e => rw [sysRet_rechazo hrev]
      | none =>
        rw [sysRet_acepta hrev]
        by_contra hne
        obtain ⟨a, ha, he⟩ := respuesta_mem _ _ hne
        exact h (he ▸ .copia h3 hrev ha)
    · rfl
    · rw [guardar, updTss_mem, Boot.sysMem_concedida]
      split
      · next p hc =>
        exact conceder_toca (fun j hj he => h (he ▸ .dir h5 hc hj))
          fun j hj he => h (he ▸ .tabla h5 hc hj)
      · rfl
    · rfl

/-- **A call that keeps out of the tables leaves the image as it is.** -/
theorem imagen_llamar (basura : ℕ → ℕ) (hc : Contenida kernelFin r (entrar u r k)) {x : ℕ}
    (hx : x < 2 ^ 32) (h1 : KERNEL_INI ≤ x) (h2 : x < kernelFin) :
    rd8 (llamar basura u r k).mem x = rd8 k.mem x := by
  rw [llamar_eq]
  refine despachar_toca basura fun ht => ?_
  rw [Nat.mod_eq_of_lt hx] at ht
  rcases hc.imagen x ht with h | h <;> omega

lemma imagen_escribir {v : ℕ} (b : Byte) (hg : Guarda kernelFin u v k) {x : ℕ}
    (hx : x < 2 ^ 32) (h1 : KERNEL_INI ≤ x) (h2 : x < kernelFin) :
    rd8 (escribir u v b k).mem x = rd8 k.mem x := by
  unfold escribir
  split
  · next hw =>
    have hlt : phys k.mem (k.tssOf u).cr3 v < 2 ^ 32 := phys_lt _ _ _
    refine rd8_wr8_of_ne fun he => ?_
    rw [Nat.mod_eq_of_lt hx, Nat.mod_eq_of_lt hlt] at he
    rcases (hg hw).1 with h | h <;> omega
  · rfl

/-! ### Between the request and the answer -/

/-- A step that asks nothing of slot `i`, and keeps out of the tables of the kernel: a call, a port
asked for or given back by task `u`, or a store. -/
inductive Ajeno (kernelFin i : ℕ) (k : Kernel) : Unit → Kernel → Prop
  | llamada (basura : ℕ → ℕ) {u : ℕ} {r : Regs} (hno : ¬ Acepta u r k i)
      (hc : Contenida kernelFin r (entrar u r k)) : Ajeno kernelFin i k () (llamar basura u r k)
  | setPort {u p : ℕ} (hp : p < 8 * TSS_PORT) :
      Ajeno kernelFin i k () (setPort p { k with tIndice := u }).2
  | unsetPort {u p : ℕ} (hp : p < 8 * TSS_PORT) :
      Ajeno kernelFin i k () (unsetPort p { k with tIndice := u }).2
  | escritura {u v : ℕ} (b : Byte) (hg : Guarda kernelFin u v k) :
      Ajeno kernelFin i k () (escribir u v b k)

lemma llamar_rDrv (basura : ℕ → ℕ) (h0 : (k.rDrv i).idDrv ≠ 0) (hno : ¬ Acepta u r k i) :
    (llamar basura u r k).rDrv i = k.rDrv i := by
  rcases (llamar_efecto basura u r k).ranura i with hd | ⟨ha, -⟩ | ⟨hz, -⟩
  · exact hd
  · exact absurd ha hno
  · exact absurd hz h0

lemma Ajeno.marco {a : Unit} (h : Ajeno kernelFin i k a k') (h0 : (k.rDrv i).idDrv ≠ 0) :
    k'.rDrv i = k.rDrv i ∧ ∀ t, (k'.rTareas t).taskTss = (k.rTareas t).taskTss := by
  cases h with
  | llamada basura hno => exact ⟨llamar_rDrv basura h0 hno, (llamar_marco _ _ _ _).taskTss⟩
  | setPort =>
    rw [Ports.setPort_eq]
    split <;> exact ⟨rfl, fun _ => rfl⟩
  | unsetPort =>
    rw [Ports.unsetPort_eq]
    exact ⟨rfl, fun _ => rfl⟩
  | escritura b =>
    unfold escribir
    split <;> exact ⟨rfl, fun _ => rfl⟩

lemma ajenos_marco {l : List Unit} (h : Steps (Ajeno kernelFin i) k l k')
    (h0 : (k.rDrv i).idDrv ≠ 0) :
    k'.rDrv i = k.rDrv i ∧ ∀ t, (k'.rTareas t).taskTss = (k.rTareas t).taskTss := by
  refine h.rel (R := fun k k' => (k.rDrv i).idDrv ≠ 0 → k'.rDrv i = k.rDrv i ∧
    ∀ t, (k'.rTareas t).taskTss = (k.rTareas t).taskTss) (fun _ _ => ⟨rfl, fun _ => rfl⟩) ?_
    (fun _ _ _ hs => hs.marco) h0
  intro k k₁ k' h1 h2 h0
  obtain ⟨hd, ht⟩ := h1 h0
  obtain ⟨hd', ht'⟩ := h2 (by rwa [hd])
  exact ⟨hd'.trans hd, fun t => (ht' t).trans (ht t)⟩

lemma lectura_rDrv (basura : ℕ → ℕ) (hr : r.eax = SYS_READ) (ha : Acepta c r k i) :
    (llamar basura c r k).rDrv i = { k.rDrv i with
      bufRet := checkAddr r.ecx c (entrar c r k), call := SYS_READ, idRet := c } ∧
    (k.rDrv i).idDrv ≠ 0 ∧ r.edx ≤ 4096 := by
  obtain ⟨hp, hrev, rfl⟩ := ha
  have hd := revisar_drv hrev
  have hb := revisar_buf hrev (by rw [hr]; decide)
  refine ⟨?_, (revisarDrv_none hd).2.1, revisarBuf_edx hb⟩
  rw [llamar_eq, despachar_pide _ hp, pedido, if_pos hr, sysRead, hd]
  simp only [hb]
  unfold aceptar
  rw [updDrv_rDrv, if_pos rfl]
  rfl

lemma lectura_mem (basura : ℕ → ℕ) (hr : r.eax = SYS_READ) (ha : Acepta c r k i) :
    (llamar basura c r k).mem =
      wr32 (wr32 k.mem ((k.rDrv i).sys + PARAM_COUNT) (cantidad (k.rDrv i) r.edx))
        ((k.rDrv i).sys + PARAM_CALL) SYS_READ := by
  obtain ⟨hp, hrev, rfl⟩ := ha
  have hb := revisar_buf hrev (by rw [hr]; decide)
  rw [llamar_eq, despachar_pide _ hp, pedido, if_pos hr, sysRead, revisar_drv hrev]
  simp only [hb, hr]
  rfl

/-! ### The answer -/

/-- The answer keeps to what the client of request `r` offered in `k₀`: it writes within the
client's buffer, reads within the driver's, and besides writes the client's `eax`. -/
structure Dentro (k₀ : Kernel) (c : ℕ) (r : Regs) (k k' : Kernel) (l : List (ℕ × ℕ)) : Prop where
  escribe : ∀ a ∈ l, ∃ j < min r.edx (k₀.rDrv r.ebx).size,
    a.2 = (checkAddr r.ecx c (entrar c r k₀) + j) % 2 ^ 32
  lee : ∀ a ∈ l, ∃ j < (k₀.rDrv r.ebx).size, a.1 = ((k₀.rDrv r.ebx).buf + j) % 2 ^ 32
  memoria : ∀ x, rd8 k'.mem x ≠ rd8 k.mem x → ∃ a ∈ l, a.2 = x % 2 ^ 32
  registros : ∃ v, ∀ q, k'.tss q =
    if q = (k₀.rTareas c).taskTss then conEax v (k.tss q) else k.tss q

/-- **Answers and buffers.** Between an accepted read and the driver's answer, tasks may call, ask
for ports and store whatever they like outside the tables of the kernel, so long as nothing else is
asked of the slot. The answer keeps to the buffers just when it stops within what was asked, and the
driver's `sys_param` is what says so. -/
theorem respuesta_dentro {l : List Unit} (basura basura' : ℕ → ℕ) (hr : r.eax = SYS_READ)
    (ha : Acepta c r k₀ i) (hs : Steps (Ajeno kernelFin i) (llamar basura c r k₀) l k)
    (hret : Responde u r' k i) :
    Dentro k₀ c r (entrar u r' k) (llamar basura' u r' k) (respuesta i (entrar u r' k)).2 ↔
      Cabe (k.rDrv i) (min r.edx (k₀.rDrv i).size) k.mem := by
  obtain ⟨hdrv, h0, hlen⟩ := lectura_rDrv basura hr ha
  have hi : r.ebx = i := ha.2.2
  obtain ⟨hslot, htt⟩ := ajenos_marco hs (by rw [hdrv]; exact h0)
  rw [hdrv] at hslot
  have htt' : ∀ t, (k.rTareas t).taskTss = (k₀.rTareas t).taskTss := fun t =>
    (htt t).trans ((llamar_marco _ _ _ _).taskTss t)
  have hcall : ((entrar u r' k).rDrv i).call = SYS_READ := by rw [entrar_rDrv, hslot]
  have hcabe := respuesta_cabe hcall (n := min r.edx (k₀.rDrv i).size) (by omega)
  rw [entrar_rDrv, entrar_mem] at hcabe
  rw [← hcabe]
  obtain ⟨heax, hrev, hu⟩ := hret
  have hafter : llamar basura' u r' k = (sysRet r'.ebx (entrar u r' k)).2 := by
    rw [llamar_eq, despachar_ret basura' heax]
  rw [sysRet_acepta hrev, entrar_tIndice, entrar_rDrv, hu, hslot] at hafter
  constructor
  · intro hd a hal
    obtain ⟨j, hj, rfl⟩ := respuesta_turno hal
    obtain ⟨j', hj', he⟩ := hd.escribe _ hal
    rw [hi] at hj'
    simp only [turno, entrar_rDrv, hslot] at he
    refine ⟨j', hj', ?_⟩
    rw [entrar_rDrv, show j = j' by omega]
  · intro hall
    rw [hslot] at hall
    refine ⟨fun a hal => ?_, fun a hal => ?_, fun x hx => ?_, ?_⟩
    · obtain ⟨j, hj, rfl⟩ := hall a hal
      exact ⟨j, by rwa [hi], rfl⟩
    · obtain ⟨j, hj, rfl⟩ := hall a hal
      rw [hi]
      exact ⟨j, by omega, rfl⟩
    · rw [hafter] at hx
      exact respuesta_mem i _ hx
    · refine ⟨campoRet r'.ebx (entrar u r' k), fun q => ?_⟩
      rw [hafter, ← htt' c]
      refine (updTss_tss (entrar u r' k) (k.rTareas c).taskTss (conEax _) q).trans ?_
      split
      · next hq => rw [hq]
      · rfl

/-! ### A driver that keeps the count, and one that does not -/

structure Vista (k : Kernel) : Prop extends Escena k where
  tablas : Tables.Inv tres (k, historiaTres 3)
  ve : ∀ k', Vecino tres (historiaTres 3) k k' → ∀ c < 3, ∀ off < 4096,
    UserWrite k'.mem (k'.tssOf (3 + c)).cr3 (0x300000 + off) ∧
      phys k'.mem (k'.tssOf (3 + c)).cr3 (0x300000 + off) = 0x170000 + 4096 * c + off ∧
      checkAddr (0x300000 + off) (3 + c) k' = 0x170000 + 4096 * c + off
  buf : rd32 k.mem (0x170000 + PARAM_BUF) = 0x300000 + 0x400
  size : rd32 k.mem (0x170000 + PARAM_SIZE) = 16
  libre : ∀ j < MAX_DRIVERS, (k.rDrv j).idDrv = 0

lemma vista_tres : Vista (nucleoTres 3) := by
  refine ⟨escena_tres, tres_inv, fun k' hk c hc off hoff => tres_usuario hk hc hoff, ?_, ?_,
    Arranque.idDrv (nucleoTres_spec le_rfl).2.1⟩
  · rw [tres_word (by decide) (by decide)]
    decide
  · rw [tres_word (by decide) (by decide)]
    decide

lemma vecino_mem {k₁ : Kernel} {m : Mem} (h : Vecino tres (historiaTres 3) k k₁)
    (hm : ∀ x, 0x173000 ≤ x → x < 2 ^ 32 → rd8 m x = rd8 k₁.mem x) :
    Vecino tres (historiaTres 3) k { k₁ with mem := m } := by
  refine ⟨h.marco.trans (marco_resto _ _ _ _), fun x hx hd => ?_⟩
  have := tres_deTablas hd
  exact (hm x (by omega) hx).trans (h.mem x hx hd)

lemma revisarBuf_ok {ecx edx : ℕ} (h0 : checkAddr ecx k.tIndice k ≠ 0) (hpos : edx ≠ 0)
    (hlen : edx ≤ 4096) (h1 : checkAddr ((ecx + edx + 2 ^ 32 - 1) % 2 ^ 32) k.tIndice k ≠ 0) :
    revisarBuf ecx edx k = none := by
  unfold revisarBuf
  rw [if_neg h0, if_neg (Nat.not_lt.mpr hlen), if_neg hpos, if_neg h1]

def lectura : Regs := ⟨SYS_READ, 3, 0x300000, 4⟩

def pedida (k : Kernel) : Kernel × Historia := correr 4 lectura (registrado k)

/-- The driver changes the count from 4 to 255. -/
def alterada (k : Kernel) : Kernel × Historia :=
  (escribir 3 0x30000c 255 (pedida k).1, (pedida k).2)

/-- The driver fills the second byte of its buffer, and leaves the count. -/
def llenada (k : Kernel) : Kernel := escribir 3 0x300401 42 (pedida k).1

def contesta : Regs := ⟨SYS_RET, 0x300000, 0, 0⟩

section
variable (h : Vista k)
include h

lemma Vista.registrado : (registrado k).1.mem = k.mem ∧
    (∀ j < MAX_DRIVERS, j ≠ 3 → ((registrado k).1.rDrv j).idDrv = 0) ∧
    ∃ d, (Driver.registrado k).1.rDrv 3 = d ∧ d.idDrv = 3 ∧ d.buf = 0x170400 ∧ d.size = 16 ∧
      d.sys = 0x170000 := by
  have hk := vecino_entrar (b := tres) (g := historiaTres 3) (k := k) 3 ⟨SYS_REG, 0x300000, 0, 0⟩
  obtain ⟨hmem, hotros, arch, harch⟩ := llamar_registro (k := k) (t := 3)
    (r := ⟨SYS_REG, 0x300000, 0, 0⟩) (fun _ => 0) rfl (h.registra _)
  have hsys := (h.ve _ hk 0 (by decide) 0 (by decide)).2.2
  have hbuf := (h.ve _ hk 0 (by decide) 0x400 (by decide)).2.2
  simp only [Nat.add_zero, Nat.mul_zero] at hsys hbuf
  simp only [hsys, h.buf, h.size, hbuf] at harch
  exact ⟨hmem, fun j hj hne => (congrArg Drv.idDrv (hotros j hne)).trans (h.libre j hj), _, harch,
    rfl, rfl, rfl, rfl⟩

lemma Vista.vecino : Vecino tres (historiaTres 3) k (Driver.registrado k).1 :=
  ⟨llamar_marco _ _ _ _, fun x _ _ => by rw [h.registrado.1]⟩

lemma Vista.acepta : Acepta 4 lectura (Driver.registrado k).1 3 := by
  refine ⟨Or.inl rfl, ?_, rfl⟩
  have hd : revisarDrv 3 (entrar 4 lectura (Driver.registrado k).1) = none := by
    refine revisarDrv_ok (d := 3) ?_ ?_
    · rw [estado_entrar]
      exact h.dueno
    · rw [estado_entrar, h.toEscena.registrado]
      simp [Protocol.paso]
  have hdir : checkAddr 0x300000 4 (entrar 4 lectura (Driver.registrado k).1) = 0x171000 :=
    (h.ve _ (h.vecino.trans (vecino_entrar 4 lectura)) 1 (by decide) 0 (by decide)).2.2
  have hfin : checkAddr 0x300003 4 (entrar 4 lectura (Driver.registrado k).1) = 0x171003 :=
    (h.ve _ (h.vecino.trans (vecino_entrar 4 lectura)) 1 (by decide) 3 (by decide)).2.2
  have hbuf : revisarBuf 0x300000 4 (entrar 4 lectura (Driver.registrado k).1) = none := by
    refine revisarBuf_ok ?_ (by decide) (by decide) ?_
    · rw [entrar_tIndice, hdir]
      decide
    · rw [entrar_tIndice, show (0x300000 + 4 + 2 ^ 32 - 1) % 2 ^ 32 = 0x300003 by decide, hfin]
      decide
  unfold revisar
  rw [show lectura.ebx = 3 from rfl, hd]
  exact hbuf

lemma Vista.mem_pedida : (pedida k).1.mem =
    wr32 (wr32 k.mem (0x170000 + PARAM_COUNT) 4) (0x170000 + PARAM_CALL) SYS_READ := by
  obtain ⟨hmem, -, d, hd, -, -, hsize, hsys⟩ := h.registrado
  have := lectura_mem (fun _ => 0) rfl h.acepta
  rw [hd, hsys, hmem, cantidad, hsize] at this
  exact this

lemma Vista.vecino_pedida : Vecino tres (historiaTres 3) k (pedida k).1 := by
  refine ⟨h.vecino.marco.trans (llamar_marco _ _ _ _), fun x hx hd => ?_⟩
  have := tres_deTablas hd
  rw [h.mem_pedida, rd8_wr32_of_ne fun j hj => by simp only [PARAM_CALL]; omega,
    rd8_wr32_of_ne fun j hj => by simp only [PARAM_COUNT]; omega]

lemma Vista.count_pedida : rd32 (pedida k).1.mem (0x170000 + PARAM_COUNT) = 4 := by
  rw [h.mem_pedida, rd32_wr32_of_disjoint (by decide) (by decide) (by decide), rd32_wr32_self]
  rfl

lemma Vista.escribe {o : ℕ} (ho : o < 4096) (b : Byte) :
    escribir 3 (0x300000 + o) b (pedida k).1 =
      { (pedida k).1 with mem := wr8 (pedida k).1.mem (0x170000 + o) b } ∧
    Steps (Ajeno 0x16cb61 3) (pedida k).1 [()] (escribir 3 (0x300000 + o) b (pedida k).1) := by
  have hk := h.vecino_pedida
  obtain ⟨hw, hp, -⟩ := h.ve _ hk 0 (by decide) o ho
  simp only [Nat.add_zero, Nat.mul_zero] at hw hp
  constructor
  · unfold escribir
    rw [if_pos hw, hp]
  · refine .cons (.escritura b fun _ => ?_) (.nil _)
    rw [hp]
    refine ⟨Or.inr (by omega), fun hx => ?_⟩
    have := tres_deTablas (enTablas_vecino h.tablas tres_ventana hk hx)
    omega

lemma Vista.mem_alterada :
    (alterada k).1 = { (pedida k).1 with mem := wr8 (pedida k).1.mem 0x17000c 255 } :=
  (h.escribe (o := 12) (by decide) 255).1

lemma Vista.mem_llenada :
    llenada k = { (pedida k).1 with mem := wr8 (pedida k).1.mem 0x170401 42 } :=
  (h.escribe (o := 0x401) (by decide) 42).1

lemma Vista.ajeno_alterada : Steps (Ajeno 0x16cb61 3) (pedida k).1 [()] (alterada k).1 :=
  (h.escribe (o := 12) (by decide) 255).2

lemma Vista.ajeno_llenada : Steps (Ajeno 0x16cb61 3) (pedida k).1 [()] (llenada k) :=
  (h.escribe (o := 0x401) (by decide) 42).2

lemma Vista.count_alterada : rd32 (alterada k).1.mem (0x170000 + PARAM_COUNT) = 255 := by
  have hc := h.count_pedida
  rw [h.mem_alterada]
  unfold rd32 at hc ⊢
  have h255 : (255 : Byte).toNat = 255 := rfl
  rw [rd8_wr8, if_pos (by decide), rd8_wr8_of_ne (by decide), rd8_wr8_of_ne (by decide),
    rd8_wr8_of_ne (by decide), h255]
  omega

lemma Vista.vecino_alterada : Vecino tres (historiaTres 3) k (alterada k).1 := by
  rw [h.mem_alterada]
  refine vecino_mem h.vecino_pedida fun x hx h32 => ?_
  rw [rd8_wr8_of_ne (by omega)]

lemma Vista.vecino_llenada : Vecino tres (historiaTres 3) k (llenada k) := by
  rw [h.mem_llenada]
  refine vecino_mem h.vecino_pedida fun x hx h32 => ?_
  rw [rd8_wr8_of_ne (by omega)]

lemma Vista.count_llenada : rd32 (llenada k).mem (0x170000 + PARAM_COUNT) = 4 := by
  rw [h.mem_llenada, ← h.count_pedida]
  exact rd32_congr fun j hj => rd8_wr8_of_ne (by simp only [PARAM_COUNT]; omega)

lemma Vista.accion_pedida :
    Driver.accion lectura (entrar 4 lectura (Driver.registrado k).1) = .pedir 3 3 :=
  accion_pedir.mpr ⟨h.acepta.1, h.acepta.2.1, h.acepta.2.2, (dueno_eq_some.mp h.dueno).2.2⟩

lemma Vista.pedida : estado (pedida k).1 =
    Protocol.paso (estado (Driver.registrado k).1) 4 (.pedir 3 3) := by
  rw [Reply.pedida, correr_estado (by decide), h.accion_pedida]

lemma Vista.slot : slotDe 3 (Reply.pedida k).1.rDrv = 3 ∧
    ((Reply.pedida k).1.rDrv 3).buf = 0x170400 ∧ ((Reply.pedida k).1.rDrv 3).bufRet = 0x171000 ∧
    ((Reply.pedida k).1.rDrv 3).sys = 0x170000 := by
  obtain ⟨-, hotros, d, hd, hid, hbuf, -, hsys⟩ := h.registrado
  have hdir : checkAddr 0x300000 4 (entrar 4 lectura (Driver.registrado k).1) = 0x171000 :=
    (h.ve _ (h.vecino.trans (vecino_entrar 4 lectura)) 1 (by decide) 0 (by decide)).2.2
  have hslot := (lectura_rDrv (fun _ => 0) rfl h.acepta).1
  rw [hd, show lectura.ecx = 0x300000 from rfl, hdir] at hslot
  have hdueno : ∀ j, (estado (Reply.pedida k).1).dueno j =
      (estado (Driver.registrado k).1).dueno j := fun j => by
    rw [h.pedida]
    simp only [Protocol.paso]
  have hno : ∀ j < 3, ((Reply.pedida k).1.rDrv j).idDrv ≠ 3 := by
    intro j hj hc
    have h1 : (estado (Reply.pedida k).1).dueno j = some 3 :=
      dueno_eq_some.mpr ⟨by simp only [MAX_DRIVERS]; omega, by decide, hc⟩
    rw [hdueno] at h1
    have h2 := (dueno_eq_some.mp h1).2.2
    rw [hotros j (by simp only [MAX_DRIVERS]; omega) (by omega)] at h2
    cases h2
  refine ⟨?_, ?_, ?_, ?_⟩
  · refine scan_eq (Nat.zero_le _) (by decide) (fun j _ hj => ?_) fun _ => ?_
    · simpa using hno j hj
    · have h1 := (dueno_eq_some.mp ((hdueno 3).trans h.dueno)).2.2
      simpa using h1
  · exact (congrArg Drv.buf hslot).trans hbuf
  · exact congrArg Drv.bufRet hslot
  · exact (congrArg Drv.sys hslot).trans hsys

lemma Vista.responde {k' : Kernel} (hk : Vecino tres (historiaTres 3) k k')
    (hd : k'.rDrv = (Reply.pedida k).1.rDrv) : Responde 3 contesta k' 3 := by
  have hslot : slotDe 3 k'.rDrv = 3 := by
    rw [hd]
    exact h.slot.1
  have hdir : checkAddr 0x300000 3 (entrar 3 contesta k') = 0x170000 :=
    (h.ve _ (hk.trans (vecino_entrar 3 contesta)) 0 (by decide) 0 (by decide)).2.2
  refine ⟨rfl, ?_, hslot⟩
  unfold revisarRet
  rw [entrar_tIndice, entrar_rDrv, hslot, if_neg (by decide), show contesta.ebx = 0x300000 from rfl,
    hdir, if_neg (by decide)]

lemma Vista.cabe {m : Mem} :
    Cabe ((Reply.pedida k).1.rDrv 3) 4 m ↔ rd32 m (0x170000 + PARAM_COUNT) ≤ 4 := by
  obtain ⟨-, -, hret, hsys⟩ := h.slot
  have hc := @cabe_iff ((Reply.pedida k).1.rDrv 3) 4 m fun j hj => by
    rw [hret, hsys]
    simp only [above, PARAM_COUNT]
    omega
  rwa [hsys] at hc

lemma Vista.reach : Reach (Inicial enlace) Paso (Driver.registrado k) ∧
    Reach (Inicial enlace) Paso (alterada k) ∧ Tarea (alterada k).1 3 ∧
    ((alterada k).1.rTareas 3).status = .running := by
  have h0 : Inicial enlace (k, .vacia) := ⟨h.arranque, rfl⟩
  have h1 : Paso (k, .vacia) (.llamada 3 ⟨SYS_REG, 0x300000, 0, 0⟩) (Driver.registrado k) :=
    correr_paso (h.tarea 3 (by decide) (by decide)) (h.corre 3 (by decide) (by decide))
  have h2 : Paso (Driver.registrado k) (.llamada 4 lectura) (Reply.pedida k) := by
    refine correr_paso (correr_tarea.mpr (h.tarea 4 (by decide) (by decide))) ?_
    rw [h.toEscena.registrado]
    simp [Protocol.paso, h.corre]
  have htar : Tarea (Reply.pedida k).1 3 :=
    correr_tarea.mpr (correr_tarea.mpr (h.tarea 3 (by decide) (by decide)))
  have hst : ((Reply.pedida k).1.rTareas 3).status = .running := by
    refine faseDe_corre.mp (?_ : (estado (Reply.pedida k).1).fase 3 = .corre)
    rw [h.pedida]
    simp [Protocol.paso]
  have h3 : Paso (Reply.pedida k) .escritura (alterada k) := .escritura 0x30000c 255 htar hst
  refine ⟨(Reach.init h0).step h1, (((Reach.init h0).step h1).step h2).step h3, ?_, ?_⟩
  · rw [h.mem_alterada]
    exact htar
  · rw [h.mem_alterada]
    exact hst

lemma Vista.responde_alterada : Responde 3 contesta (alterada k).1 3 :=
  h.responde h.vecino_alterada (by rw [h.mem_alterada])

lemma Vista.slot_llenada : (llenada k).rDrv = (Reply.pedida k).1.rDrv := by rw [h.mem_llenada]

lemma Vista.responde_llenada : Responde 3 contesta (llenada k) 3 :=
  h.responde h.vecino_llenada h.slot_llenada

lemma Vista.cabe_llenada : Cabe ((llenada k).rDrv 3) 4 (llenada k).mem := by
  rw [h.slot_llenada]
  exact h.cabe.mpr h.count_llenada.le

lemma Vista.fuera (k' : Kernel) : ¬ Dentro (Driver.registrado k).1 4 lectura
    (entrar 3 contesta (alterada k).1) k' (respuesta 3 (entrar 3 contesta (alterada k).1)).2 := by
  intro hd
  have hslot : (entrar 3 contesta (alterada k).1).rDrv 3 = (Reply.pedida k).1.rDrv 3 := by
    rw [entrar_rDrv, h.mem_alterada]
  have hcall : ((entrar 3 contesta (alterada k).1).rDrv 3).call = SYS_READ := by
    rw [hslot]
    exact congrArg Drv.call (lectura_rDrv (fun _ => 0) rfl h.acepta).1
  have hdir : checkAddr lectura.ecx 4 (entrar 4 lectura (Driver.registrado k).1) = 0x171000 :=
    (h.ve _ (h.vecino.trans (vecino_entrar 4 lectura)) 1 (by decide) 0 (by decide)).2.2
  obtain ⟨-, -, d, hdrv, -, -, hsize, -⟩ := h.registrado
  have hcabe : Cabe ((Reply.pedida k).1.rDrv 3) 4 (alterada k).1.mem := by
    rw [← hslot]
    refine (respuesta_cabe hcall (n := 4) (by decide)).mp fun a ha => ?_
    obtain ⟨j, hj, rfl⟩ := respuesta_turno ha
    obtain ⟨j', hj', he⟩ := hd.escribe _ ha
    rw [hdir] at he
    rw [show lectura.ebx = 3 from rfl, hdrv, hsize, show min lectura.edx 16 = 4 from rfl] at hj'
    simp only [turno, hslot, h.slot.2.2.1] at he
    exact ⟨j', hj', by rw [show j = j' by omega]⟩
  have := h.cabe.mp hcabe
  rw [h.count_alterada] at this
  omega

lemma Vista.limite : min lectura.edx ((Driver.registrado k).1.rDrv 3).size = 4 := by
  obtain ⟨-, -, d, hd, -, -, hsize, -⟩ := h.registrado
  rw [hd, hsize]
  rfl

end

/-- The driver keeps the count: the answer is four bytes. -/
theorem respuesta_dentro_cuatro :
    Dentro (registrado (nucleoTres 3)).1 4 lectura (entrar 3 contesta (llenada (nucleoTres 3)))
      (llamar (fun _ => 0) 3 contesta (llenada (nucleoTres 3)))
      (respuesta 3 (entrar 3 contesta (llenada (nucleoTres 3)))).2 := by
  have h := vista_tres
  refine (respuesta_dentro (fun _ => 0) (fun _ => 0) rfl h.acepta h.ajeno_llenada
    h.responde_llenada).mpr ?_
  rw [h.limite]
  exact h.cabe_llenada

/-- **A reply past the buffer**: the driver stores over the count, and the answer copies 255
bytes to a client that asked for four. -/
theorem respuesta_fuera :
    Reach (Inicial enlace) Paso (registrado (nucleoTres 3)) ∧
    Acepta 4 lectura (registrado (nucleoTres 3)).1 3 ∧
    Steps (Ajeno 0x16cb61 3) (pedida (nucleoTres 3)).1 [()] (alterada (nucleoTres 3)).1 ∧
    Reach (Inicial enlace) Paso (alterada (nucleoTres 3)) ∧
    Tarea (alterada (nucleoTres 3)).1 3 ∧
    ((alterada (nucleoTres 3)).1.rTareas 3).status = .running ∧
    Responde 3 contesta (alterada (nucleoTres 3)).1 3 ∧
    ¬ Dentro (registrado (nucleoTres 3)).1 4 lectura
      (entrar 3 contesta (alterada (nucleoTres 3)).1)
      (llamar (fun _ => 0) 3 contesta (alterada (nucleoTres 3)).1)
      (respuesta 3 (entrar 3 contesta (alterada (nucleoTres 3)).1)).2 := by
  have h := vista_tres
  obtain ⟨h1, h2, h3, h4⟩ := h.reach
  exact ⟨h1, h.acepta, h.ajeno_alterada, h2, h3, h4, h.responde_alterada, h.fuera _⟩

end Silicio.Reply
