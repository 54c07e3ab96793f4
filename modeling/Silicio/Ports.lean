import Silicio.Registry
import Silicio.Runs

/-!
The I/O ports: who may use which, in two bitmaps that have to agree.

Port `p` is free when its bit of `r_port` is set, and task `t` may use it when its bit in the
`iobp` map of the TSS of `t` is clear. Eight ports share a byte of each map, and both calls ask
about the byte where they mean the bit: `&&` stands for `&`. A call does what it should exactly
when the two questions have one answer, and while every call does the maps agree.
-/

namespace Silicio.Ports

open Silicio.Bitmap Silicio.Defs Silicio.Tasks Silicio.Registry Silicio.Runs

/-- `set_port`, called by the current task. -/
def setPort (p : ℕ) (k : Kernel) : ℤ × Kernel :=
  let aux := p / 8
  let id := p % 8
  if ¬ (k.rPort aux ≠ 0#8 ∧ 1#32 <<< id ≠ 0#32) then (-1, k)
  else
    let t := (k.rTareas k.tIndice).taskTss
    (0, { k with rPort := erase k.rPort p }.updTss t fun t => { t with iobp := erase t.iobp p })

/-- `unset_port`; the complement of a byte promoted to `int` is never 0. -/
def unsetPort (p : ℕ) (k : Kernel) : ℤ × Kernel :=
  let aux := p / 8
  let id := p % 8
  let t := (k.rTareas k.tIndice).taskTss
  if ¬ (~~~((k.tss t).iobp aux).setWidth 32 ≠ 0#32 ∧ 1#32 <<< id ≠ 0#32) then (-1, k)
  else (0, { k with rPort := mark k.rPort p }.updTss t fun t => { t with iobp := mark t.iobp p })

/-- What happens in a run: a step of the boot, or task `t` asking for port `p` or giving it back. -/
inductive Evento
  | carga
  | rport (t p : ℕ)
  | urport (t p : ℕ)

inductive Paso (l : Link) : Kernel → Evento → Kernel → Prop
  | carga {k k' : Kernel} (h : Prepara l k k') : Paso l k .carga k'
  | rport {k : Kernel} {t p : ℕ} (ht : Tarea k t) (hp : p < 8 * TSS_PORT) :
      Paso l k (.rport t p) (setPort p { k with tIndice := t }).2
  | urport {k : Kernel} {t p : ℕ} (ht : Tarea k t) (hp : p < 8 * TSS_PORT) :
      Paso l k (.urport t p) (unsetPort p { k with tIndice := t }).2

def Tiene (k : Kernel) (t p : ℕ) : Prop := Tarea k t ∧ bit (k.tssOf t).iobp p = false

/-- The two bitmaps agree, and no port has two holders. -/
structure Exclusivos (k : Kernel) : Prop where
  uno : ∀ p < 8 * TSS_PORT, ∀ t u, Tiene k t p → Tiene k u p → t = u
  rPort : ∀ p < 8 * TSS_PORT, bit k.rPort p = false ↔ ∃ t, Tiene k t p

def Cumple (k : Kernel) : Evento → Prop
  | .carga => True
  | .rport t p =>
    let r := setPort p { k with tIndice := t }
    (r.1 = 0 ↔ ∀ u, ¬ Tiene k u p) ∧ (r.1 = 0 → ∀ u, Tiene r.2 u p ↔ u = t) ∧
      (r.1 = 0 ∨ r.1 = -1 ∧ r.2 = { k with tIndice := t })
  | .urport t p =>
    let r := unsetPort p { k with tIndice := t }
    (r.1 = 0 ↔ Tiene k t p) ∧ (r.1 = 0 → ∀ u, ¬ Tiene r.2 u p) ∧
      (r.1 = 0 ∨ r.1 = -1 ∧ r.2 = { k with tIndice := t })

/-- A call whose test of a byte answers as the test of the bit would: a port is asked for when
it is free or all eight of its byte are taken, and given back by the task that has it. -/
def Acierta (k : Kernel) : Evento → Prop
  | .carga => True
  | .rport _ p => bit k.rPort p = true ∨ k.rPort (p / 8) = 0#8
  | .urport t p => bit (k.tssOf t).iobp p = false

/-! ### One call -/

section
variable (p : ℕ) (k : Kernel)

lemma shift_ne_zero (p : ℕ) : (1#32 <<< (p % 8)) ≠ 0#32 := by
  rw [← BitVec.twoPow_eq]
  intro h
  have := congrArg (fun x => x.getLsbD (p % 8)) h
  simp only [BitVec.getLsbD_twoPow, BitVec.getLsbD_zero] at this
  have hlt : p % 8 < 32 := by omega
  simp [hlt] at this

lemma setPort_eq : setPort p k =
    if k.rPort (p / 8) = 0#8 then (-1, k)
    else (0, { k with rPort := erase k.rPort p }.updTss (k.rTareas k.tIndice).taskTss
      fun t => { t with iobp := erase t.iobp p }) := by
  unfold setPort
  simp only
  by_cases h : k.rPort (p / 8) = 0#8
  · rw [if_pos h, if_pos fun hc => hc.1 h]
  · rw [if_neg h, if_neg fun hc => hc ⟨h, shift_ne_zero p⟩]

lemma unsetPort_eq : unsetPort p k =
    (0, { k with rPort := mark k.rPort p }.updTss (k.rTareas k.tIndice).taskTss
      fun t => { t with iobp := mark t.iobp p }) := by
  have hne : ~~~((k.tss (k.rTareas k.tIndice).taskTss).iobp (p / 8)).setWidth 32 ≠ 0#32 := by
    intro h
    have := congrArg (fun x => x.getLsbD 31) h
    simp at this
  unfold unsetPort
  simp only
  rw [if_neg fun hc => hc ⟨hne, shift_ne_zero p⟩]

lemma rPort_ne_zero {p : ℕ} {k : Kernel} (h : bit k.rPort p = true) : k.rPort (p / 8) ≠ 0#8 := by
  intro h0
  rw [bit, h0] at h
  simp at h

end

/-! ### The invariant -/

/-- After `n` loads: the bitmaps agree, and the maps of the TSSs not yet given out are full. -/
structure Inv (n : ℕ) (k : Kernel) : Prop where
  registro : Registro n k
  exclusivos : Exclusivos k
  nuevos : ∀ j < MAX_TASK - 1, n ≤ j → ∀ p < 8 * TSS_PORT, bit (k.tss (some j)).iobp p = true

variable {l : Link} {n : ℕ} {k k' : Kernel}

lemma tiene_iff (h : Registro n k) {t p : ℕ} :
    Tiene k t p ↔ (t < n ∧ t < PARES) ∧ bit (k.tss (some t)).iobp p = false := by
  constructor
  · rintro ⟨ht, hb⟩
    rw [h.tssOf ht] at hb
    exact ⟨h.tarea_iff.mp ht, hb⟩
  · rintro ⟨ht, hb⟩
    have ht := h.tarea_iff.mpr ht
    refine ⟨ht, ?_⟩
    rwa [h.tssOf ht]

/-- A load changes no bitmap, so the new task has no port and the others have theirs. -/
lemma Inv.carga (h : Inv n k) {m : ℕ} (hm : n ≤ m) (hm' : m ≤ n + 1) (hreg : Registro m k')
    (hio : ∀ j, (k'.tss (some j)).iobp = (k.tss (some j)).iobp) (hrp : k'.rPort = k.rPort) :
    Inv m k' := by
  have ht : ∀ t, ∀ p < 8 * TSS_PORT, Tiene k' t p ↔ Tiene k t p := by
    intro t p hp
    rw [tiene_iff hreg, tiene_iff h.registro, hio]
    constructor
    · rintro ⟨⟨ht, hpar⟩, hb⟩
      refine ⟨⟨?_, hpar⟩, hb⟩
      by_contra hge
      rw [h.nuevos t (by simp only [PARES, MAX_GDT, MAX_TASK] at hpar ⊢; omega) (by omega) p hp]
        at hb
      cases hb
    · rintro ⟨⟨ht, hpar⟩, hb⟩
      exact ⟨⟨by omega, hpar⟩, hb⟩
  refine ⟨hreg, ⟨fun p hp t u h1 h2 => ?_, fun p hp => ?_⟩, fun j hj hge p hp => ?_⟩
  · exact h.exclusivos.uno p hp t u ((ht t p hp).mp h1) ((ht u p hp).mp h2)
  · rw [hrp, h.exclusivos.rPort p hp]
    exact exists_congr fun t => (ht t p hp).symm
  · rw [hio]
    exact h.nuevos j hj (by omega) p hp

lemma cargar_iobp (cs ds start fin : ℕ) (name : ℕ → Byte) (k : Kernel) (j : ℕ) :
    ((cargar cs ds l start fin name k).2.tss (some j)).iobp = (k.tss (some j)).iobp := by
  by_cases ha : Admite start fin k
  · rcases eq_or_ne (some j) (tssLibre k.tss) with he | hne
    · rw [(cargar_tss cs ds l name ha he.symm).2.2.1]
    · rw [cargar_tss_of_ne _ _ _ _ ha hne]
  · rw [cargar_rechazo _ _ _ _ ha]

lemma prepara_inv (h : Inv n k) (hs : Prepara l k k') : ∃ m, Inv m k' := by
  obtain ⟨m, hm, hm', hreg⟩ := hs.registro h.registro
  refine ⟨m, h.carga hm hm' hreg (fun j => ?_) ?_⟩
  · cases hs with
    | iniPag => rfl
    | execs start pila name =>
      unfold execs
      simp only [setTss_fst, Function.update_apply, setTss_snd]
      split_ifs with h1 h2
      · rw [← h1]; rfl
      · rw [← h1]
      · rfl
      · rfl
    | exec => exact cargar_iobp _ _ _ _ _ _ _
    | execd => exact cargar_iobp _ _ _ _ _ _ _
  · cases hs with
    | iniPag => rfl
    | execs => rfl
    | exec => exact cargar_rPort _ _ _ _
    | execd => exact cargar_rPort _ _ _ _

/-- What both calls do when they grant: one bit of each map, and `p` is held by `t` if by any. -/
structure Cambio (t p : ℕ) (b : Bool) (k k' : Kernel) : Prop where
  rPort : ∀ q, bit k'.rPort q = if q = p then b else bit k.rPort q
  iobp : ∀ j q, bit (k'.tss (some j)).iobp q =
    if j = t ∧ q = p then b else bit (k.tss (some j)).iobp q
  cs : ∀ q, (k'.tss q).cs = (k.tss q).cs
  gdt : k'.gdt = k.gdt
  rTareas : k'.rTareas = k.rTareas

lemma Cambio.registro {t p : ℕ} {b : Bool} (hc : Cambio t p b k k') (h : Registro n k) :
    Registro n k' :=
  h.congr hc.cs hc.gdt (fun _ => by rw [hc.rTareas]) fun _ => by rw [hc.rTareas]

lemma Cambio.tiene {t p : ℕ} {b : Bool} (hc : Cambio t p b k k') (h : Registro n k)
    (ht : Tarea k t) (hsolo : ∀ u, Tiene k u p → u = t) (u q : ℕ) :
    Tiene k' u q ↔ if q = p then u = t ∧ b = false else Tiene k u q := by
  rw [tiene_iff (hc.registro h), tiene_iff h, hc.iobp]
  have hmem := h.tarea_iff.mp ht
  by_cases hq : q = p
  · rw [if_pos hq]
    by_cases hu : u = t
    · subst hu
      rw [if_pos ⟨rfl, hq⟩]
      tauto
    · rw [if_neg fun hx => hu hx.1]
      refine ⟨fun hx => absurd (hsolo u ?_) hu, fun hx => absurd hx.1 hu⟩
      subst hq
      exact (tiene_iff h).mpr hx
  · rw [if_neg hq, if_neg fun hx => hq hx.2]

lemma Cambio.inv {t p : ℕ} {b : Bool} (hc : Cambio t p b k k') (h : Inv n k) (ht : Tarea k t)
    (hsolo : ∀ u, Tiene k u p → u = t) : Inv n k' := by
  have htiene := hc.tiene h.registro ht hsolo
  refine ⟨hc.registro h.registro, ⟨fun q hq u v hu hv => ?_, fun q hq => ?_⟩,
    fun j hj hge q hq => ?_⟩
  · rw [htiene] at hu hv
    split at hu
    · next he =>
      rw [if_pos he] at hv
      exact hu.1.trans hv.1.symm
    · next he =>
      rw [if_neg he] at hv
      exact h.exclusivos.uno q hq u v hu hv
  · rw [hc.rPort]
    simp only [htiene]
    split
    · exact ⟨fun hb => ⟨t, rfl, hb⟩, fun ⟨_, _, hb⟩ => hb⟩
    · exact h.exclusivos.rPort q hq
  · have hne : j ≠ t := by
      have := (h.registro.tarea_iff.mp ht).1
      omega
    rw [hc.iobp, if_neg fun hx => hne hx.1]
    exact h.nuevos j hj hge q hq

/-- The two calls write the same bit of both maps, in two ways. -/
lemma cambio_bit (h : Registro n k) {t p : ℕ} (ht : Tarea k t) {b : Bool}
    {f : (ℕ → Byte) → ℕ → Byte} (hf : ∀ m q, bit (f m) q = if q = p then b else bit m q) :
    Cambio t p b k ({ k with tIndice := t, rPort := f k.rPort }.updTss (k.rTareas t).taskTss
      fun s => { s with iobp := f s.iobp }) := by
  have htt := h.taskTss ht
  refine ⟨fun q => ?_, fun j q => ?_, fun q => ?_, rfl, rfl⟩
  · rw [updTss_rPort]
    exact hf _ _
  · simp only [updTss_tss, htt, Option.some.injEq]
    by_cases hj : j = t
    · rw [if_pos hj, hf, hj]
      simp only [true_and]
    · rw [if_neg hj, if_neg fun hx => hj hx.1]
  · simp only [updTss_tss, htt]
    split
    · next he => rw [he]
    · rfl

lemma setPort_cambio (h : Registro n k) {t p : ℕ} (ht : Tarea k t) (h0 : k.rPort (p / 8) ≠ 0#8) :
    (setPort p { k with tIndice := t }).1 = 0 ∧
      Cambio t p false k (setPort p { k with tIndice := t }).2 := by
  rw [setPort_eq, if_neg h0]
  refine ⟨rfl, cambio_bit (f := fun m => erase m p) h ht fun m q => ?_⟩
  rw [bit_erase]
  by_cases hq : q = p
  · simp [hq]
  · simp [hq]

lemma unsetPort_cambio (h : Registro n k) {t p : ℕ} (ht : Tarea k t) :
    (unsetPort p { k with tIndice := t }).1 = 0 ∧
      Cambio t p true k (unsetPort p { k with tIndice := t }).2 := by
  rw [unsetPort_eq]
  refine ⟨rfl, cambio_bit (f := fun m => mark m p) h ht fun m q => ?_⟩
  rw [bit_mark]
  by_cases hq : q = p
  · simp [hq]
  · simp [hq]

lemma Inv.libre (h : Inv n k) {p : ℕ} (hp : p < 8 * TSS_PORT) (hb : bit k.rPort p = true) (u : ℕ) :
    ¬ Tiene k u p := fun hu => by
  rw [(h.exclusivos.rPort p hp).mpr ⟨u, hu⟩] at hb
  cases hb

/-- **The step lemma**: a call that asks about the right bit keeps the bitmaps in agreement. -/
lemma paso_inv (h : Inv n k) {e : Evento} (hs : Paso l k e k') (hac : Acierta k e) :
    ∃ m, Inv m k' := by
  cases hs with
  | carga hp => exact prepara_inv h hp
  | @rport t p ht hp =>
    rcases eq_or_ne (k.rPort (p / 8)) 0#8 with h0 | h0
    · refine ⟨n, ?_⟩
      rw [setPort_eq, if_pos h0]
      exact ⟨h.registro.congr (fun _ => rfl) rfl (fun _ => rfl) fun _ => rfl,
        ⟨h.exclusivos.uno, h.exclusivos.rPort⟩, h.nuevos⟩
    · have hlibre := h.libre hp (hac.resolve_right h0)
      exact ⟨n, (setPort_cambio h.registro ht h0).2.inv h ht fun u hu => absurd hu (hlibre u)⟩
  | @urport t p ht hp =>
    exact ⟨n, (unsetPort_cambio h.registro ht).2.inv h ht fun u hu =>
      h.exclusivos.uno p hp u t hu ⟨ht, hac⟩⟩

lemma cumple_iff (h : Inv n k) {e : Evento} (hs : Paso l k e k') : Cumple k e ↔ Acierta k e := by
  cases hs with
  | carga => rfl
  | @rport t p ht hp =>
    rcases eq_or_ne (k.rPort (p / 8)) 0#8 with h0 | h0
    · -- refused, and someone has the port since the whole byte is clear
      refine ⟨fun _ => Or.inr h0, fun _ => ?_⟩
      have hb : bit k.rPort p = false := by
        rw [bit, h0]
        simp
      obtain ⟨u, hu⟩ := (h.exclusivos.rPort p hp).mp hb
      have heq : setPort p { k with tIndice := t } = (-1, { k with tIndice := t }) := by
        rw [setPort_eq, if_pos h0]
      simp only [Cumple, heq]
      exact ⟨⟨fun hc => absurd hc (by decide), fun hno => absurd hu (hno u)⟩,
        fun hc => absurd hc (by decide), Or.inr ⟨trivial, trivial⟩⟩
    · obtain ⟨hr, hc⟩ := setPort_cambio h.registro ht h0
      constructor
      · rintro ⟨hiff, -⟩
        refine Or.inl ?_
        by_contra hb
        obtain ⟨u, hu⟩ := (h.exclusivos.rPort p hp).mp (by simpa using hb)
        exact hiff.mp hr u hu
      · intro hac
        have hlibre := h.libre hp (hac.resolve_right h0)
        refine ⟨⟨fun _ => hlibre, fun _ => hr⟩, fun _ u => ?_, Or.inl hr⟩
        rw [hc.tiene h.registro ht (fun u hu => absurd hu (hlibre u)), if_pos rfl]
        exact ⟨fun hx => hx.1, fun hx => ⟨hx, rfl⟩⟩
  | @urport t p ht hp =>
    obtain ⟨hr, hc⟩ := unsetPort_cambio (p := p) h.registro ht
    constructor
    · rintro ⟨hiff, -⟩
      exact (hiff.mp hr).2
    · intro hac
      refine ⟨⟨fun _ => ⟨ht, hac⟩, fun _ => hr⟩, fun _ u hu => ?_, Or.inl hr⟩
      rw [hc.tiene h.registro ht (fun u hu => h.exclusivos.uno p hp u t hu ⟨ht, hac⟩),
        if_pos rfl] at hu
      exact absurd hu.2 (by decide)

/-! ### Runs -/

lemma inicio_inv (h : Inicio l k) : Inv 0 k := by
  have hreg := h.registro
  obtain ⟨k₀, hg, rfl⟩ := h
  have hl := iniTss_limpio (iniLdt l k₀)
  have hno : ∀ t p, ¬ Tiene (iniTss (iniLdt l k₀)) t p := fun t p ht => by
    have := (hreg.tarea_iff.mp ht.1).1
    omega
  refine ⟨hreg, ⟨fun p _ t u ht => absurd ht (hno t p), fun p hp => ?_⟩, fun j hj _ p hp => ?_⟩
  · have hb : bit (iniTss (iniLdt l k₀)).rPort p = true :=
      byte_full.mp (hl.rPort (p / 8) (by omega)) p (by omega) (by omega)
    rw [hb]
    exact ⟨fun hc => absurd hc (by decide), fun ⟨t, ht⟩ => absurd ht (hno t p)⟩
  · have hio : (clearTss ((iniLdt l k₀).tss (some j))).iobp (p / 8) = 0xff#8 :=
      (Loop.loop_update (fun _ => 0xff#8) _ _ _).trans (if_pos (by omega))
    rw [hl.tss j (by omega)]
    exact byte_full.mp hio p (by omega) (by omega)

/-- **Exclusive ports.** In every run from `ini_tss` whose calls ask about the right bit, the
two bitmaps agree and no port has two holders; and in each state such a run reaches, a call
does what it has to do just when it asks about the right bit. -/
theorem puertos_exclusivos
    (h : Reach (Inicio l) (fun k e k' => Paso l k e k' ∧ Acierta k e) k) :
    Exclusivos k ∧ ∀ e k', Paso l k e k' → (Cumple k e ↔ Acierta k e) := by
  obtain ⟨n, hn⟩ := h.invariant (P := fun k => ∃ n, Inv n k) (fun k hk => ⟨0, inicio_inv hk⟩)
    fun k e k' ⟨n, hn⟩ ⟨hs, hac⟩ => paso_inv hn hs hac
  exact ⟨hn.exclusivos, fun e k' hs => cumple_iff hn hs⟩

/-! ### Two tasks and the keyboard -/

def cincoTareas : Kernel :=
  (exec enlace 0x171000 0x172000 (fun _ => 0)
    (exec enlace 0x170000 0x171000 (fun _ => 0) (tresTareas enlace)).2).2

lemma cincoTareas_reach : Reach (Inicio enlace)
    (fun k e k' => Paso enlace k e k' ∧ Acierta k e) cincoTareas :=
  (((((Reach.init ⟨Kernel.cargado fun _ => 0, rfl, rfl⟩).step
    ⟨.carga (.execs _ _ _), trivial⟩).step ⟨.carga (.execs _ _ _), trivial⟩).step
    ⟨.carga (.execs _ _ _), trivial⟩).step ⟨.carga (.exec _ _ _), trivial⟩).step
    ⟨.carga (.exec _ _ _), trivial⟩

lemma cincoTareas_registro : Registro 5 cincoTareas := by
  have h3 := tresTareas_registro enlace
  have ha3 : Admite 0x170000 0x171000 (tresTareas enlace) := h3.admite (by decide) (by decide)
  have h4 := cargar_registro USER_DS enlace (fun _ => 0) (show USER_CS ≠ 0 by decide) ha3 h3
  have ha4 := h4.admite (show 0 < 4 by decide)
    (show cantPaginas 0x171000 0x172000 ≤ MAX_PAG_DRIVER by decide)
  exact cargar_registro USER_DS enlace (fun _ => 0) (by decide) ha4 h4

lemma cincoTareas_tarea {t : ℕ} (ht : t < 5) : Tarea cincoTareas t :=
  cincoTareas_registro.tarea_iff.mpr ⟨ht, lt_trans ht (by decide)⟩

lemma cincoTareas_rPort {i : ℕ} (hi : i < TSS_PORT) : cincoTareas.rPort i = 0xff#8 := by
  have h := (iniTss_limpio (iniLdt enlace (Kernel.cargado fun _ => 0))).rPort i hi
  unfold cincoTareas exec
  rw [cargar_rPort, cargar_rPort]
  exact h

lemma cincoTareas_libre {p : ℕ} (hp : p < 8 * TSS_PORT) : bit cincoTareas.rPort p = true :=
  byte_full.mp (cincoTareas_rPort (show p / 8 < TSS_PORT by omega)) p (by omega) (by omega)

def teclado : Kernel := (setPort 0x60 { cincoTareas with tIndice := 3 }).2

theorem puertos_exclusivos_teclado : Exclusivos teclado :=
  (puertos_exclusivos (cincoTareas_reach.step
    ⟨.rport (cincoTareas_tarea (by decide)) (by decide),
      Or.inl (cincoTareas_libre (by decide))⟩)).1

def tecladoDos : Kernel := (setPort 0x60 { teclado with tIndice := 4 }).2

/-- The port is granted a second time: its byte of `r_port` is not 0, for the ports beside it
are free. -/
theorem puerto_dos_veces : Reach (Inicio enlace) (Paso enlace) tecladoDos ∧
    (setPort 0x60 { teclado with tIndice := 4 }).1 = 0 ∧
    Tiene tecladoDos 3 0x60 ∧ Tiene tecladoDos 4 0x60 := by
  have h0 : cincoTareas.rPort (0x60 / 8) ≠ 0#8 := rPort_ne_zero (cincoTareas_libre (by decide))
  have hc1 := (setPort_cambio cincoTareas_registro (cincoTareas_tarea (t := 3) (by decide)) h0).2
  have hr1 : Registro 5 teclado := hc1.registro cincoTareas_registro
  have ht4 : Tarea teclado 4 := hr1.tarea_iff.mpr (by decide)
  -- the bit of port 0x61 is still set
  have h1 : teclado.rPort (0x60 / 8) ≠ 0#8 := by
    have hb : bit teclado.rPort 0x61 = true := by
      rw [teclado, hc1.rPort, if_neg (by decide)]
      exact cincoTareas_libre (by decide)
    exact (rPort_ne_zero hb : teclado.rPort (0x61 / 8) ≠ 0#8)
  obtain ⟨hr, hc2⟩ := setPort_cambio hr1 ht4 h1
  have hr2 : Registro 5 tecladoDos := hc2.registro hr1
  have hreach : Reach (Inicio enlace) (Paso enlace) cincoTareas :=
    cincoTareas_reach.mono fun _ _ _ h => h.1
  refine ⟨(hreach.step (.rport (cincoTareas_tarea (by decide)) (by decide))).step
    (.rport ht4 (by decide)), hr, (tiene_iff hr2).mpr ⟨by decide, ?_⟩,
    (tiene_iff hr2).mpr ⟨by decide, ?_⟩⟩
  · rw [tecladoDos, hc2.iobp, if_neg (by decide), teclado, hc1.iobp, if_pos (by decide)]
  · rw [tecladoDos, hc2.iobp, if_pos (by decide)]

end Silicio.Ports
