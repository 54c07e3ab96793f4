import Silicio.Gates
import Silicio.Ports

/-!
What the processor makes of the port maps.

The processor reads the bit of a port at an address: the base of the task's TSS, the offset the
TSS gives for its map, and the port. It refuses beyond the limit of the descriptor. The map has
2048 ports and a byte of ones after it, but the limit is written with the granularity bit, and
the ports that follow are answered by whatever follows in memory.
-/

namespace Silicio.IoMap

open Silicio.Loop Silicio.Bitmap Silicio.Defs Silicio.Runs Silicio.Tasks Silicio.Registry
open Silicio.Gates Silicio.Ports

/-! ### A TSS as bytes -/

def par (a b : ℕ) : ℕ := a % 2 ^ 16 + 2 ^ 16 * (b % 2 ^ 16)

def octeto (v i : ℕ) : Byte := BitVec.ofNat 8 (v / 2 ^ (8 * i))

/-- The fields before `pag_mem`, four bytes each. -/
def cabecera (s : Tss) : List ℕ :=
  [par s.bLink s.n, s.esp0, par s.ss0 s.n0, s.esp1, par s.ss1 s.n1, s.esp2, par s.ss2 s.n2, s.cr3,
    s.eip, s.eflag, s.eax, s.ecx, s.edx, s.ebx, s.esp, s.ebp, s.esi, s.edi, par s.es s.n3,
    par s.cs s.n4, par s.ss s.n5, par s.ds s.n6, par s.fs s.n7, par s.gs s.n8, par s.ldt s.n9,
    par s.n10 s.bitMap]

/-- The offset of `bit_map`, where the processor looks for that of the map. -/
abbrev TSS_BIT_MAP : ℕ := 102

/-- The byte at offset `o`. After `fin` three bytes make the size a multiple of four; nothing
writes them, and the loader leaves them 0. -/
def byteTss (s : Tss) (o : ℕ) : Byte :=
  if o < 104 then octeto ((cabecera s).getD (o / 4) 0) (o % 4)
  else if o < 160 then octeto (s.pagMem ((o - 104) / 4)) (o % 4)
  else if o < 216 then octeto (s.pagVirtual ((o - 160) / 4)) (o % 4)
  else if o < TSS_IOBP then octeto s.pagStack (o % 4)
  else if o < TSS_IOBP + TSS_PORT then s.iobp (o - TSS_IOBP)
  else if o = TSS_IOBP + TSS_PORT then s.fin
  else 0

/-- The byte at address `a`: one of `tss_p`, or one of the memory around it. -/
def byteEn (l : Link) (resto : ℕ → Byte) (k : Kernel) (a : ℕ) : Byte :=
  let x := (a + 2 ^ 32 - l.tssP % 2 ^ 32) % 2 ^ 32
  if x < TSS_LEN * MAX_TASK then byteTss (k.tss (some (x / TSS_LEN))) (x % TSS_LEN) else resto a

/-! ### The rule of the processor -/

/-- The limit in a descriptor, in bytes: with the granularity bit it counts pages. -/
def limite (d : Gdtp) : ℕ :=
  let lim := d.limL + 2 ^ 16 * (d.limH % 2 ^ 4)
  if d.limH / 2 ^ 7 % 2 = 1 then 2 ^ 12 * lim + 0xfff else lim

def descriptor (k : Kernel) (t : ℕ) : Gdtp := k.gdt ((k.gdt (puerta k t)).baseL / 8)

def lugarMapa (l : Link) (resto : ℕ → Byte) (k : Kernel) (base : ℕ) : ℕ :=
  (byteEn l resto k (base + TSS_BIT_MAP)).toNat +
    2 ^ 8 * (byteEn l resto k (base + TSS_BIT_MAP + 1)).toNat

/-- The processor lets task `t` use port `p`. -/
def Permite (l : Link) (resto : ℕ → Byte) (k : Kernel) (t p : ℕ) : Prop :=
  let b := base (descriptor k t)
  let o := lugarMapa l resto k b + p / 8
  o ≤ limite (descriptor k t) ∧ (byteEn l resto k (b + o)).getLsbD (p % 8) = false

/-! ### Runs that remember the calls -/

/-- A state, and whether the last call of each task on each port that succeeded granted it. -/
abbrev Maquina := Kernel × (ℕ → ℕ → Bool)

def anotar (k : Kernel) (g : ℕ → ℕ → Bool) : Evento → ℕ → ℕ → Bool
  | .carga => g
  | .rport t p =>
    if (setPort p { k with tIndice := t }).1 = 0 then
      fun u q => if u = t ∧ q = p then true else g u q
    else g
  | .urport t p =>
    if (unsetPort p { k with tIndice := t }).1 = 0 then
      fun u q => if u = t ∧ q = p then false else g u q
    else g

def Paso (l : Link) (s : Maquina) (e : Evento) (s' : Maquina) : Prop :=
  Ports.Paso l s.1 e s'.1 ∧ s'.2 = anotar s.1 s.2 e

def Inicial (l : Link) (s : Maquina) : Prop := Inicio l s.1 ∧ s.2 = fun _ _ => false

variable {l : Link} {n : ℕ} {k k' : Kernel} {s s' : Maquina} {resto : ℕ → Byte} {t p : ℕ}

/-! ### Where the fields lie -/

lemma byteTss_iobp (s : Tss) {i : ℕ} (hi : i < TSS_PORT) : byteTss s (TSS_IOBP + i) = s.iobp i := by
  simp only [TSS_PORT] at hi
  unfold byteTss
  simp only [TSS_IOBP, TSS_PORT]
  rw [if_neg (by omega), if_neg (by omega), if_neg (by omega), if_neg (by omega), if_pos (by omega),
    Nat.add_sub_cancel_left]

lemma byteTss_fin (s : Tss) : byteTss s (TSS_IOBP + TSS_PORT) = s.fin := rfl

lemma byteTss_relleno (s : Tss) {o : ℕ} (ho : TSS_IOBP + TSS_PORT < o) : byteTss s o = 0 := by
  simp only [TSS_IOBP, TSS_PORT] at ho
  unfold byteTss
  simp only [TSS_IOBP, TSS_PORT]
  rw [if_neg (by omega), if_neg (by omega), if_neg (by omega), if_neg (by omega), if_neg (by omega),
    if_neg (by omega)]

lemma byteTss_bitMap (s : Tss) : (byteTss s TSS_BIT_MAP).toNat +
    2 ^ 8 * (byteTss s (TSS_BIT_MAP + 1)).toNat = s.bitMap % 2 ^ 16 := by
  have h2 : byteTss s TSS_BIT_MAP = octeto (par s.n10 s.bitMap) 2 := rfl
  have h3 : byteTss s (TSS_BIT_MAP + 1) = octeto (par s.n10 s.bitMap) 3 := rfl
  rw [h2, h3]
  simp only [octeto, par, BitVec.toNat_ofNat]
  omega

lemma byteEn_base {o : ℕ} (ht : t < MAX_TASK) (ho : o < 2 ^ 20) :
    byteEn l resto k (l.dirTss (some t) % 2 ^ 32 + o) =
      if TSS_LEN * t + o < TSS_LEN * MAX_TASK then
        byteTss (k.tss (some ((TSS_LEN * t + o) / TSS_LEN))) ((TSS_LEN * t + o) % TSS_LEN)
      else resto (l.dirTss (some t) % 2 ^ 32 + o) := by
  have hx : (l.dirTss (some t) % 2 ^ 32 + o + 2 ^ 32 - l.tssP % 2 ^ 32) % 2 ^ 32 =
      TSS_LEN * t + o := by
    simp only [Link.dirTss, TSS_LEN, MAX_TASK] at ht ⊢
    omega
  unfold byteEn
  simp only [hx]

lemma byteEn_propia {o : ℕ} (ht : t < MAX_TASK) (ho : o < TSS_LEN) :
    byteEn l resto k (l.dirTss (some t) % 2 ^ 32 + o) = byteTss (k.tss (some t)) o := by
  rw [byteEn_base ht (by simp only [TSS_LEN] at ho; omega)]
  simp only [TSS_LEN, MAX_TASK] at ht ho ⊢
  rw [if_pos (by omega), show (480 * t + o) / 480 = t by omega,
    show (480 * t + o) % 480 = o by omega]

lemma limite_descTss (m : ℕ) : limite (descTss m) = 2 ^ 12 * TSS_LEN + 0xfff := by
  simp only [limite, descTss, TSS_LEN]
  norm_num

/-! ### The TSSs in a run -/

/-- What a load does to the fields the rule reads: nothing, or what `set_tss` does. -/
def Igual (s s' : Tss) : Prop :=
  s'.iobp = s.iobp ∧ (s'.cs = s.cs ∧ s'.fin = s.fin ∧ s'.bitMap = s.bitMap ∨
    s'.fin = 0xff#8 ∧ s'.bitMap = TSS_IOBP)

lemma igual_rfl (s : Tss) : Igual s s := ⟨rfl, Or.inl ⟨rfl, rfl, rfl⟩⟩

lemma cargar_igual (cs ds start fin : ℕ) (name : ℕ → Byte) (k : Kernel) (j : ℕ) :
    Igual (k.tss (some j)) ((cargar cs ds l start fin name k).2.tss (some j)) := by
  by_cases ha : Admite start fin k
  · rcases eq_or_ne (some j) (tssLibre k.tss) with he | hne
    · refine ⟨(cargar_tss cs ds l name ha he.symm).2.2.1, Or.inr ?_⟩
      unfold cargar
      simp only
      rw [if_pos ha]
      simp only [setTss_fst, ← he, Function.update_self, setTss_snd]
      rw [if_pos ⟨trivial, by simp⟩]
      exact ⟨rfl, rfl⟩
    · rw [cargar_tss_of_ne _ _ _ _ ha hne]
      exact igual_rfl _
  · rw [cargar_rechazo _ _ _ _ ha]
    exact igual_rfl _

lemma execs_igual (l : Link) (start pila : ℕ) (name : ℕ → Byte) (k : Kernel) (j : ℕ) :
    Igual (k.tss (some j)) ((execs l start pila name k).2.tss (some j)) := by
  unfold execs
  simp only [setTss_fst, Function.update_apply, setTss_snd]
  split_ifs with h1 h2
  · rw [← h1]
    exact ⟨rfl, Or.inr ⟨rfl, rfl⟩⟩
  · rw [← h1]
    exact ⟨rfl, Or.inl ⟨rfl, rfl, rfl⟩⟩
  · exact ⟨rfl, Or.inr ⟨rfl, rfl⟩⟩
  · exact igual_rfl _

lemma prepara_igual (hs : Prepara l k k') (j : ℕ) : Igual (k.tss (some j)) (k'.tss (some j)) := by
  cases hs with
  | iniPag => exact igual_rfl _
  | execs => exact execs_igual _ _ _ _ _ _
  | exec => exact cargar_igual _ _ _ _ _ _ _
  | execd => exact cargar_igual _ _ _ _ _ _ _

/-- In every state: the tables are linked, a bit of a map is clear just when the port has been
granted, after each map there are eight ones, and every TSS in use says where its map is. -/
structure Inv (l : Link) (s : Maquina) : Prop where
  cargadas : ∃ d₀, Cargadas l d₀ s.1
  mapa : ∀ j < MAX_TASK, ∀ p < 8 * TSS_PORT,
    bit (s.1.tss (some j)).iobp p = false ↔ s.2 j p = true
  fuera : ∀ j p, 8 * TSS_PORT ≤ p → s.2 j p = false
  fin : ∀ j < MAX_TASK, (s.1.tss (some j)).fin = 0xff#8
  bitMap : ∀ j < MAX_TASK, (s.1.tss (some j)).cs ≠ 0 → (s.1.tss (some j)).bitMap = TSS_IOBP

lemma inicial_inv (h : Inicial l s) : Inv l s := by
  obtain ⟨k, g⟩ := s
  obtain ⟨hi, rfl⟩ := h
  obtain ⟨k₀, hg, rfl⟩ := hi
  have hl := iniTss_limpio (iniLdt l k₀)
  refine ⟨⟨_, Inicio.cargadas ⟨k₀, hg, rfl⟩⟩, fun j hj p hp => ?_, fun _ _ _ => rfl,
    fun j hj => ?_, fun j hj h0 => ?_⟩
  · simp only
    rw [hl.tss j hj]
    have hb : bit (clearTss ((iniLdt l k₀).tss (some j))).iobp p = true := by
      refine byte_full.mp ?_ p (show 8 * (p / 8) ≤ p by omega) (by omega)
      exact (loop_update (fun _ => 0xff#8) _ _ _).trans (if_pos (by omega))
    rw [hb]
    simp
  · simp only
    rw [hl.tss j hj]
    rfl
  · simp only at h0
    rw [hl.tss j hj] at h0
    exact absurd rfl h0

lemma Inv.carga {g : ℕ → ℕ → Bool} (h : Inv l (k, g)) (hs : Prepara l k k') : Inv l (k', g) := by
  obtain ⟨d₀, hc⟩ := h.cargadas
  refine ⟨⟨d₀, Prepara.cargadas hs hc⟩, fun j hj p hp => ?_, h.fuera, fun j hj => ?_,
    fun j hj h0 => ?_⟩
  · simp only
    rw [(prepara_igual hs j).1]
    exact h.mapa j hj p hp
  · rcases (prepara_igual hs j).2 with ⟨-, hf, -⟩ | ⟨hf, -⟩
    · exact hf.trans (h.fin j hj)
    · exact hf
  · rcases (prepara_igual hs j).2 with ⟨hcs, -, hb⟩ | ⟨-, hb⟩
    · simp only at h0
      rw [hcs] at h0
      exact hb.trans (h.bitMap j hj h0)
    · exact hb

lemma updTss_iobp (f : (ℕ → Byte) → ℕ → Byte) (k : Kernel) (q q' : Ptr) :
    ((k.updTss q fun t => { t with iobp := f t.iobp }).tss q').fin = (k.tss q').fin ∧
      ((k.updTss q fun t => { t with iobp := f t.iobp }).tss q').bitMap = (k.tss q').bitMap := by
  rw [updTss_tss]
  split
  · next he => rw [he]; exact ⟨rfl, rfl⟩
  · exact ⟨rfl, rfl⟩

lemma Inv.cambio {g : ℕ → ℕ → Bool} (h : Inv l (k, g)) (hp : p < 8 * TSS_PORT) {b : Bool}
    (hc : Cambio t p b k k') (hres : ∀ q, (k'.tss q).fin = (k.tss q).fin ∧
      (k'.tss q).bitMap = (k.tss q).bitMap) :
    Inv l (k', fun u q => if u = t ∧ q = p then !b else g u q) := by
  obtain ⟨d₀, n, hr, hpu⟩ := h.cargadas
  refine ⟨⟨d₀, n, hc.registro hr, by rw [hc.gdt]; exact hpu⟩, fun j hj q hq => ?_,
    fun j q hq => ?_, fun j hj => (hres _).1.trans (h.fin j hj), fun j hj h0 => ?_⟩
  · simp only
    rw [hc.iobp]
    split
    · cases b <;> simp
    · exact h.mapa j hj q hq
  · simp only
    rw [if_neg (by omega)]
    exact h.fuera j q hq
  · simp only at h0 ⊢
    rw [(hres _).2]
    rw [hc.cs] at h0
    exact h.bitMap j hj h0

/-- **The step lemma.** -/
lemma Inv.paso (h : Inv l s) {e : Evento} (hs : Paso l s e s') : Inv l s' := by
  obtain ⟨k, g⟩ := s
  obtain ⟨k', g'⟩ := s'
  obtain ⟨hp, rfl⟩ := hs
  obtain ⟨d₀, n, hr, hpu⟩ := h.cargadas
  cases hp with
  | carga hp => exact h.carga hp
  | @rport t p ht hp =>
    rcases eq_or_ne (k.rPort (p / 8)) 0#8 with h0 | h0
    · have he : setPort p { k with tIndice := t } = (-1, { k with tIndice := t }) := by
        rw [setPort_eq, if_pos h0]
      simp only [anotar, he]
      rw [if_neg (by decide)]
      exact ⟨⟨d₀, n, hr.congr (fun _ => rfl) rfl (fun _ => rfl) fun _ => rfl, hpu⟩, h.mapa, h.fuera,
        h.fin, h.bitMap⟩
    · obtain ⟨hok, hc⟩ := setPort_cambio hr ht h0
      simp only [anotar, hok, if_true]
      refine h.cambio hp hc fun q => ?_
      rw [setPort_eq, if_neg h0]
      exact updTss_iobp (fun m => erase m p) _ _ q
  | @urport t p ht hp =>
    obtain ⟨hok, hc⟩ := unsetPort_cambio (p := p) hr ht
    simp only [anotar, hok, if_true]
    refine h.cambio hp hc fun q => ?_
    rw [unsetPort_eq]
    exact updTss_iobp (fun m => mark m p) _ _ q

lemma run_inv (h : Reach (Inicial l) (Paso l) s) : Inv l s :=
  h.invariant (fun _ h => inicial_inv h) fun _ _ _ h hs => h.paso hs

/-! ### What the rule allows -/

lemma Inv.permite_iff (h : Inv l s) (ht : Tarea s.1 t) (hp : p < 2 ^ 16) : Permite l resto s.1 t p ↔
    (byteEn l resto s.1 (l.dirTss (some t) % 2 ^ 32 + (TSS_IOBP + p / 8))).getLsbD (p % 8) =
      false := by
  obtain ⟨d₀, n, hr, hpu⟩ := h.cargadas
  obtain ⟨hg, htt, hpar, hdesc, henl⟩ := Cargadas.enlazada ⟨n, hr, hpu⟩ ht
  have h100 : t < MAX_TASK := ht.1
  have hd : descriptor s.1 t = descTss (l.dirTss (some t)) := by
    rw [descriptor, henl.compuerta.2, hg, ← hdesc]
    congr 1
    omega
  have hcs : (s.1.tss (some t)).cs ≠ 0 :=
    (hr.tss t (by simp only [PARES, MAX_GDT, MAX_TASK] at hpar ⊢; omega)).mpr
      (hr.tarea_iff.mp ht).1
  have hm : lugarMapa l resto s.1 (l.dirTss (some t) % 2 ^ 32) = TSS_IOBP := by
    rw [lugarMapa, Nat.add_assoc, byteEn_propia h100 (by decide), byteEn_propia h100 (by decide),
      byteTss_bitMap, h.bitMap t h100 hcs]
    rfl
  unfold Permite
  simp only [hd, base_descTss, hm, limite_descTss]
  exact and_iff_right (by simp only [TSS_IOBP, TSS_LEN]; omega)

lemma Inv.permite_mapa (h : Inv l s) (ht : Tarea s.1 t) (hp : p < 8 * TSS_PORT) :
    Permite l resto s.1 t p ↔ s.2 t p = true := by
  have h100 : t < MAX_TASK := ht.1
  rw [h.permite_iff ht (by simp only [TSS_PORT] at hp; omega),
    byteEn_propia h100 (by simp only [TSS_PORT, TSS_IOBP, TSS_LEN] at hp ⊢; omega),
    byteTss_iobp _ (by omega)]
  exact h.mapa t h100 p hp

/-- The eight ports after the map are refused. -/
lemma Inv.permite_fin (h : Inv l s) (ht : Tarea s.1 t) (h1 : 8 * TSS_PORT ≤ p)
    (h2 : p < 8 * TSS_PORT + 8) : ¬ Permite l resto s.1 t p := by
  simp only [TSS_PORT] at h1 h2
  rw [h.permite_iff ht (by omega), byteEn_propia ht.1 (by simp only [TSS_IOBP, TSS_LEN]; omega),
    show p / 8 = TSS_PORT by simp only [TSS_PORT]; omega, byteTss_fin, h.fin t ht.1]
  have : p % 8 < 8 := Nat.mod_lt _ (by decide)
  interval_cases p % 8 <;> decide

/-- The 24 ports after those eight are allowed to every task. -/
lemma Inv.permite_relleno (h : Inv l s) (ht : Tarea s.1 t) (h1 : 8 * TSS_PORT + 8 ≤ p)
    (h2 : p < 8 * TSS_PORT + 32) : Permite l resto s.1 t p := by
  simp only [TSS_PORT] at h1 h2
  rw [h.permite_iff ht (by omega), byteEn_propia ht.1 (by simp only [TSS_IOBP, TSS_LEN]; omega),
    byteTss_relleno _ (by simp only [TSS_IOBP, TSS_PORT]; omega)]
  exact BitVec.getLsbD_zero

/-- **Ports only when granted.** In every state of every run, the processor lets a task use a
port only if the last call of the task on the port that succeeded granted it, just when the port
is of the map or of the byte of ones after it, or its bit is set in the byte at the same distance
from the TSS, of a later TSS or of what follows the table. For the three bytes in between the bit
is clear. -/
theorem puertos_concedidos (h : Reach (Inicial l) (Paso l) s) (ht : Tarea s.1 t) (hp : p < 2 ^ 16) :
    ((Permite l resto s.1 t p → s.2 t p = true) ↔ p < 8 * TSS_PORT + 8 ∨
      (byteEn l resto s.1 (l.dirTss (some t) % 2 ^ 32 + (TSS_IOBP + p / 8))).getLsbD (p % 8) =
        true) ∧
    (8 * TSS_PORT + 8 ≤ p → p < 8 * TSS_PORT + 32 →
      Permite l resto s.1 t p ∧ s.2 t p = false) := by
  have hi := run_inv h
  have hfuera : 8 * TSS_PORT ≤ p → s.2 t p = false := hi.fuera t p
  refine ⟨?_, fun h1 h2 => ⟨hi.permite_relleno ht h1 h2, hfuera (by omega)⟩⟩
  rcases Nat.lt_or_ge p (8 * TSS_PORT + 8) with hlt | hge
  · refine iff_of_true (fun hper => ?_) (Or.inl hlt)
    rcases Nat.lt_or_ge p (8 * TSS_PORT) with hmap | hfin
    · exact (hi.permite_mapa ht hmap).mp hper
    · exact absurd hper (hi.permite_fin ht hfin hlt)
  · rw [hi.permite_iff ht hp, hfuera (by omega), or_iff_right (by omega)]
    simp

/-! ### One user task -/

def unaTarea (l : Link) : Kernel :=
  (exec l 0x170000 0x171000 (fun _ => 0) (tresTareas l)).2

lemma unaTarea_spec (l : Link) : Reach (Inicial l) (Paso l) (unaTarea l, fun _ _ => false) ∧
    Tarea (unaTarea l) 3 := by
  have hcarga : ∀ {k k' : Kernel}, Reach (Inicial l) (Paso l) (k, fun _ _ => false) →
      Prepara l k k' → Reach (Inicial l) (Paso l) (k', fun _ _ => false) := fun hr hs =>
    hr.step (a := .carga) ⟨.carga hs, rfl⟩
  have h₀ : Reach (Inicial l) (Paso l)
      (iniTss (iniLdt l (Kernel.cargado fun _ => 0)), fun _ _ => false) :=
    .init ⟨⟨_, rfl, rfl⟩, rfl⟩
  have h₃ := hcarga (hcarga (hcarga h₀ (.execs 0 0 fun _ => 0)) (.execs 0 0 fun _ => 0))
    (.execs 0 0 fun _ => 0)
  have hreg : Registro 4 (unaTarea l) := cargar_registro USER_DS l _ (by decide)
    ((tresTareas_registro l).admite (by decide) (by decide)) (tresTareas_registro l)
  exact ⟨hcarga h₃ (.exec 0x170000 0x171000 fun _ => 0), hreg.tarea_iff.mpr (by decide)⟩

/-- The keyboard's port is refused to it. -/
theorem puertos_concedidos_teclado :
    (Permite enlace (fun _ => 0) (unaTarea enlace) 3 0x60 → (fun _ _ => false) 3 0x60 = true) ↔
      0x60 < 8 * TSS_PORT + 8 ∨
        (byteEn enlace (fun _ => 0) (unaTarea enlace)
          (enlace.dirTss (some 3) % 2 ^ 32 + (TSS_IOBP + 0x60 / 8))).getLsbD (0x60 % 8) = true :=
  (puertos_concedidos (unaTarea_spec enlace).1 (unaTarea_spec enlace).2 (by decide)).1

/-- Nobody has asked for port 2056, and the processor allows it. -/
theorem puerto_sin_pedir : ∃ s, Reach (Inicial enlace) (Paso enlace) s ∧ Tarea s.1 3 ∧
    Permite enlace (fun _ => 0) s.1 3 2056 ∧ s.2 3 2056 = false := by
  obtain ⟨hr, ht⟩ := unaTarea_spec enlace
  exact ⟨_, hr, ht, (run_inv hr).permite_relleno ht (by decide) (by decide), rfl⟩

end Silicio.IoMap
