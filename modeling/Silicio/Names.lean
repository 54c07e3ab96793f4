import Silicio.Covers

/-!
The names of drivers, from `sys_reg` to `sys_open`.

`sys_reg` writes `/dev/` and a name, without a terminator, to a field of `MAX_STRING` bytes that
was all zeros; `sys_open` searches the fields with `strcmp`. A name that leaves a zero in its
field is found if no slot before has one as long. A name that fills the field runs on into the
number of the driver, and of a longer one nothing is written.

A run is followed here together with the names that were handed over in it.
-/

namespace Silicio.Names

open Silicio.Loop Silicio.Bitmap Silicio.Bytes Silicio.Defs Silicio.Mmu Silicio.Strings
open Silicio.Registry Silicio.Runs Silicio.Syscall Silicio.Layout Silicio.Effects
open Silicio.Turns
open Silicio.Driver hiding Evento Paso Inicial Inv
open Silicio.Opens (cadena)

/-! ### Strings -/

/-- The field that the name `w` leaves. -/
def grabado (w : ℕ → Byte) : ℕ → Byte := fun j =>
  if j < 5 then prefijo j
  else if 5 + strlen w ≤ MAX_STRING ∧ j < 5 + strlen w then w (j - 5) else 0

/-- How long `strlen` says the field is. -/
def largo (w : ℕ → Byte) : ℕ :=
  if 5 + strlen w < MAX_STRING then 5 + strlen w
  else if 5 + strlen w = MAX_STRING then MAX_STRING + 1
  else 5

def EsRuta (s w : ℕ → Byte) : Prop :=
  strlen s = 5 + strlen w ∧ (∀ j < 5, s j = prefijo j) ∧ ∀ j < strlen w, s (5 + j) = w j

variable {s w base : ℕ → Byte} {r : ℕ → Drv} {i : ℕ}

lemma prefijo_of_le {j : ℕ} (h : 5 ≤ j) : prefijo j = 0 := by
  obtain ⟨j, rfl⟩ := Nat.exists_eq_add_of_le' h
  rfl

lemma strlen_prefijo : strlen prefijo = 5 := strlen_of (by decide) rfl (by decide)

/-- `strcat` onto a field that holds the prefix and zeros. -/
lemma strcat_grabado (hb : ∀ j < MAX_STRING, base j = prefijo j) {j : ℕ} (hj : j < MAX_STRING) :
    (strcat base w).2 j = grabado w j := by
  have ha : strlen base = 5 := by
    refine strlen_of (by decide) ((hb 5 (by decide)).trans rfl) fun j hj => ?_
    rw [hb j (by simp only [MAX_STRING]; omega)]
    exact (by decide : ∀ j < 5, prefijo j ≠ 0) j hj
  have hw := strlen_lt w
  unfold strcat grabado
  simp only [ha]
  split
  · next h =>
    -- nothing is written
    refine (hb j hj).trans ?_
    split
    · rfl
    · next h5 =>
      rw [prefijo_of_le (by omega), if_neg]
      simp only [MAX_STRING] at h ⊢
      omega
  · next h =>
    simp only [MAX_STRING] at h hj ⊢
    split
    · exact hb j hj
    · next h5 =>
      rw [strcpy_apply]
      by_cases hin : j - 5 < strlen w ∧ strlen w ≤ MAX_STRING
      · rw [if_pos hin, if_pos]
        simp only [MAX_STRING] at hin
        omega
      · rw [if_neg hin, if_neg, show 5 + (j - 5) = j by omega, hb j hj, prefijo_of_le (by omega)]
        simp only [MAX_STRING] at hin
        omega

lemma bytesDrv_arch {j : ℕ} (hj : j < MAX_STRING) : bytesDrv r i j = (r i).arch j := by
  have h1 : j / DRV_LEN = 0 := by simp only [DRV_LEN, MAX_STRING] at hj ⊢; omega
  have h2 : j % DRV_LEN = j := by simp only [DRV_LEN, MAX_STRING] at hj ⊢; omega
  unfold bytesDrv byteDrv
  rw [h1, h2, if_pos hj]
  rfl

lemma bytesDrv_fin : bytesDrv r i MAX_STRING = BitVec.ofNat 8 (r i).idDrv ∧
    bytesDrv r i (MAX_STRING + 1) = BitVec.ofNat 8 ((r i).idDrv / 2 ^ 8) := by
  constructor
  · exact congrArg (BitVec.ofNat 8) (Nat.div_one _)
  · rfl

/-- **How long a name of the table is.** -/
lemma strlen_grabado (ha : ∀ j < MAX_STRING, (r i).arch j = grabado w j) (h0 : (r i).idDrv ≠ 0)
    (hid : (r i).idDrv < MAX_TASK) : strlen (bytesDrv r i) = largo w := by
  have hby : ∀ j < MAX_STRING, bytesDrv r i j = grabado w j := fun j hj =>
    (bytesDrv_arch hj).trans (ha j hj)
  have hpre : ∀ j < 5, bytesDrv r i j ≠ 0 := fun j hj => by
    rw [hby j (by simp only [MAX_STRING]; omega), grabado, if_pos hj]
    exact (by decide : ∀ j < 5, prefijo j ≠ 0) j hj
  have hw : ∀ j < strlen w, w j ≠ 0 := fun j hj =>
    antes_contar (lt_of_lt_of_le hj (strlen_le_contar w))
  have hnom : 5 + strlen w ≤ MAX_STRING → ∀ j < 5 + strlen w, bytesDrv r i j ≠ 0 := by
    intro hle j hj
    rcases Nat.lt_or_ge j 5 with h5 | h5
    · exact hpre j h5
    · rw [hby j (by omega), grabado, if_neg (by omega), if_pos ⟨hle, hj⟩]
      exact hw _ (by omega)
  unfold largo
  split_ifs with h1 h2
  · -- a zero is left in the field
    refine strlen_of (by simp only [MAX_STRING] at h1; omega) ?_ (hnom h1.le)
    rw [hby _ h1, grabado, if_neg (by omega), if_neg (by omega)]
  · -- the number of the driver is below 256
    obtain ⟨hf, hf1⟩ := bytesDrv_fin (r := r) (i := i)
    simp only [MAX_TASK] at hid
    refine strlen_of (by decide) ?_ fun j hj => ?_
    · rw [hf1, Nat.div_eq_of_lt (by omega)]
      rfl
    · rcases Nat.lt_or_ge j MAX_STRING with hlt | hge
      · exact hnom h2.le j (by omega)
      · obtain rfl : j = MAX_STRING := by omega
        rw [hf]
        intro hz
        have := congrArg BitVec.toNat hz
        rw [BitVec.toNat_ofNat, Nat.mod_eq_of_lt (by omega)] at this
        exact h0 this
  · refine strlen_of (by decide) ?_ hpre
    rw [hby 5 (by decide), grabado, if_neg (by decide), if_neg]
    omega

/-! ### Runs with names -/

abbrev Nombres := ℕ → Option (ℕ → Byte)

def anotar (k : Kernel) (e : Evento) (g : Nombres) : Nombres :=
  match e with
  | .llamada t r =>
    if r.eax = SYS_REG then
      match revisarReg r.ebx (entrar t r k) with
      | .inr i => Function.update g i (some (cadena k.mem (Covers.nombre t r k)))
      | .inl _ => g
    else g
  | _ => g

def Empieza (l : Link) (s : Maquina × Nombres) : Prop := Inicial l s.1 ∧ s.2 = fun _ => none

def Avanza (s : Maquina × Nombres) (e : Evento) (s' : Maquina × Nombres) : Prop :=
  Paso s.1 e s'.1 ∧ s'.2 = anotar s.1.1 e s.2

/-- A slot without a name is as the loader left it; one with a name has a driver, and the name
in its field. -/
structure Grabadas (k : Kernel) (g : Nombres) : Prop where
  libre : ∀ i < MAX_DRIVERS, g i = none →
    (k.rDrv i).idDrv = 0 ∧ ∀ j < MAX_STRING, (k.rDrv i).arch j = 0
  dado : ∀ i w, g i = some w → 3 ≤ i ∧ i < MAX_DRIVERS ∧ (k.rDrv i).idDrv ≠ 0 ∧
    ∀ j < MAX_STRING, (k.rDrv i).arch j = grabado w j

variable {k k' : Kernel} {reg : Regs} {t : ℕ} {g : Nombres} {m m' : Maquina × Nombres}

lemma llamar_libre (basura : ℕ → ℕ) (ht : t ≠ 0) (h0 : (k.rDrv i).idDrv = 0)
    (hno : ¬ (reg.eax = SYS_REG ∧ revisarReg reg.ebx (entrar t reg k) = .inr i)) :
    (llamar basura t reg k).rDrv i = k.rDrv i := by
  rcases (llamar_efecto basura t reg k).ranura i with hd | ⟨ha, -⟩ | ⟨-, hi, hid⟩
  · exact hd
  · exact absurd h0 (acepta_dueno ha).2.1
  · -- the slot has got an owner, and only a registration gives one
    have h1 : (estado (llamar basura t reg k)).dueno i = some t :=
      dueno_eq_some.mpr ⟨(revisarReg_inr hi).2.1, ht, hid⟩
    have h2 : (estado k).dueno i = none := if_neg fun hc => hc.2 h0
    rw [estado_llamar basura ht] at h1
    cases hac : accion reg (entrar t reg k) with
    | registrar l =>
      obtain ⟨heax, hl⟩ := accion_registrar.mp hac
      exact absurd ⟨heax, hi⟩ hno
    | _ =>
      rw [hac] at h1
      simp only [Protocol.paso, h2] at h1
      cases h1

lemma llamar_arch (basura : ℕ → ℕ) (hr : reg.eax = SYS_REG)
    (h : revisarReg reg.ebx (entrar t reg k) = .inr i)
    (hz : ∀ j < MAX_STRING, (k.rDrv i).arch j = 0) {j : ℕ} (hj : j < MAX_STRING) :
    ((llamar basura t reg k).rDrv i).arch j =
      grabado (cadena k.mem (Covers.nombre t reg k)) j := by
  rw [llamar_eq, despachar_reg basura hr]
  unfold guardar sysReg
  rw [h]
  simp only [updTss_rDrv, Kernel.updStatus, updRun_rDrv, updDrv_rDrv, if_true, entrar_rDrv,
    entrar_mem, entrar_tIndice]
  refine strcat_grabado (fun l hl => ?_) hj
  rw [bytesDrv_arch hl, Function.update_self]
  simp only
  rw [strcpy_apply, strlen_prefijo]
  split
  · rfl
  · next h5 =>
    rw [hz l hl, prefijo_of_le]
    simp only [MAX_STRING] at h5
    omega

lemma Grabadas.registra (h : Grabadas k g) (basura : ℕ → ℕ) (ht : t ≠ 0) (hr : reg.eax = SYS_REG)
    (hi : revisarReg reg.ebx (entrar t reg k) = .inr i) : Grabadas (llamar basura t reg k)
      (Function.update g i (some (cadena k.mem (Covers.nombre t reg k)))) := by
  obtain ⟨h3, h10, h0, -⟩ := revisarReg_inr hi
  obtain ⟨-, hotros, arch, hslot⟩ := llamar_registro basura hr hi
  have hz : ∀ j < MAX_STRING, (k.rDrv i).arch j = 0 := by
    cases hg : g i with
    | none => exact (h.libre i h10 hg).2
    | some w => exact absurd h0 (h.dado i w hg).2.2.1
  refine ⟨fun j hj hn => ?_, fun j w hw => ?_⟩
  · rcases eq_or_ne j i with rfl | hji
    · rw [Function.update_self] at hn
      cases hn
    · rw [Function.update_of_ne hji] at hn
      rw [hotros j hji]
      exact h.libre j hj hn
  · rcases eq_or_ne j i with rfl | hji
    · rw [Function.update_self] at hw
      obtain rfl := Option.some.inj hw
      refine ⟨h3, h10, ?_, fun l hl => llamar_arch basura hr hi hz hl⟩
      rwa [hslot]
    · rw [Function.update_of_ne hji] at hw
      rw [hotros j hji]
      exact h.dado j w hw

lemma Grabadas.llamada (h : Grabadas k g) (basura : ℕ → ℕ) (ht : t ≠ 0)
    (hno : ∀ i, ¬ (reg.eax = SYS_REG ∧ revisarReg reg.ebx (entrar t reg k) = .inr i)) :
    Grabadas (llamar basura t reg k) g := by
  refine ⟨fun i h10 hn => ?_, fun i w hw => ?_⟩
  · obtain ⟨h0, hz⟩ := h.libre i h10 hn
    rw [llamar_libre basura ht h0 (hno i)]
    exact ⟨h0, hz⟩
  · obtain ⟨h3, h10, h0, ha⟩ := h.dado i w hw
    obtain ⟨b, c, e, hd⟩ := Paso.ranura (s := (k, some t)) (.llamada basura) h0
    rw [hd]
    exact ⟨h3, h10, h0, ha⟩

lemma Grabadas.anotar (h : Grabadas k g) (basura : ℕ → ℕ) (ht : t ≠ 0) :
    Grabadas (llamar basura t reg k) (anotar k (.llamada t reg) g) := by
  unfold Names.anotar
  simp only
  split
  · next hr =>
    split
    · next i hi => exact h.registra basura ht hr hi
    · next e he => exact h.llamada basura ht fun i hi => by rw [hi.2] at he; cases he
  · next hr => exact h.llamada basura ht fun i hi => hr hi.1

lemma empieza_grabadas {l : Link} (h : Empieza l m) : Grabadas m.1.1 m.2 := by
  obtain ⟨⟨k, hk, hm⟩, hg⟩ := h
  obtain ⟨-, -, -, -, hvacia⟩ := cargado_spec hk
  have hd : ∀ i < MAX_DRIVERS, m.1.1.rDrv i = ranuraVacia := by
    rw [hm]
    exact hvacia
  rw [hg]
  refine ⟨fun i h10 _ => ?_, fun i w hw => by cases hw⟩
  rw [hd i h10]
  exact ⟨rfl, fun _ _ => rfl⟩

/-- **The step lemma.** -/
lemma Grabadas.avanza {e : Evento} {n : ℕ} (h : Grabadas m.1.1 m.2) (hn : Turns.Inv n m.1)
    (hs : Avanza m e m') : Grabadas m'.1.1 m'.2 := by
  obtain ⟨⟨k, o⟩, g⟩ := m
  obtain ⟨s', g'⟩ := m'
  obtain ⟨hp, rfl⟩ := hs
  cases hp with
  | turno => exact ⟨h.libre, h.dado⟩
  | @llamada _ t r basura =>
    have ht := (hn.turno t rfl).1.1
    exact h.anotar basura (by omega)
  | setPort =>
    rw [Ports.setPort_eq]
    split
    · exact h
    · exact ⟨h.libre, h.dado⟩
  | unsetPort =>
    rw [Ports.unsetPort_eq]
    exact ⟨h.libre, h.dado⟩
  | escritura =>
    unfold escribir
    split
    · exact ⟨h.libre, h.dado⟩
    · exact h

/-- **In every run the fields hold the names that were handed over.** -/
theorem run_grabadas {l : Link} (h : Reach (Empieza l) Avanza m) :
    (∃ n, Turns.Inv n m.1) ∧ Grabadas m.1.1 m.2 := by
  refine h.invariant (P := fun m => (∃ n, Turns.Inv n m.1) ∧ Grabadas m.1.1 m.2) ?_ ?_
  · exact fun m hm => ⟨inicial_inv hm.1, empieza_grabadas hm⟩
  · rintro m e m' ⟨⟨n, hn⟩, hg⟩ hs
    exact ⟨⟨n, hn.paso hs.1⟩, hg.avanza hn hs⟩

/-! ### The search -/

/-- The strings of a call pass the checks of `sys_open`, which comes to search the table. -/
structure Llega (ebx ecx : ℕ) (k : Kernel) : Prop where
  ruta : checkAddr ebx k.tIndice k ≠ 0
  llena : strlen (cadena k.mem (checkAddr ebx k.tIndice k)) ≠ 0
  fin : checkAddr ((ebx + strlen (cadena k.mem (checkAddr ebx k.tIndice k))) % 2 ^ 32)
    k.tIndice k ≠ 0
  modo : checkAddr ecx k.tIndice k ≠ 0
  llenoModo : strlen (cadena k.mem (checkAddr ecx k.tIndice k)) ≠ 0
  finModo : checkAddr ((ecx + strlen (cadena k.mem (checkAddr ecx k.tIndice k))) % 2 ^ 32)
    k.tIndice k ≠ 0

variable {ebx ecx : ℕ} {basura : ℕ → ℕ}

lemma Llega.sysOpen (h : Llega ebx ecx k) : (sysOpen basura ebx ecx k).1 =
    let i := scan (fun i => strcmp (basura i) (bytesDrv k.rDrv i)
      (cadena k.mem (checkAddr ebx k.tIndice k)) == 0) (MAX_DRIVERS - 3) 3
    if i = MAX_DRIVERS then (-7 : ℤ) else i := by
  rw [Opens.sysOpen_eq]
  simp only [if_neg h.ruta, if_neg h.llena, if_neg h.fin, if_neg h.modo, if_neg h.llenoModo,
    if_neg h.finModo]

lemma sysOpen_corto (h : ¬ Llega ebx ecx k) : (sysOpen basura ebx ecx k).1 < 0 := by
  rw [Opens.sysOpen_eq]
  simp only
  split_ifs with h1 h2 h3 h4 h5 h6 h7
  all_goals try decide
  exact absurd ⟨h1, h2, h3, h4, h5, h6⟩ h

lemma Llega.encuentra (h : Llega ebx ecx k) (h3 : 3 ≤ i) (h10 : i < MAX_DRIVERS) :
    (Syscall.sysOpen basura ebx ecx k).1 = i ↔
      strcmp (basura i) (bytesDrv k.rDrv i) (cadena k.mem (checkAddr ebx k.tIndice k)) = 0 ∧
      ∀ j, 3 ≤ j → j < i → strcmp (basura j) (bytesDrv k.rDrv j)
        (cadena k.mem (checkAddr ebx k.tIndice k)) ≠ 0 := by
  rw [h.sysOpen]
  constructor
  · intro he
    simp only at he
    split at he
    · omega
    · next hne =>
      have he := Int.ofNat_inj.mp he
      have hlt : i < 3 + (MAX_DRIVERS - 3) := by simp only [MAX_DRIVERS] at h10 ⊢; omega
      refine ⟨?_, fun j hj3 hji => ?_⟩
      · have := at_scan (by rwa [he])
        rw [he] at this
        exact beq_iff_eq.mp this
      · have := before_scan hj3 (by rwa [he])
        exact beq_eq_false_iff_ne.mp this
  · rintro ⟨hi, hno⟩
    simp only
    rw [Opens.busca_en h3 h10 ⟨h3, h10, hno⟩ hi, if_neg h10.ne]

lemma Llega.falta (h : Llega ebx ecx k) : (Syscall.sysOpen basura ebx ecx k).1 < 0 ↔
    ∀ j, 3 ≤ j → j < MAX_DRIVERS → strcmp (basura j) (bytesDrv k.rDrv j)
      (cadena k.mem (checkAddr ebx k.tIndice k)) ≠ 0 := by
  constructor
  · intro hneg j h3 h10
    rw [h.sysOpen] at hneg
    simp only at hneg
    split at hneg
    · next he =>
      rw [← he] at h10
      have := before_scan h3 h10
      exact beq_eq_false_iff_ne.mp this
    · omega
  · intro hno
    rw [h.sysOpen]
    simp only
    rw [if_pos]
    · decide
    · exact scan_eq (by decide) (by decide) (fun j h3 h10 => beq_eq_false_iff_ne.mpr (hno j h3 h10))
        fun hlt => absurd hlt (by decide)

/-- With a zero on the stack `strcmp` looks at lengths only. -/
lemma strcmp_cero {buf : ℕ → Byte} (h0 : strlen s ≠ 0) :
    strcmp 0 buf s = 0 ↔ strlen buf = strlen s := by
  rw [strcmp_eq_zero]
  exact ⟨fun h => h.2.1, fun he => ⟨by rwa [he], he, Or.inr rfl⟩⟩

lemma strcmp_distinto {buf : ℕ → Byte} {n : ℕ} (h : strlen buf ≠ strlen s) :
    strcmp n buf s ≠ 0 := fun hc => h (strcmp_eq_zero.mp hc).2.1

/-- **Whatever the stack holds the path is found in slot `i`** just when it is the name there and
no slot before has a name as long. -/
lemma Llega.siempre (h : Llega ebx ecx k) (h3 : 3 ≤ i) (h10 : i < MAX_DRIVERS) :
    (∀ basura, (Syscall.sysOpen basura ebx ecx k).1 = i) ↔
      Opens.Igual k (cadena k.mem (checkAddr ebx k.tIndice k)) i ∧
      ∀ j, 3 ≤ j → j < i → strlen (bytesDrv k.rDrv j) ≠
        strlen (cadena k.mem (checkAddr ebx k.tIndice k)) := by
  constructor
  · intro hall
    obtain ⟨h1, -⟩ := (h.encuentra h3 h10).mp (hall fun _ => 1)
    obtain ⟨-, h0⟩ := (h.encuentra h3 h10).mp (hall fun _ => 0)
    refine ⟨((Opens.strcmp_ranura h.llena _).mp h1).resolve_right fun hd => one_ne_zero hd.2,
      fun j hj hji he => h0 j hj hji ((strcmp_cero h.llena).mpr he)⟩
  · rintro ⟨hi, hno⟩ basura
    exact (h.encuentra h3 h10).mpr ⟨(Opens.strcmp_ranura h.llena _).mpr (Or.inl hi),
      fun j hj hji => strcmp_distinto (hno j hj hji)⟩

/-- **Whatever the stack holds it is found nowhere** just when no slot has a name as long. -/
lemma Llega.nunca (h : Llega ebx ecx k) :
    (∀ basura, (Syscall.sysOpen basura ebx ecx k).1 < 0) ↔
      ∀ j, 3 ≤ j → j < MAX_DRIVERS → strlen (bytesDrv k.rDrv j) ≠
        strlen (cadena k.mem (checkAddr ebx k.tIndice k)) := by
  constructor
  · intro hall j hj h10 he
    exact h.falta.mp (hall fun _ => 0) j hj h10 ((strcmp_cero h.llena).mpr he)
  · intro hno basura
    exact h.falta.mpr fun j hj h10 => strcmp_distinto (hno j hj h10)

/-! ### The strings of the caller -/

/-- Task `t` has the string `p` at `v`: the string ends, it is what the task reads there in pages
it may write, and these follow one another in memory too, not from address 0 on. -/
structure Suya (k : Kernel) (t v : ℕ) (p : ℕ → Byte) : Prop where
  termina : contar p < 0xffffffff
  escribe : ∀ j ≤ contar p, UserWrite k.mem (k.tssOf t).cr3 ((v + j) % 2 ^ 32)
  bytes : ∀ j ≤ contar p, rd8 k.mem (phys k.mem (k.tssOf t).cr3 ((v + j) % 2 ^ 32)) = p j
  seguida : ∀ j ≤ contar p, phys k.mem (k.tssOf t).cr3 ((v + j) % 2 ^ 32) =
    (phys k.mem (k.tssOf t).cr3 (v % 2 ^ 32) + j) % 2 ^ 32
  cero : ∀ j ≤ contar p, phys k.mem (k.tssOf t).cr3 ((v + j) % 2 ^ 32) ≠ 0

variable {v : ℕ} {p : ℕ → Byte}

lemma Suya.checkAddr (h : Suya k t v p) {j : ℕ} (hj : j ≤ contar p) :
    Syscall.checkAddr ((v + j) % 2 ^ 32) t k = phys k.mem (k.tssOf t).cr3 ((v + j) % 2 ^ 32) := by
  rw [Walk.checkAddr_eq, if_pos (userWrite_iff.mp (h.escribe j hj)).2]

/-- **The kernel reads the caller's string.** -/
theorem Suya.lee (h : Suya k t v p) (hv : v < 2 ^ 32) : Syscall.checkAddr v t k ≠ 0 ∧
    (∀ j ≤ contar p, cadena k.mem (Syscall.checkAddr v t k) j = p j) ∧
    strlen (cadena k.mem (Syscall.checkAddr v t k)) = strlen p ∧
    Syscall.checkAddr ((v + strlen p) % 2 ^ 32) t k ≠ 0 := by
  have h0 := h.checkAddr (Nat.zero_le _)
  rw [Nat.add_zero, Nat.mod_eq_of_lt hv] at h0
  have hb : ∀ j ≤ contar p, cadena k.mem (Syscall.checkAddr v t k) j = p j := fun j hj => by
    rw [← h.bytes j hj, h.seguida j hj, Nat.mod_eq_of_lt hv, h0]
    unfold Opens.cadena
    rw [rd8, rd8, Nat.mod_mod]
  have hn := strlen_le_contar p
  refine ⟨?_, hb, strlen_congr hb, ?_⟩
  · have := h.cero 0 (Nat.zero_le _)
    rw [Nat.add_zero, Nat.mod_eq_of_lt hv] at this
    rwa [h0]
  · rw [h.checkAddr hn]
    exact h.cero _ hn

lemma llega_de {q : ℕ → Byte} (hp : Suya k k.tIndice ebx p) (hq : Suya k k.tIndice ecx q)
    (hb : ebx < 2 ^ 32) (hc : ecx < 2 ^ 32) (hp0 : strlen p ≠ 0) (hq0 : strlen q ≠ 0) :
    Llega ebx ecx k := by
  obtain ⟨h1, -, h2, h3⟩ := hp.lee hb
  obtain ⟨h4, -, h5, h6⟩ := hq.lee hc
  exact ⟨h1, by rwa [h2], by rwa [h2], h4, by rwa [h5], by rwa [h5]⟩

/-! ### The round trip -/

lemma Grabadas.strlen (h : Grabadas k g) {n : ℕ} {o : Option ℕ} (hn : Turns.Inv n (k, o))
    {w : ℕ → Byte} (hw : g i = some w) : Strings.strlen (bytesDrv k.rDrv i) = largo w := by
  obtain ⟨-, h10, h0, ha⟩ := h.dado i w hw
  exact strlen_grabado ha h0 ((hn.ranuras.dueno i h10).resolve_left h0).2.1

lemma Grabadas.vacia (h : Grabadas k g) (h10 : i < MAX_DRIVERS) (hg : g i = none) :
    Strings.strlen (bytesDrv k.rDrv i) = 0 := by
  refine strlen_of (by decide) ?_ fun j hj => absurd hj (Nat.not_lt_zero j)
  rw [bytesDrv_arch (by decide)]
  exact (h.libre i h10 hg).2 0 (by decide)

lemma Grabadas.largos (h : Grabadas k g) {n : ℕ} {o : Option ℕ} (hn : Turns.Inv n (k, o))
    (h0 : Strings.strlen s ≠ 0) {b : ℕ} (hb : b ≤ MAX_DRIVERS) :
    (∀ j, 3 ≤ j → j < b → Strings.strlen (bytesDrv k.rDrv j) ≠ Strings.strlen s) ↔
      ∀ j < b, ∀ w, g j = some w → largo w ≠ Strings.strlen s := by
  constructor
  · intro hall j hj w hw
    rw [← h.strlen hn hw]
    exact hall j (h.dado j w hw).1 hj
  · intro hall j _ hj
    cases hw : g j with
    | none =>
      rw [h.vacia (by omega) hw]
      exact h0.symm
    | some w =>
      rw [h.strlen hn hw]
      exact hall j hj w hw

/-- A slot has the path in its field just when the field has room for it and a zero. -/
lemma Grabadas.igual (h : Grabadas k g) {n : ℕ} {o : Option ℕ} (hn : Turns.Inv n (k, o))
    {w : ℕ → Byte} (hw : g i = some w) (hs : EsRuta s w) :
    Opens.Igual k s i ↔ 5 + Strings.strlen w < MAX_STRING := by
  have hl := h.strlen hn hw
  obtain ⟨hlen, hpre, hnom⟩ := hs
  constructor
  · rintro ⟨he, -⟩
    rw [hl, hlen] at he
    unfold largo at he
    simp only [MAX_STRING] at he ⊢
    split_ifs at he <;> omega
  · intro hlt
    have he : largo w = 5 + Strings.strlen w := if_pos hlt
    refine ⟨by rw [hl, hlen, he], fun j hj => ?_⟩
    rw [hlen] at hj
    rw [bytesDrv_arch (by omega), (h.dado i w hw).2.2.2 j (by omega)]
    unfold grabado
    split
    · next h5 => exact (hpre j h5).symm
    · next h5 =>
      rw [if_pos ⟨hlt.le, hj⟩, ← hnom (j - 5) (by omega), show 5 + (j - 5) = j by omega]

/-- **Register, then open.** In every state of every run, an open of `/dev/` and a name handed
over by a driver gives its slot just when the field has room for the name with a zero, and no
driver in a slot before has a name as long; an open of any other path fails just when no driver
has a name as long. The strings are those `sys_open` reads, which are the caller's. A step that is
not `Contenido` is taken to leave the slots alone. -/
theorem registrar_abrir {l : Link} (h : Reach (Empieza l) Avanza m) (t : ℕ) (reg : Regs) :
    let k := entrar t reg m.1.1
    let s := cadena k.mem (checkAddr reg.ebx t k)
    (∀ p q, Suya k t reg.ebx p → Suya k t reg.ecx q → reg.ebx < 2 ^ 32 → reg.ecx < 2 ^ 32 →
      strlen p ≠ 0 → strlen q ≠ 0 →
        Llega reg.ebx reg.ecx k ∧ strlen s = strlen p ∧ ∀ j < strlen p, s j = p j) ∧
    (∀ i w, m.2 i = some w → EsRuta s w → Llega reg.ebx reg.ecx k →
      ((∀ basura, (sysOpen basura reg.ebx reg.ecx k).1 = i) ↔
        5 + strlen w < MAX_STRING ∧ ∀ j < i, ∀ w', m.2 j = some w' → largo w' ≠ 5 + strlen w)) ∧
    ((∀ i w, m.2 i = some w → ¬ EsRuta s w) →
      ((∀ basura, (sysOpen basura reg.ebx reg.ecx k).1 < 0) ↔
        (Llega reg.ebx reg.ecx k → ∀ i w, m.2 i = some w → largo w ≠ strlen s))) := by
  intro k s
  obtain ⟨⟨n, hn⟩, hg⟩ := run_grabadas h
  refine ⟨fun p q hp hq hb hc hp0 hq0 => ?_, fun i w hw hs hL => ?_, fun _ => ?_⟩
  · obtain ⟨-, hbytes, hlen, -⟩ := hp.lee hb
    exact ⟨llega_de hp hq hb hc hp0 hq0, hlen,
      fun j hj => hbytes j (hj.le.trans (strlen_le_contar p))⟩
  · obtain ⟨h3, h10, -, -⟩ := hg.dado i w hw
    rw [hL.siempre h3 h10]
    refine and_congr (hg.igual hn hw hs) ?_
    rw [← hs.1]
    exact hg.largos hn hL.llena h10.le
  · constructor
    · intro hneg hL i w hw
      exact (hg.largos hn hL.llena le_rfl).mp (hL.nunca.mp hneg) i (hg.dado i w hw).2.1 w hw
    · intro hall basura
      by_cases hL : Llega reg.ebx reg.ecx k
      · exact hL.nunca.mpr ((hg.largos hn hL.llena le_rfl).mpr fun j _ => hall hL j) basura
      · exact sysOpen_corto hL

/-! ### A name of `n` letters -/

/-- As `memTres`, with a name of `n` letters for the driver, its path in the module of task 4, and
a mode there. -/
def memNombre (n : ℕ) : Mem := fun x =>
  if 0x170800 ≤ x ∧ x < 0x170800 + n then 0x61
  else if 0x171000 ≤ x ∧ x < 0x171005 then prefijo (x - 0x171000)
  else if 0x171005 ≤ x ∧ x < 0x171005 + n then 0x61
  else if x = 0x171800 then 0x72
  else memTres x

def abrir : Regs := ⟨SYS_OPEN, 0x300000, 0x300800, 0⟩

def corrida (k : Kernel) : Maquina × Nombres :=
  (Scene.conductor Transfer.reg k, Function.update (fun _ => none) 3 (some (cadena k.mem 0x170800)))

section
variable {n : ℕ} {k : Kernel}

lemma corrida_otro {j : ℕ} (hj : j ≠ 3) : (corrida k).2 j = none := by
  simp only [corrida]
  rw [Function.update_of_ne hj]

lemma corrida_nombre : (corrida k).2 3 = some (cadena k.mem 0x170800) := by
  simp only [corrida]
  rw [Function.update_self]

lemma memNombre_resto {x : ℕ} (hx : x < 0x170800) : memNombre n x = memTres x := by
  unfold memNombre
  rw [if_neg (by omega), if_neg (by omega), if_neg (by omega), if_neg (by omega)]

lemma memNombre_cero {x : ℕ} (h1 : 0x170800 + n ≤ x) (h2 : x < 0x171000 ∨ 0x171005 + n ≤ x)
    (h3 : x ≠ 0x171800) : memNombre n x = 0 := by
  unfold memNombre memTres
  rw [if_neg (by omega), if_neg (by omega), if_neg (by omega), if_neg (by omega), if_neg (by omega),
    if_neg (by omega), if_neg (by omega), if_neg (by omega), if_neg (by omega)]

lemma registra_nombre : Scene.Registra (memNombre n) 0 0x800 0x400 16 := by
  have hw : ∀ a < 0x170100, rd32 (memNombre n) a = rd32 memTres a := fun a ha =>
    rd32_congr fun c hc => by
      rw [rd8, rd8]
      exact memNombre_resto (by omega)
  exact ⟨by decide, ⟨(hw _ (by decide)).trans (by decide), by decide⟩,
    (hw _ (by decide)).trans (by decide), (hw _ (by decide)).trans (by decide), by decide⟩

variable (h : Scene.Escenario (memNombre n) k)
include h

lemma corrida_reach : Reach (Empieza enlace) Avanza (corrida k) := by
  have hm := registra_nombre (n := n)
  have h0 : Reach (Empieza enlace) Avanza ((k, none), fun _ => none) := .init ⟨h.inicial, rfl⟩
  have h1 : Reach (Empieza enlace) Avanza (Scene.turno 3 (k, none), fun _ => none) :=
    h0.step (a := .turno 3) ⟨h.paso_tres.paso, rfl⟩
  have hnota : anotar (Scene.turno 3 (k, none)).1 (.llamada 3 Transfer.reg) (fun _ => none) =
      Function.update (fun _ => none) 3 (some (cadena k.mem 0x170800)) := by
    unfold anotar
    simp only
    rw [if_pos (show Transfer.reg.eax = SYS_REG from rfl), h.registra hm rfl,
      (Covers.turno_param h hm rfl).2]
    rfl
  have h2 : Reach (Empieza enlace) Avanza (Scene.llama 3 Transfer.reg (Scene.turno 3 (k, none)),
      Function.update (fun _ => none) 3 (some (cadena k.mem 0x170800))) :=
    h1.step (a := .llamada 3 Transfer.reg)
      ⟨(Scene.paso_llama rfl (Scene.contenida_reg rfl)).paso, hnota.symm⟩
  exact h2.step (a := .turno 4) ⟨(h.paso_cuatro hm rfl rfl).paso, rfl⟩

variable (hn : n ≤ 1019)
include hn

lemma nombre_bytes : strlen (cadena k.mem 0x170800) = n ∧
    ∀ j < n, cadena k.mem 0x170800 j = 0x61 := by
  have hlet : ∀ j < n, cadena k.mem 0x170800 j = 0x61 := fun j hj => by
    rw [Opens.escenario_cadena h (by omega)]
    exact if_pos ⟨by omega, by omega⟩
  refine ⟨strlen_of (by omega) ?_ fun j hj => ?_, hlet⟩
  · rw [Opens.escenario_cadena h (by omega)]
    exact memNombre_cero le_rfl (Or.inl (by omega)) (by omega)
  · rw [hlet j hj]
    decide

lemma ruta_bytes : EsRuta (cadena k.mem 0x171000) (cadena k.mem 0x170800) := by
  obtain ⟨hlen, hlet⟩ := nombre_bytes h hn
  have hpre : ∀ j < 5, cadena k.mem 0x171000 j = prefijo j := fun j hj => by
    rw [Opens.escenario_cadena h (by omega), memNombre, if_neg (by omega), if_pos (by omega),
      Nat.add_sub_cancel_left]
  have hnom : ∀ j < n, cadena k.mem 0x171000 (5 + j) = 0x61 := fun j hj => by
    rw [Opens.escenario_cadena h (by omega), memNombre, if_neg (by omega), if_neg (by omega),
      if_pos (by omega)]
  refine ⟨?_, hpre, fun j hj => ?_⟩
  · rw [hlen]
    refine strlen_of (by omega) ?_ fun j hj => ?_
    · rw [Opens.escenario_cadena h (by omega)]
      exact memNombre_cero (by omega) (Or.inr (by omega)) (by omega)
    · rcases Nat.lt_or_ge j 5 with h5 | h5
      · rw [hpre j h5]
        exact (by decide : ∀ j < 5, prefijo j ≠ 0) j h5
      · rw [show j = 5 + (j - 5) by omega, hnom _ (by omega)]
        decide
  · rw [hlen] at hj
    rw [hnom j hj, hlet j hj]

lemma modo_bytes : strlen (cadena k.mem 0x171800) = 1 := by
  refine strlen_of (by decide) ?_ fun j hj => ?_
  · rw [Opens.escenario_cadena h (by decide)]
    exact memNombre_cero (by omega) (Or.inr (by omega)) (by decide)
  · obtain rfl : j = 0 := by omega
    rw [Opens.escenario_cadena h (by decide), memNombre, if_neg (by omega), if_neg (by omega),
      if_neg (by omega), if_pos rfl]
    decide

lemma corrida_abre : let k₁ := entrar 4 abrir (corrida k).1.1
    k₁.mem = k.mem ∧ checkAddr abrir.ebx 4 k₁ = 0x171000 ∧ Llega abrir.ebx abrir.ecx k₁ := by
  intro k₁
  obtain ⟨-, hmem, -, -, -, hv⟩ := h.conduce registra_nombre (r := Transfer.reg) rfl rfl
  have hk := hv.trans (View.vecino_entrar 4 abrir)
  have hve : ∀ off < 4096, checkAddr (0x300000 + off) 4 k₁ = 0x171000 + off := fun off hoff =>
    (h.usuario hk (c := 1) (by decide) hoff).2.2
  have hm : k₁.mem = k.mem := hmem
  have h1 : checkAddr abrir.ebx 4 k₁ = 0x171000 := hve 0 (by decide)
  have h2 : checkAddr abrir.ecx 4 k₁ = 0x171800 := hve 0x800 (by decide)
  have hlen : strlen (cadena k.mem 0x171000) = 5 + n := by
    rw [(ruta_bytes h hn).1, (nombre_bytes h hn).1]
  have hfin : (abrir.ebx + (5 + n)) % 2 ^ 32 = 0x300000 + (5 + n) :=
    Nat.mod_eq_of_lt (by simp only [abrir]; omega)
  refine ⟨hm, h1, ?_, ?_, ?_, ?_, ?_, ?_⟩ <;> rw [entrar_tIndice]
  · rw [h1]
    decide
  · rw [h1, hm, hlen]
    omega
  · rw [h1, hm, hlen, hfin, hve _ (by omega)]
    omega
  · rw [h2]
    decide
  · rw [h2, hm, modo_bytes h hn]
    decide
  · rw [h2, hm, modo_bytes h hn]
    exact ne_of_eq_of_ne (hve 0x801 (by decide)) (by decide)

lemma corrida_ruta : let k₁ := entrar 4 abrir (corrida k).1.1
    EsRuta (cadena k₁.mem (checkAddr abrir.ebx 4 k₁)) (cadena k.mem 0x170800) := by
  intro k₁
  obtain ⟨hm, h1, -⟩ := corrida_abre h hn
  rw [hm, h1]
  exact ruta_bytes h hn

end

def inicio (n : ℕ) : Kernel := Boot.soltarVideo (nucleoCon (memNombre n) 3)

lemma letra_cabe {k : Kernel} (h : Scene.Escenario (memNombre 1) k) :
    5 + strlen (cadena k.mem 0x170800) < MAX_STRING ∧
      ∀ j < 3, ∀ w, (corrida k).2 j = some w → largo w ≠ 5 + strlen (cadena k.mem 0x170800) := by
  refine ⟨?_, fun j hj w hw => ?_⟩
  · rw [(nombre_bytes h (by decide)).1]
    decide
  · rw [corrida_otro (by omega)] at hw
    cases hw

/-- A name of one letter is found. -/
theorem registrar_abrir_letra : (sysOpen (fun _ => 0) abrir.ebx abrir.ecx
    (entrar 4 abrir (corrida (inicio 1)).1.1)).1 = (3 : ℕ) := by
  have h := Scene.escenario (memNombre 1)
  exact ((registrar_abrir (corrida_reach h) 4 abrir).2.1 3 _ rfl (corrida_ruta h (by decide))
    (corrida_abre h (by decide)).2.2).mpr (letra_cabe h) (fun _ => 0)

lemma justo_falta {k : Kernel} (h : Scene.Escenario (memNombre 1019) k) (basura : ℕ → ℕ) :
    (sysOpen basura abrir.ebx abrir.ecx (entrar 4 abrir (corrida k).1.1)).1 < 0 := by
  obtain ⟨⟨n, hn⟩, hg⟩ := run_grabadas (corrida_reach h)
  obtain ⟨-, -, hL⟩ := corrida_abre h le_rfl
  obtain ⟨hlen, -, -⟩ := corrida_ruta h le_rfl
  refine hL.nunca.mpr ((hg.largos hn hL.llena le_rfl).mpr fun j _ w hw => ?_) basura
  obtain rfl : j = 3 := by
    by_contra hj
    rw [corrida_otro hj] at hw
    cases hw
  rw [corrida_nombre] at hw
  obtain rfl := Option.some.inj hw
  -- it is one byte longer in the table
  refine ne_of_ne_of_eq ?_ hlen.symm
  rw [largo, (nombre_bytes h le_rfl).1]
  decide

/-- A name that fills its field is not found. -/
theorem nombre_justo :
    Reach (Empieza enlace) Avanza (corrida (inicio 1019)) ∧
      (corrida (inicio 1019)).2 3 = some (cadena (inicio 1019).mem 0x170800) ∧
      EsRuta (cadena (entrar 4 abrir (corrida (inicio 1019)).1.1).mem
        (checkAddr abrir.ebx 4 (entrar 4 abrir (corrida (inicio 1019)).1.1)))
          (cadena (inicio 1019).mem 0x170800) ∧
      Llega abrir.ebx abrir.ecx (entrar 4 abrir (corrida (inicio 1019)).1.1) ∧
      ∀ basura, (sysOpen basura abrir.ebx abrir.ecx
        (entrar 4 abrir (corrida (inicio 1019)).1.1)).1 < 0 := by
  have h := Scene.escenario (memNombre 1019)
  exact ⟨corrida_reach h, corrida_nombre, corrida_ruta h le_rfl, (corrida_abre h le_rfl).2.2,
    justo_falta h⟩

end Silicio.Names
