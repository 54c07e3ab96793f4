import Silicio.Paging
import Silicio.Runs
import Silicio.Tasks

/-!
The task tables fill in order.

No task is ever taken out, so after `n` loads the tables are what `n` loads make them: the
first free slot, TSS and GDT entry are all known, and slot `t` holds TSS `t`. There is room
for 98 tasks; later loads find no gate and leave their slot empty.
-/

namespace Silicio.Registry

open Silicio.Loop Silicio.Bitmap Silicio.Defs Silicio.Mm Silicio.Paging Silicio.Runs Silicio.Tasks

/-- The pairs of entries in the GDT after the fixed ones. -/
abbrev PARES : ℕ := (MAX_GDT - 4) / 2

/-- The tables after `n` loads. -/
structure Registro (n : ℕ) (k : Kernel) : Prop where
  tss : ∀ j < MAX_TASK - 1, (k.tss (some j)).cs ≠ 0 ↔ j < n
  gdt : ∀ i, 4 ≤ i → i < MAX_GDT → ((k.gdt i).acceso ≠ 0 ↔ i < 4 + 2 * n)
  lugar : ∀ t < n, t < PARES → (k.rTareas t).task = 8 * (5 + 2 * t) ∧ (k.rTareas t).taskTss = some t
  libre : ∀ t < MAX_TASK, n ≤ t ∨ PARES ≤ t → (k.rTareas t).task = 0

def Tarea (k : Kernel) (t : ℕ) : Prop := t < MAX_TASK ∧ (k.rTareas t).task ≠ 0

variable {n : ℕ} {k k' : Kernel}

lemma Registro.tarea_iff (h : Registro n k) {t : ℕ} : Tarea k t ↔ t < n ∧ t < PARES := by
  constructor
  · rintro ⟨ht, h0⟩
    by_contra hc
    exact h0 (h.libre t ht (by omega))
  · rintro ⟨hn, hp⟩
    have := (h.lugar t hn hp).1
    exact ⟨by simp only [PARES, MAX_GDT, MAX_TASK] at hp ⊢; omega, by omega⟩

lemma Registro.taskTss (h : Registro n k) {t : ℕ} (ht : Tarea k t) :
    (k.rTareas t).taskTss = some t := by
  obtain ⟨hn, hp⟩ := h.tarea_iff.mp ht
  exact (h.lugar t hn hp).2

lemma Registro.tssOf (h : Registro n k) {t : ℕ} (ht : Tarea k t) : k.tssOf t = k.tss (some t) := by
  rw [Kernel.tssOf, h.taskTss ht]

lemma Registro.congr (h : Registro n k) (htss : ∀ p, (k'.tss p).cs = (k.tss p).cs)
    (hgdt : k'.gdt = k.gdt) (htask : ∀ t, (k'.rTareas t).task = (k.rTareas t).task)
    (htt : ∀ t, (k'.rTareas t).taskTss = (k.rTareas t).taskTss) : Registro n k' := by
  refine ⟨fun j hj => ?_, fun i h4 hi => ?_, fun t ht hp => ?_, fun t ht hor => ?_⟩
  · rw [htss]
    exact h.tss j hj
  · rw [hgdt]
    exact h.gdt i h4 hi
  · rw [htask, htt]
    exact h.lugar t ht hp
  · rw [htask]
    exact h.libre t ht hor

/-! ### What the searches find -/

lemma Registro.tssLibre (h : Registro n k) :
    tssLibre k.tss = if n < MAX_TASK - 1 then some n else none := by
  split
  · next hn =>
    refine tssLibre_eq_some.mpr ⟨hn, ?_, fun i hi => (h.tss i (by omega)).mpr hi⟩
    by_contra hc
    exact absurd ((h.tss n hn).mp hc) (by omega)
  · next hn => exact tssLibre_eq_none.mpr fun j hj => (h.tss j hj).mpr (by omega)

lemma Registro.descLibre (h : Registro n k) :
    descLibre k.gdt = if n < PARES then 4 + 2 * n else MAX_GDT := by
  simp only [PARES, MAX_GDT]
  split
  · next hn =>
    refine scan_eq (by omega) (by simp only [MAX_GDT]; omega) (fun i h4 hi => ?_) fun _ => ?_
    · have := (h.gdt i h4 (by simp only [MAX_GDT]; omega)).mpr (by omega)
      simpa using this
    · have := (h.gdt (4 + 2 * n) (by omega) (by simp only [MAX_GDT]; omega)).not.mpr (by omega)
      simpa using this
  · next hn =>
    refine scan_eq (by omega) (by simp only [MAX_GDT]; omega) (fun i h4 hi => ?_) fun hi => ?_
    · have := (h.gdt i h4 (by simp only [MAX_GDT]; omega)).mpr (by omega)
      simpa using this
    · simp only [MAX_GDT] at hi
      omega

lemma Registro.tareaLibre (h : Registro n k) : tareaLibre k.rTareas = min n PARES := by
  have hp : PARES < MAX_TASK := by decide
  refine tareaLibre_eq (by omega) (h.libre _ (by omega) (by omega)) fun t ht => ?_
  have := (h.lugar t (by omega) (by omega)).1
  omega

/-- **One more load**: whatever fills a TSS where `set_tss` looks, a descriptor where
`set_desc_tss` does and a slot where `tarea_libre` does leaves the tables of `n + 1` loads. -/
theorem Registro.alta (h : Registro n k) {c m : ℕ} {r : Run} (hc : c ≠ 0)
    (hcs : ∀ j, (k'.tss (some j)).cs =
      if Tasks.tssLibre k.tss = some j then c else (k.tss (some j)).cs)
    (hgdt : k'.gdt = (setDescTss m k.gdt).2) (htask : r.task = 8 * (setDescTss m k.gdt).1)
    (htt : r.taskTss = Tasks.tssLibre k.tss)
    (hrun : k'.rTareas = Function.update k.rTareas (Tasks.tareaLibre k.rTareas) r) :
    Registro (n + 1) k' := by
  have hlt : PARES < MAX_TASK - 1 := by decide
  have hpar : PARES = 98 := by decide
  have hgmax : MAX_GDT = 200 := rfl
  rw [h.tareaLibre] at hrun
  rw [h.tssLibre] at hcs htt
  have hdesc := h.descLibre
  refine ⟨fun j hj => ?_, fun i h4 hi => ?_, fun t ht hp => ?_, fun t ht hor => ?_⟩
  · rw [hcs]
    have hiff := h.tss j hj
    rcases eq_or_ne n j with rfl | hne
    · rw [if_pos hj, if_pos rfl]
      exact ⟨fun _ => by omega, fun _ => hc⟩
    · have hno : ¬ (if n < MAX_TASK - 1 then some n else none) = some j := by
        split
        · exact fun e => hne (Option.some.inj e)
        · exact fun e => by cases e
      rw [if_neg hno, hiff]
      omega
  · have hiff := h.gdt i h4 hi
    split at hdesc
    · next hn =>
      rw [hgdt, setDescTss_libre (by omega), hdesc]
      simp only [Function.update_apply]
      split_ifs with h1 h2
      · exact ⟨fun _ => by omega, fun _ => by simp [descPuerta]⟩
      · exact ⟨fun _ => by omega, fun _ => by simp [descTss]⟩
      · rw [hiff]
        omega
    · next hn =>
      rw [hgdt, setDescTss_lleno hdesc, hiff]
      omega
  · rw [hrun, Function.update_apply]
    split
    · next he =>
      obtain rfl : t = n := by omega
      rw [if_pos (by omega)] at hdesc htt
      rw [htask, htt, setDescTss_libre (by omega), hdesc]
      exact ⟨by omega, rfl⟩
    · next he => exact h.lugar t (by omega) hp
  · rw [hrun, Function.update_apply]
    split
    · next he =>
      rw [if_neg (by omega)] at hdesc
      rw [htask, setDescTss_lleno hdesc, Nat.mul_zero]
    · next he => exact h.libre t ht (by omega)

/-! ### The loads -/

lemma execs_registro (l : Link) (start pila : ℕ) (name : ℕ → Byte) (h : Registro n k) :
    Registro (n + 1) (execs l start pila name k).2 := by
  refine h.alta (c := KERNEL_CS) (m := l.dirTss (Tasks.tssLibre k.tss)) (by decide) (fun j => ?_)
    ?_ ?_ ?_ rfl
  · unfold execs
    simp only [setTss_fst, Function.update_apply, setTss_snd]
    rcases eq_or_ne (Tasks.tssLibre k.tss) (some j) with he | hne
    · rw [he]
      simp [tssNuevo]
    · simp [hne, hne.symm]
  · unfold execs
    simp only [setTss_fst]
  · simp only [setTss_fst]
    ring
  · simp only [setTss_fst]

lemma cargar_registro {cs : ℕ} (ds : ℕ) (l : Link) {start fin : ℕ} (name : ℕ → Byte)
    (hcs : cs ≠ 0) (ha : Admite start fin k) (h : Registro n k) :
    Registro (n + 1) (cargar cs ds l start fin name k).2 := by
  refine h.alta (c := cs) (m := l.dirTss (Tasks.tssLibre k.tss)) hcs (fun j => ?_)
    (cargar_gdt _ _ _ _ ha) ?_ ?_ (cargar_rTareas _ _ _ _ ha)
  · split
    · next he => exact (cargar_tss cs ds l name ha he).1
    · next he => rw [cargar_tss_of_ne _ _ _ _ ha (Ne.symm he)]
  · rfl
  · rfl

/-! ### After `ini_tss` -/

/-- What `ini_tss` clears, and what it does not touch. -/
structure Limpio (k k' : Kernel) : Prop where
  tss : ∀ i < MAX_TASK, k'.tss (some i) = clearTss (k.tss (some i))
  task : ∀ i < MAX_TASK, (k'.rTareas i).task = 0
  idDrv : ∀ i < MAX_DRIVERS, (k'.rDrv i).idDrv = 0
  rPort : ∀ i < TSS_PORT, k'.rPort i = 0xff#8
  gdt : k'.gdt = k.gdt
  mem : k'.mem = k.mem
  mm : k'.mm = k.mm

lemma iniTarea_loop (n : ℕ) (k : Kernel) :
    (∀ i < n, (loop iniTarea n k).tss (some i) = clearTss (k.tss (some i))) ∧
      (∀ i < n, ((loop iniTarea n k).rTareas i).task = 0) := by
  have key : (∀ i, (loop iniTarea n k).tss (some i) =
        if i < n then clearTss (k.tss (some i)) else k.tss (some i)) ∧
      (∀ i < n, ((loop iniTarea n k).rTareas i).task = 0) := by
    refine loop_rule (fun n (k' : Kernel) =>
      (∀ i, k'.tss (some i) = if i < n then clearTss (k.tss (some i)) else k.tss (some i)) ∧
      (∀ i < n, (k'.rTareas i).task = 0)) ?_ ?_
    · exact ⟨fun i => (if_neg (by omega)).symm, fun i hi => absurd hi (by omega)⟩
    · rintro i - k' ⟨ht, hr⟩
      refine ⟨fun j => ?_, fun j hj => ?_⟩
      · rw [iniTarea, updRun_tss, updTss_tss]
        rcases eq_or_ne j i with rfl | hne
        · rw [if_pos rfl, ht j, if_neg (by omega), if_pos (by omega)]
        · rw [if_neg (by simpa using hne), ht j]
          congr 1
          apply propext
          omega
      · rw [iniTarea, updRun_rTareas]
        split
        · rfl
        · exact hr j (by omega)
  exact ⟨fun i hi => (key.1 i).trans (if_pos hi), key.2⟩

lemma iniDrv_loop (n : ℕ) (k : Kernel) : ∀ i < n, ((loop iniDrv n k).rDrv i).idDrv = 0 := by
  refine loop_rule (fun n (k' : Kernel) => ∀ i < n, (k'.rDrv i).idDrv = 0)
    (fun i hi => absurd hi (by omega)) fun i _ k' h j hj => ?_
  rw [iniDrv, updDrv_rDrv]
  split
  · rfl
  · exact h j (by omega)

lemma iniTss_limpio (k : Kernel) : Limpio k (iniTss k) := by
  have ht := iniTarea_loop MAX_TASK k
  have hd := iniDrv_loop MAX_DRIVERS (loop iniTarea MAX_TASK k)
  have hdt : ∀ n k, (loop iniDrv n k).tss = k.tss ∧ (loop iniDrv n k).rTareas = k.rTareas :=
    fun n k => ⟨loop_frame (fun k : Kernel => k.tss) (fun i k => by rw [iniDrv, updDrv_tss]) n k,
      loop_frame (fun k : Kernel => k.rTareas) (fun i k => by rw [iniDrv, updDrv_rTareas]) n k⟩
  have hfr : ∀ {β : Type} (f : Kernel → β), (∀ i k, f (iniTarea i k) = f k) →
      (∀ i k, f (iniDrv i k) = f k) →
      f (loop iniDrv MAX_DRIVERS (loop iniTarea MAX_TASK k)) = f k := fun f h1 h2 =>
    (loop_frame f h2 _ _).trans (loop_frame f h1 _ _)
  refine ⟨fun i hi => ?_, fun i hi => ?_, hd, fun i hi => ?_, ?_, ?_, ?_⟩
  · refine (congrFun (hdt _ _).1 _).trans (ht.1 i hi)
  · exact (congrArg (fun r => (r i).task) (hdt _ _).2).trans (ht.2 i hi)
  · exact (loop_update (fun _ => 0xff#8) _ _ i).trans (if_pos hi)
  · exact hfr (fun k => k.gdt) (fun _ _ => rfl) (fun _ _ => rfl)
  · exact hfr (fun k => k.mem) (fun _ _ => rfl) (fun _ _ => rfl)
  · exact hfr (fun k => k.mm) (fun _ _ => rfl) (fun _ _ => rfl)

lemma iniTss_registro (hgdt : ∀ i, 4 ≤ i → i < MAX_GDT → (k.gdt i).acceso = 0) :
    Registro 0 (iniTss k) := by
  have h := iniTss_limpio k
  refine ⟨fun j hj => ?_, fun i h4 hi => ?_, fun t ht => absurd ht (by omega),
    fun t ht _ => h.task t ht⟩
  · rw [h.tss j (by omega)]
    simp [clearTss]
  · rw [h.gdt, hgdt i h4 hi]
    exact ⟨fun hc => absurd rfl hc, fun hc => by omega⟩

/-! ### Boots -/

lemma iniLdt_gdt (l : Link) (hg : k.gdt = gdtBoot) :
    ∀ i, 4 ≤ i → i < MAX_GDT → ((iniLdt l k).gdt i).acceso = 0 := by
  intro i h4 _
  unfold iniLdt setDescLdt
  simp only
  rw [Function.update_of_ne (by omega), hg]
  obtain ⟨j, rfl⟩ : ∃ j, i = j + 3 := ⟨i - 3, by omega⟩
  rfl

def Inicio (l : Link) (k : Kernel) : Prop :=
  ∃ k₀ : Kernel, k₀.gdt = gdtBoot ∧ k = iniTss (iniLdt l k₀)

/-- What `main` goes on to do: set up paging and load tasks. -/
inductive Prepara (l : Link) (k : Kernel) : Kernel → Prop
  | iniPag : Prepara l k (iniPag k)
  | execs (start pila : ℕ) (name : ℕ → Byte) : Prepara l k (execs l start pila name k).2
  | exec (start fin : ℕ) (name : ℕ → Byte) : Prepara l k (exec l start fin name k).2
  | execd (start fin : ℕ) (name : ℕ → Byte) : Prepara l k (execd l start fin name k).2

def Arranque (l : Link) : Kernel → Prop := Reach (Inicio l) fun k (_ : Unit) k' => Prepara l k k'

lemma Inicio.registro {l : Link} (h : Inicio l k) : Registro 0 k := by
  obtain ⟨k₀, hg, rfl⟩ := h
  exact iniTss_registro (iniLdt_gdt l hg)

lemma cargar_registro' {cs : ℕ} (ds : ℕ) (l : Link) (start fin : ℕ) (name : ℕ → Byte)
    (hcs : cs ≠ 0) (h : Registro n k) :
    ∃ m, n ≤ m ∧ m ≤ n + 1 ∧ Registro m (cargar cs ds l start fin name k).2 := by
  by_cases ha : Admite start fin k
  · exact ⟨n + 1, by omega, le_rfl, cargar_registro ds l name hcs ha h⟩
  · rw [cargar_rechazo _ _ _ _ ha]
    exact ⟨n, le_rfl, by omega, h⟩

lemma Prepara.registro {l : Link} (hs : Prepara l k k') (h : Registro n k) :
    ∃ m, n ≤ m ∧ m ≤ n + 1 ∧ Registro m k' := by
  cases hs with
  | iniPag => exact ⟨n, le_rfl, by omega, h.congr (fun _ => rfl) rfl (fun _ => rfl) fun _ => rfl⟩
  | execs start pila name => exact ⟨n + 1, by omega, le_rfl, execs_registro l start pila name h⟩
  | exec start fin name => exact cargar_registro' _ l start fin name (by decide) h
  | execd start fin name => exact cargar_registro' _ l start fin name (by decide) h

lemma Prepara.rDrv {l : Link} (hs : Prepara l k k') : k'.rDrv = k.rDrv := by
  cases hs with
  | iniPag => rfl
  | execs => rfl
  | exec => exact cargar_rDrv _ _ _ _
  | execd => exact cargar_rDrv _ _ _ _

lemma Arranque.idDrv {l : Link} (h : Arranque l k) : ∀ i < MAX_DRIVERS, (k.rDrv i).idDrv = 0 := by
  refine h.invariant (P := fun k => ∀ i < MAX_DRIVERS, (k.rDrv i).idDrv = 0) ?_ ?_
  · rintro k ⟨k₀, -, rfl⟩
    exact (iniTss_limpio _).idDrv
  · intro k _ k' hk hs
    rwa [hs.rDrv]

/-! ### The kernel's own tasks -/

def enlace : Link := ⟨0x13eac0, 0x14a640, 0x1197f8⟩

/-- The tables after `ini_ldt`, `ini_tss` and the three loads of the kernel's own tasks. -/
def tresTareas (l : Link) : Kernel :=
  let k := iniTss (iniLdt l (Kernel.cargado fun _ => 0))
  let k := (execs l 0 0 (fun _ => 0) k).2
  let k := (execs l 0 0 (fun _ => 0) k).2
  (execs l 0 0 (fun _ => 0) k).2

lemma tresTareas_registro (l : Link) : Registro 3 (tresTareas l) :=
  execs_registro _ _ _ _ (execs_registro _ _ _ _ (execs_registro _ _ _ _
    (iniTss_registro (iniLdt_gdt l rfl))))

/-- Once a task is in there is a slot other than 0 to load the next. -/
lemma Registro.admite (h : Registro n k) {start fin : ℕ} (hn : 0 < n)
    (hpag : cantPaginas start fin ≤ MAX_PAG_DRIVER) : Admite start fin k := by
  refine ⟨?_, hpag⟩
  rw [h.tareaLibre]
  have : 0 < PARES := by decide
  omega

end Silicio.Registry
