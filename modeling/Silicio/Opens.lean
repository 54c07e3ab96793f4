import Silicio.Scene

/-!
What `sys_open` looks at.

Both strings are measured by `strlen` in physical memory before anything but their first byte has
been checked, and where a name of the driver table has the length of the path and other bytes,
`strcmp` returns what it finds on the stack.
-/

namespace Silicio.Opens

open Silicio.Loop Silicio.Bitmap Silicio.Bytes Silicio.Defs Silicio.Mmu Silicio.Strings
open Silicio.Registry Silicio.Runs Silicio.Syscall Silicio.Walk

/-- A byte that a call looks at: of memory, or of the driver table counted from its start. -/
inductive Lectura
  | mem (x : ℕ)
  | drv (y : ℕ)

def cadena (m : Mem) (a : ℕ) : ℕ → Byte := fun j => rd8 m (a + j)

/-- What `strlen` looks at: the string and its terminator. `strcmp` looks at no more. -/
def deCadena (m : Mem) (a : ℕ) : Set Lectura :=
  {e | ∃ j ≤ contar (cadena m a), e = .mem ((a + j) % 2 ^ 32)}

/-- What `strlen` looks at in the name of slot `i`. -/
def deRanura (r : ℕ → Drv) (i : ℕ) : Set Lectura :=
  {e | ∃ j ≤ contar (bytesDrv r i), e = .drv (DRV_LEN * i + j)}

/-- The slots the search comes to. -/
def Visita (basura : ℕ → ℕ) (k : Kernel) (s1 : ℕ → Byte) (i : ℕ) : Prop :=
  3 ≤ i ∧ i < MAX_DRIVERS ∧
    ∀ j, 3 ≤ j → j < i → strcmp (basura j) (bytesDrv k.rDrv j) s1 ≠ 0

/-- What `sys_open` looks at, but for page tables. -/
def lecturas (basura : ℕ → ℕ) (ebx ecx : ℕ) (k : Kernel) : Set Lectura :=
  let t := k.tIndice
  let var1 := checkAddr ebx t k
  let s1 := cadena k.mem var1
  if var1 = 0 then ∅
  else deCadena k.mem var1 ∪
    if strlen s1 = 0 ∨ checkAddr ((ebx + strlen s1) % 2 ^ 32) t k = 0 then ∅
    else
      let var2 := checkAddr ecx t k
      let s2 := cadena k.mem var2
      if var2 = 0 then ∅
      else deCadena k.mem var2 ∪
        if strlen s2 = 0 ∨ checkAddr ((ecx + strlen s2) % 2 ^ 32) t k = 0 then ∅
        else {e | ∃ i, Visita basura k s1 i ∧ e ∈ deRanura k.rDrv i}

/-- A byte the caller may see, or one of the driver table. -/
def Permitida (k : Kernel) : Lectura → Prop
  | .mem x => Accesible k k.tIndice (x / 4096)
  | .drv y => y < DRV_LEN * MAX_DRIVERS

/-- To the caller the two states look the same: its page tables, the bytes it may see, and the
driver table. -/
structure Acuerdan (k k' : Kernel) : Prop where
  tIndice : k'.tIndice = k.tIndice
  pde : ∀ v < 2 ^ 32,
    pde k'.mem (k'.tssOf k.tIndice).cr3 v = pde k.mem (k.tssOf k.tIndice).cr3 v
  pte : ∀ v < 2 ^ 32,
    pte k'.mem (k'.tssOf k.tIndice).cr3 v = pte k.mem (k.tssOf k.tIndice).cr3 v
  mem : ∀ x < 2 ^ 32, Accesible k k.tIndice (x / 4096) → rd8 k'.mem x = rd8 k.mem x
  rDrv : ∀ i < MAX_DRIVERS, k'.rDrv i = k.rDrv i

/-- `sys_open` tells the caller nothing it may not see, whatever the stack holds. -/
def Discreta (ebx ecx : ℕ) (k : Kernel) : Prop :=
  (∀ basura, ∀ e ∈ lecturas basura ebx ecx k, Permitida k e) ∧
    ∀ k', Acuerdan k k' → ∀ basura basura',
      (sysOpen basura' ebx ecx k').1 = (sysOpen basura ebx ecx k).1

/-! ### The condition -/

/-- The string at `a` and its terminator lie in pages the caller may write. -/
def Propia (k : Kernel) (a : ℕ) : Prop :=
  ∀ j ≤ contar (cadena k.mem a), Accesible k k.tIndice ((a + j) % 2 ^ 32 / 4096)

def Igual (k : Kernel) (s1 : ℕ → Byte) (i : ℕ) : Prop :=
  strlen (bytesDrv k.rDrv i) = strlen s1 ∧ ∀ j < strlen s1, bytesDrv k.rDrv i j = s1 j

/-- Slot `i` has another name of the same length. -/
def Dudosa (k : Kernel) (s1 : ℕ → Byte) (i : ℕ) : Prop :=
  strlen (bytesDrv k.rDrv i) = strlen s1 ∧ ∃ j < strlen s1, bytesDrv k.rDrv i j ≠ s1 j

/-- Up to the slot whose name is the path, each name ends in the table and none is another of
the same length. -/
def Clara (k : Kernel) (s1 : ℕ → Byte) : Prop :=
  ∀ i, 3 ≤ i → i < MAX_DRIVERS → (∀ j, 3 ≤ j → j < i → ¬ Igual k s1 j) →
    DRV_LEN * i + contar (bytesDrv k.rDrv i) < DRV_LEN * MAX_DRIVERS ∧ ¬ Dudosa k s1 i

/-- Each string that `sys_open` comes to measure is the caller's, and the table is clear if it
comes to search it. -/
def Correcta (ebx ecx : ℕ) (k : Kernel) : Prop :=
  let t := k.tIndice
  let s1 := cadena k.mem (checkAddr ebx t k)
  let s2 := cadena k.mem (checkAddr ecx t k)
  checkAddr ebx t k ≠ 0 → Propia k (checkAddr ebx t k) ∧
    (strlen s1 ≠ 0 → checkAddr ((ebx + strlen s1) % 2 ^ 32) t k ≠ 0 → checkAddr ecx t k ≠ 0 →
      Propia k (checkAddr ecx t k) ∧
        (strlen s2 ≠ 0 → checkAddr ((ecx + strlen s2) % 2 ^ 32) t k ≠ 0 → Clara k s1))

variable {k k' : Kernel} {ebx ecx : ℕ} {basura basura' : ℕ → ℕ} {s1 s1' : ℕ → Byte} {a i : ℕ}

/-! ### The search -/

/-- `strcmp` against slot `i`: 0 for the path itself, anything for another name as long. -/
lemma strcmp_ranura (h0 : strlen s1 ≠ 0) (n : ℕ) : strcmp n (bytesDrv k.rDrv i) s1 = 0 ↔
    Igual k s1 i ∨ Dudosa k s1 i ∧ n = 0 := by
  rw [strcmp_eq_zero]
  constructor
  · rintro ⟨hne, he, hall⟩
    by_cases hi : ∀ j < strlen s1, bytesDrv k.rDrv i j = s1 j
    · exact Or.inl ⟨he, hi⟩
    · rw [he] at hall
      exact Or.inr ⟨⟨he, by simpa using hi⟩, hall.resolve_left hi⟩
  · rintro (⟨he, hall⟩ | ⟨⟨he, -⟩, hn⟩)
    · exact ⟨by rwa [he], he, Or.inl (by rwa [he])⟩
    · exact ⟨by rwa [he], he, Or.inr hn⟩

lemma bytesDrv_congr (h : ∀ i < MAX_DRIVERS, k'.rDrv i = k.rDrv i) {j : ℕ}
    (hj : DRV_LEN * i + j < DRV_LEN * MAX_DRIVERS) :
    bytesDrv k'.rDrv i j = bytesDrv k.rDrv i j := by
  unfold bytesDrv
  rw [h]
  simp only [DRV_LEN, MAX_STRING, MAX_DRIVERS] at hj ⊢
  omega

/-- **The search finds the same slot** in both states. -/
lemma busqueda (hr : ∀ i < MAX_DRIVERS, k'.rDrv i = k.rDrv i) (h0 : strlen s1 ≠ 0)
    (hs : ∀ j ≤ contar s1, s1' j = s1 j) (hc : Clara k s1) :
    scan (fun i => strcmp (basura' i) (bytesDrv k'.rDrv i) s1' == 0) (MAX_DRIVERS - 3) 3 =
      scan (fun i => strcmp (basura i) (bytesDrv k.rDrv i) s1 == 0) (MAX_DRIVERS - 3) 3 := by
  refine scan_congr_hasta fun i h3 h10 hno => ?_
  have hi : i < MAX_DRIVERS := by simp only [MAX_DRIVERS] at h10 ⊢; omega
  obtain ⟨hdentro, hdud⟩ := hc i h3 hi fun j hj hji hig => by
    have := hno j hj hji
    rw [beq_eq_false_iff_ne] at this
    exact this ((strcmp_ranura h0 _).mpr (Or.inl hig))
  have hbuf : ∀ j ≤ contar (bytesDrv k.rDrv i), bytesDrv k'.rDrv i j = bytesDrv k.rDrv i j :=
    fun j hj => bytesDrv_congr hr (by omega)
  have hl1 := strlen_congr hs
  have hlb := strlen_congr hbuf
  have hle := strlen_le_contar s1
  have hle' := strlen_le_contar (bytesDrv k.rDrv i)
  have hiff : strcmp (basura' i) (bytesDrv k'.rDrv i) s1' = 0 ↔ Igual k s1 i := by
    rw [strcmp_ranura (by rwa [hl1])]
    constructor
    · rintro (⟨he, hall⟩ | ⟨⟨he, j, hj, hd⟩, -⟩)
      · rw [hlb, hl1] at he
        rw [hl1] at hall
        exact ⟨he, fun j hj => by rw [← hbuf j (by omega), hall j hj, hs j (by omega)]⟩
      · rw [hlb, hl1] at he
        rw [hl1] at hj
        rw [hbuf j (by omega), hs j (by omega)] at hd
        exact absurd ⟨he, j, hj, hd⟩ hdud
    · rintro ⟨he, hall⟩
      refine Or.inl ⟨by rw [hlb, hl1, he], fun j hj => ?_⟩
      rw [hl1] at hj
      rw [hbuf j (by omega), hall j hj, hs j (by omega)]
  rw [Bool.eq_iff_iff, beq_iff_eq, beq_iff_eq, hiff, strcmp_ranura h0]
  exact ⟨Or.inl, fun h => h.resolve_right fun hd => hdud hd.1⟩

/-! ### Two states -/

section
variable (h : Acuerdan k k')
include h

lemma Acuerdan.checkAddr {v : ℕ} (hv : v < 2 ^ 32) :
    checkAddr v k'.tIndice k' = checkAddr v k.tIndice k := by
  rw [h.tIndice, checkAddr_eq, checkAddr_eq, phys_eq, phys_eq, h.pte v hv]

lemma Acuerdan.cadena (hp : Propia k a) {j : ℕ} (hj : j ≤ contar (Opens.cadena k.mem a)) :
    Opens.cadena k'.mem a j = Opens.cadena k.mem a j := by
  have := h.mem ((a + j) % 2 ^ 32) (Nat.mod_lt _ (by decide)) (hp j hj)
  unfold Opens.cadena
  rw [rd8, rd8, Nat.mod_mod] at this
  exact this

lemma Acuerdan.strlen (hp : Propia k a) :
    strlen (Opens.cadena k'.mem a) = strlen (Opens.cadena k.mem a) :=
  strlen_congr fun _ hj => h.cadena hp hj

end

lemma sysOpen_eq (basura : ℕ → ℕ) (ebx ecx : ℕ) (k : Kernel) :
    let t := k.tIndice
    let s1 := cadena k.mem (checkAddr ebx t k)
    let s2 := cadena k.mem (checkAddr ecx t k)
    (sysOpen basura ebx ecx k).1 =
      if checkAddr ebx t k = 0 then (-1 : ℤ)
      else if strlen s1 = 0 then -2
      else if checkAddr ((ebx + strlen s1) % 2 ^ 32) t k = 0 then -3
      else if checkAddr ecx t k = 0 then -4
      else if strlen s2 = 0 then -5
      else if checkAddr ((ecx + strlen s2) % 2 ^ 32) t k = 0 then -6
      else
        let i := scan (fun i => strcmp (basura i) (bytesDrv k.rDrv i) s1 == 0) (MAX_DRIVERS - 3) 3
        if i = MAX_DRIVERS then -7 else (i : ℤ) := by
  intro t s1 s2
  unfold sysOpen
  simp only [apply_ite Prod.fst]
  rfl

/-- **When the condition holds** nothing that is not the caller's is read. -/
lemma lecturas_permitidas (hc : Correcta ebx ecx k) :
    ∀ e ∈ lecturas basura ebx ecx k, Permitida k e := by
  intro e he
  unfold lecturas at he
  simp only at he
  split at he
  · cases he
  · next h1 =>
    obtain ⟨hp1, hc⟩ := hc h1
    rcases he with ⟨j, hj, rfl⟩ | he
    · exact hp1 j hj
    · split at he
      · cases he
      · next hs1 =>
        rw [not_or] at hs1
        split at he
        · cases he
        · next h2 =>
          obtain ⟨hp2, hc⟩ := hc hs1.1 hs1.2 h2
          rcases he with ⟨j, hj, rfl⟩ | he
          · exact hp2 j hj
          · split at he
            · cases he
            · next hs2 =>
              rw [not_or] at hs2
              obtain ⟨i, ⟨h3, h10, hno⟩, j, hj, rfl⟩ := he
              have := (hc hs2.1 hs2.2 i h3 h10 fun j hj hji hig =>
                hno j hj hji ((strcmp_ranura hs1.1 _).mpr (Or.inl hig))).1
              exact lt_of_le_of_lt (Nat.add_le_add_left hj _) this

lemma sysOpen_igual (hb : ebx < 2 ^ 32) (hx : ecx < 2 ^ 32) (hc : Correcta ebx ecx k)
    (h : Acuerdan k k') : (sysOpen basura' ebx ecx k').1 = (sysOpen basura ebx ecx k).1 := by
  rw [sysOpen_eq, sysOpen_eq]
  simp only [h.checkAddr hb, h.checkAddr hx]
  split
  · rfl
  · next h1 =>
    obtain ⟨hp1, hc⟩ := hc h1
    rw [h.strlen hp1, h.checkAddr (Nat.mod_lt _ (by decide))]
    split
    · rfl
    · next hs1 =>
      split
      · rfl
      · next he1 =>
        split
        · rfl
        · next h2 =>
          obtain ⟨hp2, hc⟩ := hc hs1 he1 h2
          rw [h.strlen hp2, h.checkAddr (Nat.mod_lt _ (by decide))]
          split
          · rfl
          · next hs2 =>
            split
            · rfl
            · next he2 =>
              rw [busqueda h.rDrv hs1 (fun j hj => h.cadena hp1 hj) (hc hs2 he2)]

/-! ### The other direction -/

/-- What the search returns tells whether it stopped at slot `i`. -/
lemma busca_en (h3 : 3 ≤ i) (h10 : i < MAX_DRIVERS) (hv : Visita basura k s1 i)
    (hi : strcmp (basura i) (bytesDrv k.rDrv i) s1 = 0) :
    scan (fun i => strcmp (basura i) (bytesDrv k.rDrv i) s1 == 0) (MAX_DRIVERS - 3) 3 = i := by
  refine scan_eq h3 (by simp only [MAX_DRIVERS] at h10 ⊢; omega) (fun l h1 h2 => ?_) fun _ => ?_
  · exact beq_eq_false_iff_ne.mpr (hv.2.2 l h1 h2)
  · exact beq_iff_eq.mpr hi

/-- If nothing leaks, the table is clear whenever it is searched. -/
lemma clara_de (h : Discreta ebx ecx k) (h1 : checkAddr ebx k.tIndice k ≠ 0)
    (hs1 : s1 = cadena k.mem (checkAddr ebx k.tIndice k)) (h0 : strlen s1 ≠ 0)
    (he1 : checkAddr ((ebx + strlen s1) % 2 ^ 32) k.tIndice k ≠ 0)
    (h2 : checkAddr ecx k.tIndice k ≠ 0)
    (h02 : strlen (cadena k.mem (checkAddr ecx k.tIndice k)) ≠ 0)
    (he2 : checkAddr ((ecx + strlen (cadena k.mem (checkAddr ecx k.tIndice k))) % 2 ^ 32)
      k.tIndice k ≠ 0) : Clara k s1 := by
  subst hs1
  intro i h3 h10 hno
  -- with ones on the stack the search comes to slot `i`
  have hv : Visita (fun _ => 1) k (cadena k.mem (checkAddr ebx k.tIndice k)) i :=
    ⟨h3, h10, fun j hj hji hs => (hno j hj hji) (((strcmp_ranura h0 1).mp hs).resolve_right
      fun hd => one_ne_zero hd.2)⟩
  constructor
  · refine h.1 (fun _ => 1) (.drv _) ?_
    unfold lecturas
    simp only
    rw [if_neg h1, if_neg (by rw [not_or]; exact ⟨h0, he1⟩), if_neg h2,
      if_neg (by rw [not_or]; exact ⟨h02, he2⟩)]
    exact Or.inr (Or.inr ⟨i, hv, _, le_rfl, rfl⟩)
  · intro hd
    -- a zero there stops it, and a one does not
    have hv' : Visita (fun j => if j = i then 0 else 1) k
        (cadena k.mem (checkAddr ebx k.tIndice k)) i := by
      refine ⟨h3, h10, fun j hj hji => ?_⟩
      simp only [if_neg hji.ne]
      exact hv.2.2 j hj hji
    have hstop := busca_en h3 h10 hv' ((strcmp_ranura h0 _).mpr (Or.inr ⟨hd, if_pos rfl⟩))
    have heq := h.2 k ⟨rfl, fun _ _ => rfl, fun _ _ => rfl, fun _ _ _ => rfl, fun _ _ => rfl⟩
      (fun _ => 1) (fun j => if j = i then 0 else 1)
    rw [sysOpen_eq, sysOpen_eq] at heq
    simp only [if_neg h1, if_neg h0, if_neg he1, if_neg h2, if_neg h02, if_neg he2] at heq
    rw [hstop, if_neg h10.ne] at heq
    have hat := at_scan (p := fun i => strcmp 1 (bytesDrv k.rDrv i)
      (cadena k.mem (checkAddr ebx k.tIndice k)) == 0) (n := MAX_DRIVERS - 3) (i := 3)
    split at heq
    · omega
    · rw [← Int.ofNat_inj.mp heq] at hat
      have hi := beq_iff_eq.mp (hat (by simp only [MAX_DRIVERS] at h10 ⊢; omega))
      rcases (strcmp_ranura h0 1).mp hi with hig | hd'
      · obtain ⟨-, j, hj, hne⟩ := hd
        exact hne (hig.2 j hj)
      · exact one_ne_zero hd'.2

/-- **`sys_open` leaks nothing** just when each string it measures, terminator included, lies in
the caller's pages, and up to the slot named as the path no name of the table runs past its end
or is another name of the same length. -/
theorem sys_open_discreta (hb : ebx < 2 ^ 32) (hx : ecx < 2 ^ 32) :
    Discreta ebx ecx k ↔ Correcta ebx ecx k := by
  refine ⟨fun h => ?_, fun hc => ⟨fun basura => lecturas_permitidas hc,
    fun k' hk basura basura' => sysOpen_igual hb hx hc hk⟩⟩
  intro h1
  have hmem : ∀ x, .mem x ∈ lecturas (fun _ => 1) ebx ecx k → Accesible k k.tIndice (x / 4096) :=
    fun x hx => h.1 (fun _ => 1) (.mem x) hx
  refine ⟨fun j hj => hmem _ ?_, fun h0 he1 h2 => ⟨fun j hj => hmem _ ?_, fun h02 he2 => ?_⟩⟩
  · unfold lecturas
    simp only
    rw [if_neg h1]
    exact Or.inl ⟨j, hj, rfl⟩
  · unfold lecturas
    simp only
    rw [if_neg h1, if_neg (by rw [not_or]; exact ⟨h0, he1⟩), if_neg h2]
    exact Or.inr (Or.inl ⟨j, hj, rfl⟩)
  · exact clara_de h h1 rfl h0 he1 h2 h02 he2

lemma escenario_cadena {m : Mem} {k : Kernel} (h : Scene.Escenario m k) {a j : ℕ}
    (hj : a + j < 0x174000) : cadena k.mem a j = m (a + j) := by
  refine (h.mem (by omega) (by omega)).trans ?_
  rw [rd8, Nat.mod_eq_of_lt (by omega)]

/-! ### A path that names a slot -/

/-- The path `fd` and the mode `r` are in the first module. -/
def memRuta : Mem := fun x =>
  if x = 0x170100 then 0x66 else if x = 0x170101 then 0x64 else if x = 0x170200 then 0x72 else 0

def nombrada (s : List Byte) (t : ℕ) : Drv :=
  { Turns.ranuraVacia with arch := fun j => s.getD j 0, idDrv := t }

/-- Task 3 has the processor; slot 3 is `par`, of task 4, and slot 4 is `fd`, of task 5. -/
def conNombres (k : Kernel) : Kernel :=
  { (Scene.turno 3 (k, none)).1 with
    rDrv := fun i => if i = 3 then nombrada [0x70, 0x61, 0x72] 4
      else if i = 4 then nombrada [0x66, 0x64] 5 else Turns.ranuraVacia }

lemma bytesDrv_nombrada {k : Kernel} {j : ℕ} (hj : j < MAX_STRING) {i : ℕ} {s : List Byte} {t : ℕ}
    (hi : (conNombres k).rDrv i = nombrada s t) :
    bytesDrv (conNombres k).rDrv i j = s.getD j 0 := by
  have hd : j / DRV_LEN = 0 := Nat.div_eq_of_lt (by simp only [MAX_STRING, DRV_LEN] at hj ⊢; omega)
  have hm : j % DRV_LEN = j := Nat.mod_eq_of_lt (by simp only [MAX_STRING, DRV_LEN] at hj ⊢; omega)
  unfold bytesDrv byteDrv
  rw [hd, hm, Nat.add_zero, if_pos hj, hi]
  rfl

section
variable {k : Kernel} (h : Scene.Escenario memRuta k)
include h

lemma ruta_checkAddr {o : ℕ} (ho : o < 4096) :
    checkAddr (0x300000 + o) 3 (conNombres k) = 0x170000 + o := by
  have hv : View.Vecino (Layout.tresCon memRuta) Scene.historia k (conNombres k) :=
    ⟨marco_resto _ _ _ _, fun _ _ _ => rfl⟩
  exact (h.usuario hv (c := 0) (by decide) ho).2.2

lemma ruta_strlen {o n : ℕ} (hn : o + n < 4096) (h0 : memRuta (0x170000 + o + n) = 0)
    (hno : ∀ j < n, memRuta (0x170000 + o + j) ≠ 0) :
    strlen (cadena (conNombres k).mem (0x170000 + o)) = n := by
  refine strlen_of (by omega) ?_ fun j hj => ?_
  · exact (escenario_cadena h (by omega)).trans h0
  · exact ne_of_eq_of_ne (escenario_cadena h (by omega)) (hno j hj)

lemma ruta_propia {o : ℕ} (hs : strlen (cadena (conNombres k).mem (0x170000 + o)) ≠ 0)
    (ho : o + strlen (cadena (conNombres k).mem (0x170000 + o)) < 4096) :
    Propia (conNombres k) (0x170000 + o) := by
  intro j hj
  rw [contar_de_strlen hs] at hj
  rw [show (0x170000 + o + j) % 2 ^ 32 / 4096 = 368 by omega]
  exact h.propia (c := 0) (by decide)

/-- The search passes `par`, which is longer, and stops at `fd`. -/
lemma ruta_nombres : strlen (bytesDrv (conNombres k).rDrv 3) = 3 ∧
    strlen (cadena (conNombres k).mem 0x170100) = 2 ∧
    strlen (cadena (conNombres k).mem 0x170200) = 1 ∧
    Igual (conNombres k) (cadena (conNombres k).mem 0x170100) 4 := by
  have h3 : ∀ j < MAX_STRING, bytesDrv (conNombres k).rDrv 3 j = _ := fun j hj =>
    bytesDrv_nombrada hj (i := 3) rfl
  have h4 : ∀ j < MAX_STRING, bytesDrv (conNombres k).rDrv 4 j = _ := fun j hj =>
    bytesDrv_nombrada hj (i := 4) rfl
  have hp : strlen (cadena (conNombres k).mem 0x170100) = 2 :=
    ruta_strlen h (o := 0x100) (by decide) (by decide) (by decide)
  refine ⟨?_, hp, ruta_strlen h (o := 0x200) (by decide) (by decide) (by decide), ?_⟩
  · refine strlen_of (by decide) (h3 3 (by decide)) fun j hj => ?_
    rw [h3 j (by simp only [MAX_STRING]; omega)]
    interval_cases j <;> decide
  · rw [Igual, hp]
    refine ⟨strlen_of (by decide) (h4 2 (by decide)) fun j hj => ?_, fun j hj => ?_⟩
    · rw [h4 j (by simp only [MAX_STRING]; omega)]
      interval_cases j <;> decide
    · rw [h4 j (by simp only [MAX_STRING]; omega)]
      refine Eq.trans ?_ (escenario_cadena h (a := 0x170100) (by omega)).symm
      interval_cases j <;> decide

lemma ruta_clara : Clara (conNombres k) (cadena (conNombres k).mem 0x170100) := by
  obtain ⟨h3, hp, -, h4⟩ := ruta_nombres h
  intro i hi h10 hno
  obtain rfl | rfl : i = 3 ∨ i = 4 := by
    by_contra hc
    exact hno 4 (by decide) (by omega) h4
  · rw [contar_de_strlen (by rw [h3]; decide), h3]
    refine ⟨by decide, fun hd => ?_⟩
    rw [Dudosa, h3, hp] at hd
    exact absurd hd.1 (by decide)
  · have hl := h4.1.trans hp
    rw [contar_de_strlen (by rw [hl]; decide), hl]
    exact ⟨by decide, fun ⟨_, j, hj, hne⟩ => hne (h4.2 j hj)⟩

lemma ruta_correcta : Correcta 0x300100 0x300200 (conNombres k) := by
  obtain ⟨-, hp, hm, -⟩ := ruta_nombres h
  have h1 : checkAddr 0x300100 3 (conNombres k) = 0x170100 :=
    ruta_checkAddr h (o := 0x100) (by decide)
  have h2 : checkAddr 0x300200 3 (conNombres k) = 0x170200 :=
    ruta_checkAddr h (o := 0x200) (by decide)
  unfold Correcta
  simp only
  rw [show (conNombres k).tIndice = 3 from rfl, h1, h2]
  refine fun _ => ⟨ruta_propia h (o := 0x100) ?_ ?_, fun _ _ _ =>
    ⟨ruta_propia h (o := 0x200) ?_ ?_, fun _ _ => ruta_clara h⟩⟩
  · rw [hp]
    decide
  · rw [hp]
    decide
  · rw [hm]
    decide
  · rw [hm]
    decide

lemma ruta_abre (basura : ℕ → ℕ) : (sysOpen basura 0x300100 0x300200 (conNombres k)).1 = 4 := by
  obtain ⟨h3, hp, hm, h4⟩ := ruta_nombres h
  have hve : ∀ o < 4096, checkAddr (0x300000 + o) 3 (conNombres k) = 0x170000 + o :=
    fun o ho => ruta_checkAddr h ho
  have hruta : checkAddr 0x300100 3 (conNombres k) = 0x170100 := hve 0x100 (by decide)
  have hfin : checkAddr ((0x300100 + 2) % 2 ^ 32) 3 (conNombres k) = 0x170102 :=
    hve 0x102 (by decide)
  have hmodo : checkAddr 0x300200 3 (conNombres k) = 0x170200 := hve 0x200 (by decide)
  have hfinModo : checkAddr ((0x300200 + 1) % 2 ^ 32) 3 (conNombres k) = 0x170201 :=
    hve 0x201 (by decide)
  have hvisita : Visita basura (conNombres k) (cadena (conNombres k).mem 0x170100) 4 := by
    refine ⟨by decide, by decide, fun j hj hj4 hs => ?_⟩
    obtain rfl : j = 3 := by omega
    -- `par` is longer than the path
    rcases (strcmp_ranura (by rw [hp]; decide) _).mp hs with hi | ⟨hd, -⟩
    · exact absurd (h3.symm.trans (hi.1.trans hp)) (by decide)
    · exact absurd (h3.symm.trans (hd.1.trans hp)) (by decide)
  have hbusca := busca_en (by decide) (by decide) hvisita
    ((strcmp_ranura (by rw [hp]; decide) _).mpr (Or.inl h4))
  rw [sysOpen_eq]
  simp only
  rw [show (conNombres k).tIndice = 3 from rfl, hruta, hp, hfin, hmodo, hm, hfinModo, hbusca]
  rfl

end

/-- Slot 4 is found, and nothing else is told. -/
theorem sys_open_discreta_cuatro : Discreta 0x300100 0x300200
      (conNombres (Boot.soltarVideo (Layout.nucleoCon memRuta 3))) ∧
    ∀ basura, (sysOpen basura 0x300100 0x300200
      (conNombres (Boot.soltarVideo (Layout.nucleoCon memRuta 3)))).1 = 4 :=
  ⟨(sys_open_discreta (by decide) (by decide)).mpr (ruta_correcta (Scene.escenario memRuta)),
    ruta_abre (Scene.escenario memRuta)⟩

/-! ### A string at the end of a page -/

/-- The last byte of the first module is a letter, the first of the second is 0. -/
def memBorde : Mem := fun x => if x = 0x170fff then 0x61 else 0

def borde : Turns.Maquina := Scene.turno 3 (Boot.soltarVideo (Layout.nucleoCon memBorde 3), none)

section
variable {k : Kernel} (h : Scene.Escenario memBorde k)
include h

lemma borde_checkAddr {o : ℕ} (ho : o < 4096) :
    checkAddr (0x300000 + o) 3 (Scene.turno 3 (k, none)).1 = 0x170000 + o :=
  (h.usuario (Scene.vecino_turno Scene.vecino_rfl 3) (c := 0) (by decide) ho).2.2

/-- The terminator of the string is in the module of task 4. -/
lemma borde_leido (basura : ℕ → ℕ) :
    .mem 0x171000 ∈ lecturas basura 0x300fff 0 (Scene.turno 3 (k, none)).1 := by
  have hv : checkAddr 0x300fff 3 (Scene.turno 3 (k, none)).1 = 0x170fff :=
    borde_checkAddr h (o := 0xfff) (by decide)
  have hlargo : strlen (cadena (Scene.turno 3 (k, none)).1.mem 0x170fff) = 1 := by
    refine strlen_of (by decide) ?_ fun j hj => ?_
    · exact (escenario_cadena h (a := 0x170fff) (by decide)).trans (by decide)
    · obtain rfl : j = 0 := by omega
      exact ne_of_eq_of_ne (escenario_cadena h (a := 0x170fff) (by decide)) (by decide)
  have hcont := contar_de_strlen (s := cadena (Scene.turno 3 (k, none)).1.mem 0x170fff)
    (by rw [hlargo]; decide)
  unfold lecturas
  simp only
  rw [show (Scene.turno 3 (k, none)).1.tIndice = 3 from rfl, hv, if_neg (by decide)]
  exact Or.inl ⟨1, by rw [hcont, hlargo], rfl⟩

lemma borde_ajena : ¬ Accesible (Scene.turno 3 (k, none)).1 3 (0x171000 / 4096) :=
  h.ajena (c := 0) (d := 1) (by decide) (by decide) (by decide)

end

/-- To measure a path that ends with its page, `sys_open` reads a byte of another task. -/
theorem cadena_ajena : Reach (Turns.Inicial enlace) Turns.Paso borde ∧
    (∀ basura, .mem 0x171000 ∈ lecturas basura 0x300fff 0 borde.1) ∧
    ¬ Accesible borde.1 3 (0x171000 / 4096) ∧ ¬ Discreta 0x300fff 0 borde.1 := by
  have h := Scene.escenario memBorde
  exact ⟨Turns.contenido_reach h.primera, borde_leido h, borde_ajena h,
    fun hd => borde_ajena h (hd.1 (fun _ => 0) _ (borde_leido h _))⟩

end Silicio.Opens
