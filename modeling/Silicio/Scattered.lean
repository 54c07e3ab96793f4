import Silicio.Paging

/-!
What `ini_pag` writes, and the pages it has been given.

The directory and each of its tables get a page from a search of their own, and the tables are then
filled through one pointer that runs on from the first. So the pages written are 1024 in a row,
whichever were handed out: here `ini_pag` keeps the addresses of its words.
-/

namespace Silicio.Scattered

open Silicio.Loop Silicio.Bitmap Silicio.Bytes Silicio.Defs Silicio.Mm Silicio.Paging

/-- Memory, and the addresses of the words that have been written. -/
structure Anotada where
  mem : Mem
  escritas : List ℕ

def Anotada.pone (a v : ℕ) (s : Anotada) : Anotada := ⟨wr32 s.mem a v, a % 2 ^ 32 :: s.escritas⟩

def otraTablaAnota (gDir i : ℕ) (s : Anotada × Mm) : Anotada × Mm :=
  let p := buscarMem s.2
  let mm := (setMem s.2 p).2
  let p := (p <<< 12) % 2 ^ 32
  (s.1.pone (gDir + 4 * i) (p + 1), mm)

def entradasAnota (gTab tab : ℕ) (s : Anotada) : Anotada :=
  loop (fun pag s => s.pone (gTab + 4 * (tab * TAB_PAG_LEN + pag))
    (pag * 2 ^ 12 + (tab * 2 ^ 22 + 1))) TAB_PAG_LEN s

/-- `ini_pag` and the words it writes, given how many tables it lays out. -/
def iniPagAnotaDe (n : ℕ) (k : Kernel) : Kernel × List ℕ :=
  let p := buscarMem k.mm
  let mm := (setMem k.mm p).2
  let gDir := (p <<< 12) % 2 ^ 32
  let p := buscarMem mm
  let mm := (setMem mm p).2
  let gTab := (p <<< 12) % 2 ^ 32
  let mem := Anotada.pone gDir (gTab + 1) ⟨k.mem, []⟩
  let s := loop (fun i => otraTablaAnota gDir (i + 1)) (n - 1) (mem, mm)
  let mem := loop (entradasAnota gTab) n s.1
  ({ k with
    mem := mem.mem
    mm := s.2
    gDir := gDir
    gTab := gTab }, mem.escritas)

def iniPagAnota (k : Kernel) : Kernel × List ℕ := iniPagAnotaDe CAN_TAB_PAG k

/-- Every byte written is in a page that was free and that `ini_pag` has marked. -/
def Cumple (k : Kernel) : Prop :=
  ∀ a ∈ (iniPagAnota k).2, ∀ l < 4, ocupada k.mm ((a + l) % 2 ^ 32 / PAG_LEN) = false ∧
    ocupada (iniPagAnota k).1.mm ((a + l) % 2 ^ 32 / PAG_LEN) = true

variable {k : Kernel} {mm : Mm} {a n p q d t : ℕ}

/-! ### The same `ini_pag` -/

/-- The words apart, these are the loops of `Paging`. -/
lemma otraTablaAnota_loop (gDir n : ℕ) (s : Anotada × Mm) :
    Prod.map Anotada.mem id (loop (fun i => otraTablaAnota gDir (i + 1)) n s) =
      loop (fun i => otraTabla gDir (i + 1)) n (s.1.mem, s.2) :=
  loop_map (Prod.map Anotada.mem id) (fun _ _ => rfl) n s

lemma entradasAnota_mem (gTab tab : ℕ) (s : Anotada) :
    (entradasAnota gTab tab s).mem = entradas gTab tab s.mem := by
  unfold entradasAnota entradas
  exact loop_map Anotada.mem (fun _ _ => rfl) TAB_PAG_LEN s

lemma entradasAnota_loop (gTab n : ℕ) (s : Anotada) :
    (loop (entradasAnota gTab) n s).mem = loop (entradas gTab) n s.mem :=
  loop_map Anotada.mem (entradasAnota_mem gTab) n s

lemma iniPagAnotaDe_fst (n : ℕ) (k : Kernel) : (iniPagAnotaDe n k).1 = iniPagDe n k := by
  unfold iniPagAnotaDe iniPagDe
  simp only
  generalize hd : (buscarMem k.mm <<< 12) % 2 ^ 32 = gDir
  generalize ht : (buscarMem (setMem k.mm (buscarMem k.mm)).2 <<< 12) % 2 ^ 32 = gTab
  generalize (setMem (setMem k.mm (buscarMem k.mm)).2
    (buscarMem (setMem k.mm (buscarMem k.mm)).2)).2 = mm
  have hs := otraTablaAnota_loop gDir (n - 1) (Anotada.pone gDir (gTab + 1) ⟨k.mem, []⟩, mm)
  have h1 := congrArg Prod.fst hs
  have h2 := congrArg Prod.snd hs
  simp only [Prod.map_fst, Prod.map_snd, id_eq] at h1 h2
  rw [entradasAnota_loop, h1, h2]
  rfl

theorem iniPagAnota_fst (k : Kernel) : (iniPagAnota k).1 = iniPag k := iniPagAnotaDe_fst _ k

/-! ### The pages written -/

lemma escritas_tablas (gDir n : ℕ) (s : Anotada × Mm) :
    a ∈ (loop (fun i => otraTablaAnota gDir (i + 1)) n s).1.escritas ↔
      a ∈ s.1.escritas ∨ ∃ i < n, a = (gDir + 4 * (i + 1)) % 2 ^ 32 :=
  loop_or (Q := fun s : Anotada × Mm => a ∈ s.1.escritas)
    (fun _ _ => List.mem_cons.trans Or.comm) n s

lemma escritas_tabla (gTab tab : ℕ) (s : Anotada) :
    a ∈ (entradasAnota gTab tab s).escritas ↔ a ∈ s.escritas ∨
      ∃ pag < TAB_PAG_LEN, a = (gTab + 4 * (tab * TAB_PAG_LEN + pag)) % 2 ^ 32 := by
  unfold entradasAnota
  exact loop_or (Q := fun s : Anotada => a ∈ s.escritas) (fun _ _ => List.mem_cons.trans Or.comm)
    TAB_PAG_LEN s

lemma escritas_entradas (gTab n : ℕ) (s : Anotada) :
    a ∈ (loop (entradasAnota gTab) n s).escritas ↔ a ∈ s.escritas ∨
      ∃ tab < n, ∃ pag < TAB_PAG_LEN, a = (gTab + 4 * (tab * TAB_PAG_LEN + pag)) % 2 ^ 32 :=
  loop_or (Q := fun s : Anotada => a ∈ s.escritas) (fun tab s => escritas_tabla gTab tab s) n s

/-- The pages of the first two searches: the directory, and the first table. -/
def pagDir (k : Kernel) : ℕ := buscarMem k.mm
def pagTab (k : Kernel) : ℕ := buscarMem (setMem k.mm (pagDir k)).2

lemma pagina_palabra (t tab : ℕ) {pag l : ℕ} (hp : pag < TAB_PAG_LEN) (hl : l < 4) :
    (((t <<< 12) % 2 ^ 32 + 4 * (tab * TAB_PAG_LEN + pag)) % 2 ^ 32 + l) % 2 ^ 32 / PAG_LEN =
      (t + tab) % PAG_MEM := by
  rw [Nat.shiftLeft_eq]
  simp only [TAB_PAG_LEN, PAG_LEN, PAG_MEM] at *
  omega

lemma mem_iniPagAnotaDe (n : ℕ) (k : Kernel) : a ∈ (iniPagAnotaDe (n + 1) k).2 ↔
    (∃ i < n + 1, a = ((pagDir k <<< 12) % 2 ^ 32 + 4 * i) % 2 ^ 32) ∨
      ∃ tab < n + 1, ∃ pag < TAB_PAG_LEN,
        a = ((pagTab k <<< 12) % 2 ^ 32 + 4 * (tab * TAB_PAG_LEN + pag)) % 2 ^ 32 := by
  unfold iniPagAnotaDe
  simp only
  rw [escritas_entradas, escritas_tablas, Nat.add_sub_cancel]
  refine or_congr_left ?_
  rw [show (Anotada.pone ((buscarMem k.mm <<< 12) % 2 ^ 32)
      ((buscarMem (setMem k.mm (buscarMem k.mm)).2 <<< 12) % 2 ^ 32 + 1) ⟨k.mem, []⟩).escritas =
    [(pagDir k <<< 12) % 2 ^ 32 % 2 ^ 32] from rfl, List.mem_singleton, Nat.exists_lt_succ_left,
    Nat.mul_zero, Nat.add_zero]
  rfl

lemma paginas_escritasDe (hn : n < TAB_PAG_LEN) (k : Kernel) (q : ℕ) :
    (∃ a ∈ (iniPagAnotaDe (n + 1) k).2, ∃ l < 4, (a + l) % 2 ^ 32 / PAG_LEN = q) ↔
      pagDir k % PAG_MEM = q ∨ ∃ j < n + 1, (pagTab k + j) % PAG_MEM = q := by
  -- the directory has a word in its own page for each table
  have hdir : ∀ w < TAB_PAG_LEN, ∀ l < 4,
      (((pagDir k <<< 12) % 2 ^ 32 + 4 * w) % 2 ^ 32 + l) % 2 ^ 32 / PAG_LEN =
        pagDir k % PAG_MEM := by
    intro w hw l hl
    have := pagina_palabra (pagDir k) 0 hw hl
    rwa [Nat.zero_mul, Nat.zero_add, Nat.add_zero] at this
  constructor
  · rintro ⟨a, ha, l, hl, rfl⟩
    rcases (mem_iniPagAnotaDe n k).mp ha with ⟨i, hi, he⟩ | ⟨tab, htab, pag, hpag, he⟩
    · rw [he]
      exact Or.inl (hdir i (by omega) l hl).symm
    · rw [he]
      exact Or.inr ⟨tab, htab, (pagina_palabra _ tab hpag hl).symm⟩
  · rintro (hq | ⟨tab, htab, hq⟩)
    · refine ⟨_, (mem_iniPagAnotaDe n k).mpr (Or.inl ⟨0, Nat.succ_pos n, rfl⟩), 0, by decide, ?_⟩
      rw [hdir 0 (by decide) 0 (by decide)]
      exact hq
    · refine ⟨_, (mem_iniPagAnotaDe n k).mpr (Or.inr ⟨tab, htab, 0, by decide, rfl⟩), 0,
        by decide, ?_⟩
      rw [pagina_palabra _ tab (by decide) (by decide)]
      exact hq

/-- **The pages that are written**: that of the directory, and 1024 in a row. -/
lemma paginas_escritas (k : Kernel) (q : ℕ) :
    (∃ a ∈ (iniPagAnota k).2, ∃ l < 4, (a + l) % 2 ^ 32 / PAG_LEN = q) ↔
      pagDir k % PAG_MEM = q ∨ ∃ j < CAN_TAB_PAG, (pagTab k + j) % PAG_MEM = q :=
  paginas_escritasDe (n := 1023) (by decide) k q

lemma cumple_iff (k : Kernel) : Cumple k ↔
    ∀ q, (pagDir k % PAG_MEM = q ∨ ∃ j < CAN_TAB_PAG, (pagTab k + j) % PAG_MEM = q) →
      ocupada k.mm q = false ∧ q ∈ (reservar (1 + CAN_TAB_PAG) k.mm).1 := by
  have hafter : ∀ q, ocupada k.mm q = false →
      (ocupada (iniPagAnota k).1.mm q = true ↔ q ∈ (reservar (1 + CAN_TAB_PAG) k.mm).1) := by
    intro q hq
    rw [iniPagAnota_fst, iniPag_mm, reservar_ocupada, hq]
    exact or_iff_right Bool.false_ne_true
  constructor
  · intro hc q hq
    obtain ⟨a, ha, l, hl, rfl⟩ := (paginas_escritas k q).mpr hq
    obtain ⟨hfree, hmark⟩ := hc a ha l hl
    exact ⟨hfree, (hafter _ hfree).mp hmark⟩
  · intro hc a ha l hl
    obtain ⟨hfree, hmem⟩ := hc _ ((paginas_escritas k _).mp ⟨a, ha, l, hl, rfl⟩)
    exact ⟨hfree, (hafter _ hfree).mpr hmem⟩

/-! ### Pages in a row -/

def ventana (mm : Mm) : Set ℕ :=
  {p | 8 * inicio mm ≤ p ∧ p < 8 * (mm.memMax / 8) ∧ ocupada mm p = false}

lemma mem_candidatas (hw : inicio mm ≤ mm.memMax / 8) : q ∈ candidatas mm ↔ q ∈ ventana mm := by
  unfold candidatas
  rw [if_pos hw, Finset.mem_filter, Finset.mem_Ico, and_assoc]
  rfl

lemma ventana_dentro (hw : inicio mm ≤ mm.memMax / 8) (d : ℕ) :
    inicio (setMem mm d).2 ≤ (setMem mm d).2.memMax / 8 := by
  rwa [inicio_setMem, setMem_memMax]

lemma ventana_setMem (mm : Mm) (d : ℕ) : ventana (setMem mm d).2 = ventana mm \ {d} := by
  ext p
  simp only [ventana, inicio_setMem, setMem_memMax, ocupada_setMem, Bool.or_eq_false_iff,
    decide_eq_false_iff_not, Set.mem_ofPred_eq, Set.mem_sdiff, Set.mem_singleton_iff]
  tauto

lemma buscarMem_ventana (hw : inicio mm ≤ mm.memMax / 8) (hmax : mm.memMax < 2 ^ 32)
    (hq : q ∈ ventana mm) : IsLeast (ventana mm) (buscarMem mm) := by
  rcases buscarMem_spec hw hmax with h | ⟨-, hall⟩
  · exact h
  · obtain ⟨h1, h2, h3⟩ := hq
    rw [hall q h1 h2] at h3
    cases h3

/-- The two least free pages of the window are `d` and `t`, and the 1023 after `t` are free and in
the window too; page 0 is, when they are the last of 4 gigabytes, the one after them. -/
structure Seguidas (mm : Mm) (d t : ℕ) : Prop where
  dir : IsLeast (ventana mm) d
  tab : IsLeast (ventana mm \ {d}) t
  libres : ∀ j < CAN_TAB_PAG, ocupada mm ((t + j) % PAG_MEM) = false
  fin : t + 1023 < 8 * (mm.memMax / 8) ∨
    t + 1023 = 8 * (mm.memMax / 8) ∧ 8 * (mm.memMax / 8) = PAG_MEM

/-! ### Pages that are all reserved are in a row -/

lemma Cumple.candidata (hc : Cumple k) (hmax : k.mm.memMax ≤ PAG_MEM) : ∀ j < CAN_TAB_PAG,
    (pagTab k + j) % PAG_MEM ∈ candidatas k.mm ∨ (pagTab k + j) % PAG_MEM = 0 := by
  intro j hj
  obtain ⟨hfree, hmem⟩ := (cumple_iff k).mp hc _ (Or.inr ⟨j, hj, rfl⟩)
  exact candidata_of_reservar (hmax.trans_lt (by decide)) hmem hfree

/-- The window does not start past its end: of three pages ten apart at most one is among the nine
that are looked at then, and at most one is page 0. -/
lemma Cumple.hay_ventana (hc : Cumple k) (hi : 1 ≤ inicio k.mm) (hmax : k.mm.memMax ≤ PAG_MEM) :
    inicio k.mm ≤ k.mm.memMax / 8 := by
  by_contra hw
  have hq : ∀ j < CAN_TAB_PAG, 8 * inicio k.mm ≤ (pagTab k + j) % PAG_MEM ∧
      (pagTab k + j) % PAG_MEM < 8 * inicio k.mm + 9 ∨ (pagTab k + j) % PAG_MEM = 0 := by
    intro j hj
    refine (hc.candidata hmax j hj).imp_left fun hin => ?_
    unfold candidatas at hin
    rw [if_neg hw] at hin
    have := Finset.mem_Ico.mp (Finset.mem_filter.mp hin).1
    omega
  have h1 := hq 0 (by decide)
  have h2 := hq 10 (by decide)
  have h3 := hq 20 (by decide)
  simp only [PAG_MEM] at h1 h2 h3
  omega

lemma Cumple.pagina (hc : Cumple k) (hi : 1 ≤ inicio k.mm) (hmax : k.mm.memMax ≤ PAG_MEM) :
    ∀ j < CAN_TAB_PAG, (8 * inicio k.mm ≤ (pagTab k + j) % PAG_MEM ∧
      (pagTab k + j) % PAG_MEM < 8 * (k.mm.memMax / 8)) ∨ (pagTab k + j) % PAG_MEM = 0 := by
  intro j hj
  refine (hc.candidata hmax j hj).imp_left fun hin => ?_
  obtain ⟨h1, h2, -⟩ := (mem_candidatas (hc.hay_ventana hi hmax)).mp hin
  exact ⟨h1, h2⟩

/-- The second search does not fail: the tables would run on from page 0 to page 1. -/
lemma Cumple.tabla (hc : Cumple k) (hi : 1 ≤ inicio k.mm) (hmax : k.mm.memMax ≤ PAG_MEM) :
    IsLeast (ventana k.mm \ {pagDir k}) (pagTab k) := by
  rw [← ventana_setMem]
  rcases buscarMem_spec (ventana_dentro (hc.hay_ventana hi hmax) (pagDir k))
    (by rw [setMem_memMax]; exact hmax.trans_lt (by decide)) with h | ⟨h0, -⟩
  · exact h
  · have h1 := hc.pagina hi hmax 1 (by decide)
    rw [show pagTab k = 0 from h0] at h1
    simp only [PAG_MEM] at h1
    omega

lemma Cumple.seguidas (hc : Cumple k) (hi : 1 ≤ inicio k.mm) (hmax : k.mm.memMax ≤ PAG_MEM) :
    Seguidas k.mm (pagDir k) (pagTab k) := by
  have htab := hc.tabla hi hmax
  refine ⟨buscarMem_ventana (hc.hay_ventana hi hmax) (hmax.trans_lt (by decide)) htab.1.1, htab,
    fun j hj => ((cumple_iff k).mp hc _ (Or.inr ⟨j, hj, rfl⟩)).1, ?_⟩
  have hpag := hc.pagina hi hmax
  obtain ⟨⟨-, hlt, -⟩, -⟩ := htab.1
  simp only [PAG_MEM] at hmax hpag ⊢
  rcases Nat.lt_trichotomy (pagTab k + 1023) 1048576 with hend | hend | hend
  · have := hpag 1023 (by decide)
    omega
  · have := hpag 1022 (by decide)
    omega
  · -- page 1 would be one of them
    have := hpag (1048577 - pagTab k) (by simp only [CAN_TAB_PAG]; omega)
    omega

/-! ### Pages in a row are all reserved -/

lemma Seguidas.hay_ventana (h : Seguidas k.mm d t) : inicio k.mm ≤ k.mm.memMax / 8 := by
  obtain ⟨h1, h2, -⟩ := h.dir.1
  omega

lemma Seguidas.candidata (h : Seguidas k.mm d t) :
    candidatas k.mm ⊆ insert d (Finset.Ico t (8 * (k.mm.memMax / 8))) := by
  intro c hc
  have hv := (mem_candidatas h.hay_ventana).mp hc
  rw [Finset.mem_insert, Finset.mem_Ico]
  by_cases hcd : c = d
  · exact Or.inl hcd
  · exact Or.inr ⟨h.tab.2 ⟨hv, hcd⟩, hv.2.1⟩

lemma Seguidas.directorio (h : Seguidas k.mm d t) (hmax : k.mm.memMax ≤ PAG_MEM) :
    pagDir k = d :=
  (buscarMem_ventana h.hay_ventana (hmax.trans_lt (by decide)) h.dir.1).unique h.dir

lemma Seguidas.tabla (h : Seguidas k.mm d t) (hmax : k.mm.memMax ≤ PAG_MEM) :
    pagTab k = t := by
  have htab := h.tab
  rw [← h.directorio hmax, ← ventana_setMem] at htab
  refine (buscarMem_ventana (ventana_dentro h.hay_ventana _) ?_ htab.1).unique htab
  rw [setMem_memMax]
  exact hmax.trans_lt (by decide)

/-- A page of the tables inside the window is handed out: below it there are only the directory and
the tables before. -/
lemma Seguidas.entrega (h : Seguidas k.mm d t) (hmax : k.mm.memMax ≤ PAG_MEM) {j : ℕ}
    (hj : j < CAN_TAB_PAG) (hlt : t + j < 8 * (k.mm.memMax / 8))
    (hfree : ocupada k.mm (t + j) = false) : t + j ∈ (reservar (1 + CAN_TAB_PAG) k.mm).1 := by
  obtain ⟨⟨h1, -, -⟩, -⟩ := h.tab.1
  refine reservar_of_candidata (hmax.trans_lt (by decide))
    ((mem_candidatas h.hay_ventana).mpr ⟨by omega, hlt, hfree⟩) ?_
  have hsub : (candidatas k.mm).filter (· < t + j) ⊆ insert d (Finset.Ico t (t + j)) := by
    intro c hc
    obtain ⟨hc, hclt⟩ := Finset.mem_filter.mp hc
    refine Finset.mem_insert.mpr ((Finset.mem_insert.mp (h.candidata hc)).imp_right fun hin => ?_)
    exact Finset.mem_Ico.mpr ⟨(Finset.mem_Ico.mp hin).1, hclt⟩
  have hcard := (Finset.card_le_card hsub).trans (Finset.card_insert_le _ _)
  rw [Nat.card_Ico] at hcard
  omega

/-- Tables that end with the last page there is leave the last search without a candidate. -/
lemma Seguidas.entrega_cero (h : Seguidas k.mm d t) (hmax : k.mm.memMax ≤ PAG_MEM)
    (hend : t + 1023 = 8 * (k.mm.memMax / 8)) :
    0 ∈ (reservar (1 + CAN_TAB_PAG) k.mm).1 := by
  refine cero_of_reservar h.hay_ventana (hmax.trans_lt (by decide)) ?_
  have hcard := (Finset.card_le_card h.candidata).trans (Finset.card_insert_le _ _)
  rw [Nat.card_Ico] at hcard
  simp only [CAN_TAB_PAG]
  omega

lemma Seguidas.cumple (h : Seguidas k.mm d t) (hmax : k.mm.memMax ≤ PAG_MEM) : Cumple k := by
  rw [cumple_iff, h.directorio hmax, h.tabla hmax]
  rintro q (hq | ⟨j, hj, hq⟩)
  · obtain ⟨-, hlt, hfree⟩ := h.dir.1
    rw [Nat.mod_eq_of_lt (by omega)] at hq
    rw [← hq, Nat.add_comm, reservar_cons]
    exact ⟨hfree, h.directorio hmax ▸ List.mem_cons_self⟩
  · have hfree := h.libres j hj
    rw [hq] at hfree
    refine ⟨hfree, ?_⟩
    rcases Nat.lt_or_ge (t + j) (8 * (k.mm.memMax / 8)) with hlt | hge
    · rw [Nat.mod_eq_of_lt (by omega)] at hq
      rw [← hq] at hfree ⊢
      exact h.entrega hmax hj hlt hfree
    · have hend := h.fin
      simp only [CAN_TAB_PAG, PAG_MEM] at hj hq hend
      obtain rfl : q = 0 := by omega
      exact h.entrega_cero hmax (by omega)

lemma seguidas_of_lleno (h : Lleno mm d) (hd : d + 1 + CAN_TAB_PAG ≤ 8 * (mm.memMax / 8))
    (hmax : mm.memMax ≤ PAG_MEM) : Seguidas mm d (d + 1) := by
  have hlow := h.desde
  simp only [CAN_TAB_PAG, PAG_MEM] at hd hmax
  have hfree : ∀ p < 1048576, d ≤ p → ocupada mm p = false := by
    intro p hp hle
    by_contra hno
    have := (h.lleno p hp (hlow.trans hle)).mp (by simpa using hno)
    omega
  have hge : ∀ p ∈ ventana mm, d ≤ p := by
    rintro p ⟨h1, h2, h3⟩
    by_contra hlt
    rw [(h.lleno p (by simp only [PAG_MEM]; omega) h1).mpr (Nat.lt_of_not_le hlt)] at h3
    cases h3
  refine ⟨⟨⟨hlow, by omega, hfree d (by omega) le_rfl⟩, hge⟩,
    ⟨⟨⟨by omega, by omega, hfree _ (by omega) (Nat.le_succ d)⟩, Nat.succ_ne_self d⟩, ?_⟩,
    fun j hj => ?_, Or.inl (by omega)⟩
  · rintro p ⟨hp, hne⟩
    exact Nat.lt_of_le_of_ne (hge p hp) (Ne.symm hne)
  · simp only [CAN_TAB_PAG, PAG_MEM] at hj ⊢
    rw [Nat.mod_eq_of_lt (by omega)]
    exact hfree _ (by omega) (by omega)

lemma inicio_pos (h18 : 18 ≤ mm.memOff) (hoff : mm.memOff < 2 ^ 32) : 1 ≤ inicio mm := by
  rw [inicio_of_le (by omega) hoff]
  omega

/-- **`ini_pag` writes only to pages it has reserved** just when the free pages it is given for its
tables are in a row. -/
theorem iniPag_reserva (h18 : 18 ≤ k.mm.memOff) (hoff : k.mm.memOff < 2 ^ 32)
    (hmax : k.mm.memMax ≤ PAG_MEM) : Cumple k ↔ ∃ d t, Seguidas k.mm d t :=
  ⟨fun hc => ⟨_, _, hc.seguidas (inicio_pos h18 hoff) hmax⟩, fun ⟨_, _, h⟩ => h.cumple hmax⟩

theorem iniPag_arranque {kernelFin ram : ℕ} (hk : KERNEL_INI ≤ kernelFin)
    (hoff : 256 ≤ 8 * ((k.mm.memOff - 10) / 8)) (hlt : k.mm.memOff < 2 ^ 32)
    (hfit : primera kernelFin k.mm.memOff + 1 + CAN_TAB_PAG ≤ 8 * (ram / 8))
    (hram : ram ≤ PAG_MEM) : Cumple { k with mm := iniMm kernelFin ram k.mm } := by
  have hmax : (iniMm kernelFin ram k.mm).memMax = ram := iniMm_memMax _ _ _
  have hlleno := @iniMm_lleno kernelFin ram k.mm hk hoff hlt
  have hseg := seguidas_of_lleno hlleno (by rwa [hmax]) (by rwa [hmax])
  exact hseg.cumple (k := { k with mm := iniMm kernelFin ram k.mm }) (by rwa [hmax])

def maquina (ram : ℕ) : Kernel :=
  { Kernel.cargado (fun _ => 0) with mm := iniMm 0x16cb61 ram ⟨fun _ => 0, 0, 372⟩ }

theorem iniPag_reserva_grande : Cumple (maquina 8192) ↔ ∃ d t, Seguidas (maquina 8192).mm d t :=
  iniPag_reserva (k := maquina 8192) (by rw [maquina, iniMm_memOff]; decide)
    (by rw [maquina, iniMm_memOff]; decide) (by rw [maquina, iniMm_memMax]; decide)

/-- On a machine of 4 megabytes the tables run past its end. -/
theorem iniPag_cuatro_megas : ¬ Cumple (maquina 1024) := by
  have hoff : (maquina 1024).mm.memOff = 372 := iniMm_memOff _ _ _
  have hmax : (maquina 1024).mm.memMax = 1024 := iniMm_memMax _ _ _
  intro hc
  have h := hc.seguidas (inicio_pos (by rw [hoff]; decide) (by rw [hoff]; decide))
    (by rw [hmax]; decide)
  obtain ⟨⟨hlow, -, -⟩, -⟩ := h.tab.1
  have hend := h.fin
  rw [inicio_of_le (by rw [hoff]; decide) (by rw [hoff]; decide), hoff] at hlow
  rw [hmax] at hend
  omega

end Silicio.Scattered
