import Silicio.Mm
import Silicio.Mmu

/-!
The kernel's page tables: `ini_pag`, and the identity map it builds.

The directory names each table by the page a search of its own returned, while the million
table entries are written through one pointer that starts at the first table and never
looks back at the directory. The two agree because first fit, on a map that is full up to
some page, hands out consecutive pages.
-/

namespace Silicio.Paging

open Silicio.Loop Silicio.Bitmap Silicio.Bytes Silicio.Defs Silicio.Mm Silicio.Mmu

/-- One of the 1023 tables after the first: its page, and its entry in the directory. -/
def otraTabla (gDir i : ℕ) (s : Mem × Mm) : Mem × Mm :=
  let p := buscarMem s.2
  let mm := (setMem s.2 p).2
  let p := (p <<< 12) % 2 ^ 32
  (wr32 s.1 (gDir + 4 * i) (p + 1), mm)

/-- The entries of table `tab`, through the running pointer `aux_t`. -/
def entradas (gTab tab : ℕ) (m : Mem) : Mem :=
  loop (fun pag m => wr32 m (gTab + 4 * (tab * TAB_PAG_LEN + pag))
    (pag * 2 ^ 12 + (tab * 2 ^ 22 + 1))) TAB_PAG_LEN m

/-- `ini_pag`, given how many tables it lays out. -/
def iniPagDe (n : ℕ) (k : Kernel) : Kernel :=
  let p := buscarMem k.mm
  let mm := (setMem k.mm p).2
  let gDir := (p <<< 12) % 2 ^ 32
  let p := buscarMem mm
  let mm := (setMem mm p).2
  let gTab := (p <<< 12) % 2 ^ 32
  let mem := wr32 k.mem gDir (gTab + 1)
  let s := loop (fun i => otraTabla gDir (i + 1)) (n - 1) (mem, mm)
  { k with
    mem := loop (entradas gTab) n s.1
    mm := s.2
    gDir := gDir
    gTab := gTab }

def iniPag (k : Kernel) : Kernel := iniPagDe CAN_TAB_PAG k

@[simp] lemma iniPag_rTareas (k : Kernel) : (iniPag k).rTareas = k.rTareas := rfl
@[simp] lemma iniPag_rDrv (k : Kernel) : (iniPag k).rDrv = k.rDrv := rfl
@[simp] lemma iniPag_tss (k : Kernel) : (iniPag k).tss = k.tss := rfl
@[simp] lemma iniPag_gdt (k : Kernel) : (iniPag k).gdt = k.gdt := rfl
@[simp] lemma iniPag_rPort (k : Kernel) : (iniPag k).rPort = k.rPort := rfl

/-! ### The pages it takes -/

lemma otraTabla_snd (gDir i : ℕ) (s : Mem × Mm) :
    (otraTabla gDir i s).2 = (setMem s.2 (buscarMem s.2)).2 := rfl

lemma otraTabla_loop (gDir n : ℕ) (m : Mem) (mm : Mm) :
    (loop (fun i => otraTabla gDir (i + 1)) n (m, mm)).2 = (reservar n mm).2 := by
  induction n with
  | zero => rw [loop_zero, reservar]
  | succ n ih => rw [loop_succ, otraTabla_snd, reservar_succ, ih]

/-- The map `ini_pag` leaves is the map after a round of search and mark for the directory
and one for each table. -/
lemma iniPagDe_mm (n : ℕ) (k : Kernel) :
    (iniPagDe (n + 1) k).mm = (reservar (n + 2) k.mm).2 := by
  rw [reservar, reservar]
  unfold iniPagDe
  simp only
  rw [Nat.add_sub_cancel, otraTabla_loop]

lemma iniPag_mm (k : Kernel) : (iniPag k).mm = (reservar (1 + CAN_TAB_PAG) k.mm).2 := by
  have hn : CAN_TAB_PAG = 1023 + 1 := rfl
  rw [iniPag, hn, iniPagDe_mm, show 1 + (1023 + 1) = 1023 + 2 from rfl]

lemma Lleno.reservar {mm : Mm} {x n : ℕ} (h : Lleno mm x) (hx : x + n ≤ 8 * (mm.memMax / 8))
    (hmax : mm.memMax ≤ PAG_MEM) :
    reservar n mm = (List.range' x n, setMems x n mm) ∧ Lleno (setMems x n mm) (x + n) := by
  induction n generalizing mm x with
  | zero =>
    rw [Mm.reservar, List.range'_zero, setMems, loop_zero]
    exact ⟨rfl, h⟩
  | succ n ih =>
    have hb := h.buscar (by omega) hmax
    obtain ⟨h1, h2⟩ := ih h.marcar (by rw [setMem_memMax]; omega) (by rwa [setMem_memMax])
    have hs : setMems (x + 1) n (setMem mm x).2 = setMems x (n + 1) mm := by
      unfold setMems
      clear h1 h2 ih hb hmax hx h
      induction n with
      | zero => rw [loop_succ, loop_zero, loop_zero, Nat.add_zero]
      | succ n ih =>
        rw [loop_succ, ih, loop_succ _ (n + 1), show x + 1 + n = x + (n + 1) by omega]
    refine ⟨?_, ?_⟩
    · rw [Mm.reservar, hb, h1, hs, List.range'_succ]
    · rwa [hs, show x + 1 + n = x + (n + 1) by omega] at h2

/-! ### The words it writes -/

lemma otraTabla_words {m : Mem} {mm : Mm} {d x n : ℕ} (h : Lleno mm x)
    (hx : x + n ≤ 8 * (mm.memMax / 8)) (hmax : mm.memMax ≤ PAG_MEM) :
    (loop (fun i => otraTabla (4096 * d) (i + 1)) n (m, mm)).1 =
      loop (fun i m => setWord m d (i + 1) (4096 * (x + i) + 1)) n m := by
  induction n with
  | zero => rw [loop_zero, loop_zero]
  | succ n ih =>
    have hmm := otraTabla_loop (4096 * d) n m mm
    obtain ⟨h1, h2⟩ := Lleno.reservar (n := n) h (by omega) hmax
    rw [h1] at hmm
    have hb : buscarMem (setMems x n mm) = x + n :=
      h2.buscar (by rw [setMems_memMax]; omega) (by rwa [setMems_memMax])
    rw [loop_succ, loop_succ, otraTabla, hmm, hb, ih (by omega), setWord, Nat.shiftLeft_eq,
      Nat.mod_eq_of_lt (by simp only [PAG_MEM] at hmax; omega),
      show (x + n) * 2 ^ 12 = 4096 * (x + n) by ring]

lemma entradas_eq (t tab : ℕ) (m : Mem) :
    entradas (4096 * t) tab m =
      fill (t + tab) (fun pag _ => 4096 * (tab * 1024 + pag) + 1) 1024 m := by
  unfold entradas fill
  congr 1
  funext pag m
  rw [setWord, show 4096 * t + 4 * (tab * TAB_PAG_LEN + pag) = 4096 * (t + tab) + 4 * pag by
      simp only [TAB_PAG_LEN]
      ring,
    show pag * 2 ^ 12 + (tab * 2 ^ 22 + 1) = 4096 * (tab * 1024 + pag) + 1 by ring]

/-- The entries of the first `n` tables: table `r` on page `t + r` maps pages `1024 r ..`
onto themselves. -/
lemma entradas_loop {t n : ℕ} {m : Mem} (ht : t + n ≤ 2 ^ 20) (hn : n ≤ 1024) :
    (∀ q < 2 ^ 20, ∀ j < 1024, word (loop (entradas (4096 * t)) n m) q j =
      if t ≤ q ∧ q < t + n then 4096 * ((q - t) * 1024 + j) + 1 else word m q j) ∧
    (∀ a < 2 ^ 32, ¬ (t ≤ a / 4096 ∧ a / 4096 < t + n) →
      rd8 (loop (entradas (4096 * t)) n m) a = rd8 m a) := by
  induction n with
  | zero =>
    refine ⟨fun q _ j _ => ?_, fun a _ _ => by rw [loop_zero]⟩
    rw [if_neg (by omega), loop_zero]
  | succ n ih =>
    obtain ⟨ihw, ihb⟩ := ih (by omega) (by omega)
    rw [loop_succ, entradas_eq]
    refine ⟨fun q hq j hj => ?_, fun a ha hne => ?_⟩
    · rw [word_fill (g := fun pag => 4096 * (n * 1024 + pag) + 1) (by omega) (by omega)
        (fun _ _ _ _ => rfl) hq hj, ihw q hq j hj]
      by_cases hqn : q = t + n
      · subst hqn
        rw [if_pos ⟨rfl, hj⟩, if_pos (by omega), Nat.mod_eq_of_lt (by omega),
          show t + n - t = n by omega]
      · rw [if_neg (by tauto)]
        congr 1
        apply propext
        omega
    · rw [rd8_fill (by omega) (by omega) ha (by omega), ihb a ha (by omega)]

lemma directorio_words {m : Mem} {x n : ℕ} (hx : x + 2 + n ≤ 2 ^ 20) (hn : n < 1024) :
    (∀ r ≤ n, word (loop (fun i m => setWord m x (i + 1) (4096 * (x + 2 + i) + 1)) n
        (wr32 m (4096 * x) (4096 * (x + 1) + 1))) x r = 4096 * (x + 1 + r) + 1) ∧
      (∀ a < 2 ^ 32, a / 4096 ≠ x →
        rd8 (loop (fun i m => setWord m x (i + 1) (4096 * (x + 2 + i) + 1)) n
          (wr32 m (4096 * x) (4096 * (x + 1) + 1))) a = rd8 m a) := by
  induction n with
  | zero =>
    rw [loop_zero]
    refine ⟨fun r hr => ?_, fun a ha hne => rd8_wr32_of_ne fun l hl => by omega⟩
    obtain rfl : r = 0 := by omega
    have h0 := word_setWord_self m x 0 (4096 * (x + 1) + 1)
    rw [setWord, Nat.mul_zero, Nat.add_zero, Nat.mod_eq_of_lt (by omega)] at h0
    exact h0
  | succ n ih =>
    obtain ⟨hw, hf⟩ := ih (by omega) (by omega)
    rw [loop_succ]
    refine ⟨fun r hr => ?_, fun a ha hne => ?_⟩
    · rcases eq_or_ne r (n + 1) with rfl | hne
      · rw [word_setWord_self, Nat.mod_eq_of_lt (by omega)]
        ring
      · rw [word_setWord_of_ne (by omega) (by omega) (by omega) (by omega) (Or.inr hne)]
        exact hw r (by omega)
    · rw [rd8_setWord (by omega) (by omega) ha hne]
      exact hf a ha hne

lemma iniPagDe_spec {n x : ℕ} {k : Kernel} (hn : n < 1024) (h : Lleno k.mm x)
    (hx : x + 2 + n ≤ 8 * (k.mm.memMax / 8)) (hmax : k.mm.memMax ≤ PAG_MEM)
    (hlt : x + 2 + n ≤ 2 ^ 20) :
    (iniPagDe (n + 1) k).gDir = 4096 * x ∧ (iniPagDe (n + 1) k).gTab = 4096 * (x + 1) ∧
      (iniPagDe (n + 1) k).mm = setMems x (n + 2) k.mm ∧
      (∀ r ≤ n, word (iniPagDe (n + 1) k).mem x r = 4096 * (x + 1 + r) + 1) ∧
      (∀ r ≤ n, ∀ j < 1024,
        word (iniPagDe (n + 1) k).mem (x + 1 + r) j = 4096 * (r * 1024 + j) + 1) ∧
      (∀ a < 2 ^ 32, ¬ (x ≤ a / 4096 ∧ a / 4096 < x + 2 + n) →
        rd8 (iniPagDe (n + 1) k).mem a = rd8 k.mem a) := by
  have hb1 := h.buscar (by omega) hmax
  have hb2 : buscarMem (setMem k.mm x).2 = x + 1 :=
    h.marcar.buscar (by rw [setMem_memMax]; omega) (by rwa [setMem_memMax])
  have hdir : (x <<< 12) % 2 ^ 32 = 4096 * x := by
    rw [Nat.shiftLeft_eq, Nat.mod_eq_of_lt (by omega)]
    ring
  have htab : ((x + 1) <<< 12) % 2 ^ 32 = 4096 * (x + 1) := by
    rw [Nat.shiftLeft_eq, Nat.mod_eq_of_lt (by omega)]
    ring
  have hmem : (iniPagDe (n + 1) k).mem = loop (entradas (4096 * (x + 1))) (n + 1)
      (loop (fun i m => setWord m x (i + 1) (4096 * (x + 2 + i) + 1)) n
        (wr32 k.mem (4096 * x) (4096 * (x + 1) + 1))) := by
    unfold iniPagDe
    simp only [hb1, hdir, hb2, htab]
    rw [Nat.add_sub_cancel,
      otraTabla_words h.marcar.marcar (by simp only [setMem_memMax]; omega)
        (by simpa only [setMem_memMax] using hmax)]
  obtain ⟨hdw, hdf⟩ := directorio_words (m := k.mem) (x := x) (n := n) (by omega) hn
  obtain ⟨hw, hf⟩ := entradas_loop (t := x + 1) (n := n + 1)
    (m := loop (fun i m => setWord m x (i + 1) (4096 * (x + 2 + i) + 1)) n
      (wr32 k.mem (4096 * x) (4096 * (x + 1) + 1))) (by omega) (by omega)
  rw [← hmem] at hw hf
  refine ⟨?_, ?_, ?_, fun r hr => ?_, fun r hr j hj => ?_, fun a ha hne => ?_⟩
  · unfold iniPagDe
    simp only [hb1, hdir]
  · unfold iniPagDe
    simp only [hb1, hb2, htab]
  · rw [iniPagDe_mm, (Lleno.reservar h (by omega) hmax).1]
  · rw [hw x (by omega) r (by omega), if_neg (by omega)]
    exact hdw r hr
  · rw [hw (x + 1 + r) (by omega) j hj, if_pos (by omega), show x + 1 + r - (x + 1) = r by omega]
  · rw [hf a ha (by omega)]
    exact hdf a ha (by omega)

/-- **`ini_pag` on a map that is full up to `x`**: the directory on page `x`, the tables on the
1024 pages after it, every entry mapping its page onto itself for the supervisor, and no other
byte written. -/
theorem iniPag_spec {k : Kernel} {x : ℕ} (h : Lleno k.mm x)
    (hx : x + 1 + CAN_TAB_PAG ≤ 8 * (k.mm.memMax / 8)) (hmax : k.mm.memMax ≤ PAG_MEM) :
    (iniPag k).gDir = 4096 * x ∧ (iniPag k).gTab = 4096 * (x + 1) ∧
      (iniPag k).mm = setMems x (1 + CAN_TAB_PAG) k.mm ∧
      (∀ r < 1024, word (iniPag k).mem x r = 4096 * (x + 1 + r) + 1) ∧
      (∀ r < 1024, ∀ j < 1024,
        word (iniPag k).mem (x + 1 + r) j = 4096 * (r * 1024 + j) + 1) ∧
      (∀ a < 2 ^ 32, ¬ (x ≤ a / 4096 ∧ a / 4096 < x + 1 + 1024) →
        rd8 (iniPag k).mem a = rd8 k.mem a) := by
  have hn : CAN_TAB_PAG = 1023 + 1 := rfl
  simp only [CAN_TAB_PAG] at hx
  obtain ⟨h1, h2, h3, h4, h5, h6⟩ := iniPagDe_spec (n := 1023) (by omega) h (by omega) hmax
    (by simp only [PAG_MEM] at hmax; omega)
  rw [iniPag, hn]
  refine ⟨h1, h2, ?_, fun r hr => h4 r (by omega), fun r hr => h5 r (by omega),
    fun a ha hne => h6 a ha (by omega)⟩
  rw [h3]

/-! ### The identity map -/

def tablas (m : Mem) (dir : ℕ) : List ℕ :=
  (List.range DIR_PAG_LEN).map fun r => rd32 m (dir + 4 * r) / PAG_LEN

/-- After `ini_mm` the map is full up to the first page above the kernel and the modules. -/
lemma iniMm_lleno {kernelFin ram : ℕ} {mm : Mm} (hk : KERNEL_INI ≤ kernelFin)
    (hoff : 256 ≤ 8 * ((mm.memOff - 10) / 8)) (hlt : mm.memOff < 2 ^ 32) :
    Lleno (iniMm kernelFin ram mm) (primera kernelFin mm.memOff) := by
  have hi : inicio (iniMm kernelFin ram mm) = (mm.memOff - 10) / 8 := by
    rw [inicio_of_le (by rw [iniMm_memOff]; omega) (by rwa [iniMm_memOff]), iniMm_memOff]
  have hF : mm.memOff ≤ primera kernelFin mm.memOff := le_max_left _ _
  refine ⟨by omega, fun p hp hdp => ?_⟩
  rw [hi] at hdp
  rw [iniMm_ocupada hk hp, decide_eq_true_eq]
  omega

/-- A directory on page `x` with its tables on the pages after it, every entry naming its own page
for the supervisor. -/
structure Identidad (m : Mem) (x : ℕ) : Prop where
  dir : ∀ r < 1024, word m x r = 4096 * (x + 1 + r) + 1
  tablas : ∀ r < 1024, ∀ j < 1024, word m (x + 1 + r) j = 4096 * (r * 1024 + j) + 1

lemma Identidad.paginas {m : Mem} {x : ℕ} (h : Identidad m x) :
    4096 * x / PAG_LEN :: Paging.tablas m (4096 * x) = List.range' x 1025 := by
  have htab : Paging.tablas m (4096 * x) = List.range' (x + 1) 1024 := by
    rw [List.range'_eq_map_range, Paging.tablas]
    refine List.map_congr_left fun r hr => ?_
    rw [← word, h.dir r (List.mem_range.mp hr)]
    simp only [PAG_LEN]
    omega
  have hdirp : 4096 * x / PAG_LEN = x := by
    simp only [PAG_LEN]
    omega
  rw [htab, hdirp, ← List.range'_succ]

lemma Identidad.recorrido {m : Mem} {x v : ℕ} (h : Identidad m x) (hx : x + 1025 ≤ 2 ^ 20)
    (hv : v < 2 ^ 32) :
    Present (pde m (4096 * x) v) ∧ Supervisor (pde m (4096 * x) v) ∧
      Present (pte m (4096 * x) v) ∧ Supervisor (pte m (4096 * x) v) ∧
      phys m (4096 * x) v = v := by
  have hpde : pde m (4096 * x) v = 4096 * (x + 1 + v / 2 ^ 22) + 1 := by
    rw [pde_eq (d := x) (by omega) (by omega)]
    exact h.dir _ (by omega)
  have hpte : pte m (4096 * x) v = 4096 * (v / 4096) + 1 := by
    rw [pte_eq (t := x + 1 + v / 2 ^ 22) (by rw [hpde]; omega)]
    refine (h.tablas _ (by omega) _ (by omega)).trans ?_
    omega
  rw [hpde, hpte, phys_eq, hpte]
  refine ⟨?_, and_four_eq_zero (by omega), ?_, and_four_eq_zero (by omega), by omega⟩
  · rw [Present, and_one]
    omega
  · rw [Present, and_one]
    omega

/-- **The identity map.** After `ini_mm` and `ini_pag` the walk from `g_dir` sends every
address to itself through entries that are present and the supervisor's only, and the
directory and its 1024 tables lie on distinct pages taken from the free ones. -/
theorem iniPag_identidad {kernelFin ram : ℕ} {k : Kernel} (hk : KERNEL_INI ≤ kernelFin)
    (hoff : 256 ≤ 8 * ((k.mm.memOff - 10) / 8))
    (hfit : primera kernelFin k.mm.memOff + 1 + CAN_TAB_PAG ≤ 8 * (ram / 8))
    (hram : ram ≤ PAG_MEM) :
    let k₁ := { k with mm := iniMm kernelFin ram k.mm }
    let k₂ := iniPag k₁
    let paginas := k₂.gDir / PAG_LEN :: tablas k₂.mem k₂.gDir
    (∀ v < 2 ^ 32, Present (pde k₂.mem k₂.gDir v) ∧ Supervisor (pde k₂.mem k₂.gDir v) ∧
      Present (pte k₂.mem k₂.gDir v) ∧ Supervisor (pte k₂.mem k₂.gDir v) ∧
      phys k₂.mem k₂.gDir v = v) ∧
    paginas.Nodup ∧ paginas.length = 1 + CAN_TAB_PAG ∧
    ∀ p ∈ paginas, ocupada k₁.mm p = false ∧ ocupada k₂.mm p = true := by
  intro k₁ k₂ paginas
  set F := primera kernelFin k.mm.memOff with hF
  have hmF : k.mm.memOff ≤ F := le_max_left _ _
  simp only [CAN_TAB_PAG, PAG_MEM] at hfit hram
  have hL : Lleno k₁.mm F := iniMm_lleno hk hoff (by omega)
  have hM : k₁.mm.memMax = ram := iniMm_memMax _ _ _
  obtain ⟨hdir, -, hmm, hd, ht, -⟩ := iniPag_spec hL
    (by rw [hM]; simp only [CAN_TAB_PAG]; omega) (by rw [hM]; simp only [PAG_MEM]; omega)
  have hid : Identidad k₂.mem F := ⟨hd, ht⟩
  have hdir₂ : k₂.gDir = 4096 * F := hdir
  have hpag : paginas = List.range' F 1025 := by
    rw [show paginas = k₂.gDir / PAG_LEN :: tablas k₂.mem k₂.gDir from rfl, hdir₂]
    exact hid.paginas
  refine ⟨fun v hv => ?_, ?_, ?_, fun p hp => ?_⟩
  · rw [hdir₂]
    exact hid.recorrido (by omega) hv
  · rw [hpag]
    exact List.nodup_range'
  · rw [hpag, List.length_range', CAN_TAB_PAG]
  · rw [hpag, List.mem_range'_1] at hp
    have hi := hL.desde
    refine ⟨?_, ?_⟩
    · by_contra hc
      have := (hL.lleno p (by simp only [PAG_MEM]; omega) (by omega)).mp (by simpa using hc)
      omega
    · rw [hmm, setMems_ocupada, Bool.or_eq_true, decide_eq_true_eq]
      exact Or.inr (by simp only [CAN_TAB_PAG]; omega)

/-- On a machine of 32 MB with the modules below page 372, the text screen is where it was. -/
theorem iniPag_identidad_video :
    phys (iniPag { Kernel.cargado (fun _ => 0) with
        mm := iniMm 0x16cb61 8192 ⟨fun _ => 0, 0, 372⟩ }).mem
      (iniPag { Kernel.cargado (fun _ => 0) with
        mm := iniMm 0x16cb61 8192 ⟨fun _ => 0, 0, 372⟩ }).gDir 0xb8000 = 0xb8000 :=
  ((iniPag_identidad 
    (k := { Kernel.cargado (fun _ => 0) with mm := ⟨fun _ => 0, 0, 372⟩ })
    (by decide) (by decide) (by decide) (by decide)).1 0xb8000 (by decide)).2.2.2.2

end Silicio.Paging
