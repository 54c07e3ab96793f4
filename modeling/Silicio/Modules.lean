import Silicio.Owners

/-!
Where `main` lets the allocator begin, and the modules it may then run into.

`main` steps through the list the loader left to its last entry and reserves everything up to
the end of that module. The loader need not list the modules from the lowest to the highest.
-/

namespace Silicio.Modules

open Silicio.Loop Silicio.Bitmap Silicio.Defs Silicio.Mm Silicio.Runs Silicio.Syscall Silicio.Boot
open Silicio.Owners

def addr2pag (addr : ℕ) : ℕ := addr / PAG_LEN

/-- `mod_info` after the loop of `main`, as an index: one step for each `mod_count` from 1 on. -/
def modInfo (modsCount : ℕ) : ℕ := loop (fun _ i => i + 1) (modsCount - 1) 0

/-- What `main` gives `set_mem_off`; without modules it returns instead. -/
def memOff (mods : List Modulo) : Option ℕ :=
  if 0 < mods.length then mods[modInfo mods.length]?.map fun m => addr2pag m.fin + 1 else none

def Toca (ini fin p : ℕ) : Prop := ∃ x, ini ≤ x ∧ x < fin ∧ x / PAG_LEN = p

/-- What `main` finds: the kernel image, the memory, and the list of modules in the order of the
loader. -/
structure Entrada where
  kernelFin : ℕ
  ram : ℕ
  mods : List Modulo
  hfin : KERNEL_INI ≤ kernelFin
  hram : ram ≤ PAG_MEM
  hay : mods ≠ []
  alineado : ∀ m ∈ mods, m.ini % PAG_LEN = 0
  orden : ∀ m ∈ mods, m.ini ≤ m.fin
  lugar : ∀ m ∈ mods, kernelFin ≤ m.ini ∧ m.fin < 2 ^ 32
  disjuntos : mods.Pairwise fun m n => m.fin ≤ n.ini ∨ n.fin ≤ m.ini

/-- The pages the allocator must not hand out. -/
def Entrada.Protegida (e : Entrada) (p : ℕ) : Prop :=
  Toca KERNEL_INI e.kernelFin p ∨ ∃ m ∈ e.mods, Toca m.ini m.fin p

/-- One step of those who ask for pages, with the page it gets: the kernel searches and marks,
or a task calls `sys_mem`. -/
inductive Pide : Kernel → Option ℕ → Kernel → Prop
  | buscar (k : Kernel) :
      Pide k (some (buscarMem k.mm)) { k with mm := (setMem k.mm (buscarMem k.mm)).2 }
  | mem (k : Kernel) {t : ℕ} {r : Regs} (basura : ℕ → ℕ) (hr : r.eax = SYS_MEM) :
      Pide k (concedida r.ebx k.mm) (llamar basura t r k)

def Entrada.Inicial (e : Entrada) (off : ℕ) (k : Kernel) : Prop :=
  k.mm = mmInicial e.kernelFin off e.ram

/-- What `main` sees to: after `ini_mm` the pages of the kernel and of the modules are
reserved, and nobody ever gets one. -/
def Entrada.Protegidos (e : Entrada) (off : ℕ) : Prop :=
  ∀ p, e.Protegida p → ocupada (mmInicial e.kernelFin off e.ram) p = true ∧
    ∀ k k' , Reach (e.Inicial off) Pide k → ¬ Pide k (some p) k'

/-- No module ends above the page in which the last of the list ends. -/
def Entrada.Ultimo (e : Entrada) (off : ℕ) : Prop :=
  ∀ m ∈ e.mods, m.ini < m.fin → m.fin ≤ PAG_LEN * off

/-- The searches do not begin past the end of memory, or the page they then run into is of no
module. -/
def Entrada.Busca (e : Entrada) (off : ℕ) : Prop :=
  (off - 10) / 8 ≤ e.ram / 8 ∨ ¬ e.Protegida (8 * ((off - 10) / 8) + 8)

variable {e : Entrada} {off p : ℕ} {k k' : Kernel}

/-! ### The last module -/

lemma modInfo_eq (n : ℕ) : modInfo n = n - 1 := by
  unfold modInfo
  exact loop_rule (fun i (j : ℕ) => j = i) rfl fun i _ j hj => by rw [hj]

/-- `mem_off` is the page after the one where the last module of the list ends. -/
lemma memOff_eq {mods : List Modulo} (h : mods ≠ []) :
    memOff mods = some (addr2pag (mods.getLast h).fin + 1) := by
  have hlen : 0 < mods.length := List.length_pos_iff.mpr h
  unfold memOff
  rw [if_pos hlen, modInfo_eq, ← List.getLast?_eq_getElem?, List.getLast?_eq_some_getLast h]
  rfl

lemma Entrada.memOff_bounds (e : Entrada) (h : memOff e.mods = some off) :
    256 < off ∧ off ≤ PAG_MEM ∧ e.kernelFin < PAG_LEN * off := by
  rw [memOff_eq e.hay] at h
  obtain rfl := Option.some.inj h
  obtain ⟨h1, h2⟩ := e.lugar _ (List.getLast_mem e.hay)
  have h3 := e.orden _ (List.getLast_mem e.hay)
  have h4 := e.hfin
  simp only [addr2pag, PAG_LEN, PAG_MEM, KERNEL_INI] at h4 ⊢
  omega

/-! ### After `ini_mm` -/

lemma Entrada.protegida_bounds (e : Entrada) (h : e.Protegida p) : 256 ≤ p ∧ p < PAG_MEM := by
  have h4 := e.hfin
  rcases h with ⟨x, h1, h2, rfl⟩ | ⟨m, hm, x, h1, h2, rfl⟩
  · obtain ⟨m, hm⟩ := List.exists_mem_of_ne_nil _ e.hay
    have := e.lugar m hm
    have := e.orden m hm
    simp only [PAG_LEN, PAG_MEM, KERNEL_INI] at h1 ⊢
    omega
  · have := e.lugar m hm
    simp only [PAG_LEN, PAG_MEM, KERNEL_INI] at h4 ⊢
    omega

lemma Entrada.ocupada_iff (e : Entrada) (h : memOff e.mods = some off) (hp : e.Protegida p) :
    ocupada (mmInicial e.kernelFin off e.ram) p = true ↔ p < off := by
  obtain ⟨h256, hmax⟩ := e.protegida_bounds hp
  obtain ⟨-, -, hk⟩ := e.memOff_bounds h
  rw [mmInicial_ocupada e.hfin hmax, decide_eq_true_iff, primera]
  have : e.kernelFin / PAG_LEN + 1 ≤ off := by
    simp only [PAG_LEN] at hk ⊢
    omega
  omega

/-- All the pages are reserved just when the last module of the list is the last in memory. -/
lemma Entrada.reservadas_iff (e : Entrada) (h : memOff e.mods = some off) :
    (∀ p, e.Protegida p → ocupada (mmInicial e.kernelFin off e.ram) p = true) ↔ e.Ultimo off := by
  constructor
  · intro hall m hm hlt
    have hp : e.Protegida ((m.fin - 1) / PAG_LEN) :=
      Or.inr ⟨m, hm, m.fin - 1, by omega, by omega, rfl⟩
    have := (e.ocupada_iff h hp).mp (hall _ hp)
    simp only [PAG_LEN] at this ⊢
    omega
  · intro hu p hp
    rw [e.ocupada_iff h hp]
    obtain ⟨-, -, hk⟩ := e.memOff_bounds h
    rcases hp with ⟨x, -, h2, rfl⟩ | ⟨m, hm, x, h1, h2, rfl⟩
    · simp only [PAG_LEN] at hk ⊢
      omega
    · have := hu m hm (by omega)
      simp only [PAG_LEN] at this ⊢
      omega

/-! ### Afterwards -/

structure Entrada.Inv (e : Entrada) (off : ℕ) (k : Kernel) : Prop where
  memMax : k.mm.memMax = e.ram
  memOff : k.mm.memOff = off
  ocupadas : ∀ p, ocupada (mmInicial e.kernelFin off e.ram) p = true → ocupada k.mm p = true

lemma Entrada.Inv.marcar (h : e.Inv off k) {mm : Mm} (q : ℕ)
    (hmm : mm = (setMem k.mm q).2) (hk : k'.mm = mm) : e.Inv off k' := by
  subst hmm
  refine ⟨?_, ?_, fun p hp => ?_⟩
  · rw [hk, setMem_memMax, h.memMax]
  · rw [hk, setMem_memOff, h.memOff]
  · rw [hk, ocupada_setMem, h.ocupadas p hp, Bool.true_or]

lemma Entrada.Inv.pide (h : e.Inv off k) {o : Option ℕ} (hs : Pide k o k') : e.Inv off k' := by
  cases hs with
  | buscar => exact h.marcar (buscarMem k.mm) rfl rfl
  | @mem t r basura hr =>
    have hmm := llamar_mem_mm basura t k hr
    cases hc : concedida r.ebx k.mm with
    | none =>
      rw [hc] at hmm
      exact ⟨hmm ▸ h.memMax, hmm ▸ h.memOff, hmm ▸ h.ocupadas⟩
    | some q =>
      rw [hc] at hmm
      exact h.marcar q rfl hmm

lemma Entrada.run_inv (h : Reach (e.Inicial off) Pide k) : e.Inv off k := by
  refine h.invariant (P := e.Inv off) (fun k hk => ?_) fun k o k' hk hs => hk.pide hs
  exact ⟨by rw [hk, mmInicial_memMax], by rw [hk, mmInicial_memOff], fun p hp => hk ▸ hp⟩

lemma Entrada.Inv.inicio (h : e.Inv off k) (h10 : 10 ≤ off) (hoff : off ≤ PAG_MEM) :
    inicio k.mm = (off - 10) / 8 := by
  have hm := h.memOff
  rw [inicio_of_le (by omega) (by rw [hm]; simp only [PAG_MEM] at hoff; omega), hm]

/-- **What a search returns** is page 0, a free page, or the page it runs into when it begins
past the end of memory. -/
lemma buscarMem_cases {mm : Mm} (hmax : mm.memMax < 2 ^ 32) (hini : 8 * inicio mm + 8 < 2 ^ 32) :
    buscarMem mm = 0 ∨ ocupada mm (buscarMem mm) = false ∨
      mm.memMax / 8 < inicio mm ∧ buscarMem mm = 8 * inicio mm + 8 := by
  rcases le_or_gt (inicio mm) (mm.memMax / 8) with hw | hw
  · by_cases h0 : buscarMem mm = 0
    · exact Or.inl h0
    · exact Or.inr (Or.inl (buscarMem_libre hw hmax h0).2.2)
  · obtain ⟨s, hs8, hb, -, hlibre⟩ := buscarMem_fuera_spec hw
    rw [Nat.mod_eq_of_lt (by omega)] at hb
    rw [hb]
    rcases Nat.lt_or_ge s 8 with hlt | hge
    · exact Or.inr (Or.inl (hlibre hlt))
    · exact Or.inr (Or.inr ⟨hw, by omega⟩)

lemma Entrada.Inv.seguro (h : e.Inv off k) (hoff : Modules.memOff e.mods = some off)
    (hu : e.Ultimo off) (hb : e.Busca off) (hp : e.Protegida p) : ¬ Pide k (some p) k' := by
  obtain ⟨h256, hmax, -⟩ := e.memOff_bounds hoff
  have hocu : ocupada k.mm p = true := h.ocupadas p ((e.reservadas_iff hoff).mpr hu p hp)
  have hini := h.inicio (by omega) hmax
  have hram := e.hram
  simp only [PAG_MEM] at hmax hram
  intro hs
  generalize ho : some p = o at hs
  cases hs with
  | buscar =>
    obtain rfl := Option.some.inj ho
    have hkmax : k.mm.memMax < 2 ^ 32 := by
      rw [h.memMax]
      omega
    rcases buscarMem_cases hkmax (by omega) with h0 | hf | ⟨hw, hq⟩
    · have := (e.protegida_bounds hp).1
      omega
    · rw [hf] at hocu
      cases hocu
    · rw [h.memMax, hini] at hw
      rw [hq, hini] at hp
      exact (hb.resolve_left (by omega)) hp
  | mem basura hr =>
    rw [(concedida_libre ho.symm).1] at hocu
    cases hocu

/-! ### When the search begins past the end -/

lemma concedida_pagina {mm : Mm} {q : ℕ} (hq : q ≠ 0) :
    (match concedida q mm with
      | some p => (setMem mm p).2
      | none => mm) = (setMem mm q).2 := by
  unfold concedida
  simp only [hq, false_and, if_false]
  by_cases hf : ocupada mm q = true
  · rw [if_neg (by rw [setMem_fst, hf]; exact Bool.noConfusion), setMem_eq, if_pos hf]
  · rw [if_pos ((setMem_fst _ _).mpr (by simpa using hf))]

lemma pedir_paginas (hr : Reach (e.Inicial off) Pide k) {a : ℕ} (ha : a ≠ 0) (n : ℕ) :
    ∃ k', Reach (e.Inicial off) Pide k' ∧ ∀ p, a ≤ p → p < a + n → ocupada k'.mm p = true := by
  induction n with
  | zero => exact ⟨k, hr, fun p h1 h2 => by omega⟩
  | succ n ih =>
    obtain ⟨k₁, hr₁, hk₁⟩ := ih
    have hmm := (llamar_mem_mm (fun _ => 0) 0 k₁ (r := ⟨SYS_MEM, a + n, 0, 0⟩) rfl).trans
      (concedida_pagina (q := a + n) (by omega))
    refine ⟨_, hr₁.step (.mem k₁ (t := 0) (r := ⟨SYS_MEM, a + n, 0, 0⟩) (fun _ => 0) rfl),
      fun p h1 h2 => ?_⟩
    rw [hmm, ocupada_setMem, Bool.or_eq_true, decide_eq_true_iff]
    rcases Nat.lt_or_ge p (a + n) with hlt | hge
    · exact Or.inl (hk₁ p h1 hlt)
    · exact Or.inr (by omega)

/-- When the pages of the byte are all taken the search runs into the next one. -/
lemma choque (hoff : memOff e.mods = some off) (hw : e.ram / 8 < (off - 10) / 8) :
    ∃ k k', Reach (e.Inicial off) Pide k ∧ Pide k (some (8 * ((off - 10) / 8) + 8)) k' := by
  obtain ⟨h256, hmax, -⟩ := e.memOff_bounds hoff
  have h0 : Reach (e.Inicial off) Pide
    { Kernel.cargado (fun _ => 0) with mm := mmInicial e.kernelFin off e.ram } := .init rfl
  obtain ⟨k, hr, hlleno⟩ := pedir_paginas h0 (a := 8 * ((off - 10) / 8)) (by omega) 8
  have hi := Entrada.run_inv hr
  have hini := hi.inicio (by omega) hmax
  simp only [PAG_MEM] at hmax
  refine ⟨k, { k with mm := (setMem k.mm (buscarMem k.mm)).2 }, hr, ?_⟩
  have hkw : k.mm.memMax / 8 < inicio k.mm := by
    rw [hi.memMax, hini]
    exact hw
  have hb := buscarMem_fuera_lleno hkw (by rwa [hini])
  rw [hini, Nat.mod_eq_of_lt (by omega)] at hb
  rw [← hb]
  exact .buscar k

/-- **The modules are safe from the allocator** just when none lies above the last of the list
and the searches do not begin past the end of memory and run into a page of the kernel or of a
module. A page past the map has its bit elsewhere, in the code and here: it frees none. -/
theorem modulos_protegidos (e : Entrada) : ∃ off, memOff e.mods = some off ∧
    (e.Protegidos off ↔ e.Ultimo off ∧ e.Busca off) := by
  refine ⟨_, memOff_eq e.hay, ?_⟩
  have hoff := memOff_eq e.hay
  generalize addr2pag (e.mods.getLast e.hay).fin + 1 = off at hoff ⊢
  constructor
  · intro h
    refine ⟨(e.reservadas_iff hoff).mp fun p hp => (h p hp).1, ?_⟩
    by_contra hc
    simp only [Entrada.Busca, not_or, not_not, not_le] at hc
    obtain ⟨k, k', hr, hs⟩ := choque hoff hc.1
    exact (h _ hc.2).2 k k' hr hs
  · rintro ⟨hu, hb⟩ p hp
    exact ⟨(e.reservadas_iff hoff).mpr hu p hp, fun k k' hr =>
      (Entrada.run_inv hr).seguro hoff hu hb hp⟩

/-! ### A list from the highest to the lowest -/

def invertida : Entrada where
  kernelFin := 0x100800
  ram := 0x8000
  mods := [⟨0x104000, 0x106000, fun _ => 0⟩, ⟨0x101000, 0x102000, fun _ => 0⟩]
  hfin := by decide
  hram := by decide
  hay := by simp
  alineado := by simp [PAG_LEN]
  orden := by simp
  lugar := by simp
  disjuntos := by simp

/-- Nobody has reserved the pages of the module above. -/
theorem modulo_sin_reserva : memOff invertida.mods = some 259 ∧ invertida.Protegida 261 ∧
    ocupada (mmInicial invertida.kernelFin 259 invertida.ram) 261 = false ∧
    ¬ invertida.Protegidos 259 := by
  have hp : invertida.Protegida 261 :=
    Or.inr ⟨_, List.mem_cons_self, 0x105000, by decide, by decide, rfl⟩
  have hf : ocupada (mmInicial invertida.kernelFin 259 invertida.ram) 261 = false := by
    rw [mmInicial_ocupada invertida.hfin (by decide)]
    decide
  refine ⟨memOff_eq invertida.hay, hp, hf, fun h => ?_⟩
  rw [(h 261 hp).1] at hf
  cases hf

end Silicio.Modules
