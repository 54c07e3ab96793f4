import Silicio.Walk

/-!
A buffer checked at its two ends.

`sys_read` and `sys_write` translate the first and the last byte of a buffer of at most a page
and then walk physical addresses. Between the two there is at most one page boundary, and no two
pages on either side of one are open to a task unless they stand side by side in memory as well:
the module and the stack of a task lie among pages that nobody is ever granted.
-/

namespace Silicio.Buffers

open Silicio.Loop Silicio.Bitmap Silicio.Bytes Silicio.Defs Silicio.Mm Silicio.Mmu Silicio.Paging
open Silicio.Tasks Silicio.Registry Silicio.Runs Silicio.Syscall Silicio.Boot Silicio.Owners
open Silicio.Tables Silicio.Layout Silicio.Walk

def Contigua (k : Kernel) (t : ℕ) : Prop :=
  ∀ a < 2 ^ 32, ∀ n, 1 ≤ n → n ≤ 4096 → checkAddr a t k ≠ 0 →
    checkAddr ((a + n - 1) % 2 ^ 32) t k ≠ 0 →
    ∀ i < n, checkAddr ((a + i) % 2 ^ 32) t k = checkAddr a t k + i

variable {b : Maquina} {g : Historia} {k k' : Kernel} {s s' : Kernel × Historia} {t u v : ℕ}

/-! ### Pages nobody is granted -/

/-- From the second megabyte to the last of the kernel's tables all pages are taken, and none of
them has been granted. -/
structure Fuera (b : Maquina) (s : Kernel × Historia) : Prop where
  ocupadas : ∀ p, 256 ≤ p → p ≤ b.raiz + 1024 → ocupada s.1.mm p = true
  concesiones : ∀ t p, (t, p) ∈ s.2.concesiones → p < 256 ∨ b.raiz + 1024 < p

lemma inicial_fuera (hv : b.Ventana) (h : Boot.Inicial b s) : Fuera b s := by
  obtain rfl := h
  refine ⟨fun p h1 h2 => ?_, fun t p htp => absurd htp List.not_mem_nil⟩
  obtain ⟨-, -, hr, hl⟩ := limites hv
  rw [arranque_mm_eq b hv, setMems_ocupada,
    mmInicial_ocupada b.hfin (by simp only [PAG_MEM]; omega),
    Bool.or_eq_true, decide_eq_true_eq, decide_eq_true_eq, ← Maquina.raiz]
  simp only [CAN_TAB_PAG]
  omega

/-- **No step frees one of them**, so none of them is granted. -/
lemma Fuera.paso (h : Fuera b s) {e : Boot.Evento} (hs : Boot.Paso b s e s') : Fuera b s' := by
  cases hs with
  | @carga k g i m usuario hm hi h0 =>
    by_cases ha : Admite m.ini m.fin k
    · refine ⟨fun p h1 h2 => ?_, fun t p htp => ?_⟩
      · rw [cargar_admite usuario ha, reservar_ocupada, setMems_ocupada, h.ocupadas p h1 h2]
        exact Or.inl rfl
      · rw [Historia.cargar, if_pos ha] at htp
        exact h.concesiones t p htp
    · rw [cargar_noAdmite usuario ha, Historia.cargar, if_neg ha]
      exact h
  | video =>
    refine ⟨fun p h1 h2 => ?_, h.concesiones⟩
    have hp := h.ocupadas p h1 h2
    simp only at hp
    simp only [soltarVideo, ocupada_unsetMem, hp, Bool.true_and, Bool.and_eq_true,
      decide_eq_true_eq]
    omega
  | @mem k g t r basura ht hr hp =>
    have hmm := llamar_mem_mm basura t k hr
    unfold Historia.conceder
    cases hc : concedida r.ebx k.mm with
    | none =>
      rw [hc] at hmm
      exact ⟨fun p h1 h2 => by rw [hmm]; exact h.ocupadas p h1 h2, h.concesiones⟩
    | some q =>
      rw [hc] at hmm
      refine ⟨fun p h1 h2 => ?_, fun t' p htp => ?_⟩
      · rw [hmm, ocupada_setMem, h.ocupadas p h1 h2, Bool.true_or]
      · rcases mem_concat.mp htp with htp | htp
        · exact h.concesiones t' p htp
        · obtain ⟨-, rfl⟩ := Prod.mk.inj htp
          by_contra hno
          have := h.ocupadas p (by omega) (by omega)
          rw [(concedida_libre hc).1] at this
          cases this

lemma run_fuera (hv : b.Ventana) (h : Reach (Boot.Inicial b) (Boot.Paso b) s) : Fuera b s :=
  h.invariant (fun _ h => inicial_fuera hv h) fun _ _ _ h hs => h.paso hs

/-! ### Two pages side by side -/

section
variable (h : Tables.Inv b (k, g))
include h

/-- An open entry is one `exec` set in the task's own table, or it is of a granted page. -/
lemma muestra_cases {r j : ℕ} (hM : Muestra g u r j) :
    (3 ≤ u ∧ r = 0 ∧ ∃ e, g.cargas[u - 3]? = some e ∧ Especial e.pag j) ∨
      ∃ t, (t, 1024 * r + j) ∈ g.concesiones := by
  unfold Muestra at hM
  split at hM
  · next hu =>
    obtain ⟨rfl, he⟩ : r = 0 ∧ _ := ⟨hu.2, hM⟩
    obtain ⟨e, he, hE | hE | ⟨t, hE, -⟩⟩ := he
    · exact Or.inl ⟨hu.1, rfl, e, he, hE⟩
    · exact Or.inr ⟨_, by simpa using hE⟩
    · exact Or.inr ⟨t, by simpa using h.antes e (List.mem_of_getElem? he) _ hE⟩
  · obtain ⟨t, ht, -⟩ := hM
    exact Or.inr ⟨t, ht⟩

lemma checkAddr_muestra (hv : b.Ventana) (hu : Tarea k u) (h32 : v < 2 ^ 32) :
    (checkAddr v u k ≠ 0 → Muestra g u (v / 2 ^ 22) (v / 4096 % 1024)) ∧
      (Muestra g u (v / 2 ^ 22) (v / 4096 % 1024) → checkAddr v u k =
        4096 * paginaDe g u (v / 2 ^ 22) (v / 4096 % 1024) + v % 4096) := by
  obtain ⟨-, hpte⟩ := entradas h hv hu h32
  rw [checkAddr_eq]
  constructor
  · intro hne
    by_contra hM
    exact hne (if_neg fun h7 => hM (hpte.mod_eight.mp h7))
  · intro hM
    rw [if_pos (hpte.mod_eight.mpr hM), phys_pagina h hv hu h32]

variable (hf : Fuera b (k, g)) (hv : b.Ventana)
include hf hv

lemma concedida_lejos {p : ℕ} (hp : (t, p) ∈ g.concesiones) : p ≠ 0 ∧ (p < 256 ∨ 1290 ≤ p) := by
  have h0 := (h.concesiones t p hp).2.2
  have hr := hf.concesiones t p hp
  have hoff := b.hoff
  obtain ⟨-, hraiz, -, -⟩ := limites hv
  omega

lemma cero_cerrada : ¬ Muestra g u 0 0 := by
  intro hM
  rcases muestra_cases h hM with ⟨-, -, e, -, hE⟩ | ⟨t, ht⟩
  · simp only [Especial, V_USER, V_STACK] at hE
    omega
  · exact (concedida_lejos h hf hv ht).1 rfl

lemma paginaDe_succ {p : ℕ} (hM : Muestra g u (p / 1024) (p % 1024))
    (hM' : Muestra g u ((p + 1) / 1024) ((p + 1) % 1024)) :
    paginaDe g u ((p + 1) / 1024) ((p + 1) % 1024) = paginaDe g u (p / 1024) (p % 1024) + 1 := by
  by_cases hu : 3 ≤ u ∧ p / 1024 = 0
  · have hlt : p < 1024 := by omega
    rcases muestra_cases h hM with ⟨-, -, e, he, hE⟩ | ⟨t, ht⟩
    · have hbajo := (h.modulo e (List.mem_of_getElem? he))
      obtain ⟨-, -, -, -, hpag⟩ := hbajo
      simp only [MAX_PAG_DRIVER] at hpag
      rcases muestra_cases h hM' with ⟨-, h0, e', he', hE'⟩ | ⟨t, ht⟩
      · obtain rfl : e = e' := Option.some.inj (he.symm.trans he')
        unfold paginaDe
        rw [if_pos (by omega), if_pos hu, he]
        simp only [Option.map_some, Option.getD_some, destino, Especial, V_USER, V_STACK]
          at hE hE' ⊢
        split_ifs <;> omega
      · -- nobody is granted the page after the module or after the stack
        have := concedida_lejos h hf hv ht
        simp only [Especial, V_USER, V_STACK] at hE
        omega
    · have hp := concedida_lejos h hf hv ht
      rcases muestra_cases h hM' with ⟨-, -, e, he, hE⟩ | ⟨t', ht'⟩
      · -- nor the page before
        simp only [Especial, V_USER, V_STACK] at hE
        omega
      · have hp' := concedida_lejos h hf hv ht'
        obtain ⟨e, he, -⟩ : ∃ e, g.cargas[u - 3]? = some e ∧ Usa g (u - 3) e (p % 1024) := by
          have := hM
          unfold Muestra at this
          rwa [if_pos hu] at this
        have hpag := (h.modulo e (List.mem_of_getElem? he))
        unfold paginaDe
        rw [if_pos (by omega), if_pos hu, he]
        simp only [Option.map_some, Option.getD_some, destino, V_USER, V_STACK]
        rw [if_neg (by omega), if_neg (by omega), if_neg (by omega), if_neg (by omega)]
        omega
  · unfold paginaDe
    rw [if_neg hu]
    split
    · omega
    · omega

/-- **A buffer of a page at most** that is open at both ends is contiguous. -/
lemma contigua (hu : Tarea k u) : Contigua k u := by
  intro a ha n h1 h4096 hini hfin i hi
  have hM := (checkAddr_muestra h hv hu ha).1 hini
  have hMfin := (checkAddr_muestra h hv hu (Nat.mod_lt _ (by decide))).1 hfin
  rw [(checkAddr_muestra h hv hu ha).2 hM]
  rw [show a / 2 ^ 22 = a / 4096 / 1024 by omega] at hM ⊢
  rcases Nat.lt_or_ge (a % 4096 + i) 4096 with hlt | hge
  · -- the byte is on the first page
    have hpag : (a + i) % 2 ^ 32 / 4096 = a / 4096 := by omega
    have hM' := hM
    rw [← hpag, show (a + i) % 2 ^ 32 / 4096 / 1024 = (a + i) % 2 ^ 32 / 2 ^ 22 by omega] at hM'
    rw [(checkAddr_muestra h hv hu (Nat.mod_lt _ (by decide))).2 hM',
      show (a + i) % 2 ^ 32 / 2 ^ 22 = (a + i) % 2 ^ 32 / 4096 / 1024 by omega, hpag]
    omega
  · -- it is on the page of the last byte
    have hlast : (a + n - 1) % 2 ^ 32 / 4096 = (a + i) % 2 ^ 32 / 4096 := by omega
    rw [show (a + n - 1) % 2 ^ 32 / 2 ^ 22 = (a + n - 1) % 2 ^ 32 / 4096 / 1024 by omega,
      hlast] at hMfin
    rcases Nat.lt_or_ge (a + i) (2 ^ 32) with hno | hwrap
    · have hpag : (a + i) % 2 ^ 32 / 4096 = a / 4096 + 1 := by omega
      have hM' := hMfin
      rw [show (a + i) % 2 ^ 32 / 4096 / 1024 = (a + i) % 2 ^ 32 / 2 ^ 22 by omega] at hM'
      rw [(checkAddr_muestra h hv hu (Nat.mod_lt _ (by decide))).2 hM',
        show (a + i) % 2 ^ 32 / 2 ^ 22 = (a + i) % 2 ^ 32 / 4096 / 1024 by omega, hpag]
      rw [hpag] at hMfin
      rw [paginaDe_succ h hf hv hM hMfin]
      omega
    · have h0 : (a + i) % 2 ^ 32 / 4096 = 0 := by omega
      rw [h0] at hMfin
      exact absurd hMfin (cero_cerrada h hf hv)

end

/-- **A buffer accepted by its two ends is contiguous**, for every task in every state of every
run of a boot whose searches do not begin past the end of memory. -/
theorem buffer_contiguo (hv : b.Ventana) (h : Reach (Boot.Inicial b) (Boot.Paso b) s)
    (ht : Tarea s.1 t) : Contigua s.1 t := by
  exact contigua (tablas_en_todo_estado hv h) (run_fuera hv h) hv ht

/-- The first of three modules, after a grant. -/
theorem buffer_contiguo_tres : Contigua (pide 3 5000 (nucleoTres 3)) 3 := by
  have hr := (cargada_spec (nucleoTres_spec le_rfl).1).1.step pide_tres.1
  have ht : Tarea (pide 3 5000 (nucleoTres 3)) 3 := pide_tarea.mpr (tres_tarea (by decide))
  have hcon := buffer_contiguo tres_ventana hr ht
  exact hcon

/-! ### When the searches begin past the end -/

lemma otraTabla_resto {d n : ℕ} (hd : d < 2 ^ 20) (hn : n < 1024) (m : Mem) (mm : Mm) {a : ℕ}
    (ha : a < 2 ^ 32) (hne : a / 4096 ≠ d) :
    rd8 (loop (fun i => otraTabla (4096 * d) (i + 1)) n (m, mm)).1 a = rd8 m a := by
  refine loop_rule (fun _ (s : Mem × Mm) => rd8 s.1 a = rd8 m a) rfl fun i hi s hs => ?_
  rw [otraTabla]
  exact (rd8_wr32_of_ne fun j hj => by omega).trans hs

/-- The directory and every table are on one page, `x`: what is left there is the table of the
first region, and as a directory it sends region `r` to a table on page `r`. -/
lemma iniPag_fuera {k : Kernel} {x : ℕ} (hw : k.mm.memMax / 8 < inicio k.mm)
    (hx : 8 * inicio k.mm + 8 = x) (hlt : x + 1024 ≤ 2 ^ 20)
    (hfull : ∀ p, 8 * inicio k.mm ≤ p → p < x → ocupada k.mm p = true) :
    (iniPag k).gDir = 4096 * x ∧ (∀ r < 1024, word (iniPag k).mem x r = 4096 * r + 1) ∧
      ∀ a < 2 ^ 32, ¬ (x ≤ a / 4096 ∧ a / 4096 < x + 1024) →
        rd8 (iniPag k).mem a = rd8 k.mem a := by
  have h1 : buscarMem k.mm = x := by
    rw [buscarMem_fuera_lleno hw fun p hp hp' => hfull p hp (by omega), hx]
    exact Nat.mod_eq_of_lt (by omega)
  have h2 : buscarMem (setMem k.mm x).2 = x := by
    have hini : inicio (setMem k.mm x).2 = inicio k.mm := by simp only [inicio, setMem_memOff]
    rw [buscarMem_fuera_lleno (by rwa [hini, setMem_memMax]), hini, hx]
    · exact Nat.mod_eq_of_lt (by omega)
    · intro p hp hp'
      rw [hini] at hp hp'
      rw [ocupada_setMem, hfull p hp (by omega), Bool.true_or]
  have hdir : (x <<< 12) % 2 ^ 32 = 4096 * x := by
    rw [Nat.shiftLeft_eq]
    omega
  unfold iniPag iniPagDe
  simp only [h1, h2, hdir, CAN_TAB_PAG]
  obtain ⟨hwords, hresto⟩ := entradas_loop (t := x) (n := 1024) (m := (loop (fun i =>
    otraTabla (4096 * x) (i + 1)) (1024 - 1) (wr32 k.mem (4096 * x) (4096 * x + 1),
      (setMem (setMem k.mm x).2 x).2)).1) hlt le_rfl
  refine ⟨trivial, fun r hr => ?_, fun a ha hno => ?_⟩
  · rw [hwords x (by omega) r hr, if_pos (by omega)]
    omega
  · rw [hresto a ha hno, otraTabla_resto (by omega) (by decide) _ _ ha (by omega)]
    exact rd8_wr32_of_ne fun j hj => by omega

/-- What is found at address 0 reads as a table that sends pages 5 and 6 apart. -/
def memHueco : Mem := fun x =>
  if x = 0x14 then 0x07 else if x = 0x15 then 0x40 else if x = 0x16 then 0x06
  else if x = 0x18 then 0x07 else if x = 0x19 then 0x80 else if x = 0x1a then 0x0c
  else 0

def huecoCon : Maquina := { hueco with mem := memHueco }

lemma hueco_directorio : (iniPag huecoCon.tablas).gDir = 4096 * 4096 ∧
    (∀ r < 1024, word (iniPag huecoCon.tablas).mem 4096 r = 4096 * r + 1) ∧
    ∀ j < 1024, word (iniPag huecoCon.tablas).mem 0 j = word memHueco 0 j := by
  have hmm := tablas_mm huecoCon
  have hini : inicio huecoCon.tablas.mm = 511 := by
    rw [hmm]
    exact mmInicial_inicio (by decide) (by decide)
  obtain ⟨h1, h2, h3⟩ := iniPag_fuera (k := huecoCon.tablas) (x := 4096)
    (by rw [hini, hmm, mmInicial_memMax]; decide) (by rw [hini]) (by decide) (fun p hp hp' => by
      rw [hini] at hp
      rw [hmm, mmInicial_ocupada huecoCon.hfin (by simp only [PAG_MEM]; omega)]
      have : primera huecoCon.kernelFin huecoCon.memOff = 4101 := by decide
      rw [this, decide_eq_true_eq]
      omega)
  refine ⟨h1, h2, fun j hj => ?_⟩
  have hmem : huecoCon.tablas.mem = memHueco := tablas_mem huecoCon
  refine (rd32_congr fun c hc => ?_).trans (congrArg (fun m => word m 0 j) hmem)
  exact h3 _ (by omega) (by omega)

lemma checkAddr_propia {d q w : ℕ} (hd : d < 2 ^ 20) (hdir : (iniPag b.tablas).gDir = 4096 * d)
    (hq : word (iniPag b.tablas).mem d (v / 2 ^ 22) / 4096 = q)
    (hw : word (iniPag b.tablas).mem q (v / 4096 % 1024) = w) (h7 : w % 8 = 7) :
    checkAddr v 0 b.arranque = w / 4096 * 4096 + v % 4096 := by
  have hmem : b.arranque.mem = (iniPag b.tablas).mem :=
    (propia_mem b 2 _).trans ((propia_mem b 1 _).trans (propia_mem b 0 _))
  have hreg := arranque_registro b
  have hcr3 : (b.arranque.tssOf 0).cr3 = 4096 * d := by
    rw [hreg.tssOf (hreg.tarea_iff.mpr (by decide)), arranque_cr3 b (by decide), hdir]
  have hpde : pde b.arranque.mem (b.arranque.tssOf 0).cr3 v / 4096 = q := by
    rw [pde_eq hd (by rw [hcr3]; omega), hmem, hq]
  have hpte := pte_eq hpde
  rw [hmem, hw] at hpte
  rw [checkAddr_eq, phys_eq, hmem, hpte, if_pos h7]

lemma hueco_checkAddr {w : ℕ} (hlt : v < 2 ^ 22) (hw : word memHueco 0 (v / 4096) = w)
    (h7 : w % 8 = 7) : checkAddr v 0 huecoCon.arranque = w / 4096 * 4096 + v % 4096 := by
  obtain ⟨hdir, hraiz, htabla⟩ := hueco_directorio
  refine checkAddr_propia (q := 0) (by decide) hdir ?_ ?_ h7
  · rw [hraiz _ (by omega)]
    omega
  · rw [htabla _ (by omega), show v / 4096 % 1024 = v / 4096 by omega, hw]

/-- Both ends of 4096 bytes from 0x5001 on are accepted, and the last byte is not where the
others lead. -/
theorem buffer_partido : Reach (Boot.Inicial huecoCon) (Boot.Paso huecoCon)
      (huecoCon.arranque, ⟨[], [], false⟩) ∧ Tarea huecoCon.arranque 0 ∧
    checkAddr 0x5001 0 huecoCon.arranque = 0x64001 ∧
    checkAddr (0x5001 + 4095) 0 huecoCon.arranque = 0xc8000 ∧ ¬ Contigua huecoCon.arranque 0 := by
  have hreg := arranque_registro huecoCon
  have h1 : checkAddr 0x5001 0 huecoCon.arranque = 0x64001 := by
    exact hueco_checkAddr (w := 0x64007) (by decide) (by decide) (by decide)
  have h2 : checkAddr (0x5001 + 4095) 0 huecoCon.arranque = 0xc8000 := by
    exact hueco_checkAddr (w := 0xc8007) (by decide) (by decide) (by decide)
  refine ⟨.init rfl, hreg.tarea_iff.mpr (by decide), h1, h2, fun h => ?_⟩
  have := h 0x5001 (by decide) 4096 (by decide) le_rfl (by rw [h1]; decide)
    (by rw [show (0x5001 + 4096 - 1) % 2 ^ 32 = 0x5001 + 4095 by decide, h2]; decide) 4095
    (by decide)
  rw [show (0x5001 + 4095) % 2 ^ 32 = 0x5001 + 4095 by decide, h1, h2] at this
  exact absurd this (by decide)

end Silicio.Buffers
