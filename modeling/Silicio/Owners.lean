import Silicio.Boot
import Silicio.Ledger

/-!
Who owns each physical page.

A ledger of pages stands over the bitmap: its marks are the bits, its owners are the first
megabyte, the kernel image, the modules, the kernel's page tables, the pages taken for each
task, and each grant of `sys_mem`. Every step of a run is a step of the ledger as long as the
search returns free pages, and it does when its window does not start past its end. When it
does, the search looks at a byte of pages all taken and returns the page after them, free or
not, and nobody looks at what `set_mem` says to that.
-/

namespace Silicio.Owners

open Silicio.Bitmap Silicio.Defs Silicio.Mm Silicio.Tasks Silicio.Registry Silicio.Runs
open Silicio.Ledger Silicio.Syscall Silicio.Boot

/-- The owners; loads and grants are counted from 0. -/
inductive Dueno
  | megabyte
  | nucleo
  | modulo (i : ℕ)
  | directorio
  | tabla (r : ℕ)
  | dir (c : ℕ)
  | tab (c : ℕ)
  | pila (c : ℕ)
  | concesion (j : ℕ)

/-- Page `p` belongs to `o`. The first megabyte is without the pages `ini_mm` and, later,
`task_control` give up. -/
def Posee (b : Maquina) (g : Historia) : Dueno → ℕ → Prop
  | .megabyte, p => p < MEGABYTES / PAG_LEN ∧ ¬ (pagVideo ≤ p ∧ p < pagVideo + 8) ∧
      ¬ (g.video = true ∧ (p = 0xb8 ∨ p = 0xb9))
  | .nucleo, p => KERNEL_INI / PAG_LEN ≤ p ∧ p ≤ b.kernelFin / PAG_LEN
  | .modulo i, p => ∃ m, b.modulos[i]? = some m ∧ m.Pagina p
  | .directorio, p => b.paginas[0]? = some p
  | .tabla r, p => r < CAN_TAB_PAG ∧ b.paginas[r + 1]? = some p
  | .dir c, p => ∃ e, g.cargas[c]? = some e ∧ p = e.espacio.dir
  | .tab c, p => ∃ e, g.cargas[c]? = some e ∧ p = e.espacio.tabla
  | .pila c, p => ∃ e, g.cargas[c]? = some e ∧ p = e.espacio.pila
  | .concesion j, p => ∃ t, g.concesiones[j]? = some (t, p)

/-- Each page has at most one owner, and the bit of an owned page is set. -/
structure Repartida (b : Maquina) (s : Kernel × Historia) : Prop where
  uno : ∀ o o' p, Posee b s.2 o p → Posee b s.2 o' p → o = o'
  marcada : ∀ o p, Posee b s.2 o p → ocupada s.1.mm p = true

structure Refleja (b : Maquina) (L : Libro Dueno ℕ) (s : Kernel × Historia) : Prop where
  owns : ∀ o p, L.owns o p ↔ Posee b s.2 o p
  marked : ∀ p, L.marked p ↔ ocupada s.1.mm p = true

lemma Refleja.repartida {b : Maquina} {L : Libro Dueno ℕ} {s : Kernel × Historia}
    (h : Refleja b L s) : Repartida b s :=
  ⟨fun o o' p ho ho' => L.sole ((h.owns o p).mpr ho) ((h.owns o' p).mpr ho'),
    fun o p ho => (h.marked p).mp (L.marked_of_owns ((h.owns o p).mpr ho))⟩

variable {b : Maquina} {s s' : Kernel × Historia} {g : Historia} {k : Kernel}

/-! ### At the start -/

lemma limites (hv : b.Ventana) : 256 ≤ b.kernelFin / 4096 ∧
    b.raiz = max b.memOff (b.kernelFin / 4096 + 1) ∧ b.raiz + 1025 ≤ b.ram ∧ b.ram ≤ 2 ^ 20 := by
  have hk := b.hfin
  have hc := raiz_cabe b hv
  have hr := b.hram
  simp only [KERNEL_INI, PAG_MEM, CAN_TAB_PAG] at hk hc hr
  exact ⟨by omega, rfl, by omega, by omega⟩

lemma posee_inicial (hv : b.Ventana) {o : Dueno} {p : ℕ} (h : Posee b ⟨[], [], false⟩ o p) :
    (o = .megabyte ∧ p < 252) ∨
    (o = .nucleo ∧ 256 ≤ p ∧ p ≤ b.kernelFin / 4096) ∨
    (∃ i m, o = .modulo i ∧ b.modulos[i]? = some m ∧ m.Pagina p ∧ b.kernelFin / 4096 < p ∧
      p < b.memOff) ∨
    (o = .directorio ∧ p = b.raiz) ∨
    ∃ r, o = .tabla r ∧ p = b.raiz + 1 + r ∧ r < 1024 := by
  have hpag := paginas_eq b hv
  cases o with
  | megabyte =>
    refine Or.inl ⟨rfl, ?_⟩
    simp only [Posee, pagVideo, MEGABYTES, PAG_LEN] at h
    omega
  | nucleo => exact Or.inr (Or.inl ⟨rfl, h⟩)
  | modulo i =>
    obtain ⟨m, hm, hp⟩ := h
    obtain ⟨h1, h2⟩ := b.lugar m (List.mem_of_getElem? hm) p hp
    exact Or.inr (Or.inr (Or.inl ⟨i, m, rfl, hm, hp, h1, h2⟩))
  | directorio =>
    simp only [Posee, hpag] at h
    refine Or.inr (Or.inr (Or.inr (Or.inl ⟨rfl, ?_⟩)))
    simpa using h.symm
  | tabla r =>
    simp only [Posee, hpag, CAN_TAB_PAG] at h
    rw [List.getElem?_range' (by omega)] at h
    exact Or.inr (Or.inr (Or.inr (Or.inr ⟨r, rfl, by have := Option.some.inj h.2; omega, h.1⟩)))
  | dir c => simp [Posee] at h
  | tab c => simp [Posee] at h
  | pila c => simp [Posee] at h
  | concesion j => simp [Posee] at h

def libroInicial (b : Maquina) (hv : b.Ventana) : Libro Dueno ℕ where
  owns := Posee b ⟨[], [], false⟩
  marked p := ocupada b.arranque.mm p = true
  sole := by
    intro o o' p h h'
    obtain ⟨hk, hx, -, -⟩ := limites hv
    rcases posee_inicial hv h with ⟨rfl, h⟩ | ⟨rfl, h⟩ | ⟨i, m, rfl, hm, hp, h⟩ | ⟨rfl, h⟩ |
        ⟨r, rfl, h⟩ <;>
      rcases posee_inicial hv h' with ⟨rfl, h'⟩ | ⟨rfl, h'⟩ | ⟨j, n, rfl, hn, hp', h'⟩ |
        ⟨rfl, h'⟩ | ⟨r', rfl, h'⟩ <;>
      first
      | rfl
      | exact congrArg Dueno.modulo (b.disjuntos i j m n hm hn p hp hp')
      | exact congrArg Dueno.tabla (by omega)
      | omega
  marked_of_owns := by
    intro o p h
    obtain ⟨hk, hx, hr, hl⟩ := limites hv
    have hp : p < PAG_MEM := by
      simp only [PAG_MEM]
      rcases posee_inicial hv h with ⟨-, h⟩ | ⟨-, h⟩ | ⟨_, _, -, -, -, h⟩ | ⟨-, h⟩ | ⟨_, -, h⟩ <;>
        omega
    rw [arranque_mm_eq b hv, setMems_ocupada, mmInicial_ocupada b.hfin hp, Bool.or_eq_true,
      decide_eq_true_eq, decide_eq_true_eq, ← Maquina.raiz]
    simp only [CAN_TAB_PAG]
    rcases posee_inicial hv h with ⟨-, h⟩ | ⟨-, h⟩ | ⟨_, _, -, -, -, h⟩ | ⟨-, h⟩ | ⟨_, -, h⟩ <;>
      omega

lemma inicial_refleja (hv : b.Ventana) :
    Refleja b (libroInicial b hv) (b.arranque, ⟨[], [], false⟩) :=
  ⟨fun _ _ => Iff.rfl, fun _ => Iff.rfl⟩

/-! ### Steps -/

lemma concat_eq_some {α : Type*} {l : List α} {a x : α} {c : ℕ} :
    (l ++ [a])[c]? = some x ↔ l[c]? = some x ∨ c = l.length ∧ x = a := by
  rcases Nat.lt_trichotomy c l.length with h | rfl | h
  · rw [List.getElem?_append_left h]
    exact ⟨Or.inl, fun hx => hx.resolve_right fun hc => by omega⟩
  · simp [eq_comm]
  · rw [List.getElem?_eq_none (by simp; omega), List.getElem?_eq_none (by omega)]
    simp
    omega

lemma exists_concat {α β : Type*} {l : List α} {a : α} {c : ℕ} {p : β} (f : α → β) :
    (∃ x, (l ++ [a])[c]? = some x ∧ p = f x) ↔
      (∃ x, l[c]? = some x ∧ p = f x) ∨ c = l.length ∧ p = f a := by
  simp only [concat_eq_some]
  constructor
  · rintro ⟨x, hx | ⟨rfl, rfl⟩, rfl⟩
    · exact Or.inl ⟨x, hx, rfl⟩
    · exact Or.inr ⟨rfl, rfl⟩
  · rintro (⟨x, hx, rfl⟩ | ⟨rfl, rfl⟩)
    · exact ⟨x, Or.inl hx, rfl⟩
    · exact ⟨a, Or.inr ⟨rfl, rfl⟩, rfl⟩

lemma posee_cargas (e : Carga) (o : Dueno) (p : ℕ) :
    Posee b { g with cargas := g.cargas ++ [e] } o p ↔
      ((Posee b g o p ∨ o = .dir g.cargas.length ∧ p = e.espacio.dir) ∨
        o = .tab g.cargas.length ∧ p = e.espacio.tabla) ∨
        o = .pila g.cargas.length ∧ p = e.espacio.pila := by
  cases o with
  | dir c => simp [Posee, exists_concat fun e : Carga => e.espacio.dir]
  | tab c => simp [Posee, exists_concat fun e : Carga => e.espacio.tabla]
  | pila c => simp [Posee, exists_concat fun e : Carga => e.espacio.pila]
  | _ => simp [Posee]

lemma posee_concesiones (t q : ℕ) (o : Dueno) (p : ℕ) :
    Posee b { g with concesiones := g.concesiones ++ [(t, q)] } o p ↔
      Posee b g o p ∨ o = .concesion g.concesiones.length ∧ p = q := by
  cases o with
  | concesion j =>
    simp only [Posee, concat_eq_some, Dueno.concesion.injEq, Prod.mk.injEq]
    constructor
    · rintro ⟨u, hu | ⟨rfl, rfl, rfl⟩⟩
      · exact Or.inl ⟨u, hu⟩
      · exact Or.inr ⟨rfl, rfl⟩
    · rintro (⟨u, hu⟩ | ⟨rfl, rfl⟩)
      · exact ⟨u, Or.inl hu⟩
      · exact ⟨t, Or.inr ⟨rfl, rfl, rfl⟩⟩
  | _ => simp [Posee]

structure Inv (b : Maquina) (s : Kernel × Historia) : Prop where
  libro : ∃ L, Refleja b L s
  memOff : s.1.mm.memOff = b.memOff
  memMax : s.1.mm.memMax = b.ram

lemma Inv.ventana (h : Inv b s) (hv : b.Ventana) : inicio s.1.mm ≤ s.1.mm.memMax / 8 := by
  have h1 := b.hoff
  have h2 := b.hlim
  simp only [PAG_MEM] at h2
  rw [inicio_of_le (by rw [h.memOff]; omega) (by rw [h.memOff]; omega), h.memOff, h.memMax]
  exact hv

/-! #### A load -/

lemma cargar_admite (usuario : Bool) {m : Modulo} (ha : Admite m.ini m.fin k) :
    (b.cargar usuario m k).mm =
      (reservar 3 (setMems (m.ini / PAG_LEN) (cantPaginas m.ini m.fin) k.mm)).2 := by
  rw [cargar_eq]
  exact cargar_mm _ _ _ _ ha

lemma cargar_noAdmite (usuario : Bool) {m : Modulo} (ha : ¬ Admite m.ini m.fin k) :
    b.cargar usuario m k = k := by
  rw [cargar_eq]
  exact cargar_rechazo _ _ _ _ ha

lemma espacio_libre {m : Modulo}
    (hw : inicio k.mm ≤ k.mm.memMax / 8) (hmax : k.mm.memMax < 2 ^ 32)
    (h0 : 0 ∉ (reservar 3 (setMems (m.ini / PAG_LEN) (cantPaginas m.ini m.fin) k.mm)).1) :
    let e := espacio m.ini m.fin k
    (e.dir ≠ e.tabla ∧ e.dir ≠ e.pila ∧ e.tabla ≠ e.pila) ∧
      ∀ p, p = e.dir ∨ p = e.tabla ∨ p = e.pila →
        ocupada (setMems (m.ini / PAG_LEN) (cantPaginas m.ini m.fin) k.mm) p = false ∧
          p < 8 * (k.mm.memMax / 8) := by
  intro e
  have hi := inicio_setMems (m.ini / PAG_LEN) (cantPaginas m.ini m.fin) k.mm
  obtain ⟨hnd, hall⟩ := reservar_libres (by rwa [hi, setMems_memMax]) (by rwa [setMems_memMax]) h0
  rw [reservar_espacio] at hnd hall
  rw [setMems_memMax] at hall
  simp only [List.nodup_cons, List.mem_cons, List.not_mem_nil, or_false, not_or] at hnd
  exact ⟨⟨hnd.1.1, hnd.1.2, hnd.2.1⟩, fun p hp => hall p (by simpa using hp)⟩

lemma Inv.carga (h : Inv b (k, g)) (hv : b.Ventana) {usuario : Bool} {i : ℕ} {m : Modulo}
    (h0 : Admite m.ini m.fin k →
      0 ∉ (reservar 3 (setMems (m.ini / PAG_LEN) (cantPaginas m.ini m.fin) k.mm)).1) :
    Inv b (b.cargar usuario m k, g.cargar usuario i m k) := by
  unfold Historia.cargar
  by_cases ha : Admite m.ini m.fin k
  · rw [if_pos ha]
    have hw := h.ventana hv
    have hmax : k.mm.memMax < 2 ^ 32 := by
      have := h.memMax
      have hr := b.hram
      simp only [PAG_MEM] at hr
      simp only at this
      omega
    have hmm := cargar_admite (b := b) usuario ha
    obtain ⟨⟨h1, h2, h3⟩, hfree⟩ := espacio_libre (m := m) hw hmax (h0 ha)
    obtain ⟨L, hL⟩ := h.libro
    -- the pages of the module are marked again, and three more pages are taken
    let S : Set ℕ := {p | m.Pagina p}
    have hS : ∀ p, (L.mark S).marked p ↔
        ocupada (setMems (m.ini / PAG_LEN) (cantPaginas m.ini m.fin) k.mm) p = true := by
      intro p
      rw [setMems_ocupada, Bool.or_eq_true, decide_eq_true_eq, ← hL.marked p]
      rfl
    have hno : ∀ p, p = (espacio m.ini m.fin k).dir ∨ p = (espacio m.ini m.fin k).tabla ∨
        p = (espacio m.ini m.fin k).pila → ¬ (L.mark S).marked p := by
      intro p hp hc
      rw [hS, (hfree p hp).1] at hc
      cases hc
    let L₁ := (L.mark S).take (.dir g.cargas.length) (espacio m.ini m.fin k).dir
      (hno _ (Or.inl rfl))
    let L₂ := L₁.take (.tab g.cargas.length) (espacio m.ini m.fin k).tabla
      fun hc => hc.elim (hno _ (Or.inr (Or.inl rfl))) (Ne.symm h1)
    let L₃ := L₂.take (.pila g.cargas.length) (espacio m.ini m.fin k).pila
      fun hc => hc.elim (fun hc => hc.elim (hno _ (Or.inr (Or.inr rfl))) (Ne.symm h2)) (Ne.symm h3)
    refine ⟨⟨L₃, fun o p => ?_, fun p => ?_⟩, ?_, ?_⟩
    · rw [posee_cargas, ← hL.owns]
      rfl
    · rw [hmm, reservar_ocupada, reservar_espacio, ← hS]
      simp only [List.mem_cons, List.not_mem_nil, or_false, ← or_assoc]
      rfl
    · simp only [hmm, reservar_memOff, setMems_memOff]
      exact h.memOff
    · simp only [hmm, reservar_memMax, setMems_memMax]
      exact h.memMax
  · rw [if_neg ha, cargar_noAdmite usuario ha]
    exact h

/-! #### The video pages, and a grant -/

lemma Inv.video (h : Inv b (k, g)) (hg : g.video = false) :
    Inv b (soltarVideo k, { g with video := true }) := by
  obtain ⟨L, hL⟩ := h.libro
  let S : Set ℕ := {p | p = 0xb8 ∨ p = 0xb9}
  have hS : ∀ p ∈ S, L.owns .megabyte p := by
    rintro p (rfl | rfl)
    · rw [hL.owns]
      simp [Posee, hg, pagVideo, MEGABYTES, PAG_LEN]
    · rw [hL.owns]
      simp [Posee, hg, pagVideo, MEGABYTES, PAG_LEN]
  refine ⟨⟨L.release S, fun o p => ?_, fun p => ?_⟩, ?_, ?_⟩
  · by_cases ho : o = .megabyte
    · subst ho
      have := hL.owns .megabyte p
      simp only [Posee, hg, Bool.false_eq_true, false_and, not_false_eq_true, and_true] at this
      simp only [Libro.release, this, Posee, true_and, and_assoc]
      rfl
    · rw [L.release_owns hS ho, hL.owns]
      cases o <;> first | rfl | exact absurd rfl ho
  · simp only [Libro.release, soltarVideo, ocupada_unsetMem, Bool.and_eq_true, hL.marked p,
      decide_eq_true_eq, and_assoc]
    exact and_congr_right fun _ => by
      change ¬ (p = 0xb8 ∨ p = 0xb9) ↔ _
      rw [not_or]
  · simp only [soltarVideo, unsetMem_memOff]
    exact h.memOff
  · simp only [soltarVideo, unsetMem_memMax]
    exact h.memMax

lemma concedida_libre {ebx p : ℕ} {mm : Mm} (h : concedida ebx mm = some p) :
    ocupada mm p = false ∧ (p = ebx ∧ ebx ≠ 0 ∨ p = buscarMem mm ∧ p ≠ 0) := by
  unfold concedida at h
  by_cases h0 : ebx = 0
  · simp only [if_pos h0] at h
    split_ifs at h with h1 h2
    obtain rfl := Option.some.inj h
    exact ⟨(setMem_fst _ _).mp h2, Or.inr ⟨rfl, fun hc => h1 ⟨h0, hc⟩⟩⟩
  · simp only [h0, false_and, if_false] at h
    split_ifs at h with h1
    obtain rfl := Option.some.inj h
    exact ⟨(setMem_fst _ _).mp h1, Or.inl ⟨rfl, h0⟩⟩

lemma Inv.mem (h : Inv b (k, g)) (basura : ℕ → ℕ) (t : ℕ) {r : Regs} (hr : r.eax = SYS_MEM) :
    Inv b (llamar basura t r k, g.conceder t r.ebx k.mm) := by
  have hmm := llamar_mem_mm basura t k hr
  unfold Historia.conceder
  cases hc : concedida r.ebx k.mm with
  | none =>
    rw [hc] at hmm
    obtain ⟨L, hL⟩ := h.libro
    refine ⟨⟨L, hL.owns, fun p => ?_⟩, ?_, ?_⟩
    · simp only [hmm]
      exact hL.marked p
    · simp only [hmm]
      exact h.memOff
    · simp only [hmm]
      exact h.memMax
  | some q =>
    rw [hc] at hmm
    obtain ⟨L, hL⟩ := h.libro
    have hq : ¬ L.marked q := by
      rw [hL.marked q, (concedida_libre hc).1]
      simp
    refine ⟨⟨L.take (.concesion g.concesiones.length) q hq, fun o p => ?_, fun p => ?_⟩, ?_, ?_⟩
    · rw [posee_concesiones, ← hL.owns]
      rfl
    · simp only [hmm, ocupada_setMem, Bool.or_eq_true, decide_eq_true_eq, ← hL.marked p]
      rfl
    · simp only [hmm, setMem_memOff]
      exact h.memOff
    · simp only [hmm, setMem_memMax]
      exact h.memMax

lemma inicial_inv (hv : b.Ventana) (h : Inicial b s) : Inv b s := by
  obtain rfl := h
  refine ⟨⟨_, inicial_refleja hv⟩, ?_, ?_⟩
  · simp only [arranque_mm, reservar_memOff]
    exact mmInicial_memOff
  · simp only [arranque_mm, reservar_memMax]
    exact mmInicial_memMax

/-- **The step lemma.** -/
lemma Inv.paso (h : Inv b s) (hv : b.Ventana) {e : Evento} (hs : Paso b s e s') : Inv b s' := by
  cases hs with
  | carga usuario hm hi h0 => exact h.carga hv h0
  | video hg => exact h.video hg
  | mem basura ht hr hp => exact h.mem basura _ hr

/-! ### All boots -/

/-- Without a window the directory and the first table are one page. -/
lemma paginas_fuera (hv : ¬ b.Ventana) :
    b.paginas = List.replicate (1 + CAN_TAB_PAG) (8 * ((b.memOff - 10) / 8) + 8) :=
  reservar_hueco b.hfin b.hoff b.hlim (not_le.mp hv) _

/-- **Ownership of pages.** Every state of every run of a boot has its pages owned once each and
marked, just when the window of the search does not start past its end. -/
theorem paginas_repartidas (b : Maquina) :
    (∀ s, Reach (Inicial b) (Paso b) s → Repartida b s) ↔ b.Ventana := by
  constructor
  · intro h
    by_contra hv
    have hpag := paginas_fuera hv
    have h0 : Posee b ⟨[], [], false⟩ .directorio (8 * ((b.memOff - 10) / 8) + 8) := by
      simp only [Posee, hpag]
      rw [List.getElem?_replicate, if_pos (by decide)]
    have h1 : Posee b ⟨[], [], false⟩ (.tabla 0) (8 * ((b.memOff - 10) / 8) + 8) := by
      simp only [Posee, hpag]
      rw [List.getElem?_replicate, if_pos (by decide)]
      exact ⟨by decide, rfl⟩
    have := (h _ (.init rfl)).uno _ _ _ h0 h1
    cases this
  · intro hv s hs
    have hinv : Inv b s := hs.invariant (fun s h => inicial_inv hv h)
      fun s e s' h hs => h.paso hv hs
    obtain ⟨L, hL⟩ := hinv.libro
    exact hL.repartida

/-- The kernel of the repository ends above where it begins. -/
lemma ini_le_fin : KERNEL_INI ≤ 0x16cb61 := by decide

def hueco : Maquina where
  enlace := enlace
  mem _ := 0
  kernelFin := 0x16cb61
  memOff := 4101
  ram := 3840
  modulos := [⟨0x1000000, 0x1004800, fun _ => 0⟩]
  propias _ := (0, 0, fun _ => 0)
  hfin := ini_le_fin
  hoff := by decide
  hlim := by decide
  hram := by decide
  alineado := by decide
  lugar m hm p hp := by
    obtain rfl := List.mem_singleton.mp hm
    obtain ⟨h1, h2⟩ := hp
    have hc : cantPaginas 0x1000000 0x1004800 = 5 := by decide
    simp only [PAG_LEN, hc] at h1 h2 ⊢
    omega
  disjuntos i j m n hi hj _ _ _ := by
    obtain ⟨hi', -⟩ := List.getElem?_eq_some_iff.mp hi
    obtain ⟨hj', -⟩ := List.getElem?_eq_some_iff.mp hj
    simp only [List.length_singleton] at hi' hj'
    omega
  busca := by
    rw [reservar_hueco (by decide) (by decide) (by decide) (by decide)]
    exact fun h => absurd (List.eq_of_mem_replicate h) (by decide)

/-- The kernel's directory, its first table and the module are all on page 4096. -/
theorem pagina_repetida : Reach (Inicial hueco) (Paso hueco) (hueco.arranque, ⟨[], [], false⟩) ∧
    Posee hueco ⟨[], [], false⟩ .directorio 4096 ∧ Posee hueco ⟨[], [], false⟩ (.tabla 0) 4096 ∧
    Posee hueco ⟨[], [], false⟩ (.modulo 0) 4096 ∧
    ¬ Repartida hueco (hueco.arranque, ⟨[], [], false⟩) := by
  have hpag : hueco.paginas = List.replicate (1 + CAN_TAB_PAG) 4096 :=
    paginas_fuera (b := hueco) (by unfold Maquina.Ventana; decide)
  have hdir : Posee hueco ⟨[], [], false⟩ .directorio 4096 := by
    simp only [Posee, hpag]
    rw [List.getElem?_replicate, if_pos (by decide)]
  have htab : Posee hueco ⟨[], [], false⟩ (.tabla 0) 4096 := by
    refine ⟨by decide, ?_⟩
    rw [hpag, List.getElem?_replicate, if_pos (by decide)]
  refine ⟨.init rfl, hdir, htab, ⟨_, rfl, by decide, by decide⟩, fun h => ?_⟩
  have := h.uno _ _ _ hdir htab
  cases this

end Silicio.Owners
