import Silicio.Owners

/-!
The page tables in every state of a run.

The kernel's directory is on the first page above all that is in memory and its 1024 tables on
the pages after it. A task has a directory and a first table of its own, copied when it is
loaded; all other tables are the kernel's, and everyone's. An entry is open when it has the
user bits: a grant opens the entry of the region in the directory of the task that asks, and
the entry of the page in the table, which is its own only in the first region.
-/

namespace Silicio.Tables

open Silicio.Loop Silicio.Bitmap Silicio.Bytes Silicio.Defs Silicio.Mm Silicio.Mmu Silicio.Paging
open Silicio.Tasks Silicio.Registry Silicio.Runs Silicio.Syscall Silicio.Boot Silicio.Owners

/-! ### Entries -/

/-- Entry `w` names page `q`, and is open just when `P`. -/
structure Entrada (w q : ℕ) (P : Prop) : Prop where
  abierta : P → w = 4096 * q + 7
  cerrada : ¬ P → w = 4096 * q + 1

variable {w q : ℕ} {P Q : Prop}

lemma Entrada.congr (h : Entrada w q P) (hPQ : P ↔ Q) : Entrada w q Q :=
  ⟨fun hQ => h.abierta (hPQ.mpr hQ), fun hQ => h.cerrada fun hP => hQ (hPQ.mp hP)⟩

lemma Entrada.mod_eight (h : Entrada w q P) : w % 8 = 7 ↔ P := by
  by_cases hP : P
  · have := h.abierta hP
    exact iff_of_true (by omega) hP
  · have := h.cerrada hP
    exact iff_of_false (by omega) hP

lemma Entrada.pagina (h : Entrada w q P) : w / 4096 = q := by
  by_cases hP : P
  · have := h.abierta hP
    omega
  · have := h.cerrada hP
    omega

lemma Entrada.abrir (h : Entrada w q P) (hQ : Q) : Entrada (w ||| 7) q Q := by
  refine ⟨fun _ => ?_, fun hn => absurd hQ hn⟩
  rw [or_seven]
  by_cases hP : P
  · have := h.abierta hP
    omega
  · have := h.cerrada hP
    omega

/-! ### The words a load writes -/

lemma word_copia {a p : ℕ} (ha : a < 2 ^ 20) (hp : p < 2 ^ 20) (hne : a ≠ p) (m : Mem) {r j : ℕ}
    (hr : r < 2 ^ 20) (hj : j < 1024) :
    word (fill p (fun c m => rd32 m (4096 * a + 4 * c)) 1024 m) r j =
      if r = p then word m a j else word m r j := by
  have h := word_fill (f := fun c m => rd32 m (4096 * a + 4 * c)) (g := fun i => word m a i)
    (m := m) hp le_rfl (fun i hi m' h => h a ha hne i hi) hr hj
  rw [h, Nat.mod_eq_of_lt (word_lt _ _ _)]
  simp [hj]

/-- The page a task's first table gives for entry `j`: a page of the module, the stack, or page
`j` itself. -/
def destino (ini pag pila j : ℕ) : ℕ :=
  if V_USER ≤ j ∧ j < V_USER + pag then ini + (j - V_USER) else if j = V_STACK then pila else j

def Especial (pag j : ℕ) : Prop := V_USER ≤ j ∧ j < V_USER + pag ∨ j = V_STACK

variable {a t d pag pila ini : ℕ} {m : Mem}

lemma word_paginas (ha : a < 2 ^ 20) (ht : t < 2 ^ 20) (hne : a ≠ t) {n : ℕ} (hn : n ≤ 14)
    (hini : 0 < n → ini + n ≤ 2 ^ 20) {r j : ℕ} (hr : r < 2 ^ 20) (hj : j < 1024) :
    word (loop (fun c m => setWord m t (c + V_USER) ((ini + c) * 4096 + 7)) n
      (fill t (fun c m => rd32 m (4096 * a + 4 * c)) 1024 m)) r j =
      if r = t ∧ V_USER ≤ j ∧ j < V_USER + n then 4096 * (ini + (j - V_USER)) + 7
      else if r = t then word m a j else word m r j := by
  induction n with
  | zero =>
    rw [loop_zero, if_neg (by omega)]
    exact word_copia ha ht hne m hr hj
  | succ n ih =>
    have hlt : n + V_USER < 1024 := by simp only [V_USER]; omega
    have hlim := hini (by omega)
    rw [loop_succ]
    by_cases h : r = t ∧ j = n + V_USER
    · obtain ⟨rfl, rfl⟩ := h
      rw [word_setWord_self, Nat.mod_eq_of_lt (by omega), if_pos ⟨rfl, by omega, by omega⟩,
        Nat.add_sub_cancel]
      ring
    · rw [word_setWord_of_ne ht hlt hr hj (by tauto), ih (by omega) fun _ => by omega]
      congr 1
      apply propext
      constructor
      · exact fun ⟨h1, h2, h3⟩ => ⟨h1, h2, by omega⟩
      · exact fun ⟨h1, h2, h3⟩ => ⟨h1, h2, by
          have : j ≠ n + V_USER := fun e => h ⟨h1, e⟩
          omega⟩

lemma word_tablaUsuario (ha : a < 2 ^ 20) (ht : t < 2 ^ 20) (hne : a ≠ t) (hpag : pag ≤ 14)
    (hini : 0 < pag → ini + pag ≤ 2 ^ 20) (hpila : pila < 2 ^ 20) {r j : ℕ} (hr : r < 2 ^ 20)
    (hj : j < 1024) :
    (r ≠ t → word (tablaUsuario (4096 * a) t pag pila (fun c => ini + c) m) r j = word m r j) ∧
    (Especial pag j → word (tablaUsuario (4096 * a) t pag pila (fun c => ini + c) m) t j =
      4096 * destino ini pag pila j + 7) ∧
    (¬ Especial pag j → word (tablaUsuario (4096 * a) t pag pila (fun c => ini + c) m) t j =
      word m a j) := by
  have hstack : V_STACK < 1024 := by decide
  unfold tablaUsuario
  simp only
  refine ⟨fun hrt => ?_, fun hesp => ?_, fun hesp => ?_⟩
  · rw [word_setWord_of_ne ht hstack hr hj (Or.inl hrt), word_paginas ha ht hne hpag hini hr hj,
      if_neg fun hc => hrt hc.1, if_neg hrt]
  · by_cases hs : j = V_STACK
    · subst hs
      rw [word_setWord_self, Nat.mod_eq_of_lt (by omega), destino, if_neg, if_pos rfl,
        Nat.mul_comm]
      simp only [V_USER, V_STACK]
      omega
    · have hu := hesp.resolve_right hs
      rw [word_setWord_of_ne ht hstack ht hj (Or.inr hs), word_paginas ha ht hne hpag hini ht hj,
        if_pos ⟨rfl, hu⟩, destino, if_pos hu]
  · simp only [Especial, not_or] at hesp
    rw [word_setWord_of_ne ht hstack ht hj (Or.inr hesp.2), word_paginas ha ht hne hpag hini ht hj,
      if_neg fun hc => hesp.1 hc.2, if_pos rfl]

lemma word_directorioUsuario (ha : a < 2 ^ 20) (hd : d < 2 ^ 20) (hne : a ≠ d) (ht : t < 2 ^ 20)
    {r j : ℕ} (hr : r < 2 ^ 20) (hj : j < 1024) :
    word (directorioUsuario (4096 * a) d t m) r j =
      if r = d then if j = 0 then 4096 * t + 7 else word m a j else word m r j := by
  unfold directorioUsuario
  simp only
  by_cases h : r = d ∧ j = 0
  · obtain ⟨rfl, rfl⟩ := h
    rw [word_setWord_self, Nat.mod_eq_of_lt (by omega), if_pos rfl, if_pos rfl, Nat.mul_comm]
  · rw [word_setWord_of_ne hd (by decide) hr hj (by tauto), word_copia ha hd hne m hr hj]
    by_cases hrd : r = d
    · rw [if_pos hrd, if_pos hrd, if_neg fun hc => h ⟨hrd, hc⟩]
    · rw [if_neg hrd, if_neg hrd]

lemma rd8_cargar (kDir kTab : ℕ) (f : ℕ → ℕ) (hd : d < 2 ^ 20) (ht : t < 2 ^ 20) (hpag : pag ≤ 14)
    {x : ℕ} (hx : x < 2 ^ 32) (hxd : x / 4096 ≠ d) (hxt : x / 4096 ≠ t) :
    rd8 (directorioUsuario kDir d t (tablaUsuario kTab t pag pila f m)) x = rd8 m x := by
  unfold directorioUsuario tablaUsuario
  simp only
  rw [rd8_setWord hd (by decide) hx hxd, rd8_fill hd le_rfl hx hxd,
    rd8_setWord ht (by decide) hx hxt]
  have : ∀ n ≤ pag, rd8 (loop (fun c m => setWord m t (c + V_USER) (f c * 4096 + 7)) n
      (fill t (fun c m => rd32 m (kTab + 4 * c)) TAB_PAG_LEN m)) x = rd8 m x := by
    intro n hn
    induction n with
    | zero =>
      rw [loop_zero]
      exact rd8_fill ht le_rfl hx hxt
    | succ n ih =>
      rw [loop_succ, rd8_setWord ht (by simp only [V_USER]; omega) hx hxt]
      exact ih (by omega)
  exact this pag le_rfl

/-! ### The tables of a state -/

variable {b : Maquina} {g : Historia} {k : Kernel} {s s' : Kernel × Historia} {i : ℕ} {mod : Modulo}

/-- The page of the directory of task `u`. -/
def raizDe (b : Maquina) (g : Historia) (u : ℕ) : ℕ :=
  if u < 3 then b.raiz else ((g.cargas[u - 3]?).map fun e => e.espacio.dir).getD 0

/-- The page of the table of task `u` for region `r`. -/
def tablaDe (b : Maquina) (g : Historia) (u r : ℕ) : ℕ :=
  if 3 ≤ u ∧ r = 0 then ((g.cargas[u - 3]?).map fun e => e.espacio.tabla).getD 0
  else b.raiz + 1 + r

/-- The directory of task `u` opens region `r`: a page in it has been granted to `u`, or to a
task with the same directory, or to a task of the kernel before `u` was loaded. The first
region of a loaded task is open from the start. -/
def Abre (g : Historia) (u r : ℕ) : Prop :=
  (∃ t p, (t, p) ∈ g.concesiones ∧ p / 1024 = r ∧ (t = u ∨ t < 3 ∧ u < 3)) ∨
    3 ≤ u ∧ (r = 0 ∨ ∃ e t p, g.cargas[u - 3]? = some e ∧ (t, p) ∈ e.antes ∧ t < 3 ∧ p / 1024 = r)

/-- Entry `j` of the kernel's table `r` is open: the page has been granted, in the first region
to a task of the kernel. -/
def Comparte (g : Historia) (r j : ℕ) : Prop :=
  ∃ t, (t, 1024 * r + j) ∈ g.concesiones ∧ (r = 0 → t < 3)

def Usa (g : Historia) (c : ℕ) (e : Carga) (j : ℕ) : Prop :=
  Especial e.pag j ∨ (3 + c, j) ∈ g.concesiones ∨ ∃ t, (t, j) ∈ e.antes ∧ t < 3

def DeTablas (b : Maquina) (g : Historia) (p : ℕ) : Prop :=
  b.raiz ≤ p ∧ p ≤ b.raiz + 1024 ∨ ∃ e ∈ g.cargas, p = e.espacio.dir ∨ p = e.espacio.tabla

/-- What memory holds: the entries of every directory and table, and outside of them what the
loader left. -/
structure Mapa (b : Maquina) (m : Mem) (g : Historia) : Prop where
  dirs : ∀ u < 3 + g.cargas.length, ∀ r < 1024,
    Entrada (word m (raizDe b g u) r) (tablaDe b g u r) (Abre g u r)
  comunes : ∀ r < 1024, ∀ j < 1024,
    Entrada (word m (b.raiz + 1 + r) j) (1024 * r + j) (Comparte g r j)
  propias : ∀ (c : ℕ) (e : Carga), g.cargas[c]? = some e → ∀ j < 1024,
    Entrada (word m e.espacio.tabla j) (destino e.ini e.pag e.espacio.pila j) (Usa g c e j)
  resto : ∀ x < 2 ^ 32, ¬ DeTablas b g (x / 4096) → rd8 m x = rd8 b.mem x

/-- The other tables: who is loaded, on which directory, and where the pages are. -/
structure Orden (b : Maquina) (s : Kernel × Historia) : Prop where
  duenos : Owners.Inv b s
  registro : Registro (3 + s.2.cargas.length) s.1
  cr3 : ∀ u, Tarea s.1 u → (s.1.tss (some u)).cr3 = 4096 * raizDe b s.2 u
  gDir : s.1.gDir = 4096 * b.raiz
  gTab : s.1.gTab = 4096 * (b.raiz + 1)
  bajo : ∀ e ∈ s.2.cargas, e.espacio.dir < 2 ^ 20 ∧ e.espacio.tabla < 2 ^ 20 ∧
    e.espacio.pila < 2 ^ 20 ∧ e.espacio.pila ≠ 0
  modulo : ∀ e ∈ s.2.cargas, ∃ m, b.modulos[e.modulo]? = some m ∧ e.ini = m.ini / PAG_LEN ∧
    e.pag = cantPaginas m.ini m.fin ∧ e.pag ≤ MAX_PAG_DRIVER
  unico : ∀ (c c' : ℕ) (e e' : Carga), s.2.cargas[c]? = some e → s.2.cargas[c']? = some e' →
    e.modulo = e'.modulo → c = c'
  concesiones : ∀ t p, (t, p) ∈ s.2.concesiones → Tarea s.1 t ∧ p < 2 ^ 20 ∧ p ≠ 0
  antes : ∀ e ∈ s.2.cargas, ∀ a ∈ e.antes, a ∈ s.2.concesiones

structure Inv (b : Maquina) (s : Kernel × Historia) : Prop extends Orden b s where
  mapa : Mapa b s.1.mem s.2

lemma raizDe_carga {c : ℕ} {e : Carga} (h : g.cargas[c]? = some e) :
    raizDe b g (3 + c) = e.espacio.dir := by
  rw [raizDe, if_neg (by omega), Nat.add_sub_cancel_left, h]
  rfl

lemma tablaDe_carga {c : ℕ} {e : Carga} (h : g.cargas[c]? = some e) :
    tablaDe b g (3 + c) 0 = e.espacio.tabla := by
  rw [tablaDe, if_pos ⟨by omega, rfl⟩, Nat.add_sub_cancel_left, h]
  rfl

structure Distintas (b : Maquina) (g : Historia) : Prop where
  dir : ∀ e ∈ g.cargas, ¬ (b.raiz ≤ e.espacio.dir ∧ e.espacio.dir ≤ b.raiz + 1024)
  tabla : ∀ e ∈ g.cargas, ¬ (b.raiz ≤ e.espacio.tabla ∧ e.espacio.tabla ≤ b.raiz + 1024)
  cruz : ∀ e ∈ g.cargas, ∀ e' ∈ g.cargas, e.espacio.dir ≠ e'.espacio.tabla
  dirs : ∀ (c c' : ℕ) (e e' : Carga), g.cargas[c]? = some e → g.cargas[c']? = some e' →
    e.espacio.dir = e'.espacio.dir → c = c'
  tablas : ∀ (c c' : ℕ) (e e' : Carga), g.cargas[c]? = some e → g.cargas[c']? = some e' →
    e.espacio.tabla = e'.espacio.tabla → c = c'

lemma posee_raiz (hv : b.Ventana) {p : ℕ} (h : b.raiz ≤ p ∧ p ≤ b.raiz + 1024) :
    ∃ o, Posee b g o p ∧ (o = .directorio ∨ ∃ r, o = .tabla r) := by
  have hpag := paginas_eq b hv
  rcases Nat.eq_or_lt_of_le h.1 with he | hlt
  · refine ⟨.directorio, ?_, Or.inl rfl⟩
    simp only [Posee, hpag]
    rw [List.getElem?_range' (by simp only [CAN_TAB_PAG]; omega)]
    exact congrArg some (by omega)
  · refine ⟨.tabla (p - b.raiz - 1), ⟨by simp only [CAN_TAB_PAG]; omega, ?_⟩, Or.inr ⟨_, rfl⟩⟩
    rw [hpag, List.getElem?_range' (by simp only [CAN_TAB_PAG]; omega)]
    exact congrArg some (by omega)

lemma distintas_of_repartida (hv : b.Ventana) (h : Repartida b (k, g)) : Distintas b g := by
  have hdir : ∀ (c : ℕ) (e : Carga), g.cargas[c]? = some e → Posee b g (.dir c) e.espacio.dir :=
    fun c e he => ⟨e, he, rfl⟩
  have htab : ∀ (c : ℕ) (e : Carga), g.cargas[c]? = some e → Posee b g (.tab c) e.espacio.tabla :=
    fun c e he => ⟨e, he, rfl⟩
  refine ⟨fun e he hr => ?_, fun e he hr => ?_, fun e he e' he' heq => ?_,
    fun c c' e e' he he' heq => ?_, fun c c' e e' he he' heq => ?_⟩
  · obtain ⟨c, hc⟩ := List.mem_iff_getElem?.mp he
    obtain ⟨o, ho, hor⟩ := posee_raiz (g := g) hv hr
    obtain rfl := h.uno _ _ _ (hdir c e hc) ho
    rcases hor with hor | ⟨r, hor⟩ <;> cases hor
  · obtain ⟨c, hc⟩ := List.mem_iff_getElem?.mp he
    obtain ⟨o, ho, hor⟩ := posee_raiz (g := g) hv hr
    obtain rfl := h.uno _ _ _ (htab c e hc) ho
    rcases hor with hor | ⟨r, hor⟩ <;> cases hor
  · obtain ⟨c, hc⟩ := List.mem_iff_getElem?.mp he
    obtain ⟨c', hc'⟩ := List.mem_iff_getElem?.mp he'
    have := h.uno _ _ _ (hdir c e hc) (heq ▸ htab c' e' hc')
    cases this
  · have := h.uno _ _ _ (hdir c e he) (heq ▸ hdir c' e' he')
    exact Dueno.dir.inj this
  · have := h.uno _ _ _ (htab c e he) (heq ▸ htab c' e' he')
    exact Dueno.tab.inj this

lemma lt_tres_or {u : ℕ} (h : u < 3 + g.cargas.length) :
    u < 3 ∨ ∃ c e, u = 3 + c ∧ g.cargas[c]? = some e := by
  rcases Nat.lt_or_ge u 3 with hu | hu
  · exact Or.inl hu
  · exact Or.inr ⟨u - 3, g.cargas[u - 3], by omega, List.getElem?_eq_getElem (by omega)⟩

/-! ### A load -/

section
variable {e : Carga}

lemma cargas_concat {c : ℕ} {x : Carga} (h : g.cargas[c]? = some x) :
    (g.cargas ++ [e])[c]? = some x := concat_eq_some.mpr (Or.inl h)

lemma cargas_nueva : (g.cargas ++ [e])[g.cargas.length]? = some e :=
  concat_eq_some.mpr (Or.inr ⟨rfl, rfl⟩)

lemma words_carga (hr : b.raiz + 1025 ≤ 2 ^ 20)
    (hD : Distintas b { g with cargas := g.cargas ++ [e] })
    (hd : e.espacio.dir < 2 ^ 20) (ht : e.espacio.tabla < 2 ^ 20) (hp : e.espacio.pila < 2 ^ 20)
    (hpag : e.pag ≤ 14) (hini : 0 < e.pag → e.ini + e.pag ≤ 2 ^ 20) {m' : Mem}
    (hm' : m' = directorioUsuario (4096 * b.raiz) e.espacio.dir e.espacio.tabla
      (tablaUsuario (4096 * (b.raiz + 1)) e.espacio.tabla e.pag e.espacio.pila
        (fun c => e.ini + c) m)) :
    (∀ p < 2 ^ 20, p ≠ e.espacio.dir → p ≠ e.espacio.tabla → ∀ j < 1024,
      word m' p j = word m p j) ∧
    (∀ j < 1024, word m' e.espacio.dir j =
      if j = 0 then 4096 * e.espacio.tabla + 7 else word m b.raiz j) ∧
    (∀ j < 1024, Especial e.pag j → word m' e.espacio.tabla j =
      4096 * destino e.ini e.pag e.espacio.pila j + 7) ∧
    (∀ j < 1024, ¬ Especial e.pag j → word m' e.espacio.tabla j = word m (b.raiz + 1) j) := by
  have hmem : e ∈ g.cargas ++ [e] := by simp
  have h1 := hD.dir e hmem
  have h2 := hD.tabla e hmem
  have h3 := hD.cruz e hmem e hmem
  subst hm'
  refine ⟨fun p hp' hpd hpt j hj => ?_, fun j hj => ?_, fun j hj hs => ?_, fun j hj hs => ?_⟩
  · rw [word_directorioUsuario (by omega) hd (by omega) ht hp' hj, if_neg hpd]
    exact (word_tablaUsuario (by omega) ht (by omega) hpag hini hp hp' hj).1 hpt
  · rw [word_directorioUsuario (by omega) hd (by omega) ht hd hj, if_pos rfl]
    split
    · rfl
    · exact (word_tablaUsuario (by omega) ht (by omega) hpag hini hp (by omega) hj).1 (by omega)
  · rw [word_directorioUsuario (by omega) hd (by omega) ht ht hj, if_neg (Ne.symm h3)]
    exact (word_tablaUsuario (by omega) ht (by omega) hpag hini hp ht hj).2.1 hs
  · rw [word_directorioUsuario (by omega) hd (by omega) ht ht hj, if_neg (Ne.symm h3)]
    exact (word_tablaUsuario (by omega) ht (by omega) hpag hini hp ht hj).2.2 hs

lemma concesion_lt (hc : ∀ t p, (t, p) ∈ g.concesiones → t < 3 + g.cargas.length) {p : ℕ} :
    (3 + g.cargas.length, p) ∉ g.concesiones := fun h => by
  have := hc _ _ h
  omega

lemma abre_concat {u r : ℕ} (hu : u < 3 + g.cargas.length) :
    Abre g u r ↔ Abre { g with cargas := g.cargas ++ [e] } u r := by
  unfold Abre
  refine or_congr_right (and_congr_right fun h3 => or_congr_right ?_)
  simp only
  rw [List.getElem?_append_left (by omega)]

lemma abre_nueva (hant : e.antes = g.concesiones)
    (hc : ∀ t p, (t, p) ∈ g.concesiones → t < 3 + g.cargas.length) {r : ℕ} (hr : r ≠ 0) :
    Abre g 0 r ↔ Abre { g with cargas := g.cargas ++ [e] } (3 + g.cargas.length) r := by
  unfold Abre
  constructor
  · rintro (⟨t, p, htp, hpr, ht⟩ | ⟨h3, -⟩)
    · refine Or.inr ⟨by omega, Or.inr ⟨e, t, p, ?_, hant ▸ htp, by omega, hpr⟩⟩
      rw [Nat.add_sub_cancel_left]
      exact cargas_nueva
    · omega
  · rintro (⟨t, p, htp, hpr, ht⟩ | ⟨-, h0 | ⟨x, t, p, hx, htp, ht, hpr⟩⟩)
    · have := hc t p htp
      omega
    · exact absurd h0 hr
    · rw [Nat.add_sub_cancel_left, cargas_nueva] at hx
      obtain rfl := Option.some.inj hx
      exact Or.inl ⟨t, p, hant ▸ htp, hpr, Or.inr ⟨ht, by omega⟩⟩

lemma raizDe_concat {u : ℕ} (hu : u < 3 + g.cargas.length) :
    raizDe b { g with cargas := g.cargas ++ [e] } u = raizDe b g u := by
  unfold raizDe
  split
  · rfl
  · simp only
    rw [List.getElem?_append_left (by omega)]

lemma tablaDe_concat {u r : ℕ} (hu : u < 3 + g.cargas.length) :
    tablaDe b { g with cargas := g.cargas ++ [e] } u r = tablaDe b g u r := by
  unfold tablaDe
  split
  · simp only
    rw [List.getElem?_append_left (by omega)]
  · rfl

/-- The pages of a new load are not on the way of the tasks loaded before. -/
lemma Distintas.raiz (hD : Distintas b { g with cargas := g.cargas ++ [e] })
    (hr : b.raiz + 1025 ≤ 2 ^ 20)
    (hb : ∀ e' ∈ g.cargas ++ [e], e'.espacio.dir < 2 ^ 20 ∧ e'.espacio.tabla < 2 ^ 20) {u : ℕ}
    (hu : u < 3 + g.cargas.length) :
    raizDe b g u < 2 ^ 20 ∧ raizDe b g u ≠ e.espacio.dir ∧ raizDe b g u ≠ e.espacio.tabla := by
  have hmem : e ∈ g.cargas ++ [e] := by simp
  have hnod := hD.dir e hmem
  have hnot := hD.tabla e hmem
  rcases lt_tres_or hu with h3 | ⟨c, x, rfl, hx⟩
  · rw [raizDe, if_pos h3]
    omega
  · rw [raizDe_carga hx]
    have hxm := List.mem_of_getElem? (cargas_concat (e := e) hx)
    refine ⟨(hb x hxm).1, fun heq => ?_, hD.cruz x hxm e hmem⟩
    have := hD.dirs _ _ _ _ (cargas_concat hx) cargas_nueva heq
    omega

/-- The directory of a new task: its own table for the first region, and the kernel's entries. -/
lemma Mapa.dir_nueva (h : Mapa b m g) (hant : e.antes = g.concesiones)
    (hc : ∀ t p, (t, p) ∈ g.concesiones → t < 3 + g.cargas.length) {r : ℕ} (hr : r < 1024) :
    Entrada (if r = 0 then 4096 * e.espacio.tabla + 7 else word m b.raiz r)
      (tablaDe b { g with cargas := g.cargas ++ [e] } (3 + g.cargas.length) r)
      (Abre { g with cargas := g.cargas ++ [e] } (3 + g.cargas.length) r) := by
  rcases eq_or_ne r 0 with rfl | h0
  · rw [tablaDe_carga cargas_nueva, if_pos rfl]
    exact ⟨fun _ => rfl, fun hn => absurd (Or.inr ⟨by omega, Or.inl rfl⟩) hn⟩
  · rw [if_neg h0, tablaDe, if_neg fun hx => h0 hx.2]
    have := h.dirs 0 (by omega) r hr
    rw [raizDe, if_pos (by omega), tablaDe, if_neg fun hx => by omega] at this
    exact this.congr (abre_nueva hant hc h0)

/-- The first table of a new task, where it is the kernel's. -/
lemma Mapa.tabla_nueva (h : Mapa b m g) (hant : e.antes = g.concesiones)
    (hc : ∀ t p, (t, p) ∈ g.concesiones → t < 3 + g.cargas.length) {j : ℕ} (hj : j < 1024)
    (hs : ¬ Especial e.pag j) : Entrada (word m (b.raiz + 1) j)
      (destino e.ini e.pag e.espacio.pila j)
      (Usa { g with cargas := g.cargas ++ [e] } g.cargas.length e j) := by
  have hco := h.comunes 0 (by omega) j hj
  rw [Nat.mul_zero, Nat.zero_add, Nat.add_zero] at hco
  have hdest : destino e.ini e.pag e.espacio.pila j = j := by
    simp only [Especial, not_or] at hs
    rw [destino, if_neg hs.1, if_neg hs.2]
  rw [hdest]
  refine hco.congr ?_
  unfold Comparte Usa
  simp only [Nat.mul_zero, Nat.zero_add, true_implies, hant, hs, false_or, concesion_lt hc]

lemma Mapa.carga (h : Mapa b m g) (hr : b.raiz + 1025 ≤ 2 ^ 20)
    (hD : Distintas b { g with cargas := g.cargas ++ [e] })
    (hb : ∀ e' ∈ g.cargas ++ [e], e'.espacio.dir < 2 ^ 20 ∧ e'.espacio.tabla < 2 ^ 20)
    (hp : e.espacio.pila < 2 ^ 20) (hpag : e.pag ≤ 14) (hini : 0 < e.pag → e.ini + e.pag ≤ 2 ^ 20)
    (hant : e.antes = g.concesiones)
    (hc : ∀ t p, (t, p) ∈ g.concesiones → t < 3 + g.cargas.length) {m' : Mem}
    (hm' : m' = directorioUsuario (4096 * b.raiz) e.espacio.dir e.espacio.tabla
      (tablaUsuario (4096 * (b.raiz + 1)) e.espacio.tabla e.pag e.espacio.pila
        (fun c => e.ini + c) m)) :
    Mapa b m' { g with cargas := g.cargas ++ [e] } := by
  have hmem : e ∈ g.cargas ++ [e] := by simp
  obtain ⟨hd, ht⟩ := hb e hmem
  obtain ⟨hw, hwd, hwt, hwt'⟩ := words_carga hr hD hd ht hp hpag hini hm'
  have hnod := hD.dir e hmem
  have hnot := hD.tabla e hmem
  refine ⟨fun u hu r hr' => ?_, fun r hr' j hj => ?_, fun c x hx j hj => ?_, fun x hx hno => ?_⟩
  · simp only [List.length_append, List.length_singleton] at hu
    rcases Nat.lt_or_ge u (3 + g.cargas.length) with hlt | hge
    · -- a task loaded before keeps its directory
      obtain ⟨h1, h2, h3⟩ := hD.raiz hr hb hlt
      rw [raizDe_concat hlt, tablaDe_concat hlt, hw _ h1 h2 h3 r hr']
      exact (h.dirs u hlt r hr').congr (abre_concat hlt)
    · obtain rfl : u = 3 + g.cargas.length := by omega
      rw [raizDe_carga cargas_nueva, hwd r hr']
      exact h.dir_nueva hant hc hr'
  · rw [hw _ (by omega) (by omega) (by omega) j hj]
    exact h.comunes r hr' j hj
  · rcases concat_eq_some.mp hx with hx | ⟨rfl, rfl⟩
    · have hxm := List.mem_of_getElem? (cargas_concat (e := e) hx)
      have hne : x.espacio.tabla ≠ e.espacio.tabla := fun heq => by
        have := hD.tablas _ _ _ _ (cargas_concat hx) cargas_nueva heq
        have := (List.getElem?_eq_some_iff.mp hx).1
        omega
      rw [hw _ (hb x hxm).2 (Ne.symm (hD.cruz e hmem x hxm)) hne j hj]
      exact h.propias c x hx j hj
    · by_cases hs : Especial x.pag j
      · rw [hwt j hj hs]
        exact ⟨fun _ => rfl, fun hn => absurd (Or.inl hs) hn⟩
      · rw [hwt' j hj hs]
        exact h.tabla_nueva hant hc hj hs
  · simp only [DeTablas, List.mem_append, List.mem_singleton, not_or, not_exists, not_and] at hno
    have hno' := hno.2 e (Or.inr rfl)
    rw [hm', rd8_cargar _ _ _ hd ht hpag hx hno'.1 hno'.2]
    refine h.resto x hx ?_
    simp only [DeTablas, not_or, not_exists, not_and]
    exact ⟨hno.1, fun y hy => hno.2 y (Or.inl hy)⟩

end

/-! ### A grant -/

/-- The words of memory after a grant: two entries get the user bits. -/
lemma conceder_eq {t p d q : ℕ} {r : Regs} (hcr3 : (k.tssOf t).cr3 = 4096 * d) (hd : d < 2 ^ 20)
    (hq : word k.mem d (p / 1024) / 4096 = q) : conceder p (entrar t r k) =
      setWord (setWord k.mem d (p / 1024) (word k.mem d (p / 1024) ||| 7)) q (p % 1024)
        (word (setWord k.mem d (p / 1024) (word k.mem d (p / 1024) ||| 7)) q (p % 1024) ||| 7) := by
  have hent : ((entrar t r k).tssOf t).cr3 = 4096 * d := by
    rw [entrar_tssOf]
    exact hcr3
  have hdir : (4096 * d) &&& 0xfffff000 = 4096 * d := by
    rw [and_page_mask (by omega)]
    omega
  have hsel : rd32 k.mem (4096 * d + 4 * (p / 1024)) &&& 0xfffff000 = 4096 * q := by
    rw [and_page_mask (rd32_lt _ _), ← hq, word]
    ring
  have hlow : (4096 * q) &&& 7 = 0 := by
    rw [and_seven]
    omega
  have hsh : p >>> 10 = p / 1024 := Nat.shiftRight_eq_div_pow p 10
  unfold conceder
  simp only [entrar_tIndice, entrar_mem, hent, hdir, hsh, hsel, hlow, and_index_mask]
  rw [if_pos (by decide)]
  rfl

lemma word_conceder {p d q : ℕ} (hd : d < 2 ^ 20) (hq : q < 2 ^ 20) (hp : p < 2 ^ 20)
    (hne : d ≠ q) {m' : Mem}
    (hm' : m' = setWord (setWord m d (p / 1024) (word m d (p / 1024) ||| 7)) q (p % 1024)
      (word (setWord m d (p / 1024) (word m d (p / 1024) ||| 7)) q (p % 1024) ||| 7))
    {x j : ℕ} (hx : x < 2 ^ 20) (hj : j < 1024) : word m' x j =
      if x = d ∧ j = p / 1024 ∨ x = q ∧ j = p % 1024 then word m x j ||| 7 else word m x j := by
  have hlt : ∀ y i, (word m y i ||| 7) < 2 ^ 32 := fun y i => by
    have := word_lt m y i
    rw [or_seven]
    omega
  have hpq : word (setWord m d (p / 1024) (word m d (p / 1024) ||| 7)) q (p % 1024) =
      word m q (p % 1024) := word_setWord_of_ne hd (by omega) hq (by omega) (Or.inl (Ne.symm hne))
  rw [hm', hpq]
  by_cases h1 : x = q ∧ j = p % 1024
  · obtain ⟨rfl, rfl⟩ := h1
    rw [word_setWord_self, Nat.mod_eq_of_lt (hlt _ _), if_pos (Or.inr ⟨rfl, rfl⟩)]
  · rw [word_setWord_of_ne hq (by omega) hx hj (by tauto)]
    by_cases h2 : x = d ∧ j = p / 1024
    · obtain ⟨rfl, rfl⟩ := h2
      rw [word_setWord_self, Nat.mod_eq_of_lt (hlt _ _), if_pos (Or.inl ⟨rfl, rfl⟩)]
    · rw [word_setWord_of_ne hd (by omega) hx hj (by tauto), if_neg (by tauto)]

lemma Entrada.tocar {w' : ℕ} {T : Prop} [Decidable T] (h : Entrada w q P)
    (hw : w' = if T then w ||| 7 else w) (hQ : Q ↔ P ∨ T) : Entrada w' q Q := by
  by_cases hT : T
  · rw [if_pos hT] at hw
    exact hw ▸ h.abrir (hQ.mpr (Or.inr hT))
  · rw [if_neg hT] at hw
    exact hw ▸ h.congr ⟨fun hP => hQ.mpr (Or.inl hP), fun hq => (hQ.mp hq).resolve_right hT⟩

lemma mem_concat {l : List (ℕ × ℕ)} {x y : ℕ × ℕ} : x ∈ l ++ [y] ↔ x ∈ l ∨ x = y := by simp

lemma abre_conceder {u r t p : ℕ} : Abre { g with concesiones := g.concesiones ++ [(t, p)] } u r ↔
    Abre g u r ∨ p / 1024 = r ∧ (t = u ∨ t < 3 ∧ u < 3) := by
  unfold Abre
  simp only [mem_concat, Prod.mk.injEq]
  constructor
  · rintro (⟨t', p', h | ⟨rfl, rfl⟩, h1, h2⟩ | h)
    · exact Or.inl (Or.inl ⟨t', p', h, h1, h2⟩)
    · exact Or.inr ⟨h1, h2⟩
    · exact Or.inl (Or.inr h)
  · rintro ((⟨t', p', h, h1, h2⟩ | h) | ⟨h1, h2⟩)
    · exact Or.inl ⟨t', p', Or.inl h, h1, h2⟩
    · exact Or.inr h
    · exact Or.inl ⟨t, p, Or.inr ⟨rfl, rfl⟩, h1, h2⟩

lemma comparte_conceder {r j t p : ℕ} :
    Comparte { g with concesiones := g.concesiones ++ [(t, p)] } r j ↔
      Comparte g r j ∨ 1024 * r + j = p ∧ (r = 0 → t < 3) := by
  unfold Comparte
  simp only [mem_concat, Prod.mk.injEq]
  constructor
  · rintro ⟨t', h | ⟨rfl, rfl⟩, h1⟩
    · exact Or.inl ⟨t', h, h1⟩
    · exact Or.inr ⟨rfl, h1⟩
  · rintro (⟨t', h, h1⟩ | ⟨rfl, h1⟩)
    · exact ⟨t', Or.inl h, h1⟩
    · exact ⟨t, Or.inr ⟨rfl, rfl⟩, h1⟩

lemma usa_conceder {c j t p : ℕ} {e : Carga} :
    Usa { g with concesiones := g.concesiones ++ [(t, p)] } c e j ↔
      Usa g c e j ∨ 3 + c = t ∧ j = p := by
  unfold Usa
  simp only [mem_concat, Prod.mk.injEq]
  constructor
  · rintro (h | (h | h) | h)
    · exact Or.inl (Or.inl h)
    · exact Or.inl (Or.inr (Or.inl h))
    · exact Or.inr h
    · exact Or.inl (Or.inr (Or.inr h))
  · rintro ((h | h | h) | h)
    · exact Or.inl h
    · exact Or.inr (Or.inl (Or.inl h))
    · exact Or.inr (Or.inr h)
    · exact Or.inr (Or.inl (Or.inr h))

lemma tablas_de {t : ℕ} (ht : t < 3 + g.cargas.length) (hr : b.raiz + 1025 ≤ 2 ^ 20)
    (hb : ∀ e ∈ g.cargas, e.espacio.dir < 2 ^ 20 ∧ e.espacio.tabla < 2 ^ 20)
    (hD : Distintas b g) {r : ℕ} (hr' : r < 1024) :
    raizDe b g t < 2 ^ 20 ∧ tablaDe b g t r < 2 ^ 20 ∧ raizDe b g t ≠ tablaDe b g t r ∧
      DeTablas b g (raizDe b g t) ∧ DeTablas b g (tablaDe b g t r) := by
  have hcom : b.raiz ≤ b.raiz + 1 + r ∧ b.raiz + 1 + r ≤ b.raiz + 1024 := by omega
  rcases lt_tres_or ht with h3 | ⟨c, e, rfl, he⟩
  · rw [raizDe, if_pos h3, tablaDe, if_neg fun hx => by omega]
    exact ⟨by omega, by omega, by omega, Or.inl ⟨le_rfl, by omega⟩, Or.inl hcom⟩
  · have hm := List.mem_of_getElem? he
    have hdt := hb e hm
    rw [raizDe_carga he]
    rcases eq_or_ne r 0 with rfl | h0
    · rw [tablaDe_carga he]
      exact ⟨hdt.1, hdt.2, hD.cruz e hm e hm, Or.inr ⟨e, hm, Or.inl rfl⟩,
        Or.inr ⟨e, hm, Or.inr rfl⟩⟩
    · rw [tablaDe, if_neg fun hx => h0 hx.2]
      refine ⟨hdt.1, by omega, fun heq => hD.dir e hm (heq ▸ hcom), Or.inr ⟨e, hm, Or.inl rfl⟩,
        Or.inl hcom⟩

section
variable {t u r : ℕ} (hD : Distintas b g) (ht : t < 3 + g.cargas.length)
include hD ht

lemma raizDe_eq_iff (hu : u < 3 + g.cargas.length) :
    raizDe b g u = raizDe b g t ↔ t = u ∨ t < 3 ∧ u < 3 := by
  rcases lt_tres_or hu with h3 | ⟨c, e, rfl, he⟩ <;>
    rcases lt_tres_or ht with h3' | ⟨c', e', rfl, he'⟩
  · rw [raizDe, if_pos h3, raizDe, if_pos h3']
    exact iff_of_true rfl (Or.inr ⟨h3', h3⟩)
  · rw [raizDe, if_pos h3, raizDe_carga he']
    refine iff_of_false (fun heq => hD.dir e' (List.mem_of_getElem? he') (by omega)) (by omega)
  · rw [raizDe_carga he, raizDe, if_pos h3']
    refine iff_of_false (fun heq => hD.dir e (List.mem_of_getElem? he) (by omega)) (by omega)
  · rw [raizDe_carga he, raizDe_carga he']
    constructor
    · intro heq
      have := hD.dirs c c' e e' he he' heq
      omega
    · intro h
      obtain rfl : c = c' := by omega
      rw [he] at he'
      rw [Option.some.inj he']

lemma raizDe_ne_comun (hr : r < 1024) : b.raiz + 1 + r ≠ raizDe b g t := by
  rcases lt_tres_or ht with h3 | ⟨c, e, rfl, he⟩
  · rw [raizDe, if_pos h3]
    omega
  · rw [raizDe_carga he]
    exact fun heq => hD.dir e (List.mem_of_getElem? he) (by omega)

lemma raizDe_ne_tabla {c : ℕ} {e : Carga} (he : g.cargas[c]? = some e) :
    e.espacio.tabla ≠ raizDe b g t := by
  have hm := List.mem_of_getElem? he
  rcases lt_tres_or ht with h3 | ⟨c', e', rfl, he'⟩
  · rw [raizDe, if_pos h3]
    exact fun heq => hD.tabla e hm (by omega)
  · rw [raizDe_carga he']
    exact Ne.symm (hD.cruz e' (List.mem_of_getElem? he') e hm)

/-- The own table of a load is touched in the first region of its task. -/
lemma tabla_eq_tablaDe {c : ℕ} {e : Carga} (he : g.cargas[c]? = some e) (hr : r < 1024) :
    e.espacio.tabla = tablaDe b g t r ↔ 3 + c = t ∧ r = 0 := by
  have hm := List.mem_of_getElem? he
  by_cases h : 3 ≤ t ∧ r = 0
  · obtain ⟨h3, rfl⟩ := h
    obtain ⟨c', e', rfl, he'⟩ := (lt_tres_or ht).resolve_left (by omega)
    rw [tablaDe_carga he']
    constructor
    · intro heq
      have := hD.tablas c c' e e' he he' heq
      omega
    · rintro ⟨hc, -⟩
      obtain rfl : c = c' := by omega
      rw [he] at he'
      rw [Option.some.inj he']
  · rw [tablaDe, if_neg h]
    refine iff_of_false (fun heq => hD.tabla e hm (by omega)) (by omega)

/-- The kernel's table `r'` is touched in its region, unless the task has its own. -/
lemma comun_eq_tablaDe {r' : ℕ} (hr' : r' < 1024) :
    b.raiz + 1 + r' = tablaDe b g t r ↔ r' = r ∧ (r = 0 → t < 3) := by
  by_cases h : 3 ≤ t ∧ r = 0
  · obtain ⟨h3, rfl⟩ := h
    obtain ⟨c, e, rfl, he⟩ := (lt_tres_or ht).resolve_left (by omega)
    rw [tablaDe_carga he]
    refine iff_of_false (fun heq => hD.tabla e (List.mem_of_getElem? he) (by omega)) ?_
    exact fun hx => absurd (hx.2 rfl) (by omega)
  · rw [tablaDe, if_neg h]
    omega

lemma raizDe_ne_tablaDe (hu : u < 3 + g.cargas.length) (hr : r < 1024) :
    raizDe b g u ≠ tablaDe b g t r := by
  by_cases h : 3 ≤ t ∧ r = 0
  · obtain ⟨h3, rfl⟩ := h
    obtain ⟨c, e, rfl, he⟩ := (lt_tres_or ht).resolve_left (by omega)
    rw [tablaDe_carga he]
    exact Ne.symm (raizDe_ne_tabla hD hu he)
  · rw [tablaDe, if_neg h]
    exact Ne.symm (raizDe_ne_comun hD hu hr)

end

lemma Mapa.conceder {t p : ℕ} (h : Mapa b m g) (hr : b.raiz + 1025 ≤ 2 ^ 20)
    (hb : ∀ e ∈ g.cargas, e.espacio.dir < 2 ^ 20 ∧ e.espacio.tabla < 2 ^ 20)
    (hD : Distintas b g) (ht : t < 3 + g.cargas.length) (hp : p < 2 ^ 20) {m' : Mem}
    (hm' : m' = setWord (setWord m (raizDe b g t) (p / 1024)
        (word m (raizDe b g t) (p / 1024) ||| 7)) (tablaDe b g t (p / 1024)) (p % 1024)
      (word (setWord m (raizDe b g t) (p / 1024) (word m (raizDe b g t) (p / 1024) ||| 7))
        (tablaDe b g t (p / 1024)) (p % 1024) ||| 7)) :
    Mapa b m' { g with concesiones := g.concesiones ++ [(t, p)] } := by
  have hpr : p / 1024 < 1024 := by omega
  obtain ⟨hd, hq, hne, hdt, hqt⟩ := tablas_de ht hr hb hD hpr
  have hw := fun x hx j hj => word_conceder hd hq hp hne hm' (x := x) (j := j) hx hj
  refine ⟨fun u hu r hr' => ?_, fun r hr' j hj => ?_, fun c e he j hj => ?_, fun x hx hno => ?_⟩
  · have hu : u < 3 + g.cargas.length := hu
    obtain ⟨hu1, -, -, -, -⟩ := tablas_de hu hr hb hD hr'
    refine (h.dirs u hu r hr').tocar (hw _ hu1 r hr') (abre_conceder.trans (or_congr_right ?_))
    rw [raizDe_eq_iff hD ht hu]
    have hno := raizDe_ne_tablaDe hD ht hu hpr
    tauto
  · refine (h.comunes r hr' j hj).tocar (hw _ (by omega) j hj)
      (comparte_conceder.trans (or_congr_right ?_))
    rw [comun_eq_tablaDe hD ht hr']
    have hno := raizDe_ne_comun hD ht hr'
    constructor
    · rintro ⟨h1, h2⟩
      exact Or.inr ⟨⟨by omega, fun h0 => h2 (by omega)⟩, by omega⟩
    · rintro (⟨h1, -⟩ | ⟨⟨h1, h2⟩, h3⟩)
      · exact absurd h1 hno
      · exact ⟨by omega, fun h0 => h2 (by omega)⟩
  · have hm := List.mem_of_getElem? he
    refine (h.propias c e he j hj).tocar (hw _ (hb e hm).2 j hj)
      (usa_conceder.trans (or_congr_right ?_))
    rw [tabla_eq_tablaDe hD ht he hpr]
    have hno := raizDe_ne_tabla hD ht he
    constructor
    · rintro ⟨h1, h2⟩
      exact Or.inr ⟨⟨h1, by omega⟩, by omega⟩
    · rintro (⟨h1, -⟩ | ⟨⟨h1, h2⟩, h3⟩)
      · exact absurd h1 hno
      · exact ⟨h1, by omega⟩
  · have hxd : x / 4096 ≠ raizDe b g t := fun he => hno (he ▸ hdt)
    have hxq : x / 4096 ≠ tablaDe b g t (p / 1024) := fun he => hno (he ▸ hqt)
    rw [hm', rd8_setWord hq (by omega) hx hxq, rd8_setWord hd (by omega) hx hxd]
    exact h.resto x hx hno

/-! ### The invariant -/

lemma raiz_lt (hv : b.Ventana) : b.raiz + 1025 ≤ 2 ^ 20 := by
  obtain ⟨-, -, h1, h2⟩ := limites hv
  omega

lemma arranque_spec (hv : b.Ventana) :
    b.arranque.gDir = 4096 * b.raiz ∧ b.arranque.gTab = 4096 * (b.raiz + 1) ∧
      Mapa b b.arranque.mem ⟨[], [], false⟩ := by
  have hL : Lleno b.tablas.mm b.raiz := by
    rw [tablas_mm]
    exact mmInicial_lleno b.hfin b.hoff b.hlim
  have hM : b.tablas.mm.memMax = b.ram := by
    rw [tablas_mm]
    exact mmInicial_memMax
  have hc := raiz_cabe b hv
  obtain ⟨h1, h2, -, h3, h4, h5⟩ := iniPag_spec hL
    (by rw [hM]; simp only [CAN_TAB_PAG] at hc ⊢; omega) (by rw [hM]; exact b.hram)
  have hmem : b.arranque.mem = (iniPag b.tablas).mem := by
    unfold Maquina.arranque
    rw [propia_mem, propia_mem, propia_mem]
  have hdir : b.arranque.gDir = (iniPag b.tablas).gDir := by
    unfold Maquina.arranque
    rw [propia_gDir, propia_gDir, propia_gDir]
  have htab : b.arranque.gTab = (iniPag b.tablas).gTab := by
    unfold Maquina.arranque
    rw [propia_gTab, propia_gTab, propia_gTab]
  rw [hmem, hdir, htab]
  refine ⟨h1, h2, ⟨fun u hu r hr => ?_, fun r hr j hj => ?_, fun c e he => by simp at he,
    fun x hx hno => ?_⟩⟩
  · simp only [List.length_nil] at hu
    rw [raizDe, if_pos (by omega), tablaDe, if_neg fun hx => by omega]
    refine ⟨fun hA => ?_, fun _ => h3 r hr⟩
    rcases hA with ⟨_, _, hA, -⟩ | ⟨hA, -⟩
    · simp at hA
    · omega
  · refine ⟨fun ⟨_, hC, _⟩ => by simp at hC, fun _ => ?_⟩
    rw [h4 r hr j hj, Nat.mul_comm r]
  · rw [h5 x hx fun hc => hno (Or.inl ⟨hc.1, by omega⟩), tablas_mem]

lemma inicial_inv (hv : b.Ventana) (h : Inicial b s) : Inv b s := by
  have hdu := Owners.inicial_inv hv h
  obtain rfl := h
  obtain ⟨h1, h2, h3⟩ := arranque_spec hv
  refine ⟨⟨hdu, arranque_registro b, fun u hu => ?_, h1, h2, by simp, by simp, by simp, by simp,
    by simp⟩, h3⟩
  have hu3 := ((arranque_registro b).tarea_iff.mp hu).1
  rw [arranque_cr3 b hu3, raizDe, if_pos hu3, ← h1]
  unfold Maquina.arranque
  rw [propia_gDir, propia_gDir, propia_gDir]

lemma Orden.distintas (h : Orden b (k, g)) (hv : b.Ventana) : Distintas b g := by
  obtain ⟨L, hL⟩ := h.duenos.libro
  exact distintas_of_repartida hv hL.repartida

lemma Inv.video (h : Inv b (k, g)) (hg : g.video = false) :
    Inv b (soltarVideo k, { g with video := true }) := by
  refine ⟨⟨h.duenos.video hg, h.registro.congr (fun _ => rfl) rfl (fun _ => rfl) fun _ => rfl,
    h.cr3, h.gDir, h.gTab, h.bajo, h.modulo, h.unico, h.concesiones, h.antes⟩, ?_⟩
  exact ⟨h.mapa.dirs, h.mapa.comunes, h.mapa.propias, h.mapa.resto⟩

lemma concedida_lt (h : Owners.Inv b (k, g)) (hv : b.Ventana) {ebx p : ℕ} (hp : ebx < PAG_MEM)
    (hc : concedida ebx k.mm = some p) : p < 2 ^ 20 ∧ p ≠ 0 := by
  simp only [PAG_MEM] at hp
  have hw := h.ventana hv
  have hM := h.memMax
  have hr := b.hram
  simp only [PAG_MEM] at hr
  simp only at hw hM
  rcases (concedida_libre hc).2 with ⟨rfl, h0⟩ | ⟨rfl, h0⟩
  · exact ⟨by omega, h0⟩
  · have := (buscarMem_libre hw (by omega) h0).2.1
    exact ⟨by omega, h0⟩

lemma Orden.llamada {g' : Historia} (h : Orden b (k, g)) {k' : Kernel} (hM : Marco k k')
    (hdu : Owners.Inv b (k', g')) (hcar : g'.cargas = g.cargas)
    (hmas : ∀ a ∈ g.concesiones, a ∈ g'.concesiones)
    (hcon : ∀ t p, (t, p) ∈ g'.concesiones → Tarea k t ∧ p < 2 ^ 20 ∧ p ≠ 0) :
    Orden b (k', g') := by
  refine ⟨hdu, ?_, fun u hu => ?_, hM.gDir.trans h.gDir, hM.gTab.trans h.gTab, ?_, ?_, ?_,
    fun t p htp => ?_, ?_⟩
  · rw [hcar]
    exact hM.registro h.registro
  · obtain ⟨a, b', c, d, hq⟩ := hM.tss (some u)
    rw [hq, raizDe, hcar]
    exact h.cr3 u ((hM.tarea u).mp hu)
  · rw [hcar]
    exact h.bajo
  · rw [hcar]
    exact h.modulo
  · rw [hcar]
    exact h.unico
  · exact ⟨(hM.tarea t).mpr (hcon t p htp).1, (hcon t p htp).2⟩
  · rw [hcar]
    exact fun e he a ha => hmas a (h.antes e he a ha)

lemma Inv.mem (h : Inv b (k, g)) (hv : b.Ventana) (basura : ℕ → ℕ) {t : ℕ} {r : Regs}
    (ht : Tarea k t) (hr : r.eax = SYS_MEM) (hp : r.ebx < PAG_MEM) :
    Inv b (llamar basura t r k, g.conceder t r.ebx k.mm) := by
  have hdu := h.duenos.mem basura t hr
  have hM := llamar_marco basura t r k
  have hmem := llamar_mem_mem basura t k hr
  have hlt : t < 3 + g.cargas.length := (h.registro.tarea_iff.mp ht).1
  unfold Historia.conceder at hdu ⊢
  cases hc : concedida r.ebx k.mm with
  | none =>
    rw [hc] at hdu hmem
    refine ⟨h.toOrden.llamada hM hdu rfl (fun a ha => ha) h.concesiones, ?_⟩
    rw [hmem]
    exact h.mapa
  | some p =>
    rw [hc] at hdu hmem
    obtain ⟨hp20, hp0⟩ := concedida_lt h.duenos hv hp hc
    refine ⟨h.toOrden.llamada hM hdu rfl (fun a ha => mem_concat.mpr (Or.inl ha))
      fun t' p' htp => ?_, ?_⟩
    · rcases mem_concat.mp htp with htp | htp
      · exact h.concesiones t' p' htp
      · obtain ⟨rfl, rfl⟩ := Prod.mk.inj htp
        exact ⟨ht, hp20, hp0⟩
    · have hD := h.distintas hv
      have hb := fun e he => (⟨(h.bajo e he).1, (h.bajo e he).2.1⟩ :
        e.espacio.dir < 2 ^ 20 ∧ e.espacio.tabla < 2 ^ 20)
      have hraiz := raiz_lt hv
      obtain ⟨hd, -, -, -, -⟩ := tablas_de hlt hraiz hb hD (show p / 1024 < 1024 by omega)
      have hpag := (h.mapa.dirs t hlt (p / 1024) (by omega)).pagina
      have hcr : (k.tssOf t).cr3 = 4096 * raizDe b g t := by
        rw [h.registro.tssOf ht]
        exact h.cr3 t ht
      rw [hmem]
      exact h.mapa.conceder hraiz hb hD hlt hp20 (conceder_eq hcr hd hpag)

lemma modulo_lt (hm : b.modulos[i]? = some mod) (hpos : 0 < cantPaginas mod.ini mod.fin) :
    mod.ini / PAG_LEN + cantPaginas mod.ini mod.fin ≤ 2 ^ 20 := by
  have h := (b.lugar mod (List.mem_of_getElem? hm)
    (mod.ini / PAG_LEN + (cantPaginas mod.ini mod.fin - 1))
    ⟨Nat.le_add_right _ _, Nat.add_lt_add_left (by omega) _⟩).2
  have hl := b.hlim
  simp only [PAG_MEM, PAG_LEN] at hl h ⊢
  omega

lemma espacio_bajo (h : Owners.Inv b (k, g)) (hv : b.Ventana)
    (h0 : 0 ∉ (reservar 3 (setMems (mod.ini / PAG_LEN) (cantPaginas mod.ini mod.fin) k.mm)).1) :
    let e := espacio mod.ini mod.fin k
    e.dir < 2 ^ 20 ∧ e.tabla < 2 ^ 20 ∧ e.pila < 2 ^ 20 ∧ e.pila ≠ 0 := by
  intro e
  have hw := h.ventana hv
  have hM := h.memMax
  have hr := b.hram
  simp only [PAG_MEM] at hr
  simp only at hw hM
  have hlim : 8 * (k.mm.memMax / 8) ≤ 2 ^ 20 := by omega
  obtain ⟨-, hfree⟩ := espacio_libre (m := mod) hw (by omega) h0
  rw [reservar_espacio] at h0
  simp only [List.mem_cons, List.not_mem_nil, or_false, not_or] at h0
  exact ⟨lt_of_lt_of_le (hfree _ (Or.inl rfl)).2 hlim,
    lt_of_lt_of_le (hfree _ (Or.inr (Or.inl rfl))).2 hlim,
    lt_of_lt_of_le (hfree _ (Or.inr (Or.inr rfl))).2 hlim, Ne.symm h0.2.2⟩

lemma Orden.cr3_carga (h : Orden b (k, g)) {cs ds : ℕ} {l : Link} (hcs : cs ≠ 0)
    (ha : Admite mod.ini mod.fin k) (he : e.espacio = espacio mod.ini mod.fin k)
    (hd : e.espacio.dir < 2 ^ 20) {u : ℕ}
    (hu : Tarea (Tasks.cargar cs ds l mod.ini mod.fin mod.name k).2 u) :
    ((Tasks.cargar cs ds l mod.ini mod.fin mod.name k).2.tss (some u)).cr3 =
      4096 * raizDe b { g with cargas := g.cargas ++ [e] } u := by
  have hreg₀ : Registro (3 + g.cargas.length) k := h.registro
  obtain ⟨hu1, hu2⟩ := (cargar_registro ds l mod.name hcs ha hreg₀).tarea_iff.mp hu
  have htl := hreg₀.tssLibre
  rcases Nat.lt_or_ge u (3 + g.cargas.length) with hlt | hge
  · rw [cargar_tss_of_ne _ _ _ _ ha (by rw [htl]; split <;> simp; omega), raizDe_concat hlt]
    exact h.cr3 u (hreg₀.tarea_iff.mpr ⟨hlt, hu2⟩)
  · obtain rfl : u = 3 + g.cargas.length := by omega
    rw [if_pos (by simp only [PARES, MAX_GDT, MAX_TASK] at hu2 ⊢; omega)] at htl
    rw [(cargar_tss cs ds l mod.name ha htl).2.1, raizDe_carga cargas_nueva, ← he]
    exact Nat.mod_eq_of_lt (by omega)

lemma Orden.unico_carga (h : Orden b (k, g)) (hi : ∀ x ∈ g.cargas, x.modulo ≠ e.modulo)
    {c c' : ℕ} {x x' : Carga} (hx : (g.cargas ++ [e])[c]? = some x)
    (hx' : (g.cargas ++ [e])[c']? = some x') (heq : x.modulo = x'.modulo) : c = c' := by
  rcases concat_eq_some.mp hx with h1 | ⟨h1, h1e⟩ <;>
    rcases concat_eq_some.mp hx' with h2 | ⟨h2, h2e⟩
  · exact h.unico c c' x x' h1 h2 heq
  · rw [h2e] at heq
    exact absurd heq (hi x (List.mem_of_getElem? h1))
  · rw [h1e] at heq
    exact absurd heq.symm (hi x' (List.mem_of_getElem? h2))
  · exact h1.trans h2.symm

/-- **A load**: the other tables. -/
lemma Orden.carga (h : Orden b (k, g)) {cs ds : ℕ} (hcs : cs ≠ 0)
    (hdu : Owners.Inv b ((Tasks.cargar cs ds b.enlace mod.ini mod.fin mod.name k).2,
      { g with cargas := g.cargas ++ [e] }))
    (ha : Admite mod.ini mod.fin k) (hm : b.modulos[e.modulo]? = some mod)
    (hi : ∀ x ∈ g.cargas, x.modulo ≠ e.modulo) (hini : e.ini = mod.ini / PAG_LEN)
    (hpag : e.pag = cantPaginas mod.ini mod.fin) (he : e.espacio = espacio mod.ini mod.fin k)
    (hant : e.antes = g.concesiones)
    (hbajo : e.espacio.dir < 2 ^ 20 ∧ e.espacio.tabla < 2 ^ 20 ∧
      e.espacio.pila < 2 ^ 20 ∧ e.espacio.pila ≠ 0) :
    Orden b ((Tasks.cargar cs ds b.enlace mod.ini mod.fin mod.name k).2,
      { g with cargas := g.cargas ++ [e] }) := by
  have hreg₀ : Registro (3 + g.cargas.length) k := h.registro
  have hreg := cargar_registro ds b.enlace mod.name hcs ha hreg₀
  have hlen : 3 + (g.cargas ++ [e]).length = 3 + g.cargas.length + 1 := by simp; omega
  -- what holds of the loads before and of this one holds of all
  have htodas : ∀ {P : Carga → Prop}, (∀ x ∈ g.cargas, P x) → P e → ∀ x ∈ g.cargas ++ [e], P x := by
    intro P hP hPe x hx
    rcases List.mem_append.mp hx with hx | hx
    · exact hP x hx
    · obtain rfl := List.mem_singleton.mp hx
      exact hPe
  refine ⟨hdu, by rw [hlen]; exact hreg, fun u hu => h.cr3_carga hcs ha he hbajo.1 hu,
    (cargar_gDir _ _ _ _).trans h.gDir, (cargar_gTab _ _ _ _).trans h.gTab, htodas h.bajo hbajo,
    htodas h.modulo ⟨mod, hm, hini, hpag, by rw [hpag]; exact ha.2⟩,
    fun c c' x x' hx hx' heq => h.unico_carga hi hx hx' heq, fun t p htp => ?_,
    htodas h.antes fun a ha => by rwa [hant] at ha⟩
  obtain ⟨ht, hp⟩ := h.concesiones t p htp
  obtain ⟨ht1, ht2⟩ := hreg₀.tarea_iff.mp ht
  exact ⟨hreg.tarea_iff.mpr ⟨by omega, ht2⟩, hp⟩

lemma Inv.carga (h : Inv b (k, g)) (hv : b.Ventana) (usuario : Bool)
    (hm : b.modulos[i]? = some mod) (hi : ∀ e ∈ g.cargas, e.modulo ≠ i)
    (h0 : Admite mod.ini mod.fin k →
      0 ∉ (reservar 3 (setMems (mod.ini / PAG_LEN) (cantPaginas mod.ini mod.fin) k.mm)).1) :
    Inv b (b.cargar usuario mod k, g.cargar usuario i mod k) := by
  have hdu : Owners.Inv b (b.cargar usuario mod k, g.cargar usuario i mod k) :=
    h.duenos.carga hv h0
  by_cases ha : Admite mod.ini mod.fin k
  swap
  · unfold Historia.cargar
    rw [if_neg ha, cargar_noAdmite usuario ha]
    exact h
  have hbajo := espacio_bajo h.duenos hv (h0 ha)
  unfold Historia.cargar at hdu ⊢
  rw [if_pos ha, cargar_eq] at hdu ⊢
  set e : Carga := ⟨i, mod.ini / PAG_LEN, cantPaginas mod.ini mod.fin, espacio mod.ini mod.fin k,
    usuario, g.concesiones⟩ with he
  have horden := h.toOrden.carga (e := e) (by cases usuario <;> decide) hdu ha hm hi rfl rfl rfl rfl
    hbajo
  refine ⟨horden, ?_⟩
  have hlt : ∀ t p, (t, p) ∈ g.concesiones → t < 3 + g.cargas.length := fun t p htp =>
    (h.registro.tarea_iff.mp (h.concesiones t p htp).1).1
  have hgDir : k.gDir = 4096 * b.raiz := h.gDir
  have hgTab : k.gTab = 4096 * (b.raiz + 1) := h.gTab
  refine h.mapa.carga (raiz_lt hv) (horden.distintas hv) (fun e' he' => ?_) hbajo.2.2.1 ha.2
    (fun hpos => modulo_lt hm hpos) rfl hlt ?_
  · have := horden.bajo e' he'
    exact ⟨this.1, this.2.1⟩
  · rw [← hgDir, ← hgTab]
    exact cargar_mem _ _ b.enlace mod.name ha

/-- **The step lemma.** -/
lemma Inv.paso (h : Inv b s) (hv : b.Ventana) {e : Evento} (hs : Paso b s e s') : Inv b s' := by
  cases hs with
  | carga usuario hm hi h0 => exact h.carga hv usuario hm hi h0
  | video hg => exact h.video hg
  | mem basura ht hr hp => exact h.mem hv basura ht hr hp

/-- **The page tables of every state of every run.** -/
theorem tablas_en_todo_estado (hv : b.Ventana) (h : Reach (Inicial b) (Paso b) s) : Inv b s :=
  h.invariant (fun _ hs => inicial_inv hv hs) fun _ _ _ hi hs => hi.paso hv hs

end Silicio.Tables
