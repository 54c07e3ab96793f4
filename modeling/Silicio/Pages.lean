import Silicio.Mm
import Silicio.Runs

/-!
The bitmap as a set of pages.

The allocator is for a set: a page is put in, taken out, or the least one missing from a
window is named. The three calls of `mm/mm.c` on the bitmap are the three operations on
the set of its pages, over any sequence of calls.
-/

namespace Silicio.Pages

open Silicio.Bitmap Silicio.Defs Silicio.Mm Silicio.Runs

/-! ### The set -/

inductive Orden (n : ℕ)
  | set (p : Fin n)
  | unset (p : Fin n)
  | buscar

section
variable {n : ℕ}

/-- What a search of the window `V` may answer when the pages `S` are taken. -/
structure Primero (V S : Set ℕ) (r : ℕ) : Prop where
  cero : r = 0 ↔ V ⊆ S
  menor : r ≠ 0 → IsLeast (V \ S) r

/-- The allocator on the set `S` of the pages taken, and the answer `ok` or `error` it gives.
A search looks through `V`, and answers for it when the window is a `buena` one. -/
inductive Conjunto (ok error : ℕ) (buena : Prop) (V : Set ℕ) :
    Set ℕ → Orden n × ℕ → Set ℕ → Prop
  | reserva {S : Set ℕ} {p : Fin n} (h : (p : ℕ) ∉ S) :
      Conjunto ok error buena V S (.set p, ok) (insert (p : ℕ) S)
  | tomada {S : Set ℕ} {p : Fin n} (h : (p : ℕ) ∈ S) :
      Conjunto ok error buena V S (.set p, error) S
  | suelta {S : Set ℕ} {p : Fin n} (h : (p : ℕ) ∈ S) :
      Conjunto ok error buena V S (.unset p, ok) (S \ {(p : ℕ)})
  | libre {S : Set ℕ} {p : Fin n} (h : (p : ℕ) ∉ S) :
      Conjunto ok error buena V S (.unset p, error) S
  | busca {S : Set ℕ} {r : ℕ} (h : buena → Primero V S r) :
      Conjunto ok error buena V S (.buscar, r) S

end

/-! ### The bitmap -/

def paginas (mm : Mm) : Set ℕ := {p | p < PAG_MEM ∧ ocupada mm p = true}

def ventana (mm : Mm) : Set ℕ := Set.Ico (8 * ((mm.memOff - 10) / 8)) (8 * (mm.memMax / 8))

/-- The window lies in the map and not at its foot. -/
def Dentro (mm : Mm) : Prop :=
  18 ≤ mm.memOff ∧ (mm.memOff - 10) / 8 ≤ mm.memMax / 8 ∧ mm.memMax / 8 ≤ MAP_LEN

def llamar (mm : Mm) : Orden PAG_MEM → ℕ × Mm
  | .set p => setMem mm p
  | .unset p => unsetMem mm p
  | .buscar => (buscarMem mm, mm)

def Llamada (mm : Mm) (o : Orden PAG_MEM × ℕ) (mm' : Mm) : Prop := llamar mm o.1 = (o.2, mm')

variable {mm mm' : Mm}

lemma mem_paginas {p : Fin PAG_MEM} : (p : ℕ) ∈ paginas mm ↔ ocupada mm p = true :=
  and_iff_right p.isLt

lemma paginas_setMem (p : Fin PAG_MEM) :
    paginas (setMem mm p).2 = insert (p : ℕ) (paginas mm) := by
  ext q
  simp only [paginas, Set.mem_insert_iff, Set.mem_ofPred_eq, ocupada_setMem, Bool.or_eq_true,
    decide_eq_true_eq]
  constructor
  · rintro ⟨hq, h | rfl⟩
    · exact Or.inr ⟨hq, h⟩
    · exact Or.inl rfl
  · rintro (rfl | ⟨hq, h⟩)
    · exact ⟨p.isLt, Or.inr rfl⟩
    · exact ⟨hq, Or.inl h⟩

lemma paginas_unsetMem (p : Fin PAG_MEM) :
    paginas (unsetMem mm p).2 = paginas mm \ {(p : ℕ)} := by
  ext q
  simp only [paginas, Set.mem_sdiff, Set.mem_singleton_iff, Set.mem_ofPred_eq, ocupada_unsetMem,
    Bool.and_eq_true, decide_eq_true_eq, and_assoc]

lemma Dentro.primero (h : Dentro mm) : Primero (ventana mm) (paginas mm) (buscarMem mm) := by
  obtain ⟨hoff, hw, hmax⟩ := h
  simp only [MAP_LEN, PAG_MEM, SEC_MEM] at hmax
  have hi : inicio mm = (mm.memOff - 10) / 8 := inicio_of_le (by omega) (by omega)
  -- a page of the window is in the set when its bit is 1, the bound holds by itself
  have hin : ∀ p, p ∈ ventana mm → (p ∈ paginas mm ↔ ocupada mm p = true) := by
    intro p hp
    refine and_iff_right ?_
    have := hp.2
    simp only [PAG_MEM]
    omega
  rcases buscarMem_spec (hi.trans_le hw) (by omega) with hs | ⟨h0, hall⟩
  · rw [hi] at hs
    have hv : buscarMem mm ∈ ventana mm := ⟨hs.1.1, hs.1.2.1⟩
    have hno : buscarMem mm ∉ paginas mm := fun hc => by
      have := (hin _ hv).mp hc
      rw [hs.1.2.2] at this
      cases this
    refine ⟨⟨fun h0 => ?_, fun hsub => absurd (hsub hv) hno⟩, fun _ => ⟨⟨hv, hno⟩, ?_⟩⟩
    · have := hv.1
      omega
    · rintro p ⟨hp, hpn⟩
      refine hs.2 ⟨hp.1, hp.2, ?_⟩
      rw [hin p hp] at hpn
      simpa using hpn
  · rw [hi] at hall
    refine ⟨⟨fun _ p hp => (hin p hp).mpr (hall p hp.1 hp.2), fun _ => h0⟩, fun hne => ?_⟩
    exact absurd h0 hne

lemma llamar_ventana (mm : Mm) (o : Orden PAG_MEM) :
    (llamar mm o).2.memOff = mm.memOff ∧ (llamar mm o).2.memMax = mm.memMax := by
  cases o with
  | set p => exact ⟨setMem_memOff mm p, setMem_memMax mm p⟩
  | unset p => exact ⟨unsetMem_memOff mm p, unsetMem_memMax mm p⟩
  | buscar => exact ⟨rfl, rfl⟩

/-- **One call** on the bitmap is the call on the set. -/
theorem llamada_conjunto {o : Orden PAG_MEM × ℕ} (h : Llamada mm o mm') :
    Conjunto PAG_OK PAG_ERROR (Dentro mm) (ventana mm) (paginas mm) o (paginas mm') := by
  obtain ⟨o, r⟩ := o
  obtain rfl : (llamar mm o).1 = r := congrArg Prod.fst h
  obtain rfl : (llamar mm o).2 = mm' := congrArg Prod.snd h
  cases o with
  | set p =>
    rw [llamar, paginas_setMem]
    by_cases hocc : ocupada mm p = true
    · have hin := mem_paginas.mpr hocc
      rw [setMem_eq, if_pos hocc, Set.insert_eq_of_mem hin]
      exact .tomada hin
    · rw [setMem_eq, if_neg hocc]
      exact .reserva (mt mem_paginas.mp hocc)
  | unset p =>
    rw [llamar, paginas_unsetMem]
    by_cases hocc : ocupada mm p = true
    · rw [unsetMem_eq, if_pos hocc]
      exact .suelta (mem_paginas.mpr hocc)
    · have hno := mt mem_paginas.mp hocc
      rw [unsetMem_eq, if_neg hocc, Set.sdiff_singleton_eq_self hno]
      exact .libre hno
  | buscar => exact .busca fun hd => hd.primero

/-- **The bitmap refines the set**: over any sequence of calls it answers as the set does and
stands for the set those calls leave. -/
theorem bitmap_refina_conjunto {l : List (Orden PAG_MEM × ℕ)} (h : Steps Llamada mm l mm') :
    Steps (Conjunto PAG_OK PAG_ERROR (Dentro mm) (ventana mm)) (paginas mm) l (paginas mm') := by
  let R : Mm → Set ℕ → Prop := fun t S =>
    S = paginas t ∧ t.memOff = mm.memOff ∧ t.memMax = mm.memMax
  have hsim : ∀ s o s' S, R s S → Llamada s o s' →
      ∃ S', Conjunto PAG_OK PAG_ERROR (Dentro mm) (ventana mm) S o S' ∧ R s' S' := by
    rintro s o s' _ ⟨rfl, hoff, hmax⟩ hs
    have hc := llamada_conjunto hs
    obtain rfl : (llamar s o.1).2 = s' := congrArg Prod.snd hs
    obtain ⟨hoff', hmax'⟩ := llamar_ventana s o.1
    rw [Dentro, ventana, hoff, hmax] at hc
    exact ⟨_, hc, rfl, hoff'.trans hoff, hmax'.trans hmax⟩
  obtain ⟨S, hS, rfl, -⟩ := h.sim hsim ⟨rfl, rfl, rfl⟩
  exact hS

/-- Page 15 is the last of its byte: its mask is the sign bit of a `char`. -/
theorem bitmap_refina_conjunto_signo :
    let mm : Mm := ⟨fun _ => 0, 24, 18⟩
    let p : Fin PAG_MEM := ⟨15, by decide⟩
    Steps (Conjunto PAG_OK PAG_ERROR (Dentro mm) (ventana mm)) (paginas mm)
      [(.set p, PAG_OK), (.set p, PAG_ERROR), (.buscar, 8), (.unset p, PAG_OK)]
      (paginas (unsetMem (setMem (setMem mm 15).2 15).2 15).2) := by
  intro mm p
  have h1 : Llamada mm (.set p, PAG_OK) (setMem mm 15).2 := Prod.ext (by decide) rfl
  have h2 : Llamada (setMem mm 15).2 (.set p, PAG_ERROR) (setMem (setMem mm 15).2 15).2 :=
    Prod.ext (by decide) rfl
  have h3 : Llamada (setMem (setMem mm 15).2 15).2 (.buscar, 8) (setMem (setMem mm 15).2 15).2 :=
    Prod.ext (by decide) rfl
  exact bitmap_refina_conjunto (.cons h1 (.cons h2 (.cons h3 (.cons (Prod.ext (by decide) rfl)
    (.nil _)))))

end Silicio.Pages
