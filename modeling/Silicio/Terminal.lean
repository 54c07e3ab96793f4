import Mathlib.Tactic

/-!
A terminal that scrolls: a grid of cells, a cursor, and keys that arrive one after the other.

The key of a character writes its cell and moves the cursor on. A key that fills a row, and that
of a new line, ends a line: the cursor goes to the next row, and past the last row all rows go up
and the last one is blank. As long as no key takes the cursor back, all that lies at the cursor
or after it is blank.
-/

namespace Silicio.Terminal

variable {α : Type*}

inductive Tecla (α : Type*) where
  | letra (a : α)
  | nueva
  | retorno

/-- The cells, `none` where nothing is drawn, and the cursor. -/
structure Pantalla (α : Type*) where
  celda : ℕ → ℕ → Option α
  fila : ℕ
  columna : ℕ

def vacia : Pantalla α := ⟨fun _ _ => none, 0, 0⟩

def Pantalla.saltar (filas : ℕ) (t : Pantalla α) : Pantalla α :=
  if t.fila + 1 < filas then { t with fila := t.fila + 1, columna := 0 }
  else { t with
    celda := fun f c => if f + 1 < filas then t.celda (f + 1) c else none
    columna := 0 }

def Pantalla.anotar (t : Pantalla α) : Tecla α → Pantalla α
  | .letra a => { t with
      celda := fun f c => if f = t.fila ∧ c = t.columna then some a else t.celda f c
      columna := t.columna + 1 }
  | .nueva => t
  | .retorno => { t with columna := 0 }

variable (columnas filas : ℕ)

def termina (columna : ℕ) : Tecla α → Bool
  | .letra _ => decide (columnas ≤ columna + 1)
  | .nueva => true
  | .retorno => false

def recibir (t : Pantalla α) (k : Tecla α) : Pantalla α :=
  if termina columnas t.columna k then (t.anotar k).saltar filas else t.anotar k

def mostrar (l : List (Tecla α)) : Pantalla α := l.foldl (recibir columnas filas) vacia

/-- The column of the cursor and the lines ended, after one key more. -/
def avanzar (p : ℕ × ℕ) (k : Tecla α) : ℕ × ℕ :=
  if termina columnas p.1 k then (0, p.2 + 1)
  else match k with
    | .letra _ => (p.1 + 1, p.2)
    | _ => (0, p.2)

def fines (l : List (Tecla α)) : ℕ := (l.foldl (avanzar columnas) (0, 0)).2

structure Dentro (t : Pantalla α) : Prop where
  columna : t.columna < columnas
  fila : t.fila < filas

def Limpia (t : Pantalla α) : Prop :=
  ∀ f c, t.fila < f ∨ f = t.fila ∧ t.columna ≤ c → t.celda f c = none

variable {columnas filas} {t : Pantalla α} {k : Tecla α} {l : List (Tecla α)}

lemma mostrar_concat (l : List (Tecla α)) (k : Tecla α) :
    mostrar columnas filas (l ++ [k]) = recibir columnas filas (mostrar columnas filas l) k := by
  rw [mostrar, List.foldl_append, mostrar, List.foldl_cons, List.foldl_nil]

lemma fila_anotar (t : Pantalla α) (k : Tecla α) : (t.anotar k).fila = t.fila := by
  cases k <;> rfl

lemma columna_saltar (t : Pantalla α) : (t.saltar filas).columna = 0 := by
  unfold Pantalla.saltar
  split <;> rfl

lemma fila_saltar (t : Pantalla α) :
    (t.saltar filas).fila = if t.fila + 1 < filas then t.fila + 1 else t.fila := by
  unfold Pantalla.saltar
  split <;> rfl

/-! ### The cursor -/

lemma Dentro.recibir (h : Dentro columnas filas t) (k : Tecla α) :
    Dentro columnas filas (recibir columnas filas t k) := by
  have hc := h.columna
  have hf := h.fila
  unfold Terminal.recibir
  split
  · refine ⟨by rw [columna_saltar]; omega, ?_⟩
    rw [fila_saltar, fila_anotar]
    split <;> omega
  · next hk =>
    refine ⟨?_, by rwa [fila_anotar]⟩
    cases k with
    | letra a =>
      have hlt : ¬ columnas ≤ t.columna + 1 := fun hle => hk (decide_eq_true hle)
      exact Nat.lt_of_not_le hlt
    | nueva => exact hc
    | retorno => exact Nat.zero_lt_of_lt hc

theorem mostrar_dentro (hc : 0 < columnas) (hf : 0 < filas) (l : List (Tecla α)) :
    Dentro columnas filas (mostrar columnas filas l) := by
  induction l using List.reverseRecOn with
  | nil => exact ⟨hc, hf⟩
  | append_singleton l k ih =>
    rw [mostrar_concat]
    exact ih.recibir k

/-- **Where the cursor is** after any keys: the rows go by with the lines ended, up to the last. -/
theorem cursor_mostrar (columnas : ℕ) (hf : 0 < filas) (l : List (Tecla α)) :
    (mostrar columnas filas l).columna = (l.foldl (avanzar columnas) (0, 0)).1 ∧
      (mostrar columnas filas l).fila = min (fines columnas l) (filas - 1) := by
  induction l using List.reverseRecOn with
  | nil => exact ⟨rfl, (Nat.zero_min _).symm⟩
  | append_singleton l k ih =>
    obtain ⟨hcol, hfila⟩ := ih
    unfold fines at hfila ⊢
    rw [mostrar_concat, List.foldl_append, List.foldl_cons, List.foldl_nil]
    generalize l.foldl (avanzar columnas) (0, 0) = p at hcol hfila
    unfold recibir avanzar
    rw [hcol]
    split
    · refine ⟨columna_saltar _, ?_⟩
      rw [fila_saltar, fila_anotar, hfila]
      split <;> omega
    · refine ⟨?_, by rw [fila_anotar, hfila]; cases k <;> rfl⟩
      cases k with
      | letra a => exact congrArg (· + 1) hcol
      | nueva => exact absurd rfl ‹_›
      | retorno => rfl

lemma fines_concat (hf : 0 < filas) (l : List (Tecla α)) (k : Tecla α) :
    fines columnas (l ++ [k]) = fines columnas l +
      if termina columnas (mostrar columnas filas l).columna k then 1 else 0 := by
  rw [(cursor_mostrar columnas hf l).1]
  unfold fines
  rw [List.foldl_append, List.foldl_cons, List.foldl_nil]
  generalize l.foldl (avanzar columnas) (0, 0) = p
  unfold avanzar
  split
  · rfl
  · cases k <;> rfl

lemma fines_append (l l' : List (Tecla α)) : fines columnas l ≤ fines columnas (l ++ l') := by
  induction l' using List.reverseRecOn with
  | nil => rw [List.append_nil]
  | append_singleton l' k ih =>
    rw [← List.append_assoc, fines_concat Nat.one_pos]
    exact ih.trans (Nat.le_add_right _ _)

/-! ### Blank cells -/

lemma Limpia.saltar (h : Limpia t) : Limpia (t.saltar filas) := by
  unfold Pantalla.saltar
  split
  · next hlt =>
    rintro f c (hf | ⟨hf, -⟩)
    · exact h f c (Or.inl (by simp only at hf; omega))
    · exact h f c (Or.inl (by simp only at hf; omega))
  · next hge =>
    intro f c hfc
    simp only at hfc ⊢
    rw [if_neg]
    omega

lemma Limpia.anotar (h : Limpia t) (hk : k ≠ .retorno) : Limpia (t.anotar k) := by
  cases k with
  | letra a =>
    intro f c hfc
    simp only [Pantalla.anotar] at hfc ⊢
    rw [if_neg (by omega)]
    exact h f c (by omega)
  | nueva => exact h
  | retorno => exact absurd rfl hk

theorem mostrar_limpia (hl : ∀ k ∈ l, k ≠ .retorno) : Limpia (mostrar columnas filas l) := by
  induction l using List.reverseRecOn with
  | nil => exact fun _ _ _ => rfl
  | append_singleton l k ih =>
    have hprev := (ih fun k' hk' => hl k' (List.mem_append_left _ hk')).anotar (hl k (by simp))
    rw [mostrar_concat, recibir]
    split
    · exact hprev.saltar
    · exact hprev

end Silicio.Terminal
