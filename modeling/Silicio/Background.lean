import Silicio.Console

/-!
`bmp2vbe` of `file/file.c`: the background of the screen.

The part of the image that is drawn is as large as the screen at most, and then moved: right and
down in a mode of 24 or 32 bits, by what the macros of the centre say. The headers and the image are
apart from the memory of the screen.
-/

namespace Silicio.Background

open Silicio.Loop Silicio.Bitmap Silicio.Bytes Silicio.Console

structure BmpHeader where
  char0 : Byte
  char1 : Byte
  offset : ℕ
  sizeFile : ℕ
  x : ℕ
  y : ℕ
  xy : ℕ
  initImg : ℕ
  bitPerPixel : ℕ

abbrev BMP_CENTER_H_24 : ℕ := 30 * 3
abbrev BMP_CENTER_V_24 : ℕ := 30 * 3
abbrev BMP_CENTER_H_32 : ℕ := 10 * 4
abbrev BMP_CENTER_V_32 : ℕ := 20 * 4

def color (des orig : ℕ) (s : Lectura) : Lectura :=
  ((s.copiar des orig).copiar (des + 1) (orig + 1)).copiar (des + 2) (orig + 2)

/-- The loops of `bmp2vbe` over pixels of `n` bytes, moved by `ch` and `cv`. -/
def centrar (n ch cv : ℕ) (b : BmpHeader) (v : Vbe) (xScr yScr : ℕ) (s : Lectura) : Lectura :=
  loop (fun yAux s =>
    let pixel := v.addr + yAux * v.x * n + ch + v.x * cv
    let bmpColor := b.initImg + (b.y - 1 - yAux) * (b.x * 3 + 2)
    loop (fun xAux s => color (pixel + n * xAux) (bmpColor + 3 * xAux) s) xScr s) yScr s

/-- The loops over pixels of the mode of 30 bits, from the end of the image back. -/
def volcar (b : BmpHeader) (v : Vbe) (xScr yScr : ℕ) (s : Lectura) : Lectura :=
  loop (fun yAux s =>
    let pixel32 := v.addr + 4 * (yAux * v.x)
    let bmpPixel := b.initImg + 3 * (2 ^ 32 - yAux * b.x % 2 ^ 32) + 3 * b.xy
    loop (fun xAux s => color (pixel32 + 4 * xAux) (bmpPixel + 3 * (2 ^ 32 - xAux)) s) xScr s)
    yScr s

def bmp2vbe (b : BmpHeader) (v : Vbe) (s : Lectura) : Lectura :=
  let xScr := if v.x < b.x then v.x else b.x
  let yScr := if v.y < b.y then v.y else b.y
  if v.color = 24 then centrar 3 BMP_CENTER_H_24 BMP_CENTER_V_24 b v xScr yScr s
  else if v.color = 30 then volcar b v xScr yScr s
  else if v.color = 32 then centrar 4 BMP_CENTER_H_32 BMP_CENTER_V_32 b v xScr yScr s
  else s

variable {b : BmpHeader} {v : Vbe} {s : Lectura} {n ch cv xScr yScr a p : ℕ}

/-! ### What is written -/

lemma escritas_copiar (des orig : ℕ) (s : Lectura) : a ∈ (s.copiar des orig).video.escritas ↔
    a ∈ s.video.escritas ∨ a = des % 2 ^ 32 := by
  rw [Or.comm]
  exact List.mem_cons

lemma color_or {Q : Lectura → Prop} {P : ℕ → ℕ → Prop}
    (h : ∀ des orig s, Q (s.copiar des orig) ↔ Q s ∨ P des orig) (des orig : ℕ) (s : Lectura) :
    Q (color des orig s) ↔ Q s ∨ ∃ k < 3, P (des + k) (orig + k) := by
  unfold color
  rw [h, h, h, or_assoc, or_assoc]
  refine or_congr_right ⟨?_, ?_⟩
  · rintro (h | h | h)
    · exact ⟨0, by decide, h⟩
    · exact ⟨1, by decide, h⟩
    · exact ⟨2, by decide, h⟩
  · rintro ⟨k, hk, h⟩
    interval_cases k
    · exact Or.inl h
    · exact Or.inr (Or.inl h)
    · exact Or.inr (Or.inr h)

/-- Where row `yAux` begins, from the start of the screen. -/
def renglon (n ch cv : ℕ) (v : Vbe) (yAux : ℕ) : ℕ := yAux * v.x * n + ch + v.x * cv

/-- Where the row of the image drawn in row `yAux` is read from. -/
def fila (b : BmpHeader) (yAux : ℕ) : ℕ := b.initImg + (b.y - 1 - yAux) * (b.x * 3 + 2)

lemma centrar_or {Q : Lectura → Prop} {P : ℕ → ℕ → Prop}
    (h : ∀ des orig s, Q (s.copiar des orig) ↔ Q s ∨ P des orig) (s : Lectura) :
    Q (centrar n ch cv b v xScr yScr s) ↔ Q s ∨ ∃ y < yScr, ∃ x < xScr, ∃ k < 3,
      P (v.addr + (renglon n ch cv v y + n * x + k)) (fila b y + 3 * x + k) := by
  unfold centrar
  refine loop_or (fun y s => ?_) yScr s
  refine loop_or (fun x s => ?_) xScr s
  rw [color_or h]
  refine or_congr_right (exists_congr fun k => and_congr_right fun _ => ?_)
  rw [show v.addr + y * v.x * n + ch + v.x * cv + n * x + k =
    v.addr + (renglon n ch cv v y + n * x + k) by unfold renglon; ring, fila]

lemma escritas_centrar (s : Lectura) : a ∈ (centrar n ch cv b v xScr yScr s).video.escritas ↔
    a ∈ s.video.escritas ∨ ∃ y < yScr, ∃ x < xScr, ∃ k < 3,
      a = (v.addr + (renglon n ch cv v y + n * x + k)) % 2 ^ 32 :=
  centrar_or (Q := fun s => a ∈ s.video.escritas) (P := fun des _ => a = des % 2 ^ 32)
    escritas_copiar s

/-! ### Inside the screen -/

def Entra (n ch cv : ℕ) (v : Vbe) (xScr y : ℕ) : Prop :=
  renglon n ch cv v y % 2 ^ 32 + n * xScr ≤ v.x * v.y * n

lemma mem_pantalla {size o : ℕ} (hs : size < 2 ^ 32) :
    (∃ j < size, (v.addr + o) % 2 ^ 32 = (v.addr + j) % 2 ^ 32) ↔ o % 2 ^ 32 < size := by
  have hmod : (v.addr + o) % 2 ^ 32 = (v.addr + o % 2 ^ 32) % 2 ^ 32 := by
    rw [Nat.add_mod, Nat.add_mod v.addr (o % 2 ^ 32), Nat.mod_mod]
  constructor
  · rintro ⟨j, hj, he⟩
    rw [hmod] at he
    rwa [(add_mod_inj v.addr (Nat.mod_lt _ (by decide)) (by omega)).mp he]
  · intro hlt
    exact ⟨o % 2 ^ 32, hlt, hmod⟩

/-- **A row of three or four bytes a pixel** is written inside the screen just when it ends there:
the places begin one after the other, or four apart from a multiple of four. -/
lemma renglon_entra (hn : n = 3 ∨ n = 4 ∧ 4 ∣ ch ∧ 4 ∣ cv) (hs : v.x * v.y * n < 2 ^ 32)
    (hx : 0 < xScr) (y : ℕ) :
    (∀ x < xScr, ∀ k < 3, (renglon n ch cv v y + n * x + k) % 2 ^ 32 < v.x * v.y * n) ↔
      Entra n ch cv v xScr y := by
  unfold Entra
  set size := v.x * v.y * n with hsize
  set o := renglon n ch cv v y with ho
  constructor
  · intro hin
    have h0 := hin 0 hx 0 (by decide)
    by_contra hout
    -- one of the places of the row is the first after the screen
    obtain ⟨x, k, hxs, hk, he⟩ : ∃ x k, x < xScr ∧ k < 3 ∧ o % 2 ^ 32 + n * x + k = size := by
      rcases hn with rfl | ⟨rfl, hch, hcv⟩
      · exact ⟨(size - o % 2 ^ 32) / 3, (size - o % 2 ^ 32) % 3, by omega, Nat.mod_lt _ (by decide),
          by omega⟩
      · have h4 : 4 ∣ o % 2 ^ 32 := by
          rw [Nat.dvd_mod_iff (by decide), ho]
          exact ((Dvd.intro_left _ rfl).add hch).add (hcv.mul_left _)
        have h4s : 4 ∣ size := Dvd.intro_left _ rfl
        exact ⟨(size - o % 2 ^ 32) / 4, 0, by omega, by decide, by omega⟩
    have := hin x hxs k hk
    omega
  · intro hin x hxs k hk
    have hle : n * (x + 1) ≤ n * xScr := Nat.mul_le_mul_left n hxs
    rw [Nat.mul_succ] at hle
    have hn3 : 3 ≤ n := by omega
    have hlt : o % 2 ^ 32 + n * x + k < size := by omega
    rw [show (o + n * x + k) % 2 ^ 32 = (o % 2 ^ 32 + n * x + k) % 2 ^ 32 by omega,
      Nat.mod_eq_of_lt (by omega)]
    exact hlt

lemma centrar_dentro (hn : n = 3 ∨ n = 4 ∧ 4 ∣ ch ∧ 4 ∣ cv) (hs : v.x * v.y * n < 2 ^ 32)
    (h0 : s.video.escritas = []) :
    Escribe v.addr (v.x * v.y * n) (centrar n ch cv b v xScr yScr s).video ↔
      xScr = 0 ∨ ∀ y < yScr, Entra n ch cv v xScr y := by
  have hmem : ∀ a, a ∈ (centrar n ch cv b v xScr yScr s).video.escritas ↔
      ∃ y < yScr, ∃ x < xScr, ∃ k < 3,
        a = (v.addr + (renglon n ch cv v y + n * x + k)) % 2 ^ 32 := by
    intro a
    rw [escritas_centrar, h0]
    exact or_iff_right List.not_mem_nil
  rcases Nat.eq_zero_or_pos xScr with hx | hx
  · refine iff_of_true (fun a ha => ?_) (Or.inl hx)
    obtain ⟨y, -, x, hxs, -⟩ := (hmem a).mp ha
    omega
  · rw [or_iff_right (by omega)]
    constructor
    · intro hin y hy
      refine (renglon_entra hn hs hx y).mp fun x hxs k hk => (mem_pantalla (v := v) hs).mp ?_
      exact hin _ ((hmem _).mpr ⟨y, hy, x, hxs, k, hk, rfl⟩)
    · intro hin a ha
      obtain ⟨y, hy, x, hxs, k, hk, rfl⟩ := (hmem a).mp ha
      exact (mem_pantalla hs).mpr ((renglon_entra hn hs hx y).mpr (hin y hy) x hxs k hk)

/-- The offset of the centre, in bytes of a row and in bytes a column. -/
def centro (color : ℕ) : ℕ × ℕ :=
  if color = 24 then (BMP_CENTER_H_24, BMP_CENTER_V_24) else (BMP_CENTER_H_32, BMP_CENTER_V_32)

/-- The rows that are drawn, moved to the centre, end inside the screen. -/
def Cabe (b : BmpHeader) (v : Vbe) : Prop :=
  min v.x b.x = 0 ∨ ∀ y < min v.y b.y,
    Entra (v.color / 8) (centro v.color).1 (centro v.color).2 v (min v.x b.x) y

/-- **`bmp2vbe` writes inside the screen** just when the rows it moves to the centre end there. -/
theorem bmp2vbe_dentro (b : BmpHeader) (hcolor : v.color = 24 ∨ v.color = 32)
    (hs : v.x * v.y * (v.color / 8) < 2 ^ 32) (m : Mem) :
    Escribe v.addr (v.x * v.y * (v.color / 8)) (bmp2vbe b v ⟨⟨m, []⟩, []⟩).video ↔ Cabe b v := by
  have hmin : ∀ x y : ℕ, (if x < y then x else y) = min x y := by
    intro x y
    split <;> omega
  unfold Cabe bmp2vbe
  simp only [hmin]
  rcases hcolor with hc | hc
  · rw [hc] at hs ⊢
    exact centrar_dentro (Or.inl rfl) hs rfl
  · rw [hc] at hs ⊢
    exact centrar_dentro (Or.inr ⟨rfl, by decide, by decide⟩) hs rfl

lemma cabe_margen (hcolor : v.color = 24 ∨ v.color = 32)
    (hs : v.x * v.y * (v.color / 8) < 2 ^ 32)
    (hx : b.x + (centro v.color).1 / (v.color / 8) ≤ v.x)
    (hy : b.y + (centro v.color).2 / (v.color / 8) ≤ v.y) : Cabe b v := by
  have hentra : ∀ n mh mv, v.x * v.y * n < 2 ^ 32 → b.x + mh ≤ v.x → b.y + mv ≤ v.y →
      ∀ y < min v.y b.y, Entra n (n * mh) (n * mv) v (min v.x b.x) y := by
    intro n mh mv hs hx hy y hlt
    have hend : renglon n (n * mh) (n * mv) v y + n * min v.x b.x ≤ v.x * v.y * n := by
      calc renglon n (n * mh) (n * mv) v y + n * min v.x b.x
          = (v.x * (y + mv) + (mh + min v.x b.x)) * n := by unfold renglon; ring
        _ ≤ (v.x * (y + mv) + v.x) * n :=
            Nat.mul_le_mul_right n (Nat.add_le_add_left (by omega) _)
        _ = v.x * (y + mv + 1) * n := by ring
        _ ≤ v.x * v.y * n := Nat.mul_le_mul_right n (Nat.mul_le_mul_left v.x (by omega))
    exact (Nat.add_le_add_right (Nat.mod_le _ _) _).trans hend
  refine Or.inr ?_
  rcases hcolor with hc | hc
  · rw [hc] at hs hx hy ⊢
    exact hentra 3 30 30 hs hx hy
  · rw [hc] at hs hx hy ⊢
    exact hentra 4 10 20 hs hx hy

def pantalla : Vbe := openModVbe (some ⟨0xfd000000, 800, 600, 24⟩)

def imagen (x y : ℕ) : BmpHeader :=
  ⟨0x42, 0x4d, 54, 54 + (x * 3 + 2) * y, x, y, x * y, 0x200033, 24⟩

theorem bmp2vbe_dentro_chica : Escribe pantalla.addr
      (pantalla.x * pantalla.y * (pantalla.color / 8))
      (bmp2vbe (imagen 64 64) pantalla ⟨⟨fun _ => 0, []⟩, []⟩).video ↔
    Cabe (imagen 64 64) pantalla :=
  bmp2vbe_dentro (imagen 64 64) (Or.inl rfl) (by decide) fun _ => 0

/-- An image as large as the screen is written past its end. -/
theorem bmp2vbe_fuera : ¬ Escribe pantalla.addr (pantalla.x * pantalla.y * (pantalla.color / 8))
    (bmp2vbe (imagen 800 600) pantalla ⟨⟨fun _ => 0, []⟩, []⟩).video := by
  intro hin
  have hmem : (pantalla.addr + (renglon 3 90 90 pantalla 599 + 3 * 0 + 0)) % 2 ^ 32 ∈
      (centrar 3 90 90 (imagen 800 600) pantalla 800 600 ⟨⟨fun _ => 0, []⟩, []⟩).video.escritas :=
    (escritas_centrar _).mpr (Or.inr ⟨599, by decide, 0, by decide, 0, by decide, rfl⟩)
  have hlt := (mem_pantalla (v := pantalla) (by decide)).mp (hin _ hmem)
  exact absurd hlt (by decide)

end Silicio.Background
