import Silicio.Console

/-!
The console on a frame buffer shows what a terminal of its rows and columns shows.

A letter only lights pixels, so its cell has to be black before: that is why nothing may have been
drawn at the cursor or after it. The scroll copies whole rows of pixels towards lower addresses,
where a copy from the lowest byte up does not meet its own output, and clears the last sixteen rows
of the buffer, be they of the last row of letters or of what is left under it.
-/

namespace Silicio.Pixels

open Silicio.Loop Silicio.Bitmap Silicio.Bytes Silicio.Terminal Silicio.Console

structure Grafico (h : Vbe) (n : ℕ) : Prop where
  color : h.color = 24 ∧ n = 3 ∨ h.color = 32 ∧ n = 4
  ancho : 8 ≤ h.x
  alto : 16 ≤ h.y
  xy : h.xy = h.x * h.y
  cabe : h.x * h.y * n < 2 ^ 31

variable {h : Vbe} {n x y x' y' b b' : ℕ} {v : Video} {f : Font}

lemma Grafico.tres (hg : Grafico h n) : 3 ≤ n := by
  rcases hg.color with ⟨-, rfl⟩ | ⟨-, rfl⟩ <;> decide

lemma Grafico.color_ne (hg : Grafico h n) : h.color ≠ 0 := by
  rcases hg.color with ⟨he, -⟩ | ⟨he, -⟩ <;> omega

lemma Grafico.ancho_pos (hg : Grafico h n) : 0 < h.x * n :=
  Nat.mul_pos (Nat.zero_lt_of_lt hg.ancho) (Nat.zero_lt_of_lt hg.tres)

lemma Grafico.filas_lt (hg : Grafico h n) : h.y * (h.x * n) < 2 ^ 31 := by
  rw [show h.y * (h.x * n) = h.x * h.y * n by ring]
  exact hg.cabe

/-! ### Where the pixels are -/

/-- Where channel `b` of a pixel is, from the start of the buffer. -/
def canalEn (h : Vbe) (n x y b : ℕ) : ℕ := n * (y * h.x + x) + b

lemma canalEn_lt_iff (hx : x < h.x) (hb : b < n) (k : ℕ) :
    canalEn h n x y b < k * (h.x * n) ↔ y < k := by
  constructor
  · intro hlt
    by_contra hge
    have hrow : k * (h.x * n) ≤ canalEn h n x y b := by
      calc k * (h.x * n) ≤ y * (h.x * n) := Nat.mul_le_mul_right _ (Nat.le_of_not_lt hge)
        _ = n * (y * h.x) := by ring
        _ ≤ n * (y * h.x + x) := Nat.mul_le_mul_left _ (Nat.le_add_right _ _)
        _ ≤ canalEn h n x y b := Nat.le_add_right _ _
    omega
  · intro hy
    calc canalEn h n x y b < n * (y * h.x + x) + n := Nat.add_lt_add_left hb _
      _ = n * (y * h.x + (x + 1)) := by ring
      _ ≤ n * (y * h.x + h.x) := Nat.mul_le_mul_left _ (Nat.add_le_add_left hx _)
      _ = (y + 1) * (h.x * n) := by ring
      _ ≤ k * (h.x * n) := Nat.mul_le_mul_right _ hy

lemma canalEn_lt (hx : x < h.x) (hy : y < h.y) (hb : b < n) :
    canalEn h n x y b < h.x * h.y * n := by
  rw [show h.x * h.y * n = h.y * (h.x * n) by ring]
  exact (canalEn_lt_iff hx hb _).mpr hy

lemma canalEn_inj (hx : x < h.x) (hx' : x' < h.x) (hb : b < n) (hb' : b' < n) :
    canalEn h n x y b = canalEn h n x' y' b' ↔ (x = x' ∧ y = y') ∧ b = b' := by
  constructor
  · intro he
    unfold canalEn at he
    have hn : 0 < n := Nat.zero_lt_of_lt hb
    have hw : 0 < h.x := Nat.zero_lt_of_lt hx
    have hbb : b = b' := by
      have := congrArg (· % n) he
      simpa [Nat.mul_add_mod, Nat.mod_eq_of_lt hb, Nat.mod_eq_of_lt hb'] using this
    have hpix : y * h.x + x = y' * h.x + x' := by
      rw [hbb] at he
      exact Nat.eq_of_mul_eq_mul_left hn (Nat.add_right_cancel he)
    have hxx : x = x' := by
      have := congrArg (· % h.x) hpix
      simpa [Nat.mul_add_mod_self_right, Nat.mod_eq_of_lt hx, Nat.mod_eq_of_lt hx'] using this
    rw [hxx] at hpix
    exact ⟨⟨hxx, Nat.eq_of_mul_eq_mul_right hw (Nat.add_right_cancel hpix)⟩, hbb⟩
  · rintro ⟨⟨rfl, rfl⟩, rfl⟩
    rfl

def punto (h : Vbe) (n : ℕ) (v : Video) (x y b : ℕ) : Byte :=
  rd8 v.mem (h.addr + canalEn h n x y b)

def canal (r g bl : Byte) (b : ℕ) : Byte := if b = BLUE then bl else if b = GREEN then g else r

abbrev EnBuffer (h : Vbe) (n : ℕ) (v : Video) : Prop := Escribe h.addr (h.x * h.y * n) v

lemma punto_poner (hg : Grafico h n) (hx : x < h.x) (hy : y < h.y) (hb : b < 3)
    (hx' : x' < h.x) (hy' : y' < h.y) (hb' : b' < 3) (v : Video) (d : Byte) :
    punto h n (v.poner (h.addr + canalEn h n x' y' b') d) x y b =
      if (x = x' ∧ y = y') ∧ b = b' then d else punto h n v x y b := by
  have hn := hg.tres
  have hcabe := hg.cabe
  have h1 := canalEn_lt hx hy (show b < n by omega)
  have h2 := canalEn_lt hx' hy' (show b' < n by omega)
  unfold punto
  rw [rd8_poner_add (by omega) (by omega)]
  exact if_congr (canalEn_inj hx hx' (by omega) (by omega)) rfl rfl

lemma punto_pintar (hg : Grafico h n) (hx : x < h.x) (hy : y < h.y) (hb : b < 3)
    (hx' : x' < h.x) (hy' : y' < h.y) (v : Video) (r g bl : Byte) :
    punto h n (pintar (h.addr + canalEn h n x' y' 0) r g bl v) x y b =
      if x = x' ∧ y = y' then canal r g bl b else punto h n v x y b := by
  unfold pintar
  rw [show h.addr + canalEn h n x' y' 0 + RED = h.addr + canalEn h n x' y' RED from rfl,
    show h.addr + canalEn h n x' y' 0 + GREEN = h.addr + canalEn h n x' y' GREEN from rfl,
    show h.addr + canalEn h n x' y' 0 + BLUE = h.addr + canalEn h n x' y' BLUE from rfl,
    punto_poner hg hx hy hb hx' hy' (by decide), punto_poner hg hx hy hb hx' hy' (by decide),
    punto_poner hg hx hy hb hx' hy' (by decide)]
  by_cases hp : x = x' ∧ y = y'
  · simp only [hp, true_and, canal]
    have : b = 0 ∨ b = 1 ∨ b = 2 := by omega
    rcases this with rfl | rfl | rfl <;> rfl
  · simp only [hp, false_and, if_false]

/-- `cls` and `bmp2graf` store the channels in their own order. -/
lemma rd8_negro (p : ℕ) (v : Video) (a : ℕ) :
    rd8 (negro p v).mem a = rd8 (pintar p 0 0 0 v).mem a := by
  unfold negro pintar
  simp only [rd8_poner]
  split_ifs <;> rfl

lemma punto_negro (hg : Grafico h n) (hx : x < h.x) (hy : y < h.y) (hb : b < 3)
    (hx' : x' < h.x) (hy' : y' < h.y) (v : Video) :
    punto h n (negro (h.addr + canalEn h n x' y' 0) v) x y b =
      if x = x' ∧ y = y' then 0 else punto h n v x y b := by
  have hcero : canal 0 0 0 b = 0 := by
    unfold canal
    split_ifs <;> rfl
  rw [← hcero, ← punto_pintar hg hx hy hb hx' hy']
  exact rd8_negro _ _ _

lemma EnBuffer.canal (hg : Grafico h n) (hv : EnBuffer h n v) (hx : x < h.x) (hy : y < h.y)
    (hb : b < 3) (d : Byte) : EnBuffer h n (v.poner (h.addr + canalEn h n x y b) d) :=
  hv.poner (canalEn_lt hx hy (hb.trans_le hg.tres)) d

lemma EnBuffer.pintar (hg : Grafico h n) (hv : EnBuffer h n v) (hx : x < h.x) (hy : y < h.y)
    (r g bl : Byte) : EnBuffer h n (pintar (h.addr + canalEn h n x y 0) r g bl v) :=
  EnBuffer.canal hg (EnBuffer.canal hg (EnBuffer.canal hg hv hx hy (b := BLUE) (by decide) bl)
    hx hy (b := GREEN) (by decide) g) hx hy (b := RED) (by decide) r

lemma EnBuffer.negro (hg : Grafico h n) (hv : EnBuffer h n v) (hx : x < h.x) (hy : y < h.y) :
    EnBuffer h n (negro (h.addr + canalEn h n x y 0) v) :=
  EnBuffer.canal hg (EnBuffer.canal hg (EnBuffer.canal hg hv hx hy (b := RED) (by decide) 0)
    hx hy (b := GREEN) (by decide) 0) hx hy (b := BLUE) (by decide) 0

/-! ### `cls` -/

lemma canalEn_indice (i : ℕ) : n * i = canalEn h n (i % h.x) (i / h.x) 0 := by
  rw [canalEn, Nat.add_zero, Nat.mul_comm (i / h.x), Nat.div_add_mod]

lemma bucle_cls (hg : Grafico h n) (hv : EnBuffer h n v) :
    EnBuffer h n (loop (fun i v => negro (h.addr + n * i) v) h.xy v) ∧
      ∀ x < h.x, ∀ y < h.y, ∀ b < 3,
        punto h n (loop (fun i v => negro (h.addr + n * i) v) h.xy v) x y b = 0 := by
  have hancho : 0 < h.x := Nat.zero_lt_of_lt hg.ancho
  have key : EnBuffer h n (loop (fun i v => negro (h.addr + n * i) v) h.xy v) ∧
      ∀ x < h.x, ∀ y < h.y, ∀ b < 3, y * h.x + x < h.xy →
        punto h n (loop (fun i v => negro (h.addr + n * i) v) h.xy v) x y b = 0 := by
    refine loop_rule (fun k v => EnBuffer h n v ∧ ∀ x < h.x, ∀ y < h.y, ∀ b < 3,
      y * h.x + x < k → punto h n v x y b = 0) ⟨hv, fun _ _ _ _ _ _ hk => absurd hk (by omega)⟩ ?_
    rintro i hi v ⟨hesc, hcero⟩
    have hcol : i % h.x < h.x := Nat.mod_lt _ hancho
    have hrow : i / h.x < h.y := Nat.div_lt_of_lt_mul (hi.trans_eq hg.xy)
    rw [canalEn_indice (h := h) i]
    refine ⟨EnBuffer.negro hg hesc hcol hrow, fun x hx y hy b hb hk => ?_⟩
    rw [punto_negro hg hx hy hb hcol hrow]
    split
    · rfl
    · next hne =>
      refine hcero x hx y hy b hb (lt_of_le_of_ne (Nat.le_of_lt_succ hk) ?_)
      rintro rfl
      refine hne ⟨?_, ?_⟩
      · rw [Nat.mul_add_mod_self_right, Nat.mod_eq_of_lt hx]
      · rw [Nat.add_comm, Nat.add_mul_div_right _ _ hancho, Nat.div_eq_of_lt hx, Nat.zero_add]
  refine ⟨key.1, fun x hx y hy b hb => key.2 x hx y hy b hb ?_⟩
  rw [hg.xy]
  calc y * h.x + x < y * h.x + h.x := Nat.add_lt_add_left hx _
    _ = (y + 1) * h.x := by ring
    _ ≤ h.y * h.x := Nat.mul_le_mul_right _ hy
    _ = h.x * h.y := Nat.mul_comm _ _

lemma cls_grafico (hg : Grafico h n) {s : Consola} (hv : s.video.escritas = []) :
    EnBuffer h n (cls h s).video ∧
      ∀ x < h.x, ∀ y < h.y, ∀ b < 3, punto h n (cls h s).video x y b = 0 := by
  have hnada : EnBuffer h n s.video := by
    intro a ha
    rw [hv] at ha
    exact absurd ha List.not_mem_nil
  unfold cls
  rcases hg.color with ⟨hc, rfl⟩ | ⟨hc, rfl⟩
  · simp only [hc]
    exact bucle_cls hg hnada
  · simp only [hc]
    exact bucle_cls hg hnada

/-! ### A letter -/

lemma encendido_iff {d : Byte} {k : ℕ} (hk : k < 8) :
    encendido d k ↔ d.getLsbD k = true := by
  have hbit : ((d.signExtend 32).sshiftRight k).getLsbD 0 = d.getLsbD k := by
    rw [BitVec.getLsbD_sshiftRight, Nat.add_zero, if_pos (by omega), getLsbD_signExtend_low d hk]
    rfl
  rw [encendido, ← hbit]
  constructor
  · intro h
    have := congrArg (BitVec.getLsbD · 0) h
    simpa using this
  · intro h
    apply BitVec.eq_of_getLsbD_eq
    intro i hi
    rw [BitVec.getLsbD_and, BitVec.getLsbD_one]
    rcases Nat.eq_zero_or_pos i with rfl | hpos
    · rw [h]
      rfl
    · simp [Nat.pos_iff_ne_zero.mp hpos]

lemma canalEn_letra (xAux yAux : ℕ) :
    n * (yAux * h.x + (y * h.x + x) + xAux) = canalEn h n (x + xAux) (y + yAux) 0 := by
  unfold canalEn
  ring

variable {x₀ y₀ : ℕ}

lemma fila_letra (hg : Grafico h n) (hx₀ : x₀ + 8 ≤ h.x) {yAux : ℕ} (hy₀ : y₀ + yAux < h.y)
    (d r g bl : Byte) (hv : EnBuffer h n v) :
    EnBuffer h n (loop (fun xAux v => if encendido d xAux then
      pintar (h.addr + canalEn h n (x₀ + xAux) (y₀ + yAux) 0) r g bl v else v) 8 v) ∧
    ∀ x < h.x, ∀ y < h.y, ∀ b < 3, punto h n (loop (fun xAux v => if encendido d xAux then
      pintar (h.addr + canalEn h n (x₀ + xAux) (y₀ + yAux) 0) r g bl v else v) 8 v) x y b =
        if y = y₀ + yAux ∧ (x₀ ≤ x ∧ x < x₀ + 8) ∧ encendido d (x - x₀) then canal r g bl b
        else punto h n v x y b := by
  refine loop_rule (fun k w => EnBuffer h n w ∧ ∀ x < h.x, ∀ y < h.y, ∀ b < 3, punto h n w x y b =
    if y = y₀ + yAux ∧ (x₀ ≤ x ∧ x < x₀ + k) ∧ encendido d (x - x₀) then canal r g bl b
    else punto h n v x y b) ⟨hv, fun x _ y _ b _ => (if_neg (by omega)).symm⟩ ?_
  rintro k hk w ⟨hesc, hpix⟩
  by_cases henc : encendido d k
  · rw [if_pos henc]
    refine ⟨EnBuffer.pintar hg hesc (by omega) hy₀ r g bl, fun x hx y hy b hb => ?_⟩
    rw [punto_pintar hg hx hy hb (by omega) hy₀, hpix x hx y hy b hb]
    by_cases hp : x = x₀ + k ∧ y = y₀ + yAux
    · obtain ⟨rfl, rfl⟩ := hp
      rw [if_pos ⟨rfl, rfl⟩, if_pos ⟨rfl, by omega, by rwa [Nat.add_sub_cancel_left]⟩]
    · rw [if_neg hp]
      refine if_congr ⟨fun ⟨h1, h2, h3⟩ => ⟨h1, by omega, h3⟩, fun ⟨h1, h2, h3⟩ => ⟨h1, ?_, h3⟩⟩
        rfl rfl
      have : x ≠ x₀ + k := fun he => hp ⟨he, h1⟩
      omega
  · rw [if_neg henc]
    refine ⟨hesc, fun x hx y hy b hb => ?_⟩
    rw [hpix x hx y hy b hb]
    refine if_congr ⟨fun ⟨h1, h2, h3⟩ => ⟨h1, by omega, h3⟩, fun ⟨h1, h2, h3⟩ => ⟨h1, ?_, h3⟩⟩
      rfl rfl
    have : x ≠ x₀ + k := by
      rintro rfl
      rw [Nat.add_sub_cancel_left] at h3
      exact henc h3
    omega

/-- **What the loops of `bmp2graf` draw**: the lit pixels of the letter, and no other. -/
lemma bucle_letra (hg : Grafico h n) (hx₀ : x₀ + 8 ≤ h.x) (hy₀ : y₀ + 16 ≤ h.y)
    (hfx : f.x = 8) (hfy : f.y = 16) (letra : ℕ → Byte) (r g bl : Byte) (hv : EnBuffer h n v) :
    EnBuffer h n (bucle n h f letra (y₀ * h.x + x₀) r g bl v) ∧
    ∀ x < h.x, ∀ y < h.y, ∀ b < 3, punto h n (bucle n h f letra (y₀ * h.x + x₀) r g bl v) x y b =
      if (y₀ ≤ y ∧ y < y₀ + 16) ∧ (x₀ ≤ x ∧ x < x₀ + 8) ∧ encendido (letra (y - y₀)) (x - x₀)
      then canal r g bl b else punto h n v x y b := by
  unfold bucle
  rw [hfx, hfy]
  simp only [canalEn_letra]
  refine loop_rule (fun k w => EnBuffer h n w ∧ ∀ x < h.x, ∀ y < h.y, ∀ b < 3, punto h n w x y b =
    if (y₀ ≤ y ∧ y < y₀ + k) ∧ (x₀ ≤ x ∧ x < x₀ + 8) ∧ encendido (letra (y - y₀)) (x - x₀)
    then canal r g bl b else punto h n v x y b)
    ⟨hv, fun x _ y _ b _ => (if_neg (by omega)).symm⟩ ?_
  rintro k hk w ⟨hesc, hpix⟩
  obtain ⟨hesc', hfila⟩ := fila_letra hg hx₀ (show y₀ + k < h.y by omega) (letra k) r g bl hesc
  refine ⟨hesc', fun x hx y hy b hb => ?_⟩
  rw [hfila x hx y hy b hb, hpix x hx y hy b hb]
  by_cases hp : y = y₀ + k ∧ (x₀ ≤ x ∧ x < x₀ + 8) ∧ encendido (letra k) (x - x₀)
  · obtain ⟨rfl, h2, h3⟩ := hp
    rw [if_pos ⟨rfl, h2, h3⟩, if_pos ⟨by omega, h2, by rwa [Nat.add_sub_cancel_left]⟩]
  · rw [if_neg hp]
    refine if_congr ⟨fun ⟨h1, h2, h3⟩ => ⟨by omega, h2, h3⟩, fun ⟨h1, h2, h3⟩ => ⟨?_, h2, h3⟩⟩
      rfl rfl
    have : y ≠ y₀ + k := by
      rintro rfl
      rw [Nat.add_sub_cancel_left] at h3
      exact hp ⟨rfl, h2, h3⟩
    omega

/-! ### The scroll -/

/-- A copy towards lower addresses reads what was there before. -/
lemma rd8_memcpy_baja {des k cant i : ℕ} (hk : 0 < k) (hlt : cant + k ≤ 2 ^ 32) (hi : i < 2 ^ 32)
    (v : Video) : rd8 (memcpy (des + k) des cant v).mem (des + i) =
      if i < cant then rd8 v.mem (des + (k + i)) else rd8 v.mem (des + i) := by
  have hat : above (des + i) des = i := by
    unfold above
    omega
  rw [memcpy_mem, rd8_copy (by omega), hat]
  split
  · next hic =>
    have hlejos : above des (des + k) = 2 ^ 32 - k := by
      unfold above
      omega
    rw [hlejos, Nat.mod_eq_of_lt (by omega), Nat.add_assoc]
  · rfl

lemma canalEn_sube (k : ℕ) : h.x * n * k + canalEn h n x y b = canalEn h n x (y + k) b := by
  unfold canalEn
  ring

lemma newline_grafico (hg : Grafico h n) (hfy : f.y = 16) {s : Consola} {filas : ℕ}
    (hy : filas ≤ s.ypos + 1) : newline h f filas s =
      ⟨memset (h.addr + (h.y - 16) * (h.x * n)) (16 * (h.x * n)) 0
        (memcpy (h.addr + h.x * n * 16) h.addr ((h.y - 16) * (h.x * n)) s.video), 0, s.ypos⟩ := by
  have halto := hg.alto
  have hcabe := hg.filas_lt
  have hancho : 16 * (h.x * n) ≤ h.y * (h.x * n) := Nat.mul_le_mul_right _ halto
  have hresto : (h.y - 16) * (h.x * n) ≤ h.y * (h.x * n) := Nat.mul_le_mul_right _ (Nat.sub_le _ _)
  have halto' : h.y ≤ h.y * (h.x * n) := Nat.le_mul_of_pos_right _ hg.ancho_pos
  -- the variables `b` and `c`, each with its two values
  have hb : (h.y + 2 ^ 32 - 16) % 2 ^ 32 = h.y - 16 := by omega
  have hc : h.x * h.color % 2 ^ 32 / 8 = h.x * n := by
    rcases hg.color with ⟨he, rfl⟩ | ⟨he, rfl⟩ <;> rw [he] <;> omega
  have hc' : 16 * h.x * (h.color / 8) % 2 ^ 32 = 16 * (h.x * n) := by
    rcases hg.color with ⟨he, rfl⟩ | ⟨he, rfl⟩ <;> rw [he] <;> omega
  unfold newline
  simp only [ge_iff_le, hy, if_true, hg.color_ne, ne_eq, not_false_eq_true, hb, hc, hc', hfy,
    Nat.add_sub_cancel, Nat.mod_eq_of_lt (show (h.y - 16) * (h.x * n) < 2 ^ 32 by omega)]

/-- **The scroll** takes the pixels sixteen rows up and blackens the last sixteen. -/
lemma punto_newline (hg : Grafico h n) (hfy : f.y = 16) {s : Consola} {filas : ℕ}
    (hy : filas ≤ s.ypos + 1) (hx : x < h.x) (hlt : y < h.y) (hb : b < 3) :
    punto h n (newline h f filas s).video x y b =
      if y + 16 < h.y then punto h n s.video x (y + 16) b else 0 := by
  have hn := hg.tres
  have halto := hg.alto
  have hcabe := hg.filas_lt
  have hsuma : (h.y - 16) * (h.x * n) + 16 * (h.x * n) = h.y * (h.x * n) := by
    rw [← Nat.add_mul, Nat.sub_add_cancel halto]
  have hpos := hg.ancho_pos
  have htodo := (canalEn_lt_iff (n := n) (y := y) hx (show b < n by omega) h.y).mpr hlt
  have harriba := canalEn_lt_iff (n := n) (y := y) hx (show b < n by omega) (h.y - 16)
  rw [newline_grafico hg hfy hy]
  unfold punto
  rw [rd8_memset]
  by_cases hc : y + 16 < h.y
  · have hlow := harriba.mpr (by omega)
    rw [if_neg, if_pos hc, rd8_memcpy_baja (by omega) (by omega) (by omega), if_pos hlow,
      canalEn_sube]
    rintro ⟨i, hi, he⟩
    rw [Nat.add_assoc, add_mod_inj _ (by omega) (by omega)] at he
    omega
  · have hhigh : (h.y - 16) * (h.x * n) ≤ canalEn h n x y b := by
      by_contra hno
      have := harriba.mp (by omega)
      omega
    have hin : ∃ i < 16 * (h.x * n), (h.addr + canalEn h n x y b) % 2 ^ 32 =
        (h.addr + (h.y - 16) * (h.x * n) + i) % 2 ^ 32 := by
      refine ⟨canalEn h n x y b - (h.y - 16) * (h.x * n), by omega, ?_⟩
      rw [Nat.add_assoc, Nat.add_sub_cancel' hhigh]
    rw [if_pos hin, if_neg hc]

lemma escribe_newline (hg : Grafico h n) (hfy : f.y = 16) {s : Consola} {filas : ℕ}
    (hy : filas ≤ s.ypos + 1) (hv : EnBuffer h n s.video) :
    EnBuffer h n (newline h f filas s).video := by
  have halto := hg.alto
  have hsuma : (h.y - 16) * (h.x * n) + 16 * (h.x * n) = h.x * h.y * n := by
    rw [← Nat.add_mul, Nat.sub_add_cancel halto]
    ring
  rw [newline_grafico hg hfy hy]
  intro a ha
  rcases (escritas_memset _ _ _ _).mp ha with ha | ⟨i, hi, rfl⟩
  · rcases (escritas_memcpy _ _ _ _).mp ha with ha | ⟨i, hi, rfl⟩
    · exact hv a ha
    · exact ⟨i, by omega, rfl⟩
  · exact ⟨(h.y - 16) * (h.x * n) + i, by omega, by rw [Nat.add_assoc]⟩

/-! ### The picture of a terminal -/

/-- What a terminal shows at a pixel: the letter of its cell in ink on black, and black outside the
cells. -/
def luz (h : Vbe) (tab : ℕ → Byte) (t : Pantalla Entero) (x y b : ℕ) : Byte :=
  if x / 8 < h.x / 8 ∧ y / 16 < h.y / 16 then
    match t.celda (y / 16) (x / 8) with
    | some c =>
      if (tab (c.toNat * 16 + y % 16)).getLsbD (x % 8) then canal 0xf0#8 0xf0#8 0x80#8 b else 0
    | none => 0
  else 0

def Imagen (h : Vbe) (n : ℕ) (tab : ℕ → Byte) (v : Video) (t : Pantalla Entero) : Prop :=
  ∀ x < h.x, ∀ y < h.y, ∀ b < 3, punto h n v x y b = luz h tab t x y b

variable {tab : ℕ → Byte} {t : Pantalla Entero} {s : Consola} {c : Entero}

lemma luz_none (hc : t.celda (y / 16) (x / 8) = none) : luz h tab t x y b = 0 := by
  unfold luz
  rw [hc]
  exact ite_self _

lemma luz_congr {t' : Pantalla Entero} (hc : t'.celda (y' / 16) (x / 8) = t.celda (y / 16) (x / 8))
    (hy : y' / 16 < h.y / 16 ↔ y / 16 < h.y / 16) (hmod : y' % 16 = y % 16) :
    luz h tab t' x y' b = luz h tab t x y b := by
  unfold luz
  exact if_congr (and_congr_right fun _ => hy) (by rw [hc, hmod]) rfl

lemma grafico_columnas (hg : Grafico h n) : columnas h (openModFont tab) = h.x / 8 :=
  if_pos hg.color_ne

lemma grafico_filas (hg : Grafico h n) : filas h (openModFont tab) = h.y / 16 := if_pos hg.color_ne

lemma terminal_grafico (hg : Grafico h n) (tab : ℕ → Byte) (l : List Entero) :
    terminal h (openModFont tab) l = mostrar (h.x / 8) (h.y / 16) (l.map tecla) := by
  rw [terminal, grafico_columnas hg, grafico_filas hg]

lemma bmp2graf_eq (hg : Grafico h n) (f : Font) (c : Entero) (x y : ℕ) (r g bl : Byte) (v : Video) :
    bmp2graf h f c tab x y r g bl v =
      bucle n h f (fun yAux => tab (c.toNat * f.y % 2 ^ 32 + yAux)) (y * h.x + x) r g bl v := by
  unfold bmp2graf
  rcases hg.color with ⟨he, rfl⟩ | ⟨he, rfl⟩
  · rw [if_pos he]
  · rw [if_neg (by rw [he]; decide), if_pos he]

lemma dibujar_grafico (hg : Grafico h n) (h10 : c ≠ 10#32) (h13 : c ≠ 13#32) (hc : c.toNat < 128) :
    dibujar h (openModFont tab) c s = ⟨bucle n h (openModFont tab)
      (fun yAux => tab (c.toNat * 16 + yAux)) (s.ypos * 16 * h.x + s.xpos * 8) 0xf0#8 0xf0#8 0x80#8
        s.video, s.xpos + 1, s.ypos⟩ := by
  have htab : (openModFont tab).tab = tab := rfl
  have hmod : c.toNat * (openModFont tab).y % 2 ^ 32 = c.toNat * 16 :=
    Nat.mod_eq_of_lt (show c.toNat * 16 < 2 ^ 32 by omega)
  unfold dibujar
  rw [if_neg h10, if_neg h13, if_neg hg.color_ne, htab, bmp2graf_eq hg, hmod]
  rfl

/-- A character on the buffer. Its cell is black before: nothing has been drawn there. -/
lemma Imagen.dibujar (hg : Grafico h n) (hi : Imagen h n tab s.video t)
    (hv : EnBuffer h n s.video) (hcur : Cursor s t) (hd : Dentro (h.x / 8) (h.y / 16) t)
    (hlimpia : Limpia t) (hc : c.toNat < 128) (h13 : c ≠ 13#32) :
    EnBuffer h n (dibujar h (openModFont tab) c s).video ∧
      Imagen h n tab (dibujar h (openModFont tab) c s).video (t.anotar (tecla c)) := by
  have hcol := hd.columna
  have hfila := hd.fila
  unfold tecla
  by_cases h10 : c = 10#32
  · rw [if_pos h10, Console.dibujar, if_pos h10]
    exact ⟨hv, hi⟩
  · rw [if_neg h10, if_neg h13, dibujar_grafico hg h10 h13 hc, hcur.xpos, hcur.ypos]
    obtain ⟨hesc, hpix⟩ := bucle_letra (f := openModFont tab) hg
      (show t.columna * 8 + 8 ≤ h.x by omega) (show t.fila * 16 + 16 ≤ h.y by omega) rfl rfl
      (fun yAux => tab (c.toNat * 16 + yAux)) 0xf0#8 0xf0#8 0x80#8 hv
    refine ⟨hesc, fun x hx y hy b hb => ?_⟩
    rw [hpix x hx y hy b hb, hi x hx y hy b hb]
    by_cases hcell : y / 16 = t.fila ∧ x / 8 = t.columna
    · obtain ⟨hyf, hxc⟩ := hcell
      have hblank : luz h tab t x y b = 0 := luz_none (hlimpia _ _ (Or.inr ⟨hyf, hxc.ge⟩))
      have hcelda : (t.anotar (.letra c)).celda (y / 16) (x / 8) = some c := if_pos ⟨hyf, hxc⟩
      have hletra : luz h tab (t.anotar (.letra c)) x y b =
          if (tab (c.toNat * 16 + y % 16)).getLsbD (x % 8) then canal 0xf0#8 0xf0#8 0x80#8 b
          else 0 := by
        unfold luz
        rw [if_pos ⟨by omega, by omega⟩, hcelda]
      rw [hblank, hletra, show y - t.fila * 16 = y % 16 by omega,
        show x - t.columna * 8 = x % 8 by omega]
      refine if_congr ?_ rfl rfl
      rw [encendido_iff (Nat.mod_lt _ (by decide))]
      exact ⟨fun hb => hb.2.2, fun he => ⟨by omega, by omega, he⟩⟩
    · rw [if_neg (by rintro ⟨h1, h2, -⟩; exact hcell ⟨by omega, by omega⟩)]
      exact (luz_congr (if_neg hcell) Iff.rfl rfl).symm

lemma Imagen.newline (hg : Grafico h n) (hi : Imagen h n tab s.video t)
    (hv : EnBuffer h n s.video) (hcur : Cursor s t) :
    EnBuffer h n (newline h (openModFont tab) (h.y / 16) s).video ∧
      Imagen h n tab (newline h (openModFont tab) (h.y / 16) s).video (t.saltar (h.y / 16)) := by
  rcases Nat.lt_or_ge (s.ypos + 1) (h.y / 16) with hlt | hge
  · rw [newline_sube hlt, Pantalla.saltar, if_pos (by rwa [← hcur.ypos])]
    exact ⟨hv, hi⟩
  · rw [Pantalla.saltar, if_neg (by rw [← hcur.ypos]; omega)]
    refine ⟨escribe_newline hg rfl hge hv, fun x hx y hy b hb => ?_⟩
    rw [punto_newline hg rfl hge hx hy hb]
    have hdiv : (y + 16) / 16 = y / 16 + 1 := Nat.add_div_right _ (by decide)
    by_cases hrow : y / 16 + 1 < h.y / 16
    · -- the next row of letters
      rw [if_pos (by omega), hi x hx (y + 16) (by omega) b hb]
      refine (luz_congr ?_ ?_ (Nat.add_mod_right _ _).symm).symm
      · rw [hdiv]
        exact if_pos hrow
      · rw [hdiv]
        omega
    · -- the last row, or what is left under it
      have hnone : luz h tab { t with
          celda := fun f c => if f + 1 < h.y / 16 then t.celda (f + 1) c else none
          columna := 0 } x y b = 0 := luz_none (if_neg hrow)
      rw [hnone]
      split
      · next hin =>
        rw [hi x hx (y + 16) hin b hb, luz, if_neg]
        rw [hdiv]
        omega
      · rfl

/-- **The run.** After any characters but returns the buffer holds the picture of the terminal. -/
lemma imagen_correr (tab : ℕ → Byte) (hg : Grafico h n) {l : List Entero}
    (hl : ∀ c ∈ l, c.toNat < 128 ∧ c ≠ 13#32) (hv : s.video.escritas = []) :
    EnBuffer h n (correr h (openModFont tab) l s).video ∧
      Imagen h n tab (correr h (openModFont tab) l s).video (terminal h (openModFont tab) l) := by
  induction l using List.reverseRecOn with
  | nil =>
    obtain ⟨hesc, hnegro⟩ := cls_grafico hg hv
    refine ⟨hesc, fun x hx y hy b hb => ?_⟩
    rw [luz_none rfl]
    exact hnegro x hx y hy b hb
  | append_singleton l c ih =>
    have hprev : ∀ c ∈ l, c.toNat < 128 ∧ c ≠ 13#32 := fun c' hc' =>
      hl c' (List.mem_append_left _ hc')
    obtain ⟨hc, h13⟩ := hl c (by simp)
    obtain ⟨hesc, him⟩ := ih hprev
    have hancho := hg.ancho
    have halto := hg.alto
    have hcur := cursor_correr h (openModFont tab) l s
    have hterm := terminal_grafico hg tab l
    have hd : Dentro (h.x / 8) (h.y / 16) (terminal h (openModFont tab) l) := by
      rw [hterm]
      exact mostrar_dentro (by omega) (by omega) _
    have hlimpia : Limpia (terminal h (openModFont tab) l) := by
      refine mostrar_limpia fun k hk => ?_
      obtain ⟨c', hc', rfl⟩ := List.mem_map.mp hk
      exact tecla_ne_retorno (hprev c' hc').2
    obtain ⟨hesc', him'⟩ := him.dibujar hg hesc hcur hd hlimpia hc h13
    rw [correr_concat, terminal_concat, putc_eq, recibir, hcur.xpos]
    split
    · rw [grafico_filas hg]
      exact him'.newline hg hesc' (hcur.dibujar c)
    · exact ⟨hesc', him'⟩

/-- What a graphics console owes after `l`: the cursor is on the screen, nothing has been written
outside the buffer, and it holds the picture of what a terminal shows. -/
structure CumpleGrafica (i : VbeMode) (tab : ℕ → Byte) (l : List Entero) (s : Consola) : Prop where
  xpos : (correr (openModVbe (some i)) (openModFont tab) l s).xpos < i.xResolution / 8
  ypos : (correr (openModVbe (some i)) (openModFont tab) l s).ypos < i.yResolution / 16
  escribe : Escribe i.physBase (i.xResolution * i.yResolution * i.bitsPerPixel / 8)
    (correr (openModVbe (some i)) (openModFont tab) l s).video
  imagen : Imagen (openModVbe (some i)) (i.bitsPerPixel / 8) tab
    (correr (openModVbe (some i)) (openModFont tab) l s).video
    (mostrar (i.xResolution / 8) (i.yResolution / 16) (l.map tecla))

lemma grafico_open {i : VbeMode} (hcolor : i.bitsPerPixel = 24 ∨ i.bitsPerPixel = 32)
    (hancho : 8 ≤ i.xResolution) (halto : 16 ≤ i.yResolution)
    (hcabe : i.xResolution * i.yResolution * i.bitsPerPixel / 8 < 2 ^ 31) :
    Grafico (openModVbe (some i)) (i.bitsPerPixel / 8) := by
  have hxy : (openModVbe (some i)).xy = i.xResolution * i.yResolution % 2 ^ 32 := rfl
  have hc : (openModVbe (some i)).color = i.bitsPerPixel := rfl
  have hx : (openModVbe (some i)).x = i.xResolution := rfl
  have hy : (openModVbe (some i)).y = i.yResolution := rfl
  rcases hcolor with he | he
  · rw [he] at hcabe ⊢
    exact ⟨Or.inl ⟨hc.trans he, rfl⟩, hancho, halto, by rw [hxy, hx, hy]; omega,
      by rw [hx, hy]; omega⟩
  · rw [he] at hcabe ⊢
    exact ⟨Or.inr ⟨hc.trans he, rfl⟩, hancho, halto, by rw [hxy, hx, hy]; omega,
      by rw [hx, hy]; omega⟩

/-- **The graphics console is a terminal**, in every mode of 24 or 32 bits with room for a letter
and after any characters but returns. -/
theorem consola_grafica (i : VbeMode) (hcolor : i.bitsPerPixel = 24 ∨ i.bitsPerPixel = 32)
    (hancho : 8 ≤ i.xResolution) (halto : 16 ≤ i.yResolution)
    (hcabe : i.xResolution * i.yResolution * i.bitsPerPixel / 8 < 2 ^ 31) (tab : ℕ → Byte) (m : Mem)
    (x y : ℕ) (l : List Entero) (hl : ∀ c ∈ l, c.toNat < 128 ∧ c ≠ 13#32) :
    CumpleGrafica i tab l ⟨⟨m, []⟩, x, y⟩ := by
  have hg := grafico_open hcolor hancho halto hcabe
  have hcur := cursor_correr (openModVbe (some i)) (openModFont tab) l ⟨⟨m, []⟩, x, y⟩
  have hd := mostrar_dentro (show 0 < i.xResolution / 8 by omega)
    (show 0 < i.yResolution / 16 by omega) (l.map tecla)
  obtain ⟨hesc, him⟩ := imagen_correr tab (s := ⟨⟨m, []⟩, x, y⟩) hg hl rfl
  have hterm : terminal (openModVbe (some i)) (openModFont tab) l =
      mostrar (i.xResolution / 8) (i.yResolution / 16) (l.map tecla) := terminal_grafico hg tab l
  rw [hterm] at hcur him
  have hbytes : i.xResolution * i.yResolution * i.bitsPerPixel / 8 =
      i.xResolution * i.yResolution * (i.bitsPerPixel / 8) := by
    rcases hcolor with he | he <;> rw [he] <;> omega
  exact ⟨hcur.xpos.trans_lt hd.columna, hcur.ypos.trans_lt hd.fila, by rw [hbytes]; exact hesc, him⟩

/-- A buffer of two letters by two, with a row of pixels left under them, and a line that makes it
scroll. -/
theorem consola_grafica_chica : CumpleGrafica ⟨0xfd000000, 16, 33, 24⟩ (fun _ => 0xff)
    [97#32, 98#32, 10#32, 99#32] ⟨⟨fun _ => 0x55, []⟩, 3, 4⟩ :=
  consola_grafica _ (Or.inl rfl) (by decide) (by decide) (by decide) _ _ _ _ _ (by simp)

end Silicio.Pixels
