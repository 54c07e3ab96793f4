import Silicio.Background
import Silicio.Pixels
import Silicio.Terminators

/-!
The background as a file: `open_mod_bmp` of `file/file.c`, and what `bmp2vbe` makes of it.

The rows of a BMP are padded to a multiple of four bytes and go from the bottom up. The code takes
every row to be two bytes longer than its pixels and the image to begin three bytes early. So the
bottom row is read from before the pixels, whatever the width.
-/

namespace Silicio.BmpFile

open Silicio.Loop Silicio.Bitmap Silicio.Bytes Silicio.Strings Silicio.Terminators Silicio.Console
open Silicio.Pixels Silicio.Background

/-- The fields read of `multiboot`, of `modules_info`, with its size, and of the file. -/
abbrev MODS_COUNT : ℕ := 20
abbrev MODS_ADDR : ℕ := 24

abbrev MOD_START : ℕ := 0
abbrev MOD_END : ℕ := 4
abbrev MOD_STRING : ℕ := 8
abbrev MOD_LEN : ℕ := 16

abbrev BMP_CHAR0 : ℕ := 0
abbrev BMP_CHAR1 : ℕ := 1
abbrev BMP_SIZE_FILE : ℕ := 2
abbrev BMP_OFFSET : ℕ := 10
abbrev BMP_SIZE_X : ℕ := 18
abbrev BMP_SIZE_Y : ℕ := 22
abbrev BMP_BIT_PER_PIXEL : ℕ := 28

def rd16 (m : Mem) (a : ℕ) : ℕ := (rd8 m a).toNat + 2 ^ 8 * (rd8 m (a + 1)).toNat

def ruta : List Byte :=
  [0x2f, 0x62, 0x6f, 0x6f, 0x74, 0x2f, 0x62, 0x61, 0x63, 0x6b, 0x67, 0x72, 0x6f, 0x75, 0x6e, 0x64,
    0x2e, 0x62, 0x6d, 0x70]

def modInfo (m : Mem) (data i : ℕ) : ℕ := (rd32 m (data + MODS_ADDR) + MOD_LEN * i) % 2 ^ 32

def cadena (m : Mem) (data i : ℕ) : ℕ → Byte :=
  fun j => rd8 m (rd32 m (modInfo m data i + MOD_STRING) + j)

/-- `background`, the last module of that name; `strcmp` may return `basura i` for the string of
module `i`. -/
def background (basura : ℕ → ℕ) (m : Mem) (data : ℕ) : ℕ :=
  if rd32 m (data + MODS_COUNT) > 0 then
    loop (fun i bg =>
      if strcmp (basura i) (cadena m data i) (literal ruta) = 0 then modInfo m data i else bg)
      (rd32 m (data + MODS_COUNT)) 0
  else 0

def openModBmp (basura : ℕ → ℕ) (m : Mem) (data : ℕ) (h : BmpHeader) : ℕ × BmpHeader :=
  let bg := background basura m data
  if bg = 0 then (1, h)
  else
    let start := rd32 m (bg + MOD_START)
    let offset := rd32 m (start + BMP_OFFSET)
    let x := rd32 m (start + BMP_SIZE_X)
    let y := rd32 m (start + BMP_SIZE_Y)
    (0, { char0 := rd8 m (start + BMP_CHAR0)
          char1 := rd8 m (start + BMP_CHAR1)
          offset := offset
          sizeFile := rd32 m (start + BMP_SIZE_FILE)
          x := x
          y := y
          xy := x * y % 2 ^ 32
          initImg := (start + offset + 2 ^ 32 - 3) % 2 ^ 32
          bitPerPixel := rd16 m (start + BMP_BIT_PER_PIXEL) })

/-- What `main` does with it; without a file it clears the screen, which is not here. -/
def fondo (basura : ℕ → ℕ) (m : Mem) (data : ℕ) (h : BmpHeader) (v : Vbe) : Lectura :=
  let (aux, h) := openModBmp basura m data h
  let s : Lectura := ⟨⟨m, []⟩, []⟩
  if aux = 0 then bmp2vbe h v s else s

def paso (w : ℕ) : ℕ := (3 * w + 3) / 4 * 4

/-- An uncompressed bottom-up image of 24 bits a pixel, of `w` by `h`, in a file of `tam` bytes at
`ini` with its pixels `off` bytes from there. -/
structure Bmp (m : Mem) (ini tam off w h : ℕ) : Prop where
  char0 : rd8 m (ini + BMP_CHAR0) = 0x42
  char1 : rd8 m (ini + BMP_CHAR1) = 0x4d
  sizeFile : rd32 m (ini + BMP_SIZE_FILE) = tam
  offset : rd32 m (ini + BMP_OFFSET) = off
  x : rd32 m (ini + BMP_SIZE_X) = w
  y : rd32 m (ini + BMP_SIZE_Y) = h
  bitPerPixel : rd16 m (ini + BMP_BIT_PER_PIXEL) = 24
  comprime : rd32 m (ini + 30) = 0
  arriba : h < 2 ^ 31
  cabecera : 54 ≤ off
  cabe : off + paso w * h ≤ tam
  mem : ini + tam ≤ 2 ^ 32

/-- Module `i` is this file, under its name, and no module after it has the name. -/
structure Cargado (m : Mem) (data i ini tam : ℕ) : Prop where
  lt : i < rd32 m (data + MODS_COUNT)
  lista : 0 < rd32 m (data + MODS_ADDR) ∧
    rd32 m (data + MODS_ADDR) + MOD_LEN * rd32 m (data + MODS_COUNT) ≤ 2 ^ 32
  modStart : rd32 m (modInfo m data i + MOD_START) = ini
  modEnd : rd32 m (modInfo m data i + MOD_END) = ini + tam
  nombre : ∀ j ≤ ruta.length, cadena m data i j = literal ruta j
  unico : ∀ k, i < k → k < rd32 m (data + MODS_COUNT) →
    ∃ j ≤ ruta.length, cadena m data k j ≠ literal ruta j

def margen (color : ℕ) : ℕ × ℕ := ((centro color).1 / (color / 8), (centro color).2 / (color / 8))

/-- What the two owe: the colors of every pixel, and to read the pixels of the file only. -/
structure Cumple (basura : ℕ → ℕ) (m : Mem) (data : ℕ) (hdr : BmpHeader) (v : Vbe)
    (ini off w h : ℕ) : Prop where
  pixel : ∀ c < w, ∀ r < h, ∀ k < 3, punto v (v.color / 8) (fondo basura m data hdr v).video
    (c + (margen v.color).1) (r + (margen v.color).2) k =
      rd8 m (ini + off + (h - 1 - r) * paso w + 3 * c + k)
  lee : ∀ a ∈ (fondo basura m data hdr v).leidas, ∃ j < paso w * h, a = (ini + off + j) % 2 ^ 32

/-- The screen has room for the image after the offset of the centre. -/
structure Sitio (v : Vbe) (w h : ℕ) : Prop where
  color : v.color = 24 ∨ v.color = 32
  size : v.addr + v.x * v.y * (v.color / 8) ≤ 2 ^ 32
  x : w + (margen v.color).1 ≤ v.x
  y : h + (margen v.color).2 ≤ v.y

/-- No module after the file passes for it: `strcmp` answers what it finds on the stack for another
string as long. -/
def Abre (basura : ℕ → ℕ) (m : Mem) (data i : ℕ) : Prop :=
  ∀ k, i < k → k < rd32 m (data + MODS_COUNT) →
    strcmp (basura k) (cadena m data k) (literal ruta) ≠ 0

variable {m : Mem} {data i ini tam off w h a : ℕ} {basura : ℕ → ℕ} {b hdr : BmpHeader} {v : Vbe}
  {s : Lectura}

/-! ### The module -/

lemma strlen_ruta : strlen (literal ruta) = 20 :=
  Acaba.strlen (literal_acaba (l := ruta) (by decide)) (by decide)

lemma strcmp_igual {buf : ℕ → Byte} (h : ∀ j ≤ ruta.length, buf j = literal ruta j) (n : ℕ) :
    strcmp n buf (literal ruta) = 0 := by
  have hlen : strlen buf = strlen (literal ruta) := strlen_congr fun j hj => h j (by
    have := contar_de_strlen (s := literal ruta) (by rw [strlen_ruta]; decide)
    rw [strlen_ruta] at this
    exact hj.trans this.le)
  refine strcmp_eq_zero.mpr ⟨by rw [hlen, strlen_ruta]; decide, hlen, Or.inl fun j hj => ?_⟩
  rw [hlen, strlen_ruta] at hj
  exact h j hj.le

/-- Another string does not pass while there is no zero on the stack. -/
lemma strcmp_otro {buf : ℕ → Byte} {n : ℕ} (h : ∃ j ≤ ruta.length, buf j ≠ literal ruta j)
    (hn : n ≠ 0) : strcmp n buf (literal ruta) ≠ 0 := by
  intro hc
  obtain ⟨j, hj, hne⟩ := h
  obtain ⟨h0, hlen, hig⟩ := strcmp_eq_zero.mp hc
  have hig := hig.resolve_right hn
  rw [strlen_ruta] at hlen
  rcases Nat.eq_or_lt_of_le hj with rfl | hlt
  · have hcont := contar_de_strlen h0
    have hat : (fun cont => buf cont == 0#8) (contar buf) = true :=
      at_scan (p := fun cont => buf cont == 0#8) (by rw [← contar, hcont, hlen]; decide)
    rw [hcont, hlen] at hat
    exact hne (eq_of_beq hat)
  · exact hne (hig j (by rw [hlen]; exact hlt))

lemma abre_uno (hc : Cargado m data i ini tam) : Abre (fun _ => 1) m data i :=
  fun k hk hlt => strcmp_otro (hc.unico k hk hlt) one_ne_zero

lemma Cargado.modInfo_eq (hc : Cargado m data i ini tam) :
    modInfo m data i = rd32 m (data + MODS_ADDR) + MOD_LEN * i := by
  have hlt := hc.lt
  have hlim := hc.lista.2
  unfold MOD_LEN at hlim
  exact Nat.mod_eq_of_lt (by unfold MOD_LEN; omega)

lemma Cargado.background (hc : Cargado m data i ini tam) (ha : Abre basura m data i) :
    background basura m data = modInfo m data i := by
  have hlt := hc.lt
  unfold BmpFile.background
  rw [if_pos (by omega)]
  refine loop_rule (fun j bg => i < j → bg = modInfo m data i)
    (fun h => absurd h (Nat.not_lt_zero i)) (fun j hj bg hbg hij => ?_) hlt
  rcases Nat.eq_or_lt_of_le (Nat.le_of_lt_succ hij) with rfl | hlt
  · rw [if_pos (strcmp_igual hc.nombre _)]
  · rw [if_neg (ha j hlt hj)]
    exact hbg hlt

/-- **The header read**: the size of the image is right, and its start is early. -/
lemma Cargado.fondo (hc : Cargado m data i ini tam) (hb : Bmp m ini tam off w h)
    (ha : Abre basura m data i) (hdr : BmpHeader) (v : Vbe) : ∃ b : BmpHeader, b.x = w ∧
      b.y = h ∧ b.initImg = ini + off - 3 ∧
      fondo basura m data hdr v = bmp2vbe b v ⟨⟨m, []⟩, []⟩ := by
  have hpos := hc.lista.1
  have hne : modInfo m data i ≠ 0 := by
    rw [hc.modInfo_eq]
    omega
  have hini : (ini + off + 2 ^ 32 - 3) % 2 ^ 32 = ini + off - 3 := by
    have h1 := hb.cabecera
    have h2 := hb.cabe
    have h3 := hb.mem
    omega
  unfold BmpFile.fondo openModBmp
  simp only [hc.background ha, if_neg hne, hc.modStart, hb.x, hb.y, hb.offset, hini, if_true]
  exact ⟨_, rfl, rfl, rfl, rfl⟩

/-! ### The pixels -/

lemma leidas_copiar (des orig : ℕ) (s : Lectura) : a ∈ (s.copiar des orig).leidas ↔
    a ∈ s.leidas ∨ a = orig % 2 ^ 32 := by
  rw [Or.comm]
  exact List.mem_cons

lemma bmp2vbe_centrar (hs : Sitio v b.x b.y) (s : Lectura) : bmp2vbe b v s =
    centrar (v.color / 8) (centro v.color).1 (centro v.color).2 b v b.x b.y s := by
  have hx : ¬ v.x < b.x := Nat.not_lt.mpr ((Nat.le_add_right _ _).trans hs.x)
  have hy : ¬ v.y < b.y := Nat.not_lt.mpr ((Nat.le_add_right _ _).trans hs.y)
  unfold bmp2vbe
  simp only [if_neg hx, if_neg hy]
  rcases hs.color with hc | hc
  · rw [hc]
    rfl
  · rw [hc]
    rfl

lemma leidas_bmp2vbe (hs : Sitio v b.x b.y) : a ∈ (bmp2vbe b v s).leidas ↔ a ∈ s.leidas ∨
    ∃ y < b.y, ∃ x < b.x, ∃ k < 3, a = (fila b y + 3 * x + k) % 2 ^ 32 := by
  rw [bmp2vbe_centrar hs]
  exact centrar_or (Q := fun s => a ∈ s.leidas) (P := fun _ orig => a = orig % 2 ^ 32)
    leidas_copiar s

lemma lee_antes (hb : Bmp m ini tam off w h) (hini : b.initImg = ini + off - 3) (hy : b.y = h) :
    ¬ ∃ j < paso w * h, fila b (h - 1) % 2 ^ 32 = (ini + off + j) % 2 ^ 32 := by
  rintro ⟨j, hj, he⟩
  have h1 := hb.cabecera
  have h2 := hb.cabe
  have h3 := hb.mem
  unfold fila at he
  rw [hy, hini, Nat.sub_self, Nat.zero_mul, Nat.add_zero, Nat.mod_eq_of_lt (by omega),
    Nat.mod_eq_of_lt (by omega)] at he
  omega

/-- No image with a pixel is read within the file. -/
lemma cumple_iff (hb : Bmp m ini tam off w h) (hc : Cargado m data i ini tam) (hs : Sitio v w h)
    (ha : Abre basura m data i) (hdr : BmpHeader) :
    Cumple basura m data hdr v ini off w h ↔ w = 0 ∨ h = 0 := by
  obtain ⟨b, rfl, rfl, hini, he⟩ := hc.fondo hb ha hdr v
  constructor
  · intro hcumple
    by_contra hc
    refine lee_antes hb hini rfl (hcumple.lee _ ?_)
    rw [he, leidas_bmp2vbe hs]
    exact Or.inr ⟨b.y - 1, by omega, 0, by omega, 0, by decide, rfl⟩
  · intro h0
    refine ⟨fun c hc r hr => by omega, fun a ha => ?_⟩
    rw [he, leidas_bmp2vbe hs, or_iff_right List.not_mem_nil] at ha
    obtain ⟨y, hy, x, hx, -⟩ := ha
    omega

/-! ### What is drawn -/

lemma rd8_copiar (des orig : ℕ) (s : Lectura) (x : ℕ) : rd8 (s.copiar des orig).video.mem x =
    if x % 2 ^ 32 = des % 2 ^ 32 then rd8 s.video.mem orig else rd8 s.video.mem x :=
  rd8_poner _ _ _ _

lemma rd8_color_of_ne {des x : ℕ} (h : ∀ k < 3, x % 2 ^ 32 ≠ (des + k) % 2 ^ 32) (orig : ℕ)
    (s : Lectura) : rd8 (color des orig s).video.mem x = rd8 s.video.mem x := by
  unfold color
  rw [rd8_copiar, if_neg (h 2 (by decide)), rd8_copiar, if_neg (h 1 (by decide)), rd8_copiar,
    if_neg (show ¬ x % 2 ^ 32 = des % 2 ^ 32 from h 0 (by decide))]

lemma rd8_color {des orig k : ℕ} (hk : k < 3)
    (h : ∀ k < 3, ∀ l < 3, (orig + k) % 2 ^ 32 ≠ (des + l) % 2 ^ 32) (s : Lectura) :
    rd8 (color des orig s).video.mem (des + k) = rd8 s.video.mem (orig + k) := by
  have h0 := fun k hk => h k hk 0 (by decide)
  have h1 := fun k hk => h k hk 1 (by decide)
  rw [Nat.add_zero] at h0
  unfold color
  interval_cases k
  · change rd8 _ des = rd8 _ orig
    rw [rd8_copiar, if_neg (by omega), rd8_copiar, if_neg (by omega), rd8_copiar, if_pos rfl]
  · rw [rd8_copiar, if_neg (by omega), rd8_copiar, if_pos rfl, rd8_copiar,
      if_neg (h0 1 (by decide))]
  · rw [rd8_copiar, if_pos rfl, rd8_copiar, if_neg (h1 2 (by decide)), rd8_copiar,
      if_neg (h0 2 (by decide))]

def Aparte (v : Vbe) (b : BmpHeader) : Prop :=
  b.initImg + b.y * (b.x * 3 + 2) ≤ v.addr ∨ b.initImg + b.y * (b.x * 3 + 2) ≤ 2 ^ 32 ∧
    v.addr + v.x * v.y * (v.color / 8) ≤ b.initImg

lemma fila_lt {x y k : ℕ} (hx : x < b.x) (hy : y < b.y) (hk : k < 3) :
    fila b y + 3 * x + k < b.initImg + b.y * (b.x * 3 + 2) := by
  have h1 : (b.y - 1 - y) * (b.x * 3 + 2) ≤ (b.y - 1) * (b.x * 3 + 2) :=
    Nat.mul_le_mul_right _ (Nat.sub_le _ _)
  have h2 : b.y * (b.x * 3 + 2) = (b.y - 1) * (b.x * 3 + 2) + (b.x * 3 + 2) := by
    rw [← Nat.succ_mul, Nat.succ_eq_add_one, Nat.sub_add_cancel (by omega)]
  unfold fila
  omega

lemma Sitio.tres (hs : Sitio v w h) : 3 ≤ v.color / 8 := by
  rcases hs.color with hc | hc <;> omega

def destino (v : Vbe) (x y k : ℕ) : ℕ :=
  v.addr + canalEn v (v.color / 8) (x + (margen v.color).1) (y + (margen v.color).2) k

lemma destino_add (v : Vbe) (x y k : ℕ) : destino v x y 0 + k = destino v x y k := by
  unfold destino canalEn
  ring

section
variable {x y k x' y' l : ℕ}

lemma Sitio.canalEn_lt (hs : Sitio v w h) (hx : x < w) (hy : y < h) (hk : k < 3) :
    canalEn v (v.color / 8) (x + (margen v.color).1) (y + (margen v.color).2) k <
      v.x * v.y * (v.color / 8) :=
  Pixels.canalEn_lt (by have := hs.x; omega) (by have := hs.y; omega) (by have := hs.tres; omega)

lemma Sitio.destino_ne (hs : Sitio v w h) (hx : x < w) (hy : y < h) (hk : k < 3) (hx' : x' < w)
    (hy' : y' < h) (hl : l < 3) (hne : ¬ (x = x' ∧ y = y')) :
    destino v x y k % 2 ^ 32 ≠ destino v x' y' l % 2 ^ 32 := by
  have h1 := hs.canalEn_lt hx hy hk
  have h2 := hs.canalEn_lt hx' hy' hl
  have h3 := hs.size
  have htres := hs.tres
  have hxs := hs.x
  unfold destino
  rw [Ne, add_mod_inj _ (by omega) (by omega), canalEn_inj (by omega) (by omega) (by omega)
    (by omega)]
  omega

lemma Aparte.ne (ha : Aparte v b) (hs : Sitio v b.x b.y) (hx : x < b.x) (hy : y < b.y) (hk : k < 3)
    (hx' : x' < b.x) (hy' : y' < b.y) (hl : l < 3) :
    (fila b y + 3 * x + k) % 2 ^ 32 ≠ destino v x' y' l % 2 ^ 32 := by
  have h1 := fila_lt hx hy hk
  have h2 := hs.canalEn_lt hx' hy' hl
  have h3 := hs.size
  have h4 : b.initImg ≤ fila b y + 3 * x + k := by
    unfold fila
    omega
  unfold Aparte at ha
  unfold destino
  omega

/-- The pixels before `(x, y)` are drawn, and the image is untouched. -/
structure Pintada (m : Mem) (b : BmpHeader) (v : Vbe) (x y : ℕ) (s : Lectura) : Prop where
  fuente : ∀ x' < b.x, ∀ y' < b.y, ∀ k < 3,
    rd8 s.video.mem (fila b y' + 3 * x' + k) = rd8 m (fila b y' + 3 * x' + k)
  hecho : ∀ x' < b.x, ∀ y' < b.y, ∀ k < 3, y' < y ∨ y' = y ∧ x' < x →
    rd8 s.video.mem (destino v x' y' k) = rd8 m (fila b y' + 3 * x' + k)

lemma Pintada.color (h : Pintada m b v x y s) (ha : Aparte v b) (hs : Sitio v b.x b.y)
    (hx : x < b.x) (hy : y < b.y) :
    Pintada m b v (x + 1) y (color (destino v x y 0) (fila b y + 3 * x) s) := by
  refine ⟨fun x' hx' y' hy' k hk => ?_, fun x' hx' y' hy' k hk hlt => ?_⟩
  · rw [rd8_color_of_ne fun l hl => by rw [destino_add]; exact ha.ne hs hx' hy' hk hx hy hl]
    exact h.fuente x' hx' y' hy' k hk
  · by_cases he : x' = x ∧ y' = y
    · obtain ⟨rfl, rfl⟩ := he
      rw [← destino_add v x' y' k, rd8_color hk fun k hk l hl => by
        rw [destino_add]
        exact ha.ne hs hx hy hk hx hy hl]
      exact h.fuente x' hx y' hy k hk
    · rw [rd8_color_of_ne fun l hl => by
        rw [destino_add]
        exact hs.destino_ne hx' hy' hk hx hy hl he]
      exact h.hecho x' hx' y' hy' k hk (by omega)

end

/-- **What `bmp2vbe` draws**: the bytes it takes for the image, each pixel in its place. -/
lemma pintada_bmp2vbe (ha : Aparte v b) (hs : Sitio v b.x b.y) (m : Mem) :
    Pintada m b v 0 b.y (bmp2vbe b v ⟨⟨m, []⟩, []⟩) := by
  have hcentro : (centro v.color).1 = v.color / 8 * (margen v.color).1 ∧
      (centro v.color).2 = v.color / 8 * (margen v.color).2 := by
    rcases hs.color with hc | hc
    · rw [hc]
      decide
    · rw [hc]
      decide
  have hdes : ∀ x y, v.addr + y * v.x * (v.color / 8) + (centro v.color).1 +
      v.x * (centro v.color).2 + v.color / 8 * x = destino v x y 0 := by
    intro x y
    rw [hcentro.1, hcentro.2]
    unfold destino canalEn
    ring
  rw [bmp2vbe_centrar hs]
  unfold centrar
  refine loop_rule (fun y s => Pintada m b v 0 y s) ⟨fun _ _ _ _ _ _ => rfl,
    fun x' _ y' _ k _ hlt => by omega⟩ fun y hy s hp => ?_
  have hrow : Pintada m b v b.x y (loop (fun xAux s => color (v.addr + y * v.x * (v.color / 8) +
      (centro v.color).1 + v.x * (centro v.color).2 + v.color / 8 * xAux)
      (b.initImg + (b.y - 1 - y) * (b.x * 3 + 2) + 3 * xAux) s) b.x s) := by
    refine loop_rule (fun x s => Pintada m b v x y s) hp fun x hx s hp => ?_
    rw [hdes]
    exact hp.color ha hs hx hy
  exact ⟨hrow.fuente, fun x' hx' y' hy' k hk hlt => hrow.hecho x' hx' y' hy' k hk (by omega)⟩

/-- Where a row is read from is where the file has it for the fourth row from the bottom only, and
only if a row is padded by one byte. -/
theorem fila_en_su_sitio (hb : Bmp m ini tam off w h) (hx : b.x = w) (hy : b.y = h)
    (hini : b.initImg = ini + off - 3) {r : ℕ} (hr : r < h) :
    fila b r = ini + off + (h - 1 - r) * paso w ↔ w % 4 = 1 ∧ r + 4 = h := by
  have hoff := hb.cabecera
  have hpaso : paso w = 3 * w + w % 4 := by
    unfold paso
    omega
  obtain ⟨d, hd⟩ : ∃ d, h - 1 - r = d := ⟨_, rfl⟩
  have hcuenta : fila b r + 3 = ini + off + (d * (3 * w) + 2 * d) := by
    unfold fila
    rw [hx, hy, hini, hd, Nat.mul_comm w 3, Nat.mul_add, Nat.mul_comm d 2]
    omega
  rw [hpaso, hd, Nat.mul_add]
  have h4 : w % 4 = 0 ∨ w % 4 = 1 ∨ w % 4 = 2 ∨ w % 4 = 3 := by omega
  rcases h4 with h4 | h4 | h4 | h4
  · rw [h4]
    omega
  · rw [h4]
    omega
  · rw [h4]
    omega
  · rw [h4]
    omega

/-- **The background drawn.** On a screen apart from the file, a pixel has the byte that the code
takes for it, so the right one just when that byte is the same. -/
theorem fondo_pixel (hb : Bmp m ini tam off w h) (hc : Cargado m data i ini tam) (hs : Sitio v w h)
    (ha : Abre basura m data i) (hdr : BmpHeader)
    (hap : ini + off - 3 + h * (w * 3 + 2) ≤ v.addr ∨ ini + off - 3 + h * (w * 3 + 2) ≤ 2 ^ 32 ∧
      v.addr + v.x * v.y * (v.color / 8) ≤ ini + off - 3) {c r k : ℕ} (hcw : c < w) (hr : r < h)
    (hk : k < 3) : punto v (v.color / 8) (fondo basura m data hdr v).video
      (c + (margen v.color).1) (r + (margen v.color).2) k =
        rd8 m (ini + off - 3 + (h - 1 - r) * (w * 3 + 2) + 3 * c + k) := by
  obtain ⟨b, rfl, rfl, hini, he⟩ := hc.fondo hb ha hdr v
  have hap' : Aparte v b := by
    unfold Aparte
    rwa [hini]
  have := (pintada_bmp2vbe hap' hs m).hecho c hcw r hr k hk (Or.inl hr)
  unfold fila at this
  rw [hini] at this
  rw [he]
  exact this

/-- **The background.** A file loaded under the name of the background, with rows of any width and
on any screen with room for it, is decoded within its pixels in every run, whatever `strcmp` finds
on the stack, only if it has none; and in a run that opens it, just then. -/
theorem fondo_cumple (hb : Bmp m ini tam off w h) (hc : Cargado m data i ini tam)
    (hs : Sitio v w h) (hdr : BmpHeader) :
    ((∀ basura, Cumple basura m data hdr v ini off w h) → w = 0 ∨ h = 0) ∧
    ∀ basura, Abre basura m data i → (Cumple basura m data hdr v ini off w h ↔ w = 0 ∨ h = 0) :=
  ⟨fun hall => (cumple_iff hb hc hs (abre_uno hc) hdr).mp (hall _),
    fun _ ha => cumple_iff hb hc hs ha hdr⟩

/-- The words of memory, those that are not 0: the list of one module, its name, and the header of
the file of the repository, 450 by 434. -/
def palabras : List (ℕ × ℕ) :=
  [(0x10014, 1), (0x10018, 0x11000),
    (0x11000, 0x200000), (0x11004, 0x28f446), (0x11008, 0x12000),
    (0x12000, 0x6f6f622f), (0x12004, 0x61622f74), (0x12008, 0x72676b63), (0x1200c, 0x646e756f),
    (0x12010, 0x706d622e),
    (0x200000, 0xf4464d42), (0x200004, 0x8), (0x200008, 0x360000), (0x20000c, 0x280000),
    (0x200010, 0x1c20000), (0x200014, 0x1b20000), (0x200018, 0x10000), (0x20001c, 0x18)]

def memoria : Mem :=
  fun a => BitVec.ofNat 8 ((palabras.lookup (a / 4 * 4)).getD 0 / 2 ^ (8 * (a % 4)))

def cabecera : BmpHeader := ⟨0, 0, 0, 0, 0, 0, 0, 0, 0⟩

lemma memoria_bmp : Bmp memoria 0x200000 586822 54 450 434 :=
  ⟨by decide, by decide, by decide, by decide, by decide, by decide, by decide, by decide,
    by decide, by decide, by decide, by decide⟩

lemma memoria_cargado : Cargado memoria 0x10000 0 0x200000 586822 := by
  have hn : rd32 memoria (0x10000 + MODS_COUNT) = 1 := by decide
  refine ⟨by decide, by decide, by decide, by decide, by decide, fun k hk hlt => ?_⟩
  rw [hn] at hlt
  omega

lemma pantalla_sitio : Sitio pantalla 450 434 := ⟨by decide, by decide, by decide, by decide⟩

theorem fondo_cumple_iso :
    Cumple (fun _ => 1) memoria 0x10000 cabecera pantalla 0x200000 54 450 434 ↔
      450 = 0 ∨ 434 = 0 :=
  (fondo_cumple memoria_bmp memoria_cargado pantalla_sitio cabecera).2 _ (abre_uno memoria_cargado)

/-- The image of the repository is not read within its pixels. -/
theorem fondo_iso : Bmp memoria 0x200000 586822 54 450 434 ∧
    Cargado memoria 0x10000 0 0x200000 586822 ∧ Sitio pantalla 450 434 ∧
    ¬ Cumple (fun _ => 1) memoria 0x10000 cabecera pantalla 0x200000 54 450 434 := by
  refine ⟨memoria_bmp, memoria_cargado, pantalla_sitio, fun h => ?_⟩
  have := (cumple_iff memoria_bmp memoria_cargado pantalla_sitio (abre_uno memoria_cargado)
    cabecera).mp h
  omega

end Silicio.BmpFile
