import Silicio.Bytes
import Silicio.Terminal

/-!
The console of `stdio/stdio.c`: `cls` and `putc`, on a text screen or on a frame buffer.

Memory is the linear memory the console writes, with every address it has written; the variables of
the kernel and the table of the font are apart from it. `xpos` and `ypos` never go below 0.
-/

namespace Silicio.Console

open Silicio.Loop Silicio.Bitmap Silicio.Bytes Silicio.Terminal

abbrev Entero := BitVec 32

/-- `s_vbe_header`, but for `modo`. -/
structure Vbe where
  x : ℕ
  y : ℕ
  xy : ℕ
  color : ℕ
  addr : ℕ

structure Font where
  tab : ℕ → Byte
  x : ℕ
  y : ℕ

/-- What `open_mod_font` makes of the letters it draws. -/
def openModFont (f : ℕ → Byte) : Font := ⟨f, 8, 16⟩

structure VbeMode where
  physBase : ℕ
  xResolution : ℕ
  yResolution : ℕ
  bitsPerPixel : ℕ

def openModVbe : Option VbeMode → Vbe
  | some i => ⟨i.xResolution, i.yResolution, i.xResolution * i.yResolution % 2 ^ 32,
      i.bitsPerPixel, i.physBase⟩
  | none => ⟨80, 25, 80 * 25, 0, 0xb8000⟩

structure Video where
  mem : Mem
  escritas : List ℕ

def Video.poner (a : ℕ) (b : Byte) (v : Video) : Video :=
  ⟨wr8 v.mem a b, a % 2 ^ 32 :: v.escritas⟩

def memcpy (orig des cant : ℕ) (v : Video) : Video :=
  loop (fun i v => v.poner (des + i) (rd8 v.mem (orig + i))) cant v

def memset (des cant : ℕ) (dat : Byte) (v : Video) : Video :=
  loop (fun i v => v.poner (des + i) dat) cant v

/-- What is drawn, and the places that have been read for it. -/
structure Lectura where
  video : Video
  leidas : List ℕ

def Lectura.copiar (des orig : ℕ) (s : Lectura) : Lectura :=
  ⟨s.video.poner des (rd8 s.video.mem orig), orig % 2 ^ 32 :: s.leidas⟩

abbrev BLUE : ℕ := 0
abbrev GREEN : ℕ := 1
abbrev RED : ℕ := 2

structure Consola where
  video : Video
  xpos : ℕ
  ypos : ℕ

def negro (p : ℕ) (v : Video) : Video :=
  ((v.poner (p + RED) 0).poner (p + GREEN) 0).poner (p + BLUE) 0

def cls (h : Vbe) (s : Consola) : Consola :=
  let v := s.video
  let v := if h.color = 0 then loop (fun i v => v.poner (h.addr + i) 0) (h.xy * 2 % 2 ^ 32) v else v
  let v := if h.color = 24 then loop (fun i v => negro (h.addr + 3 * i) v) h.xy v else v
  let v := if h.color = 32 then loop (fun i v => negro (h.addr + 4 * i) v) h.xy v else v
  ⟨v, 0, 0⟩

def pintar (p : ℕ) (r g b : Byte) (v : Video) : Video :=
  ((v.poner (p + BLUE) b).poner (p + GREEN) g).poner (p + RED) r

/-- `(let[y_aux] >> x_aux) & 0x1`. -/
def encendido (b : Byte) (xAux : ℕ) : Prop := (b.signExtend 32).sshiftRight xAux &&& 1#32 = 1#32

instance (b : Byte) (xAux : ℕ) : Decidable (encendido b xAux) := inferInstanceAs (Decidable (_ = _))

def bucle (n : ℕ) (h : Vbe) (f : Font) (letra : ℕ → Byte) (cor : ℕ) (r g b : Byte) (v : Video) :
    Video :=
  loop (fun yAux v => loop (fun xAux v =>
    if encendido (letra yAux) xAux then pintar (h.addr + n * (yAux * h.x + cor + xAux)) r g b v
    else v) f.x v) f.y v

def bmp2graf (h : Vbe) (f : Font) (c : Entero) (tab : ℕ → Byte) (x y : ℕ) (r g b : Byte)
    (v : Video) : Video :=
  let letra := fun yAux => tab (c.toNat * f.y % 2 ^ 32 + yAux)
  let cor := y * h.x + x
  if h.color = 24 then bucle 3 h f letra cor r g b v
  else if h.color = 32 then bucle 4 h f letra cor r g b v
  else v

/-- `newline:` of `putc`, where `y` is the rows of the screen. -/
def newline (h : Vbe) (f : Font) (y : ℕ) (s : Consola) : Consola :=
  let ypos := s.ypos + 1
  if ypos ≥ y then
    let ypos := ypos - 1
    if h.color ≠ 0 then
      let a := h.addr
      let b := f.y
      let c := h.x * h.color % 2 ^ 32 / 8
      let z := a + c * b
      let b := (h.y + 2 ^ 32 - f.y) % 2 ^ 32
      let v := memcpy z h.addr (b * c % 2 ^ 32) s.video
      let z := a + b * c
      let b := f.y * h.x
      let c := h.color / 8
      let a := b * c % 2 ^ 32
      ⟨memset z a 0 v, 0, ypos⟩
    else
      let a := h.addr
      let b := h.x * 2
      let z := a + b
      let c := (h.y + 2 ^ 32 - 1) % 2 ^ 32
      ⟨memcpy z h.addr (b * c * 2 % 2 ^ 32) s.video, 0, ypos⟩
  else ⟨s.video, 0, ypos⟩

def putc (h : Vbe) (f : Font) (c : Entero) (s : Consola) : Consola :=
  let x := if h.color ≠ 0 then h.x / f.x else h.x
  let y := if h.color ≠ 0 then h.y / f.y else h.y
  if c = 10#32 then newline h f y s
  else if c = 13#32 then { s with xpos := 0 }
  else
    let v :=
      if h.color = 0 then
        (s.video.poner (h.addr + (s.xpos + s.ypos * x) * 2) (c &&& 0xff#32 |>.setWidth 8)).poner
          (h.addr + (s.xpos + s.ypos * x) * 2 + 1) 0x7#8
      else
        bmp2graf h f c f.tab (s.xpos * f.x) (s.ypos * f.y) 0xf0#8 0xf0#8 0x80#8 s.video
    let s : Consola := { s with video := v, xpos := s.xpos + 1 }
    if s.xpos ≥ x then newline h f y s else s

/-- `putc` of the characters of `l`, one after the other, after `cls`. -/
def correr (h : Vbe) (f : Font) (l : List Entero) (s : Consola) : Consola :=
  l.foldl (fun s c => putc h f c s) (cls h s)

def tecla (c : Entero) : Tecla Entero :=
  if c = 10#32 then .nueva else if c = 13#32 then .retorno else .letra c

lemma tecla_ne_retorno {c : Entero} (hc : c ≠ 13#32) : tecla c ≠ .retorno := by
  unfold tecla
  rw [if_neg hc]
  split <;> rintro ⟨⟩

variable {h : Vbe} {f : Font} {c : Entero} {s : Consola} {v : Video} {t : Pantalla Entero} {a : ℕ}
  {l : List Entero}

lemma correr_concat (l : List Entero) (c : Entero) (s : Consola) :
    correr h f (l ++ [c]) s = putc h f c (correr h f l s) := by
  rw [correr, List.foldl_append, correr, List.foldl_cons, List.foldl_nil]

/-! ### Writing -/

lemma rd8_poner (v : Video) (a : ℕ) (b : Byte) (x : ℕ) :
    rd8 (v.poner a b).mem x = if x % 2 ^ 32 = a % 2 ^ 32 then b else rd8 v.mem x :=
  rd8_wr8 _ _ _ _

lemma add_mod_inj (addr : ℕ) {i j : ℕ} (hi : i < 2 ^ 32) (hj : j < 2 ^ 32) :
    (addr + i) % 2 ^ 32 = (addr + j) % 2 ^ 32 ↔ i = j := by
  constructor
  · intro he
    have h1 : i ≡ j [MOD 2 ^ 32] := Nat.ModEq.add_left_cancel' addr he
    rwa [Nat.ModEq, Nat.mod_eq_of_lt hi, Nat.mod_eq_of_lt hj] at h1
  · rintro rfl
    rfl

lemma rd8_poner_add {addr i j : ℕ} (hi : i < 2 ^ 32) (hj : j < 2 ^ 32) (v : Video) (b : Byte) :
    rd8 (v.poner (addr + j) b).mem (addr + i) = if i = j then b else rd8 v.mem (addr + i) := by
  rw [rd8_poner]
  exact if_congr (add_mod_inj addr hi hj) rfl rfl

lemma escritas_loop (p : ℕ → ℕ) (b : ℕ → Video → Byte) (n : ℕ) (v : Video) :
    a ∈ (loop (fun i v => v.poner (p i) (b i v)) n v).escritas ↔
      a ∈ v.escritas ∨ ∃ i < n, a = p i % 2 ^ 32 := by
  induction n with
  | zero => simp [loop_zero]
  | succ n ih =>
    rw [loop_succ, Video.poner, List.mem_cons, ih]
    constructor
    · rintro (rfl | hv | ⟨i, hi, rfl⟩)
      · exact Or.inr ⟨n, Nat.lt_succ_self n, rfl⟩
      · exact Or.inl hv
      · exact Or.inr ⟨i, hi.trans (Nat.lt_succ_self n), rfl⟩
    · rintro (hv | ⟨i, hi, rfl⟩)
      · exact Or.inr (Or.inl hv)
      · rcases Nat.lt_succ_iff_lt_or_eq.mp hi with hlt | rfl
        · exact Or.inr (Or.inr ⟨i, hlt, rfl⟩)
        · exact Or.inl rfl

lemma escritas_memcpy (orig des cant : ℕ) (v : Video) :
    a ∈ (memcpy orig des cant v).escritas ↔
      a ∈ v.escritas ∨ ∃ i < cant, a = (des + i) % 2 ^ 32 :=
  escritas_loop (fun i => des + i) (fun i v => rd8 v.mem (orig + i)) cant v

lemma escritas_memset (des cant : ℕ) (dat : Byte) (v : Video) :
    a ∈ (memset des cant dat v).escritas ↔
      a ∈ v.escritas ∨ ∃ i < cant, a = (des + i) % 2 ^ 32 :=
  escritas_loop (fun i => des + i) (fun _ _ => dat) cant v

lemma memcpy_mem (orig des cant : ℕ) (v : Video) :
    (memcpy orig des cant v).mem = copy orig des cant v.mem := by
  unfold memcpy copy
  induction cant with
  | zero => rw [loop_zero, loop_zero]
  | succ n ih => rw [loop_succ, loop_succ, ← ih, Video.poner]

/-- **A loop that stores one value** leaves it in its range, and the rest as it was. -/
lemma rd8_memset (des cant : ℕ) (dat : Byte) (v : Video) (x : ℕ) :
    rd8 (memset des cant dat v).mem x =
      if ∃ i < cant, x % 2 ^ 32 = (des + i) % 2 ^ 32 then dat else rd8 v.mem x := by
  unfold memset
  induction cant with
  | zero => simp [loop_zero]
  | succ n ih =>
    rw [loop_succ, rd8_poner, ih]
    by_cases hn : x % 2 ^ 32 = (des + n) % 2 ^ 32
    · rw [if_pos hn, if_pos ⟨n, Nat.lt_succ_self n, hn⟩]
    · rw [if_neg hn]
      refine if_congr ⟨?_, ?_⟩ rfl rfl
      · rintro ⟨i, hi, he⟩
        exact ⟨i, hi.trans (Nat.lt_succ_self n), he⟩
      · rintro ⟨i, hi, he⟩
        refine ⟨i, lt_of_le_of_ne (Nat.le_of_lt_succ hi) ?_, he⟩
        rintro rfl
        exact hn he

/-! ### The cursor -/

def columnas (h : Vbe) (f : Font) : ℕ := if h.color ≠ 0 then h.x / f.x else h.x
def filas (h : Vbe) (f : Font) : ℕ := if h.color ≠ 0 then h.y / f.y else h.y

def dibujar (h : Vbe) (f : Font) (c : Entero) (s : Consola) : Consola :=
  if c = 10#32 then s
  else if c = 13#32 then { s with xpos := 0 }
  else
    ⟨if h.color = 0 then
        (s.video.poner (h.addr + (s.xpos + s.ypos * columnas h f) * 2)
          (c &&& 0xff#32 |>.setWidth 8)).poner
          (h.addr + (s.xpos + s.ypos * columnas h f) * 2 + 1) 0x7#8
      else
        bmp2graf h f c f.tab (s.xpos * f.x) (s.ypos * f.y) 0xf0#8 0xf0#8 0x80#8 s.video,
      s.xpos + 1, s.ypos⟩

/-- **`putc` in two steps**: the character, and the end of the line if it ends one. -/
lemma putc_eq (h : Vbe) (f : Font) (c : Entero) (s : Consola) : putc h f c s =
    if termina (columnas h f) s.xpos (tecla c) then newline h f (filas h f) (dibujar h f c s)
    else dibujar h f c s := by
  unfold putc dibujar tecla
  by_cases h10 : c = 10#32
  · rw [if_pos h10, if_pos h10, if_pos h10]
    rfl
  · rw [if_neg h10, if_neg h10, if_neg h10]
    by_cases h13 : c = 13#32
    · rw [if_pos h13, if_pos h13, if_pos h13]
      rfl
    · rw [if_neg h13, if_neg h13, if_neg h13]
      simp only [termina, decide_eq_true_eq, ge_iff_le]
      rfl

structure Cursor (s : Consola) (t : Pantalla Entero) : Prop where
  xpos : s.xpos = t.columna
  ypos : s.ypos = t.fila

lemma Cursor.dibujar (hc : Cursor s t) (c : Entero) :
    Cursor (dibujar h f c s) (t.anotar (tecla c)) := by
  unfold Console.dibujar tecla
  split
  · exact hc
  · split
    · exact ⟨rfl, hc.ypos⟩
    · exact ⟨congrArg (· + 1) hc.xpos, hc.ypos⟩

lemma newline_xpos (h : Vbe) (f : Font) (y : ℕ) (s : Consola) : (newline h f y s).xpos = 0 := by
  unfold newline
  simp only
  split_ifs <;> rfl

lemma newline_ypos (h : Vbe) (f : Font) (y : ℕ) (s : Consola) :
    (newline h f y s).ypos = if s.ypos + 1 < y then s.ypos + 1 else s.ypos := by
  unfold newline
  simp only
  split_ifs <;> first | rfl | omega

lemma Cursor.newline (hc : Cursor s t) (y : ℕ) : Cursor (newline h f y s) (t.saltar y) := by
  refine ⟨?_, ?_⟩
  · rw [newline_xpos, columna_saltar]
  · rw [newline_ypos, fila_saltar, hc.ypos]

lemma Cursor.putc (hc : Cursor s t) (c : Entero) :
    Cursor (putc h f c s) (recibir (columnas h f) (filas h f) t (tecla c)) := by
  rw [putc_eq, recibir, hc.xpos]
  split
  · exact (hc.dibujar c).newline _
  · exact hc.dibujar c

/-- What a terminal of the size of the screen shows after `l`. -/
def terminal (h : Vbe) (f : Font) (l : List Entero) : Pantalla Entero :=
  mostrar (columnas h f) (filas h f) (l.map tecla)

lemma terminal_concat (l : List Entero) (c : Entero) : terminal h f (l ++ [c]) =
    recibir (columnas h f) (filas h f) (terminal h f l) (tecla c) := by
  rw [terminal, List.map_append, List.map_singleton, mostrar_concat, terminal]

/-- **The cursor of the console is the terminal's**, in every mode. -/
theorem cursor_correr (h : Vbe) (f : Font) (l : List Entero) (s : Consola) :
    Cursor (correr h f l s) (terminal h f l) := by
  induction l using List.reverseRecOn with
  | nil => exact ⟨rfl, rfl⟩
  | append_singleton l c ih =>
    rw [correr_concat, terminal_concat]
    exact ih.putc c

/-! ### The text screen -/

def modoTexto (addr : ℕ) : Vbe := { openModVbe none with addr := addr }

def caracter : Option Entero → Byte
  | some c => c.setWidth 8
  | none => 0

def atributo : Option Entero → Byte
  | some _ => 0x7
  | none => 0

structure Muestra (addr : ℕ) (v : Video) (t : Pantalla Entero) : Prop where
  letra : ∀ i < 25, ∀ j < 80, rd8 v.mem (addr + (j + i * 80) * 2) = caracter (t.celda i j)
  color : ∀ i < 25, ∀ j < 80, rd8 v.mem (addr + (j + i * 80) * 2 + 1) = atributo (t.celda i j)

/-- Nothing has been written outside the `n` bytes from `addr` on. -/
def Escribe (addr n : ℕ) (v : Video) : Prop := ∀ a ∈ v.escritas, ∃ j < n, a = (addr + j) % 2 ^ 32

variable {addr n : ℕ} {m : Mem}

lemma Escribe.poner (hv : Escribe addr n v) {j : ℕ} (hj : j < n) (b : Byte) :
    Escribe addr n (v.poner (addr + j) b) := by
  intro a ha
  rcases List.mem_cons.mp ha with rfl | ha
  · exact ⟨j, hj, rfl⟩
  · exact hv a ha

lemma texto_columnas (addr : ℕ) (f : Font) : columnas (modoTexto addr) f = 80 := rfl

lemma texto_filas (addr : ℕ) (f : Font) : filas (modoTexto addr) f = 25 := rfl

lemma cls_modoTexto (addr : ℕ) (s : Consola) :
    cls (modoTexto addr) s = ⟨memset addr 4000 0 s.video, 0, 0⟩ := by
  have hcolor : (modoTexto addr).color = 0 := rfl
  have haddr : (modoTexto addr).addr = addr := rfl
  have hxy : (modoTexto addr).xy * 2 % 2 ^ 32 = 4000 := by norm_num [modoTexto, openModVbe]
  unfold cls memset
  simp only [hcolor, haddr, hxy, if_true]
  rw [if_neg (by decide), if_neg (by decide)]

lemma dibujar_letra (h10 : c ≠ 10#32) (h13 : c ≠ 13#32) : dibujar (modoTexto addr) f c s =
    ⟨(s.video.poner (addr + (s.xpos + s.ypos * 80) * 2) (c.setWidth 8)).poner
      (addr + (s.xpos + s.ypos * 80) * 2 + 1) 0x7#8, s.xpos + 1, s.ypos⟩ := by
  have hcolor : (modoTexto addr).color = 0 := rfl
  have hbyte : (c &&& 0xff#32).setWidth 8 = c.setWidth 8 := by
    rw [BitVec.setWidth_and]
    exact BitVec.and_allOnes
  unfold dibujar
  rw [if_neg h10, if_neg h13, hcolor, if_pos rfl, hbyte]
  rfl

lemma cls_texto (hv : s.video.escritas = []) :
    Muestra addr (cls (modoTexto addr) s).video vacia ∧
      Escribe addr 4000 (cls (modoTexto addr) s).video := by
  rw [cls_modoTexto]
  refine ⟨⟨fun i hi j hj => ?_, fun i hi j hj => ?_⟩, fun a ha => ?_⟩
  · rw [rd8_memset, if_pos ⟨(j + i * 80) * 2, by omega, rfl⟩]
    rfl
  · rw [rd8_memset, if_pos ⟨(j + i * 80) * 2 + 1, by omega, rfl⟩]
    rfl
  · rw [escritas_memset, hv] at ha
    exact ha.resolve_left List.not_mem_nil

lemma Muestra.dibujar (hm : Muestra addr s.video t) (hv : Escribe addr 4000 s.video)
    (hc : Cursor s t) (ht : Dentro 80 25 t) (c : Entero) :
    Muestra addr (dibujar (modoTexto addr) f c s).video (t.anotar (tecla c)) ∧
      Escribe addr 4000 (dibujar (modoTexto addr) f c s).video := by
  have hx := ht.columna
  have hy := ht.fila
  unfold tecla
  by_cases h10 : c = 10#32
  · rw [if_pos h10, Console.dibujar, if_pos h10]
    exact ⟨hm, hv⟩
  · by_cases h13 : c = 13#32
    · rw [if_neg h10, if_pos h13, Console.dibujar, if_neg h10, if_pos h13]
      exact ⟨⟨hm.letra, hm.color⟩, hv⟩
    · rw [if_neg h10, if_neg h13, dibujar_letra h10 h13, hc.xpos, hc.ypos]
      refine ⟨⟨fun i hi j hj => ?_, fun i hi j hj => ?_⟩, ?_⟩
      · rw [Nat.add_assoc addr, rd8_poner_add (by omega) (by omega), if_neg (by omega),
          rd8_poner_add (by omega) (by omega)]
        simp only [Pantalla.anotar]
        split_ifs with h1 h2 h2
        · rfl
        · omega
        · omega
        · exact hm.letra i hi j hj
      · rw [Nat.add_assoc addr, Nat.add_assoc addr, rd8_poner_add (by omega) (by omega)]
        simp only [Pantalla.anotar]
        split_ifs with h1 h2 h2
        · rfl
        · omega
        · omega
        · rw [rd8_poner_add (by omega) (by omega), if_neg (by omega), ← Nat.add_assoc]
          exact hm.color i hi j hj
      · rw [Nat.add_assoc addr]
        exact (hv.poner (by omega) _).poner (by omega) _

lemma newline_sube {y : ℕ} (hy : s.ypos + 1 < y) :
    newline h f y s = ⟨s.video, 0, s.ypos + 1⟩ := by
  unfold newline
  exact if_neg (by omega)

lemma newline_texto (hy : 25 ≤ s.ypos + 1) :
    newline (modoTexto addr) f 25 s = ⟨memcpy (addr + 160) addr 7680 s.video, 0, s.ypos⟩ := by
  have hcolor : (modoTexto addr).color = 0 := rfl
  have haddr : (modoTexto addr).addr = addr := rfl
  have hx : (modoTexto addr).x = 80 := rfl
  have hrows : (modoTexto addr).y = 25 := rfl
  have hn : 80 * 2 * ((25 + 2 ^ 32 - 1) % 2 ^ 32) * 2 % 2 ^ 32 = 7680 := by norm_num
  unfold newline
  simp only [hcolor, haddr, hx, hrows, ge_iff_le, hy, if_true, ne_eq, not_true, if_false,
    Nat.add_sub_cancel]
  rw [hn]

lemma escritas_putc (hv : a ∈ s.video.escritas) (c : Entero) :
    a ∈ (putc (modoTexto addr) f c s).video.escritas := by
  have hdib : a ∈ (dibujar (modoTexto addr) f c s).video.escritas := by
    by_cases h10 : c = 10#32
    · rwa [dibujar, if_pos h10]
    · by_cases h13 : c = 13#32
      · rwa [dibujar, if_neg h10, if_pos h13]
      · rw [dibujar_letra h10 h13]
        exact List.mem_cons_of_mem _ (List.mem_cons_of_mem _ hv)
  rw [putc_eq, texto_filas]
  split
  · rcases Nat.lt_or_ge ((dibujar (modoTexto addr) f c s).ypos + 1) 25 with hlt | hge
    · rwa [newline_sube hlt]
    · rw [newline_texto hge]
      exact (escritas_memcpy _ _ _ _).mpr (Or.inl hdib)
  · exact hdib

lemma fila_texto (addr : ℕ) (f : Font) (l : List Entero) :
    (terminal (modoTexto addr) f l).fila = min (fines 80 (l.map tecla)) 24 :=
  (cursor_mostrar 80 (show 0 < 25 by decide) (l.map tecla)).2

lemma fines_texto (addr : ℕ) (f : Font) (l : List Entero) (c : Entero) :
    fines 80 ((l ++ [c]).map tecla) = fines 80 (l.map tecla) +
      if termina 80 (terminal (modoTexto addr) f l).columna (tecla c) then 1 else 0 := by
  rw [List.map_append, List.map_singleton, fines_concat (show 0 < 25 by decide)]
  rfl

/-- **Past the last row the copy leaves the screen**: it moves twice the bytes of the rows. -/
lemma fuera_texto (addr : ℕ) (l : List Entero) (s : Consola) (hl : 25 ≤ fines 80 (l.map tecla)) :
    (addr + 4000) % 2 ^ 32 ∈ (correr (modoTexto addr) f l s).video.escritas := by
  induction l using List.reverseRecOn with
  | nil => exact absurd hl (by decide)
  | append_singleton l c ih =>
    rw [correr_concat]
    rcases Nat.lt_or_ge (fines 80 (l.map tecla)) 25 with hlt | hge
    · -- this is the key that scrolls for the first time
      have hcur := cursor_correr (modoTexto addr) f l s
      have hypos := (hcur.dibujar (h := modoTexto addr) (f := f) c).ypos
      rw [fines_texto addr f] at hl
      have ht : termina 80 (terminal (modoTexto addr) f l).columna (tecla c) = true := by
        by_contra hno
        rw [if_neg hno] at hl
        omega
      rw [if_pos ht] at hl
      rw [putc_eq, texto_columnas, hcur.xpos, if_pos ht, texto_filas, newline_texto]
      · exact (escritas_memcpy _ _ _ _).mpr (Or.inr ⟨4000, by decide, rfl⟩)
      · rw [hypos, fila_anotar, fila_texto]
        omega
    · exact escritas_putc (ih hge) c

/-- While no line has ended on the last row, the screen is the terminal's. -/
lemma dentro_texto (addr : ℕ) (f : Font) (hv : s.video.escritas = [])
    (hl : fines 80 (l.map tecla) < 25) :
    Muestra addr (correr (modoTexto addr) f l s).video (terminal (modoTexto addr) f l) ∧
      Escribe addr 4000 (correr (modoTexto addr) f l s).video := by
  induction l using List.reverseRecOn with
  | nil => exact cls_texto hv
  | append_singleton l c ih =>
    rw [fines_texto addr f] at hl
    have hcur := cursor_correr (modoTexto addr) f l s
    obtain ⟨hm, hesc⟩ := ih (by omega)
    obtain ⟨hm', hesc'⟩ := hm.dibujar (f := f) hesc hcur
      (mostrar_dentro (by decide) (by decide) _) c
    have hypos := (hcur.dibujar (h := modoTexto addr) (f := f) c).ypos
    rw [correr_concat, terminal_concat, putc_eq, recibir, hcur.xpos, texto_columnas, texto_filas]
    split
    · next ht =>
      have hlt : ((terminal (modoTexto addr) f l).anotar (tecla c)).fila + 1 < 25 := by
        rw [if_pos ht] at hl
        rw [fila_anotar, fila_texto]
        omega
      rw [newline_sube (by rwa [hypos]), Pantalla.saltar, if_pos hlt]
      exact ⟨⟨hm'.letra, hm'.color⟩, hesc'⟩
    · exact ⟨hm', hesc'⟩

/-- What a text console owes after `l`: the cursor is on the screen, nothing has been written
outside it, and it shows what a terminal shows. -/
structure CumpleTexto (addr : ℕ) (f : Font) (l : List Entero) (s : Consola) : Prop where
  xpos : (correr (modoTexto addr) f l s).xpos < 80
  ypos : (correr (modoTexto addr) f l s).ypos < 25
  escribe : Escribe addr (2 * 80 * 25) (correr (modoTexto addr) f l s).video
  muestra : Muestra addr (correr (modoTexto addr) f l s).video (mostrar 80 25 (l.map tecla))

/-- **The text console is a terminal until it scrolls**: whatever is in memory, it does its duty
after every part of what it gets just when fewer than 25 lines end. -/
theorem consola_texto (addr : ℕ) (f : Font) (m : Mem) (x y : ℕ) (l : List Entero) :
    (∀ p, p <+: l → CumpleTexto addr f p ⟨⟨m, []⟩, x, y⟩) ↔ fines 80 (l.map tecla) < 25 := by
  constructor
  · intro hall
    by_contra hge
    obtain ⟨j, hj, he⟩ := (hall l List.prefix_rfl).escribe _
      (fuera_texto addr l ⟨⟨m, []⟩, x, y⟩ (Nat.le_of_not_lt hge))
    have := (add_mod_inj addr (by decide) (by omega)).mp he
    omega
  · rintro hl p ⟨q, rfl⟩
    have hp : fines 80 (p.map tecla) < 25 := by
      rw [List.map_append] at hl
      exact (fines_append _ _).trans_lt hl
    have hcur := cursor_correr (modoTexto addr) f p ⟨⟨m, []⟩, x, y⟩
    have hd := mostrar_dentro (show 0 < 80 by decide) (show 0 < 25 by decide) (p.map tecla)
    obtain ⟨hm, hesc⟩ := dentro_texto addr f (s := ⟨⟨m, []⟩, x, y⟩) rfl hp
    exact ⟨hcur.xpos.trans_lt hd.columna, hcur.ypos.trans_lt hd.fila, hesc, hm⟩

lemma putc_linea (addr : ℕ) (f : Font) (s : Consola) :
    putc (modoTexto addr) f 10#32 s = newline (modoTexto addr) f 25 s := by
  unfold putc
  exact if_pos rfl

lemma correr_lineas {k : ℕ} (hk : k ≤ 24) (s : Consola) :
    correr (modoTexto addr) f (List.replicate k 10#32) s = ⟨memset addr 4000 0 s.video, 0, k⟩ := by
  induction k with
  | zero => exact cls_modoTexto addr s
  | succ k ih =>
    rw [List.replicate_succ', correr_concat, ih (by omega), putc_linea]
    exact newline_sube (show k + 1 < 25 by omega)

/-- Twenty-five empty lines, over a memory full of letters: the last row shows the letters that
follow the screen. -/
theorem texto_desborda :
    ¬ (∀ p, p <+: List.replicate 25 10#32 →
      CumpleTexto 0xb8000 (openModFont fun _ => 0) p ⟨⟨fun _ => 0x41, []⟩, 0, 0⟩) ∧
    rd8 (correr (modoTexto 0xb8000) (openModFont fun _ => 0) (List.replicate 25 10#32)
      ⟨⟨fun _ => 0x41, []⟩, 0, 0⟩).video.mem (0xb8000 + (0 + 24 * 80) * 2) = 0x41 ∧
    caracter ((mostrar 80 25 ((List.replicate 25 10#32).map tecla)).celda 24 0) = 0 := by
  refine ⟨fun h => ?_, ?_, ?_⟩
  · obtain ⟨j, hj, he⟩ := (h _ List.prefix_rfl).escribe _ (fuera_texto 0xb8000 _ _
      (by decide))
    have := (add_mod_inj 0xb8000 (by decide) (by omega)).mp he
    omega
  · rw [List.replicate_succ', correr_concat, correr_lineas (by decide), putc_linea,
      newline_texto (by decide)]
    have hat : 0xb8000 + 160 + above (0xb8000 + (0 + 24 * 80) * 2) 0xb8000 %
        above 0xb8000 (0xb8000 + 160) = 0xb8000 + 4000 := by decide
    simp only
    rw [memcpy_mem, rd8_copy (by decide), if_pos (by decide), hat, rd8_memset, if_neg]
    · rfl
    · rintro ⟨i, hi, he⟩
      omega
  · obtain ⟨hcol, hfila⟩ := cursor_mostrar 80 (show 0 < 25 by decide)
      ((List.replicate 25 10#32).map tecla)
    have hlimpia : Limpia (mostrar 80 25 ((List.replicate 25 10#32).map tecla)) :=
      mostrar_limpia fun k hk => by
        obtain ⟨c, hc, rfl⟩ := List.mem_map.mp hk
        rw [List.eq_of_mem_replicate hc]
        exact tecla_ne_retorno (by decide)
    rw [hlimpia 24 0 (Or.inr ⟨?_, ?_⟩)]
    · rfl
    · rw [hfila]
      decide
    · rw [hcol]
      decide

end Silicio.Console
