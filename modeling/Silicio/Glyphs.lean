import Silicio.Printk

/-!
The rows of the font a graphics console looks at.

`putc` and `bmp2graf` once more, with the places of the table of the font that are read. A `char`
has a sign, so the second half of the bytes comes to `bmp2graf` as numbers below 0, and as places
far above the table once it is multiplied as an `unsigned long`.
-/

namespace Silicio.Glyphs

open Silicio.Loop Silicio.Bitmap Silicio.Bytes Silicio.Console Silicio.Terminators Silicio.Itoa
  Silicio.Printk

/-- The two loops of `bmp2graf`, where the letter begins at place `letra` of the table; the places
read are those of the table. -/
def bucleLee (n : ℕ) (h : Vbe) (f : Font) (tab : ℕ → Byte) (letra cor : ℕ) (r g b : Byte)
    (s : Lectura) : Lectura :=
  loop (fun yAux s => loop (fun xAux s =>
    let s := { s with leidas := (letra + yAux) :: s.leidas }
    if encendido (tab (letra + yAux)) xAux then
      { s with video := pintar (h.addr + n * (yAux * h.x + cor + xAux)) r g b s.video }
    else s) f.x s) f.y s

def bmp2grafLee (h : Vbe) (f : Font) (c : Entero) (tab : ℕ → Byte) (x y : ℕ) (r g b : Byte)
    (s : Lectura) : Lectura :=
  let letra := c.toNat * f.y % 2 ^ 32
  let cor := y * h.x + x
  if h.color = 24 then bucleLee 3 h f tab letra cor r g b s
  else if h.color = 32 then bucleLee 4 h f tab letra cor r g b s
  else s

/-- `putc`, and the places of the table it reads. -/
def putcLee (h : Vbe) (f : Font) (c : Entero) (s : Consola) : Consola × List ℕ :=
  let x := if h.color ≠ 0 then h.x / f.x else h.x
  let y := if h.color ≠ 0 then h.y / f.y else h.y
  if c = 10#32 then (newline h f y s, [])
  else if c = 13#32 then ({ s with xpos := 0 }, [])
  else
    let v : Lectura :=
      if h.color = 0 then
        ⟨(s.video.poner (h.addr + (s.xpos + s.ypos * x) * 2) (c &&& 0xff#32 |>.setWidth 8)).poner
          (h.addr + (s.xpos + s.ypos * x) * 2 + 1) 0x7#8, []⟩
      else
        bmp2grafLee h f c f.tab (s.xpos * f.x) (s.ypos * f.y) 0xf0#8 0xf0#8 0x80#8 ⟨s.video, []⟩
    let s : Consola := { s with video := v.video, xpos := s.xpos + 1 }
    (if s.xpos ≥ x then newline h f y s else s, v.leidas)

/-- Every row read is in the table, and of the letter of the byte. -/
def Glifo (b : Byte) (leidas : List ℕ) : Prop := ∀ o ∈ leidas, o < 256 * 16 ∧ o / 16 = b.toNat

def Glifos (h : Vbe) (f : Font) : List Byte → Consola → Prop
  | [], _ => True
  | b :: l, s => Glifo b (putcLee h f (entero b) s).2 ∧ Glifos h f l (putcLee h f (entero b) s).1

variable {h : Vbe} {f : Font} {tab : ℕ → Byte} {s : Consola} {c : Entero} {b : Byte} {n o : ℕ}

/-! ### The console is the same -/

lemma bucleLee_video (n : ℕ) (h : Vbe) (f : Font) (tab : ℕ → Byte) (letra cor : ℕ) (r g b : Byte)
    (s : Lectura) : (bucleLee n h f tab letra cor r g b s).video =
      bucle n h f (fun yAux => tab (letra + yAux)) cor r g b s.video := by
  unfold bucleLee bucle
  refine loop_map Lectura.video (fun yAux s => ?_) f.y s
  refine loop_map Lectura.video (fun xAux s => ?_) f.x s
  simp only
  split_ifs <;> rfl

lemma bmp2grafLee_video (h : Vbe) (f : Font) (c : Entero) (tab : ℕ → Byte) (x y : ℕ)
    (r g b : Byte) (s : Lectura) : (bmp2grafLee h f c tab x y r g b s).video =
      bmp2graf h f c tab x y r g b s.video := by
  unfold bmp2grafLee bmp2graf
  simp only
  split_ifs
  · exact bucleLee_video 3 h f tab _ _ r g b s
  · exact bucleLee_video 4 h f tab _ _ r g b s
  · rfl

lemma putcLee_fst (h : Vbe) (f : Font) (c : Entero) (s : Consola) :
    (putcLee h f c s).1 = putc h f c s := by
  unfold putcLee putc
  by_cases h10 : c = 10#32
  · rw [if_pos h10, if_pos h10]
  · rw [if_neg h10, if_neg h10]
    by_cases h13 : c = 13#32
    · rw [if_pos h13, if_pos h13]
    · rw [if_neg h13, if_neg h13]
      by_cases hcol : h.color = 0
      · simp only [hcol, if_true]
      · simp only [hcol, if_false, bmp2grafLee_video]

/-! ### The rows -/

lemma bucleLee_leidas (n : ℕ) (h : Vbe) (f : Font) (tab : ℕ → Byte) (letra cor : ℕ)
    (r g b : Byte) (s : Lectura) : o ∈ (bucleLee n h f tab letra cor r g b s).leidas ↔
      o ∈ s.leidas ∨ ∃ yAux < f.y, ∃ _ < f.x, o = letra + yAux := by
  unfold bucleLee
  refine loop_or (Q := fun s : Lectura => o ∈ s.leidas) (fun yAux s => ?_) f.y s
  refine loop_or (Q := fun s : Lectura => o ∈ s.leidas) (fun xAux s => ?_) f.x s
  rw [Or.comm, ← List.mem_cons]
  simp only
  split_ifs <;> rfl

lemma putcLee_snd (hcolor : h.color = 24 ∨ h.color = 32) (h10 : c ≠ 10#32) (h13 : c ≠ 13#32) :
    o ∈ (putcLee h (openModFont tab) c s).2 ↔ ∃ y < 16, o = c.toNat * 16 % 2 ^ 32 + y := by
  have hrows : ∀ n cor r g b v,
      o ∈ (bucleLee n h (openModFont tab) tab (c.toNat * 16 % 2 ^ 32) cor r g b ⟨v, []⟩).leidas ↔
        ∃ y < 16, o = c.toNat * 16 % 2 ^ 32 + y := by
    intro n cor r g b v
    rw [bucleLee_leidas]
    constructor
    · rintro (hno | ⟨y, hy, -, -, ho⟩)
      · exact absurd hno List.not_mem_nil
      · exact ⟨y, hy, ho⟩
    · rintro ⟨y, hy, ho⟩
      exact Or.inr ⟨y, hy, 0, Nat.zero_lt_succ 7, ho⟩
  have hcol : h.color ≠ 0 := by omega
  unfold putcLee
  rw [if_neg h10, if_neg h13]
  simp only
  rw [if_neg hcol, bmp2grafLee]
  rcases hcolor with h24 | h32
  · rw [if_pos h24]
    exact hrows _ _ _ _ _ _
  · rw [if_neg (by omega), if_pos h32]
    exact hrows _ _ _ _ _ _

lemma putcLee_snd_nil (hc : c = 10#32 ∨ c = 13#32) : (putcLee h f c s).2 = [] := by
  unfold putcLee
  rcases hc with rfl | rfl
  · rw [if_pos rfl]
  · rw [if_neg (by decide), if_pos rfl]

/-! ### Bytes below and above 0x80 -/

lemma entero_toNat (b : Byte) : (entero b).toNat = if b.toNat < 128 then b.toNat
    else 2 ^ 32 - 256 + b.toNat := by
  have hb := b.isLt
  unfold entero
  rw [BitVec.toNat_signExtend, BitVec.toNat_setWidth, BitVec.msb_eq_decide,
    Nat.mod_eq_of_lt (by omega)]
  simp only [decide_eq_true_eq]
  split_ifs <;> omega

/-- A byte has its letter just when it is not below 0 as a `char`. -/
lemma glifo_iff (hcolor : h.color = 24 ∨ h.color = 32) :
    Glifo b (putcLee h (openModFont tab) (entero b) s).2 ↔ b.toNat < 128 := by
  by_cases hc : entero b = 10#32 ∨ entero b = 13#32
  · have hb : b.toNat < 128 := by
      rcases hc with he | he
      · obtain rfl : b = 10 := entero_inj he
        decide
      · obtain rfl : b = 13 := entero_inj he
        decide
    rw [putcLee_snd_nil hc]
    exact ⟨fun _ => hb, fun _ o ho => absurd ho List.not_mem_nil⟩
  · obtain ⟨h10, h13⟩ := not_or.mp hc
    constructor
    · intro hg
      obtain ⟨hlt, -⟩ := hg _ ((putcLee_snd hcolor h10 h13).mpr ⟨0, by decide, rfl⟩)
      rw [entero_toNat] at hlt
      by_contra hb
      rw [if_neg hb] at hlt
      have := b.isLt
      omega
    · intro hb o ho
      obtain ⟨y, hy, rfl⟩ := (putcLee_snd hcolor h10 h13).mp ho
      rw [entero_toNat, if_pos hb]
      omega

lemma glifos_iff (hcolor : h.color = 24 ∨ h.color = 32) (l : List Byte) (s : Consola) :
    Glifos h (openModFont tab) l s ↔ ∀ b ∈ l, b.toNat < 128 := by
  induction l generalizing s with
  | nil => simp [Glifos]
  | cons b l ih => rw [Glifos, glifo_iff hcolor, ih, List.forall_mem_cons]

/-! ### A text of `printk` -/

/-- **The letters of a text of `printk` are looked up in the font** just when its bytes are below
0x80: `l` is what it has given `putc`, the text of its format when that is closed. -/
theorem glifos_printk (hcolor : h.color = 24 ∨ h.color = 32) (tab : ℕ → Byte) {m : Mem}
    {basura : ℕ → ℕ → Byte} {buf : ℕ → Byte} {fmt p fuel : ℕ} {s' : Impresion}
    (hrun : printk m basura fuel (inicio fmt p buf) = some s') (s : Consola) :
    ∃ l : List Byte, s'.salida = l.map entero ∧
      (∀ fs t q, EnMem m fmt fs → Rinde m fs p t q → cerrado fs = true → l = t) ∧
      (Glifos h (openModFont tab) l s ↔ ∀ b ∈ l, b.toNat < 128) := by
  obtain ⟨l, hl⟩ := printk_entero hrun
  rw [show (inicio fmt p buf).salida = [] from rfl, List.nil_append] at hl
  refine ⟨l, hl, fun fs t q hm hr hc => ?_, glifos_iff hcolor l s⟩
  obtain ⟨s₁, hi, n, hn⟩ := printk_cerrado basura hr (s := inicio fmt p buf) rfl hm hc
  have hsame : s₁ = s' := by
    have h₁ := hn (max fuel (n + 1)) (by omega)
    rw [printk_mono (le_max_left fuel (n + 1)) hrun] at h₁
    exact (Option.some.inj h₁).symm
  have hsal := hi.salida
  rw [hsame, show (inicio fmt p buf).salida = [] from rfl, List.nil_append, hl] at hsal
  exact List.map_injective_iff.mpr (fun _ _ => entero_inj) hsal

def modoGrafico : Vbe := openModVbe (some ⟨0xfd000000, 640, 480, 32⟩)

theorem glifos_printk_letra : ∃ l : List Byte,
    [entero 0x61, entero 0x62] = l.map entero ∧
      (∀ fs t q, EnMem memLetra 0x1000 fs → Rinde memLetra fs 0x2000 t q → cerrado fs = true →
        l = t) ∧
      (Glifos modoGrafico (openModFont fun _ => 0) l ⟨⟨fun _ => 0, []⟩, 0, 0⟩ ↔
        ∀ b ∈ l, b.toNat < 128) :=
  glifos_printk (h := modoGrafico) (Or.inr rfl) (fun _ => 0)
    (show printk memLetra (fun _ _ => 0) 4 (inicio 0x1000 0x2000 fun _ => 0) =
      some ⟨0x1004, 0x2004, fun _ => 0, [entero 0x61, entero 0x62],
        [0x1000, 0x1001, 0x1002, 0x1003]⟩ from rfl) ⟨⟨fun _ => 0, []⟩, 0, 0⟩

def memAlta : Mem := fun a => if a = 0x1000 then 0x80 else 0

/-- The letter of the byte 0x80 is looked up two kilobytes below the table. -/
theorem glifos_alta : printk memAlta (fun _ _ => 0) 2 (inicio 0x1000 0x2000 fun _ => 0) =
      some ⟨0x1002, 0x2000, fun _ => 0, [entero 0x80], [0x1000, 0x1001]⟩ ∧
    0xfffff800 ∈ (putcLee modoGrafico (openModFont fun _ => 0) (entero 0x80)
      ⟨⟨fun _ => 0, []⟩, 0, 0⟩).2 ∧
    ¬ Glifos modoGrafico (openModFont fun _ => 0) [0x80] ⟨⟨fun _ => 0, []⟩, 0, 0⟩ := by
  have hmode : modoGrafico.color = 24 ∨ modoGrafico.color = 32 := Or.inr rfl
  refine ⟨rfl, (putcLee_snd hmode (by decide) (by decide)).mpr ⟨0, by decide, by decide⟩,
    fun hg => ?_⟩
  exact absurd ((glifos_iff hmode _ _).mp hg _ (List.mem_singleton.mpr rfl)) (by decide)

end Silicio.Glyphs
