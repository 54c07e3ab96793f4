import Silicio.Bitmap

/-!
The interrupt mask of the 8259 and the copy of it that `int/int.c` keeps.

The chip's mask is the last byte written to port 0x21. `int_up` and `int_down` change one bit
of `t_int` and write `t_int` whole; `set_8259` and `task_control` write the port and leave
`t_int` at the 0 it starts with. So the first call that writes at all brings to the chip a byte
that nobody programmed, and from then on copy and chip agree.
-/

namespace Silicio.Mask

open Silicio.Bitmap

/-- The copy, and what has been written to ports, first to last. -/
structure Pic where
  tInt : Byte
  salida : List (ℕ × Byte)

def outb (port : ℕ) (val : Byte) (s : Pic) : Pic := { s with salida := s.salida ++ [(port, val)] }

/-- The mask of the chip: the last byte written to port 0x21. -/
def mascara (s : Pic) : Byte :=
  (((s.salida.filter fun w => w.1 == 0x21).getLast?).map Prod.snd).getD 0

def intUp (n : Byte) (s : Pic) : ℤ × Pic :=
  if n > 15#8 ∧ n < 24#8 then
    let n := n - 16#8
    let byte := 1#8 <<< n.toNat
    let tInt := (s.tInt.setWidth 32 &&& ~~~(byte.signExtend 32)).setWidth 8
    (0, outb 0x21 tInt { s with tInt := tInt })
  else (-1, s)

def intDown (n : Byte) (s : Pic) : ℤ × Pic :=
  if n > 15#8 ∧ n < 24#8 then
    let n := n - 16#8
    let byte := 1#8 <<< n.toNat
    let tInt := (s.tInt.setWidth 32 ||| byte.signExtend 32).setWidth 8
    (0, outb 0x21 tInt { s with tInt := tInt })
  else (-1, s)

def set8259 (s : Pic) : Pic :=
  [(0x20, 0x11#8), (0xa0, 0x11#8), (0x21, 0x10#8), (0xa1, 0x18#8), (0x21, 0x04#8), (0xa1, 0x02#8),
    (0x21, 0x01#8), (0xa1, 0x01#8), (0x21, 0xff#8), (0xa1, 0xff#8), (0x21, 0xfd#8),
    (0x64, 0xae#8)].foldl (fun s w => outb w.1 w.2 s) s

abbrev programada : Byte := 0xdc#8

/-- `set_8259`, then the first lines of `task_control`. -/
def arranque : Pic := outb 0x21 programada (set8259 ⟨0, []⟩)

/-! ### Calls -/

structure Llamada where
  up : Bool
  n : Byte

/-- The number is one of the eight lines of the chip. -/
def Llamada.EnRango (c : Llamada) : Prop := 16 ≤ c.n.toNat ∧ c.n.toNat < 24

instance (c : Llamada) : Decidable c.EnRango := inferInstanceAs (Decidable (_ ∧ _))

def Llamada.linea (c : Llamada) : ℕ := c.n.toNat - 16

def ejecutar (c : Llamada) (s : Pic) : ℤ × Pic := if c.up then intUp c.n s else intDown c.n s

def correr (l : List Llamada) (s : Pic) : Pic := l.foldl (fun s c => (ejecutar c s).2) s

variable {c : Llamada} {l : List Llamada} {s : Pic}

@[simp] lemma mascara_outb (port : ℕ) (val : Byte) (s : Pic) :
    mascara (outb port val s) = if port = 0x21 then val else mascara s := by
  unfold mascara outb
  simp only [List.filter_append, List.filter_cons, List.filter_nil, beq_iff_eq]
  split <;> simp

lemma correr_append (l l' : List Llamada) (s : Pic) :
    correr (l ++ l') s = correr l' (correr l s) := by
  rw [correr, List.foldl_append, correr, correr]

lemma correr_concat (l : List Llamada) (c : Llamada) (s : Pic) :
    correr (l ++ [c]) s = (ejecutar c (correr l s)).2 := correr_append _ _ _

/-- What a call makes of the copy, when its number is in range: its line's bit is set or cleared. -/
def nuevo (c : Llamada) (b : Byte) : Byte :=
  if c.up then b &&& ~~~(1#8 <<< c.linea) else b ||| 1#8 <<< c.linea

/-- **What a call does.** -/
lemma ejecutar_eq (c : Llamada) (s : Pic) : ejecutar c s =
    if c.EnRango then (0, outb 0x21 (nuevo c s.tInt) { s with tInt := nuevo c s.tInt })
    else (-1, s) := by
  have hiff : (c.n > 15#8 ∧ c.n < 24#8) ↔ c.EnRango := by
    simp only [Llamada.EnRango, gt_iff_lt, BitVec.lt_def, BitVec.toNat_ofNat]
    omega
  have hlinea : c.EnRango → (c.n - 16#8).toNat = c.linea := by
    rintro ⟨h1, h2⟩
    rw [BitVec.toNat_sub, BitVec.toNat_ofNat, Llamada.linea]
    omega
  unfold ejecutar intUp intDown nuevo
  simp only [hiff, and_not_char, or_char]
  split_ifs with h1 h2
  all_goals simp_all

lemma nuevo_bit (c : Llamada) (b : Byte) {i : ℕ} (hi : i < 8) :
    (nuevo c b).getLsbD i = if i = c.linea then !c.up else b.getLsbD i := by
  unfold nuevo
  have hmask : (1#8 <<< c.linea).getLsbD i = decide (i = c.linea) := getLsbD_mask hi
  by_cases hc : i = c.linea
  · rw [if_pos hc]
    rw [decide_eq_true hc] at hmask
    cases c.up
    · rw [if_neg (by decide), BitVec.getLsbD_or, hmask, Bool.or_true, Bool.not_false]
    · rw [if_pos rfl, BitVec.getLsbD_and, BitVec.getLsbD_not, hmask, Bool.not_true, Bool.and_false,
        Bool.and_false]
  · rw [if_neg hc]
    rw [decide_eq_false hc] at hmask
    split
    · rw [BitVec.getLsbD_and, BitVec.getLsbD_not, hmask, decide_eq_true hi, Bool.not_false,
        Bool.and_true, Bool.and_true]
    · rw [BitVec.getLsbD_or, hmask, Bool.or_false]

/-! ### Copy and chip -/

/-- What a call owes: the line's bit of the mask is changed, no other, and the answer is 0; a number
out of range writes nothing and the answer is -1. -/
structure Cumple (c : Llamada) (s : Pic) : Prop where
  linea : c.EnRango → (ejecutar c s).1 = 0 ∧ ∀ i < 8, (mascara (ejecutar c s).2).getLsbD i =
    if i = c.linea then !c.up else (mascara s).getLsbD i
  fuera : ¬ c.EnRango → (ejecutar c s).1 = -1 ∧ (ejecutar c s).2.salida = s.salida

lemma cumple_iff : Cumple c s ↔
    (c.EnRango → ∀ i < 8, i ≠ c.linea → s.tInt.getLsbD i = (mascara s).getLsbD i) := by
  by_cases hc : c.EnRango
  · have hmask : mascara (ejecutar c s).2 = nuevo c s.tInt := by
      rw [ejecutar_eq, if_pos hc, mascara_outb, if_pos rfl]
    constructor
    · rintro ⟨h, -⟩ - i hi hne
      have := (h hc).2 i hi
      rwa [hmask, nuevo_bit c _ hi, if_neg hne, if_neg hne] at this
    · intro h
      refine ⟨fun _ => ⟨by rw [ejecutar_eq, if_pos hc], fun i hi => ?_⟩, fun hno => absurd hc hno⟩
      rw [hmask, nuevo_bit c _ hi]
      split
      · rfl
      · next hne => exact h hc i hi hne
  · refine iff_of_true ⟨fun h => absurd h hc, fun _ => ?_⟩ fun h => absurd h hc
    rw [ejecutar_eq, if_neg hc]
    exact ⟨rfl, rfl⟩

def ultima (l : List Llamada) (i : ℕ) : Option Bool :=
  ((l.filter fun c => decide (c.EnRango ∧ c.linea = i)).getLast?).map Llamada.up

lemma ultima_concat (l : List Llamada) (c : Llamada) (i : ℕ) :
    ultima (l ++ [c]) i = if c.EnRango ∧ c.linea = i then some c.up else ultima l i := by
  unfold ultima
  simp only [List.filter_append, List.filter_cons, List.filter_nil, decide_eq_true_eq]
  split <;> simp

lemma ultima_eq_none {i : ℕ} (h : ∀ c ∈ l, ¬ c.EnRango) : ultima l i = none := by
  induction l using List.reverseRecOn with
  | nil => rfl
  | append_singleton l c ih =>
    rw [ultima_concat, if_neg fun hc => h c (by simp) hc.1]
    exact ih fun c' hc' => h c' (List.mem_append_left _ hc')

/-- The copy holds the last calls, and 0 for the lines without one. -/
lemma tInt_bit (l : List Llamada) {i : ℕ} (hi : i < 8) :
    (correr l arranque).tInt.getLsbD i = ((ultima l i).map not).getD false := by
  induction l using List.reverseRecOn with
  | nil =>
    have h0 : (correr [] arranque).tInt = 0#8 := rfl
    rw [h0, BitVec.getLsbD_zero]
    rfl
  | append_singleton l c ih =>
    rw [correr_concat, ultima_concat, ejecutar_eq]
    by_cases hc : c.EnRango
    · rw [if_pos hc]
      simp only [outb, nuevo_bit c _ hi, hc, true_and]
      split
      · next he => rw [if_pos he.symm]; rfl
      · next hne => rw [if_neg (Ne.symm hne), ih]
    · rw [if_neg hc, if_neg fun h => hc h.1, ih]

/-- **Before the first call in range the chip has its mask, from then on it has the copy.** -/
lemma mascara_correr (l : List Llamada) : mascara (correr l arranque) =
    if ∃ c ∈ l, c.EnRango then (correr l arranque).tInt else programada := by
  induction l using List.reverseRecOn with
  | nil =>
    rw [if_neg (by simp)]
    rfl
  | append_singleton l c ih =>
    rw [correr_concat, ejecutar_eq]
    by_cases hc : c.EnRango
    · rw [if_pos hc, if_pos ⟨c, by simp, hc⟩, mascara_outb, if_pos rfl]
      rfl
    · have hiff : (∃ c' ∈ l ++ [c], c'.EnRango) ↔ ∃ c' ∈ l, c'.EnRango := by
        simp only [List.mem_append, List.mem_singleton, or_and_right, exists_or, exists_eq_left,
          hc, or_false]
      rw [if_neg hc]
      simp only [hiff]
      exact ih

/-- A line is open just when its last call was `int_up`, or there was none and it was open in the
mask programmed. -/
def Abiertas (l : List Llamada) : Prop :=
  ∀ i < 8, (mascara (correr l arranque)).getLsbD i = false ↔
    ((ultima l i).map not).getD (programada.getLsbD i) = false

lemma cumple_correr (c : Llamada) (l : List Llamada) :
    Cumple c (correr l arranque) ↔ (c.EnRango → ∃ c' ∈ l, c'.EnRango) := by
  rw [cumple_iff, mascara_correr]
  by_cases h : ∃ c' ∈ l, c'.EnRango
  · rw [if_pos h]
    exact iff_of_true (fun _ _ _ _ => rfl) fun _ => h
  · rw [if_neg h]
    refine imp_congr_right fun _ => iff_of_false (fun hall => ?_) h
    have h0 : ∀ i < 8, i ≠ c.linea → programada.getLsbD i = false := by
      intro i hi hne
      rw [← hall i hi hne, tInt_bit l hi, ultima_eq_none fun c' hc' hr => h ⟨c', hc', hr⟩]
      rfl
    -- of the lines masked at the start at least one is not this one
    rcases eq_or_ne c.linea 2 with he | hne
    · exact absurd (h0 3 (by decide) (by omega)) (by decide)
    · exact absurd (h0 2 (by decide) (Ne.symm hne)) (by decide)

lemma abiertas_iff (l : List Llamada) : Abiertas l ↔ (∀ c ∈ l, ¬ c.EnRango) ∨
    ∀ i < 8, programada.getLsbD i = true → (ultima l i).isSome := by
  unfold Abiertas
  rw [mascara_correr]
  by_cases h : ∃ c ∈ l, c.EnRango
  · rw [if_pos h, or_iff_right fun hno => h.elim fun c hc => hno c hc.1 hc.2]
    refine forall₂_congr fun i hi => ?_
    rw [tInt_bit l hi]
    cases ultima l i <;> cases programada.getLsbD i <;> simp
  · have hno : ∀ c ∈ l, ¬ c.EnRango := fun c hc hr => h ⟨c, hc, hr⟩
    rw [if_neg h]
    refine iff_of_true (fun i _ => ?_) (Or.inl hno)
    rw [ultima_eq_none hno]
    rfl

/-- **Discipline of the mask.** In any sequence of calls a call does its duty just when its number
is out of range or a call before it was in range; at the end the lines are as the calls left them
just when no call was in range, or every line masked at the start has had one. All of it holds of
the sequences without a call in range alone. -/
theorem mascara_disciplina (l : List Llamada) :
    (∀ l₁ c l₂, l = l₁ ++ c :: l₂ →
      (Cumple c (correr l₁ arranque) ↔ (c.EnRango → ∃ c' ∈ l₁, c'.EnRango))) ∧
    (Abiertas l ↔ (∀ c ∈ l, ¬ c.EnRango) ∨
      ∀ i < 8, programada.getLsbD i = true → (ultima l i).isSome) ∧
    ((∀ l₁ c l₂, l = l₁ ++ c :: l₂ → Cumple c (correr l₁ arranque)) ∧ Abiertas l ↔
      ∀ c ∈ l, ¬ c.EnRango) := by
  refine ⟨fun l₁ c _ _ => cumple_correr c l₁, abiertas_iff l, fun ⟨hall, _⟩ c hc hr => ?_,
    fun hno => ⟨?_, (abiertas_iff l).mpr (Or.inl hno)⟩⟩
  · -- the first call in range
    obtain ⟨d, hd⟩ : ∃ d, l.find? (fun c => decide c.EnRango) = some d :=
      Option.isSome_iff_exists.mp (List.find?_isSome.mpr ⟨c, hc, decide_eq_true hr⟩)
    obtain ⟨hdr, l₁, l₂, hl, hno⟩ := List.find?_eq_some_iff_append.mp hd
    obtain ⟨c', hc', hr'⟩ := (cumple_correr d l₁).mp (hall l₁ d l₂ hl) (by simpa using hdr)
    have := hno c' hc'
    simp [hr'] at this
  · rintro l₁ c l₂ rfl
    exact (cumple_correr c l₁).mpr fun hr => absurd hr (hno c (by simp))

/-- The first registration, of line 1: all eight lines are opened. -/
theorem mascara_perdida : mascara arranque = 0xdc#8 ∧
    mascara (correr [⟨true, 17#8⟩] arranque) = 0x00#8 ∧ ¬ Cumple ⟨true, 17#8⟩ arranque ∧
    ¬ Abiertas [⟨true, 17#8⟩] := by
  refine ⟨by decide, by decide, fun h => ?_, fun h => ?_⟩
  · have := (h.linea (by decide)).2 2 (by decide)
    exact absurd this (by decide)
  · have := h 2 (by decide)
    exact absurd this (by decide)

end Silicio.Mask
