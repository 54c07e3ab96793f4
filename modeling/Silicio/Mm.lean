import Silicio.Defs

/-!
The page allocator of `mm/mm.c`: a bitmap of physical pages, the two operations that mark
and unmark one page, and the first-fit search for a free one.

A caller finds a page with `buscarMem` and marks it with `setMem` in two separate calls;
`reservar` is that pair repeated, the only way pages are handed out.
-/

namespace Silicio.Mm

open Silicio.Loop Silicio.Bitmap Silicio.Bytes Silicio.Defs

abbrev ocupada (mm : Mm) (p : ℕ) : Bool := bit mm.memMap p

def setMem (mm : Mm) (pagina : ℕ) : ℕ × Mm :=
  let sector := pagina / 8
  let bits := 1#8 <<< (pagina % 8)
  if (mm.memMap sector).setWidth 32 &&& bits.signExtend 32 = 0#32 then
    let byte := ((mm.memMap sector).setWidth 32 ||| bits.signExtend 32).setWidth 8
    (PAG_OK, { mm with memMap := Function.update mm.memMap sector byte })
  else (PAG_ERROR, mm)

def unsetMem (mm : Mm) (pagina : ℕ) : ℕ × Mm :=
  let sector := pagina / 8
  let bits := 1#8 <<< (pagina % 8)
  if (mm.memMap sector).setWidth 32 &&& bits.signExtend 32 ≠ 0#32 then
    let byte := ((mm.memMap sector).setWidth 32 &&& ~~~(bits.signExtend 32)).setWidth 8
    (PAG_OK, { mm with memMap := Function.update mm.memMap sector byte })
  else (PAG_ERROR, mm)

/-- The first byte a search looks at: `(mem_off - 10) / 8`, the difference unsigned. -/
def inicio (mm : Mm) : ℕ := (mm.memOff + 2 ^ 32 - 10) % 2 ^ 32 / 8

def buscarMem (mm : Mm) : ℕ :=
  let fin := mm.memMax / 8
  let i := scan (fun i => mm.memMap i != 0xff#8) (fin - inicio mm) (inicio mm)
  if i = fin then 0
  else
    let mask := scan (fun mask => (mm.memMap i).setWidth 32 &&& 1#32 <<< mask = 0#32) 8 0
    (i * 8 + mask) % 2 ^ 32

/-- Every byte is cleared, those beyond the memory found as well: video memory lies there. -/
def iniMap (mm : Mm) : Mm :=
  { mm with memMap := loop (fun i map => Function.update map i 0) MAP_LEN mm.memMap }

def setMems (a n : ℕ) (mm : Mm) : Mm := loop (fun i mm => (setMem mm (a + i)).2) n mm

/-- The eight pages of video memory left to whichever task asks for them. -/
def pagVideo : ℕ := 0xFC000 / PAG_LEN

def setMemOff (mm : Mm) (pag : ℕ) : Mm := { mm with memOff := pag }

/-- `ini_mm`, given where the kernel image ends and what `testmem` measured. -/
def iniMm (kernelFin ram : ℕ) (mm : Mm) : Mm :=
  let mm := iniMap { mm with memMax := ram }
  -- the first megabyte, then the video pages out of it again
  let mm := setMems 0 (MEGABYTES / PAG_LEN) mm
  let mm := loop (fun i mm => (unsetMem mm (pagVideo + i)).2) 8 mm
  let mm := setMems (KERNEL_INI / PAG_LEN) (kernelFin / PAG_LEN + 1 - KERNEL_INI / PAG_LEN) mm
  let pagKernel := max (KERNEL_INI / PAG_LEN) (kernelFin / PAG_LEN + 1)
  setMems pagKernel (mm.memOff - pagKernel) mm

/-! ### One page -/

section
variable (mm : Mm) (p : ℕ)

lemma setMem_eq : setMem mm p =
    if ocupada mm p then (PAG_ERROR, mm) else (PAG_OK, { mm with memMap := mark mm.memMap p }) := by
  have hiff := and_char_eq_zero (b := mm.memMap (p / 8)) (Nat.mod_lt p (show 0 < 8 by omega))
  unfold setMem
  simp only [or_char]
  by_cases h : bit mm.memMap p = true
  · rw [if_pos h, if_neg]
    intro h0
    have := hiff.mp h0
    simp only [bit] at h
    rw [h] at this
    cases this
  · rw [if_neg h, if_pos (hiff.mpr (by simpa [bit] using h)), mark]

lemma unsetMem_eq : unsetMem mm p =
    if ocupada mm p then (PAG_OK, { mm with memMap := erase mm.memMap p })
    else (PAG_ERROR, mm) := by
  have hiff := and_char_eq_zero (b := mm.memMap (p / 8)) (Nat.mod_lt p (show 0 < 8 by omega))
  unfold unsetMem
  simp only [and_not_char]
  by_cases h : bit mm.memMap p = true
  · rw [if_pos h, if_pos, erase]
    intro h0
    have := hiff.mp h0
    simp only [bit] at h
    rw [h] at this
    cases this
  · rw [if_neg h, if_neg]
    exact fun hc => hc (hiff.mpr (by simpa [bit] using h))

@[simp] lemma ocupada_setMem (q : ℕ) :
    ocupada (setMem mm p).2 q = (ocupada mm q || decide (q = p)) := by
  rw [setMem_eq]
  split
  · next h =>
    rcases eq_or_ne q p with rfl | hne
    · simp [h]
    · simp [hne]
  · simp [ocupada]

@[simp] lemma ocupada_unsetMem (q : ℕ) :
    ocupada (unsetMem mm p).2 q = (ocupada mm q && decide (q ≠ p)) := by
  rw [unsetMem_eq]
  split
  · simp [ocupada]
  · next h =>
    rcases eq_or_ne q p with rfl | hne
    · simpa using h
    · simp [hne]

lemma setMem_fst : (setMem mm p).1 = PAG_OK ↔ ocupada mm p = false := by
  rw [setMem_eq]
  cases ocupada mm p <;> simp

@[simp] lemma setMem_memMax : (setMem mm p).2.memMax = mm.memMax := by
  rw [setMem_eq]; split <;> rfl
@[simp] lemma setMem_memOff : (setMem mm p).2.memOff = mm.memOff := by
  rw [setMem_eq]; split <;> rfl
@[simp] lemma inicio_setMem : inicio (setMem mm p).2 = inicio mm := by
  unfold inicio
  rw [setMem_memOff]
@[simp] lemma unsetMem_memMax : (unsetMem mm p).2.memMax = mm.memMax := by
  rw [unsetMem_eq]; split <;> rfl
@[simp] lemma unsetMem_memOff : (unsetMem mm p).2.memOff = mm.memOff := by
  rw [unsetMem_eq]; split <;> rfl

end

/-! ### The search -/

lemma inicio_of_le {mm : Mm} (h : 10 ≤ mm.memOff) (hlt : mm.memOff < 2 ^ 32) :
    inicio mm = (mm.memOff - 10) / 8 := by
  unfold inicio
  omega

/-- The search in a byte, read as a search among the pages of the byte. -/
lemma mask_scan (mm : Mm) (i : ℕ) :
    scan (fun mask => (mm.memMap i).setWidth 32 &&& 1#32 <<< mask = 0#32) 8 0 =
      scan (fun j => !bit mm.memMap (8 * i + j)) 8 0 := by
  refine scan_congr fun j _ hj => ?_
  have h1 : (8 * i + j) / 8 = i := by omega
  have h2 : (8 * i + j) % 8 = j := by omega
  have hiff := and_int_eq_zero (b := mm.memMap i) (k := j) (by omega)
  rw [bit, h1, h2]
  cases hb : (mm.memMap i).getLsbD j with
  | false => simpa using hiff.mpr hb
  | true =>
    have hne : ¬ ((mm.memMap i).setWidth 32 &&& 1#32 <<< j = 0#32) := fun h0 => by
      rw [hiff.mp h0] at hb
      cases hb
    simpa using hne

/-- **First fit**: over a window inside the bitmap the search returns the least free page of
the window, or 0 when the window is full. -/
theorem buscarMem_spec {mm : Mm} (hw : inicio mm ≤ mm.memMax / 8) (hmax : mm.memMax < 2 ^ 32) :
    (IsLeast {p | 8 * inicio mm ≤ p ∧ p < 8 * (mm.memMax / 8) ∧ ocupada mm p = false}
        (buscarMem mm)) ∨
      (buscarMem mm = 0 ∧
        ∀ p, 8 * inicio mm ≤ p → p < 8 * (mm.memMax / 8) → ocupada mm p = true) := by
  set i := scan (fun i => mm.memMap i != 0xff#8) (mm.memMax / 8 - inicio mm) (inicio mm) with hi
  have hle := scan_le (p := fun i => mm.memMap i != 0xff#8) (mm.memMax / 8 - inicio mm) (inicio mm)
  rcases eq_or_ne i (mm.memMax / 8) with hfin | hfin
  · right
    refine ⟨?_, fun p h1 h2 => ?_⟩
    · unfold buscarMem
      exact if_pos hfin
    · refine scan_full (m := mm.memMap) (n := mm.memMax / 8 - inicio mm) (a := inicio mm) ?_ p h1 ?_
      · rw [← hi]
        omega
      · omega
  · left
    have hlt : i < inicio mm + (mm.memMax / 8 - inicio mm) := by omega
    have hleast := first_fit hi.symm hlt
    have heq : buscarMem mm = 8 * i + scan (fun j => !bit mm.memMap (8 * i + j)) 8 0 := by
      have hb := hleast.1.2.1
      unfold buscarMem
      simp only
      rw [← hi, if_neg hfin, mask_scan, Nat.mod_eq_of_lt (by omega)]
      ring
    rw [heq]
    rwa [show inicio mm + (mm.memMax / 8 - inicio mm) = mm.memMax / 8 by omega] at hleast

lemma buscarMem_libre {mm : Mm} (hw : inicio mm ≤ mm.memMax / 8) (hmax : mm.memMax < 2 ^ 32)
    (h0 : buscarMem mm ≠ 0) :
    8 * inicio mm ≤ buscarMem mm ∧ buscarMem mm < 8 * (mm.memMax / 8) ∧
      ocupada mm (buscarMem mm) = false := by
  rcases buscarMem_spec hw hmax with h | h
  · exact h.1
  · exact absurd h.1 h0

/-- A window that starts past its end: the search looks at one byte only and at no bound. -/
lemma buscarMem_fuera {mm : Mm} (hw : mm.memMax / 8 < inicio mm) :
    buscarMem mm =
      (8 * inicio mm + scan (fun j => !bit mm.memMap (8 * inicio mm + j)) 8 0) % 2 ^ 32 := by
  have hscan : scan (fun i => mm.memMap i != 0xff#8) (mm.memMax / 8 - inicio mm) (inicio mm)
      = inicio mm := by
    rw [show mm.memMax / 8 - inicio mm = 0 by omega]
    rfl
  unfold buscarMem
  simp only
  rw [hscan, if_neg (by omega), mask_scan, Nat.mul_comm]

lemma buscarMem_fuera_spec {mm : Mm} (hw : mm.memMax / 8 < inicio mm) : ∃ s ≤ 8,
    buscarMem mm = (8 * inicio mm + s) % 2 ^ 32 ∧
    (∀ p, 8 * inicio mm ≤ p → p < 8 * inicio mm + s → ocupada mm p = true) ∧
    (s < 8 → ocupada mm (8 * inicio mm + s) = false) := by
  refine ⟨scan (fun j => !bit mm.memMap (8 * inicio mm + j)) 8 0, scan_le _ _, ?_,
    fun p h1 h2 => ?_, fun h8 => ?_⟩
  · exact buscarMem_fuera hw
  · have := before_scan (p := fun j => !bit mm.memMap (8 * inicio mm + j)) (n := 8)
      (Nat.zero_le (p - 8 * inicio mm)) (by omega)
    simpa [show 8 * inicio mm + (p - 8 * inicio mm) = p by omega] using this
  · simpa using at_scan (p := fun j => !bit mm.memMap (8 * inicio mm + j)) (n := 8) (i := 0)
      (by omega)

/-- The search returns the page after the byte when the byte is full. -/
lemma buscarMem_fuera_lleno {mm : Mm} (hw : mm.memMax / 8 < inicio mm)
    (hfull : ∀ p, 8 * inicio mm ≤ p → p < 8 * inicio mm + 8 → ocupada mm p = true) :
    buscarMem mm = (8 * inicio mm + 8) % 2 ^ 32 := by
  obtain ⟨s, hs8, hb, -, hlibre⟩ := buscarMem_fuera_spec hw
  have h8 : s = 8 := by
    by_contra hne
    have := hlibre (by omega)
    rw [hfull _ (by omega) (by omega)] at this
    cases this
  rw [hb, h8]

/-- The free pages a search can return: those of its window or, when the window starts past
its end, those of the nine pages the one byte lets it reach. -/
def candidatas (mm : Mm) : Finset ℕ :=
  (if inicio mm ≤ mm.memMax / 8 then Finset.Ico (8 * inicio mm) (8 * (mm.memMax / 8))
    else Finset.Ico (8 * inicio mm) (min (8 * inicio mm + 9) (2 ^ 32))).filter
      fun p => ocupada mm p = false

lemma libre_of_candidata {mm : Mm} {p : ℕ} (h : p ∈ candidatas mm) : ocupada mm p = false :=
  (Finset.mem_filter.mp h).2

lemma buscarMem_candidatas_fuera {mm : Mm} (hw : mm.memMax / 8 < inicio mm) :
    IsLeast (candidatas mm : Set ℕ) (buscarMem mm) ∨
      candidatas mm = ∅ ∧ (buscarMem mm = 0 ∨ ocupada mm (buscarMem mm) = true) := by
  have hi : 8 * inicio mm + 8 ≤ 2 ^ 32 := by
    unfold inicio
    omega
  have hmem : ∀ p, p ∈ candidatas mm ↔
      (8 * inicio mm ≤ p ∧ p < min (8 * inicio mm + 9) (2 ^ 32)) ∧ ocupada mm p = false := by
    intro p
    unfold candidatas
    rw [if_neg (Nat.not_le.mpr hw), Finset.mem_filter, Finset.mem_Ico]
  obtain ⟨s, hs8, hb, hno, hlibre⟩ := buscarMem_fuera_spec hw
  -- when every page looked at is taken there is no candidate
  have hvacia : (∀ p, 8 * inicio mm ≤ p → p < min (8 * inicio mm + 9) (2 ^ 32) →
      ocupada mm p = true) → candidatas mm = ∅ := by
    intro hall
    refine Finset.eq_empty_of_forall_notMem fun p hp => ?_
    obtain ⟨⟨h1, h3⟩, h2⟩ := (hmem p).mp hp
    rw [hall p h1 h3] at h2
    cases h2
  rcases Nat.lt_or_ge (8 * inicio mm + s) (2 ^ 32) with hlt | hge
  · rw [Nat.mod_eq_of_lt hlt] at hb
    rw [hb]
    cases hocc : ocupada mm (8 * inicio mm + s) with
    | false =>
      refine Or.inl ⟨(hmem _).mpr ⟨⟨by omega, by omega⟩, hocc⟩, fun p hp => ?_⟩
      obtain ⟨⟨h1, -⟩, h2⟩ := (hmem p).mp hp
      by_contra hc
      rw [hno p h1 (by omega)] at h2
      cases h2
    | true =>
      have h8 : s = 8 := by
        by_contra hne
        rw [hlibre (by omega)] at hocc
        cases hocc
      refine Or.inr ⟨hvacia fun p h1 h3 => ?_, Or.inr rfl⟩
      rcases eq_or_ne p (8 * inicio mm + s) with rfl | hne
      · exact hocc
      · exact hno p h1 (by omega)
  · exact Or.inr ⟨hvacia fun p h1 h3 => hno p h1 (by omega), Or.inl (by omega)⟩

/-- **The search and its candidates**: it returns the least of them; without any it returns 0
or a page that is taken. -/
theorem buscarMem_candidatas {mm : Mm} (hmax : mm.memMax < 2 ^ 32) :
    IsLeast (candidatas mm : Set ℕ) (buscarMem mm) ∨
      candidatas mm = ∅ ∧ (buscarMem mm = 0 ∨ ocupada mm (buscarMem mm) = true) := by
  rcases Nat.lt_or_ge (mm.memMax / 8) (inicio mm) with hw | hw
  · exact buscarMem_candidatas_fuera hw
  have hmem : ∀ p, p ∈ candidatas mm ↔
      (8 * inicio mm ≤ p ∧ p < 8 * (mm.memMax / 8)) ∧ ocupada mm p = false := by
    intro p
    unfold candidatas
    rw [if_pos hw, Finset.mem_filter, Finset.mem_Ico]
  rcases buscarMem_spec hw hmax with h | h
  · refine Or.inl ⟨(hmem _).mpr ⟨⟨h.1.1, h.1.2.1⟩, h.1.2.2⟩, fun p hp => ?_⟩
    obtain ⟨⟨h1, h3⟩, h2⟩ := (hmem p).mp hp
    exact h.2 ⟨h1, h3, h2⟩
  · refine Or.inr ⟨Finset.eq_empty_of_forall_notMem fun p hp => ?_, Or.inl h.1⟩
    obtain ⟨⟨h1, h3⟩, h2⟩ := (hmem p).mp hp
    rw [h.2 p h1 h3] at h2
    cases h2

lemma candidatas_setMem (mm : Mm) (p : ℕ) :
    candidatas (setMem mm p).2 = (candidatas mm).erase p := by
  have hi := inicio_setMem mm p
  ext q
  unfold candidatas
  rw [hi, setMem_memMax, Finset.mem_erase, Finset.mem_filter, Finset.mem_filter, ocupada_setMem,
    Bool.or_eq_false_iff, decide_eq_false_iff_not]
  tauto

/-! ### Ranges -/

lemma setMems_ocupada (a n : ℕ) (mm : Mm) (q : ℕ) :
    ocupada (setMems a n mm) q = (ocupada mm q || decide (a ≤ q ∧ q < a + n)) := by
  unfold setMems
  refine loop_rule (fun i t => ocupada t q = (ocupada mm q || decide (a ≤ q ∧ q < a + i))) ?_ ?_
  · rw [decide_eq_false (by omega), Bool.or_false]
  · intro i _ t ht
    rw [ocupada_setMem, ht, Bool.or_assoc, ← Bool.decide_or]
    congr 2
    apply propext
    omega

section
variable (a n : ℕ) (mm : Mm)

@[simp] lemma setMems_memMax : (setMems a n mm).memMax = mm.memMax :=
  loop_frame (fun mm => mm.memMax) (fun _ _ => setMem_memMax _ _) n mm
@[simp] lemma setMems_memOff : (setMems a n mm).memOff = mm.memOff :=
  loop_frame (fun mm => mm.memOff) (fun _ _ => setMem_memOff _ _) n mm
@[simp] lemma inicio_setMems : inicio (setMems a n mm) = inicio mm := by
  unfold inicio
  rw [setMems_memOff]

end

/-! ### The map after `ini_mm` -/

/-- The first page `ini_mm` leaves free above the kernel image and the modules. -/
def primera (kernelFin memOff : ℕ) : ℕ := max memOff (kernelFin / PAG_LEN + 1)

lemma iniMap_ocupada (mm : Mm) {p : ℕ} (hp : p < PAG_MEM) : ocupada (iniMap mm) p = false := by
  have h : (iniMap mm).memMap (p / 8) = 0 := by
    refine (loop_update (fun _ => 0) _ _ _).trans (if_pos ?_)
    simp only [MAP_LEN, PAG_MEM, SEC_MEM] at hp ⊢
    omega
  rw [ocupada, bit, h]
  simp

/-- **What `ini_mm` reserves**: the first megabyte but for four of the eight video pages (the
kernel image lies over the other four), the kernel image, and all pages below `mem_off`. -/
theorem iniMm_ocupada {kernelFin ram : ℕ} {mm : Mm} (hk : KERNEL_INI ≤ kernelFin) {p : ℕ}
    (hp : p < PAG_MEM) :
    ocupada (iniMm kernelFin ram mm) p =
      decide (p < 252 ∨ 256 ≤ p ∧ p < primera kernelFin mm.memOff) := by
  have hun : ∀ mm q, ocupada (loop (fun i mm => (unsetMem mm (pagVideo + i)).2) 8 mm) q =
      (ocupada mm q && decide (¬ (252 ≤ q ∧ q < 252 + 8))) := by
    intro mm q
    refine loop_rule (fun i t => ocupada t q = (ocupada mm q && decide (¬ (252 ≤ q ∧ q < 252 + i))))
      ?_ ?_
    · rw [decide_eq_true (by omega), Bool.and_true]
    · intro i _ t ht
      rw [ocupada_unsetMem, ht, Bool.and_assoc, ← Bool.decide_and]
      congr 2
      apply propext
      simp only [pagVideo, PAG_LEN]
      omega
  have hoff : (loop (fun i mm => (unsetMem mm (pagVideo + i)).2) 8
      (setMems 0 (MEGABYTES / PAG_LEN) (iniMap { mm with memMax := ram }))).memOff = mm.memOff := by
    rw [loop_frame (fun mm : Mm => mm.memOff) (fun _ _ => unsetMem_memOff _ _)]
    simp [iniMap]
  unfold iniMm
  simp only
  rw [setMems_ocupada, setMems_ocupada, hun, setMems_ocupada, iniMap_ocupada _ hp,
    setMems_memOff, hoff, Bool.false_or, ← Bool.decide_and, ← Bool.decide_or, ← Bool.decide_or]
  congr 1
  apply propext
  simp only [primera, KERNEL_INI, MEGABYTES, PAG_LEN] at hk ⊢
  omega

lemma iniMm_memMax (kernelFin ram : ℕ) (mm : Mm) : (iniMm kernelFin ram mm).memMax = ram := by
  unfold iniMm
  simp only [setMems_memMax]
  rw [loop_frame (fun mm : Mm => mm.memMax) (fun _ _ => unsetMem_memMax _ _)]
  simp [iniMap]

lemma iniMm_memOff (kernelFin ram : ℕ) (mm : Mm) :
    (iniMm kernelFin ram mm).memOff = mm.memOff := by
  unfold iniMm
  simp only [setMems_memOff]
  rw [loop_frame (fun mm : Mm => mm.memOff) (fun _ _ => unsetMem_memOff _ _)]
  simp [iniMap]

/-! ### Find, then mark -/

/-- `n` rounds of `buscarMem` and `setMem`: the pages handed out, and the map left. -/
def reservar : ℕ → Mm → List ℕ × Mm
  | 0, mm => ([], mm)
  | n + 1, mm =>
    let p := buscarMem mm
    let r := reservar n (setMem mm p).2
    (p :: r.1, r.2)

lemma reservar_cons (n : ℕ) (mm : Mm) : (reservar (n + 1) mm).1 =
    buscarMem mm :: (reservar n (setMem mm (buscarMem mm)).2).1 := rfl

lemma reservar_succ (n : ℕ) (mm : Mm) :
    (reservar (n + 1) mm).2 = (setMem (reservar n mm).2 (buscarMem (reservar n mm).2)).2 := by
  induction n generalizing mm with
  | zero => simp only [reservar]
  | succ n ih =>
    rw [reservar]
    simp only
    rw [ih, reservar]

lemma reservar_ocupada (n : ℕ) (mm : Mm) (q : ℕ) :
    ocupada (reservar n mm).2 q = true ↔ ocupada mm q = true ∨ q ∈ (reservar n mm).1 := by
  induction n generalizing mm with
  | zero => simp [reservar]
  | succ n ih =>
    rw [show (reservar (n + 1) mm).2 = (reservar n (setMem mm (buscarMem mm)).2).2 from rfl,
      reservar_cons, ih, ocupada_setMem, List.mem_cons, Bool.or_eq_true, decide_eq_true_eq,
      or_assoc]

@[simp] lemma reservar_memMax (n : ℕ) (mm : Mm) : (reservar n mm).2.memMax = mm.memMax := by
  induction n generalizing mm with
  | zero => rfl
  | succ n ih => rw [reservar_succ, setMem_memMax, ih]

@[simp] lemma reservar_memOff (n : ℕ) (mm : Mm) : (reservar n mm).2.memOff = mm.memOff := by
  induction n generalizing mm with
  | zero => rfl
  | succ n ih => rw [reservar_succ, setMem_memOff, ih]

/-- **What `n` rounds hand out** is `n` distinct pages, none of them 0 and all of them free
before, just when the search has `n` candidates and 0 is not the first. -/
theorem reservar_iff {n : ℕ} {mm : Mm} (hmax : mm.memMax < 2 ^ 32) :
    ((reservar n mm).1.Nodup ∧ ∀ p ∈ (reservar n mm).1, p ≠ 0 ∧ ocupada mm p = false) ↔
      n ≤ (candidatas mm).card ∧ (n ≠ 0 → 0 ∉ candidatas mm) := by
  induction n generalizing mm with
  | zero => simp [reservar]
  | succ n ih =>
    have ih' := @ih (setMem mm (buscarMem mm)).2 (by rwa [setMem_memMax])
    rw [candidatas_setMem] at ih'
    rw [reservar_cons, List.nodup_cons, List.forall_mem_cons]
    set cola := (reservar n (setMem mm (buscarMem mm)).2).1
    constructor
    · rintro ⟨⟨hnot, hnd⟩, ⟨hp0, hpf⟩, hall⟩
      obtain ⟨hin, hle⟩ : IsLeast (candidatas mm : Set ℕ) (buscarMem mm) := by
        rcases buscarMem_candidatas hmax with h | ⟨-, h | h⟩
        · exact h
        · exact absurd h hp0
        · rw [h] at hpf
          cases hpf
      obtain ⟨hcard, -⟩ := ih'.mp ⟨hnd, fun q hq => ⟨(hall q hq).1, by
        rw [ocupada_setMem, (hall q hq).2, Bool.false_or, decide_eq_false_iff_not]
        rintro rfl
        exact hnot hq⟩⟩
      rw [Finset.card_erase_of_mem hin] at hcard
      have hpos := Finset.card_pos.mpr ⟨_, hin⟩
      refine ⟨by omega, fun _ h0 => hp0 ?_⟩
      exact Nat.le_zero.mp (hle h0)
    · rintro ⟨hcard, h0⟩
      have h0 := h0 (by omega)
      obtain ⟨hin, -⟩ : IsLeast (candidatas mm : Set ℕ) (buscarMem mm) := by
        rcases buscarMem_candidatas hmax with h | ⟨h, -⟩
        · exact h
        · rw [h, Finset.card_empty] at hcard
          omega
      obtain ⟨hnd, hall⟩ := ih'.mpr
        ⟨by rw [Finset.card_erase_of_mem hin]; omega, fun _ h => h0 (Finset.mem_of_mem_erase h)⟩
      have hall' : ∀ q ∈ cola, q ≠ 0 ∧ ocupada mm q = false ∧ q ≠ buscarMem mm := by
        intro q hq
        obtain ⟨hq0, hqf⟩ := hall q hq
        rw [ocupada_setMem, Bool.or_eq_false_iff, decide_eq_false_iff_not] at hqf
        exact ⟨hq0, hqf⟩
      refine ⟨⟨fun h => (hall' _ h).2.2 rfl, hnd⟩, ⟨?_, libre_of_candidata hin⟩,
        fun q hq => ⟨(hall' q hq).1, (hall' q hq).2.1⟩⟩
      intro he
      rw [he] at hin
      exact h0 hin

/-- A free page that is handed out was a candidate, or the searches had failed. -/
lemma candidata_of_reservar {n q : ℕ} {mm : Mm} (hmax : mm.memMax < 2 ^ 32)
    (hq : q ∈ (reservar n mm).1) (hfree : ocupada mm q = false) : q ∈ candidatas mm ∨ q = 0 := by
  induction n generalizing mm with
  | zero => cases hq
  | succ n ih =>
    by_cases hb : q = buscarMem mm
    · rcases buscarMem_candidatas hmax with h | ⟨-, h | h⟩
      · exact Or.inl (hb ▸ h.1)
      · exact Or.inr (hb.trans h)
      · rw [← hb, hfree] at h
        cases h
    · rw [reservar_cons] at hq
      have hq := (List.mem_cons.mp hq).resolve_left hb
      have hfree' : ocupada (setMem mm (buscarMem mm)).2 q = false := by
        rw [ocupada_setMem, hfree, decide_eq_false hb]
        rfl
      refine (ih (by rwa [setMem_memMax]) hq hfree').imp_left fun hin => ?_
      rw [candidatas_setMem] at hin
      exact Finset.mem_of_mem_erase hin

lemma reservar_of_candidata {n q : ℕ} {mm : Mm} (hmax : mm.memMax < 2 ^ 32) (hq : q ∈ candidatas mm)
    (hn : ((candidatas mm).filter (· < q)).card < n) : q ∈ (reservar n mm).1 := by
  induction n generalizing mm with
  | zero => exact absurd hn (Nat.not_lt_zero _)
  | succ n ih =>
    rw [reservar_cons]
    have hleast : IsLeast (candidatas mm : Set ℕ) (buscarMem mm) := by
      rcases buscarMem_candidatas hmax with h | ⟨h, -⟩
      · exact h
      · rw [h] at hq
        exact absurd hq (Finset.notMem_empty q)
    rcases (hleast.2 hq).eq_or_lt with he | hlt
    · exact he ▸ List.mem_cons_self
    · have hbelow : buscarMem mm ∈ (candidatas mm).filter (· < q) :=
        Finset.mem_filter.mpr ⟨hleast.1, hlt⟩
      have hpos := Finset.card_pos.mpr ⟨_, hbelow⟩
      refine List.mem_cons_of_mem _ (ih (by rwa [setMem_memMax]) ?_ ?_)
      · rw [candidatas_setMem]
        exact Finset.mem_erase.mpr ⟨hlt.ne', hq⟩
      · rw [candidatas_setMem, Finset.filter_erase, Finset.card_erase_of_mem hbelow]
        omega

/-- With fewer than `n` candidates in its window the search fails in `n` rounds. -/
lemma cero_of_reservar {n : ℕ} {mm : Mm} (hw : inicio mm ≤ mm.memMax / 8)
    (hmax : mm.memMax < 2 ^ 32) (hn : (candidatas mm).card < n) : 0 ∈ (reservar n mm).1 := by
  induction n generalizing mm with
  | zero => exact absurd hn (Nat.not_lt_zero _)
  | succ n ih =>
    rw [reservar_cons]
    rcases eq_or_ne (buscarMem mm) 0 with h0 | h0
    · rw [h0]
      exact List.mem_cons_self
    · have hi := inicio_setMem mm (buscarMem mm)
      refine List.mem_cons_of_mem _ (ih (by rwa [hi, setMem_memMax]) (by rwa [setMem_memMax]) ?_)
      obtain ⟨h1, h2, h3⟩ := buscarMem_libre hw hmax h0
      have hin : buscarMem mm ∈ candidatas mm := by
        unfold candidatas
        rw [if_pos hw]
        exact Finset.mem_filter.mpr ⟨Finset.mem_Ico.mpr ⟨h1, h2⟩, h3⟩
      have hpos := Finset.card_pos.mpr ⟨_, hin⟩
      rw [candidatas_setMem, Finset.card_erase_of_mem hin]
      omega

lemma reservar_libres {n : ℕ} {mm : Mm} (hw : inicio mm ≤ mm.memMax / 8) (hmax : mm.memMax < 2 ^ 32)
    (h0 : 0 ∉ (reservar n mm).1) : (reservar n mm).1.Nodup ∧
      ∀ p ∈ (reservar n mm).1, ocupada mm p = false ∧ p < 8 * (mm.memMax / 8) := by
  induction n generalizing mm with
  | zero => exact ⟨List.nodup_nil, fun p hp => absurd hp List.not_mem_nil⟩
  | succ n ih =>
    rw [reservar_cons, List.mem_cons, not_or] at h0
    obtain ⟨-, hlt, hfree⟩ := buscarMem_libre hw hmax (Ne.symm h0.1)
    have hi := inicio_setMem mm (buscarMem mm)
    obtain ⟨hnd, hall⟩ := ih (by rwa [hi, setMem_memMax]) (by rwa [setMem_memMax]) h0.2
    have hall' : ∀ q ∈ (reservar n (setMem mm (buscarMem mm)).2).1,
        q ≠ buscarMem mm ∧ ocupada mm q = false ∧ q < 8 * (mm.memMax / 8) := by
      intro q hq
      obtain ⟨hf, hl⟩ := hall q hq
      rw [ocupada_setMem, Bool.or_eq_false_iff, decide_eq_false_iff_not] at hf
      rw [setMem_memMax] at hl
      exact ⟨hf.2, hf.1, hl⟩
    rw [reservar_cons]
    refine ⟨List.nodup_cons.mpr ⟨fun hc => (hall' _ hc).1 rfl, hnd⟩, fun q hq => ?_⟩
    rcases List.mem_cons.mp hq with rfl | hq
    · exact ⟨hfree, hlt⟩
    · exact (hall' q hq).2

/-- Past its window the search hands out one page again and again. -/
lemma reservar_fuera {n : ℕ} {mm : Mm} (hw : mm.memMax / 8 < inicio mm)
    (hfull : ∀ p, 8 * inicio mm ≤ p → p < 8 * inicio mm + 8 → ocupada mm p = true) :
    (reservar n mm).1 = List.replicate n ((8 * inicio mm + 8) % 2 ^ 32) := by
  induction n generalizing mm with
  | zero => rfl
  | succ n ih =>
    have hb := buscarMem_fuera_lleno hw hfull
    have hi := inicio_setMem mm (buscarMem mm)
    have := @ih (setMem mm (buscarMem mm)).2 (by rwa [hi, setMem_memMax]) fun p h1 h2 => by
      rw [hi] at h1 h2
      rw [ocupada_setMem, hfull p h1 h2, Bool.true_or]
    rw [reservar_cons, this, hi, hb, List.replicate_succ]

/-- The map is full up to `x` over the window of the search, and free from there on. -/
structure Lleno (mm : Mm) (x : ℕ) : Prop where
  desde : 8 * inicio mm ≤ x
  lleno : ∀ p < PAG_MEM, 8 * inicio mm ≤ p → (ocupada mm p = true ↔ p < x)

lemma Lleno.buscar {mm : Mm} {x : ℕ} (h : Lleno mm x) (hx : x < 8 * (mm.memMax / 8))
    (hmax : mm.memMax ≤ PAG_MEM) : buscarMem mm = x := by
  have hxm : x < PAG_MEM := by omega
  have hmax' : mm.memMax < 2 ^ 32 := by
    simp only [PAG_MEM] at hmax
    omega
  have hlibre : ocupada mm x = false := by
    by_contra hc
    have := (h.lleno x hxm h.desde).mp (by simpa using hc)
    omega
  have hd := h.desde
  rcases buscarMem_spec (by omega) hmax' with hs | hs
  · have hle : buscarMem mm ≤ x := hs.2 ⟨h.desde, hx, hlibre⟩
    by_contra hne
    have := (h.lleno _ (by omega) hs.1.1).mpr (by omega)
    rw [hs.1.2.2] at this
    cases this
  · have := hs.2 x h.desde hx
    rw [hlibre] at this
    cases this

lemma Lleno.marcar {mm : Mm} {x : ℕ} (h : Lleno mm x) : Lleno (setMem mm x).2 (x + 1) := by
  have hi := inicio_setMem mm x
  have hd := h.desde
  refine ⟨by omega, fun p hp hdp => ?_⟩
  rw [hi] at hdp
  rw [ocupada_setMem, Bool.or_eq_true, h.lleno p hp hdp, decide_eq_true_eq]
  omega

lemma Lleno.lt_of_buscar {mm : Mm} {x : ℕ} (h : Lleno mm x) (hw : inicio mm ≤ mm.memMax / 8)
    (hmax : mm.memMax ≤ PAG_MEM) (h0 : buscarMem mm ≠ 0) : x < 8 * (mm.memMax / 8) := by
  have hm := hmax
  simp only [PAG_MEM] at hm
  obtain ⟨h1, h2, h3⟩ := buscarMem_libre hw (by omega) h0
  by_contra hc
  rw [(h.lleno _ (by simp only [PAG_MEM]; omega) h1).mpr (by omega)] at h3
  cases h3

lemma Lleno.cabe {mm : Mm} {x n : ℕ} (h : Lleno mm x) (hw : inicio mm ≤ mm.memMax / 8)
    (hmax : mm.memMax ≤ PAG_MEM) (h0 : 0 ∉ (reservar (n + 1) mm).1) :
    x + (n + 1) ≤ 8 * (mm.memMax / 8) := by
  have hb : buscarMem mm ≠ 0 := fun he => h0 (by rw [reservar, he]; exact List.mem_cons_self)
  have hx := h.lt_of_buscar hw hmax hb
  induction n generalizing mm x with
  | zero => exact hx
  | succ n ih =>
    have hi := inicio_setMem mm x
    have hcola : 0 ∉ (reservar (n + 1) (setMem mm x).2).1 := fun hc => h0 (by
      rw [reservar, h.buscar hx hmax]
      exact List.mem_cons_of_mem _ hc)
    have hb' : buscarMem (setMem mm x).2 ≠ 0 := fun he =>
      hcola (by rw [reservar, he]; exact List.mem_cons_self)
    have hw' : inicio (setMem mm x).2 ≤ (setMem mm x).2.memMax / 8 := by rwa [hi, setMem_memMax]
    have hmax' : (setMem mm x).2.memMax ≤ PAG_MEM := by rwa [setMem_memMax]
    have := ih h.marcar hw' hmax' hcola hb' (h.marcar.lt_of_buscar hw' hmax' hb')
    rw [setMem_memMax] at this
    omega

end Silicio.Mm
