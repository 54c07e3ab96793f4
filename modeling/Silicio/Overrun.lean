import Silicio.Turns

/-!
`sys_mem` past the map of pages.

The page a task asks for is not looked at, and `mem_map` has a bit for the first 2^20. In the kernel
as it is linked `r_drv` comes next: the call takes a bit of a slot for that of the page, and sets
it.
-/

namespace Silicio.Overrun

open Silicio.Bitmap Silicio.Bytes Silicio.Defs Silicio.Registry Silicio.Runs Silicio.Syscall
open Silicio.Contained
open Silicio.Turns (Maquina Evento Contenido)

def EnRDrv (p : ℕ) : Prop := MAP_LEN ≤ p / 8 ∧ p / 8 < MAP_LEN + DRV_LEN * MAX_DRIVERS

instance (p : ℕ) : Decidable (EnRDrv p) := inferInstanceAs (Decidable (_ ∧ _))

/-- A slot with bit `id` of its byte `j` set. -/
def marcarDrv (j id : ℕ) (d : Drv) : Drv :=
  if j < MAX_STRING then { d with arch := Function.update d.arch j (d.arch j ||| 1#8 <<< id) }
  else
    let con (x : ℕ) := x ||| 2 ^ (8 * (j % 4) + id)
    match (j - MAX_STRING) / 4 with
    | 0 => { d with idDrv := con d.idDrv }
    | 1 => { d with buf := con d.buf }
    | 2 => { d with bufRet := con d.bufRet }
    | 3 => { d with size := con d.size }
    | 4 => { d with idRet := con d.idRet }
    | 5 => { d with call := con d.call }
    | 6 => { d with sys := con d.sys }
    | _ => d

def marcar (o id : ℕ) (r : ℕ → Drv) : ℕ → Drv :=
  Function.update r (o / DRV_LEN) (marcarDrv (o % DRV_LEN) id (r (o / DRV_LEN)))

/-- `set_mem` of a page whose byte is in `r_drv`. -/
def setMem (r : ℕ → Drv) (pagina : ℕ) : ℕ × (ℕ → Drv) :=
  let sector := pagina / 8 - MAP_LEN
  let bits := 1#8 <<< (pagina % 8)
  if (bytesDrv r 0 sector).setWidth 32 &&& bits.signExtend 32 = 0#32 then
    (PAG_OK, marcar sector (pagina % 8) r)
  else (PAG_ERROR, r)

def sysMem (ebx : ℕ) (k : Kernel) : ℤ × Kernel :=
  let s := setMem k.rDrv ebx
  if s.1 = PAG_OK then (entero ebx, { k with mem := conceder ebx k, rDrv := s.2 }) else (-3, k)

def llamar (t : ℕ) (r : Regs) (k : Kernel) : Kernel := guardar (sysMem r.ebx (entrar t r k))

/-- One step: as `Contenido` has it, or a call of `sys_mem` whose page has its bit in `r_drv`. -/
inductive Paso (kernelFin : ℕ) : Maquina → Evento → Maquina → Prop
  | contenido {s s' : Maquina} {e : Evento} (h : Contenido kernelFin s e s') : Paso kernelFin s e s'
  | fuera {k : Kernel} {t : ℕ} {r : Regs} (hr : r.eax = SYS_MEM) (hp : EnRDrv r.ebx)
      (himagen : ∀ j < 4, Fuera kernelFin ((dirDe r.ebx (entrar t r k) + j) % 2 ^ 32) ∧
        Fuera kernelFin ((tabDe r.ebx (entrar t r k) + j) % 2 ^ 32)) :
      Paso kernelFin (k, some t) (.llamada t r) (llamar t r k, none)

def EnMapa : Evento → Prop
  | .llamada _ r => r.eax = SYS_MEM → r.ebx < PAG_MEM
  | _ => True

variable {s s' : Maquina} {e : Evento} {r : ℕ → Drv} {d : Drv} {kernelFin o id j t : ℕ}

/-- A page in the map is granted as `Contenido` has it. -/
lemma Paso.contenida (h : Paso kernelFin s e s') (he : EnMapa e) : Contenido kernelFin s e s' := by
  cases h with
  | contenido h => exact h
  | @fuera k t r hr hp =>
    have hlt : r.ebx < PAG_MEM := he hr
    have hge := hp.1
    simp only [PAG_MEM, MAP_LEN, SEC_MEM] at hlt hge
    omega

lemma enMapa_contenido (h : Contenido kernelFin s e s') : EnMapa e := by
  cases h with
  | llamada _ hc => exact hc.mapa
  | turno | setPort | unsetPort | escritura => trivial

/-! ### The bit in the bytes of the table -/

lemma byte_or (x q q' : ℕ) (hid : id < 8) :
    BitVec.ofNat 8 ((x ||| 2 ^ (8 * q + id)) / 2 ^ (8 * q')) =
    if q' = q then BitVec.ofNat 8 (x / 2 ^ (8 * q')) ||| 1#8 <<< id
    else BitVec.ofNat 8 (x / 2 ^ (8 * q')) := by
  refine BitVec.eq_of_getLsbD_eq fun i hi => ?_
  have hbit : (BitVec.ofNat 8 ((x ||| 2 ^ (8 * q + id)) / 2 ^ (8 * q'))).getLsbD i =
      (x.testBit (8 * q' + i) || decide (8 * q' + i = 8 * q + id)) := by
    rw [BitVec.getLsbD_ofNat, Nat.testBit_div_two_pow, Nat.testBit_or, Nat.testBit_two_pow]
    simp [hi, eq_comm, Nat.add_comm]
  have hbit' : (BitVec.ofNat 8 (x / 2 ^ (8 * q'))).getLsbD i = x.testBit (8 * q' + i) := by
    rw [BitVec.getLsbD_ofNat, Nat.testBit_div_two_pow]
    simp [hi, Nat.add_comm]
  rw [hbit]
  split
  · next hq =>
    rw [BitVec.getLsbD_or, hbit', getLsbD_mask hi, hq]
    congr 1
    simp
  · next hq =>
    rw [hbit', decide_eq_false (by omega), Bool.or_false]

def palabras (d : Drv) : List ℕ := [d.idDrv, d.buf, d.bufRet, d.size, d.idRet, d.call, d.sys]

lemma byteDrv_palabra (d : Drv) (hj : MAX_STRING ≤ j) : byteDrv d j =
    BitVec.ofNat 8 ((palabras d).getD ((j - MAX_STRING) / 4) 0 / 2 ^ (8 * (j % 4))) :=
  if_neg (Nat.not_lt.mpr hj)

lemma palabras_marcar (d : Drv) (hj : MAX_STRING ≤ j) {q : ℕ} (hq : (j - MAX_STRING) / 4 = q)
    (h7 : q < 7) : palabras (marcarDrv j id d) =
      (palabras d).set q ((palabras d).getD q 0 ||| 2 ^ (8 * (j % 4) + id)) := by
  unfold marcarDrv
  rw [if_neg (Nat.not_lt.mpr hj)]
  simp only [hq]
  obtain rfl | rfl | rfl | rfl | rfl | rfl | rfl :
    q = 0 ∨ q = 1 ∨ q = 2 ∨ q = 3 ∨ q = 4 ∨ q = 5 ∨ q = 6 := by omega
  all_goals rfl

lemma byteDrv_marcar (d : Drv) (hj : j < DRV_LEN) (hid : id < 8) (j' : ℕ) :
    byteDrv (marcarDrv j id d) j' =
      if j' = j then byteDrv d j' ||| 1#8 <<< id else byteDrv d j' := by
  rcases Nat.lt_or_ge j MAX_STRING with ha | ha
  · have hm : marcarDrv j id d =
        { d with arch := Function.update d.arch j (d.arch j ||| 1#8 <<< id) } := if_pos ha
    rw [hm]
    unfold byteDrv
    split
    · simp only [Function.update_apply]
      split
      · next h => rw [h]
      · rfl
    · rw [if_neg (by omega)]
  · rcases Nat.lt_or_ge j' MAX_STRING with ha' | ha'
    · rw [if_neg (by omega)]
      have harch : (marcarDrv j id d).arch = d.arch := by
        unfold marcarDrv
        rw [if_neg (Nat.not_lt.mpr ha)]
        split <;> rfl
      unfold byteDrv
      rw [if_pos ha', if_pos ha', harch]
    · have h7 : (j - MAX_STRING) / 4 < 7 := by
        simp only [DRV_LEN, MAX_STRING] at hj ⊢
        omega
      rw [byteDrv_palabra _ ha', byteDrv_palabra _ ha', palabras_marcar d ha rfl h7]
      by_cases hq : (j' - MAX_STRING) / 4 = (j - MAX_STRING) / 4
      · have hl : (j - MAX_STRING) / 4 < (palabras d).length := h7
        have hjj : j' % 4 = j % 4 ↔ j' = j := by
          simp only [MAX_STRING] at ha ha' hq
          omega
        rw [hq, List.getD_eq_getElem?_getD, List.getElem?_set_self hl, Option.getD_some,
          byte_or _ _ _ hid]
        simp only [hjj]
      · rw [List.getD_eq_getElem?_getD, List.getElem?_set_ne (Ne.symm hq),
          ← List.getD_eq_getElem?_getD, if_neg (by rintro rfl; exact hq rfl)]

/-- **One bit of the table is set**, and no other. -/
theorem bytesDrv_marcar (r : ℕ → Drv) (hid : id < 8) (j : ℕ) : bytesDrv (marcar o id r) 0 j =
    if j = o then bytesDrv r 0 j ||| 1#8 <<< id else bytesDrv r 0 j := by
  have hlt : o % DRV_LEN < DRV_LEN := Nat.mod_lt _ (by decide)
  have hd := Nat.div_add_mod j DRV_LEN
  have hd' := Nat.div_add_mod o DRV_LEN
  unfold bytesDrv marcar
  rw [Nat.zero_add]
  by_cases hi : j / DRV_LEN = o / DRV_LEN
  · have hjo : j % DRV_LEN = o % DRV_LEN ↔ j = o := by
      rw [hi] at hd
      omega
    rw [hi, Function.update_self, byteDrv_marcar _ hlt hid]
    simp only [hjo]
  · rw [Function.update_of_ne hi, if_neg (by rintro rfl; exact hi rfl)]

lemma setMem_eq (r : ℕ → Drv) (p : ℕ) : setMem r p =
    if (bytesDrv r 0 (p / 8 - MAP_LEN)).getLsbD (p % 8) then (PAG_ERROR, r)
    else (PAG_OK, marcar (p / 8 - MAP_LEN) (p % 8) r) := by
  unfold setMem
  simp only [and_char_eq_zero (Nat.mod_lt p (show 0 < 8 by decide))]
  cases (bytesDrv r 0 (p / 8 - MAP_LEN)).getLsbD (p % 8) <;> rfl

lemma llamar_libre {r : Regs} {k : Kernel}
    (h : (bytesDrv k.rDrv 0 (r.ebx / 8 - MAP_LEN)).getLsbD (r.ebx % 8) = false) :
    Marco k (llamar t r k) ∧ (llamar t r k).rTareas = k.rTareas ∧ (llamar t r k).tIndice = t ∧
      (llamar t r k).mem = conceder r.ebx (entrar t r k) ∧
      (llamar t r k).rDrv = marcar (r.ebx / 8 - MAP_LEN) (r.ebx % 8) k.rDrv := by
  have hs : sysMem r.ebx (entrar t r k) = (entero r.ebx, { entrar t r k with
      mem := conceder r.ebx (entrar t r k)
      rDrv := marcar (r.ebx / 8 - MAP_LEN) (r.ebx % 8) k.rDrv }) := by
    unfold sysMem
    rw [entrar_rDrv, setMem_eq, h]
    rfl
  unfold llamar
  rw [hs]
  refine ⟨?_, rfl, rfl, rfl, rfl⟩
  exact (entrar_marco t r k).trans (guardar_marco (marco_resto _ _ _ _))

end Silicio.Overrun
