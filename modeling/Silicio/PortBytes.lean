import Silicio.Fast
import Silicio.Ports

/-!
The calls on ports, in the memory the linker lays out.

Both maps have a byte for eight ports and 256 bytes, and the number of a port is not looked at: of
the 8192 bytes a port can name, all but the first 256 belong to what the linker put after the maps.
`Ports` has the calls below that bound.
-/

namespace Silicio.PortBytes

open Silicio.Bitmap Silicio.Bytes Silicio.Defs Silicio.Fast

/-- Where the linker puts the variables of the calls. The tables of the TSSs and of the ports do not
meet, and neither meets what is found through a null `tss*`. -/
structure Enlace where
  rPort : ℕ
  tIndice : ℕ
  tssP : ℕ
  rTareas : ℕ
  hPort : TSS_LEN ≤ rPort ∧ rPort + TSS_PORT ≤ 2 ^ 32
  hTss : TSS_LEN ≤ tssP ∧ tssP + TSS_LEN * MAX_TASK ≤ 2 ^ 32
  aparte : rPort + TSS_PORT ≤ tssP ∨ tssP + TSS_LEN * MAX_TASK ≤ rPort

/-- Memory, and the addresses that have been read or written through the two maps. -/
structure Rastro where
  mem : Mem
  accesos : List ℕ

/-- `*a`, where only its value matters. -/
def Rastro.mira (a : ℕ) (s : Rastro) : Rastro := { s with accesos := a % 2 ^ 32 :: s.accesos }

def Rastro.cambia (a : ℕ) (f : Byte → Byte) (s : Rastro) : Rastro :=
  ⟨wr8 s.mem a (f (rd8 s.mem a)), a % 2 ^ 32 :: s.accesos⟩

def taskTss (l : Enlace) (m : Mem) : ℕ :=
  rd32 m (l.rTareas + RUN_LEN * rd32 m l.tIndice + RUN_TSS)

def setPort (l : Enlace) (p : BitVec 16) (s : Rastro) : ℤ × Rastro :=
  let aux := p.toNat / 8
  let id := p.toNat % 8
  let b := rd8 s.mem (l.rPort + aux)
  let s := s.mira (l.rPort + aux)
  if ¬ (b ≠ 0#8 ∧ 1#32 <<< id ≠ 0#32) then (-1, s)
  else
    let t := taskTss l s.mem
    let ioMap := t + TSS_IOBP
    let s := s.cambia (l.rPort + aux) fun b => b &&& ~~~(1#8 <<< id)
    let s := s.cambia (ioMap + aux) fun b => b &&& ~~~(1#8 <<< id)
    (0, s)

/-- `unset_port`; of its four `printk` only what they look at is here. -/
def unsetPort (l : Enlace) (p : BitVec 16) (s : Rastro) : ℤ × Rastro :=
  let aux := p.toNat / 8
  let id := p.toNat % 8
  let t := taskTss l s.mem
  let ioMap := t + TSS_IOBP
  let b := rd8 s.mem (ioMap + aux)
  let s := s.mira (ioMap + aux)
  if ¬ (~~~(b.setWidth 32) ≠ 0#32 ∧ 1#32 <<< id ≠ 0#32) then (-1, s)
  else
    let s := (s.mira (l.rPort + aux)).mira (ioMap + aux)
    let s := s.cambia (l.rPort + aux) fun b => b ||| 1#8 <<< id
    let s := s.cambia (ioMap + aux) fun b => b ||| 1#8 <<< id
    let s := (s.mira (l.rPort + aux)).mira (ioMap + aux)
    (0, s)

/-- The caller has an entry of `tss_p`, or none. -/
def Llamador (l : Enlace) (m : Mem) : Prop :=
  taskTss l m = 0 ∨ ∃ j < MAX_TASK, taskTss l m = l.tssP + TSS_LEN * j

def EnMapa (base a : ℕ) : Prop := ∃ j < TSS_PORT, a % 2 ^ 32 = (base + j) % 2 ^ 32

/-- What a call on port `p` owes: it looks at the two maps only and changes the bit of `p` there
only, so neither `fin` nor a TSS of another task; and a port without a bit is refused. -/
structure Cumple (l : Enlace) (p : BitVec 16) (m : Mem) (r : ℤ × Rastro) : Prop where
  accesos : ∀ a ∈ r.2.accesos, EnMapa l.rPort a ∨ EnMapa (taskTss l m + TSS_IOBP) a
  bits : ∀ a i, (rd8 r.2.mem a).getLsbD i ≠ (rd8 m a).getLsbD i → i = p.toNat % 8 ∧
    p.toNat / 8 < TSS_PORT ∧ (a % 2 ^ 32 = (l.rPort + p.toNat / 8) % 2 ^ 32 ∨
      a % 2 ^ 32 = (taskTss l m + TSS_IOBP + p.toNat / 8) % 2 ^ 32)
  fin : rd8 r.2.mem (taskTss l m + TSS_IOBP + TSS_PORT) =
    rd8 m (taskTss l m + TSS_IOBP + TSS_PORT)
  ajenas : ∀ j < MAX_TASK, taskTss l m ≠ l.tssP + TSS_LEN * j → ∀ o < TSS_LEN,
    rd8 r.2.mem (l.tssP + TSS_LEN * j + o) = rd8 m (l.tssP + TSS_LEN * j + o)
  rechaza : 8 * TSS_PORT ≤ p.toNat → r.1 = -1 ∧ r.2.mem = m

variable {l : Enlace} {p : BitVec 16} {m : Mem} {f : Byte → Byte} {a i j : ℕ}

/-! ### Where the two bytes of a port are -/

/-- A pointer to a TSS does not reach the end of memory, nor the map of the ports. -/
lemma Llamador.lugar (h : Llamador l m) : taskTss l m + TSS_LEN ≤ 2 ^ 32 ∧
    (l.rPort + TSS_PORT ≤ taskTss l m ∨ taskTss l m + TSS_LEN ≤ l.rPort) := by
  have hp := l.hPort
  have ht := l.hTss
  have hs := l.aparte
  rcases h with h0 | ⟨j, hj, he⟩
  · simp only [TSS_LEN, TSS_PORT, h0] at hp ⊢
    omega
  · simp only [TSS_LEN, TSS_PORT, MAX_TASK] at hp ht hs hj he ⊢
    omega

lemma rd8_cambia (s : Rastro) {x y : ℕ} (hxy : x % 2 ^ 32 ≠ y % 2 ^ 32) (a : ℕ) :
    rd8 ((s.cambia x f).cambia y f).mem a =
      if a % 2 ^ 32 = x % 2 ^ 32 ∨ a % 2 ^ 32 = y % 2 ^ 32 then f (rd8 s.mem a)
      else rd8 s.mem a := by
  unfold Rastro.cambia
  simp only [rd8_wr8]
  by_cases hy : a % 2 ^ 32 = y % 2 ^ 32
  · rw [if_pos hy, if_pos (Or.inr hy), if_neg hxy.symm, ← rd8_mod s.mem y, ← hy, rd8_mod]
  · rw [if_neg hy]
    by_cases hx : a % 2 ^ 32 = x % 2 ^ 32
    · rw [if_pos hx, if_pos (Or.inl hx), ← rd8_mod s.mem x, ← hx, rd8_mod]
    · rw [if_neg hx, if_neg (not_or.mpr ⟨hx, hy⟩)]

/-! ### The two calls -/

def Tocada (l : Enlace) (p : BitVec 16) (m : Mem) (f : Byte → Byte) (m' : Mem) : Prop :=
  ∀ a, rd8 m' a = if a % 2 ^ 32 = (l.rPort + p.toNat / 8) % 2 ^ 32 ∨
    a % 2 ^ 32 = (taskTss l m + TSS_IOBP + p.toNat / 8) % 2 ^ 32 then f (rd8 m a) else rd8 m a

lemma Llamador.bytes_ne (hm : Llamador l m) (p : BitVec 16) :
    (l.rPort + p.toNat / 8) % 2 ^ 32 ≠ (taskTss l m + TSS_IOBP + p.toNat / 8) % 2 ^ 32 := by
  obtain ⟨hlim, hlug⟩ := hm.lugar
  have hPort := l.hPort
  simp only [TSS_LEN, TSS_PORT, TSS_IOBP] at *
  omega

lemma setPort_eq (l : Enlace) (p : BitVec 16) (m : Mem) : setPort l p ⟨m, []⟩ =
    if rd8 m (l.rPort + p.toNat / 8) = 0#8 then (-1, Rastro.mira (l.rPort + p.toNat / 8) ⟨m, []⟩)
    else (0, ((Rastro.mira (l.rPort + p.toNat / 8) ⟨m, []⟩).cambia (l.rPort + p.toNat / 8)
      fun b => b &&& ~~~(1#8 <<< (p.toNat % 8))).cambia (taskTss l m + TSS_IOBP + p.toNat / 8)
        fun b => b &&& ~~~(1#8 <<< (p.toNat % 8))) := by
  unfold setPort
  simp only
  by_cases h : rd8 m (l.rPort + p.toNat / 8) = 0#8
  · rw [if_pos h, if_pos fun hc => hc.1 h]
  · rw [if_neg h, if_neg fun hc => hc ⟨h, Ports.shift_ne_zero p.toNat⟩]
    rfl

/-- `unset_port` never refuses: a byte promoted to `int` has no ones where its complement has. -/
lemma unsetPort_eq (l : Enlace) (p : BitVec 16) (m : Mem) : unsetPort l p ⟨m, []⟩ =
    let x := l.rPort + p.toNat / 8
    let y := taskTss l m + TSS_IOBP + p.toNat / 8
    (0, ((((((Rastro.mira y ⟨m, []⟩).mira x).mira y).cambia x
      fun b => b ||| 1#8 <<< (p.toNat % 8)).cambia y
        fun b => b ||| 1#8 <<< (p.toNat % 8)).mira x).mira y) := by
  have hne : ∀ b : Byte, ~~~(b.setWidth 32) ≠ 0#32 := by
    intro b h
    have := congrArg (fun x => x.getLsbD 31) h
    simp at this
  unfold unsetPort
  simp only
  rw [if_neg fun hc => hc ⟨hne _, Ports.shift_ne_zero p.toNat⟩]

lemma setPort_tocada (hm : Llamador l m) (h : rd8 m (l.rPort + p.toNat / 8) ≠ 0#8) :
    Tocada l p m (fun b => b &&& ~~~(1#8 <<< (p.toNat % 8))) (setPort l p ⟨m, []⟩).2.mem := by
  intro a
  rw [setPort_eq, if_neg h]
  exact rd8_cambia _ (hm.bytes_ne p) a

lemma unsetPort_tocada (hm : Llamador l m) (p : BitVec 16) :
    Tocada l p m (fun b => b ||| 1#8 <<< (p.toNat % 8)) (unsetPort l p ⟨m, []⟩).2.mem := by
  intro a
  rw [unsetPort_eq]
  exact rd8_cambia _ (hm.bytes_ne p) a

/-- **The law of a call below the bound**: it changes the byte of the port in both maps, and that
in the bit of the port. -/
lemma Tocada.cumple {r : ℤ × Rastro} (h : Tocada l p m f r.2.mem) (hm : Llamador l m)
    (hp : p.toNat < 8 * TSS_PORT)
    (hf : ∀ b i, i ≠ p.toNat % 8 → (f b).getLsbD i = b.getLsbD i)
    (hacc : ∀ a ∈ r.2.accesos, a = (l.rPort + p.toNat / 8) % 2 ^ 32 ∨
      a = (taskTss l m + TSS_IOBP + p.toNat / 8) % 2 ^ 32) : Cumple l p m r := by
  obtain ⟨hlim, hlug⟩ := hm.lugar
  have hPort := l.hPort
  have hTss := l.hTss
  have hs := l.aparte
  have haux : p.toNat / 8 < TSS_PORT := Nat.div_lt_of_lt_mul hp
  have hother : ∀ a < 2 ^ 32, a ≠ l.rPort + p.toNat / 8 →
      a ≠ taskTss l m + TSS_IOBP + p.toNat / 8 → rd8 r.2.mem a = rd8 m a := by
    intro a ha h1 h2
    simp only [TSS_LEN, TSS_PORT, TSS_IOBP] at hlim haux hPort h2
    rw [h, if_neg (by simp only [TSS_IOBP]; omega)]
  refine ⟨fun a ha => ?_, fun a i hne => ?_, ?_, fun j hj hne o ho => ?_, fun hge => by omega⟩
  · rcases hacc a ha with rfl | rfl
    · exact Or.inl ⟨_, haux, Nat.mod_mod _ _⟩
    · exact Or.inr ⟨_, haux, Nat.mod_mod _ _⟩
  · rw [h] at hne
    split at hne
    · rename_i hin
      exact ⟨by_contra fun hi => hne (hf _ _ hi), haux, hin⟩
    · exact absurd rfl hne
  · simp only [TSS_LEN, TSS_PORT, TSS_IOBP] at hlim hlug haux hPort ⊢
    exact hother _ (by omega) (by omega) (by simp only [TSS_IOBP]; omega)
  · have hother := hother (l.tssP + TSS_LEN * j + o)
    rcases hm with h0 | ⟨j', hj', he⟩
    · rw [h0] at hother
      simp only [TSS_LEN, TSS_PORT, TSS_IOBP, MAX_TASK] at *
      exact hother (by omega) (by omega) (by omega)
    · rw [he] at hother hne
      simp only [TSS_LEN, TSS_PORT, TSS_IOBP, MAX_TASK] at *
      exact hother (by omega) (by omega) (by omega)

lemma getLsbD_erase {k i : ℕ} (hi : i ≠ k) (b : Byte) :
    (b &&& ~~~(1#8 <<< k)).getLsbD i = b.getLsbD i := by
  by_cases h8 : i < 8
  · rw [BitVec.getLsbD_and, BitVec.getLsbD_not, getLsbD_mask h8]
    simp [h8, hi]
  · rw [BitVec.getLsbD_of_ge _ _ (by omega), BitVec.getLsbD_of_ge _ _ (by omega)]

lemma getLsbD_mark {k i : ℕ} (hi : i ≠ k) (b : Byte) :
    (b ||| 1#8 <<< k).getLsbD i = b.getLsbD i := by
  by_cases h8 : i < 8
  · rw [BitVec.getLsbD_or, getLsbD_mask h8]
    simp [hi]
  · rw [BitVec.getLsbD_of_ge _ _ (by omega), BitVec.getLsbD_of_ge _ _ (by omega)]

lemma cumple_rechaza (h : EnMapa l.rPort (l.rPort + p.toNat / 8) ∨
    EnMapa (taskTss l m + TSS_IOBP) (l.rPort + p.toNat / 8)) :
    Cumple l p m (-1, Rastro.mira (l.rPort + p.toNat / 8) ⟨m, []⟩) := by
  refine ⟨fun a ha => ?_, fun a i hne => absurd rfl hne, rfl, fun _ _ _ _ _ => rfl,
    fun _ => ⟨rfl, rfl⟩⟩
  obtain rfl := List.mem_singleton.mp ha
  unfold EnMapa at h ⊢
  rwa [Nat.mod_mod]

lemma setPort_cumple (hm : Llamador l m) (hp : p.toNat < 8 * TSS_PORT) :
    Cumple l p m (setPort l p ⟨m, []⟩) := by
  have haux : p.toNat / 8 < TSS_PORT := Nat.div_lt_of_lt_mul hp
  by_cases h : rd8 m (l.rPort + p.toNat / 8) = 0#8
  · rw [setPort_eq, if_pos h]
    exact cumple_rechaza (Or.inl ⟨_, haux, rfl⟩)
  · refine (setPort_tocada hm h).cumple hm hp (fun b i hi => getLsbD_erase hi b) ?_
    rw [setPort_eq, if_neg h]
    simp [Rastro.cambia, Rastro.mira]

lemma unsetPort_cumple (hm : Llamador l m) (hp : p.toNat < 8 * TSS_PORT) :
    Cumple l p m (unsetPort l p ⟨m, []⟩) := by
  refine (unsetPort_tocada hm p).cumple hm hp (fun b i hi => getLsbD_mark hi b) ?_
  rw [unsetPort_eq]
  simp [Rastro.cambia, Rastro.mira]

lemma not_enMapa (hp : 8 * TSS_PORT ≤ p.toNat) : ¬ EnMapa l.rPort (l.rPort + p.toNat / 8) := by
  rintro ⟨j, hj, he⟩
  have hlt := p.isLt
  have hPort := l.hPort
  simp only [TSS_LEN, TSS_PORT] at *
  omega

/-- **The calls on ports stay inside their maps** just when the port has a bit there; beyond,
`set_port` still does its duty where the byte it takes for that of the port is 0 and, by the layout,
the caller's own. -/
theorem puertos_dentro (hm : Llamador l m) (p : BitVec 16) :
    (Cumple l p m (setPort l p ⟨m, []⟩) ↔ p.toNat < 8 * TSS_PORT ∨
      rd8 m (l.rPort + p.toNat / 8) = 0#8 ∧
        EnMapa (taskTss l m + TSS_IOBP) (l.rPort + p.toNat / 8)) ∧
    (Cumple l p m (unsetPort l p ⟨m, []⟩) ↔ p.toNat < 8 * TSS_PORT) := by
  refine ⟨⟨fun hc => ?_, ?_⟩, fun hc => ?_, unsetPort_cumple hm⟩
  · by_contra hno
    obtain ⟨hp, hno⟩ := not_or.mp hno
    have h0 : rd8 m (l.rPort + p.toNat / 8) = 0#8 := by
      by_contra h
      have := (hc.rechaza (Nat.le_of_not_lt hp)).1
      rw [setPort_eq, if_neg h] at this
      exact absurd (show (0 : ℤ) = -1 from this) (by decide)
    have hin := hc.accesos
    rw [setPort_eq, if_pos h0] at hin
    rcases hin _ (List.mem_singleton.mpr rfl) with ⟨j, hj, he⟩ | ⟨j, hj, he⟩
    · exact not_enMapa (Nat.le_of_not_lt hp) ⟨j, hj, (Nat.mod_mod _ _).symm.trans he⟩
    · exact hno ⟨h0, j, hj, (Nat.mod_mod _ _).symm.trans he⟩
  · rintro (hp | ⟨h0, hin⟩)
    · exact setPort_cumple hm hp
    · rw [setPort_eq, if_pos h0]
      exact cumple_rechaza (Or.inr hin)
  · by_contra hp
    have := (hc.rechaza (Nat.le_of_not_lt hp)).1
    rw [unsetPort_eq] at this
    exact absurd (show (0 : ℤ) = -1 from this) (by decide)

/-! ### The same calls, on the tables of the kernel -/

/-- The two maps the calls of task `t_indice` look at, in memory: its TSS is at address `t`. -/
structure Mapas (l : Enlace) (t : ℕ) (m : Mem) (k : Kernel) : Prop where
  rPort : ∀ j < TSS_PORT, rd8 m (l.rPort + j) = k.rPort j
  iobp : ∀ j < TSS_PORT,
    rd8 m (t + TSS_IOBP + j) = (k.tss (k.rTareas k.tIndice).taskTss).iobp j

variable {k : Kernel}

lemma Mapas.cambia {m' : Mem} (h : Mapas l (taskTss l m) m k) (hm : Llamador l m)
    (hp : p.toNat < 8 * TSS_PORT) (hmem : Tocada l p m f m') (g : (ℕ → Byte) → ℕ → Byte)
    (hg : ∀ map, g map = Function.update map (p.toNat / 8) (f (map (p.toNat / 8)))) :
    Mapas l (taskTss l m) m' ({ k with rPort := g k.rPort }.updTss
      (k.rTareas k.tIndice).taskTss fun t => { t with iobp := g t.iobp }) := by
  obtain ⟨hlim, hlug⟩ := hm.lugar
  have hPort := l.hPort
  have haux : p.toNat / 8 < TSS_PORT := Nat.div_lt_of_lt_mul hp
  refine ⟨fun j hj => ?_, fun j hj => ?_⟩
  · have hat : (l.rPort + j) % 2 ^ 32 = (l.rPort + p.toNat / 8) % 2 ^ 32 ∨
        (l.rPort + j) % 2 ^ 32 = (taskTss l m + TSS_IOBP + p.toNat / 8) % 2 ^ 32 ↔
        j = p.toNat / 8 := by
      simp only [TSS_LEN, TSS_PORT, TSS_IOBP] at *
      omega
    rw [hmem, if_congr hat rfl rfl, h.rPort j hj]
    simp only [Kernel.updTss, hg, Function.update_apply]
    split_ifs with he
    · rw [he]
    · rfl
  · have hat : (taskTss l m + TSS_IOBP + j) % 2 ^ 32 = (l.rPort + p.toNat / 8) % 2 ^ 32 ∨
        (taskTss l m + TSS_IOBP + j) % 2 ^ 32 =
          (taskTss l m + TSS_IOBP + p.toNat / 8) % 2 ^ 32 ↔ j = p.toNat / 8 := by
      simp only [TSS_LEN, TSS_PORT, TSS_IOBP] at *
      omega
    rw [hmem, if_congr hat rfl rfl, h.iobp j hj]
    simp only [Kernel.updTss, hg, Function.update_self, Function.update_apply]
    split_ifs with he
    · rw [he]
    · rfl

/-- **Below the bound `set_port` is that of `Ports`.** -/
theorem setPort_mapas (h : Mapas l (taskTss l m) m k) (hm : Llamador l m)
    (hp : p.toNat < 8 * TSS_PORT) :
    (setPort l p ⟨m, []⟩).1 = (Ports.setPort p.toNat k).1 ∧
      Mapas l (taskTss l m) (setPort l p ⟨m, []⟩).2.mem (Ports.setPort p.toNat k).2 := by
  have haux : p.toNat / 8 < TSS_PORT := Nat.div_lt_of_lt_mul hp
  rw [Ports.setPort_eq, ← h.rPort _ haux]
  by_cases h0 : rd8 m (l.rPort + p.toNat / 8) = 0#8
  · rw [setPort_eq, if_pos h0, if_pos h0]
    exact ⟨rfl, h⟩
  · refine ⟨by rw [setPort_eq, if_neg h0, if_neg h0], ?_⟩
    rw [if_neg h0]
    exact h.cambia hm hp (setPort_tocada hm h0) (fun map => erase map p.toNat) fun map => rfl

theorem unsetPort_mapas (h : Mapas l (taskTss l m) m k) (hm : Llamador l m)
    (hp : p.toNat < 8 * TSS_PORT) :
    (unsetPort l p ⟨m, []⟩).1 = (Ports.unsetPort p.toNat k).1 ∧
      Mapas l (taskTss l m) (unsetPort l p ⟨m, []⟩).2.mem (Ports.unsetPort p.toNat k).2 := by
  rw [Ports.unsetPort_eq]
  refine ⟨by rw [unsetPort_eq], ?_⟩
  exact h.cambia hm hp (unsetPort_tocada hm p) (fun map => mark map p.toNat) fun map => rfl

/-! ### A port past the maps -/

/-- The addresses of the kernel as it is linked: `t_indice` follows the map of the ports. -/
def nucleo : Enlace where
  rPort := 0x13d980
  tIndice := 0x13da80
  tssP := 0x13eac0
  rTareas := 0x14f480
  hPort := by decide
  hTss := by decide
  aparte := by decide

def memTres : Mem :=
  wr8 (wr32 (wr32 (fun _ => 0) nucleo.tIndice 3) (nucleo.rTareas + RUN_LEN * 3 + RUN_TSS)
    (nucleo.tssP + TSS_LEN * 3)) (nucleo.tssP + TSS_LEN * 3 + TSS_IOBP + TSS_PORT) 0xff

lemma taskTss_tres : taskTss nucleo memTres = nucleo.tssP + TSS_LEN * 3 := by decide

theorem puertos_dentro_com : (Cumple nucleo 0x3f8 memTres (setPort nucleo 0x3f8 ⟨memTres, []⟩) ↔
      (0x3f8#16).toNat < 8 * TSS_PORT ∨
        rd8 memTres (nucleo.rPort + (0x3f8#16).toNat / 8) = 0#8 ∧
          EnMapa (taskTss nucleo memTres + TSS_IOBP) (nucleo.rPort + (0x3f8#16).toNat / 8)) ∧
    (Cumple nucleo 0x3f8 memTres (unsetPort nucleo 0x3f8 ⟨memTres, []⟩) ↔
      (0x3f8#16).toNat < 8 * TSS_PORT) :=
  puertos_dentro (Or.inr ⟨3, by decide, taskTss_tres⟩) 0x3f8

/-- Port 2048: the call clears a bit of `t_indice`, so that another task runs, and one of `fin`. -/
theorem setPort_fuera : (setPort nucleo 2048 ⟨memTres, []⟩).1 = 0 ∧
    rd32 (setPort nucleo 2048 ⟨memTres, []⟩).2.mem nucleo.tIndice = 2 ∧
    rd8 (setPort nucleo 2048 ⟨memTres, []⟩).2.mem
      (taskTss nucleo memTres + TSS_IOBP + TSS_PORT) = 0xfe ∧
    ¬ Cumple nucleo 2048 memTres (setPort nucleo 2048 ⟨memTres, []⟩) := by
  have h0 : (setPort nucleo 2048 ⟨memTres, []⟩).1 = 0 := by decide
  refine ⟨h0, by decide, by decide, fun hc => ?_⟩
  have h1 := (hc.rechaza (by decide)).1
  rw [h0] at h1
  exact absurd h1 (by decide)

end Silicio.PortBytes
