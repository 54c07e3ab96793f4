import Silicio.Terminators

/-!
The name that `main` of `fs/fs.c` takes out of its second argument, before it looks for it.

The loop stops at a slash or at the digit 0, where the zero that ends a string was meant, and counts
nothing. So a path of one component is read past its end, a digit 0 cuts a name short, and a long
name leaves the array.
-/

namespace Silicio.Paths

open Silicio.Bitmap Silicio.Terminators

abbrev EXT2_NAME_LEN : ℕ := 255

abbrev BARRA : Byte := 0x2f

abbrev CERO : Byte := 0x30

/-- What the loop carries, with the places of the argument it has read and those of `file` it has
written. -/
structure Copia where
  i : ℕ
  file : ℕ → Byte
  leidos : List ℕ
  escritos : List ℕ

def Copia.mira (a : ℕ) (s : Copia) : Copia := { s with leidos := a :: s.leidos }

def Copia.pon (a : ℕ) (b : Byte) (s : Copia) : Copia :=
  { s with file := Function.update s.file a b, escritos := a :: s.escritos }

def sig (i : ℕ) : ℕ := (i + 1) % 2 ^ 32

/-- The loop, at most `fuel` turns of it: whether it has ended, and where it stands. -/
def bucle (arg : ℕ → Byte) : ℕ → Copia → Bool × Copia
  | 0, s => (false, s)
  | fuel + 1, s =>
    let s := s.mira (sig s.i)
    if arg (sig s.i) = BARRA then (true, s)
    else
      let s := s.mira (sig s.i)
      if arg (sig s.i) = CERO then (true, s)
      else
        let s := (s.mira (sig s.i)).pon s.i (arg (sig s.i))
        bucle arg fuel { s with i := sig s.i }

/-- The loop and the zero after it; `file` is not set before. -/
def mainFile (fuel : ℕ) (arg file : ℕ → Byte) : Bool × Copia :=
  let (fin, s) := bucle arg fuel ⟨0, file, [], []⟩
  (fin, if fin then s.pon s.i 0 else s)

/-- The argument, of `L` bytes, begins with a slash, and its first component has `n`. -/
structure Componente (arg : ℕ → Byte) (L n : ℕ) : Prop where
  raiz : arg 0 = BARRA
  cabe : n + 1 ≤ L
  fin : arg (n + 1) = BARRA ∨ n + 1 = L
  letras : ∀ i < n, arg (i + 1) ≠ BARRA

/-- What the loop owes on an argument of `L` bytes. -/
structure Cumple (arg file : ℕ → Byte) (L : ℕ) : Prop where
  nombre : ∀ n < EXT2_NAME_LEN, Componente arg L n → ∃ fuel s, mainFile fuel arg file = (true, s) ∧
    (∀ i < n, s.file i = arg (i + 1)) ∧ s.file n = 0
  lee : ∀ fuel, ∀ a ∈ (mainFile fuel arg file).2.leidos, a ≤ L
  escribe : ∀ fuel, ∀ a ∈ (mainFile fuel arg file).2.escritos, a < EXT2_NAME_LEN

def Para (b : Byte) : Prop := b = BARRA ∨ b = CERO

instance : DecidablePred Para := fun _ => inferInstanceAs (Decidable (_ ∨ _))

variable {arg file : ℕ → Byte} {s : Copia} {L n k m a i : ℕ}

/-! ### Some turns of the loop -/

structure Tras (arg : ℕ → Byte) (k : ℕ) (s : Copia) : Prop where
  i : s.i = k
  file : ∀ j < k, s.file j = arg (j + 1)
  leidos : ∀ a ∈ s.leidos, a ≤ k
  escritos : ∀ a ∈ s.escritos, a < k

lemma tras_cero (arg file : ℕ → Byte) : Tras arg 0 ⟨0, file, [], []⟩ :=
  ⟨rfl, fun j hj => absurd hj (Nat.not_lt_zero j), by simp, by simp⟩

lemma sig_eq (hk : k < 2 ^ 32 - 1) : sig k = k + 1 := Nat.mod_eq_of_lt (by omega)

lemma bucle_succ (arg : ℕ → Byte) (fuel : ℕ) (s : Copia) : bucle arg (fuel + 1) s =
    if arg (sig s.i) = BARRA then (true, s.mira (sig s.i))
    else if arg (sig s.i) = CERO then (true, (s.mira (sig s.i)).mira (sig s.i))
    else bucle arg fuel { ((((s.mira (sig s.i)).mira (sig s.i)).mira (sig s.i)).pon s.i
      (arg (sig s.i))) with i := sig s.i } := rfl

lemma Tras.para (h : Tras arg k s) (hk : k < 2 ^ 32 - 1) (hp : Para (arg (k + 1))) (fuel : ℕ) :
    ∃ t, bucle arg (fuel + 1) s = (true, t) ∧ t.i = k ∧ t.file = s.file ∧
      t.escritos = s.escritos ∧ k + 1 ∈ t.leidos ∧ ∀ a ∈ t.leidos, a ≤ k + 1 := by
  have hsig : sig s.i = k + 1 := by rw [h.i, sig_eq hk]
  have hlee : ∀ a ∈ s.leidos, a ≤ k + 1 := fun a ha => (h.leidos a ha).trans (Nat.le_succ k)
  rw [bucle_succ, hsig]
  by_cases h1 : arg (k + 1) = BARRA
  · rw [if_pos h1]
    exact ⟨_, rfl, h.i, rfl, rfl, List.mem_cons_self, by simpa [Copia.mira] using hlee⟩
  · rw [if_neg h1, if_pos (hp.resolve_left h1)]
    exact ⟨_, rfl, h.i, rfl, rfl, List.mem_cons_self, by simpa [Copia.mira] using hlee⟩

lemma Tras.pasa (h : Tras arg k s) (hk : k < 2 ^ 32 - 1) (hp : ¬ Para (arg (k + 1))) (fuel : ℕ) :
    ∃ t, bucle arg (fuel + 1) s = bucle arg fuel t ∧ Tras arg (k + 1) t ∧ k + 1 ∈ t.leidos ∧
      k ∈ t.escritos := by
  have hsig : sig s.i = k + 1 := by rw [h.i, sig_eq hk]
  have hlee : ∀ a ∈ s.leidos, a ≤ k + 1 := fun a ha => (h.leidos a ha).trans (Nat.le_succ k)
  rw [bucle_succ, hsig, if_neg fun hc => hp (Or.inl hc), if_neg fun hc => hp (Or.inr hc), h.i]
  refine ⟨_, rfl, ⟨rfl, fun j hj => ?_, by simpa [Copia.mira, Copia.pon] using hlee, ?_⟩,
    List.mem_cons_self, List.mem_cons_self⟩
  · simp only [Copia.mira, Copia.pon, Function.update_apply]
    split
    · next he => rw [he]
    · exact h.file j (by omega)
  · intro a ha
    rcases List.mem_cons.mp ha with rfl | ha
    · exact Nat.lt_succ_self a
    · exact (h.escritos a ha).trans (Nat.lt_succ_self k)

lemma bucle_pasa (hk : k < 2 ^ 32) {s : Copia} (hs : Tras arg 0 s)
    (hno : ∀ j, 1 ≤ j → j ≤ k → ¬ Para (arg j)) (fuel : ℕ) : ∃ t, Tras arg k t ∧
      bucle arg (fuel + k) s = bucle arg fuel t := by
  induction k generalizing fuel with
  | zero => exact ⟨s, hs, rfl⟩
  | succ k ih =>
    obtain ⟨t, ht, hb⟩ := ih (by omega) (fun j h1 h2 => hno j h1 (by omega)) (fuel + 1)
    obtain ⟨u, hu, htras, -⟩ := ht.pasa (by omega) (hno (k + 1) (by omega) le_rfl) fuel
    refine ⟨u, htras, ?_⟩
    rw [← hu, ← hb, Nat.add_assoc, Nat.add_comm 1 k]

/-! ### Where it stops -/

structure Primera (arg : ℕ → Byte) (k : ℕ) : Prop where
  para : Para (arg (k + 1))
  antes : ∀ j, 1 ≤ j → j ≤ k → ¬ Para (arg j)

/-- **A run that stops**: every turn of it, and what it leaves in `file`. -/
lemma Primera.mainFile (h : Primera arg k) (hk : k < 2 ^ 32 - 1) (file : ℕ → Byte) :
    (∀ fuel, (∀ a ∈ (mainFile fuel arg file).2.leidos, a ≤ k + 1) ∧
      (∀ a ∈ (mainFile fuel arg file).2.escritos, a ≤ k) ∧
      (fuel ≤ k → (mainFile fuel arg file).1 = false)) ∧
    ∀ fuel > k, ∃ s, Paths.mainFile fuel arg file = (true, s) ∧ (∀ i < k, s.file i = arg (i + 1)) ∧
      s.file k = 0 := by
  have hfin : ∀ fuel > k, ∃ s, Paths.mainFile fuel arg file = (true, s) ∧
      (∀ i < k, s.file i = arg (i + 1)) ∧ s.file k = 0 ∧ (∀ a ∈ s.leidos, a ≤ k + 1) ∧
        ∀ a ∈ s.escritos, a ≤ k := by
    intro fuel hf
    obtain ⟨t, ht, hb⟩ := bucle_pasa (by omega) (tras_cero arg file) h.antes (fuel - k - 1 + 1)
    obtain ⟨u, hu, hi, hfile, hesc, -, hlee⟩ := ht.para hk h.para (fuel - k - 1)
    rw [show fuel - k - 1 + 1 + k = fuel by omega, hu] at hb
    refine ⟨u.pon k 0, ?_, fun i hik => ?_, Function.update_self .., hlee, fun a ha => ?_⟩
    · unfold Paths.mainFile
      rw [hb]
      simp only [hi, if_true]
    · simp only [Copia.pon]
      rw [Function.update_of_ne (Nat.ne_of_lt hik), hfile]
      exact ht.file i hik
    · rcases List.mem_cons.mp ha with rfl | ha
      · exact le_rfl
      · rw [hesc] at ha
        exact (ht.escritos a ha).le
  refine ⟨fun fuel => ?_, fun fuel hf => ?_⟩
  · rcases Nat.lt_or_ge k fuel with hf | hf
    · obtain ⟨s, hs, -, -, h1, h2⟩ := hfin fuel hf
      rw [hs]
      exact ⟨h1, h2, fun hc => absurd hf (Nat.not_lt.mpr hc)⟩
    · -- the loop has not come to its end
      obtain ⟨t, ht, hb⟩ := bucle_pasa (k := fuel) (by omega) (tras_cero arg file)
        (fun j h1 h2 => h.antes j h1 (by omega)) 0
      rw [Nat.zero_add] at hb
      have he : Paths.mainFile fuel arg file = (false, t) := by
        unfold Paths.mainFile
        rw [hb]
        rfl
      rw [he]
      exact ⟨fun a ha => (ht.leidos a ha).trans (by omega),
        fun a ha => (ht.escritos a ha).le.trans (by omega), fun _ => rfl⟩
  · obtain ⟨s, hs, h1, h2, -⟩ := hfin fuel hf
    exact ⟨s, hs, h1, h2⟩

/-- **A run that has not stopped** after `k` turns: in the next it reads byte `k + 1` and writes
place `k`, whether it stops there or not. -/
lemma mainFile_toca (hk : k < 2 ^ 32 - 1) (hno : ∀ j, 1 ≤ j → j ≤ k → ¬ Para (arg j))
    (file : ℕ → Byte) : k + 1 ∈ (mainFile (k + 1) arg file).2.leidos ∧
      k ∈ (mainFile (k + 1) arg file).2.escritos := by
  obtain ⟨t, ht, hb⟩ := bucle_pasa (by omega) (tras_cero arg file) hno (0 + 1)
  rw [Nat.zero_add, Nat.add_comm 1 k] at hb
  unfold mainFile
  by_cases hp : Para (arg (k + 1))
  · obtain ⟨u, hu, hi, -, -, hlee, -⟩ := ht.para hk hp 0
    rw [hb, hu]
    simp only [hi, if_true]
    exact ⟨hlee, List.mem_cons_self⟩
  · obtain ⟨u, hu, -, hlee, hesc⟩ := ht.pasa hk hp 0
    rw [hb, hu]
    exact ⟨hlee, hesc⟩

/-- One of the first 255 bytes after the first is one to stop at, and not past the end; and the
component, if it fits, ends at a slash and has no digit 0. -/
structure Llano (arg : ℕ → Byte) (L : ℕ) : Prop where
  corta : ∃ j < EXT2_NAME_LEN, j + 1 < L ∧ Para (arg (j + 1))
  sigue : ∀ n < EXT2_NAME_LEN, Componente arg L n →
    arg (n + 1) = BARRA ∧ ∀ i < n, arg (i + 1) ≠ CERO

lemma Llano.primera (hc : ∃ j < EXT2_NAME_LEN, j + 1 < L ∧ Para (arg (j + 1))) :
    ∃ k, Primera arg k ∧ k < EXT2_NAME_LEN ∧ k + 1 < L := by
  classical
  obtain ⟨j, hj, hjL, hp⟩ := hc
  have hex : ∃ k, Para (arg (k + 1)) := ⟨j, hp⟩
  have hle : Nat.find hex ≤ j := Nat.find_min' hex hp
  refine ⟨Nat.find hex, ⟨Nat.find_spec hex, fun i h1 h2 => ?_⟩, by omega, by omega⟩
  obtain ⟨i, rfl⟩ := Nat.exists_eq_succ_of_ne_zero (show i ≠ 0 by omega)
  exact Nat.find_min hex h2

lemma no_para_cero : ¬ Para 0 := by decide

lemma lt_palabra (hk : k ≤ EXT2_NAME_LEN) : k < 2 ^ 32 - 1 := hk.trans_lt (by decide)

/-- Without one, the end of the argument or that of `file` is passed. -/
lemma Cumple.corta (h : Cumple arg file L) (ha : Acaba arg L) :
    ∃ j < EXT2_NAME_LEN, j + 1 < L ∧ Para (arg (j + 1)) := by
  by_contra hc
  have hno : ∀ j, 1 ≤ j → j ≤ min L EXT2_NAME_LEN → ¬ Para (arg j) := by
    intro j h1 h2 hp
    rcases Nat.lt_or_ge j L with hlt | hge
    · refine hc ⟨j - 1, by omega, by omega, ?_⟩
      rwa [Nat.sub_add_cancel h1]
    · rw [show j = L by omega, ha.fin] at hp
      exact no_para_cero hp
  obtain ⟨hlee, hesc⟩ := mainFile_toca (lt_palabra (min_le_right ..)) hno file
  rcases Nat.le_total L EXT2_NAME_LEN with hL | hL
  · rw [min_eq_left hL] at hlee
    exact absurd (h.lee _ _ hlee) (by omega)
  · rw [min_eq_right hL] at hesc
    exact absurd (h.escribe _ _ hesc) (lt_irrefl _)

/-- A run that stops leaves the component when it stops at the end of it, and only then. -/
lemma Primera.nombre (h : Primera arg k) (hk : k < EXT2_NAME_LEN) (hL : k + 1 < L)
    (hn : Componente arg L n) : (∃ fuel s, Paths.mainFile fuel arg file = (true, s) ∧
      (∀ i < n, s.file i = arg (i + 1)) ∧ s.file n = 0) ↔ k = n := by
  obtain ⟨hruns, hfin⟩ := h.mainFile (lt_palabra hk.le) file
  constructor
  · rintro ⟨fuel, s, hs, hcopia, hcero⟩
    have hf : k < fuel := by
      by_contra hge
      have := (hruns fuel).2.2 (by omega)
      rw [hs] at this
      cases this
    obtain ⟨t, ht, hcopia', hcero'⟩ := hfin fuel hf
    obtain rfl : s = t := congrArg Prod.snd (hs.symm.trans ht)
    rcases Nat.lt_trichotomy k n with hlt | he | hgt
    · have hp := h.para
      rw [← hcopia k hlt, hcero'] at hp
      exact absurd hp no_para_cero
    · exact he
    · rcases hn.fin with hb | hb
      · exact absurd (Or.inl hb) (h.antes (n + 1) (by omega) hgt)
      · omega
  · rintro rfl
    obtain ⟨s, hs⟩ := hfin (k + 1) (Nat.lt_succ_self k)
    exact ⟨k + 1, s, hs⟩

/-- **The name in the argument.** For a string of `L` bytes the loop does what it owes just when it
meets a slash or a digit 0 before the end of the string and that of `file`, and the first component,
if it fits, is followed by another and has no digit 0 in it. -/
theorem main_cumple (ha : Acaba arg L) (file : ℕ → Byte) : Cumple arg file L ↔ Llano arg L := by
  constructor
  · intro h
    have hcorta := h.corta ha
    obtain ⟨k, hk, hlt, hL⟩ := Llano.primera hcorta
    refine ⟨hcorta, fun n hn hcomp => ?_⟩
    obtain rfl := (hk.nombre hlt hL hcomp).mp (h.nombre n hn hcomp)
    exact ⟨hcomp.fin.resolve_right (by omega),
      fun i hi hc => hk.antes (i + 1) (by omega) hi (Or.inr hc)⟩
  · rintro ⟨hcorta, hsigue⟩
    obtain ⟨k, hk, hlt, hL⟩ := Llano.primera hcorta
    have hruns := (hk.mainFile (lt_palabra hlt.le) file).1
    refine ⟨fun n hn hcomp => (hk.nombre hlt hL hcomp).mpr ?_,
      fun fuel a hin => ((hruns fuel).1 a hin).trans hL.le,
      fun fuel a hin => ((hruns fuel).2.1 a hin).trans_lt hlt⟩
    obtain ⟨hb, hdig⟩ := hsigue n hn hcomp
    rcases Nat.lt_trichotomy k n with hkn | he | hkn
    · rcases hk.para with hp | hp
      · exact absurd hp (hcomp.letras k hkn)
      · exact absurd hp (hdig k hkn)
    · exact he
    · exact absurd (Or.inl hb) (hk.antes (n + 1) (by omega) hkn)

/-- `/boot/grub` gives `boot`. -/
theorem main_boot : Cumple (literal [0x2f, 0x62, 0x6f, 0x6f, 0x74, 0x2f, 0x67, 0x72, 0x75, 0x62])
    (fun _ => 0) 10 := by
  have ha : Acaba (literal [0x2f, 0x62, 0x6f, 0x6f, 0x74, 0x2f, 0x67, 0x72, 0x75, 0x62]) 10 :=
    literal_acaba (by decide)
  refine (main_cumple ha _).mpr ⟨⟨4, by decide, by decide, by decide⟩, fun n hn hc => ?_⟩
  have hn4 : n = 4 := by
    rcases Nat.lt_trichotomy n 4 with h | h | h
    · interval_cases n <;> exact absurd hc.fin (by decide)
    · exact h
    · exact absurd (hc.letras 4 h) (by decide)
  subst hn4
  exact ⟨by decide, by decide⟩

/-- `/home` is read past its end. -/
theorem main_home : ¬ Cumple (literal [0x2f, 0x68, 0x6f, 0x6d, 0x65]) (fun _ => 0) 5 := by
  intro h
  obtain ⟨j, -, hj, hp⟩ := h.corta (literal_acaba (by decide))
  have hj4 : j < 4 := by omega
  interval_cases j <;> exact absurd hp (by decide)

end Silicio.Paths
