import Silicio.Itoa

/-!
`printk`: a format, the words of its arguments, and what it passes to `putc`.

A format is a chain of pieces: a byte that stands for itself, or a `%` with the byte after it. The
byte after a `%` is taken without a look at what it is; when it is the terminator, the loop goes
on past it. What the console makes of the characters is `Console`; the format and the strings are
apart from the memory it writes.
-/

namespace Silicio.Printk

open Silicio.Bitmap Silicio.Bytes Silicio.Console Silicio.Terminators Silicio.Itoa

def entero (b : Byte) : Entero := b.signExtend 32

abbrev PORCIENTO : Byte := 0x25
abbrev LETRA : Byte := 0x63
abbrev CADENA : Byte := 0x73

/-- The locals of `printk`, what `putc` has been given, and the places of the format that have
been looked at. -/
structure Impresion where
  format : ℕ
  parg : ℕ
  buf : ℕ → Byte
  salida : List Entero
  leidas : List ℕ

def Impresion.sigue (s : Impresion) : Impresion :=
  { s with format := s.format + 1, leidas := s.leidas ++ [s.format] }

/-- `while ((d = *p++) != 0) putc(d);` from place `j` on, at most `fuel` tests of it. -/
def vaciar (p : ℕ → Byte) : ℕ → ℕ → Option (List Entero)
  | 0, _ => none
  | fuel + 1, j =>
    if entero (p j) ≠ 0#32 then (vaciar p fuel (j + 1)).map (entero (p j) :: ·) else some []

/-- The `switch` on the byte after a `%`; `a` is what the array of `itoa` holds before. -/
def directiva (m : Mem) (a : ℕ → Byte) (fuel : ℕ) (c : Entero) (s : Impresion) :
    Option Impresion :=
  if c = entero LETRA then
    some { s with parg := s.parg + 4, salida := s.salida ++ [entero (rd8 m s.parg)] }
  else if c = DECIMAL ∨ c = SIN_SIGNO ∨ c = HEXA then
    let buf := itoa a s.buf c (BitVec.ofNat 32 (rd32 m s.parg))
    (vaciar buf fuel 0).map fun l =>
      { s with parg := s.parg + 4, buf := buf, salida := s.salida ++ l }
  else if c = entero CADENA then
    let p := rd32 m s.parg
    (vaciar (fun j => rd8 m (p + j)) fuel 0).map fun l =>
      { s with parg := s.parg + 4, salida := s.salida ++ l }
  else some s

/-- `printk`, at most `fuel` turns of its loop and of each loop inside it; `basura` is what the
stack holds where `itoa` is called. -/
def printk (m : Mem) (basura : ℕ → ℕ → Byte) : ℕ → Impresion → Option Impresion
  | 0, _ => none
  | fuel + 1, s =>
    let c := entero (rd8 m s.format)
    let s := s.sigue
    if c ≠ 0#32 then
      if c ≠ entero PORCIENTO then printk m basura fuel { s with salida := s.salida ++ [c] }
      else
        let c := entero (rd8 m s.format)
        let s := s.sigue
        (directiva m (basura s.format) fuel c s).bind (printk m basura fuel)
    else some s

/-! ### What a format renders -/

def Numero (c : Byte) : Prop := entero c = DECIMAL ∨ entero c = SIN_SIGNO ∨ entero c = HEXA

/-- A piece of a format with the arguments from `p` on: the bytes it is spelled with, its text,
and where the arguments left begin. -/
inductive Pieza (m : Mem) : List Byte → ℕ → List Byte → ℕ → Prop
  | literal {c : Byte} (p : ℕ) (hc : c ≠ PORCIENTO) : Pieza m [c] p [c] p
  | letra (p : ℕ) : Pieza m [PORCIENTO, LETRA] p [rd8 m p] (p + 4)
  | numero {c : Byte} (p : ℕ) (hc : Numero c) : Pieza m [PORCIENTO, c] p
      (texto (entero c) (BitVec.ofNat 32 (rd32 m p))) (p + 4)
  | cadena {n : ℕ} (p : ℕ) (hn : Acaba (fun j => rd8 m (rd32 m p + j)) n) :
      Pieza m [PORCIENTO, CADENA] p ((List.range n).map fun j => rd8 m (rd32 m p + j)) (p + 4)
  | otra {c : Byte} (p : ℕ) (hc : c ≠ LETRA ∧ ¬ Numero c ∧ c ≠ CADENA) :
      Pieza m [PORCIENTO, c] p [] p

/-- A format renders the texts of its pieces, one after the other; a `%` at its end renders
nothing. -/
inductive Rinde (m : Mem) : List Byte → ℕ → List Byte → ℕ → Prop
  | fin (p : ℕ) : Rinde m [] p [] p
  | sola (p : ℕ) : Rinde m [PORCIENTO] p [] p
  | pieza {u v fs t : List Byte} {p q r : ℕ} (h : Pieza m u p v q) (hfs : Rinde m fs q t r) :
      Rinde m (u ++ fs) p (v ++ t) r

/-- No `%` at the end of the format but as the second byte of a piece. -/
def cerrado : List Byte → Bool
  | [] => true
  | [c] => c != PORCIENTO
  | c :: c' :: fs => if c = PORCIENTO then cerrado fs else cerrado (c' :: fs)

def EnMem (m : Mem) : ℕ → List Byte → Prop
  | f, [] => rd8 m f = 0
  | f, c :: fs => rd8 m f = c ∧ c ≠ 0 ∧ EnMem m (f + 1) fs

instance decidableEnMem (m : Mem) : ∀ f fs, Decidable (EnMem m f fs)
  | f, [] => inferInstanceAs (Decidable (rd8 m f = 0))
  | f, c :: fs =>
    have := decidableEnMem m (f + 1) fs
    inferInstanceAs (Decidable (rd8 m f = c ∧ c ≠ 0 ∧ EnMem m (f + 1) fs))

/-- What `printk` owes: the text to `putc`, the arguments of its pieces, and nothing looked at past
the terminator. -/
structure Imprime (fs t : List Byte) (q : ℕ) (s s' : Impresion) : Prop where
  salida : s'.salida = s.salida ++ t.map entero
  parg : s'.parg = q
  leidas : ∀ a ∈ s'.leidas, a ∈ s.leidas ∨ a ≤ s.format + fs.length

variable {m : Mem} {basura : ℕ → ℕ → Byte} {u v fs t : List Byte} {p q r f n fuel : ℕ} {c : Byte}
  {s s₁ s' : Impresion}

/-! ### Characters -/

lemma entero_inj {b c : Byte} (h : entero b = entero c) : b = c := by
  refine BitVec.eq_of_getLsbD_eq fun j hj => ?_
  have := congrArg (fun x => x.getLsbD j) h
  simpa only [entero, getLsbD_signExtend_low _ hj] using this

lemma entero_iff {b c : Byte} : entero b = entero c ↔ b = c := ⟨entero_inj, congrArg entero⟩

lemma entero_eq_zero {b : Byte} : entero b = 0#32 ↔ b = 0 :=
  (show entero 0 = 0#32 by decide) ▸ entero_iff

lemma numero_ne (hc : Numero c) : c ≠ LETRA ∧ c ≠ CADENA := by
  refine ⟨?_, ?_⟩ <;> rintro rfl <;> revert hc <;> unfold Numero <;> decide

lemma vaciar_eq {p : ℕ → Byte} (h : Acaba p n) (j k : ℕ) (hj : j + k = n) (hf : k < fuel) :
    vaciar p fuel j = some ((List.range' j k).map fun i => entero (p i)) := by
  induction k generalizing j fuel with
  | zero =>
    obtain ⟨fuel, rfl⟩ := Nat.exists_eq_succ_of_ne_zero (show fuel ≠ 0 by omega)
    obtain rfl : j = n := by omega
    rw [vaciar, if_neg (not_not.mpr (entero_eq_zero.mpr h.fin))]
    rfl
  | succ k ih =>
    obtain ⟨fuel, rfl⟩ := Nat.exists_eq_succ_of_ne_zero (show fuel ≠ 0 by omega)
    have hne : entero (p j) ≠ 0#32 := fun h0 => h.letras j (by omega) (entero_eq_zero.mp h0)
    rw [vaciar, if_pos hne, ih (j + 1) (by omega) (by omega), List.range'_succ]
    rfl

lemma vaciar_some {p : ℕ → Byte} (h : Acaba p n) (hf : n < fuel) :
    vaciar p fuel 0 = some (((List.range n).map p).map entero) := by
  rw [vaciar_eq h 0 n (Nat.zero_add n) hf, List.range_eq_range', List.map_map]
  rfl

/-! ### Every format renders something -/

/-- From any address on there is a zero, the format's own if no other. -/
lemma EnMem.acaba (h : EnMem m f fs) (a : ℕ) : ∃ n, Acaba (fun j => rd8 m (a + j)) n := by
  obtain ⟨z, hz⟩ : ∃ z, rd8 m z = 0 := by
    induction fs generalizing f with
    | nil => exact ⟨f, h⟩
    | cons c fs ih => exact ih h.2.2
  have hex : ∃ j, rd8 m (a + j) = 0 := by
    refine ⟨z % 2 ^ 32 + (2 ^ 32 - a % 2 ^ 32), ?_⟩
    rw [← rd8_mod, show (a + (z % 2 ^ 32 + (2 ^ 32 - a % 2 ^ 32))) % 2 ^ 32 = z % 2 ^ 32 by omega,
      rd8_mod, hz]
  exact ⟨Nat.find hex, Nat.find_spec hex, fun j hj => Nat.find_min hex hj⟩

lemma pieza_existe (h : EnMem m f fs) (c : Byte) (p : ℕ) : ∃ v q, Pieza m [PORCIENTO, c] p v q := by
  rcases eq_or_ne c LETRA with rfl | hletra
  · exact ⟨_, _, .letra p⟩
  rcases eq_or_ne c CADENA with rfl | hcad
  · obtain ⟨n, hn⟩ := h.acaba (rd32 m p)
    exact ⟨_, _, .cadena p hn⟩
  by_cases hnum : Numero c
  · exact ⟨_, _, .numero p hnum⟩
  · exact ⟨_, _, .otra p ⟨hletra, hnum, hcad⟩⟩

/-- **Every format renders something**: the arguments are there, and strings end. -/
theorem rinde_existe (h : EnMem m f fs) (p : ℕ) : ∃ t q, Rinde m fs p t q := by
  -- strings end in memory `m` whatever part of the format is left
  suffices hall : ∀ gs p, ∃ t q, Rinde m gs p t q from hall fs p
  intro gs
  induction gs using cerrado.induct with
  | case1 => exact fun p => ⟨[], p, .fin p⟩
  | case2 c =>
    intro p
    by_cases hc : c = PORCIENTO
    · exact ⟨[], p, hc ▸ .sola p⟩
    · exact ⟨_, p, .pieza (.literal p hc) (.fin p)⟩
  | case3 c gs ih =>
    intro p
    obtain ⟨v, q, hp⟩ := pieza_existe h c p
    obtain ⟨t, r, hr⟩ := ih q
    exact ⟨_, r, .pieza hp hr⟩
  | case4 c c' gs hc ih =>
    intro p
    obtain ⟨t, r, hr⟩ := ih p
    exact ⟨_, r, .pieza (.literal p hc) hr⟩

/-! ### One turn of the loop -/

lemma printk_fin (h : rd8 m s.format = 0) : printk m basura (fuel + 1) s = some s.sigue := by
  rw [printk]
  exact if_neg (not_not.mpr (entero_eq_zero.mpr h))

lemma printk_literal (h0 : rd8 m s.format ≠ 0) (hc : rd8 m s.format ≠ PORCIENTO) :
    printk m basura (fuel + 1) s =
      printk m basura fuel { s.sigue with salida := s.salida ++ [entero (rd8 m s.format)] } := by
  rw [printk]
  simp only
  rw [if_pos (mt entero_eq_zero.mp h0), if_pos (mt entero_inj hc)]
  rfl

lemma printk_porciento (hc : rd8 m s.format = PORCIENTO) : printk m basura (fuel + 1) s =
    (directiva m (basura (s.format + 2)) fuel (entero (rd8 m (s.format + 1))) s.sigue.sigue).bind
      (printk m basura fuel) := by
  rw [printk]
  simp only [hc]
  rw [if_pos (by decide), if_neg (not_not.mpr rfl)]
  rfl

lemma directiva_pieza (a : ℕ → Byte) (h : Pieza m [PORCIENTO, c] s.parg v q) :
    ∃ buf n, ∀ fuel > n, directiva m a fuel (entero c) s =
      some { s with parg := q, buf := buf, salida := s.salida ++ v.map entero } := by
  generalize hp : s.parg = p at h
  cases h with
  | letra =>
    subst hp
    exact ⟨s.buf, 0, fun fuel _ => if_pos rfl⟩
  | numero _ hc =>
    subst hp
    set buf := itoa a s.buf (entero c) (BitVec.ofNat 32 (rd32 m s.parg)) with hbuf
    have hesc := itoa_escrita a s.buf (entero c) (BitVec.ofNat 32 (rd32 m s.parg))
    rw [← hbuf] at hesc
    have htexto : (List.range (texto (entero c) (BitVec.ofNat 32 (rd32 m s.parg))).length).map buf =
        texto (entero c) (BitVec.ofNat 32 (rd32 m s.parg)) := by
      refine List.ext_getElem (by simp) fun j h1 h2 => ?_
      rw [List.getElem_map, List.getElem_range, hesc.letras j h2, List.getD_eq_getElem _ _ h2]
    have hsi : entero c = DECIMAL ∨ entero c = SIN_SIGNO ∨ entero c = HEXA := hc
    refine ⟨buf, (texto (entero c) (BitVec.ofNat 32 (rd32 m s.parg))).length, fun fuel hf => ?_⟩
    unfold directiva
    rw [if_neg (mt entero_inj (numero_ne hc).1), if_pos hsi]
    simp only [← hbuf]
    rw [vaciar_some hesc.acaba hf, htexto]
    rfl
  | @cadena n _ hn =>
    subst hp
    refine ⟨s.buf, n, fun fuel hf => ?_⟩
    unfold directiva
    rw [if_neg (by decide), if_neg (by decide), if_pos rfl]
    simp only
    rw [vaciar_some hn hf]
    rfl
  | otra _ hc =>
    subst hp
    have hno : ¬ (entero c = DECIMAL ∨ entero c = SIN_SIGNO ∨ entero c = HEXA) := hc.2.1
    refine ⟨s.buf, 0, fun fuel _ => ?_⟩
    unfold directiva
    rw [if_neg (mt entero_inj hc.1), if_neg hno, if_neg (mt entero_inj hc.2.2), List.map_nil,
      List.append_nil]

lemma directiva_some {a : ℕ → Byte} {c : Entero} (h : directiva m a fuel c s = some s') :
    s'.format = s.format ∧ s'.leidas = s.leidas := by
  unfold directiva at h
  split at h
  · obtain rfl := Option.some.inj h
    exact ⟨rfl, rfl⟩
  · split at h
    · obtain ⟨l, -, rfl⟩ := Option.map_eq_some_iff.mp h
      exact ⟨rfl, rfl⟩
    · split at h
      · obtain ⟨l, -, rfl⟩ := Option.map_eq_some_iff.mp h
        exact ⟨rfl, rfl⟩
      · obtain rfl := Option.some.inj h
        exact ⟨rfl, rfl⟩

lemma Pieza.cerrado (h : Pieza m u p v q) (fs : List Byte) : cerrado (u ++ fs) = cerrado fs := by
  cases h with
  | literal p hc =>
    cases fs with
    | nil => simpa [Printk.cerrado] using hc
    | cons c' fs => exact if_neg hc
  | _ => exact if_pos rfl

/-- **One piece**: the loop comes to what is after it, with its text passed on. -/
lemma printk_pieza (basura : ℕ → ℕ → Byte) (h : Pieza m u s.parg v q)
    (hm : EnMem m s.format (u ++ fs)) : ∃ s₁,
    s₁.format = s.format + u.length ∧ s₁.parg = q ∧ s₁.salida = s.salida ++ v.map entero ∧
      (∀ a ∈ s₁.leidas, a ∈ s.leidas ∨ a < s.format + u.length) ∧ EnMem m s₁.format fs ∧
      ∃ n, ∀ fuel > n, printk m basura (fuel + 1) s = printk m basura fuel s₁ := by
  have hdir : ∀ c, u = [PORCIENTO, c] → ∃ s₁,
      s₁.format = s.format + u.length ∧ s₁.parg = q ∧ s₁.salida = s.salida ++ v.map entero ∧
      (∀ a ∈ s₁.leidas, a ∈ s.leidas ∨ a < s.format + u.length) ∧ EnMem m s₁.format fs ∧
      ∃ n, ∀ fuel > n, printk m basura (fuel + 1) s = printk m basura fuel s₁ := by
    rintro c rfl
    obtain ⟨h1, -, h2, -, hfs⟩ := hm
    obtain ⟨buf, n, hn⟩ := directiva_pieza (s := s.sigue.sigue) (basura (s.format + 2)) h
    refine ⟨{ s.sigue.sigue with parg := q, buf := buf, salida := s.salida ++ v.map entero }, rfl,
      rfl, rfl, fun a ha => ?_, hfs, n, fun fuel hf => ?_⟩
    · simp only [Impresion.sigue, List.mem_append, List.mem_singleton] at ha
      rw [List.length_cons, List.length_singleton]
      rcases ha with (ha | rfl) | rfl
      · exact Or.inl ha
      · exact Or.inr (by omega)
      · exact Or.inr (by omega)
    · rw [printk_porciento h1, h2, hn fuel hf]
      rfl
  cases h with
  | @literal c _ hc =>
    obtain ⟨h1, h0, hfs⟩ := hm
    refine ⟨{ s.sigue with salida := s.salida ++ [entero c] }, rfl, rfl, rfl, fun a ha => ?_, hfs, 0,
      fun fuel _ => ?_⟩
    · simp only [Impresion.sigue, List.mem_append, List.mem_singleton] at ha
      rw [List.length_singleton]
      rcases ha with ha | rfl
      · exact Or.inl ha
      · exact Or.inr (by omega)
    · rw [printk_literal (by rwa [h1]) (by rwa [h1]), h1]
  | letra => exact hdir _ rfl
  | numero => exact hdir _ rfl
  | cadena => exact hdir _ rfl
  | otra => exact hdir _ rfl

/-! ### The whole format -/

/-- **A format that is closed** is rendered. -/
lemma printk_cerrado (basura : ℕ → ℕ → Byte) (h : Rinde m fs p t r) {s : Impresion}
    (hp : s.parg = p) (hm : EnMem m s.format fs) (hc : cerrado fs = true) :
    ∃ s', Imprime fs t r s s' ∧ ∃ n, ∀ fuel > n, printk m basura fuel s = some s' := by
  induction h generalizing s with
  | fin p =>
    subst hp
    refine ⟨s.sigue, ⟨?_, rfl, fun a ha => ?_⟩, 0, fun fuel hf => ?_⟩
    · rw [List.map_nil, List.append_nil]
      rfl
    · simp only [Impresion.sigue, List.mem_append, List.mem_singleton] at ha
      exact ha.imp_right fun he => he.le
    · obtain ⟨fuel, rfl⟩ := Nat.exists_eq_succ_of_ne_zero (show fuel ≠ 0 by omega)
      exact printk_fin hm
  | sola p => exact absurd hc (by decide)
  | @pieza u v fs t p q r hu hfs ih =>
    subst hp
    rw [hu.cerrado] at hc
    obtain ⟨s₁, hf₁, hp₁, hs₁, hl₁, hm₁, n₁, hn₁⟩ := printk_pieza basura hu hm
    obtain ⟨s', hi, n, hn⟩ := ih hp₁ hm₁ hc
    refine ⟨s', ⟨?_, hi.parg, fun a ha => ?_⟩, max n n₁ + 1, fun fuel hf => ?_⟩
    · rw [hi.salida, hs₁, List.map_append, List.append_assoc]
    · rw [List.length_append]
      rcases hi.leidas a ha with ha | ha
      · exact (hl₁ a ha).imp_right fun hlt => by omega
      · exact Or.inr (by omega)
    · obtain ⟨fuel, rfl⟩ := Nat.exists_eq_succ_of_ne_zero (show fuel ≠ 0 by omega)
      rw [hn₁ fuel (by omega), hn fuel (by omega)]

/-- Whatever the loop ends with, it has looked at the byte it began at. -/
lemma printk_leidas (h : printk m basura fuel s = some s') :
    ∀ a, a ∈ s.leidas ∨ a = s.format → a ∈ s'.leidas := by
  induction fuel generalizing s with
  | zero => cases h
  | succ fuel ih =>
    intro a ha
    have hsig : a ∈ s.sigue.leidas := by
      simpa [Impresion.sigue] using ha
    by_cases h0 : rd8 m s.format = 0
    · rw [printk_fin h0] at h
      obtain rfl := Option.some.inj h
      exact hsig
    · by_cases hc : rd8 m s.format = PORCIENTO
      · rw [printk_porciento hc] at h
        obtain ⟨s₂, h₂, h⟩ := Option.bind_eq_some_iff.mp h
        obtain ⟨-, hl⟩ := directiva_some h₂
        refine ih h a (Or.inl ?_)
        rw [hl]
        exact List.mem_append_left _ hsig
      · rw [printk_literal h0 hc] at h
        exact ih h a (Or.inl hsig)

/-- **A format that is not** is read past its terminator, if its loop ends at all. -/
lemma printk_abierto (hc : cerrado fs = false) (hm : EnMem m s.format fs)
    (h : printk m basura fuel s = some s') : s.format + fs.length + 1 ∈ s'.leidas := by
  induction fs using cerrado.induct generalizing s fuel with
  | case1 => cases hc
  | case2 c =>
    obtain rfl : c = PORCIENTO := by simpa [cerrado] using hc
    cases fuel with
    | zero => cases h
    | succ fuel =>
      -- the terminator is taken for the byte after the `%`
      rw [printk_porciento hm.1] at h
      obtain ⟨s₂, h₂, h⟩ := Option.bind_eq_some_iff.mp h
      obtain ⟨hf, -⟩ := directiva_some h₂
      exact printk_leidas h _ (Or.inr (hf.trans (by rfl)).symm)
  | case3 c' fs ih =>
    obtain ⟨h1, -, -, -, hfs⟩ := hm
    have hc : cerrado fs = false := by simpa [cerrado] using hc
    cases fuel with
    | zero => cases h
    | succ fuel =>
      rw [printk_porciento h1] at h
      obtain ⟨s₂, h₂, h⟩ := Option.bind_eq_some_iff.mp h
      obtain ⟨hf, -⟩ := directiva_some h₂
      have hin := ih hc (s := s₂) (by rw [hf]; exact hfs) h
      rw [hf] at hin
      refine (congrArg (· ∈ s'.leidas) ?_).mp hin
      simp only [Impresion.sigue, List.length_cons]
      omega
  | case4 c c' fs hp ih =>
    obtain ⟨h1, h0, hfs⟩ := hm
    have he : cerrado (c :: c' :: fs) = cerrado (c' :: fs) := if_neg hp
    rw [he] at hc
    cases fuel with
    | zero => cases h
    | succ fuel =>
      rw [printk_literal (by rwa [h1]) (by rwa [h1])] at h
      have hin := ih hc (s := { s.sigue with salida := s.salida ++ [entero (rd8 m s.format)] }) hfs h
      refine (congrArg (· ∈ s'.leidas) ?_).mp hin
      simp only [Impresion.sigue, List.length_cons]
      omega

/-! ### Any run -/

lemma vaciar_mono {p : ℕ → Byte} {fuel' j : ℕ} {l : List Entero} (hf : fuel ≤ fuel')
    (h : vaciar p fuel j = some l) : vaciar p fuel' j = some l := by
  induction fuel generalizing fuel' j l with
  | zero => cases h
  | succ fuel ih =>
    obtain ⟨fuel', rfl⟩ := Nat.exists_eq_succ_of_ne_zero (show fuel' ≠ 0 by omega)
    rw [vaciar] at h ⊢
    split_ifs at h ⊢
    · obtain ⟨l', hl', rfl⟩ := Option.map_eq_some_iff.mp h
      rw [ih (by omega) hl', Option.map_some]
    · exact h

lemma vaciar_entero {p : ℕ → Byte} {j : ℕ} {l : List Entero} (h : vaciar p fuel j = some l) :
    ∃ t : List Byte, l = t.map entero := by
  induction fuel generalizing j l with
  | zero => cases h
  | succ fuel ih =>
    rw [vaciar] at h
    split_ifs at h
    · obtain ⟨l', hl', rfl⟩ := Option.map_eq_some_iff.mp h
      obtain ⟨t, rfl⟩ := ih hl'
      exact ⟨p j :: t, rfl⟩
    · obtain rfl := Option.some.inj h
      exact ⟨[], rfl⟩

lemma directiva_mono {a : ℕ → Byte} {fuel' : ℕ} {c : Entero} (hf : fuel ≤ fuel')
    (h : directiva m a fuel c s = some s') : directiva m a fuel' c s = some s' := by
  unfold directiva at h ⊢
  split_ifs at h ⊢
  · exact h
  · obtain ⟨l, hl, rfl⟩ := Option.map_eq_some_iff.mp h
    exact Option.map_eq_some_iff.mpr ⟨l, vaciar_mono hf hl, rfl⟩
  · obtain ⟨l, hl, rfl⟩ := Option.map_eq_some_iff.mp h
    exact Option.map_eq_some_iff.mpr ⟨l, vaciar_mono hf hl, rfl⟩
  · exact h

lemma directiva_entero {a : ℕ → Byte} {c : Entero} (h : directiva m a fuel c s = some s') :
    ∃ t : List Byte, s'.salida = s.salida ++ t.map entero := by
  unfold directiva at h
  split_ifs at h
  · obtain rfl := Option.some.inj h
    exact ⟨[rd8 m s.parg], rfl⟩
  · obtain ⟨l, hl, rfl⟩ := Option.map_eq_some_iff.mp h
    obtain ⟨t, rfl⟩ := vaciar_entero hl
    exact ⟨t, rfl⟩
  · obtain ⟨l, hl, rfl⟩ := Option.map_eq_some_iff.mp h
    obtain ⟨t, rfl⟩ := vaciar_entero hl
    exact ⟨t, rfl⟩
  · obtain rfl := Option.some.inj h
    exact ⟨[], (List.append_nil _).symm⟩

lemma printk_mono {fuel' : ℕ} (hf : fuel ≤ fuel') (h : printk m basura fuel s = some s') :
    printk m basura fuel' s = some s' := by
  induction fuel generalizing fuel' s with
  | zero => cases h
  | succ fuel ih =>
    obtain ⟨fuel', rfl⟩ := Nat.exists_eq_succ_of_ne_zero (show fuel' ≠ 0 by omega)
    by_cases h0 : rd8 m s.format = 0
    · rwa [printk_fin h0] at h ⊢
    · by_cases hc : rd8 m s.format = PORCIENTO
      · rw [printk_porciento hc] at h ⊢
        obtain ⟨s₂, h₂, h⟩ := Option.bind_eq_some_iff.mp h
        rw [directiva_mono (by omega) h₂, Option.bind_some]
        exact ih (by omega) h
      · rw [printk_literal h0 hc] at h ⊢
        exact ih (by omega) h

/-- **`printk` gives `putc` bytes**, whatever its format. -/
lemma printk_entero (h : printk m basura fuel s = some s') :
    ∃ t : List Byte, s'.salida = s.salida ++ t.map entero := by
  induction fuel generalizing s with
  | zero => cases h
  | succ fuel ih =>
    by_cases h0 : rd8 m s.format = 0
    · rw [printk_fin h0] at h
      obtain rfl := Option.some.inj h
      exact ⟨[], (List.append_nil _).symm⟩
    · by_cases hc : rd8 m s.format = PORCIENTO
      · rw [printk_porciento hc] at h
        obtain ⟨s₂, h₂, h⟩ := Option.bind_eq_some_iff.mp h
        obtain ⟨t₂, ht₂⟩ := directiva_entero h₂
        obtain ⟨t, ht⟩ := ih h
        refine ⟨t₂ ++ t, ?_⟩
        rw [ht, ht₂, List.map_append, List.append_assoc]
        rfl
      · rw [printk_literal h0 hc] at h
        obtain ⟨t, ht⟩ := ih h
        refine ⟨rd8 m s.format :: t, ?_⟩
        rw [ht]
        exact List.append_assoc _ [_] _

def inicio (f p : ℕ) (buf : ℕ → Byte) : Impresion := ⟨f, p, buf, [], []⟩

/-- **`printk` renders exactly its format** just when the format does not end in a `%` that no
byte follows. -/
theorem printk_rinde (hm : EnMem m f fs) (h : Rinde m fs p t q) (basura : ℕ → ℕ → Byte)
    (buf : ℕ → Byte) : (∃ s', Imprime fs t q (inicio f p buf) s' ∧
      ∃ n, ∀ fuel > n, printk m basura fuel (inicio f p buf) = some s') ↔ cerrado fs = true := by
  constructor
  · rintro ⟨s', hi, n, hn⟩
    by_contra hc
    have hin := printk_abierto (s := inicio f p buf) (by simpa using hc) hm (hn (n + 1) (by omega))
    rcases hi.leidas _ hin with hno | hle
    · exact absurd hno List.not_mem_nil
    · omega
  · exact printk_cerrado basura h (s := inicio f p buf) rfl hm

def memLetra : Mem := fun a =>
  if a = 0x1000 then 0x61 else if a = 0x1001 then PORCIENTO else if a = 0x1002 then LETRA
  else if a = 0x2000 then 0x62 else 0

theorem printk_rinde_letra :
    (∃ s', Imprime [0x61, PORCIENTO, LETRA] [0x61, 0x62] 0x2004
        (inicio 0x1000 0x2000 fun _ => 0xcc) s' ∧
      ∃ n, ∀ fuel > n, printk memLetra (fun _ _ => 0xcc) fuel
        (inicio 0x1000 0x2000 fun _ => 0xcc) = some s') ↔
      cerrado [0x61, PORCIENTO, LETRA] = true :=
  printk_rinde (show EnMem memLetra 0x1000 [0x61, PORCIENTO, LETRA] by decide)
    (.pieza (.literal 0x2000 (by decide)) (.pieza (.letra 0x2000) (.fin 0x2004)))
    (fun _ _ => 0xcc) fun _ => 0xcc

def memSola : Mem := fun a => if a = 0x1000 then PORCIENTO else 0

/-- The loop goes past the terminator of `"%"`. -/
theorem printk_sola : EnMem memSola 0x1000 [PORCIENTO] ∧
    Rinde memSola [PORCIENTO] 0x2000 [] 0x2000 ∧
    ¬ ∃ s', Imprime [PORCIENTO] [] 0x2000 (inicio 0x1000 0x2000 fun _ => 0) s' ∧
      ∃ n, ∀ fuel > n, printk memSola (fun _ _ => 0) fuel (inicio 0x1000 0x2000 fun _ => 0) =
        some s' := by
  have hm : EnMem memSola 0x1000 [PORCIENTO] := by decide
  refine ⟨hm, .sola _, ?_⟩
  rintro ⟨s', hi, n, hn⟩
  have hin := printk_abierto (s := inicio 0x1000 0x2000 fun _ => 0) (by decide) hm
    (hn (n + 1) (by omega))
  rcases hi.leidas _ hin with hno | hle
  · exact absurd hno List.not_mem_nil
  · exact absurd hle (by decide)

end Silicio.Printk
