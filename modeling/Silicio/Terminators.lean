import Mathlib.Data.List.GetD
import Silicio.Strings

/-!
Where strings end: what `strcmp` reads and answers, and what `strcpy` and `strcat` leave.

`strcmp` looks at nothing past a terminator, but for two strings of one length that differ it
returns a local it never set. A copy writes no terminator, so it ends where the bytes it falls
on happen to be zero; and what is appended may fill the array to its last byte.
-/

namespace Silicio.Terminators

open Silicio.Loop Silicio.Bitmap Silicio.Defs Silicio.Strings

/-- A string of `n` bytes: its first zero is byte `n`. -/
structure Acaba (s : ℕ → Byte) (n : ℕ) : Prop where
  fin : s n = 0
  letras : ∀ j < n, s j ≠ 0

lemma Acaba.strlen {s : ℕ → Byte} {n : ℕ} (h : Acaba s n) (hn : n < 0xffffffff) : strlen s = n :=
  strlen_of hn h.fin h.letras

/-- `strlen` of a string too long to be measured. -/
lemma Acaba.strlen_largo {s : ℕ → Byte} {n : ℕ} (h : Acaba s n) (hn : 0xffffffff ≤ n) :
    Strings.strlen s = 0 := by
  have hc : contar s = 0xffffffff :=
    scan_eq (Nat.zero_le _) (by omega) (fun j _ hj => by simpa using h.letras j (by omega))
      fun hlt => by omega
  rw [strlen_eq, hc, if_pos rfl]

/-! ### What `strcmp` reads -/

def leeStrlen (str : ℕ → Byte) : List ℕ := List.range (contar str + 1)

/-- `while (buf[i] != 0 && (buf[i] - str[i]) == 0) i++`, at most `fuel` tests of it: where it
stops, and the places it looks at in `buf` and in `str`. -/
def comparar (buf str : ℕ → Byte) : ℕ → ℕ → Option (ℕ × List ℕ × List ℕ)
  | 0, _ => none
  | fuel + 1, i =>
    if buf i = 0 then some (i, [i], [])
    else if buf i ≠ str i then some (i, [i], [i])
    else (comparar buf str fuel (i + 1)).map fun r => (r.1, i :: r.2.1, i :: r.2.2)

structure Leida where
  ret : ℕ
  deBuf : List ℕ
  deStr : List ℕ

def strcmpLee (fuel basura : ℕ) (buf str : ℕ → Byte) : Option Leida :=
  let lb := strlen buf
  let ls := strlen str
  if lb ≠ 0 ∧ ls ≠ 0 then
    if lb = ls then
      (comparar buf str fuel 0).map fun r =>
        ⟨if r.1 = lb then 0 else basura, leeStrlen buf ++ r.2.1, leeStrlen str ++ r.2.2⟩
    else some ⟨1, leeStrlen buf, leeStrlen str⟩
  else some ⟨1, leeStrlen buf, leeStrlen str⟩

section
variable {buf str s t d : ℕ → Byte} {nb nt n m i k fuel basura : ℕ}

lemma comparar_eq (i m : ℕ) (hno : ∀ j, i ≤ j → j < i + m → buf j ≠ 0 ∧ buf j = str j)
    (hit : buf (i + m) = 0 ∨ buf (i + m) ≠ str (i + m)) : ∃ rb rs, (∀ j ∈ rb, j ≤ i + m) ∧
      (∀ j ∈ rs, j ≤ i + m) ∧ ∀ fuel > m, comparar buf str fuel i = some (i + m, rb, rs) := by
  induction m generalizing i with
  | zero =>
    by_cases h0 : buf i = 0
    · refine ⟨[i], [], by simp, by simp, fun fuel hf => ?_⟩
      obtain ⟨fuel, rfl⟩ := Nat.exists_eq_succ_of_ne_zero (show fuel ≠ 0 by omega)
      rw [comparar, if_pos h0]
      rfl
    · refine ⟨[i], [i], by simp, by simp, fun fuel hf => ?_⟩
      obtain ⟨fuel, rfl⟩ := Nat.exists_eq_succ_of_ne_zero (show fuel ≠ 0 by omega)
      have hd : buf i ≠ str i := hit.resolve_left h0
      rw [comparar, if_neg h0, if_pos hd]
      rfl
  | succ m ih =>
    obtain ⟨h0, hd⟩ := hno i le_rfl (by omega)
    rw [show i + (m + 1) = i + 1 + m by omega] at hit ⊢
    obtain ⟨rb, rs, hb, hs, he⟩ := ih (i + 1) (fun j h1 h2 => hno j (by omega) (by omega)) hit
    refine ⟨i :: rb, i :: rs, ?_, ?_, fun fuel hf => ?_⟩
    · exact List.forall_mem_cons.mpr ⟨by omega, hb⟩
    · exact List.forall_mem_cons.mpr ⟨by omega, hs⟩
    · obtain ⟨fuel, rfl⟩ := Nat.exists_eq_succ_of_ne_zero (show fuel ≠ 0 by omega)
      rw [comparar, if_neg h0, if_neg (not_not.mpr hd), he fuel (by omega)]
      rfl

lemma Acaba.leeStrlen (h : Acaba s n) (hn : n < 0xffffffff) : ∀ j ∈ leeStrlen s, j ≤ n := by
  intro j hj
  have hle := strlen_le_contar s
  have hc : contar s = n := by
    refine scan_eq (Nat.zero_le n) (by omega) (fun j _ hj => ?_) fun _ => ?_
    · simpa using h.letras j hj
    · simpa using h.fin
  rw [Terminators.leeStrlen, List.mem_range, hc] at hj
  omega

/-- **`strcmp` and its reads**: the loop ends, with the result of `strcmp`, and nothing past a
terminator has been looked at. -/
theorem strcmpLee_eq (hb : Acaba buf nb) (ht : Acaba str nt) (hnb : nb < 0xffffffff)
    (hnt : nt < 0xffffffff) (basura : ℕ) : ∃ r : Leida, r.ret = strcmp basura buf str ∧
      (∀ j ∈ r.deBuf, j ≤ nb) ∧ (∀ j ∈ r.deStr, j ≤ nt) ∧
      ∀ fuel > nb, strcmpLee fuel basura buf str = some r := by
  have hlb := hb.strlen hnb
  have hls := ht.strlen hnt
  have h1 := hb.leeStrlen hnb
  have h2 := ht.leeStrlen hnt
  unfold strcmpLee strcmp
  simp only [hlb, hls]
  by_cases hne : nb ≠ 0 ∧ nt ≠ 0
  · simp only [if_pos hne]
    by_cases he : nb = nt
    · subst he
      set p := fun i => buf i == 0#8 || buf i != str i with hp
      have hle := scan_le (p := p) nb 0
      have hno : ∀ j, 0 ≤ j → j < 0 + scan p nb 0 → buf j ≠ 0 ∧ buf j = str j := by
        intro j _ hj
        have := before_scan (p := p) (n := nb) (Nat.zero_le j) (by omega)
        simpa [hp] using this
      have hit : buf (0 + scan p nb 0) = 0 ∨ buf (0 + scan p nb 0) ≠ str (0 + scan p nb 0) := by
        rw [Nat.zero_add]
        rcases Nat.lt_or_ge (scan p nb 0) nb with hlt | hge
        · simpa [hp] using at_scan (p := p) (n := nb) (i := 0) (by omega)
        · exact Or.inl (by rw [show scan p nb 0 = nb by omega, hb.fin])
      obtain ⟨rb, rs, hrb, hrs, hcomp⟩ := comparar_eq 0 (scan p nb 0) hno hit
      rw [Nat.zero_add] at hrb hrs hcomp
      refine ⟨⟨if scan p nb 0 = nb then 0 else basura, leeStrlen buf ++ rb, leeStrlen str ++ rs⟩,
        ?_, fun j hj => ?_, fun j hj => ?_, fun fuel hf => ?_⟩
      · rw [if_pos rfl]
      · rcases List.mem_append.mp hj with hj | hj
        · exact h1 j hj
        · exact (hrb j hj).trans (by omega)
      · rcases List.mem_append.mp hj with hj | hj
        · exact h2 j hj
        · exact (hrs j hj).trans (by omega)
      · rw [if_pos rfl, hcomp fuel (by omega)]
        rfl
    · simp only [if_neg he]
      exact ⟨_, rfl, h1, h2, fun _ _ => rfl⟩
  · simp only [if_neg hne]
    exact ⟨_, rfl, h1, h2, fun _ _ => rfl⟩

/-- What `strcmp` owes: it ends, its answer is 0 for equal strings only, and it has looked at
nothing past a terminator. -/
structure Compara (basura : ℕ) (buf : ℕ → Byte) (nb : ℕ) (str : ℕ → Byte) (nt : ℕ) (r : Leida) :
    Prop where
  acaba : ∀ fuel > nb, strcmpLee fuel basura buf str = some r
  decide : r.ret = 0 ↔ nb = nt ∧ ∀ j < nb, buf j = str j
  buf : ∀ j ∈ r.deBuf, j ≤ nb
  str : ∀ j ∈ r.deStr, j ≤ nt

/-- **`strcmp` decides equality** whatever its locals held just when the lengths differ or the
strings are equal; with given locals, also when the one it returns without setting is not 0. -/
theorem strcmp_decide (hb : Acaba buf nb) (ht : Acaba str nt) (hnb : 0 < nb)
    (hlb : nb < 2 ^ 32 - 1) (hls : nt < 2 ^ 32 - 1) :
    ((∀ basura, ∃ r, Compara basura buf nb str nt r) ↔
      nb ≠ nt ∨ ∀ j < nb, buf j = str j) ∧
    ∀ basura, (∃ r, Compara basura buf nb str nt r) ↔
      nb ≠ nt ∨ (∀ j < nb, buf j = str j) ∨ basura ≠ 0 := by
  have hiff : ∀ basura, (∃ r, Compara basura buf nb str nt r) ↔
      nb ≠ nt ∨ (∀ j < nb, buf j = str j) ∨ basura ≠ 0 := by
    intro basura
    obtain ⟨r, hr, h1, h2, hfuel⟩ := strcmpLee_eq hb ht hlb hls basura
    have h0 : r.ret = 0 ↔ nb = nt ∧ ((∀ j < nb, buf j = str j) ∨ basura = 0) := by
      rw [hr, strcmp_eq_zero, hb.strlen hlb, ht.strlen hls]
      exact and_iff_right (by omega)
    constructor
    · rintro ⟨r', h⟩
      obtain rfl : r = r' :=
        Option.some.inj ((hfuel _ (Nat.lt_succ_self nb)).symm.trans (h.acaba _ (Nat.lt_succ_self nb)))
      have hd := h.decide
      rw [h0] at hd
      by_cases he : nb = nt
      · by_cases hz : basura = 0
        · exact Or.inr (Or.inl (hd.mp ⟨he, Or.inr hz⟩).2)
        · exact Or.inr (Or.inr hz)
      · exact Or.inl he
    · intro h
      refine ⟨r, hfuel, h0.trans (and_congr_right fun he => ?_), h1, h2⟩
      rcases h with hne | hall | hz
      · exact absurd he hne
      · exact iff_of_true (Or.inl hall) hall
      · exact or_iff_left hz
  refine ⟨⟨fun hall => ?_, fun h basura => (hiff basura).mpr ?_⟩, hiff⟩
  · rcases (hiff 0).mp (hall 0) with h | h | h
    · exact Or.inl h
    · exact Or.inr h
    · exact absurd rfl h
  · exact h.imp_right Or.inl

end

def literal (l : List Byte) (j : ℕ) : Byte := l.getD j 0

lemma literal_acaba {l : List Byte} (h : ∀ b ∈ l, b ≠ 0) : Acaba (literal l) l.length := by
  refine ⟨?_, fun j hj => ?_⟩
  · rw [literal, List.getD_eq_default _ _ le_rfl]
  · rw [literal, List.getD_eq_getElem _ _ hj]
    exact h _ (List.getElem_mem hj)

/-- `fd0` and `fd00`. -/
theorem strcmp_decide_fd : ∃ r, Compara 0 (literal [0x66, 0x64, 0x30]) 3
    (literal [0x66, 0x64, 0x30, 0x30]) 4 r :=
  ((strcmp_decide (literal_acaba (l := [0x66, 0x64, 0x30]) (by decide))
    (literal_acaba (l := [0x66, 0x64, 0x30, 0x30]) (by decide)) (by decide) (by decide)
    (by decide)).1.mpr (Or.inl (by decide))) 0

/-- `fd0` is found equal to `fd1` when the local holds 0. -/
theorem strcmp_basura : ¬ ∃ r, Compara 0 (literal [0x66, 0x64, 0x30]) 3
    (literal [0x66, 0x64, 0x31]) 3 r := by
  have hb := literal_acaba (l := [0x66, 0x64, 0x30]) (by decide)
  have ht := literal_acaba (l := [0x66, 0x64, 0x31]) (by decide)
  rintro ⟨r, h⟩
  obtain ⟨r', hr, -, -, hfuel⟩ := strcmpLee_eq hb ht (by decide) (by decide) 0
  obtain rfl : r' = r := Option.some.inj ((hfuel 4 (by decide)).symm.trans (h.acaba 4 (by decide)))
  have h0 : r'.ret = 0 := by
    rw [hr, strcmp_eq_zero, hb.strlen (by decide), ht.strlen (by decide)]
    exact ⟨by decide, rfl, Or.inr rfl⟩
  have higuales := (h.decide.mp h0).2 2 (by decide)
  exact absurd higuales (by decide)

/-! ### Copies and what is appended to them -/

section
variable {s t d : ℕ → Byte} {n m : ℕ}

/-- The array `d` holds the `n` bytes of `s` and a terminator. -/
structure Copia (n : ℕ) (s d : ℕ → Byte) : Prop where
  cabe : n < MAX_STRING
  letras : ∀ j < n, d j = s j
  fin : d n = 0

/-- What `strcat` owes of a string `s` of `n` bytes in the array `d` and a string `t` of `m`. -/
structure Agrega (n m : ℕ) (s t d : ℕ → Byte) (r : ℕ × (ℕ → Byte)) : Prop where
  ret : r.1 = 0 ∨ r.1 = 1
  cabe : r.1 = 1 ↔ MAX_STRING < n + m + 1
  uno : r.1 = 1 → r.2 = d
  cero : r.1 = 0 → Copia (n + m) (fun j => if j < n then s j else t (j - n)) r.2

lemma strcpy_acaba (hs : Acaba s n) (hn : n < MAX_STRING) (d : ℕ → Byte) (j : ℕ) :
    (strcpy s d).2 j = if j < n then s j else d j := by
  rw [strcpy_apply, hs.strlen (hn.trans (by decide))]
  exact if_congr (and_iff_left hn.le) rfl rfl

lemma copia_iff (hs : Acaba s n) (hn : n < MAX_STRING) (d : ℕ → Byte) :
    Copia n s (strcpy s d).2 ↔ d n = 0 := by
  have hj := strcpy_acaba hs hn d
  constructor
  · intro h
    have hfin := h.fin
    rwa [hj, if_neg (lt_irrefl n)] at hfin
  · intro h
    refine ⟨hn, fun j hlt => ?_, ?_⟩
    · rw [hj, if_pos hlt]
    · rwa [hj, if_neg (lt_irrefl n)]

/-- `strcat` onto a string: the test is made on the sum, which wraps. -/
lemma strcat_acaba {c : ℕ → Byte} (hc : Acaba c n) (hn : n < MAX_STRING) (t : ℕ → Byte) :
    strcat c t = if (n + strlen t) % 2 ^ 32 > MAX_STRING then (1, c)
      else (0, fun j => if j < n then c j else (strcpy t fun j => c (n + j)).2 (j - n)) := by
  unfold strcat
  simp only [hc.strlen (hn.trans (by decide))]

section
variable {c : ℕ → Byte}

lemma Copia.acaba (hc : Copia n s c) (hs : Acaba s n) : Acaba c n :=
  ⟨hc.fin, fun j hj => by rw [hc.letras j hj]; exact hs.letras j hj⟩

lemma strcat_cabe (hc : Copia n s c) (hs : Acaba s n) (ht : Acaba t m) (h : n + m < MAX_STRING) :
    strcat c t = (0, fun j => if j < n then s j else if j < n + m then t (j - n) else c j) := by
  simp only [MAX_STRING] at h
  have hm : m < 0xffffffff := by omega
  rw [strcat_acaba (hc.acaba hs) hc.cabe, ht.strlen hm,
    if_neg (by simp only [MAX_STRING]; omega)]
  refine Prod.ext rfl (funext fun j => ?_)
  simp only
  by_cases hj : j < n
  · rw [if_pos hj, if_pos hj, hc.letras j hj]
  · rw [if_neg hj, if_neg hj, strcpy_acaba ht (by simp only [MAX_STRING]; omega),
      show n + (j - n) = j by omega]
    exact if_congr (by omega) rfl rfl

lemma agrega_cabe (hc : Copia n s c) (hs : Acaba s n) (ht : Acaba t m) (h : n + m < MAX_STRING) :
    Agrega n m s t c (strcat c t) ↔ c (n + m) = 0 := by
  rw [strcat_cabe hc hs ht h]
  constructor
  · intro ha
    have hfin := (ha.cero rfl).fin
    simp only at hfin
    rwa [if_neg (by omega), if_neg (lt_irrefl _)] at hfin
  · intro h0
    refine ⟨Or.inl rfl, ⟨fun he => absurd he Nat.zero_ne_one, fun he => by omega⟩,
      fun he => absurd he Nat.zero_ne_one, fun _ => ⟨h, fun j hj => ?_, ?_⟩⟩
    · simp only
      rw [if_pos hj]
    · simp only
      rw [if_neg (by omega), if_neg (lt_irrefl _), h0]

/-- A sum that passes the test without room for the terminator. -/
lemma not_agrega (hc : Acaba c n) (hn : n < MAX_STRING)
    (hle : (n + strlen t) % 2 ^ 32 ≤ MAX_STRING) (hge : MAX_STRING ≤ n + m) :
    ¬ Agrega n m s t c (strcat c t) := by
  intro h
  have hcabe := h.cabe.mpr (by omega)
  rw [strcat_acaba hc hn, if_neg (Nat.not_lt.mpr hle)] at hcabe
  exact absurd hcabe Nat.zero_ne_one

lemma agrega_rechaza (hc : Acaba c n) (hn : n < MAX_STRING)
    (hgt : MAX_STRING < (n + strlen t) % 2 ^ 32) (hge : MAX_STRING < n + m) :
    Agrega n m s t c (strcat c t) := by
  rw [strcat_acaba hc hn, if_pos hgt]
  exact ⟨Or.inr rfl, iff_of_true rfl (by omega), fun _ => rfl, fun h => absurd h Nat.one_ne_zero⟩

lemma agrega_iff (hc : Copia n s c) (hs : Acaba s n) (ht : Acaba t m) :
    Agrega n m s t c (strcat c t) ↔
      (n + m < MAX_STRING ∧ c (n + m) = 0) ∨
        (MAX_STRING < n + m ∧ n + m < 2 ^ 32 ∧ m < 2 ^ 32 - 1) := by
  have hn := hc.cabe
  have hca := hc.acaba hs
  rcases Nat.lt_or_ge (n + m) MAX_STRING with hlt | hge
  · rw [agrega_cabe hc hs ht hlt]
    refine ⟨fun h => Or.inl ⟨hlt, h⟩, ?_⟩
    rintro (⟨-, h⟩ | ⟨h, -⟩)
    · exact h
    · omega
  rw [or_iff_right fun h => by omega]
  simp only [MAX_STRING] at hn hge
  -- the sum that is tested is that of the lengths, or one that has gone round
  by_cases hsum : n + m < 2 ^ 32 ∧ m < 2 ^ 32 - 1
  · have hlen := ht.strlen (show m < 0xffffffff by omega)
    rcases hge.eq_or_lt with heq | hgt
    · refine iff_of_false (not_agrega hca hc.cabe ?_ hge) ?_
      · rw [hlen]
        simp only [MAX_STRING]
        omega
      · simp only [MAX_STRING]
        omega
    · refine iff_of_true (agrega_rechaza hca hc.cabe ?_ hgt) ⟨hgt, hsum⟩
      rw [hlen]
      simp only [MAX_STRING]
      omega
  · refine iff_of_false (not_agrega hca hc.cabe ?_ hge) fun h => hsum h.2
    rcases Nat.lt_or_ge m 0xffffffff with hm | hm
    · rw [ht.strlen hm]
      simp only [MAX_STRING]
      omega
    · rw [ht.strlen_largo hm]
      simp only [MAX_STRING]
      omega

end

/-- **Copies are strings** just when the byte of the array they end at was 0 before; and what is
appended to one makes a string, or is refused for want of room, just when it ends at such a byte, or
the two lengths together are more than the array's, without wrapping. -/
theorem strcpy_strcat (hs : Acaba s n) (hn : n < MAX_STRING) (ht : Acaba t m) (d : ℕ → Byte) :
    (Copia n s (strcpy s d).2 ↔ d n = 0) ∧
    (Copia n s (strcpy s d).2 ∧ Agrega n m s t (strcpy s d).2 (strcat (strcpy s d).2 t) ↔
      d n = 0 ∧ ((n + m < MAX_STRING ∧ d (n + m) = 0) ∨
        (MAX_STRING < n + m ∧ n + m < 2 ^ 32 ∧ m < 2 ^ 32 - 1))) := by
  have hiff := copia_iff hs hn d
  refine ⟨hiff, ?_⟩
  have hfin : (strcpy s d).2 (n + m) = d (n + m) := by
    rw [strcpy_acaba hs hn, if_neg (by omega)]
  constructor
  · rintro ⟨hc, ha⟩
    have h := (agrega_iff hc hs ht).mp ha
    rw [hfin] at h
    exact ⟨hiff.mp hc, h⟩
  · rintro ⟨h0, h⟩
    have hc := hiff.mpr h0
    refine ⟨hc, (agrega_iff hc hs ht).mpr ?_⟩
    rwa [hfin]

end

/-- `fd` and then `0`, in an array never used. -/
theorem strcpy_strcat_limpia : Copia 2 (literal [0x66, 0x64]) (strcpy
      (literal [0x66, 0x64]) fun _ => 0).2 ∧
    Agrega 2 1 (literal [0x66, 0x64]) (literal [0x30]) (strcpy (literal [0x66, 0x64]) fun _ => 0).2
      (strcat (strcpy (literal [0x66, 0x64]) fun _ => 0).2 (literal [0x30])) :=
  (strcpy_strcat (literal_acaba (l := [0x66, 0x64]) (by decide)) (by decide)
    (literal_acaba (l := [0x30]) (by decide)) fun _ => 0).2.mpr
      ⟨rfl, Or.inl ⟨by decide, rfl⟩⟩

/-- In an array that held a longer name the copy does not end where it should; and a string that
leaves no room for its terminator is appended all the same. -/
theorem copia_sin_fin :
    ¬ Copia 2 (literal [0x66, 0x64]) (strcpy (literal [0x66, 0x64])
      (literal [0x68, 0x64, 0x30])).2 ∧
    (strcat (strcpy (literal [0x66]) fun _ => 0).2 (literal (List.replicate 1023 0x61))).1 = 0 ∧
    ¬ Agrega 1 1023 (literal [0x66]) (literal (List.replicate 1023 0x61))
      (strcpy (literal [0x66]) fun _ => 0).2
      (strcat (strcpy (literal [0x66]) fun _ => 0).2 (literal (List.replicate 1023 0x61))) := by
  have ha : Acaba (literal [0x66]) 1 := literal_acaba (l := [0x66]) (by decide)
  have hl : Acaba (literal (List.replicate 1023 0x61)) 1023 := by
    have := literal_acaba (l := List.replicate 1023 (0x61 : Byte)) fun b hb => by
      rw [List.eq_of_mem_replicate hb]
      decide
    rwa [List.length_replicate] at this
  have hc : Copia 1 (literal [0x66]) (strcpy (literal [0x66]) fun _ => 0).2 :=
    (copia_iff ha (by decide) _).mpr rfl
  have hno := mt (agrega_iff hc ha hl).mp (by simp only [MAX_STRING]; omega)
  refine ⟨fun h => ?_, ?_, hno⟩
  · have := (copia_iff (literal_acaba (l := [0x66, 0x64]) (by decide)) (by decide) _).mp h
    exact absurd this (by decide)
  · rw [strcat_acaba (hc.acaba ha) (by decide), hl.strlen (by decide)]
    rfl

end Silicio.Terminators
