import Mathlib.Data.List.TakeWhile
import Silicio.Ext2

/-!
The live entry of a name: `string2dir` on a well-formed block.

The scan neither stops at a match nor passes over an entry without an inode, so the last entry of
the name wins: the live one is found unless an unused one after it still has its name.
-/

namespace Silicio.Entries

open Silicio.Loop Silicio.Bitmap Silicio.Ext2

abbrev EXT2_NAME_LEN : ℕ := 255

def entrada (lo : Buf) (k : ℕ) : DirEntry := dirEntry lo (donde lo k)

def Viva (lo : Buf) (k : ℕ) : Prop := (entrada lo k).inode ≠ 0

instance (lo : Buf) (k : ℕ) : Decidable (Viva lo k) := inferInstanceAs (Decidable (_ ≠ _))

/-- A block of a directory: `K` entries that cover `size` bytes. -/
structure Bloque (lo : Buf) (size K : ℕ) : Prop where
  directorio : Directorio lo size K
  size : size ≤ 4096
  nameLen : ∀ k < K, (entrada lo k).nameLen < EXT2_NAME_LEN
  name : ∀ k < K, ∀ b ∈ (entrada lo k).fichero, b ≠ 0
  vivas : ∀ k < K, ∀ l < K, Viva lo k → Viva lo l →
    (entrada lo k).fichero = (entrada lo l).fichero → k = l

structure Consulta (file : List Byte) : Prop where
  length : 1 ≤ file.length ∧ file.length < EXT2_NAME_LEN
  letras : ∀ b ∈ file, b ≠ 0

/-- What a lookup owes: the live entry of the name, copied, or 0 if there is none. -/
structure Cumple (lo : Buf) (size K : ℕ) (file : List Byte) (deFile : DirEntry) : Prop where
  viva : ∀ k < K, Viva lo k → (entrada lo k).fichero = file → ∃ d,
    (∀ fuel > K, string2dir fuel lo file deFile size = some ((entrada lo k).inode, d)) ∧
      Copiada (entrada lo k) d
  cero : (∃ d, ∀ fuel > K, string2dir fuel lo file deFile size = some (0, d)) ↔
    ∀ k < K, Viva lo k → (entrada lo k).fichero ≠ file

variable {lo : Buf} {size K k : ℕ} {file : List Byte} {de : DirEntry}

lemma cadena_eq {l : List Byte} (h : ∀ b ∈ l, b ≠ 0) : cadena l = l := by
  unfold cadena
  rw [List.takeWhile_eq_self_iff]
  exact fun b hb => by simpa using h b hb

lemma Bloque.llama_iff (hb : Bloque lo size K) (hq : Consulta file) (hk : k < K) :
    Llama lo file k ↔ (entrada lo k).fichero = file := by
  have hname := cadena_eq (hb.name k hk)
  unfold entrada at hname ⊢
  rw [Llama, cadena_eq hq.letras, hname, eq_comm]

/-- **What the scan returns**: the inode of the last entry of the name, which it copies, or 0. -/
lemma Bloque.string2dir (hb : Bloque lo size K) (hq : Consulta file) (de : DirEntry) :
    (∃ i < K, (entrada lo i).fichero = file ∧
      (∀ j < K, i < j → (entrada lo j).fichero ≠ file) ∧ ∃ d, Copiada (entrada lo i) d ∧
      ∀ fuel > K, string2dir fuel lo file de size = some ((entrada lo i).inode, d)) ∨
    (∀ i < K, (entrada lo i).fichero ≠ file) ∧
      ∃ d, ∀ fuel > K, Ext2.string2dir fuel lo file de size = some (0, d) := by
  have hd := hb.directorio
  have hrun : ∀ fuel > K, Ext2.string2dir fuel lo file de size =
      some (((visitar lo file)^[K] ⟨0, 0, de⟩).ret, ((visitar lo file)^[K] ⟨0, 0, de⟩).deFile) :=
    fun fuel hf => string2dir_eq file de (fun k hk => hd.lt hk) hd.fin.ge hf
  rcases visitas_ret lo file de K with ⟨i, hi, hl, hno, hret, hcop⟩ | ⟨hno, hret⟩
  · rw [hret] at hrun
    exact Or.inl ⟨i, hi, (hb.llama_iff hq hi).mp hl,
      fun j hj hij hname => hno j hj hij ((hb.llama_iff hq hj).mpr hname), _, hcop, hrun⟩
  · rw [hret] at hrun
    exact Or.inr ⟨fun i hi hname => hno i hi ((hb.llama_iff hq hi).mpr hname), _, hrun⟩

lemma ret_unico {n m : ℕ} {d d' : DirEntry}
    (h : ∀ fuel > K, string2dir fuel lo file de size = some (n, d))
    (h' : ∀ fuel > K, string2dir fuel lo file de size = some (m, d')) : n = m := by
  have he := (h (K + 1) (Nat.lt_succ_self K)).symm.trans (h' (K + 1) (Nat.lt_succ_self K))
  exact congrArg Prod.fst (Option.some.inj he)

/-- The live entry of the name is the one returned if no unused one after it has the name. -/
lemma Bloque.viva (hb : Bloque lo size K) (hq : Consulta file) (de : DirEntry) (hk : k < K)
    (hv : Viva lo k) (hname : (entrada lo k).fichero = file)
    (hno : ∀ i < K, k < i → ¬ Viva lo i → (entrada lo i).fichero ≠ file) : ∃ d,
    (∀ fuel > K, Ext2.string2dir fuel lo file de size = some ((entrada lo k).inode, d)) ∧
      Copiada (entrada lo k) d := by
  rcases hb.string2dir hq de with ⟨l, hl, hlname, hult, d, hcop, hrun⟩ | ⟨hnadie, -⟩
  · have hlk : l = k := by
      rcases Nat.lt_trichotomy l k with hlt | he | hgt
      · exact absurd hname (hult k hk hlt)
      · exact he
      · by_cases hlviva : Viva lo l
        · exact hb.vivas l hl k hk hlviva hv (hlname.trans hname.symm)
        · exact absurd hlname (hno l hl hgt hlviva)
    subst hlk
    exact ⟨d, hrun, hcop⟩
  · exact absurd hname (hnadie k hk)

/-- **The live entry.** A lookup does what it owes just when no unused entry after the live one of
the name has that name. -/
theorem busca_viva (hb : Bloque lo size K) (hq : Consulta file) (de : DirEntry) :
    Cumple lo size K file de ↔ ∀ k < K, Viva lo k → (entrada lo k).fichero = file →
      ∀ i < K, k < i → ¬ Viva lo i → (entrada lo i).fichero ≠ file := by
  constructor
  · intro h k hk hviva hname i hi hki hmuerta hi_name
    obtain ⟨d, hrun, -⟩ := h.viva k hk hviva hname
    rcases hb.string2dir hq de with ⟨l, hl, hlname, hno, d', -, hrun'⟩ | ⟨hno, -⟩
    · -- the last entry of the name has the inode of the live one, so it is that one
      have hinode := ret_unico hrun hrun'
      have hlviva : Viva lo l := fun h0 => hviva (hinode.trans h0)
      obtain rfl := hb.vivas k hk l hl hviva hlviva (hname.trans hlname.symm)
      exact hno i hi hki hi_name
    · exact hno k hk hname
  · intro h
    refine ⟨fun k hk hv hname => hb.viva hq de hk hv hname (h k hk hv hname), ?_, fun hno => ?_⟩
    · rintro ⟨d, hrun⟩ k hk hv hname
      obtain ⟨d', hrun', -⟩ := hb.viva hq de hk hv hname (h k hk hv hname)
      exact hv (ret_unico hrun' hrun)
    · rcases hb.string2dir hq de with ⟨l, hl, hlname, -, d, -, hrun⟩ | ⟨-, d, hrun⟩
      · have h0 : (entrada lo l).inode = 0 := by_contra fun hv => hno l hl hv hlname
        rw [h0] at hrun
        exact ⟨d, hrun⟩
      · exact ⟨d, hrun⟩

/-- Two entries named `a`, with the inodes `n` and `m`. -/
def doble (n m : Byte) : Buf := fun i =>
  [n, 0, 0, 0, 12, 0, 1, 1, 0x61, 0, 0, 0, m, 0, 0, 0, 12, 0, 1, 1, 0x61, 0, 0, 0].getD i 0

lemma doble_bloque {n m : Byte} (h : n = 5 ∧ m = 0 ∨ n = 0 ∧ m = 5) : Bloque (doble n m) 24 2 := by
  rcases h with ⟨rfl, rfl⟩ | ⟨rfl, rfl⟩
  · exact ⟨⟨by decide, by decide, by decide⟩, by decide, by decide, by decide, by decide⟩
  · exact ⟨⟨by decide, by decide, by decide⟩, by decide, by decide, by decide, by decide⟩

lemma consulta_a : Consulta [0x61] := ⟨by decide, by decide⟩

/-- An unused entry before the live one does no harm. -/
theorem busca_viva_segunda : Cumple (doble 0 5) 24 2 [0x61] ⟨0, 0, 0, 0, fun _ => 0⟩ := by
  refine (busca_viva (doble_bloque (Or.inr ⟨rfl, rfl⟩)) consulta_a _).mpr
    fun k hk hviva _ i hi hki => ?_
  -- the first entry is not in use, and nothing is after the second
  have hk0 : k ≠ 0 := by
    rintro rfl
    exact hviva (by decide)
  omega

/-- An unused entry after the live one hides it. -/
theorem busca_muerta : Bloque (doble 5 0) 24 2 ∧ Consulta [0x61] ∧
    ¬ Cumple (doble 5 0) 24 2 [0x61] ⟨0, 0, 0, 0, fun _ => 0⟩ := by
  have hb := doble_bloque (Or.inl ⟨rfl, rfl⟩)
  refine ⟨hb, consulta_a, fun h => ?_⟩
  obtain ⟨d, hrun, -⟩ := h.viva 0 (by decide) (by decide) (by decide)
  have hcero : (string2dir 3 (doble 5 0) [0x61] ⟨0, 0, 0, 0, fun _ => 0⟩ 24).map Prod.fst =
      some 0 := by decide
  rw [hrun 3 (by decide), Option.map_some] at hcero
  exact absurd (show (entrada (doble 5 0) 0).inode = 0 from Option.some.inj hcero) (by decide)

end Silicio.Entries
