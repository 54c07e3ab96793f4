import Silicio.Bitmap

/-!
A name looked up in the root of an ext2 image: `fs/fs.c`.

It is a program of the host. An `unsigned long` has 32 bits, as the structures of the disk ask, and
an offset of a file is not limited. Every function seeks from the start before it reads, so the
offset is an argument of `read`. A buffer keeps what it held where `read` finds the image at its
end; past the block it holds, `lo` is whatever the stack has there, which may be walked too. The 0
that `string2dir` puts after a name of 255 bytes, one past its array, harms nothing here.
-/

namespace Silicio.Ext2

open Silicio.Loop Silicio.Bitmap

abbrev Buf := ℕ → Byte

def u16 (b : Buf) (a : ℕ) : ℕ := (b a).toNat + 2 ^ 8 * (b (a + 1)).toNat

def u32 (b : Buf) (a : ℕ) : ℕ := u16 b a + 2 ^ 16 * u16 b (a + 2)

abbrev SIZE_BOOT : ℕ := 1024
abbrev INODE_ROOT : ℕ := 2

abbrev SB_LEN : ℕ := 488
abbrev BG_LEN : ℕ := 32
abbrev INO_LEN : ℕ := 128

/-- The fields read of `ext2_super_block`, of `ext2_group_desc` and of `ext2_inode`. -/
abbrev S_FIRST_DATA_BLOCK : ℕ := 20
abbrev S_LOG_BLOCK_SIZE : ℕ := 24
abbrev S_INODES_PER_GROUP : ℕ := 40
abbrev S_MAGIC : ℕ := 56

abbrev BG_INODE_TABLE : ℕ := 8

abbrev I_SIZE : ℕ := 4
abbrev I_BLOCK : ℕ := 40

structure Imagen where
  bytes : Buf
  tam : ℕ

/-- `read` of `cant` bytes at an offset of the file. -/
def Imagen.read (img : Imagen) (pos : ℕ) (buf : Buf) (cant : ℕ) : Buf :=
  fun i => if i < cant ∧ pos + i < img.tam then img.bytes (pos + i) else buf i

structure DirEntry where
  inode : ℕ
  recLen : ℕ
  nameLen : ℕ
  fileType : ℕ
  name : Buf

structure FileDesc where
  de : DirEntry
  ino : Buf

def blockSize (block : ℕ) : ℕ := 2 ^ block % 2 ^ 32 * 1024 % 2 ^ 32

def blockJump (sizeBlock block pos : ℕ) : ℕ := loop (fun _ pos => pos + sizeBlock) block pos

def superblock (img : Imagen) (sb : Buf) : ℕ × Buf :=
  let sb := img.read SIZE_BOOT sb SB_LEN
  (if u16 sb S_MAGIC ≠ 0xef53 then 1 else 0, sb)

def group (bs : ℕ) (img : Imagen) (bg : Buf) (nGroup : ℕ) : Buf :=
  img.read ((SIZE_BOOT + bs + BG_LEN * nGroup) % 2 ^ 32) bg BG_LEN

def inode (bs : ℕ) (img : Imagen) (ino : Buf) (nInode : ℕ) (bg : Buf) : Buf :=
  img.read (blockJump bs (u32 bg BG_INODE_TABLE) 0 +
    128 * ((nInode + 2 ^ 32 - 1) % 2 ^ 32) % 2 ^ 32) ino INO_LEN

def blockLogico (bs : ℕ) (img : Imagen) (lo : Buf) (nLogic : ℕ) : Buf :=
  img.read (blockJump bs nLogic 0) lo bs

def dirEntry (lo : Buf) (j : ℕ) : DirEntry :=
  ⟨u32 lo j, u16 lo (j + 4), (lo (j + 6)).toNat, (lo (j + 7)).toNat, fun i => lo (j + 8 + i)⟩

def cadena (l : List Byte) : List Byte := l.takeWhile (· != 0)

/-- The bytes of the name of an entry. -/
def DirEntry.fichero (de : DirEntry) : List Byte := (List.range de.nameLen).map de.name

/-- What `string2dir` carries from entry to entry; `de` is at offset `j`. -/
structure Busca where
  j : ℕ
  ret : ℕ
  deFile : DirEntry

def visitar (lo : Buf) (file : List Byte) (s : Busca) : Busca :=
  let de := dirEntry lo s.j
  let s :=
    if cadena file = cadena de.fichero then
      { s with
        deFile := { de with name := fun i => if i < de.nameLen then de.name i else s.deFile.name i }
        ret := de.inode }
    else s
  { s with j := (s.j + de.recLen) % 2 ^ 32 }

/-- `string2dir`, with at most `fuel` tests of its `while`: what it returns and `*de_file`. -/
def string2dir (fuel : ℕ) (lo : Buf) (file : List Byte) (deFile : DirEntry) (size : ℕ) :
    Option (ℕ × DirEntry) :=
  (mientras (fun s => s.j < size) (visitar lo file) fuel ⟨0, 0, deFile⟩).map
    fun s => (s.ret, s.deFile)

/-- The buffers of `string2file_desc` before they are read into. -/
structure Pila where
  sb : Buf
  bg : Buf
  ino : Buf
  lo : Buf

def string2fileDesc (fuel : ℕ) (img : Imagen) (p : Pila) (file : List Byte) (inodeDir : ℕ)
    (desc : FileDesc) : Option (ℕ × FileDesc) :=
  let (r, sb) := superblock img p.sb
  if r ≠ 0 then some (2, desc)
  else
    let bs := blockSize (u32 sb S_LOG_BLOCK_SIZE)
    let ipg := u32 sb S_INODES_PER_GROUP
    let bg := group bs img p.bg (inodeDir / ipg)
    let ino := inode bs img p.ino inodeDir bg
    let lo := blockLogico bs img p.lo (u32 ino I_BLOCK)
    (string2dir fuel lo file desc.de (u32 ino I_SIZE)).map fun (ret, de) =>
      if ret = 0 then (3, { desc with de := de })
      else
        let bg := group bs img bg (de.inode % ipg)
        (0, ⟨de, inode bs img desc.ino de.inode bg⟩)

/-! ### The disk -/

def Imagen.palabra (img : Imagen) (a : ℕ) : ℕ := u32 img.bytes a

def Imagen.log (img : Imagen) : ℕ := img.palabra (SIZE_BOOT + S_LOG_BLOCK_SIZE)

def Imagen.bloque (img : Imagen) : ℕ := 1024 * 2 ^ img.log

def Imagen.ipg (img : Imagen) : ℕ := img.palabra (SIZE_BOOT + S_INODES_PER_GROUP)

def Imagen.primero (img : Imagen) : ℕ := img.palabra (SIZE_BOOT + S_FIRST_DATA_BLOCK)

/-- `bg_inode_table` of group `g`, in the table of the block after the first one with data. -/
def Imagen.tabla (img : Imagen) (g : ℕ) : ℕ :=
  img.palabra ((img.primero + 1) * img.bloque + BG_LEN * g + BG_INODE_TABLE)

/-- Where inode `n` is. -/
def Imagen.lugar (img : Imagen) (n : ℕ) : ℕ :=
  img.tabla ((n - 1) / img.ipg) * img.bloque + 128 * ((n - 1) % img.ipg)

/-- Where the code takes inode `n` to be, in a table it finds: in the group of the remainder, and
not reduced to it. -/
def Imagen.lugarResto (img : Imagen) (n : ℕ) : ℕ :=
  img.tabla (n % img.ipg) * img.bloque + 128 * (n - 1) % 2 ^ 32

def Imagen.raiz (img : Imagen) : Buf :=
  fun i => img.bytes (img.palabra (img.lugar INODE_ROOT + I_BLOCK) * img.bloque + i)

/-- The offset of entry `k` of a directory. -/
def donde (lo : Buf) (k : ℕ) : ℕ := (fun j => (j + (dirEntry lo j).recLen) % 2 ^ 32)^[k] 0

/-- `size` bytes are `K` entries. -/
structure Directorio (lo : Buf) (size K : ℕ) : Prop where
  fin : donde lo K = size
  dentro : ∀ k < K, donde lo k + (dirEntry lo (donde lo k)).recLen ≤ size
  cabe : ∀ k < K, 8 + (dirEntry lo (donde lo k)).nameLen ≤ (dirEntry lo (donde lo k)).recLen

/-- What makes an image valid, of what a lookup in its root meets. -/
structure Valida (img : Imagen) : Prop where
  magic : u16 img.bytes (SIZE_BOOT + S_MAGIC) = 0xef53
  log : img.log ≤ 2
  primero : img.primero = if img.log = 0 then 1 else 0
  ipg : 2 ≤ img.ipg
  mapa : img.ipg ≤ 8 * img.bloque
  super : SIZE_BOOT + SB_LEN ≤ img.tam
  grupo : (img.primero + 1) * img.bloque + BG_LEN ≤ img.tam
  raiz : img.lugar INODE_ROOT + INO_LEN ≤ img.tam
  bloque : (img.palabra (img.lugar INODE_ROOT + I_BLOCK) + 1) * img.bloque ≤ img.tam
  directorio : ∃ K, Directorio img.raiz img.bloque K

/-- Entry `k` of the first block of the root has the inode `n`, not 0. -/
structure Entrada (img : Imagen) (k n : ℕ) : Prop where
  dentro : ∀ i ≤ k, donde img.raiz i < img.bloque
  inode : (dirEntry img.raiz (donde img.raiz k)).inode = n
  uso : n ≠ 0

/-- The lookup ends with 0, and `desc->ino` is inode `n` of the disk. -/
def Cumple (img : Imagen) (p : Pila) (desc : FileDesc) (file : List Byte) (n : ℕ) : Prop :=
  ∃ fuel d, string2fileDesc fuel img p file INODE_ROOT desc = some (0, d) ∧
    ∀ i < INO_LEN, d.ino i = img.bytes (img.lugar n + i)

variable {img : Imagen} {p : Pila} {desc : FileDesc} {file : List Byte} {lo lo' : Buf}
  {n m k K size fuel : ℕ} {de de' : DirEntry}

/-! ### The directory -/

def Llama (lo : Buf) (file : List Byte) (k : ℕ) : Prop :=
  cadena file = cadena (dirEntry lo (donde lo k)).fichero

/-- Of the entries that start in the first `size` bytes the last one of the name has inode `m`. -/
def Ultima (lo : Buf) (size : ℕ) (file : List Byte) (m : ℕ) : Prop :=
  ∃ K, (∀ k < K, donde lo k < size) ∧ size ≤ donde lo K ∧ ∃ k < K, Llama lo file k ∧
    (dirEntry lo (donde lo k)).inode = m ∧ ∀ i < K, k < i → ¬ Llama lo file i

lemma donde_succ (lo : Buf) (k : ℕ) :
    donde lo (k + 1) = (donde lo k + (dirEntry lo (donde lo k)).recLen) % 2 ^ 32 :=
  Function.iterate_succ_apply' _ _ _

lemma visitar_j (lo : Buf) (file : List Byte) (s : Busca) :
    (visitar lo file s).j = (s.j + (dirEntry lo s.j).recLen) % 2 ^ 32 := by
  unfold visitar
  simp only
  split <;> rfl

lemma visitas_j (lo : Buf) (file : List Byte) (de : DirEntry) (k : ℕ) :
    ((visitar lo file)^[k] ⟨0, 0, de⟩).j = donde lo k := by
  induction k with
  | zero => rfl
  | succ k ih => rw [Function.iterate_succ_apply', visitar_j, ih, donde_succ]

/-- What is copied of an entry: its fields, and of its name the bytes it has. -/
structure Copiada (de d : DirEntry) : Prop where
  inode : d.inode = de.inode
  recLen : d.recLen = de.recLen
  nameLen : d.nameLen = de.nameLen
  fileType : d.fileType = de.fileType
  name : ∀ i < de.nameLen, d.name i = de.name i

lemma visitar_copia {lo : Buf} {file : List Byte} {s : Busca}
    (h : cadena file = cadena (dirEntry lo s.j).fichero) :
    (visitar lo file s).ret = (dirEntry lo s.j).inode ∧
      Copiada (dirEntry lo s.j) (visitar lo file s).deFile := by
  unfold visitar
  simp only [if_pos h]
  exact ⟨trivial, rfl, rfl, rfl, rfl, fun i hi => if_pos hi⟩

/-- What the walk has after `k` entries: the last one of the name, or 0. -/
lemma visitas_ret (lo : Buf) (file : List Byte) (de : DirEntry) (k : ℕ) :
    (∃ i < k, Llama lo file i ∧ (∀ j < k, i < j → ¬ Llama lo file j) ∧
      ((visitar lo file)^[k] ⟨0, 0, de⟩).ret = (dirEntry lo (donde lo i)).inode ∧
      Copiada (dirEntry lo (donde lo i)) ((visitar lo file)^[k] ⟨0, 0, de⟩).deFile) ∨
    (∀ i < k, ¬ Llama lo file i) ∧ ((visitar lo file)^[k] ⟨0, 0, de⟩).ret = 0 := by
  induction k with
  | zero => exact Or.inr ⟨fun i hi => absurd hi (Nat.not_lt_zero i), rfl⟩
  | succ k ih =>
    have hj := visitas_j lo file de k
    rw [Function.iterate_succ_apply']
    generalize (visitar lo file)^[k] ⟨0, 0, de⟩ = s at hj ih
    by_cases hk : Llama lo file k
    · left
      refine ⟨k, Nat.lt_succ_self k, hk, fun j h1 h2 => absurd h1 (by omega), ?_⟩
      rw [← hj]
      exact visitar_copia (by rw [hj]; exact hk)
    · have hretiene : (visitar lo file s).ret = s.ret ∧ (visitar lo file s).deFile = s.deFile := by
        unfold visitar
        rw [hj]
        simp only [if_neg (show ¬ cadena file = _ from hk), and_self]
      have hotra : ∀ j < k + 1, j ≠ k → j < k := fun j h1 h2 => by omega
      rw [hretiene.1, hretiene.2]
      rcases ih with ⟨i, hi, hl, hno, h1, h2⟩ | ⟨hno, h0⟩
      · refine Or.inl ⟨i, hi.trans (Nat.lt_succ_self k), hl, fun j h3 h4 => ?_, h1, h2⟩
        rcases eq_or_ne j k with rfl | hne
        · exact hk
        · exact hno j (hotra j h3 hne) h4
      · refine Or.inr ⟨fun j h3 => ?_, h0⟩
        rcases eq_or_ne j k with rfl | hne
        · exact hk
        · exact hno j (hotra j h3 hne)

/-- The walk ends at the first entry that starts past `size`. -/
lemma string2dir_eq (file : List Byte) (de : DirEntry) (hall : ∀ k < K, donde lo k < size)
    (hfin : size ≤ donde lo K) (hf : K < fuel) : string2dir fuel lo file de size =
      some (((visitar lo file)^[K] ⟨0, 0, de⟩).ret, ((visitar lo file)^[K] ⟨0, 0, de⟩).deFile) := by
  have hs : mientras (fun s => s.j < size) (visitar lo file) fuel ⟨0, 0, de⟩ =
      some ((visitar lo file)^[K] ⟨0, 0, de⟩) := by
    refine mientras_eq_some.mpr ⟨K, hf, fun i hi => ?_, ?_, rfl⟩
    · rw [visitas_j]
      exact hall i hi
    · rw [visitas_j]
      exact Nat.not_lt.mpr hfin
  rw [string2dir, hs, Option.map_some]

/-- **What `string2dir` finds**: the last entry of the name, if its inode is not 0. -/
lemma string2dir_some (hm : m ≠ 0) : (∃ fuel, string2dir fuel lo file de size = some (m, de')) →
    Ultima lo size file m ∧ de'.inode = m := by
  rintro ⟨fuel, h⟩
  obtain ⟨s, hs, he⟩ := Option.map_eq_some_iff.mp h
  obtain ⟨K, -, hall, hfin, rfl⟩ := mientras_eq_some.mp hs
  obtain ⟨rfl, rfl⟩ := Prod.mk.inj he
  simp only [visitas_j, not_lt] at hall hfin
  rcases visitas_ret lo file de K with ⟨i, hi, hl, hno, h1, h2⟩ | ⟨-, h0⟩
  · exact ⟨⟨K, hall, hfin, i, hi, hl, h1.symm, hno⟩, h2.inode.trans h1.symm⟩
  · exact absurd h0 hm

lemma Ultima.string2dir (h : Ultima lo size file m) (hm : m ≠ 0) (de : DirEntry) :
    ∃ fuel de', string2dir fuel lo file de size = some (m, de') ∧ de'.inode = m := by
  obtain ⟨K, hall, hfin, k, hk, hl, rfl, hno⟩ := h
  have hs := string2dir_eq file de hall hfin (Nat.lt_succ_self K)
  rcases visitas_ret lo file de K with ⟨i, hi, hli, hnoi, h1, h2⟩ | ⟨hnada, -⟩
  · have hik : i = k := by
      rcases Nat.lt_trichotomy i k with hlt | he | hgt
      · exact absurd hl (hnoi k hk hlt)
      · exact he
      · exact absurd hli (hno i hi hgt)
    subst hik
    refine ⟨K + 1, _, ?_, h2.inode⟩
    rw [hs, h1]
  · exact absurd hl (hnada k hk)

/-! ### What is read -/

/-- Where `group` reads descriptor `k`: not in the block after the first one with data, but in that
after the first 1024 bytes and a block. -/
def Imagen.grupoLeido (img : Imagen) (k : ℕ) : ℕ := (SIZE_BOOT + img.bloque + BG_LEN * k) % 2 ^ 32

/-- Where `inode` reads inode `n` for the descriptor in `bg`: the number is not reduced to the
group. -/
def Imagen.lugarLeido (img : Imagen) (bg : Buf) (n : ℕ) : ℕ :=
  u32 bg BG_INODE_TABLE * img.bloque + 128 * ((n + 2 ^ 32 - 1) % 2 ^ 32) % 2 ^ 32

def bgRaiz (img : Imagen) (p : Pila) : Buf :=
  img.read (img.grupoLeido (INODE_ROOT / img.ipg)) p.bg BG_LEN

def inoRaiz (img : Imagen) (p : Pila) : Buf :=
  img.read (img.lugarLeido (bgRaiz img p) INODE_ROOT) p.ino INO_LEN

def loRaiz (img : Imagen) (p : Pila) : Buf :=
  img.read (u32 (inoRaiz img p) I_BLOCK * img.bloque) p.lo img.bloque

/-- What is read for an inode found in the root: the descriptor is that of the remainder. -/
def inoLeido (img : Imagen) (p : Pila) (ino : Buf) (n : ℕ) : Buf :=
  img.read (img.lugarLeido (img.read (img.grupoLeido (n % img.ipg)) (bgRaiz img p) BG_LEN) n)
    ino INO_LEN

lemma u16_congr {b b' : Buf} {a a' : ℕ} (h : ∀ i < 2, b (a + i) = b' (a' + i)) :
    u16 b a = u16 b' a' := by
  have h0 := h 0 (by decide)
  rw [Nat.add_zero, Nat.add_zero] at h0
  rw [u16, u16, h0, h 1 (by decide)]

lemma u32_congr {b b' : Buf} {a a' : ℕ} (h : ∀ i < 4, b (a + i) = b' (a' + i)) :
    u32 b a = u32 b' a' := by
  have hlow : u16 b a = u16 b' a' := u16_congr fun i hi => h i (by omega)
  have hhigh : u16 b (a + 2) = u16 b' (a' + 2) := u16_congr fun i hi => by
    rw [Nat.add_assoc, Nat.add_assoc]
    exact h (2 + i) (by omega)
  rw [u32, u32, hlow, hhigh]

lemma u32_lt (b : Buf) (a : ℕ) : u32 b a < 2 ^ 32 := by
  have h0 := (b a).isLt
  have h1 := (b (a + 1)).isLt
  have h2 := (b (a + 2)).isLt
  have h3 := (b (a + 2 + 1)).isLt
  unfold u32 u16
  omega

lemma read_dentro {pos cant i : ℕ} (buf : Buf) (h : pos + cant ≤ img.tam) (hi : i < cant) :
    img.read pos buf cant i = img.bytes (pos + i) :=
  if_pos ⟨hi, by omega⟩

lemma blockJump_eq (bs k pos : ℕ) : blockJump bs k pos = pos + k * bs := by
  unfold blockJump
  induction k with
  | zero => rw [loop_zero, Nat.zero_mul, Nat.add_zero]
  | succ k ih =>
    rw [loop_succ, ih]
    ring

lemma inode_eq (img : Imagen) (ino bg : Buf) (n : ℕ) : inode img.bloque img ino n bg =
    img.read (img.lugarLeido bg n) ino INO_LEN := by
  rw [inode, blockJump_eq, Nat.zero_add, Imagen.lugarLeido]

lemma superblock_eq (hv : Valida img) (sb : Buf) : (superblock img sb).1 = 0 ∧
    blockSize (u32 (superblock img sb).2 S_LOG_BLOCK_SIZE) = img.bloque ∧
    u32 (superblock img sb).2 S_INODES_PER_GROUP = img.ipg := by
  have hread : ∀ i < SB_LEN, (superblock img sb).2 i = img.bytes (SIZE_BOOT + i) :=
    fun i hi => read_dentro sb hv.super hi
  have h32 : ∀ a, a + 4 ≤ SB_LEN → u32 (superblock img sb).2 a = img.palabra (SIZE_BOOT + a) :=
    fun a ha => u32_congr fun i hi => by rw [hread _ (by omega), Nat.add_assoc]
  refine ⟨if_neg (not_not_intro ?_), ?_, h32 _ (by decide)⟩
  · rw [← hv.magic]
    exact u16_congr fun i hi => by
      rw [Nat.add_assoc]
      exact read_dentro sb hv.super (by unfold SB_LEN S_MAGIC; omega)
  · rw [h32 _ (by decide)]
    have hlog : img.log = 0 ∨ img.log = 1 ∨ img.log = 2 := by
      have := hv.log
      omega
    unfold blockSize Imagen.bloque
    rw [show img.palabra (SIZE_BOOT + S_LOG_BLOCK_SIZE) = img.log from rfl]
    rcases hlog with h | h | h <;> rw [h] <;> norm_num

/-- **`string2file_desc` in the root**, with the places it reads written out. -/
lemma string2fileDesc_eq (hv : Valida img) (fuel : ℕ) (p : Pila) (file : List Byte)
    (desc : FileDesc) : string2fileDesc fuel img p file INODE_ROOT desc =
      (string2dir fuel (loRaiz img p) file desc.de (u32 (inoRaiz img p) I_SIZE)).map fun r =>
        if r.1 = 0 then (3, { desc with de := r.2 })
        else (0, ⟨r.2, inoLeido img p desc.ino r.2.inode⟩) := by
  obtain ⟨h0, hbs, hipg⟩ := superblock_eq hv p.sb
  unfold string2fileDesc
  simp only [h0, hbs, hipg, ne_eq, not_true, if_false, inode_eq]
  rw [blockLogico, blockJump_eq, Nat.zero_add]
  rfl

/-- The lookup does its duty just when the name is last found with an inode that is read where the
disk has the bytes of this one. -/
lemma cumple_iff (hv : Valida img) : Cumple img p desc file n ↔
    ∃ m, m ≠ 0 ∧ Ultima (loRaiz img p) (u32 (inoRaiz img p) I_SIZE) file m ∧
      ∀ i < INO_LEN, inoLeido img p desc.ino m i = img.bytes (img.lugar n + i) := by
  constructor
  · rintro ⟨fuel, d, hrun, hbytes⟩
    rw [string2fileDesc_eq hv] at hrun
    obtain ⟨⟨m, de⟩, hdir, hres⟩ := Option.map_eq_some_iff.mp hrun
    by_cases hm : m = 0
    · rw [if_pos hm] at hres
      cases hres
    · rw [if_neg hm] at hres
      obtain ⟨hult, hino⟩ := string2dir_some hm ⟨fuel, hdir⟩
      cases hres
      rw [hino] at hbytes
      exact ⟨m, hm, hult, hbytes⟩
  · rintro ⟨m, hm, hult, hbytes⟩
    obtain ⟨fuel, de, hdir, hino⟩ := hult.string2dir hm desc.de
    refine ⟨fuel, ⟨de, inoLeido img p desc.ino de.inode⟩, ?_, by rwa [hino]⟩
    rw [string2fileDesc_eq hv, hdir, Option.map_some, if_neg hm]

/-! ### Where the root is found -/

lemma dirEntry_congr {j : ℕ} (h : ∀ i < size, lo' i = lo i)
    (hj : j + (8 + (dirEntry lo j).nameLen) ≤ size) :
    (dirEntry lo' j).inode = (dirEntry lo j).inode ∧
      (dirEntry lo' j).recLen = (dirEntry lo j).recLen ∧
      (dirEntry lo' j).fichero = (dirEntry lo j).fichero := by
  have hlen : (dirEntry lo' j).nameLen = (dirEntry lo j).nameLen :=
    congrArg BitVec.toNat (h (j + 6) (by omega))
  refine ⟨u32_congr fun i hi => h _ (by omega), u16_congr fun i hi => h _ (by omega), ?_⟩
  unfold DirEntry.fichero
  rw [hlen]
  refine List.map_congr_left fun i hi => ?_
  exact h (j + 8 + i) (by have := List.mem_range.mp hi; omega)

lemma Directorio.lt (hd : Directorio lo size K) (hk : k < K) : donde lo k < size := by
  have h1 := hd.dentro k hk
  have h2 := hd.cabe k hk
  omega

lemma Directorio.donde_congr (hd : Directorio lo size K) (h : ∀ i < size, lo' i = lo i)
    (hk : k ≤ K) : donde lo' k = donde lo k := by
  induction k with
  | zero => rfl
  | succ k ih =>
    have h1 := hd.dentro k (by omega)
    have h2 := hd.cabe k (by omega)
    rw [donde_succ, donde_succ, ih (by omega), (dirEntry_congr h (by omega)).2.1]

lemma Directorio.llama_congr (hd : Directorio lo size K) (h : ∀ i < size, lo' i = lo i)
    (hk : k < K) : Llama lo' file k ↔ Llama lo file k := by
  have h1 := hd.dentro k hk
  have h2 := hd.cabe k hk
  unfold Llama
  rw [hd.donde_congr h hk.le, (dirEntry_congr h (by omega)).2.2]

lemma Directorio.inode_congr (hd : Directorio lo size K) (h : ∀ i < size, lo' i = lo i)
    (hk : k < K) :
    (dirEntry lo' (donde lo' k)).inode = (dirEntry lo (donde lo k)).inode := by
  have h1 := hd.dentro k hk
  have h2 := hd.cabe k hk
  rw [hd.donde_congr h hk.le, (dirEntry_congr h (by omega)).1]

lemma Directorio.ultima_iff (hd : Directorio lo size K) (h : ∀ i < size, lo' i = lo i)
    (hk : k < K) (hl : Llama lo file k) (hno : ∀ i < K, k < i → ¬ Llama lo file i) :
    Ultima lo' size file m ↔ m = (dirEntry lo (donde lo k)).inode := by
  constructor
  · rintro ⟨K', hall, hfin, k', hk', hl', rfl, hno'⟩
    have hK : K' = K := by
      rcases Nat.lt_trichotomy K' K with hlt | he | hgt
      · rw [hd.donde_congr h hlt.le] at hfin
        exact absurd (hd.lt hlt) (Nat.not_lt.mpr hfin)
      · exact he
      · have := hall K hgt
        rw [hd.donde_congr h le_rfl, hd.fin] at this
        exact absurd this (lt_irrefl _)
    subst hK
    have hkk : k' = k := by
      rcases Nat.lt_trichotomy k' k with hlt | he | hgt
      · exact absurd ((hd.llama_congr h hk).mpr hl) (hno' k hk hlt)
      · exact he
      · exact absurd ((hd.llama_congr h hk').mp hl') (hno k' hk' hgt)
    rw [hkk, hd.inode_congr h hk]
  · rintro rfl
    refine ⟨K, fun i hi => ?_, ?_, k, hk, (hd.llama_congr h hk).mpr hl,
      hd.inode_congr h hk, fun i hi hki hli => ?_⟩
    · rw [hd.donde_congr h hi.le]
      exact hd.lt hi
    · rw [hd.donde_congr h le_rfl, hd.fin]
    · exact hno i hi hki ((hd.llama_congr h hi).mp hli)

/-- With blocks of 1024 bytes the table of groups is where `group` looks for it. -/
lemma grupoLeido_eq (hv : Valida img) (hlog : img.log = 0) (hk : k ≤ 2 ^ 20) :
    img.grupoLeido k = (img.primero + 1) * img.bloque + BG_LEN * k := by
  have hb : img.bloque = 1024 := by
    rw [Imagen.bloque, hlog]
    norm_num
  have hp : img.primero = 1 := by rw [hv.primero, if_pos hlog]
  rw [Imagen.grupoLeido, hb, hp]
  exact Nat.mod_eq_of_lt (show 1024 + 1024 + 32 * k < 2 ^ 32 by omega)

lemma tabla_leida (hv : Valida img) (hlog : img.log = 0) (hk : k ≤ 2 ^ 20)
    (hin : (img.primero + 1) * img.bloque + BG_LEN * k + BG_LEN ≤ img.tam) (bg : Buf) :
    u32 (img.read (img.grupoLeido k) bg BG_LEN) BG_INODE_TABLE = img.tabla k := by
  refine u32_congr fun i hi => ?_
  rw [grupoLeido_eq hv hlog hk, read_dentro bg hin (by unfold BG_LEN BG_INODE_TABLE; omega),
    ← Nat.add_assoc]

lemma tabla_cero (hv : Valida img) (hlog : img.log = 0) (bg : Buf) :
    u32 (img.read (img.grupoLeido 0) bg BG_LEN) BG_INODE_TABLE = img.tabla 0 :=
  tabla_leida hv hlog (Nat.zero_le _) hv.grupo bg

/-- **The root is read right** with blocks of 1024 bytes and more than two inodes a group. -/
lemma raiz_leida (hv : Valida img) (hlog : img.log = 0) (hipg : 3 ≤ img.ipg) (p : Pila) :
    (∀ i < INO_LEN, inoRaiz img p i = img.bytes (img.lugar INODE_ROOT + i)) ∧
      ∀ i < img.bloque, loRaiz img p i = img.raiz i := by
  have hdiv : INODE_ROOT / img.ipg = 0 := Nat.div_eq_of_lt (show 2 < img.ipg by omega)
  have hlugar : img.lugarLeido (bgRaiz img p) INODE_ROOT = img.lugar INODE_ROOT := by
    have h1 : (INODE_ROOT - 1) / img.ipg = 0 := Nat.div_eq_of_lt (show 1 < img.ipg by omega)
    have h2 : (INODE_ROOT - 1) % img.ipg = 1 := Nat.mod_eq_of_lt (show 1 < img.ipg by omega)
    have h3 : 128 * ((INODE_ROOT + 2 ^ 32 - 1) % 2 ^ 32) % 2 ^ 32 = 128 * 1 := by decide
    rw [Imagen.lugarLeido, Imagen.lugar, bgRaiz, hdiv, tabla_cero hv hlog, h1, h2, h3]
  have hino : ∀ i < INO_LEN, inoRaiz img p i = img.bytes (img.lugar INODE_ROOT + i) := by
    intro i hi
    rw [inoRaiz, hlugar]
    exact read_dentro _ hv.raiz hi
  refine ⟨hino, fun i hi => ?_⟩
  have hblock : u32 (inoRaiz img p) I_BLOCK = img.palabra (img.lugar INODE_ROOT + I_BLOCK) :=
    u32_congr fun i hi => by
      rw [hino _ (by unfold I_BLOCK INO_LEN; omega), Nat.add_assoc]
  have hbloque := hv.bloque
  rw [Nat.succ_mul] at hbloque
  rw [loRaiz, hblock]
  exact read_dentro _ hbloque hi

def Imagen.nombre (img : Imagen) (k : ℕ) : List Byte :=
  (dirEntry img.raiz (donde img.raiz k)).fichero

/-- The root has one block, and no entry after `k` has its name. -/
structure Sencilla (img : Imagen) (k : ℕ) : Prop where
  size : img.palabra (img.lugar INODE_ROOT + I_SIZE) = img.bloque
  sola : ∀ i, k < i → (∀ j ≤ i, donde img.raiz j < img.bloque) → ¬ Llama img.raiz (img.nombre k) i

lemma Entrada.lt (he : Entrada img k n) (hd : Directorio img.raiz img.bloque K) : k < K := by
  by_contra hge
  have := he.dentro K (Nat.le_of_not_lt hge)
  rw [hd.fin] at this
  exact absurd this (lt_irrefl _)

/-- There a lookup finds its entry, and all hangs on where inode `n` is read. -/
lemma cumple_sencilla (p : Pila) (desc : FileDesc) (hv : Valida img) (he : Entrada img k n)
    (hlog : img.log = 0) (hipg : 3 ≤ img.ipg) (hs : Sencilla img k) :
    Cumple img p desc (img.nombre k) n ↔
      ∀ i < INO_LEN, inoLeido img p desc.ino n i = img.bytes (img.lugar n + i) := by
  obtain ⟨K, hd⟩ := hv.directorio
  obtain ⟨hino, hlo⟩ := raiz_leida hv hlog hipg p
  have hk := he.lt hd
  have hsize : u32 (inoRaiz img p) I_SIZE = img.bloque := by
    rw [← hs.size]
    exact u32_congr fun i hi => by
      rw [hino _ (by unfold I_SIZE INO_LEN; omega), Nat.add_assoc]
  have hult : ∀ m, Ultima (loRaiz img p) img.bloque (img.nombre k) m ↔ m = n := fun m => by
    rw [← he.inode]
    refine hd.ultima_iff hlo hk rfl fun i hi hki => hs.sola i hki fun j hj => ?_
    exact hd.lt (hj.trans_lt hi)
  rw [cumple_iff hv, hsize]
  constructor
  · rintro ⟨m, -, hm, hbytes⟩
    rw [(hult m).mp hm] at hbytes
    exact hbytes
  · exact fun hbytes => ⟨n, he.uso, (hult n).mpr rfl, hbytes⟩

lemma Entrada.lt_word (he : Entrada img k n) : n < 2 ^ 32 := by
  rw [← he.inode]
  exact u32_lt _ _

lemma inoLeido_resto (hv : Valida img) (he : Entrada img k n) (hlog : img.log = 0)
    (hgrupo : (img.primero + 1) * img.bloque + BG_LEN * (n % img.ipg) + BG_LEN ≤ img.tam)
    (hdisco : img.lugarResto n + INO_LEN ≤ img.tam) {i : ℕ} (hi : i < INO_LEN) (ino : Buf) :
    inoLeido img p ino n i = img.bytes (img.lugarResto n + i) := by
  have hmapa := hv.mapa
  have hb : img.bloque = 1024 := by
    rw [Imagen.bloque, hlog]
    norm_num
  have hmod : n % img.ipg < img.ipg := Nat.mod_lt _ (by have := hv.ipg; omega)
  have hnum : (n + 2 ^ 32 - 1) % 2 ^ 32 = n - 1 := by
    have h1 := he.lt_word
    have h2 := he.uso
    omega
  have hlugar : img.lugarLeido (img.read (img.grupoLeido (n % img.ipg)) (bgRaiz img p) BG_LEN) n =
      img.lugarResto n := by
    rw [Imagen.lugarLeido, tabla_leida hv hlog (by omega) hgrupo, hnum, Imagen.lugarResto]
  rw [inoLeido, hlugar]
  exact read_dentro ino hdisco hi

lemma lugarResto_ipg (hv : Valida img) (hn : n = img.ipg) : img.lugarResto n = img.lugar n := by
  have hipg := hv.ipg
  have hmapa := hv.mapa
  have hb : img.bloque ≤ 4096 := by
    have : 2 ^ img.log ≤ 2 ^ 2 := Nat.pow_le_pow_right (by decide) hv.log
    rw [Imagen.bloque]
    omega
  have h1 : (n - 1) / img.ipg = 0 := Nat.div_eq_of_lt (by omega)
  have h2 : (n - 1) % img.ipg = n - 1 := Nat.mod_eq_of_lt (by omega)
  have h3 : 128 * (n - 1) % 2 ^ 32 = 128 * (n - 1) := Nat.mod_eq_of_lt (by omega)
  have hmod : n % img.ipg = 0 := by rw [hn, Nat.mod_self]
  rw [Imagen.lugarResto, Imagen.lugar, hmod, h1, h2, h3]

/-- **Lookup in the root.** For an entry of the first block of a valid image the lookup does its
duty just when the name is last found, in the directory it reads, with an inode that is read where
the disk has the bytes of this one. With blocks of 1024 bytes, more than two inodes a group and a
root of one block, where the name is not given again, all hangs on what is read for that inode: if
its place as the code takes it is in the image, on whether the bytes there are those of the right
place; and for the last inode of the first group the two places are one. -/
theorem busca_raiz (hv : Valida img) (he : Entrada img k n) (p : Pila) (desc : FileDesc) :
    (Cumple img p desc (img.nombre k) n ↔ ∃ m, m ≠ 0 ∧
      Ultima (loRaiz img p) (u32 (inoRaiz img p) I_SIZE) (img.nombre k) m ∧
      ∀ i < INO_LEN, inoLeido img p desc.ino m i = img.bytes (img.lugar n + i)) ∧
    (img.log = 0 → 3 ≤ img.ipg → Sencilla img k →
      (Cumple img p desc (img.nombre k) n ↔
        ∀ i < INO_LEN, inoLeido img p desc.ino n i = img.bytes (img.lugar n + i)) ∧
      ((img.primero + 1) * img.bloque + BG_LEN * (n % img.ipg) + BG_LEN ≤ img.tam →
        img.lugarResto n + INO_LEN ≤ img.tam → (Cumple img p desc (img.nombre k) n ↔
          ∀ i < INO_LEN, img.bytes (img.lugarResto n + i) = img.bytes (img.lugar n + i))) ∧
      (n = img.ipg → img.lugar n + INO_LEN ≤ img.tam → Cumple img p desc (img.nombre k) n)) := by
  refine ⟨cumple_iff hv, fun hlog hipg hs => ?_⟩
  have hiff := cumple_sencilla p desc hv he hlog hipg hs
  have hresto : (img.primero + 1) * img.bloque + BG_LEN * (n % img.ipg) + BG_LEN ≤ img.tam →
      img.lugarResto n + INO_LEN ≤ img.tam → (Cumple img p desc (img.nombre k) n ↔
        ∀ i < INO_LEN, img.bytes (img.lugarResto n + i) = img.bytes (img.lugar n + i)) := by
    intro hgrupo hdisco
    rw [hiff]
    refine forall₂_congr fun i hi => ?_
    rw [inoLeido_resto hv he hlog hgrupo hdisco hi]
  refine ⟨hiff, hresto, fun hn hdisco => ?_⟩
  have hlugar := lugarResto_ipg hv hn
  have hmod : n % img.ipg = 0 := by rw [hn, Nat.mod_self]
  refine (hresto ?_ (by rwa [hlugar])).mpr fun i _ => by rw [hlugar]
  rw [hmod]
  exact hv.grupo

/-! ### `fs/ramdisk.img` -/

/-- The words of the image that a lookup in its root may need, those that are not 0: the superblock,
the table of groups, inodes 2, 11 and 12, and the root, where the last entry has inode `n`. -/
def palabras (n : ℕ) : List (ℕ × ℕ) :=
  [(1024, 0x80), (1028, 0x400), (1032, 0x33), (1036, 0x3d8), (1040, 0x73), (1044, 0x1),
    (1056, 0x2000), (1060, 0x2000), (1064, 0x80), (1068, 0x4968bb3d), (1072, 0x4968bb93),
    (1076, 0x180001), (1080, 0x1ef53), (1084, 0x1), (1088, 0x4968baaf), (1092, 0xed4e00),
    (1100, 0x1), (1108, 0xb),
    (2048, 0x6), (2052, 0x7), (2056, 0x8), (2060, 0x7303d8), (2064, 0x40003),
    (8320, 0x41ed), (8324, 0x400), (8328, 0x4968bb84), (8332, 0x4968bb69), (8336, 0x4968bb69),
    (8344, 0x40000), (8348, 0x2), (8360, 0x18),
    (9472, 0x41c0), (9476, 0x3000), (9480, 0x4968baaf), (9484, 0x4968baaf), (9488, 0x4968baaf),
    (9496, 0x20000), (9500, 0x18), (9512, 0x19), (9516, 0x1a), (9520, 0x1b), (9524, 0x1c),
    (9528, 0x1d), (9532, 0x1e), (9536, 0x1f), (9540, 0x20), (9544, 0x21), (9548, 0x22),
    (9552, 0x23), (9556, 0x24),
    (9600, 0x41ed), (9604, 0x400), (9608, 0x4968bb80), (9612, 0x4968bb7d), (9616, 0x4968bb7d),
    (9624, 0x20000), (9628, 0x2), (9640, 0x26), (9700, 0x751042ca),
    (24576, 0x2), (24580, 0x201000c), (24584, 0x2e), (24588, 0x2), (24592, 0x202000c),
    (24596, 0x2e2e), (24600, 0xb), (24604, 0x20a0014), (24608, 0x74736f6c),
    (24612, 0x756f662b), (24616, 0x646e), (24624, 0x20403d4), (24628, 0x656d6f68),
    (24620, n)]

/-- The image of the repository is `ramdisk 12`. -/
def ramdisk (n : ℕ) : Imagen :=
  ⟨fun a => BitVec.ofNat 8 (((palabras n).lookup (a / 4 * 4)).getD 0 / 2 ^ (8 * (a % 4))), 1048576⟩

def pilaCero : Pila := ⟨fun _ => 0, fun _ => 0, fun _ => 0, fun _ => 0⟩

def descCero : FileDesc := ⟨⟨0, 0, 0, 0, fun _ => 0⟩, fun _ => 0⟩

lemma ramdisk_valida (h : n = 12 ∨ n = 128) : Valida (ramdisk n) := by
  rcases h with rfl | rfl
  · exact ⟨by decide, by decide, by decide, by decide, by decide, by decide, by decide, by decide,
      by decide, 4, by decide, by decide, by decide⟩
  · exact ⟨by decide, by decide, by decide, by decide, by decide, by decide, by decide, by decide,
      by decide, 4, by decide, by decide, by decide⟩

lemma ramdisk_entrada (h : n = 12 ∨ n = 128) : Entrada (ramdisk n) 3 n := by
  rcases h with rfl | rfl
  · exact ⟨by decide, by decide, by decide⟩
  · exact ⟨by decide, by decide, by decide⟩

lemma ramdisk_sencilla (h : n = 12 ∨ n = 128) : Sencilla (ramdisk n) 3 := by
  have hfin : ¬ donde (ramdisk n).raiz 4 < (ramdisk n).bloque := by
    rcases h with rfl | rfl <;> decide
  refine ⟨?_, fun i hi hall => absurd (hall 4 hi) hfin⟩
  rcases h with rfl | rfl <;> decide

/-- With 128, the last inode of its group, `home` is found. -/
theorem busca_raiz_ultimo :
    Cumple (ramdisk 128) pilaCero descCero ((ramdisk 128).nombre 3) 128 :=
  ((busca_raiz (ramdisk_valida (Or.inr rfl)) (ramdisk_entrada (Or.inr rfl)) pilaCero descCero).2
    (by decide) (by decide) (ramdisk_sencilla (Or.inr rfl))).2.2 (by decide) (by decide)

/-- In the image of the repository `home`, of inode 12, is not: descriptor 12 is past the only one,
and what is read is not what the disk has. -/
theorem home_perdido :
    Valida (ramdisk 12) ∧ Entrada (ramdisk 12) 3 12 ∧
      (ramdisk 12).nombre 3 = [0x68#8, 0x6f#8, 0x6d#8, 0x65#8] ∧
      (ramdisk 12).bytes ((ramdisk 12).lugar 12) = 0xed#8 ∧
      ¬ Cumple (ramdisk 12) pilaCero descCero ((ramdisk 12).nombre 3) 12 := by
  have hv := ramdisk_valida (n := 12) (Or.inl rfl)
  have he := ramdisk_entrada (n := 12) (Or.inl rfl)
  refine ⟨hv, he, by decide, by decide, fun h => ?_⟩
  have hbytes := (cumple_sencilla pilaCero descCero hv he (by decide) (by decide)
    (ramdisk_sencilla (Or.inl rfl))).mp h 0 (by decide)
  exact absurd hbytes (by decide)

end Silicio.Ext2
