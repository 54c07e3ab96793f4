import Silicio.Ext2

/-!
What a lookup divides by, reads and writes on an image of which only the magic number is known.

`Ext2` has the functions; here they leave a trace. Nothing that comes from the disk is looked at
before it is used: the inodes of a group and the size of a block are divided by, the block is read
over a buffer of 4096 bytes, and every entry says where the next one is. A shift by 32 or more has
the value the machine gives it.
-/

namespace Silicio.Scan

open Silicio.Loop Silicio.Bitmap Silicio.Ext2

abbrev EXT2_NAME_LEN : ℕ := 255

/-- `sizeof(ext2_logic)`. -/
abbrev LOGIC_LEN : ℕ := 4096

/-- `block_size`; `d` is what the machine makes of `1 << block` where C does not say it. -/
def blockSize (d : ℕ → ℕ) (block : ℕ) : ℕ :=
  (if block < 32 then 2 ^ block else d block) % 2 ^ 32 * 1024 % 2 ^ 32

/-- How many bytes `block_logico` stores in `lo`: the block, or what the file has of it. -/
def cargados (bs : ℕ) (img : Imagen) (nLogic : ℕ) : ℕ := min bs (img.tam - blockJump bs nLogic 0)

/-- What `string2dir` looks at when it copies a name of `n` bytes of the entry at `j`. -/
def leeNombre (j n : ℕ) : List ℕ := (List.range n).flatMap (fun i => [j + 6, j + 8 + i]) ++ [j + 6]

/-- The state of the walk, the bytes of `lo` it has read, and the places of `fichero` and of
`de_file->name` it has written. -/
structure Paseo where
  busca : Busca
  leidos : List ℕ
  fichero : List ℕ
  nombre : List ℕ

/-- The bytes of `lo` that are read for the entry at `j`. -/
def leeEntrada (lo : Buf) (file : List Byte) (j : ℕ) : List ℕ :=
  let de := dirEntry lo j
  leeNombre j de.nameLen ++
    (if cadena file = cadena de.fichero then
      [j, j + 1, j + 2, j + 3, j + 4, j + 5, j + 6, j + 7] ++ leeNombre j de.nameLen ++
        [j, j + 1, j + 2, j + 3]
    else []) ++ [j + 4, j + 5] ++ [j + 4, j + 5]

/-- The places of `fichero` that are written for the entry at `j`. -/
def ponFichero (lo : Buf) (j : ℕ) : List ℕ := List.range (dirEntry lo j).nameLen ++
  [(dirEntry lo j).nameLen]

def ponNombre (lo : Buf) (file : List Byte) (j : ℕ) : List ℕ :=
  if cadena file = cadena (dirEntry lo j).fichero then List.range (dirEntry lo j).nameLen else []

def pasear (lo : Buf) (file : List Byte) (s : Paseo) : Paseo :=
  let j := s.busca.j
  ⟨visitar lo file s.busca, s.leidos ++ leeEntrada lo file j, s.fichero ++ ponFichero lo j,
    s.nombre ++ ponNombre lo file j⟩

/-- `string2dir`, stopped after `fuel` entries: whether it has ended, and where it stands. -/
def string2dir (fuel : ℕ) (lo : Buf) (file : List Byte) (deFile : DirEntry) (size : ℕ) :
    Bool × Paseo :=
  avanza (fun s => s.busca.j < size) (pasear lo file) fuel ⟨⟨0, 0, deFile⟩, [], [], []⟩

/-- What a call leaves: what it has divided by, the bytes of `lo` stored, and those of the walk. -/
structure Rastro where
  divisores : List ℕ := []
  cargados : List ℕ := []
  leidos : List ℕ := []
  fichero : List ℕ := []
  nombre : List ℕ := []

/-- `string2file_desc`, with `fuel` entries at most. It has no result while the walk goes on, nor
after a division by 0. -/
def string2fileDesc (fuel : ℕ) (d : ℕ → ℕ) (img : Imagen) (p : Pila) (file : List Byte)
    (inodeDir : ℕ) (desc : FileDesc) : Option (ℕ × FileDesc) × Rastro :=
  let (r, sb) := superblock img p.sb
  if r ≠ 0 then (some (2, desc), {})
  else
    let bs := blockSize d (u32 sb S_LOG_BLOCK_SIZE)
    let ipg := u32 sb S_INODES_PER_GROUP
    if ipg = 0 then (none, { divisores := [ipg] })
    else
      let bg := group bs img p.bg (inodeDir / ipg)
      let ino := inode bs img p.ino inodeDir bg
      -- `size_logic`, which nothing uses
      if bs / 512 = 0 then (none, { divisores := [ipg, 512, bs / 512] })
      else
        let lo := blockLogico bs img p.lo (u32 ino I_BLOCK)
        let (fin, s) := string2dir fuel lo file desc.de (u32 ino I_SIZE)
        let t : Rastro := ⟨[ipg, 512, bs / 512], List.range (cargados bs img (u32 ino I_BLOCK)),
          s.leidos, s.fichero, s.nombre⟩
        if ¬ fin then (none, t)
        else if s.busca.ret = 0 then (some (3, { desc with de := s.busca.deFile }), t)
        else
          let de := s.busca.deFile
          let bg := group bs img bg (de.inode % ipg)
          (some (0, ⟨de, inode bs img desc.ino de.inode bg⟩),
            { t with divisores := t.divisores ++ [ipg] })

structure Magica (img : Imagen) : Prop where
  tam : SIZE_BOOT + S_MAGIC + 2 ≤ img.tam
  magic : u16 img.bytes (SIZE_BOOT + S_MAGIC) = 0xef53

/-- What a lookup owes on any image, at every moment of its run. -/
structure Cumple (d : ℕ → ℕ) (img : Imagen) (p : Pila) (file : List Byte) (inodeDir : ℕ)
    (desc : FileDesc) : Prop where
  acaba : ∃ fuel, ((string2fileDesc fuel d img p file inodeDir desc).1).isSome
  divide : ∀ fuel, 0 ∉ (string2fileDesc fuel d img p file inodeDir desc).2.divisores
  guarda : ∀ fuel, ∀ a ∈ (string2fileDesc fuel d img p file inodeDir desc).2.cargados,
    a < LOGIC_LEN
  lee : ∀ fuel, ∀ a ∈ (string2fileDesc fuel d img p file inodeDir desc).2.leidos,
    a ∈ (string2fileDesc fuel d img p file inodeDir desc).2.cargados
  fichero : ∀ fuel, ∀ a ∈ (string2fileDesc fuel d img p file inodeDir desc).2.fichero,
    a < EXT2_NAME_LEN
  nombre : ∀ fuel, ∀ a ∈ (string2fileDesc fuel d img p file inodeDir desc).2.nombre,
    a < EXT2_NAME_LEN

def inoDe (d : ℕ → ℕ) (img : Imagen) (p : Pila) (inodeDir : ℕ) : Buf :=
  let bs := blockSize d img.log
  inode bs img p.ino inodeDir (group bs img p.bg (inodeDir / img.ipg))

def loDe (d : ℕ → ℕ) (img : Imagen) (p : Pila) (inodeDir : ℕ) : Buf :=
  blockLogico (blockSize d img.log) img p.lo (u32 (inoDe d img p inodeDir) I_BLOCK)

/-- How much of the first block of the directory the file has. -/
def cargadosDe (d : ℕ → ℕ) (img : Imagen) (p : Pila) (inodeDir : ℕ) : ℕ :=
  cargados (blockSize d img.log) img (u32 (inoDe d img p inodeDir) I_BLOCK)

/-- The entry at `j` is looked at in the first `n` bytes only, and its name fits. -/
structure Sitio (lo : Buf) (file : List Byte) (n j : ℕ) : Prop where
  nameLen : (dirEntry lo j).nameLen < EXT2_NAME_LEN
  recLen : j + 7 ≤ n
  name : 0 < (dirEntry lo j).nameLen → j + 8 + (dirEntry lo j).nameLen ≤ n
  igual : cadena file = cadena (dirEntry lo j).fichero → j + 8 ≤ n

/-- An image on which a lookup is safe: neither divisor is 0, the block fits in its buffer, and the
entries come to the end of the directory, each of them in its place. -/
structure Sana (d : ℕ → ℕ) (img : Imagen) (p : Pila) (file : List Byte) (inodeDir : ℕ) :
    Prop where
  ipg : img.ipg ≠ 0
  bloque : blockSize d img.log ≠ 0
  cabe : cargadosDe d img p inodeDir ≤ LOGIC_LEN
  camino : ∃ K, (∀ k < K, donde (loDe d img p inodeDir) k < u32 (inoDe d img p inodeDir) I_SIZE ∧
      Sitio (loDe d img p inodeDir) file (cargadosDe d img p inodeDir)
        (donde (loDe d img p inodeDir) k)) ∧
    u32 (inoDe d img p inodeDir) I_SIZE ≤ donde (loDe d img p inodeDir) K

variable {d : ℕ → ℕ} {img : Imagen} {p : Pila} {file : List Byte} {inodeDir fuel size k n j a : ℕ}
  {desc : FileDesc} {lo : Buf} {de : DirEntry}

/-! ### The walk -/

abbrev inicio (de : DirEntry) : Paseo := ⟨⟨0, 0, de⟩, [], [], []⟩

lemma paseos_busca (lo : Buf) (file : List Byte) (s : Paseo) (k : ℕ) :
    ((pasear lo file)^[k] s).busca = (visitar lo file)^[k] s.busca := by
  induction k with
  | zero => rfl
  | succ k ih =>
    rw [Function.iterate_succ_apply', Function.iterate_succ_apply', ← ih]
    rfl

lemma paseos_traza {f : Paseo → List ℕ} {g : ℕ → List ℕ}
    (hf : ∀ s, f (pasear lo file s) = f s ++ g s.busca.j) (h0 : f (inicio de) = []) (k a : ℕ) :
    a ∈ f ((pasear lo file)^[k] (inicio de)) ↔ ∃ i < k, a ∈ g (donde lo i) := by
  induction k with
  | zero => simp [h0]
  | succ k ih =>
    rw [Function.iterate_succ_apply', hf, List.mem_append, ih, paseos_busca, visitas_j,
      Nat.exists_lt_succ_right]

/-- A walk stopped after `fuel` entries has passed some `k` that start below `size`, and has ended
if the next one does not. -/
lemma string2dir_eq (lo : Buf) (file : List Byte) (de : DirEntry) (size fuel : ℕ) :
    ∃ k, (∀ i < k, donde lo i < size) ∧
      (string2dir fuel lo file de size).2 = (pasear lo file)^[k] (inicio de) ∧
      ((string2dir fuel lo file de size).1 = true → size ≤ donde lo k) ∧
      ((string2dir fuel lo file de size).1 = false → k = fuel) := by
  have hj : ∀ k, ((pasear lo file)^[k] (inicio de)).busca.j = donde lo k := fun k => by
    rw [paseos_busca, visitas_j]
  unfold string2dir
  rcases avanza_eq (fun s : Paseo => s.busca.j < size) (pasear lo file) fuel (inicio de) with
    ⟨k, -, hall, hno, he⟩ | ⟨hall, he⟩
  · rw [he]
    simp only [hj] at hall hno
    exact ⟨k, hall, rfl, fun _ => Nat.le_of_not_lt hno, fun hc => Bool.noConfusion hc⟩
  · rw [he]
    simp only [hj] at hall
    exact ⟨fuel, hall, rfl, fun hc => Bool.noConfusion hc, fun _ => rfl⟩

lemma string2dir_ext2 (fuel : ℕ) (lo : Buf) (file : List Byte) (de : DirEntry) (size : ℕ) :
    Ext2.string2dir fuel lo file de size = if (string2dir fuel lo file de size).1 then
      some ((string2dir fuel lo file de size).2.busca.ret,
        (string2dir fuel lo file de size).2.busca.deFile) else none := by
  have h : avanza (fun s : Busca => s.j < size) (visitar lo file) fuel ⟨0, 0, de⟩ =
      ((avanza (fun s : Paseo => s.busca.j < size) (pasear lo file) fuel (inicio de)).1,
        (avanza (fun s : Paseo => s.busca.j < size) (pasear lo file) fuel (inicio de)).2.busca) :=
    avanza_map Paseo.busca (fun _ => Iff.rfl) (fun _ => rfl) fuel (inicio de)
  unfold Ext2.string2dir string2dir
  rw [mientras_eq_avanza, h]
  split <;> rfl

lemma mem_leeNombre : a ∈ leeNombre j n ↔ a = j + 6 ∨ ∃ i < n, a = j + 8 + i := by
  unfold leeNombre
  rw [List.mem_append, List.mem_flatMap, List.mem_singleton]
  constructor
  · rintro (⟨i, hi, ha⟩ | rfl)
    · rcases List.mem_cons.mp ha with rfl | ha
      · exact Or.inl rfl
      · exact Or.inr ⟨i, List.mem_range.mp hi, List.mem_singleton.mp ha⟩
    · exact Or.inl rfl
  · rintro (rfl | ⟨i, hi, rfl⟩)
    · exact Or.inr rfl
    · exact Or.inl ⟨i, List.mem_range.mpr hi, by simp⟩

lemma leeEntrada_lt_iff : (∀ a ∈ leeEntrada lo file j, a < n) ↔ j + 7 ≤ n ∧
    (0 < (dirEntry lo j).nameLen → j + 8 + (dirEntry lo j).nameLen ≤ n) ∧
    (cadena file = cadena (dirEntry lo j).fichero → j + 8 ≤ n) := by
  unfold leeEntrada
  simp only [List.mem_append, mem_leeNombre]
  constructor
  · intro h
    refine ⟨h (j + 6) (Or.inl (Or.inl (Or.inl (Or.inl rfl)))), fun hpos => ?_, fun hig => ?_⟩
    · have := h (j + 8 + ((dirEntry lo j).nameLen - 1))
        (Or.inl (Or.inl (Or.inl (Or.inr ⟨_, by omega, rfl⟩))))
      omega
    · rw [if_pos hig] at h
      exact h (j + 7) (Or.inl (Or.inl (Or.inr (by simp))))
  · rintro ⟨h7, hname, hig⟩ a ha
    have hcopia : (a = j + 6 ∨ ∃ i < (dirEntry lo j).nameLen, a = j + 8 + i) → a < n := by
      rintro (rfl | ⟨i, hi, rfl⟩)
      · omega
      · have := hname (by omega)
        omega
    rcases ha with ((ha | ha) | ha) | ha
    · exact hcopia ha
    · split at ha
      · next hc =>
        have h8 := hig hc
        rw [List.mem_append, List.mem_append, mem_leeNombre] at ha
        rcases ha with (ha | ha) | ha
        · simp only [List.mem_cons, List.not_mem_nil, or_false] at ha
          omega
        · exact hcopia ha
        · simp only [List.mem_cons, List.not_mem_nil, or_false] at ha
          omega
      · cases ha
    · simp only [List.mem_cons, List.not_mem_nil, or_false] at ha
      omega
    · simp only [List.mem_cons, List.not_mem_nil, or_false] at ha
      omega

lemma sitio_iff : Sitio lo file n j ↔ (∀ a ∈ leeEntrada lo file j, a < n) ∧
    ∀ a ∈ ponFichero lo j, a < EXT2_NAME_LEN := by
  have hpon : (∀ a ∈ ponFichero lo j, a < EXT2_NAME_LEN) ↔
      (dirEntry lo j).nameLen < EXT2_NAME_LEN := by
    unfold ponFichero
    simp only [List.mem_append, List.mem_range, List.mem_singleton]
    constructor
    · exact fun h => h _ (Or.inr rfl)
    · rintro h a (ha | rfl)
      · exact ha.trans h
      · exact h
  rw [leeEntrada_lt_iff, hpon]
  constructor
  · rintro ⟨h1, h2, h3, h4⟩
    exact ⟨⟨h2, h3, h4⟩, h1⟩
  · rintro ⟨⟨h2, h3, h4⟩, h1⟩
    exact ⟨h1, h2, h3, h4⟩

/-! ### The call -/

lemma superblock_magica (hm : Magica img) (sb : Buf) : (superblock img sb).1 = 0 ∧
    u32 (superblock img sb).2 S_LOG_BLOCK_SIZE = img.log ∧
    u32 (superblock img sb).2 S_INODES_PER_GROUP = img.ipg := by
  have htam := hm.tam
  simp only [SIZE_BOOT, S_MAGIC] at htam
  have hread : ∀ i < 58, (superblock img sb).2 i = img.bytes (SIZE_BOOT + i) :=
    fun i hi => if_pos ⟨hi.trans (by decide), by simp only [SIZE_BOOT]; omega⟩
  have h32 : ∀ a, a + 4 ≤ 58 → u32 (superblock img sb).2 a = img.palabra (SIZE_BOOT + a) :=
    fun a ha => u32_congr fun i hi => by rw [hread _ (by omega), Nat.add_assoc]
  refine ⟨if_neg (not_not_intro ?_), h32 _ (by decide), h32 _ (by decide)⟩
  rw [← hm.magic]
  refine u16_congr fun i hi => ?_
  rw [Nat.add_assoc]
  exact hread (S_MAGIC + i) (by simp only [S_MAGIC]; omega)

/-- A block is of some 1024 bytes, so its half thousands are none only if it is empty. -/
lemma blockSize_div (d : ℕ → ℕ) (block : ℕ) :
    blockSize d block / 512 = 0 ↔ blockSize d block = 0 := by
  unfold blockSize
  omega

lemma string2fileDesc_ipg (hm : Magica img) (h : img.ipg = 0) :
    string2fileDesc fuel d img p file inodeDir desc = (none, { divisores := [0] }) := by
  obtain ⟨h0, hlog, hipg⟩ := superblock_magica hm p.sb
  unfold string2fileDesc
  simp only [h0, hlog, hipg, h, ne_eq, not_true, if_false, if_true]

lemma string2fileDesc_bloque (hm : Magica img) (hi : img.ipg ≠ 0) (h : blockSize d img.log = 0) :
    string2fileDesc fuel d img p file inodeDir desc =
      (none, { divisores := [img.ipg, 512, 0] }) := by
  obtain ⟨h0, hlog, hipg⟩ := superblock_magica hm p.sb
  unfold string2fileDesc
  simp only [h0, hlog, hipg, hi, h, ne_eq, not_true, if_false, if_true, Nat.zero_div]

/-- What a call leaves is what its walk does, with `n` bytes loaded and no division by 0. -/
structure DelPaseo (n : ℕ) (t : Bool × Paseo) (r : Option (ℕ × FileDesc) × Rastro) : Prop where
  acaba : r.1.isSome ↔ t.1 = true
  divisores : 0 ∉ r.2.divisores
  cargados : r.2.cargados = List.range n
  leidos : r.2.leidos = t.2.leidos
  fichero : r.2.fichero = t.2.fichero
  nombre : r.2.nombre = t.2.nombre

lemma string2fileDesc_paseo (hm : Magica img) (hi : img.ipg ≠ 0) (hb : blockSize d img.log ≠ 0)
    (fuel : ℕ) (p : Pila) (file : List Byte) (inodeDir : ℕ) (desc : FileDesc) :
    DelPaseo (cargadosDe d img p inodeDir)
      (string2dir fuel (loDe d img p inodeDir) file desc.de (u32 (inoDe d img p inodeDir) I_SIZE))
      (string2fileDesc fuel d img p file inodeDir desc) := by
  obtain ⟨h0, hlog, hipg⟩ := superblock_magica hm p.sb
  have hdiv : ¬ blockSize d img.log / 512 = 0 := fun hc => hb ((blockSize_div d img.log).mp hc)
  have hno : 0 ∉ [img.ipg, 512, blockSize d img.log / 512] := by
    simp only [List.mem_cons, List.not_mem_nil, or_false, not_or]
    exact ⟨Ne.symm hi, by decide, Ne.symm hdiv⟩
  unfold string2fileDesc
  simp only [h0, hlog, hipg, ne_eq, not_true, if_false, if_neg hi, if_neg hdiv]
  rw [← inoDe, ← loDe, ← cargadosDe]
  generalize string2dir fuel (loDe d img p inodeDir) file desc.de
    (u32 (inoDe d img p inodeDir) I_SIZE) = t
  obtain ⟨fin, s⟩ := t
  cases fin with
  | false => exact ⟨by simp, hno, rfl, rfl, rfl, rfl⟩
  | true =>
    simp only [not_true, if_false]
    split
    · exact ⟨by simp, hno, rfl, rfl, rfl, rfl⟩
    · refine ⟨by simp, ?_, rfl, rfl, rfl, rfl⟩
      rw [List.mem_append, List.mem_singleton, not_or]
      exact ⟨hno, Ne.symm hi⟩

lemma paseos_leidos (lo : Buf) (file : List Byte) (de : DirEntry) (k a : ℕ) :
    a ∈ ((pasear lo file)^[k] (inicio de)).leidos ↔ ∃ i < k, a ∈ leeEntrada lo file (donde lo i) :=
  paseos_traza (fun _ => rfl) rfl k a

lemma paseos_fichero (lo : Buf) (file : List Byte) (de : DirEntry) (k a : ℕ) :
    a ∈ ((pasear lo file)^[k] (inicio de)).fichero ↔ ∃ i < k, a ∈ ponFichero lo (donde lo i) :=
  paseos_traza (fun _ => rfl) rfl k a

lemma paseos_nombre (lo : Buf) (file : List Byte) (de : DirEntry) (k a : ℕ) :
    a ∈ ((pasear lo file)^[k] (inicio de)).nombre ↔ ∃ i < k, a ∈ ponNombre lo file (donde lo i) :=
  paseos_traza (fun _ => rfl) rfl k a

/-- A name of 255 bytes fits where only its bytes are copied. -/
lemma ponNombre_lt (h : a ∈ ponNombre lo file j) : a < EXT2_NAME_LEN := by
  unfold ponNombre at h
  split at h
  · have hlen : (dirEntry lo j).nameLen < 2 ^ 8 := (lo (j + 6)).isLt
    have := List.mem_range.mp h
    unfold EXT2_NAME_LEN
    omega
  · cases h

lemma cumple_of_sana (hm : Magica img) (h : Sana d img p file inodeDir) (desc : FileDesc) :
    Cumple d img p file inodeDir desc := by
  obtain ⟨hi, hb, hcabe, K, hK, hfin⟩ := h
  have hpaseo := fun fuel => string2fileDesc_paseo hm hi hb fuel p file inodeDir desc
  have hdir := string2dir_eq (loDe d img p inodeDir) file desc.de
    (u32 (inoDe d img p inodeDir) I_SIZE)
  -- no walk passes the end of the chain
  have hle : ∀ k, (∀ i < k, donde (loDe d img p inodeDir) i <
      u32 (inoDe d img p inodeDir) I_SIZE) → k ≤ K := fun k hall =>
    Nat.le_of_not_lt fun hlt => absurd (hall K hlt) (Nat.not_lt.mpr hfin)
  have hsitio : ∀ k, (∀ i < k, donde (loDe d img p inodeDir) i <
      u32 (inoDe d img p inodeDir) I_SIZE) → ∀ i < k, Sitio (loDe d img p inodeDir) file
        (cargadosDe d img p inodeDir) (donde (loDe d img p inodeDir) i) :=
    fun k hall i hik => (hK i (hik.trans_le (hle k hall))).2
  refine ⟨⟨K + 1, ?_⟩, fun fuel => (hpaseo fuel).divisores, fun fuel a ha => ?_,
    fun fuel a ha => ?_, fun fuel a ha => ?_, fun fuel a ha => ?_⟩
  · obtain ⟨k, hall, -, -, hfalse⟩ := hdir (K + 1)
    rw [(hpaseo (K + 1)).acaba]
    by_contra hc
    have := hle k hall
    have := hfalse (Bool.eq_false_of_not_eq_true hc)
    omega
  · rw [(hpaseo fuel).cargados] at ha
    exact (List.mem_range.mp ha).trans_le hcabe
  · obtain ⟨k, hall, he, -⟩ := hdir fuel
    rw [(hpaseo fuel).leidos, he, paseos_leidos] at ha
    obtain ⟨i, hik, ha⟩ := ha
    rw [(hpaseo fuel).cargados, List.mem_range]
    exact (sitio_iff.mp (hsitio k hall i hik)).1 a ha
  · obtain ⟨k, hall, he, -⟩ := hdir fuel
    rw [(hpaseo fuel).fichero, he, paseos_fichero] at ha
    obtain ⟨i, hik, ha⟩ := ha
    exact (sitio_iff.mp (hsitio k hall i hik)).2 a ha
  · obtain ⟨k, hall, he, -⟩ := hdir fuel
    rw [(hpaseo fuel).nombre, he, paseos_nombre] at ha
    obtain ⟨i, -, ha⟩ := ha
    exact ponNombre_lt ha

lemma Cumple.sana (hm : Magica img) (h : Cumple d img p file inodeDir desc) :
    Sana d img p file inodeDir := by
  have hi : img.ipg ≠ 0 := by
    intro hc
    have := h.divide 0
    rw [string2fileDesc_ipg hm hc] at this
    exact this (List.mem_singleton_self 0)
  have hb : blockSize d img.log ≠ 0 := by
    intro hc
    have := h.divide 0
    rw [string2fileDesc_bloque hm hi hc] at this
    exact this (by simp)
  obtain ⟨fuel, hsome⟩ := h.acaba
  have hpaseo := string2fileDesc_paseo hm hi hb fuel p file inodeDir desc
  obtain ⟨K, hall, he, htrue, -⟩ := string2dir_eq (loDe d img p inodeDir) file desc.de
    (u32 (inoDe d img p inodeDir) I_SIZE) fuel
  refine ⟨hi, hb, ?_, K, fun k hk => ⟨hall k hk, sitio_iff.mpr ⟨fun a ha => ?_, fun a ha => ?_⟩⟩,
    htrue (hpaseo.acaba.mp hsome)⟩
  · by_contra hc
    have := h.guarda fuel LOGIC_LEN
      (by rw [hpaseo.cargados]; exact List.mem_range.mpr (Nat.lt_of_not_le hc))
    exact absurd this (lt_irrefl _)
  · have := h.lee fuel a (by rw [hpaseo.leidos, he, paseos_leidos]; exact ⟨k, hk, ha⟩)
    rw [hpaseo.cargados] at this
    exact List.mem_range.mp this
  · exact h.fichero fuel a (by rw [hpaseo.fichero, he, paseos_fichero]; exact ⟨k, hk, ha⟩)

/-! ### The lookup of `Ext2` -/

lemma blockSize_cero (block : ℕ) : blockSize (fun _ => 0) block = Ext2.blockSize block := by
  unfold blockSize Ext2.blockSize
  split
  · rfl
  · next h =>
    have : 2 ^ block % 2 ^ 32 = 0 := Nat.mod_eq_zero_of_dvd (pow_dvd_pow 2 (by omega))
    rw [this, Nat.zero_mod, Nat.zero_mul, Nat.zero_mod]

/-- `string2file_desc` of `Ext2` is this one without its trace, if no divisor is 0. -/
theorem string2fileDesc_ext2 (hm : Magica img) (hi : img.ipg ≠ 0)
    (hb : Ext2.blockSize img.log ≠ 0) (fuel : ℕ) (p : Pila) (file : List Byte) (inodeDir : ℕ)
    (desc : FileDesc) : (string2fileDesc fuel (fun _ => 0) img p file inodeDir desc).1 =
      Ext2.string2fileDesc fuel img p file inodeDir desc := by
  obtain ⟨h0, hlog, hipg⟩ := superblock_magica hm p.sb
  have hdiv : ¬ Ext2.blockSize img.log / 512 = 0 := by
    rw [← blockSize_cero] at hb ⊢
    exact fun hc => hb ((blockSize_div _ _).mp hc)
  unfold string2fileDesc Ext2.string2fileDesc
  simp only [h0, hlog, hipg, blockSize_cero, ne_eq, not_true, if_false, if_neg hi, if_neg hdiv,
    string2dir_ext2]
  generalize string2dir fuel _ file desc.de _ = t
  obtain ⟨fin, s⟩ := t
  cases fin with
  | false => simp
  | true =>
    simp only [not_true, if_false, if_true, Option.map_some]
    split <;> rfl

lemma magica_of_valida (hv : Valida img) : Magica img :=
  ⟨(show SIZE_BOOT + S_MAGIC + 2 ≤ SIZE_BOOT + SB_LEN by decide).trans hv.super, hv.magic⟩

/-- A root of one block of 1024 bytes is walked safely, in a valid image with more than two inodes a
group, when no name in it is of 255 bytes. -/
lemma sana_of_valida {K : ℕ} (hv : Valida img) (hlog : img.log = 0) (hipg : 3 ≤ img.ipg)
    (hsize : img.palabra (img.lugar INODE_ROOT + I_SIZE) = img.bloque)
    (hd : Directorio img.raiz img.bloque K)
    (hname : ∀ k < K, (dirEntry img.raiz (donde img.raiz k)).nameLen < EXT2_NAME_LEN)
    (d : ℕ → ℕ) (p : Pila) (file : List Byte) : Sana d img p file INODE_ROOT := by
  have hbs : blockSize d img.log = img.bloque := by
    rw [Imagen.bloque, hlog, blockSize, if_pos (by decide)]
    rfl
  have hb : img.bloque = 1024 := by
    rw [Imagen.bloque, hlog]
    norm_num
  obtain ⟨hino, hlo⟩ := raiz_leida hv hlog hipg p
  have hinoDe : inoDe d img p INODE_ROOT = inoRaiz img p := by
    unfold inoDe
    simp only [hbs]
    exact inode_eq img _ _ _
  have hloDe : loDe d img p INODE_ROOT = loRaiz img p := by
    unfold loDe
    rw [hinoDe, hbs, blockLogico, blockJump_eq, Nat.zero_add]
    rfl
  have hblock : u32 (inoRaiz img p) I_BLOCK = img.palabra (img.lugar INODE_ROOT + I_BLOCK) :=
    u32_congr fun i hi => by
      rw [hino _ (by unfold I_BLOCK INO_LEN; omega), Nat.add_assoc]
  have hsz : u32 (inoRaiz img p) I_SIZE = img.bloque := by
    rw [← hsize]
    exact u32_congr fun i hi => by
      rw [hino _ (by unfold I_SIZE INO_LEN; omega), Nat.add_assoc]
  have hcarga : cargadosDe d img p INODE_ROOT = img.bloque := by
    have hin := hv.bloque
    rw [Nat.succ_mul] at hin
    unfold cargadosDe cargados
    rw [hinoDe, hbs, hblock, blockJump_eq, Nat.zero_add]
    omega
  refine ⟨by omega, by rw [hbs, hb]; decide, by rw [hcarga, hb]; decide, K, fun k hk => ?_, ?_⟩
  · have hcabe := hd.cabe k hk
    have hdentro := hd.dentro k hk
    have hlt := hd.lt hk
    have hlen : (dirEntry (loRaiz img p) (donde img.raiz k)).nameLen =
        (dirEntry img.raiz (donde img.raiz k)).nameLen :=
      congrArg BitVec.toNat (hlo _ (by omega))
    have hname := hname k hk
    rw [hinoDe, hloDe, hcarga, hsz, hd.donde_congr hlo hk.le]
    exact ⟨hlt, by rwa [hlen], by omega, fun _ => by omega, fun _ => by omega⟩
  · rw [hinoDe, hloDe, hsz, hd.donde_congr hlo le_rfl, hd.fin]

/-- **A lookup on any image.** With the magic number alone, a lookup of any name ends, divides by no
0 and stays in its buffers and in the block just when neither divisor is 0, the part of the block
that the file has fits in its buffer, and the entries come to the end of the directory, each of them
in that part and with a name of at most 254 bytes. -/
theorem busca_segura (hm : Magica img) (d : ℕ → ℕ) (p : Pila) (file : List Byte) (inodeDir : ℕ)
    (desc : FileDesc) : Cumple d img p file inodeDir desc ↔ Sana d img p file inodeDir :=
  ⟨fun h => h.sana hm, fun h => cumple_of_sana hm h desc⟩

/-- The image of the repository is searched safely. -/
theorem busca_segura_ramdisk : Cumple (fun _ => 0) (ramdisk 12) pilaCero [0x68, 0x6f, 0x6d, 0x65]
    INODE_ROOT descCero := by
  have hv := ramdisk_valida (n := 12) (Or.inl rfl)
  exact (busca_segura (magica_of_valida hv) _ _ _ _ _).mpr
    (sana_of_valida hv (by decide) (by decide) (by decide) (K := 4)
      ⟨by decide, by decide, by decide⟩ (by decide) _ _ _)

def vacia : Imagen := ⟨fun a => if a = 1080 then 0x53 else if a = 1081 then 0xef else 0, 2048⟩

/-- Where groups have no inodes the lookup divides by 0. -/
theorem vacia_divide : Magica vacia ∧
    ¬ Cumple (fun _ => 0) vacia pilaCero [0x61] INODE_ROOT descCero := by
  have hm : Magica vacia := ⟨by decide, by decide⟩
  exact ⟨hm, fun h => (h.sana hm).ipg (by decide)⟩

end Silicio.Scan
