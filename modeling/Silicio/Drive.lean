import Silicio.Floppy

/-!
The floppy drive: the rest of `fd/fd.c`, over the handshake.

Port 0x3f2 cannot be read back, so `fd_estado` is to hold what was last written there: whether the
controller is out of its reset, and whether the motor turns. A drive of these two bits says what it
holds after any calls, whatever the controller answers.
-/

namespace Silicio.Drive

open Silicio.Bitmap Silicio.Floppy

abbrev FD_CAP_NO_DETEC : ℕ := 2
abbrev FD_CONT_NO_REC : ℕ := 1
abbrev FD_INI : ℕ := 0
abbrev FD_START : Byte := 1
abbrev FD_STOP : Byte := 0

structure Unidad where
  bus : Bus
  fdEstado : Byte

def Unidad.con (u : Unidad) (f : Bus → Bus) : Unidad := { u with bus := f u.bus }

-- The delays, `fd_esperar` and the loop of `fd_motor`, touch nothing.

def fdReset (u : Unidad) : Unidad where
  bus := (u.bus.outb 0x3f2 0x00).outb 0x3f2 0x0c
  fdEstado := 0x0c

def fdMotor (n : Byte) (u : Unidad) : Unidad :=
  if n = FD_START then
    let e := u.fdEstado ||| 0x10
    ⟨u.bus.outb 0x3f2 e, e⟩
  else
    let e := u.fdEstado &&& ~~~0x10#8
    let bus :=
      if n ≠ FD_STOP then u.bus.printk "kernel : fd : error de parametro en fd_motor()\n"
      else u.bus
    ⟨bus.outb 0x3f2 e, e⟩

/-- The rest of `fd_ini`, when the controller is one it knows. -/
def fdCapacidad (u : Unidad) : ℕ × Unidad :=
  let (tipo, bus) := (u.con (Bus.outb 0x70 0x10)).bus.inb 0x71
  let u := { u with bus := bus }
  if tipo = 0x40 then
    let u := fdMotor FD_START (u.con (Bus.printk "Disquette de 1.44 Mb \n"))
    let u := fdMotor FD_STOP (u.con (Bus.printk "fd : Motor encendido\n "))
    (FD_INI, u.con (Bus.printk "fd : Motor detenido\n "))
  else (FD_CAP_NO_DETEC, u)

def fdIni (u : Unidad) : ℕ × Unidad :=
  let u := fdReset (u.con (Bus.printk "Iniciando unidad de disquette \"0\"\n"))
  let u := u.con (fdOut 0x10)
  let (version, bus) := fdIn u.bus
  let u := { u with bus := bus }
  if version = 0x80 then fdCapacidad (u.con (Bus.printk "Controlador de disquette 765A\n"))
  else if version = 0x90 then fdCapacidad (u.con (Bus.printk "Controlador de disquette 765B\n"))
  else (FD_CONT_NO_REC, u.con (Bus.printk "Controlador no reconocido\n"))

def fdSeek (cabeza cilindro : Byte) (u : Unidad) : ℤ × Unidad :=
  let cabeza := cabeza <<< 2
  if cabeza > 1 then (-1, u)
  else (0, ((u.con (fdOut 0x0f)).con (fdOut cabeza)).con (fdOut cilindro))

/-! ### Calls in any order -/

inductive Orden
  | ini
  | reset
  | motor (n : Byte)
  | seek (cabeza cilindro : Byte)
  | out (val : Byte)
  | leer

def ejecutar (u : Unidad) : Orden → Unidad
  | .ini => (fdIni u).2
  | .reset => fdReset u
  | .motor n => fdMotor n u
  | .seek cabeza cilindro => (fdSeek cabeza cilindro u).2
  | .out val => u.con (fdOut val)
  | .leer => u.con fun s => (fdIn s).2

def correr (u : Unidad) (os : List Orden) : Unidad := os.foldl ejecutar u

/-- The drive: out of its reset, motor on. -/
structure Disco where
  lista : Bool
  motor : Bool

def Disco.ejecutar (d : Disco) : Orden → Disco
  | .ini | .reset => ⟨true, false⟩
  | .motor n => { d with motor := n == FD_START }
  | _ => d

/-- What port 0x3f2 has to hold for it. -/
def Disco.registro (d : Disco) : Byte :=
  (if d.lista then 0x0c else 0) ||| if d.motor then 0x10 else 0

def Bus.ultimo (port : ℕ) (s : Bus) : Option Byte :=
  (s.escritos.find? fun w => w.1 == port).map Prod.snd

variable {u : Unidad} {d : Disco} {s : Bus} {val : Byte} {port : ℕ}

/-! ### What touches port 0x3f2 -/

lemma ultimo_outb (port : ℕ) (val : Byte) (s : Bus) :
    Bus.ultimo port (s.outb port val) = some val := by
  simp [Bus.ultimo, escritos_outb]

lemma ultimo_outb_of_ne {q : ℕ} (h : q ≠ port) (val : Byte) (s : Bus) :
    Bus.ultimo port (s.outb q val) = Bus.ultimo port s := by
  simp [Bus.ultimo, escritos_outb, h]

lemma ultimo_congr {s' : Bus} (h : s'.escritos = s.escritos) (port : ℕ) :
    Bus.ultimo port s' = Bus.ultimo port s := by
  rw [Bus.ultimo, h, Bus.ultimo]

lemma ultimo_printk (txt : String) (port : ℕ) (s : Bus) :
    Bus.ultimo port (s.printk txt) = Bus.ultimo port s :=
  ultimo_congr rfl port

lemma ultimo_inb (q port : ℕ) (s : Bus) : Bus.ultimo port (s.inb q).2 = Bus.ultimo port s :=
  ultimo_congr rfl port

lemma ultimo_sondeo (mask listo : Byte) (n : ℕ) (c : Byte) (port : ℕ) (s : Bus) :
    Bus.ultimo port (sondeo mask listo n c s).2 = Bus.ultimo port s := by
  apply ultimo_congr
  rcases sondeo_eq mask listo n c s with ⟨k, -, -, -, he⟩ | ⟨-, he⟩ <;> rw [he, escritos_tras]

/-- The handshake uses other ports. -/
lemma ultimo_fdOut (val : Byte) (s : Bus) :
    Bus.ultimo 0x3f2 (fdOut val s) = Bus.ultimo 0x3f2 s := by
  have h := ultimo_sondeo (0x80 ||| 0x40) 0x80 1000000 0 0x3f2 s
  unfold fdOut
  simp only
  split
  · rw [ultimo_printk, h]
  · rw [ultimo_outb_of_ne (by decide), h]

lemma ultimo_fdIn (s : Bus) : Bus.ultimo 0x3f2 (fdIn s).2 = Bus.ultimo 0x3f2 s := by
  have h := ultimo_sondeo (0x80 ||| 0x40 ||| 0x10) (0x80 ||| 0x40 ||| 0x10) 1000000 0 0x3f2 s
  unfold fdIn
  simp only
  split
  · rw [ultimo_printk, h]
  · rw [ultimo_inb, h]

/-! ### The register after each call -/

/-- The byte at port 0x3f2 is `fd_estado`. -/
def Anotada (u : Unidad) : Prop := Bus.ultimo 0x3f2 u.bus = some u.fdEstado

lemma Anotada.ultimo (h : Anotada u) (he : u.fdEstado = d.registro) :
    Bus.ultimo 0x3f2 u.bus = some d.registro :=
  he ▸ h

lemma Anotada.con (h : Anotada u) {f : Bus → Bus}
    (hf : ∀ s, Bus.ultimo 0x3f2 (f s) = Bus.ultimo 0x3f2 s) : Anotada (u.con f) :=
  (hf u.bus).trans h

lemma anotada_fdReset (u : Unidad) : Anotada (fdReset u) := ultimo_outb _ _ _

lemma anotada_fdMotor (n : Byte) (u : Unidad) : Anotada (fdMotor n u) := by
  unfold fdMotor
  split <;> exact ultimo_outb _ _ _

lemma fdMotor_fdEstado (n : Byte) (h : u.fdEstado = d.registro) :
    (fdMotor n u).fdEstado = Disco.registro { d with motor := n == FD_START } := by
  obtain ⟨lista, motor⟩ := d
  unfold fdMotor
  by_cases hn : n = FD_START
  · simp only [h, hn, beq_self_eq_true]
    cases lista <;> cases motor <;> rfl
  · simp only [if_neg hn, h, beq_false_of_ne hn]
    cases lista <;> cases motor <;> rfl

def Parada (u : Unidad) : Prop := Anotada u ∧ u.fdEstado = Disco.registro ⟨true, false⟩

lemma Parada.con (h : Parada u) {f : Bus → Bus}
    (hf : ∀ s, Bus.ultimo 0x3f2 (f s) = Bus.ultimo 0x3f2 s) : Parada (u.con f) :=
  ⟨h.1.con hf, h.2⟩

lemma fdCapacidad_parada (h : Parada u) : Parada (fdCapacidad u).2 := by
  set u₁ : Unidad := { u with bus := ((u.con (Bus.outb 0x70 0x10)).bus.inb 0x71).2 } with hu₁
  have h₁ : Parada u₁ := by
    refine ⟨?_, h.2⟩
    exact (ultimo_inb _ _ _).trans ((ultimo_outb_of_ne (by decide) _ _).trans h.1)
  unfold fdCapacidad
  simp only [← hu₁]
  split
  · set u₂ := fdMotor FD_START (u₁.con (Bus.printk "Disquette de 1.44 Mb \n")) with hu₂
    have he : u₂.fdEstado = Disco.registro ⟨true, true⟩ := fdMotor_fdEstado FD_START h₁.2
    refine Parada.con ⟨anotada_fdMotor _ _, ?_⟩ fun s => ultimo_printk _ _ s
    exact fdMotor_fdEstado (u := u₂.con _) FD_STOP he
  · exact h₁

lemma fdIni_parada (u : Unidad) : Parada (fdIni u).2 := by
  set u₁ := (fdReset (u.con (Bus.printk "Iniciando unidad de disquette \"0\"\n"))).con (fdOut 0x10)
    with hu₁
  have h₁ : Anotada u₁ := (anotada_fdReset _).con (ultimo_fdOut 0x10)
  set u₂ : Unidad := { u₁ with bus := (fdIn u₁.bus).2 } with hu₂
  have h₂ : Parada u₂ := ⟨(ultimo_fdIn u₁.bus).trans h₁, rfl⟩
  unfold fdIni
  simp only [← hu₁, ← hu₂]
  split_ifs
  · exact fdCapacidad_parada (h₂.con fun s => ultimo_printk _ _ s)
  · exact fdCapacidad_parada (h₂.con fun s => ultimo_printk _ _ s)
  · exact h₂.con fun s => ultimo_printk _ _ s

/-! ### Runs -/

def Orden.escribe : Orden → Bool
  | .ini | .reset | .motor _ => true
  | _ => false

lemma Disco.ejecutar_calla (d : Disco) {o : Orden} (h : o.escribe = false) : d.ejecutar o = d := by
  cases o <;> first | rfl | cases h

/-- **A call does to the register what it does to the drive.** -/
lemma ejecutar_registro (h : u.fdEstado = d.registro) (o : Orden) :
    (ejecutar u o).fdEstado = (d.ejecutar o).registro ∧
    Bus.ultimo 0x3f2 (ejecutar u o).bus =
      if o.escribe then some (d.ejecutar o).registro else Bus.ultimo 0x3f2 u.bus := by
  cases o with
  | ini =>
    obtain ⟨ha, he⟩ := fdIni_parada u
    exact ⟨he, ha.ultimo he⟩
  | reset =>
    have he : (fdReset u).fdEstado = Disco.registro ⟨true, false⟩ := by
      simp [fdReset, Disco.registro]
    exact ⟨he, (anotada_fdReset u).ultimo he⟩
  | motor n =>
    have he := fdMotor_fdEstado n h
    exact ⟨he, (anotada_fdMotor n u).ultimo he⟩
  | seek cabeza cilindro =>
    simp only [ejecutar, fdSeek]
    split
    · exact ⟨h, rfl⟩
    · refine ⟨h, ?_⟩
      simp [Unidad.con, ultimo_fdOut, Orden.escribe]
  | out val => exact ⟨h, ultimo_fdOut val u.bus⟩
  | leer => exact ⟨h, ultimo_fdIn u.bus⟩

/-- **The register is the drive's**, after any calls in any order, whatever the controller answers:
`fd_estado` holds its two bits, and so does port 0x3f2 once anything has been written there. -/
theorem motor_reflejado (b : Bus) (os : List Orden) :
    (correr ⟨b, 0⟩ os).fdEstado = (os.foldl Disco.ejecutar ⟨false, false⟩).registro ∧
    Bus.ultimo 0x3f2 (correr ⟨b, 0⟩ os).bus =
      if os.any Orden.escribe then some (os.foldl Disco.ejecutar ⟨false, false⟩).registro
      else Bus.ultimo 0x3f2 b := by
  induction os using List.reverseRecOn with
  | nil => exact ⟨rfl, rfl⟩
  | append_singleton os o ih =>
    obtain ⟨he, hb⟩ := ejecutar_registro ih.1 o
    have hcorre : correr ⟨b, 0⟩ (os ++ [o]) = ejecutar (correr ⟨b, 0⟩ os) o := by
      simp [correr]
    have hdisco : (os ++ [o]).foldl Disco.ejecutar ⟨false, false⟩ =
        (os.foldl Disco.ejecutar ⟨false, false⟩).ejecutar o := by
      simp
    rw [hcorre, hdisco]
    refine ⟨he, hb.trans ?_⟩
    cases ho : o.escribe with
    | true => simp [ho]
    | false =>
      rw [Disco.ejecutar_calla _ ho, ih.2]
      simp [ho]

end Silicio.Drive
