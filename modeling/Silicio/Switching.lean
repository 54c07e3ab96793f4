import Mathlib.Tactic

/-!
Tasks that take turns on a processor.

The processor holds the registers of the task it runs; those of the others are saved, each task's
in a record of its own. A switch saves the registers of the task that leaves, loads those of the
one that enters and marks it as taken. A jump takes the mark from the task that leaves; an
interruption lets it keep the mark, for the new task is nested in it. A marked task cannot be
entered.

One task, the base, hands out the processor: it lets tasks in, and clears the mark of the last one
when it gets the processor back.
-/

namespace Silicio.Switching

variable {ι C : Type*}

structure Cpu (ι C : Type*) where
  actual : ι
  regs : C
  salvado : ι → C
  ocupada : ι → Bool

variable [DecidableEq ι]

def Cpu.salvar (p : Cpu ι C) : ι → C := Function.update p.salvado p.actual p.regs

def Cpu.saltar (u : ι) (p : Cpu ι C) : Option (Cpu ι C) :=
  if p.ocupada u then none
  else some ⟨u, p.salvar u, p.salvar,
    Function.update (Function.update p.ocupada p.actual false) u true⟩

/-- An interruption by task `u`, which leaves a trace `f` in the registers it enters with. -/
def Cpu.interrumpir (f : C → C) (u : ι) (p : Cpu ι C) : Option (Cpu ι C) :=
  if p.ocupada u then none
  else some ⟨u, f (p.salvar u), p.salvar, Function.update p.ocupada u true⟩

def Cpu.soltar (u : ι) (p : Cpu ι C) : Cpu ι C :=
  { p with ocupada := Function.update p.ocupada u false }

def Cpu.propios (p : Cpu ι C) (t : ι) : C := if t = p.actual then p.regs else p.salvado t

variable {p q : Cpu ι C} {base u g : ι} {f : C → C}

/-! ### The registers -/

lemma Cpu.propios_eq (p : Cpu ι C) : p.propios = p.salvar := by
  ext t
  simp [Cpu.propios, Cpu.salvar, Function.update_apply]

/-- **A jump gives each task its own registers.** -/
theorem Cpu.saltar_propios (h : p.saltar u = some q) : q.propios = p.propios := by
  unfold Cpu.saltar at h
  split at h
  · cases h
  · obtain rfl := Option.some.inj h
    ext t
    rw [Cpu.propios_eq p]
    simp only [Cpu.propios]
    split
    · next ht => rw [ht]
    · rfl

/-- **An interruption too**, but for its trace. -/
theorem Cpu.interrumpir_propios (h : p.interrumpir f u = some q) :
    q.propios = Function.update p.propios u (f (p.propios u)) := by
  unfold Cpu.interrumpir at h
  split at h
  · cases h
  · obtain rfl := Option.some.inj h
    ext t
    rw [Cpu.propios_eq p]
    simp only [Cpu.propios, Function.update_apply]

lemma Cpu.saltar_salvado (h : p.saltar u = some q) : q.salvado = p.propios := by
  unfold Cpu.saltar at h
  split at h
  · cases h
  · obtain rfl := Option.some.inj h
    exact p.propios_eq.symm

lemma Cpu.interrumpir_salvado (h : p.interrumpir f u = some q) : q.salvado = p.propios := by
  unfold Cpu.interrumpir at h
  split at h
  · cases h
  · obtain rfl := Option.some.inj h
    exact p.propios_eq.symm

@[simp] lemma Cpu.soltar_propios (u : ι) (p : Cpu ι C) : (p.soltar u).propios = p.propios := rfl

/-! ### The marks -/

/-- Who has the processor: the base, which has still to clear the mark of the last task it let in
if there is one; a task; or a task nested in another. -/
inductive Fase (ι : Type*)
  | base (pendiente : Option ι)
  | dentro (u : ι)
  | anidada (u g : ι)

def Fase.corre (base : ι) : Fase ι → ι
  | .base _ => base
  | .dentro u => u
  | .anidada _ g => g

/-- The last task the base let in. -/
def Fase.ultima : Fase ι → Option ι
  | .base p => p
  | .dentro u => some u
  | .anidada u _ => some u

/-- The task whose turn it is. -/
def Fase.turno : Fase ι → Option ι
  | .base _ => none
  | .dentro u => some u
  | .anidada u _ => some u

def Fase.Marca (base : ι) : Fase ι → ι → Prop
  | .base none, t => t = base
  | .base (some u), t => t = base ∨ t = u
  | .dentro u, t => t = u
  | .anidada u g, t => t = u ∨ t = g

structure Cpu.En (base : ι) (e : Fase ι) (p : Cpu ι C) : Prop where
  actual : p.actual = e.corre base
  marcas : ∀ t, p.ocupada t = true ↔ e.Marca base t

lemma Cpu.En.regs {e : Fase ι} (h : p.En base e) : p.propios (e.corre base) = p.regs := by
  rw [Cpu.propios, if_pos h.actual.symm]

lemma Cpu.En.saltar {e e' : Fase ι} (h : p.En base e) (hu : ¬ e.Marca base u)
    (hc : e'.corre base = u)
    (hm : ∀ t, e'.Marca base t ↔ t = u ∨ t ≠ e.corre base ∧ e.Marca base t) :
    ∃ q, p.saltar u = some q ∧ q.En base e' := by
  have hno : ¬ p.ocupada u = true := fun hc => hu ((h.marcas u).mp hc)
  refine ⟨_, if_neg hno, hc.symm, fun t => ?_⟩
  have ht := h.marcas t
  simp only [Function.update_apply, h.actual]
  rw [hm]
  split_ifs <;> simp_all

lemma Cpu.En.interrumpir {e e' : Fase ι} (h : p.En base e) (hu : ¬ e.Marca base u)
    (hc : e'.corre base = u) (hm : ∀ t, e'.Marca base t ↔ t = u ∨ e.Marca base t) :
    ∃ q, p.interrumpir f u = some q ∧ q.En base e' := by
  have hno : ¬ p.ocupada u = true := fun hc => hu ((h.marcas u).mp hc)
  refine ⟨_, if_neg hno, hc.symm, fun t => ?_⟩
  have ht := h.marcas t
  simp only [Function.update_apply]
  rw [hm]
  split_ifs <;> simp_all

lemma Cpu.En.soltar (h : p.En base (.base (some u))) (hu : u ≠ base) :
    (p.soltar u).En base (.base none) := by
  refine ⟨h.actual, fun t => ?_⟩
  have ht := h.marcas t
  simp only [Cpu.soltar, Function.update_apply, Fase.Marca] at ht ⊢
  split_ifs with he
  · simp [he, hu]
  · simpa [he] using ht

lemma Cpu.En.entra (h : p.En base (.base none)) (hu : u ≠ base) :
    ∃ q, p.saltar u = some q ∧ q.En base (.dentro u) :=
  h.saltar hu rfl fun t => by simp [Fase.Marca, Fase.corre]

lemma Cpu.En.anida (h : p.En base (.dentro u)) (hg : g ≠ u) :
    ∃ q, p.interrumpir f g = some q ∧ q.En base (.anidada u g) :=
  h.interrumpir hg rfl fun _ => or_comm

lemma Cpu.En.vuelve (h : p.En base (.anidada u g)) (hu : u ≠ base) (hg : g ≠ base) (hug : u ≠ g) :
    ∃ q, p.saltar base = some q ∧ q.En base (.base (some u)) := by
  refine h.saltar (fun hc => hc.elim hu.symm hg.symm) rfl fun t => ?_
  simp only [Fase.Marca, Fase.corre]
  constructor
  · rintro (rfl | rfl)
    · exact Or.inl rfl
    · exact Or.inr ⟨hug, Or.inl rfl⟩
  · rintro (rfl | ⟨hne, rfl | rfl⟩)
    · exact Or.inl rfl
    · exact Or.inr rfl
    · exact absurd rfl hne

end Silicio.Switching
