import Mathlib.Tactic

/-!
Requests and answers between tasks, where one task serves each slot.

A task that asks something of a slot waits until the task that serves the slot answers; the
slot notes whom to answer, in one place. Waiting is all one: a server with nothing to do, a
client with a request pending and a task that merely sleeps look the same, and a server may be
a client of another slot. What a run remembers beside the state is which request each slot has
pending, and which tasks came to wait by taking up or finishing their service: those are idle.
The protocol is safe as long as requests go to idle servers only.
-/

namespace Silicio.Protocol

variable {T S : Type*}

inductive Fase
  | corre | espera | otra
  deriving DecidableEq, Repr

/-- The tasks' phases, the server of each slot, and whom each slot answers. -/
@[ext] structure Estado (T S : Type*) where
  fase : T → Fase
  dueno : S → Option T
  cliente : S → T

/-- What a task does in one step: takes up a slot, asks slot `i` served by `d`, answers on slot
`i`, goes to sleep, or nothing of these. -/
inductive Accion (T S : Type*)
  | registrar (i : S)
  | pedir (i : S) (d : T)
  | contestar (i : S)
  | dormir
  | nada

/-- What the slots and the tasks must be like for task `t` to take the step. -/
structure Puede (s : Estado T S) (t : T) (a : Accion T S) : Prop where
  corre : s.fase t = .corre
  registrar : ∀ i, a = .registrar i → s.dueno i = none ∧ ∀ j, s.dueno j ≠ some t
  pedir : ∀ i d, a = .pedir i d → s.dueno i = some d ∧ s.fase d = .espera
  contestar : ∀ i, a = .contestar i → s.dueno i = some t

structure Memoria (T S : Type*) where
  pend : S → Option T
  ocioso : T → Prop

def Memoria.vacia : Memoria T S := ⟨fun _ => none, fun _ => False⟩

/-- A request goes to an idle server. -/
def Ociosa (g : Memoria T S) (a : Accion T S) : Prop := ∀ i d, a = .pedir i d → g.ocioso d

structure Inv (s : Estado T S) (g : Memoria T S) : Prop where
  uno : ∀ i j d, s.dueno i = some d → s.dueno j = some d → i = j
  libre : ∀ i, s.dueno i = none → g.pend i = none
  ocupado : ∀ i d, s.dueno i = some d →
    (g.pend i = none ↔ s.fase d = .espera ∧ g.ocioso d)
  cliente : ∀ i c, g.pend i = some c →
    s.cliente i = c ∧ s.fase c = .espera ∧ ¬ g.ocioso c
  solo : ∀ i j c, g.pend i = some c → g.pend j = some c → i = j

variable {s : Estado T S} {g : Memoria T S} {t : T} {a : Accion T S}

lemma Inv.pend_of_corre (h : Inv s g) {i : S} {d : T} (hd : s.dueno i = some d)
    (hc : s.fase d = .corre) : ∃ c, g.pend i = some c := by
  cases hp : g.pend i with
  | some c => exact ⟨c, rfl⟩
  | none =>
    have := ((h.ocupado i d hd).mp hp).1
    rw [hc] at this
    cases this

lemma Inv.ne_of_corre (h : Inv s g) {i : S} {c : T} (hp : g.pend i = some c)
    (ht : s.fase t = .corre) : c ≠ t := by
  rintro rfl
  have := (h.cliente i c hp).2.1
  rw [ht] at this
  cases this

/-! ### Steps -/

variable [DecidableEq T]

lemma Inv.duerme (h : Inv s g) (ht : s.fase t = .corre) {f : Fase} :
    Inv { s with fase := Function.update s.fase t f }
      { g with ocioso := fun u => u ≠ t ∧ g.ocioso u } := by
  refine ⟨h.uno, h.libre, fun i d hd => ?_, fun i c hp => ?_, h.solo⟩
  · simp only [Function.update_apply]
    rcases eq_or_ne d t with rfl | hne
    · obtain ⟨c, hc⟩ := h.pend_of_corre hd ht
      simp [hc]
    · simp only [hne, if_false, ne_eq, not_false_eq_true, true_and]
      exact h.ocupado i d hd
  · obtain ⟨hcl, hf, ho⟩ := h.cliente i c hp
    simp only [Function.update_apply, if_neg (h.ne_of_corre hp ht)]
    exact ⟨hcl, hf, fun hx => ho hx.2⟩

variable [DecidableEq S]

def paso [Zero T] (s : Estado T S) (t : T) : Accion T S → Estado T S
  | .registrar i =>
    { fase := Function.update s.fase t .espera
      dueno := Function.update s.dueno i (some t)
      cliente := Function.update s.cliente i 0 }
  | .pedir i d =>
    { s with
      fase := Function.update (Function.update s.fase t .espera) d .corre
      cliente := Function.update s.cliente i t }
  | .contestar i =>
    { s with fase := Function.update (Function.update s.fase (s.cliente i) .corre) t .espera }
  | .dormir => { s with fase := Function.update s.fase t .espera }
  | .nada => s

def Memoria.anotar (g : Memoria T S) (t : T) : Accion T S → Memoria T S
  | .registrar _ => { g with ocioso := fun u => u = t ∨ g.ocioso u }
  | .pedir i _ =>
    { pend := Function.update g.pend i (some t), ocioso := fun u => u ≠ t ∧ g.ocioso u }
  | .contestar i =>
    { pend := Function.update g.pend i none, ocioso := fun u => u = t ∨ g.ocioso u }
  | .dormir => { g with ocioso := fun u => u ≠ t ∧ g.ocioso u }
  | .nada => { g with ocioso := fun u => u ≠ t ∧ g.ocioso u }

variable [Zero T]

/-- Whom a step may set running: the server it asks, or the client it answers. -/
lemma paso_corre {u : T} (h : (paso s t a).fase u = .corre) :
    s.fase u = .corre ∨ (∃ i, a = .pedir i u) ∨ ∃ i, a = .contestar i ∧ s.cliente i = u := by
  cases a with
  | registrar i =>
    simp only [paso, Function.update_apply] at h
    split at h
    · cases h
    · exact Or.inl h
  | pedir i d =>
    simp only [paso, Function.update_apply] at h
    split at h
    · next hd => exact Or.inr (Or.inl ⟨i, by rw [hd]⟩)
    · split at h
      · cases h
      · exact Or.inl h
  | contestar i =>
    simp only [paso, Function.update_apply] at h
    split at h
    · cases h
    · split at h
      · next hc => exact Or.inr (Or.inr ⟨i, rfl, hc.symm⟩)
      · exact Or.inl h
  | dormir =>
    simp only [paso, Function.update_apply] at h
    split at h
    · cases h
    · exact Or.inl h
  | nada => exact Or.inl h

lemma Inv.registrar (h : Inv s g) {i : S} (ht : s.fase t = .corre) (hi : s.dueno i = none)
    (hno : ∀ j, s.dueno j ≠ some t) :
    Inv (paso s t (.registrar i)) (g.anotar t (.registrar i)) := by
  have hpi := h.libre i hi
  refine ⟨fun j k d hj hk => ?_, fun j hj => ?_, fun j d hj => ?_, fun j c hc => ?_, h.solo⟩
  · simp only [Protocol.paso, Function.update_apply] at hj hk
    split at hj
    · next he =>
      obtain rfl := Option.some.inj hj
      split at hk
      · next hek => rw [he, hek]
      · exact absurd hk (hno k)
    · split at hk
      · obtain rfl := Option.some.inj hk
        exact absurd hj (hno j)
      · exact h.uno j k d hj hk
  · simp only [Protocol.paso, Function.update_apply] at hj
    split at hj
    · cases hj
    · exact h.libre j hj
  · simp only [Protocol.paso, Function.update_apply] at hj ⊢
    split at hj
    · next he =>
      obtain rfl := Option.some.inj hj
      subst he
      simp [Memoria.anotar, hpi]
    · have hd : d ≠ t := by
        rintro rfl
        exact hno j hj
      simp only [Memoria.anotar, hd, if_false, false_or]
      exact h.ocupado j d hj
  · have hc' : g.pend j = some c := hc
    obtain ⟨hcl, hf, hq⟩ := h.cliente j c hc'
    have hct := h.ne_of_corre hc' ht
    have hji : j ≠ i := by
      rintro rfl
      rw [hpi] at hc'
      cases hc'
    simp only [Protocol.paso, Memoria.anotar, Function.update_apply, if_neg hji, if_neg hct]
    exact ⟨hcl, hf, fun hx => hx.elim hct hq⟩

lemma Inv.pedir (h : Inv s g) {i : S} {d : T} (ht : s.fase t = .corre) (hi : s.dueno i = some d)
    (hd : s.fase d = .espera) (hq : g.ocioso d) :
    Inv (paso s t (.pedir i d)) (g.anotar t (.pedir i d)) := by
  have hdt : d ≠ t := by
    rintro rfl
    rw [ht] at hd
    cases hd
  have hpi : g.pend i = none := (h.ocupado i d hi).mpr ⟨hd, hq⟩
  -- an idle server is nobody's client
  have hcd : ∀ j c, g.pend j = some c → c ≠ d := fun j c hc he =>
    (h.cliente j c hc).2.2 (he ▸ hq)
  refine ⟨h.uno, fun j hj => ?_, fun j e hj => ?_, fun j c hc => ?_, fun j k c hj hk => ?_⟩
  · have hj' : s.dueno j = none := hj
    have hji : j ≠ i := by
      rintro rfl
      rw [hi] at hj'
      cases hj'
    simp only [Memoria.anotar, Function.update_of_ne hji]
    exact h.libre j hj'
  · have hj' : s.dueno j = some e := hj
    simp only [Protocol.paso, Memoria.anotar, Function.update_apply]
    rcases eq_or_ne j i with rfl | hji
    · rw [hi] at hj'
      obtain rfl := Option.some.inj hj'
      simp
    · have hed : e ≠ d := fun he => hji (h.uno j i d (he ▸ hj') hi)
      rw [if_neg hji, if_neg hed]
      rcases eq_or_ne e t with rfl | het
      · obtain ⟨c, hc⟩ := h.pend_of_corre hj' ht
        simp [hc]
      · simp only [het, if_false, ne_eq, not_false_eq_true, true_and]
        exact h.ocupado j e hj'
  · simp only [Protocol.paso, Memoria.anotar, Function.update_apply] at hc ⊢
    rcases eq_or_ne j i with rfl | hji
    · rw [if_pos rfl] at hc ⊢
      obtain rfl := Option.some.inj hc
      rw [if_neg hdt.symm, if_pos rfl]
      exact ⟨rfl, rfl, fun hx => hx.1 rfl⟩
    · rw [if_neg hji] at hc ⊢
      obtain ⟨hcl, hf, hno⟩ := h.cliente j c hc
      rw [if_neg (hcd j c hc), if_neg (h.ne_of_corre hc ht)]
      exact ⟨hcl, hf, fun hx => hno hx.2⟩
  · simp only [Memoria.anotar, Function.update_apply] at hj hk
    split at hj
    · next hji =>
      obtain rfl := Option.some.inj hj
      split at hk
      · next hki => rw [hji, hki]
      · exact absurd rfl (h.ne_of_corre hk ht)
    · split at hk
      · obtain rfl := Option.some.inj hk
        exact absurd rfl (h.ne_of_corre hj ht)
      · exact h.solo j k c hj hk

lemma Inv.contestar (h : Inv s g) {i : S} (ht : s.fase t = .corre) (hi : s.dueno i = some t) :
    Inv (paso s t (.contestar i)) (g.anotar t (.contestar i)) := by
  obtain ⟨c, hc⟩ := h.pend_of_corre hi ht
  obtain ⟨hcl, hcf, hcq⟩ := h.cliente i c hc
  have hct := h.ne_of_corre hc ht
  refine ⟨h.uno, fun j hj => ?_, fun j e hj => ?_, fun j c' hc' => ?_, fun j k c' hj hk => ?_⟩
  · simp only [Memoria.anotar, Function.update_apply]
    split
    · rfl
    · exact h.libre j hj
  · have hj' : s.dueno j = some e := hj
    simp only [Protocol.paso, Memoria.anotar, Function.update_apply, hcl]
    rcases eq_or_ne j i with rfl | hji
    · rw [hi] at hj'
      obtain rfl := Option.some.inj hj'
      simp
    · have het : e ≠ t := fun he => hji (h.uno j i t (he ▸ hj') hi)
      rw [if_neg hji, if_neg het]
      rcases eq_or_ne e c with rfl | hec
      · -- the client was not idle, so if it serves a slot that slot has a request
        have hne : g.pend j ≠ none := fun hx => hcq ((h.ocupado j e hj').mp hx).2
        simp [hne]
      · simp only [hec, if_false, het, false_or]
        exact h.ocupado j e hj'
  · simp only [Memoria.anotar, Function.update_apply] at hc'
    split at hc'
    · cases hc'
    · next hji =>
      obtain ⟨hcl', hf', hq'⟩ := h.cliente j c' hc'
      have hcc : c' ≠ c := fun he => hji (h.solo j i c (he ▸ hc') hc)
      have hct' := h.ne_of_corre hc' ht
      simp only [Protocol.paso, Memoria.anotar, Function.update_apply, hcl, if_neg hct',
        if_neg hcc]
      exact ⟨hcl', hf', fun hx => hx.elim hct' hq'⟩
  · simp only [Memoria.anotar, Function.update_apply] at hj hk
    split at hj
    · cases hj
    · split at hk
      · cases hk
      · exact h.solo j k c' hj hk

/-- **The step lemma**: a step whose request, if it makes one, goes to an idle server. -/
theorem Inv.paso (h : Inv s g) (hp : Puede s t a) (ho : Ociosa g a) :
    Inv (paso s t a) (g.anotar t a) := by
  have ht := hp.corre
  cases a with
  | registrar i => exact h.registrar ht (hp.registrar i rfl).1 (hp.registrar i rfl).2
  | pedir i d => exact h.pedir ht (hp.pedir i d rfl).1 (hp.pedir i d rfl).2 (ho i d rfl)
  | contestar i => exact h.contestar ht (hp.contestar i rfl)
  | dormir => exact h.duerme ht
  | nada =>
    have := h.duerme (f := s.fase t) ht
    rwa [Function.update_eq_self] at this

/-- What a step may do while requests are pending: a request not answered by the step stays the
one its slot answers, its client goes on waiting, and the slot takes no other; an answer goes
to a client whose request is pending. -/
structure Segura (s : Estado T S) (g : Memoria T S) (t : T) (a : Accion T S) : Prop where
  sigue : ∀ i c, g.pend i = some c → a ≠ .contestar i →
    (paso s t a).cliente i = c ∧ (paso s t a).fase c = .espera ∧ c ≠ t ∧ ∀ d, a ≠ .pedir i d
  contesta : ∀ i, a = .contestar i → g.pend i = some (s.cliente i)

/-- **Safety of a step** is that its request goes to an idle server. -/
theorem Inv.segura_iff (h : Inv s g) (hp : Puede s t a) : Segura s g t a ↔ Ociosa g a := by
  have ht := hp.corre
  constructor
  · rintro hs i d rfl
    obtain ⟨hi, hd⟩ := hp.pedir i d rfl
    by_contra hno
    cases hpi : g.pend i with
    | none => exact hno ((h.ocupado i d hi).mp hpi).2
    | some c => exact (hs.sigue i c hpi (by simp)).2.2.2 d rfl
  · intro ho
    refine ⟨fun i c hc hne => ?_, fun i hi => ?_⟩
    · have hinv := h.paso hp ho
      have hct := h.ne_of_corre hc ht
      have hped : ∀ d, a ≠ .pedir i d := by
        rintro d rfl
        obtain ⟨hi, hd⟩ := hp.pedir i d rfl
        have := (h.ocupado i d hi).mpr ⟨hd, ho i d rfl⟩
        rw [hc] at this
        cases this
      have hpend : (g.anotar t a).pend i = some c := by
        cases a with
        | pedir j d =>
          have hij : i ≠ j := fun he => hped d (by rw [he])
          simp only [Memoria.anotar, Function.update_of_ne hij, hc]
        | contestar j =>
          have hij : i ≠ j := fun he => hne (by rw [he])
          simp only [Memoria.anotar, Function.update_of_ne hij, hc]
        | _ => exact hc
      obtain ⟨h1, h2, -⟩ := hinv.cliente i c hpend
      exact ⟨h1, h2, hct, hped⟩
    · obtain ⟨c, hc⟩ := h.pend_of_corre (hp.contestar i hi) ht
      rw [hc, (h.cliente i c hc).1]

end Silicio.Protocol
