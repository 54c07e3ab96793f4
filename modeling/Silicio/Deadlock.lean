import Silicio.Protocol

/-!
Who waits for whom, between tasks that ask and tasks that serve.

A client waits for the server of the slot it has asked, which may be waiting for another server. As
long as requests go to idle servers, these chains have no cycle, for a server that is asked waits
for nobody; and as long as no server goes to sleep in the middle of a request, each of them ends at
a task that runs.
-/

namespace Silicio.Deadlock

open Relation Silicio.Protocol

/-! ### Chains -/

/-- In a finite graph a chain ends or comes to a cycle. -/
lemma termina_o_gira {α : Type*} {R : α → α → Prop} (hfin : {x | ∃ y, R x y}.Finite) (c : α) :
    (∃ d, ReflTransGen R c d ∧ ∀ e, ¬ R d e) ∨ ∃ d, ReflTransGen R c d ∧ TransGen R d d := by
  by_contra! hno
  obtain ⟨hsig, hgira⟩ := hno
  choose! f hf using hsig
  have halcanza (n : ℕ) : ReflTransGen R c (f^[n] c) := by
    induction n with
    | zero => exact .refl
    | succ n ih =>
      rw [Function.iterate_succ_apply']
      exact ih.tail (hf _ ih)
  have hsube (m n : ℕ) : TransGen R (f^[m] c) (f^[m + n + 1] c) := by
    induction n with
    | zero =>
      rw [Function.iterate_succ_apply']
      exact .single (hf _ (halcanza m))
    | succ n ih =>
      rw [← Nat.add_assoc, Function.iterate_succ_apply']
      exact ih.tail (hf _ (halcanza _))
  have hmem (n : ℕ) : f^[n] c ∈ {x | ∃ y, R x y} := ⟨_, hf _ (halcanza n)⟩
  obtain ⟨m, n, hmn, he⟩ := hfin.exists_lt_map_eq_of_forall_mem hmem
  obtain ⟨j, rfl⟩ := Nat.exists_eq_add_of_lt hmn
  have := hsube m j
  rw [← he] at this
  exact hgira _ (halcanza m) this

/-- Where new steps lead to dead ends only, every cycle is an old one. -/
lemma ciclo_viejo {α : Type*} {R R' : α → α → Prop} (h : ∀ x y, R' x y → R x y ∨ ∀ z, ¬ R' y z)
    {c : α} (hc : TransGen R' c c) : TransGen R c c := by
  have hviejo {x y : α} (hxy : TransGen R' x y) (hy : ∃ z, R' y z) : TransGen R x y := by
    induction hxy with
    | single hx =>
      obtain ⟨z, hz⟩ := hy
      exact .single ((h _ _ hx).resolve_right fun hno => hno z hz)
    | tail _ hyz ih =>
      obtain ⟨w, hw⟩ := hy
      exact (ih ⟨_, hyz⟩).tail ((h _ _ hyz).resolve_right fun hno => hno w hw)
  obtain ⟨z, hz, -⟩ := TransGen.head'_iff.mp hc
  exact hviejo hc ⟨z, hz⟩

variable {T S : Type*} {s : Estado T S} {g : Memoria T S} {t c d e : T} {i : S} {a : Accion T S}

/-- Task `c` waits for `d`, which serves the slot it has asked. -/
def Aguarda (s : Estado T S) (g : Memoria T S) (c d : T) : Prop :=
  ∃ i, g.pend i = some c ∧ s.dueno i = some d

def SinCiclos (s : Estado T S) (g : Memoria T S) : Prop := ∀ c, ¬ TransGen (Aguarda s g) c c

/-- The server of a request runs, or has a request of its own. -/
def Despierta (s : Estado T S) (g : Memoria T S) : Prop :=
  ∀ i c d, g.pend i = some c → s.dueno i = some d → s.fase d = .corre ∨ ∃ j, g.pend j = some d

/-! ### Who waits -/

lemma aguarda_of_pend (h : Inv s g) (hi : g.pend i = some c) : ∃ d, Aguarda s g c d := by
  cases hd : s.dueno i with
  | some d => exact ⟨d, i, hi, hd⟩
  | none => simp [h.libre i hd] at hi

/-- **A chain of requests ends at a task that runs.** -/
theorem alguien_corre (h : Inv s g) (ha : Despierta s g) (hs : SinCiclos s g)
    (hfin : {i | g.pend i ≠ none}.Finite) (hi : g.pend i = some c) :
    ∃ d, TransGen (Aguarda s g) c d ∧ s.fase d = .corre := by
  have hfin' : {x | ∃ y, Aguarda s g x y}.Finite := by
    refine ((hfin.image g.pend).preimage (Option.some_injective T).injOn).subset ?_
    rintro x ⟨y, j, hj, -⟩
    exact ⟨j, by simp [hj], hj⟩
  obtain ⟨d, hcd, hfin⟩ | ⟨d, -, hd⟩ := termina_o_gira hfin' c
  · rcases ReflTransGen.cases_tail hcd with rfl | ⟨x, hcx, j, hj, hjd⟩
    · obtain ⟨e, he⟩ := aguarda_of_pend h hi
      exact absurd he (hfin e)
    · refine ⟨d, TransGen.tail' hcx ⟨j, hj, hjd⟩, (ha j x d hj hjd).resolve_right ?_⟩
      rintro ⟨l, hl⟩
      obtain ⟨e, he⟩ := aguarda_of_pend h hl
      exact hfin e he
  · exact absurd hd (hs d)

/-! ### Steps -/

variable [DecidableEq T] [DecidableEq S] [Zero T]

/-- A server does not go to sleep. -/
def Vela (s : Estado T S) (t : T) (a : Accion T S) : Prop := a = .dormir → ∀ i, s.dueno i ≠ some t

theorem Despierta.paso (h : Inv s g) (hd : Despierta s g) (hp : Puede s t a) (ho : Ociosa g a)
    (hv : Vela s t a) : Despierta (paso s t a) (g.anotar t a) := by
  intro j c e hj he
  cases a with
  | registrar i =>
    have hji : j ≠ i := by
      rintro rfl
      simp [Memoria.anotar, h.libre j (hp.registrar j rfl).1] at hj
    have he' : s.dueno j = some e := by simpa [Protocol.paso, hji] using he
    have het : e ≠ t := by
      rintro rfl
      exact (hp.registrar i rfl).2 j he'
    simpa [Protocol.paso, Memoria.anotar, het] using hd j c e hj he'
  | pedir i d =>
    obtain ⟨hid, hdw⟩ := hp.pedir i d rfl
    have hpi : g.pend i = none := (h.ocupado i d hid).mpr ⟨hdw, ho i d rfl⟩
    rcases eq_or_ne e d with rfl | hed
    · exact Or.inl (by simp [Protocol.paso])
    rcases eq_or_ne e t with rfl | het
    · exact Or.inr ⟨i, by simp [Memoria.anotar]⟩
    have hji : j ≠ i := by
      rintro rfl
      exact hed (Option.some.inj (he.symm.trans hid))
    refine (hd j c e (by simpa [Memoria.anotar, hji] using hj) he).imp (fun h => ?_) ?_
    · simpa [Protocol.paso, hed, het] using h
    · rintro ⟨l, hl⟩
      have hli : l ≠ i := by
        rintro rfl
        simp [hpi] at hl
      exact ⟨l, by simpa [Memoria.anotar, hli] using hl⟩
  | contestar i =>
    have hit := hp.contestar i rfl
    have hji : j ≠ i := by
      rintro rfl
      simp [Memoria.anotar] at hj
    have het : e ≠ t := by
      rintro rfl
      exact hji (h.uno j i e he hit)
    rcases eq_or_ne e (s.cliente i) with rfl | hec
    · exact Or.inl (by simp [Protocol.paso, het])
    refine (hd j c e (by simpa [Memoria.anotar, hji] using hj) he).imp (fun h => ?_) ?_
    · simpa [Protocol.paso, hec, het] using h
    · rintro ⟨l, hl⟩
      have hli : l ≠ i := by
        rintro rfl
        exact hec (h.cliente l e hl).1.symm
      exact ⟨l, by simpa [Memoria.anotar, hli] using hl⟩
  | dormir =>
    have het : e ≠ t := by
      rintro rfl
      exact hv rfl j he
    simpa [Protocol.paso, Memoria.anotar, het] using hd j c e hj he
  | nada => exact hd j c e hj he

/-- What a step adds to the chains leads to a task that waits for nobody. -/
lemma aguarda_paso (h : Inv s g) (hp : Puede s t a) (ho : Ociosa g a)
    (hc : Aguarda (paso s t a) (g.anotar t a) c d) :
    Aguarda s g c d ∨ ∀ e, ¬ Aguarda (paso s t a) (g.anotar t a) d e := by
  obtain ⟨j, hj, hjd⟩ := hc
  cases a with
  | registrar i =>
    have hji : j ≠ i := by
      rintro rfl
      simp [Memoria.anotar, h.libre j (hp.registrar j rfl).1] at hj
    exact Or.inl ⟨j, hj, by simpa [Protocol.paso, hji] using hjd⟩
  | pedir i e =>
    rcases eq_or_ne j i with rfl | hji
    · right
      obtain ⟨hje, hew⟩ := hp.pedir j e rfl
      obtain rfl := Option.some.inj (hjd.symm.trans hje)
      -- an idle server is nobody's client, and it is not the one that asks, which runs
      rintro x ⟨l, hl, -⟩
      rcases eq_or_ne l j with rfl | hlj
      · obtain rfl : t = d := by simpa [Memoria.anotar] using hl
        simp [hp.corre] at hew
      · exact (h.cliente l d (by simpa [Memoria.anotar, hlj] using hl)).2.2 (ho j d rfl)
    · exact Or.inl ⟨j, by simpa [Memoria.anotar, hji] using hj, hjd⟩
  | contestar i =>
    have hji : j ≠ i := by
      rintro rfl
      simp [Memoria.anotar] at hj
    exact Or.inl ⟨j, by simpa [Memoria.anotar, hji] using hj, hjd⟩
  | dormir => exact Or.inl ⟨j, hj, hjd⟩
  | nada => exact Or.inl ⟨j, hj, hjd⟩

theorem SinCiclos.paso (h : Inv s g) (hs : SinCiclos s g) (hp : Puede s t a) (ho : Ociosa g a) :
    SinCiclos (paso s t a) (g.anotar t a) :=
  fun c hc => hs c (ciclo_viejo (fun _ _ => aguarda_paso h hp ho) hc)

end Silicio.Deadlock
