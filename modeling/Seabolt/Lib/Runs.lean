import Mathlib.Tactic

/-!
# Runs of partial step functions

A step takes an input and a state to an output and a state, or is undefined.
A run is a sequence of steps.  The two rules below lift a fact about one step
to every run: a step that keeps an invariant and meets a specification, and a
step that is simulated by another.
-/

namespace Runs

variable {ι σ τ β γ : Type}

/-- A partial step function with outputs. -/
abbrev Step (ι σ β : Type) := ι → σ → Option (β × σ)

/-- Take the inputs one after the other. -/
def run (step : Step ι σ β) : List ι → σ → Option (List β × σ)
  | [], s => some ([], s)
  | i :: is, s =>
    match step i s with
    | none => none
    | some (b, s) => (run step is s).map fun (bs, s) => (b :: bs, s)

theorem run_cons {step : Step ι σ β} {i : ι} {is : List ι} {s s1 s2 : σ} {b : β} {bs : List β}
    (hstep : step i s = some (b, s1)) (hrun : run step is s1 = some (bs, s2)) :
    run step (i :: is) s = some (b :: bs, s2) := by
  simp only [run, hstep, hrun, Option.map_some]

/-- A run begins with a step. -/
theorem run_uncons {step : Step ι σ β} {i : ι} {is : List ι} {s s2 : σ} {bs : List β}
    (hrun : run step (i :: is) s = some (bs, s2)) :
    ∃ b s1 bs1, step i s = some (b, s1) ∧ run step is s1 = some (bs1, s2) ∧ bs = b :: bs1 := by
  rcases hstep : step i s with _ | ⟨b, s1⟩
  · simp only [run, hstep] at hrun
    cases hrun
  · simp only [run, hstep, Option.map_eq_some_iff] at hrun
    obtain ⟨⟨bs1, s2⟩, hrest, hresult⟩ := hrun
    obtain ⟨rfl, rfl⟩ := Prod.mk.inj hresult
    exact ⟨b, s1, bs1, rfl, hrest, rfl⟩

/-- One run after the other. -/
theorem run_append {step : Step ι σ β} {is js : List ι} :
    ∀ {s s1 s2 : σ} {bs cs : List β}, run step is s = some (bs, s1) →
      run step js s1 = some (cs, s2) → run step (is ++ js) s = some (bs ++ cs, s2) := by
  induction is with
  | nil =>
    intro s s1 s2 bs cs hfirst hsecond
    obtain ⟨rfl, rfl⟩ := Prod.mk.inj (Option.some.inj hfirst)
    exact hsecond
  | cons i is ih =>
    intro s s1 s2 bs cs hfirst hsecond
    obtain ⟨b, s', bs1, hstep, hrest, rfl⟩ := run_uncons hfirst
    exact run_cons hstep (ih hrest hsecond)

theorem run_split {step : Step ι σ β} {is js : List ι} :
    ∀ {s s2 : σ} {bs : List β}, run step (is ++ js) s = some (bs, s2) →
      ∃ s1 bs1 bs2, run step is s = some (bs1, s1) ∧ run step js s1 = some (bs2, s2) ∧
        bs = bs1 ++ bs2 := by
  induction is with
  | nil => exact fun h => ⟨_, [], _, rfl, h, rfl⟩
  | cons i is ih =>
    intro s s2 bs h
    obtain ⟨b, s', bs', hstep, hrest, rfl⟩ := run_uncons h
    obtain ⟨s1, bs1, bs2, hfirst, hsecond, rfl⟩ := ih hrest
    exact ⟨s1, b :: bs1, bs2, run_cons hstep hfirst, hsecond, rfl⟩

/-- Inputs that every state can take make a run. -/
theorem exists_run (step : Step ι σ β) (is : List ι) :
    (∀ i ∈ is, ∀ s, ∃ b s', step i s = some (b, s')) → ∀ s, ∃ bs s', run step is s = some (bs, s') := by
  induction is with
  | nil => exact fun _ s => ⟨[], s, rfl⟩
  | cons i is ih =>
    intro hsteps s
    obtain ⟨b, s1, hstep⟩ := hsteps i List.mem_cons_self s
    obtain ⟨bs, s', hrest⟩ := ih (fun j hj => hsteps j (List.mem_cons_of_mem i hj)) s1
    exact ⟨b :: bs, s', run_cons hstep hrest⟩

/-- Every input of the run is admissible in the state that it finds. -/
def Admissible (step : Step ι σ β) (ok : ι → σ → Prop) : List ι → σ → Prop
  | [], _ => True
  | i :: is, s => ok i s ∧ ∀ b s', step i s = some (b, s') → Admissible step ok is s'

theorem admissible_of_mem {step : Step ι σ β} {ok : ι → σ → Prop} (is : List ι) :
    (∀ i ∈ is, ∀ s, ok i s) → ∀ s, Admissible step ok is s := by
  induction is with
  | nil => exact fun _ _ => trivial
  | cons i is ih =>
    intro hok s
    exact ⟨hok i List.mem_cons_self s,
      fun _ s' _ => ih (fun j hj => hok j (List.mem_cons_of_mem i hj)) s'⟩

theorem admissible_of_forall {step : Step ι σ β} {ok : ι → σ → Prop} (hok : ∀ i s, ok i s)
    (is : List ι) : ∀ s, Admissible step ok is s :=
  admissible_of_mem is fun i _ => hok i

/-- What is admissible on two counts. -/
theorem Admissible.and {step : Step ι σ β} {ok ok' : ι → σ → Prop} (is : List ι) :
    ∀ {s}, Admissible step ok is s → Admissible step ok' is s →
      Admissible step (fun i s => ok i s ∧ ok' i s) is s := by
  induction is with
  | nil => exact fun _ _ => trivial
  | cons i is ih =>
    intro s h h'
    exact ⟨⟨h.1, h'.1⟩, fun b s' hstep => ih (h.2 b s' hstep) (h'.2 b s' hstep)⟩

/-- What is admissible can be computed. -/
instance decidableAdmissible {step : Step ι σ β} {ok : ι → σ → Prop} [∀ i s, Decidable (ok i s)] :
    ∀ is s, Decidable (Admissible step ok is s)
  | [], _ => .isTrue trivial
  | i :: is, s =>
    match hstep : step i s with
    | none => decidable_of_iff (ok i s) (by simp [Admissible, hstep])
    | some (_, s') =>
      haveI : Decidable (Admissible step ok is s') := decidableAdmissible is s'
      decidable_of_iff (ok i s ∧ Admissible step ok is s') (by simp [Admissible, hstep])

/-- Every step of the run is defined and meets the specification. -/
def Meets (step : Step ι σ β) (spec : ι → σ → β → σ → Prop) : List ι → σ → Prop
  | [], _ => True
  | i :: is, s => ∃ b s', step i s = some (b, s') ∧ spec i s b s' ∧ Meets step spec is s'

/-- Steps that meet a specification make a run. -/
theorem run_of_meets {step : Step ι σ β} {spec : ι → σ → β → σ → Prop} {is : List ι} :
    ∀ {s}, Meets step spec is s → ∃ bs s', run step is s = some (bs, s') := by
  induction is with
  | nil => exact fun {s} _ => ⟨[], s, rfl⟩
  | cons i is ih =>
    rintro s ⟨b, s1, hstep, -, hrest⟩
    obtain ⟨bs, s', hrun⟩ := ih hrest
    exact ⟨b :: bs, s', run_cons hstep hrun⟩

/-- What the last step of a run meets. -/
theorem last_of_meets {step : Step ι σ β} {spec : ι → σ → β → σ → Prop} {i : ι} (is : List ι) :
    ∀ {s bs s'}, Meets step spec (is ++ [i]) s → run step (is ++ [i]) s = some (bs, s') →
      ∃ mid b, bs.getLast? = some b ∧ spec i mid b s' := by
  induction is with
  | nil =>
    rintro s bs s' ⟨b, s1, hb, hspec, -⟩ hrun
    obtain ⟨b', s1', bs1, hb', hrest, rfl⟩ := run_uncons hrun
    obtain ⟨rfl, rfl⟩ := Prod.mk.inj (Option.some.inj (hb.symm.trans hb'))
    obtain ⟨rfl, rfl⟩ := Prod.mk.inj (Option.some.inj hrest)
    exact ⟨s, b, rfl, hspec⟩
  | cons j is ih =>
    rintro s bs s' ⟨b, s1, hb, -, hmeets⟩ hrun
    obtain ⟨b', s1', bs1, hb', hrest, rfl⟩ := run_uncons hrun
    obtain ⟨rfl, rfl⟩ := Prod.mk.inj (Option.some.inj (hb.symm.trans hb'))
    obtain ⟨mid, last, hlast, hspec⟩ := ih hmeets hrest
    refine ⟨mid, last, ?_, hspec⟩
    rw [List.getLast?_cons, hlast]
    rfl

/-- A step that keeps an invariant and, under it, meets a specification does
so in every run. -/
theorem meets_of_invariant {step : Step ι σ β} {ok : ι → σ → Prop} {inv : σ → Prop}
    {spec : ι → σ → β → σ → Prop}
    (hstep : ∀ i s, inv s → ok i s → ∃ b s', step i s = some (b, s') ∧ spec i s b s' ∧ inv s')
    (is : List ι) : ∀ s, inv s → Admissible step ok is s → Meets step spec is s := by
  induction is with
  | nil => exact fun _ _ _ => trivial
  | cons i is ih =>
    intro s hs hok
    obtain ⟨b, s', hb, hspec, hs'⟩ := hstep i s hs hok.1
    exact ⟨b, s', hb, hspec, ih s' hs' (hok.2 b s' hb)⟩

/-- The same for a run that is known to be defined. -/
theorem meets_of_run {step : Step ι σ β} {ok : ι → σ → Prop} {inv : σ → Prop}
    {spec : ι → σ → β → σ → Prop}
    (hstep : ∀ i s b s', inv s → ok i s → step i s = some (b, s') → spec i s b s' ∧ inv s')
    (is : List ι) : ∀ {s bs s'}, inv s → Admissible step ok is s →
      run step is s = some (bs, s') → Meets step spec is s := by
  induction is with
  | nil => exact fun _ _ _ => trivial
  | cons i is ih =>
    intro s bs s' hs hok hrun
    obtain ⟨b, s1, bs1, hb, hrest, -⟩ := run_uncons hrun
    obtain ⟨hspec, hs1⟩ := hstep i s b s1 hs hok.1 hb
    exact ⟨b, s1, hb, hspec, ih hs1 (hok.2 b s1 hb) hrest⟩

/-- What is admissible on one count, and meets its specification, is so on another count. -/
theorem admissible_of_meets {step : Step ι σ β} {ok ok' : ι → σ → Prop} {inv : σ → Prop}
    {spec : ι → σ → β → σ → Prop}
    (hstep : ∀ i s b s', inv s → ok i s → step i s = some (b, s') → spec i s b s' →
      ok' i s ∧ inv s')
    (is : List ι) : ∀ {s}, inv s → Admissible step ok is s → Meets step spec is s →
      Admissible step ok' is s := by
  induction is with
  | nil => exact fun _ _ _ => trivial
  | cons i is ih =>
    rintro s hs hok ⟨b, s', hb, hspec, hmeets⟩
    obtain ⟨hok', hs'⟩ := hstep i s b s' hs hok.1 hb hspec
    refine ⟨hok', fun c t hc => ?_⟩
    obtain ⟨rfl, rfl⟩ := Prod.mk.inj (Option.some.inj (hb.symm.trans hc))
    exact ih hs' (hok.2 b s' hb) hmeets

/-- Where a step meets its specification exactly if it is admissible, and then
keeps an invariant, so it is for runs of proper inputs. -/
theorem meets_iff_admissible_of_mem {step : Step ι σ β} {ok : ι → σ → Prop} (inv : σ → Prop)
    (proper : ι → Prop) {spec : ι → σ → β → σ → Prop}
    (hstep : ∀ i s b s', inv s → proper i → step i s = some (b, s') →
      (spec i s b s' ↔ ok i s) ∧ (spec i s b s' → inv s'))
    (is : List ι) : ∀ {s bs s'}, (∀ i ∈ is, proper i) → inv s → run step is s = some (bs, s') →
      (Meets step spec is s ↔ Admissible step ok is s) := by
  induction is with
  | nil => exact fun _ _ _ => Iff.rfl
  | cons i is ih =>
    intro s bs s' hproper hs hrun
    obtain ⟨hi, his⟩ := List.forall_mem_cons.mp hproper
    obtain ⟨b, s1, bs1, hb, hrest, -⟩ := run_uncons hrun
    obtain ⟨hiff, hkeeps⟩ := hstep i s b s1 hs hi hb
    constructor
    · rintro ⟨b', s1', hb', hspec, hmeets⟩
      obtain ⟨rfl, rfl⟩ := Prod.mk.inj (Option.some.inj (hb.symm.trans hb'))
      refine ⟨hiff.mp hspec, fun b' s1' hb' => ?_⟩
      obtain ⟨rfl, rfl⟩ := Prod.mk.inj (Option.some.inj (hb.symm.trans hb'))
      exact (ih his (hkeeps hspec) hrest).mp hmeets
    · rintro ⟨hok, hadmissible⟩
      have hspec := hiff.mpr hok
      exact ⟨b, s1, hb, hspec, (ih his (hkeeps hspec) hrest).mpr (hadmissible b s1 hb)⟩

/-- The same for runs of any inputs. -/
theorem meets_iff_admissible {step : Step ι σ β} {ok : ι → σ → Prop} {inv : σ → Prop}
    {spec : ι → σ → β → σ → Prop}
    (hstep : ∀ i s b s', inv s → step i s = some (b, s') →
      (spec i s b s' ↔ ok i s) ∧ (spec i s b s' → inv s'))
    (is : List ι) {s : σ} {bs : List β} {s' : σ} (hs : inv s) (hrun : run step is s = some (bs, s')) :
    Meets step spec is s ↔ Admissible step ok is s :=
  meets_iff_admissible_of_mem inv (fun _ => True) (fun i s b s' hs _ hb => hstep i s b s' hs hb) is
    (fun _ _ => trivial) hs hrun

/-- Where every proper step is defined, and meets its specification exactly if its
input is a good one, so it is for runs. -/
theorem meets_iff_forall {step : Step ι σ β} (inv : σ → Prop) (proper : ι → Prop)
    {good : ι → Prop} {spec : ι → σ → β → σ → Prop}
    (hstep : ∀ i s, inv s → proper i → ∃ b s', step i s = some (b, s') ∧
      (spec i s b s' ↔ good i) ∧ (spec i s b s' → inv s'))
    (is : List ι) : ∀ {s}, (∀ i ∈ is, proper i) → inv s →
      (Meets step spec is s ↔ ∀ i ∈ is, good i) := by
  induction is with
  | nil => exact fun _ _ => iff_of_true trivial (by simp)
  | cons i is ih =>
    intro s hproper hs
    obtain ⟨hi, his⟩ := List.forall_mem_cons.mp hproper
    obtain ⟨b, s1, hb, hiff, hkeeps⟩ := hstep i s hs hi
    rw [List.forall_mem_cons]
    constructor
    · rintro ⟨b', s1', hb', hspec, hmeets⟩
      obtain ⟨rfl, rfl⟩ := Prod.mk.inj (Option.some.inj (hb.symm.trans hb'))
      exact ⟨hiff.mp hspec, (ih his (hkeeps hspec)).mp hmeets⟩
    · rintro ⟨hgood, hrest⟩
      have hspec := hiff.mpr hgood
      exact ⟨b, s1, hb, hspec, (ih his (hkeeps hspec)).mpr hrest⟩

/-- A relation that is reflexive, transitive and implied by the specification of
a step holds between the ends of a run. -/
theorem related_of_meets {step : Step ι σ β} {spec : ι → σ → β → σ → Prop} {R : σ → σ → Prop}
    (hrefl : ∀ s, R s s) (htrans : ∀ s1 s2 s3, R s1 s2 → R s2 s3 → R s1 s3)
    (hstep : ∀ i s b s', spec i s b s' → R s s') (is : List ι) :
    ∀ {s bs s'}, Meets step spec is s → run step is s = some (bs, s') → R s s' := by
  induction is with
  | nil =>
    intro s bs s' _ hrun
    obtain ⟨-, rfl⟩ := Prod.mk.inj (Option.some.inj hrun)
    exact hrefl s
  | cons i is ih =>
    intro s bs s' hmeets hrun
    obtain ⟨b, s1, hb, hspec, hrest⟩ := hmeets
    simp only [run, hb, Option.map_eq_some_iff] at hrun
    obtain ⟨⟨bs1, s2⟩, hrun, hresult⟩ := hrun
    obtain ⟨-, rfl⟩ := Prod.mk.inj hresult
    exact htrans s s1 s2 (hstep i s b s1 hspec) (ih hrest hrun)

/-- What meets the specification keeps the invariant that it implies. -/
theorem keeps_of_meets {step : Step ι σ β} (inv : σ → Prop) {spec : ι → σ → β → σ → Prop}
    (hstep : ∀ i s b s', inv s → spec i s b s' → inv s') (is : List ι) {s s' : σ} {bs : List β}
    (hs : inv s) (hmeets : Meets step spec is s) (hrun : run step is s = some (bs, s')) : inv s' :=
  related_of_meets (R := fun s s' => inv s → inv s') (fun _ h => h)
    (fun _ _ _ h h' hs => h' (h hs)) (fun i s b s' hspec hs => hstep i s b s' hs hspec) is hmeets
    hrun hs

/-- The same for a relation that every step implies. -/
theorem related_of_run {step : Step ι σ β} {R : σ → σ → Prop} (hrefl : ∀ s, R s s)
    (htrans : ∀ s1 s2 s3, R s1 s2 → R s2 s3 → R s1 s3)
    (hstep : ∀ i s b s', step i s = some (b, s') → R s s') (is : List ι) :
    ∀ {s bs s'}, run step is s = some (bs, s') → R s s' := by
  induction is with
  | nil =>
    intro s bs s' hrun
    obtain ⟨-, rfl⟩ := Prod.mk.inj (Option.some.inj hrun)
    exact hrefl s
  | cons i is ih =>
    intro s bs s' hrun
    obtain ⟨b, s1, bs1, hb, hrest, -⟩ := run_uncons hrun
    exact htrans s s1 s' (hstep i s b s1 hb) (ih hrest)

/-- What every step keeps, a run keeps. -/
theorem keeps_of_run {step : Step ι σ β} {inv : σ → Prop}
    (hstep : ∀ i s b s', inv s → step i s = some (b, s') → inv s') (is : List ι) {s s' : σ}
    {bs : List β} (hs : inv s) (hrun : run step is s = some (bs, s')) : inv s' :=
  related_of_run (R := fun s s' => inv s → inv s') (fun _ h => h) (fun _ _ _ h h' hs => h' (h hs))
    (fun i s b s' h hs => hstep i s b s' hs h) is hrun hs

/-- What every admissible step keeps, an admissible run keeps. -/
theorem keeps_of_admissible {step : Step ι σ β} {ok : ι → σ → Prop} {inv : σ → Prop}
    (hstep : ∀ i s b s', inv s → ok i s → step i s = some (b, s') → inv s') (is : List ι) {s s' : σ}
    {bs : List β} (hs : inv s) (hok : Admissible step ok is s)
    (hrun : run step is s = some (bs, s')) : inv s' := by
  have hmeets : Meets step (fun _ _ _ s' => inv s') is s :=
    meets_of_run (fun i s b s' hs hi hb => ⟨hstep i s b s' hs hi hb, hstep i s b s' hs hi hb⟩) is hs
      hok hrun
  exact keeps_of_meets inv (fun _ _ _ _ _ h => h) is hs hmeets hrun

/-- A run that repeats one input and stops with the last output: a run that has
not come to such an output yet can go on. -/
theorem step_of_stopped {step : Step ι σ β} {i : ι} {stops : β → Prop} (n : Nat) :
    ∀ {N : Nat} {s s' mid : σ} {bs cs : List β} {b : β},
      run step (List.replicate (N + 1) i) s = some (bs ++ [b], s') → stops b →
      run step (List.replicate n i) s = some (cs, mid) → (∀ c ∈ cs, ¬stops c) →
      ∃ c s1, step i mid = some (c, s1) := by
  induction n with
  | zero =>
    intro N s s' mid bs cs b hstopped _ hrun _
    obtain ⟨c, s1, -, hstep, -, -⟩ := run_uncons hstopped
    obtain ⟨-, rfl⟩ := Prod.mk.inj (Option.some.inj hrun)
    exact ⟨c, s1, hstep⟩
  | succ n ih =>
    intro N s s' mid bs cs b hstopped hb hrun hcs
    obtain ⟨c, s1, bs1, hstep, hrest, hbs⟩ := run_uncons hstopped
    obtain ⟨c', s1', cs1, hstep', hrest', rfl⟩ := run_uncons hrun
    rw [hstep] at hstep'
    obtain ⟨rfl, rfl⟩ := Prod.mk.inj (Option.some.inj hstep')
    have hgo := hcs c List.mem_cons_self
    rcases bs with _ | ⟨b0, bs⟩
    · obtain ⟨rfl, -⟩ := List.cons.inj hbs
      exact absurd hb hgo
    · obtain ⟨rfl, rfl⟩ := List.cons.inj hbs
      cases N with
      | zero =>
        obtain ⟨hnil, -⟩ := Prod.mk.inj (Option.some.inj hrest)
        simp at hnil
      | succ N => exact ih hrest hb hrest' fun c hc => hcs c (List.mem_cons_of_mem _ hc)

/-- Two runs that repeat one input and end with the first output that stops them
are the same. -/
theorem stopped_unique {step : Step ι σ β} {i : ι} (stops : β → Prop) {b c : β} {s' t' : σ}
    (hb : stops b) (hc : stops c) (bs : List β) :
    ∀ {cs : List β} {s : σ},
      run step (List.replicate (bs.length + 1) i) s = some (bs ++ [b], s') →
      (∀ x ∈ bs, ¬stops x) →
      run step (List.replicate (cs.length + 1) i) s = some (cs ++ [c], t') →
      (∀ x ∈ cs, ¬stops x) → bs = cs ∧ b = c ∧ s' = t' := by
  induction bs with
  | nil =>
    intro cs s hrun _ hrun' hcs
    obtain ⟨x, s1, xs, hstep, hrest, hxs⟩ := run_uncons hrun
    obtain ⟨x', s1', xs', hstep', hrest', hxs'⟩ := run_uncons hrun'
    obtain ⟨rfl, rfl⟩ := Prod.mk.inj (Option.some.inj (hstep.symm.trans hstep'))
    obtain ⟨rfl, rfl⟩ := List.cons.inj hxs
    cases cs with
    | nil =>
      obtain ⟨rfl, rfl⟩ := List.cons.inj hxs'
      obtain ⟨-, rfl⟩ := Prod.mk.inj (Option.some.inj (hrest.symm.trans hrest'))
      exact ⟨rfl, rfl, rfl⟩
    | cons y cs =>
      obtain ⟨rfl, -⟩ := List.cons.inj hxs'
      exact absurd hb (hcs _ List.mem_cons_self)
  | cons x bs ih =>
    intro cs s hrun hbs hrun' hcs
    obtain ⟨x, s1, xs, hstep, hrest, hxs⟩ := run_uncons hrun
    obtain ⟨x', s1', xs', hstep', hrest', hxs'⟩ := run_uncons hrun'
    obtain ⟨rfl, rfl⟩ := Prod.mk.inj (Option.some.inj (hstep.symm.trans hstep'))
    obtain ⟨rfl, rfl⟩ := List.cons.inj hxs
    cases cs with
    | nil =>
      obtain ⟨rfl, -⟩ := List.cons.inj hxs'
      exact absurd hc (hbs _ List.mem_cons_self)
    | cons y cs =>
      obtain ⟨rfl, rfl⟩ := List.cons.inj hxs'
      obtain ⟨rfl, hlast, hend⟩ := ih hrest (fun z hz => hbs z (List.mem_cons_of_mem _ hz))
        hrest' fun z hz => hcs z (List.mem_cons_of_mem _ hz)
      exact ⟨rfl, hlast, hend⟩

/-- A step function simulates another when related states stay related and
the outputs agree. -/
def Simulates (f : Step ι σ β) (g : Step ι τ β) (R : σ → τ → Prop) : Prop :=
  ∀ i s t b s', R s t → f i s = some (b, s') → ∃ t', g i t = some (b, t') ∧ R s' t'

/-- A simulation of steps is one of runs. -/
theorem Simulates.run {f : Step ι σ β} {g : Step ι τ β} {R : σ → τ → Prop}
    (h : Simulates f g R) (is : List ι) :
    ∀ {s t bs s'}, R s t → run f is s = some (bs, s') →
      ∃ t', run g is t = some (bs, t') ∧ R s' t' := by
  induction is with
  | nil =>
    intro s t bs s' hR hrun
    simp only [Runs.run, Option.some.injEq, Prod.mk.injEq] at hrun
    obtain ⟨rfl, rfl⟩ := hrun
    exact ⟨t, rfl, hR⟩
  | cons i is ih =>
    intro s t bs s' hR hrun
    obtain ⟨b, s1, bs1, hf, hrest, rfl⟩ := run_uncons hrun
    obtain ⟨t1, hg, hR1⟩ := h i s t b s1 hR hf
    obtain ⟨t2, hrest', hR2⟩ := ih hR1 hrest
    exact ⟨t2, run_cons hg hrest', hR2⟩

/-- A step function tracks another when related states stay related, and the outputs
agree exactly where the step is admissible. -/
def Tracks (f : Step ι σ β) (g : Step ι τ β) (R : σ → τ → Prop) (ok : ι → σ → Prop) : Prop :=
  ∀ i s t b s', R s t → f i s = some (b, s') →
    ∃ c t', g i t = some (c, t') ∧ R s' t' ∧ (c = b ↔ ok i s)

/-- So it does in runs: they end in related states, and the outputs agree exactly where
all steps are admissible. -/
theorem Tracks.run {f : Step ι σ β} {g : Step ι τ β} {R : σ → τ → Prop} {ok : ι → σ → Prop}
    (h : Tracks f g R ok) (is : List ι) :
    ∀ {s t bs s'}, R s t → Runs.run f is s = some (bs, s') →
      ∃ cs t', Runs.run g is t = some (cs, t') ∧ R s' t' ∧ (cs = bs ↔ Admissible f ok is s) := by
  induction is with
  | nil =>
    intro s t bs s' hR hrun
    obtain ⟨rfl, rfl⟩ := Prod.mk.inj (Option.some.inj hrun)
    exact ⟨[], t, rfl, hR, iff_of_true rfl trivial⟩
  | cons i is ih =>
    intro s t bs s' hR hrun
    obtain ⟨b, s1, bs1, hf, hrest, rfl⟩ := run_uncons hrun
    obtain ⟨c, t1, hg, hR1, hiff⟩ := h i s t b s1 hR hf
    obtain ⟨cs, t2, hrest', hR2, hiffs⟩ := ih hR1 hrest
    refine ⟨c :: cs, t2, run_cons hg hrest', hR2, ?_⟩
    rw [List.cons.injEq, hiff, hiffs]
    constructor
    · rintro ⟨hok, hadmissible⟩
      refine ⟨hok, fun b' s1' hf' => ?_⟩
      obtain ⟨rfl, rfl⟩ := Prod.mk.inj (Option.some.inj (hf.symm.trans hf'))
      exact hadmissible
    · exact fun hadmissible => ⟨hadmissible.1, hadmissible.2 b s1 hf⟩

/-- The same from behind: a step that ends in a state that is related to another one is
simulated by some step that ends in that one. -/
def SimulatesBackward (f : Step ι σ β) (g : Step ι τ β) (R : σ → τ → Prop) (ok : ι → Prop) : Prop :=
  ∀ i s b s' t', ok i → f i s = some (b, s') → R s' t' → ∃ t, R s t ∧ g i t = some (b, t')

/-- Where the simulating states hold a choice that the steps use up, the choice is made
from the end of the run to its front. -/
theorem SimulatesBackward.run {f : Step ι σ β} {g : Step ι τ β} {R : σ → τ → Prop} {ok : ι → Prop}
    (h : SimulatesBackward f g R ok) (is : List ι) :
    ∀ {s bs s' t'}, (∀ i ∈ is, ok i) → Runs.run f is s = some (bs, s') → R s' t' →
      ∃ t, R s t ∧ Runs.run g is t = some (bs, t') := by
  induction is with
  | nil =>
    intro s bs s' t' _ hrun hR
    obtain ⟨rfl, rfl⟩ := Prod.mk.inj (Option.some.inj hrun)
    exact ⟨t', hR, rfl⟩
  | cons i is ih =>
    intro s bs s' t' hok hrun hR
    obtain ⟨hi, his⟩ := List.forall_mem_cons.mp hok
    obtain ⟨b, s1, bs1, hf, hrest, rfl⟩ := run_uncons hrun
    obtain ⟨t1, hR1, hrest'⟩ := ih his hrest hR
    obtain ⟨t, hR0, hg⟩ := h i s b s1 t1 hi hf hR1
    exact ⟨t, hR0, run_cons hg hrest'⟩

/-- Two outcomes with the same output and related states, or none on either
side. -/
def Alike (R : σ → τ → Prop) (outcome : Option (β × σ)) (outcome' : Option (β × τ)) : Prop :=
  Option.Rel (fun r r' => r.1 = r'.1 ∧ R r.2 r'.2) outcome outcome'

/-- Step functions that are alike on what is admissible have runs that are
alike. -/
theorem alike_of_admissible {f : Step ι σ β} {g : Step ι τ β} {ok : ι → σ → Prop}
    {R : σ → τ → Prop} (hstep : ∀ i s t, R s t → ok i s → Alike R (f i s) (g i t)) (is : List ι) :
    ∀ {s t}, R s t → Admissible f ok is s → Alike R (Runs.run f is s) (Runs.run g is t) := by
  induction is with
  | nil => exact fun hR _ => .some ⟨rfl, hR⟩
  | cons i is ih =>
    intro s t hR hok
    have hfirst := hstep i s t hR hok.1
    rw [Runs.run, Runs.run]
    rcases hf : f i s with _ | ⟨b, s1⟩
    · rw [hf] at hfirst
      rcases hg : g i t with _ | r
      · exact .none
      · rw [hg] at hfirst
        cases hfirst
    · rw [hf] at hfirst
      rcases hg : g i t with _ | ⟨c, t1⟩
      · rw [hg] at hfirst
        cases hfirst
      · rw [hg] at hfirst
        obtain ⟨rfl, hR1⟩ : b = c ∧ R s1 t1 := by
          cases hfirst
          assumption
        have hrest := ih hR1 (hok.2 b s1 hf)
        dsimp only
        generalize Runs.run f is s1 = run1 at hrest ⊢
        generalize Runs.run g is t1 = run2 at hrest ⊢
        cases hrest with
        | none => exact .none
        | some hresult => exact .some ⟨congrArg (b :: ·) hresult.1, hresult.2⟩

end Runs
