import Mathlib.Tactic

/-!
# Status codes

The codes of `error.h` that the modelled functions return, and the two ways
in which a function of the library ends.  A function that returns a status
is modelled by `Outcome`: `none` says that the process does not survive the
call (a failed `assert`, a copy of a negative size), `some (status, state)`
that the call returns.
-/

namespace Seabolt

abbrev BOLT_SUCCESS : Int := 0
abbrev BOLT_UNSUPPORTED : Int := 2
abbrev BOLT_INTERRUPTED : Int := 3
abbrev BOLT_CONNECTION_RESET : Int := 4
abbrev BOLT_NO_VALID_ADDRESS : Int := 5
abbrev BOLT_TIMED_OUT : Int := 6
abbrev BOLT_PERMISSION_DENIED : Int := 7
abbrev BOLT_CONNECTION_REFUSED : Int := 11
abbrev BOLT_NETWORK_UNREACHABLE : Int := 12
abbrev BOLT_TLS_ERROR : Int := 13
abbrev BOLT_END_OF_TRANSMISSION : Int := 15
abbrev BOLT_SERVER_FAILURE : Int := 16
abbrev BOLT_PROTOCOL_VIOLATION : Int := 0x500
abbrev BOLT_PROTOCOL_UNSUPPORTED_TYPE : Int := 0x501
abbrev BOLT_PROTOCOL_UNEXPECTED_MARKER : Int := 0x503
abbrev BOLT_PROTOCOL_UNSUPPORTED : Int := 0x504
abbrev BOLT_POOL_FULL : Int := 0x600
abbrev BOLT_POOL_ACQUISITION_TIMED_OUT : Int := 0x601
abbrev BOLT_ADDRESS_NOT_RESOLVED : Int := 0x700
abbrev BOLT_CONNECTION_HAS_MORE_INFO : Int := 0xFFE
abbrev BOLT_STATUS_SET : Int := 0xFFF

/-- The result of a call that returns a status and changes a state. -/
abbrev Outcome (σ : Type) := Option (Int × σ)

namespace Outcome

variable {σ τ : Type}

/-- The `TRY` macro: go on with the new state on `BOLT_SUCCESS`, return the
status otherwise. -/
def TRY (r : Outcome σ) (next : σ → Outcome σ) : Outcome σ :=
  match r with
  | none => none
  | some (status, state) => if status = BOLT_SUCCESS then next state else some (status, state)

@[simp] theorem TRY_success (state : σ) (next : σ → Outcome σ) :
    TRY (some (BOLT_SUCCESS, state)) next = next state := by
  simp [TRY]

theorem TRY_error {status : Int} (h : status ≠ BOLT_SUCCESS) (state : σ)
    (next : σ → Outcome σ) : TRY (some (status, state)) next = some (status, state) := by
  simp [TRY, h]

@[simp] theorem TRY_none (next : σ → Outcome σ) : TRY none next = none := rfl

theorem TRY_isSome {first : Outcome σ} {next : σ → Outcome σ} (hfirst : first.isSome)
    (hnext : ∀ state, first = some (BOLT_SUCCESS, state) → (next state).isSome) :
    (TRY first next).isSome := by
  obtain ⟨⟨status, state⟩, rfl⟩ := Option.isSome_iff_exists.mp hfirst
  by_cases hsuccess : status = BOLT_SUCCESS
  · subst hsuccess
    rw [TRY_success]
    exact hnext state rfl
  · rw [TRY_error hsuccess]
    rfl

/-- A `TRY` that ends in `BOLT_SUCCESS` has passed its first call. -/
theorem TRY_eq_success {r : Outcome σ} {next : σ → Outcome σ} {state : σ}
    (h : TRY r next = some (BOLT_SUCCESS, state)) :
    ∃ middle, r = some (BOLT_SUCCESS, middle) ∧ next middle = some (BOLT_SUCCESS, state) := by
  rcases r with _ | ⟨status, middle⟩
  · simp at h
  · by_cases hs : status = BOLT_SUCCESS
    · subst hs
      exact ⟨middle, rfl, by simpa using h⟩
    · rw [TRY_error hs] at h
      exact absurd (congrArg Prod.fst (Option.some.inj h)) hs

/-- A `TRY` that returns has either gone on or returned the status of its first
call. -/
theorem TRY_cases {r : Outcome σ} {next : σ → Outcome σ} {status : Int} {state : σ}
    (h : TRY r next = some (status, state)) :
    (status ≠ BOLT_SUCCESS ∧ r = some (status, state)) ∨
    ∃ middle, r = some (BOLT_SUCCESS, middle) ∧ next middle = some (status, state) := by
  rcases r with _ | ⟨first, middle⟩
  · simp at h
  · by_cases hs : first = BOLT_SUCCESS
    · subst hs
      exact .inr ⟨middle, rfl, by simpa using h⟩
    · rw [TRY_error hs] at h
      obtain ⟨rfl, rfl⟩ := Prod.mk.inj (Option.some.inj h)
      exact .inl ⟨hs, rfl⟩

end Outcome

end Seabolt
