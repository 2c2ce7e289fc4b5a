import Seabolt.Lib.Loops
import Seabolt.Communication

/-!
# Sending over OpenSSL

`BoltCommunication_send` with the functions of `communication-secure-openssl.c`.
OpenSSL is not a part of the repository, so what its functions answer are inputs,
one for each call of `secure_openssl_send`.

The loop ends only if every call that reports success has sent something.  A result
of 0 from `SSL_write` reports a failure, but `secure_openssl_send` passes it on as a
success (`sending_iff`).
-/

namespace Seabolt

/-! ## The library -/

abbrev SSL_ERROR_NONE : Int := 0
abbrev SSL_ERROR_WANT_READ : Int := 2
abbrev SSL_ERROR_WANT_WRITE : Int := 3
abbrev SSL_ERROR_SYSCALL : Int := 5
abbrev SSL_ERROR_ZERO_RETURN : Int := 6

/-- What is answered during a call of `secure_openssl_send`: the result of `SSL_write`
for a number of bytes, which is no greater, `SSL_get_error`, and the last error of the
socket before and behind it. -/
structure SslAnswer where
  SSL_write : Nat → Int
  SSL_write_le : ∀ length, SSL_write length ≤ length
  SSL_get_error : Int
  last_error_saved : Int
  last_error : Int

/-- `struct OpenSSLContext` and the status of the communication.  `results` are the
results of `SSL_write`, and `written` are the bytes that it has taken. -/
structure OpenSSLContext where
  transform_error : Int → Int
  error : Int
  results : List Int
  written : List UInt8

namespace OpenSSLContext

/-- `secure_openssl_last_error`. -/
def lastError (answer : SslAnswer) (ctx : OpenSSLContext) : Int :=
  if answer.SSL_get_error = SSL_ERROR_NONE then BOLT_SUCCESS
  else if answer.SSL_get_error = SSL_ERROR_SYSCALL ∨ answer.SSL_get_error = SSL_ERROR_WANT_READ ∨
      answer.SSL_get_error = SSL_ERROR_WANT_WRITE then
    let last_error := if answer.last_error = 0 then answer.last_error_saved else answer.last_error
    if last_error = 0 then BOLT_END_OF_TRANSMISSION else ctx.transform_error last_error
  else if answer.SSL_get_error = SSL_ERROR_ZERO_RETURN then BOLT_END_OF_TRANSMISSION
  else BOLT_TLS_ERROR

/-- `secure_openssl_send`: the status, and the number of bytes that were sent. -/
def send1 (answer : SslAnswer) (buffer : List UInt8) (ctx : OpenSSLContext) :
    Int × Nat × OpenSSLContext :=
  let bytes := answer.SSL_write buffer.length
  let ctx := { ctx with
    results := ctx.results ++ [bytes]
    written := ctx.written ++ buffer.take bytes.toNat }
  if bytes < 0 then (BOLT_STATUS_SET, 0, { ctx with error := ctx.lastError answer })
  else (BOLT_SUCCESS, bytes.toNat, ctx)

end OpenSSLContext

/-! ## The loop -/

/-- The variables of the loop of `BoltCommunication_send`. -/
structure SendState where
  ctx : OpenSSLContext
  status : Int
  remaining : Nat
  total_sent : Nat

/-- The test of the loop.  A status other than success stands for its `break`. -/
def sendTest (size : Nat) (_ : SslAnswer) (s : SendState) : Bool :=
  s.status = BOLT_SUCCESS ∧ s.total_sent < size

/-- The body of the loop. -/
def sendBody (buffer : List UInt8) (answer : SslAnswer) (s : SendState) : Option SendState :=
  let (status, sent, ctx) :=
    s.ctx.send1 answer ((buffer.drop s.total_sent).take s.remaining)
  if status = BOLT_SUCCESS then
    some ⟨ctx, status, s.remaining - sent, s.total_sent + sent⟩
  else if status ≠ BOLT_STATUS_SET then
    some { s with ctx := { ctx with error := status }, status := BOLT_STATUS_SET }
  else some { s with ctx := ctx, status := status }

namespace OpenSSLContext

/-- `BoltCommunication_send` over OpenSSL.  `plain_socket_ignore_sigpipe` may fail with
an error, and `plain_socket_restore_sigpipe` does not.  The result is `none` if the
loop does not end with so many calls of `secure_openssl_send`. -/
def send (fuel : Nat) (ignored : Option ErrorCode) (answers : Nat → SslAnswer)
    (buffer : List UInt8) (ctx : OpenSSLContext) : Option (Int × OpenSSLContext) :=
  if buffer.length = 0 then some (BOLT_SUCCESS, ctx)
  else
    match ignored with
    | some error => some (BOLT_STATUS_SET, { ctx with error := error })
    | none =>
      match Loops.run (sendTest buffer.length) (sendBody buffer) fuel answers
          ⟨ctx, BOLT_SUCCESS, buffer.length, 0⟩ with
      | some (some s) => some (s.status, s.ctx)
      | _ => none

end OpenSSLContext

/-- Of the results that `SSL_write` has given, only the last one is not positive, and
the status reports it. -/
def EndsWithError (results : List Int) (status : Int) : Prop :=
  ∀ front result back, results = front ++ result :: back → result ≤ 0 →
    back = [] ∧ status ≠ BOLT_SUCCESS

/-- A call returns.  It has made no more calls of `SSL_write` than there are bytes, it
succeeds if and only if all bytes are written, and it ends with an error where a result
is not positive. -/
def Terminates (ignored : Option ErrorCode) (answers : Nat → SslAnswer) (buffer : List UInt8)
    (ctx : OpenSSLContext) : Prop :=
  ∃ fuel status ctx' results, ctx.send fuel ignored answers buffer = some (status, ctx') ∧
    ctx'.results = ctx.results ++ results ∧ results.length ≤ buffer.length ∧
    (status = BOLT_SUCCESS ↔ ctx'.written = ctx.written ++ buffer) ∧ EndsWithError results status

/-! ## The answers -/

/-- How many of `n` bytes are not sent before the `k`-th call, if all calls before it
have been successful. -/
def unsent (answers : Nat → SslAnswer) (n : Nat) : Nat → Nat
  | 0 => n
  | k + 1 => unsent answers n k - ((answers k).SSL_write (unsent answers n k)).toNat

/-- What the `k`-th call answers then. -/
def sslResult (answers : Nat → SslAnswer) (n k : Nat) : Int :=
  (answers k).SSL_write (unsent answers n k)

/-- As long as bytes are unsent, and all results have been positive, the next one
is not 0. -/
def NeverZero (answers : Nat → SslAnswer) (n : Nat) : Prop :=
  ∀ k, 0 < unsent answers n k → (∀ i < k, 0 < sslResult answers n i) → sslResult answers n k ≠ 0

theorem unsent_rest (answers : Nat → SslAnswer) (n k : Nat) :
    unsent (Loops.rest answers) (n - (sslResult answers n 0).toNat) k =
      unsent answers n (k + 1) := by
  induction k with
  | zero => rfl
  | succ k ih =>
    rw [unsent, ih]
    rfl

theorem sslResult_rest (answers : Nat → SslAnswer) (n k : Nat) :
    sslResult (Loops.rest answers) (n - (sslResult answers n 0).toNat) k =
      sslResult answers n (k + 1) := by
  rw [sslResult, unsent_rest]
  rfl

/-- The first call, and those behind it. -/
theorem neverZero_iff (answers : Nat → SslAnswer) {n : Nat} (hn : 0 < n) :
    NeverZero answers n ↔ sslResult answers n 0 ≠ 0 ∧
      (0 < sslResult answers n 0 →
        NeverZero (Loops.rest answers) (n - (sslResult answers n 0).toNat)) := by
  constructor
  · intro h
    refine ⟨h 0 hn fun i hi => absurd hi (Nat.not_lt_zero i), fun hfirst k hunsent hbefore => ?_⟩
    rw [unsent_rest] at hunsent
    rw [sslResult_rest]
    refine h (k + 1) hunsent fun i hi => ?_
    cases i with
    | zero => exact hfirst
    | succ i =>
      rw [← sslResult_rest]
      exact hbefore i (Nat.lt_of_succ_lt_succ hi)
  · rintro ⟨hfirst, hrest⟩ k hunsent hbefore
    cases k with
    | zero => exact hfirst
    | succ k =>
      rw [← sslResult_rest]
      refine hrest (hbefore 0 (Nat.succ_pos k)) k ?_ fun i hi => ?_
      · rwa [unsent_rest]
      · rw [sslResult_rest]
        exact hbefore (i + 1) (Nat.succ_lt_succ hi)

/-! ## One round -/

/-- A state that has sent a part of the buffer, and goes on. -/
structure Sending (buffer : List UInt8) (s : SendState) : Prop where
  status : s.status = BOLT_SUCCESS
  remaining : s.total_sent + s.remaining = buffer.length

variable {buffer : List UInt8} {s : SendState} {answers : Nat → SslAnswer}

theorem Sending.test (h : Sending buffer s) (answer : SslAnswer) :
    sendTest buffer.length answer s = decide (0 < s.remaining) := by
  have hremaining := h.remaining
  rw [sendTest, h.status, decide_eq_decide]
  constructor
  · rintro ⟨-, hlt⟩
    omega
  · intro hpos
    exact ⟨rfl, by omega⟩

theorem Sending.offered (h : Sending buffer s) :
    ((buffer.drop s.total_sent).take s.remaining) = buffer.drop s.total_sent := by
  have hremaining := h.remaining
  refine List.take_of_length_le ?_
  rw [List.length_drop]
  omega

/-- A round with a negative result ends the loop with an error. -/
theorem Sending.failed (h : Sending buffer s)
    (hresult : sslResult answers s.remaining 0 < 0) :
    ∃ s', sendBody buffer (answers 0) s = some s' ∧ s'.status = BOLT_STATUS_SET ∧
      s'.ctx.results = s.ctx.results ++ [sslResult answers s.remaining 0] ∧
      s'.ctx.written = s.ctx.written := by
  have hlength : (buffer.drop s.total_sent).length = s.remaining := by
    have hremaining := h.remaining
    rw [List.length_drop]
    omega
  have hbytes : (answers 0).SSL_write s.remaining < 0 := hresult
  have hnone : ((answers 0).SSL_write s.remaining).toNat = 0 := Int.toNat_of_nonpos hbytes.le
  unfold sendBody OpenSSLContext.send1
  simp only [h.offered, hlength, hbytes, if_true, hnone, List.take_zero, List.append_nil]
  exact ⟨_, rfl, rfl, rfl, rfl⟩

/-- A round with another result sends so many bytes. -/
theorem Sending.sent (h : Sending buffer s) {n : Nat}
    (hresult : sslResult answers s.remaining 0 = n) :
    ∃ s', sendBody buffer (answers 0) s = some s' ∧ Sending buffer s' ∧ n ≤ s.remaining ∧
      s'.total_sent = s.total_sent + n ∧ s'.remaining = s.remaining - n ∧
      s'.ctx.results = s.ctx.results ++ [(n : Int)] ∧
      s'.ctx.written = s.ctx.written ++ (buffer.drop s.total_sent).take n := by
  have hremaining := h.remaining
  have hlength : (buffer.drop s.total_sent).length = s.remaining := by
    rw [List.length_drop]
    omega
  have hbytes : (answers 0).SSL_write s.remaining = n := hresult
  have hle : n ≤ s.remaining := by
    have hlimit := (answers 0).SSL_write_le s.remaining
    omega
  have hsign : ¬(n : Int) < 0 := by omega
  unfold sendBody OpenSSLContext.send1
  simp only [h.offered, hlength, hbytes, hsign, if_false, if_true, Int.toNat_natCast]
  refine ⟨_, rfl, ⟨rfl, ?_⟩, hle, rfl, rfl, rfl, rfl⟩
  show s.total_sent + n + (s.remaining - n) = buffer.length
  omega

/-! ## The whole loop -/

theorem endsWithError_nil (status : Int) : EndsWithError [] status := by
  intro front result back hsplit
  simp at hsplit

/-- A round records one result. -/
theorem sendBody_results {answer : SslAnswer} {s' : SendState}
    (h : sendBody buffer answer s = some s') :
    ∃ result, s'.ctx.results = s.ctx.results ++ [result] := by
  unfold sendBody OpenSSLContext.send1 at h
  dsimp only at h
  split_ifs at h
  all_goals
    obtain rfl := Option.some.inj h
    exact ⟨_, rfl⟩

/-- The loop records results behind those that are there, one at least if it goes on. -/
theorem run_results (fuel : Nat) :
    ∀ {answers : Nat → SslAnswer} {s s' : SendState},
      Loops.run (sendTest buffer.length) (sendBody buffer) fuel answers s = some (some s') →
      ∃ results, s'.ctx.results = s.ctx.results ++ results ∧
        (sendTest buffer.length (answers 0) s = true → results ≠ []) := by
  induction fuel with
  | zero =>
    intro answers s s' hrun
    simp only [Loops.run] at hrun
    split_ifs at hrun with htest
    obtain rfl := Option.some.inj (Option.some.inj hrun)
    exact ⟨[], (List.append_nil _).symm, fun h => absurd h htest⟩
  | succ fuel ih =>
    intro answers s s' hrun
    simp only [Loops.run] at hrun
    split_ifs at hrun with htest
    · split at hrun
      · cases hrun
      · next middle hbody =>
        obtain ⟨result, hfirst⟩ := sendBody_results hbody
        obtain ⟨results, hrest, -⟩ := ih hrun
        refine ⟨result :: results, ?_, fun _ => List.cons_ne_nil _ _⟩
        rw [hrest, hfirst, List.append_assoc, List.singleton_append]
    · obtain rfl := Option.some.inj (Option.some.inj hrun)
      exact ⟨[], (List.append_nil _).symm, fun h => absurd h htest⟩

/-- The loop ends as it has to, after no more calls than there are bytes to be sent. -/
def LoopEnds (buffer : List UInt8) (s s' : SendState) (results : List Int) : Prop :=
  s'.ctx.results = s.ctx.results ++ results ∧ results.length ≤ s.remaining ∧
    (s'.status = BOLT_SUCCESS ↔ s'.ctx.written = s.ctx.written ++ buffer.drop s.total_sent) ∧
    EndsWithError results s'.status

/-- If no result is 0, the loop ends as it has to: every round that goes on sends a
byte. -/
theorem loop_of_neverZero (fuel : Nat) :
    ∀ {answers : Nat → SslAnswer} {s : SendState}, Sending buffer s → s.remaining ≤ fuel →
      NeverZero answers s.remaining →
      ∃ s' results,
        Loops.run (sendTest buffer.length) (sendBody buffer) fuel answers s = some (some s') ∧
        LoopEnds buffer s s' results := by
  have hdone : ∀ {s : SendState}, Sending buffer s → s.remaining = 0 →
      LoopEnds buffer s s [] := by
    intro s h hzero
    have hremaining := h.remaining
    have hnone : buffer.drop s.total_sent = [] := List.drop_eq_nil_of_le (by omega)
    refine ⟨(List.append_nil _).symm, Nat.zero_le _, ?_, ?_⟩
    · rw [hnone, List.append_nil]
      exact iff_of_true h.status rfl
    · exact endsWithError_nil _
  induction fuel with
  | zero =>
    intro answers s h hfuel _
    have hzero := Nat.le_zero.mp hfuel
    refine ⟨s, [], ?_, hdone h hzero⟩
    simp only [Loops.run, h.test, hzero, lt_irrefl, decide_false, Bool.false_eq_true, if_false]
  | succ fuel ih =>
    intro answers s h hfuel hnever
    by_cases hzero : s.remaining = 0
    · refine ⟨s, [], ?_, hdone h hzero⟩
      simp only [Loops.run, h.test, hzero, lt_irrefl, decide_false, Bool.false_eq_true, if_false]
    have hpos := Nat.pos_of_ne_zero hzero
    obtain ⟨hfirst, hrest⟩ := (neverZero_iff answers hpos).mp hnever
    have hround : ∀ middle, sendBody buffer (answers 0) s = some middle →
        Loops.run (sendTest buffer.length) (sendBody buffer) (fuel + 1) answers s =
          Loops.run (sendTest buffer.length) (sendBody buffer) fuel (Loops.rest answers)
            middle := by
      intro middle hbody
      simp only [Loops.run, h.test, hpos, decide_true, if_true, hbody]
    rcases lt_or_gt_of_ne hfirst with hneg | hpositive
    · obtain ⟨middle, hbody, hstatus, hresults, hwritten⟩ := h.failed hneg
      have hfails : middle.status ≠ BOLT_SUCCESS := by
        rw [hstatus]
        decide
      have hremaining := h.remaining
      refine ⟨middle, [sslResult answers s.remaining 0], ?_, hresults, hpos, ?_, ?_⟩
      · rw [hround middle hbody]
        cases fuel with
        | zero => simp [Loops.run, sendTest, hfails]
        | succ fuel => simp [Loops.run, sendTest, hfails]
      · refine iff_of_false hfails fun hall => ?_
        have hlength := congrArg List.length hall
        rw [hwritten, List.length_append, List.length_drop] at hlength
        omega
      · intro front result back hsplit hresult
        rcases front with _ | ⟨first, front⟩
        · exact ⟨(List.cons.inj hsplit).2.symm, hfails⟩
        · simp at hsplit
    · obtain ⟨n, hn⟩ := Int.eq_ofNat_of_zero_le hpositive.le
      obtain ⟨middle, hbody, hsending, hle, htotal, hleft, hresults, hwritten⟩ := h.sent hn
      have hnever' := hrest hpositive
      rw [hn, Int.toNat_natCast, ← hleft] at hnever'
      obtain ⟨s', results, hrun, hends, hcount, hsuccess, herror⟩ :=
        ih hsending (by omega) hnever'
      refine ⟨s', n :: results, by rw [hround middle hbody, hrun], ?_, ?_, ?_, ?_⟩
      · rw [hends, hresults, List.append_assoc, List.singleton_append]
      · rw [List.length_cons]
        omega
      · rw [hsuccess, hwritten, htotal, List.append_assoc, ← List.drop_drop,
          List.take_append_drop]
      · intro front result back hsplit hresult
        rcases front with _ | ⟨first, front⟩
        · obtain ⟨rfl, -⟩ := List.cons.inj hsplit
          omega
        · exact herror front result back (List.cons.inj hsplit).2 hresult

theorem neverZero_zero (answers : Nat → SslAnswer) : NeverZero answers 0 := by
  have hnone : ∀ k, unsent answers 0 k = 0 := by
    intro k
    induction k with
    | zero => rfl
    | succ k ih => rw [unsent, ih, Nat.zero_sub]
  intro k hunsent
  rw [hnone k] at hunsent
  exact absurd hunsent (lt_irrefl 0)

/-- If the loop ends with an error where a result is not positive, no result is 0:
behind such a result there is another round. -/
theorem neverZero_of_loop (fuel : Nat) :
    ∀ {answers : Nat → SslAnswer} {s s' : SendState} {results : List Int}, Sending buffer s →
      Loops.run (sendTest buffer.length) (sendBody buffer) fuel answers s = some (some s') →
      s'.ctx.results = s.ctx.results ++ results → EndsWithError results s'.status →
      NeverZero answers s.remaining := by
  induction fuel with
  | zero =>
    intro answers s s' results h hrun _ _
    simp only [Loops.run, h.test] at hrun
    split_ifs at hrun with htest
    obtain hzero : s.remaining = 0 := by simpa using htest
    rw [hzero]
    exact neverZero_zero answers
  | succ fuel ih =>
    intro answers s s' results h hrun hresults herror
    by_cases hzero : s.remaining = 0
    · rw [hzero]
      exact neverZero_zero answers
    have hpos := Nat.pos_of_ne_zero hzero
    have hround : ∀ middle, sendBody buffer (answers 0) s = some middle →
        Loops.run (sendTest buffer.length) (sendBody buffer) fuel (Loops.rest answers) middle =
          some (some s') := by
      intro middle hbody
      rw [← hrun]
      simp only [Loops.run, h.test, hpos, decide_true, if_true, hbody]
    rw [neverZero_iff answers hpos]
    constructor
    · intro hfirst
      obtain ⟨middle, hbody, hsending, -, -, hleft, hrecorded, -⟩ := h.sent (n := 0) hfirst
      obtain ⟨more, hmore, hgoes⟩ := run_results fuel (hround middle hbody)
      rw [hmore, hrecorded, List.append_assoc, List.singleton_append] at hresults
      obtain ⟨hnone, -⟩ := herror [] 0 more (List.append_cancel_left hresults).symm le_rfl
      refine hgoes ?_ hnone
      rw [hsending.test, hleft, Nat.sub_zero]
      exact decide_eq_true hpos
    · intro hpositive
      obtain ⟨n, hn⟩ := Int.eq_ofNat_of_zero_le hpositive.le
      obtain ⟨middle, hbody, hsending, -, -, hleft, hrecorded, -⟩ := h.sent hn
      obtain ⟨more, hmore, -⟩ := run_results fuel (hround middle hbody)
      rw [hmore, hrecorded, List.append_assoc, List.singleton_append] at hresults
      have hsplit := List.append_cancel_left hresults
      rw [hn, Int.toNat_natCast, ← hleft]
      refine ih hsending (hround middle hbody) hmore fun front result back hback hresult => ?_
      refine herror (n :: front) result back ?_ hresult
      rw [← hsplit, hback, List.cons_append]

/-! ## The call -/

/-- A call returns as it has to if and only if SIGPIPE cannot be ignored, so that it
sends nothing, or no call of `SSL_write` that is made while bytes are unsent, and all
results have been positive, returns 0. -/
theorem sending_iff (ignored : Option ErrorCode) (answers : Nat → SslAnswer) (buffer : List UInt8)
    (ctx : OpenSSLContext) :
    Terminates ignored answers buffer ctx ↔
      (ignored = none → NeverZero answers buffer.length) := by
  have hstart : Sending buffer ⟨ctx, BOLT_SUCCESS, buffer.length, 0⟩ := ⟨rfl, Nat.zero_add _⟩
  by_cases hempty : buffer.length = 0
  · have hnone : buffer = [] := List.length_eq_zero_iff.mp hempty
    refine iff_of_true
      ⟨0, BOLT_SUCCESS, ctx, [], ?_, (List.append_nil _).symm, Nat.zero_le _, ?_, ?_⟩ fun _ => ?_
    · simp only [OpenSSLContext.send, hempty, if_true]
    · rw [hnone, List.append_nil]
      exact iff_of_true rfl rfl
    · exact endsWithError_nil _
    · rw [hempty]
      exact neverZero_zero answers
  cases ignored with
  | some error =>
    refine iff_of_true ⟨0, BOLT_STATUS_SET, { ctx with error := error }, [], ?_,
      (List.append_nil _).symm, Nat.zero_le _, ?_, ?_⟩ nofun
    · simp only [OpenSSLContext.send, hempty, if_false]
    · refine iff_of_false (by decide) fun hall => ?_
      have hlength := congrArg List.length hall
      have hsame : ctx.written.length = (ctx.written ++ buffer).length := hlength
      rw [List.length_append] at hsame
      exact hempty (by omega)
    · exact endsWithError_nil _
  | none =>
    constructor
    · rintro ⟨fuel, status, ctx', results, hsend, hresults, -, -, herror⟩ -
      simp only [OpenSSLContext.send, hempty, if_false] at hsend
      split at hsend
      · next s hrun =>
        obtain ⟨rfl, rfl⟩ := Prod.mk.inj (Option.some.inj hsend)
        exact neverZero_of_loop fuel hstart hrun hresults herror
      · cases hsend
    · intro hnever
      obtain ⟨s', results, hrun, hresults, hcount, hsuccess, herror⟩ :=
        loop_of_neverZero buffer.length hstart le_rfl (hnever rfl)
      refine ⟨buffer.length, s'.status, s'.ctx, results, ?_, hresults, hcount, hsuccess, herror⟩
      simp only [OpenSSLContext.send, hempty, if_false, hrun]

/-- `SSL_write` that returns the same whatever it is given, but no more than that. -/
def SslAnswer.always (bytes : Int) : SslAnswer where
  SSL_write length := min bytes length
  SSL_write_le length := min_le_right bytes length
  SSL_get_error := SSL_ERROR_SYSCALL
  last_error_saved := 0
  last_error := 0

/-- A communication that has sent nothing. -/
def OpenSSLContext.fresh : OpenSSLContext where
  transform_error := id
  error := BOLT_SUCCESS
  results := []
  written := []

/-- When `SSL_write` returns 0, the call goes on with the same byte, and does not
return. -/
theorem sending_stuck : ¬Terminates none (fun _ => .always 0) [42] .fresh := by
  have hround : ∀ results, sendBody [42] (.always 0)
      ⟨{ OpenSSLContext.fresh with results := results }, BOLT_SUCCESS, 1, 0⟩ =
        some ⟨{ OpenSSLContext.fresh with results := results ++ [0] }, BOLT_SUCCESS, 1, 0⟩ := by
    intro results
    rfl
  have hstuck : ∀ fuel results, Loops.run (sendTest 1) (sendBody [42]) fuel (fun _ => .always 0)
      ⟨{ OpenSSLContext.fresh with results := results }, BOLT_SUCCESS, 1, 0⟩ = none := by
    intro fuel
    induction fuel with
    | zero => exact fun _ => rfl
    | succ fuel ih =>
      intro results
      simp only [Loops.run, hround]
      exact ih _
  rintro ⟨fuel, status, ctx', results, hsend, -⟩
  have hnone : OpenSSLContext.send fuel none (fun _ => .always 0) [42] .fresh = none := by
    have hloop : Loops.run (sendTest 1) (sendBody [42]) fuel (fun _ => .always 0)
        ⟨.fresh, BOLT_SUCCESS, 1, 0⟩ = none := hstuck fuel []
    simp only [OpenSSLContext.send, List.length_singleton, one_ne_zero, if_false]
    split
    · next s hrun =>
      rw [hloop] at hrun
      cases hrun
    · rfl
  rw [hnone] at hsend
  cases hsend

end Seabolt
