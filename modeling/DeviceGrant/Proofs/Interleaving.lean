import DeviceGrant.Proofs.Issuing
import DeviceGrant.Proofs.Store.History
import Mathlib.Data.List.Induction
import Mathlib.Data.List.Pairwise
set_option autoImplicit false

/-! # Calls that issue codes at the same time

Any number of calls issue codes over one store in memory. A call takes turns with the others: in
one step it reads the clock and draws a pair, in the next it tries to store the record of the pair,
and then it either returns the pair or draws again. Look-ups, deletes and sweeps take single steps
in between. A record is stamped before it is stored, and by then its codes may be taken, or the
record itself may have expired.

`Interleaving.step` is one step, and `run_issueSteps` shows that a call left alone does what
`Issuer.attempt` does. What the store owes to the calls is its history (`Remembers`), which here
consists of the pairs that were returned and not deleted since; with it `codes_never_shared` holds
in every interleaving. -/

namespace DeviceGrant

/-- Where a call that issues codes stands: about to draw, about to store what it has drawn, or at
its end. -/
inductive IssuePhase
  | ready (left : Nat)
  | drawn (left : Nat) (r : DeviceRecord)
  | returned (r : DeviceRecord)
  | failed (f : Failure)

/-- Whether a call is at its end. -/
def IssuePhase.isDone : IssuePhase → Bool
  | returned _ => true
  | failed _ => true
  | _ => false

/-- A call that issues codes for a request. -/
structure IssueCall where
  issuer : Issuer
  request : AuthorizationRequest
  phase : IssuePhase

/-- A store with the calls that use it. The records whose codes were returned and not deleted since
stand with the numbers of their calls. -/
structure Interleaving where
  store : MemoryStore
  calls : Nat → Option IssueCall
  outstanding : List (Nat × DeviceRecord)

/-- A step of one of the calls, or one of the other operations of the store. -/
inductive InterleavingStep
  | start (i : Nat) (issuer : Issuer) (request : AuthorizationRequest)
  | draw (i : Nat) (device user : String)
  | insert (i : Nat)
  | delete (code : String)
  | deleteExpired
  | getByDeviceCode (code : String)
  | getByUserCode (code : String)

namespace Interleaving

variable {s : Interleaving} {now later : Instant} {i j : Nat} {c : IssueCall} {r : DeviceRecord}

/-- No calls and no records. -/
def empty : Interleaving := ⟨.empty, fun _ => none, []⟩

/-- The state in which a call stands somewhere. -/
def setCall (s : Interleaving) (i : Nat) (c : IssueCall) : Interleaving :=
  { s with calls := fun j => if j = i then some c else s.calls j }

/-- A call draws a pair at a reading of the clock, unless no attempt is left. -/
def draw (now : Instant) (device user : String) (left : Nat) (c : IssueCall) : IssueCall :=
  match left with
  | 0 => { c with phase := .failed (.refused (.exhausted c.issuer.maxAttempts)) }
  | left + 1 =>
    match c.issuer.newRecord ⟨fun _ => device, fun _ => user⟩ now c.request 0 with
    | .ok r => { c with phase := .drawn left r }
    | .error f => { c with phase := .failed f }

/-- A call tries to store the record that it has drawn, and returns or draws again. -/
def insert (s : Interleaving) (now : Instant) (i : Nat) (c : IssueCall) (left : Nat)
    (r : DeviceRecord) : Interleaving :=
  let (stored, store) := s.store.insertIfAbsent now r
  if stored then
    ⟨store, (s.setCall i { c with phase := .returned r }).calls, s.outstanding ++ [(i, r)]⟩
  else ⟨store, (s.setCall i { c with phase := .ready left }).calls, s.outstanding⟩

/-- One step at a reading of the clock. A step that is not the turn of its call does nothing. -/
def step (s : Interleaving) (now : Instant) : InterleavingStep → Interleaving
  | .start i issuer request =>
    match s.calls i with
    | none => s.setCall i ⟨issuer, request, .ready issuer.maxAttempts.toNat⟩
    | some _ => s
  | .draw i device user =>
    match s.calls i with
    | some c => match c.phase with
      | .ready left => s.setCall i (draw now device user left c)
      | _ => s
    | none => s
  | .insert i =>
    match s.calls i with
    | some c => match c.phase with
      | .drawn left r => s.insert now i c left r
      | _ => s
    | none => s
  | .delete code =>
    { s with
      store := (s.store.delete code).2
      outstanding := s.outstanding.filter fun e => e.2.deviceCode ≠ code }
  | .deleteExpired => { s with store := (s.store.deleteExpired now).2 }
  | .getByDeviceCode _ => s
  | .getByUserCode _ => s

/-- The state after a sequence of steps, each at its reading of the clock. -/
def run (s : Interleaving) (steps : List (Instant × InterleavingStep)) : Interleaving :=
  steps.foldl (fun s e => s.step e.1 e.2) s

theorem run_append (s : Interleaving) (steps later : List (Instant × InterleavingStep)) :
    s.run (steps ++ later) = (s.run steps).run later := by
  simp [run]

/-! ## A call left alone -/

theorem calls_setCall_self (s : Interleaving) (i : Nat) (c : IssueCall) :
    (s.setCall i c).calls i = some c := if_pos rfl

theorem draw_of_error {codes : CodeSource} {k : Nat} {f : Failure} (left : Nat)
    (h : c.issuer.newRecord codes now c.request k = .error f) :
    draw now (codes.device k) (codes.user k) (left + 1) c = { c with phase := .failed f } := by
  have hpair : c.issuer.newRecord ⟨fun _ => codes.device k, fun _ => codes.user k⟩ now
      c.request 0 = .error f := h
  simp only [draw, hpair]

theorem draw_of_ok {codes : CodeSource} {k : Nat} (left : Nat)
    (h : c.issuer.newRecord codes now c.request k = .ok r) :
    draw now (codes.device k) (codes.user k) (left + 1) c = { c with phase := .drawn left r } := by
  have hpair : c.issuer.newRecord ⟨fun _ => codes.device k, fun _ => codes.user k⟩ now
      c.request 0 = .ok r := h
  simp only [draw, hpair]

theorem insert_of_free (c : IssueCall) (left : Nat) (h : s.store.holdsLive now r = false) :
    s.insert now i c left r =
      ⟨(s.store.reclaim r).put r, (s.setCall i { c with phase := .returned r }).calls,
        s.outstanding ++ [(i, r)]⟩ := by
  rw [insert, MemoryStore.insertIfAbsent_of_free h]
  rfl

theorem insert_of_taken (c : IssueCall) (left : Nat) (h : s.store.holdsLive now r = true) :
    s.insert now i c left r = s.setCall i { c with phase := .ready left } := by
  rw [insert, MemoryStore.insertIfAbsent_of_holdsLive h]
  rfl

theorem calls_setCall (s : Interleaving) (i j : Nat) (c : IssueCall) :
    (s.setCall i c).calls j = if j = i then some c else s.calls j := rfl

/-- The steps of a call with so many attempts left: a draw and an insert for each of them, and a
last draw that finds no attempt left. -/
def issueSteps (i : Nat) (codes : CodeSource) (now : Instant) (start : Nat) :
    Nat → List (Instant × InterleavingStep)
  | 0 => [(now, .draw i "" "")]
  | left + 1 => (now, .draw i (codes.device start) (codes.user start)) :: (now, .insert i) ::
      issueSteps i codes now (start + 1) left

theorem step_draw {left : Nat} (h : s.calls i = some c) (hphase : c.phase = .ready left)
    (device user : String) :
    s.step now (.draw i device user) = s.setCall i (draw now device user left c) := by
  simp only [step, h, hphase]

theorem step_insert {left : Nat} (h : s.calls i = some c) (hphase : c.phase = .drawn left r) :
    s.step now (.insert i) = s.insert now i c left r := by
  simp only [step, h, hphase]

/-- A draw and the insert after it, with nothing in between. -/
def turn (s : Interleaving) (now : Instant) (i : Nat) (device user : String) : Interleaving :=
  (s.step now (.draw i device user)).step now (.insert i)

theorem run_issueSteps_succ (s : Interleaving) (codes : CodeSource) (start left : Nat) :
    s.run (issueSteps i codes now start (left + 1)) =
      (s.turn now i (codes.device start) (codes.user start)).run
        (issueSteps i codes now (start + 1) left) := rfl

theorem step_draw_of_isDone (h : s.calls i = some c) (hdone : c.phase.isDone = true)
    (device user : String) : s.step now (.draw i device user) = s := by
  cases hphase : c.phase <;> simp_all [step, IssuePhase.isDone]

theorem step_insert_of_isDone (h : s.calls i = some c) (hdone : c.phase.isDone = true) :
    s.step now (.insert i) = s := by
  cases hphase : c.phase <;> simp_all [step, IssuePhase.isDone]

/-- A call at its end takes no more steps. -/
theorem run_issueSteps_of_isDone (h : s.calls i = some c) (hdone : c.phase.isDone = true)
    (codes : CodeSource) (start left : Nat) : s.run (issueSteps i codes now start left) = s := by
  induction left generalizing start with
  | zero => exact step_draw_of_isDone h hdone "" ""
  | succ left ih =>
    rw [run_issueSteps_succ, turn, step_draw_of_isDone h hdone, step_insert_of_isDone h hdone, ih]

section Turn

variable {issuer : Issuer} {request : AuthorizationRequest} {codes : CodeSource}
  {start left : Nat} {f : Failure}

/-- Without a record the call ends, and its insert does nothing. -/
theorem turn_of_error (h : s.calls i = some ⟨issuer, request, .ready (left + 1)⟩)
    (hrecord : issuer.newRecord codes now request start = .error f) :
    s.turn now i (codes.device start) (codes.user start) =
      s.setCall i ⟨issuer, request, .failed f⟩ := by
  rw [turn, step_draw h rfl, draw_of_error left hrecord,
    step_insert_of_isDone (calls_setCall_self ..) rfl]

theorem turn_of_ok (h : s.calls i = some ⟨issuer, request, .ready (left + 1)⟩)
    (hrecord : issuer.newRecord codes now request start = .ok r) :
    s.turn now i (codes.device start) (codes.user start) =
      (s.setCall i ⟨issuer, request, .drawn left r⟩).insert now i
        ⟨issuer, request, .drawn left r⟩ left r := by
  rw [turn, step_draw h rfl, draw_of_ok left hrecord, step_insert (calls_setCall_self ..) rfl]

/-- Without other steps in between, the turns of a call are the loop of the issuer: the same store
is left, and the same pair or failure. A call starts with all attempts of its issuer left, and with
them the loop is `Issuer.issue`. -/
theorem run_issueSteps (codes : CodeSource) (start left : Nat)
    (h : s.calls i = some ⟨issuer, request, .ready left⟩) :
    (issuer.attempt codes now request left ⟨.memory s.store, start⟩).2.store =
        .memory (s.run (issueSteps i codes now start left)).store ∧
      ((∃ r, (s.run (issueSteps i codes now start left)).calls i =
            some ⟨issuer, request, .returned r⟩ ∧
          (issuer.attempt codes now request left ⟨.memory s.store, start⟩).1.value =
            .ok (r.userCode, r.deviceCode)) ∨
        ∃ f, (s.run (issueSteps i codes now start left)).calls i =
            some ⟨issuer, request, .failed f⟩ ∧
          (issuer.attempt codes now request left ⟨.memory s.store, start⟩).1.value = .error f) := by
  induction left generalizing s start with
  | zero =>
    have hrun : s.run (issueSteps i codes now start 0) =
        s.setCall i ⟨issuer, request, .failed (.refused (.exhausted issuer.maxAttempts))⟩ :=
      step_draw h rfl "" ""
    rw [hrun]
    exact ⟨rfl, .inr ⟨_, calls_setCall_self .., rfl⟩⟩
  | succ left ih =>
    rw [run_issueSteps_succ]
    cases hrecord : issuer.newRecord codes now request start with
    | error f =>
      rw [turn_of_error h hrecord, run_issueSteps_of_isDone (calls_setCall_self ..) rfl,
        Issuer.attempt_of_no_record left hrecord]
      exact ⟨rfl, .inr ⟨f, calls_setCall_self .., rfl⟩⟩
    | ok r =>
      rw [turn_of_ok h hrecord]
      -- The draw has not touched the store, so both sides meet the same holders.
      let drawn := s.setCall i ⟨issuer, request, .drawn left r⟩
      cases hlive : s.store.holdsLive now r with
      | false =>
        have hinsert : drawn.insert now i ⟨issuer, request, .drawn left r⟩ left r = _ :=
          insert_of_free _ left hlive
        have hdone : (drawn.insert now i ⟨issuer, request, .drawn left r⟩ left r).calls i =
            some ⟨issuer, request, .returned r⟩ := by
          rw [hinsert]
          exact calls_setCall_self ..
        rw [run_issueSteps_of_isDone hdone rfl, hdone, hinsert,
          Issuer.attempt_of_free left hrecord hlive]
        exact ⟨rfl, .inl ⟨r, rfl, rfl⟩⟩
      | true =>
        have hinsert : drawn.insert now i ⟨issuer, request, .drawn left r⟩ left r =
            drawn.setCall i ⟨issuer, request, .ready left⟩ := insert_of_taken _ left hlive
        rw [hinsert, Issuer.attempt_of_taken left hrecord hlive]
        exact ih (start + 1) (calls_setCall_self drawn ..)

end Turn

/-! ## What holds between the steps -/

/-- Two records that are live have no code in common. -/
def Apart (now : Instant) (q r : Nat × DeviceRecord) : Prop :=
  q.2.isLive now = true → r.2.isLive now = true →
    q.2.deviceCode ≠ r.2.deviceCode ∧ q.2.userCode ≠ r.2.userCode

instance (now : Instant) : Std.Symm (Apart now) where
  symm q r h := by
    intro hr hq
    obtain ⟨hdevice, huser⟩ := h hq hr
    exact ⟨Ne.symm hdevice, Ne.symm huser⟩

/-- A record that a call has drawn or returned is for the request of the call. -/
def KeepsRequest (c : IssueCall) : Prop :=
  match c.phase with
  | .drawn _ r => r.request = c.request
  | .returned r => r.request = c.request
  | _ => True

/-- At a reading of the clock, the store holds what the calls have returned and what is live of it
has no code in common. -/
structure Sound (s : Interleaving) (now : Instant) : Prop where
  remembers : s.store.Remembers (s.outstanding.map (·.2)) now
  apart : s.outstanding.Pairwise (Apart now)
  returned : ∀ i r, (i, r) ∈ s.outstanding → ∃ c, s.calls i = some c ∧ c.phase = .returned r
  requests : ∀ i c, s.calls i = some c → KeepsRequest c

namespace Sound

theorem of_empty (now : Instant) : empty.Sound now where
  remembers := .of_empty now
  apart := .nil
  returned _ _ h := by cases h
  requests _ _ h := by cases h

theorem of_le (h : s.Sound now) (hle : now ≤ later) : s.Sound later where
  remembers := h.remembers.of_le hle
  apart := h.apart.imp fun hapart hq hr =>
    hapart (DeviceRecord.isLive_of_le hle hq) (DeviceRecord.isLive_of_le hle hr)
  returned := h.returned
  requests := h.requests

/-- A call that has not returned has no record outstanding. -/
theorem ne_of_not_returned (h : s.Sound now) (hphase : ∀ c r, s.calls i = some c →
    c.phase ≠ .returned r) : ∀ e ∈ s.outstanding, e.1 ≠ i := by
  rintro ⟨j, r⟩ he rfl
  obtain ⟨c, hc, hreturned⟩ := h.returned j r he
  exact hphase c r hc hreturned

/-- A call that has not returned may go on. -/
theorem setCall (h : s.Sound now) (hphase : ∀ c r, s.calls i = some c → c.phase ≠ .returned r)
    (hc : KeepsRequest c) : (s.setCall i c).Sound now where
  remembers := h.remembers
  apart := h.apart
  returned j r he := by
    rw [calls_setCall, if_neg (h.ne_of_not_returned hphase (j, r) he)]
    exact h.returned j r he
  requests j d hd := by
    rw [calls_setCall] at hd
    split at hd
    · cases hd
      exact hc
    · exact h.requests j d hd

theorem draw (h : s.Sound now) {left : Nat} (hcall : s.calls i = some c)
    (hphase : c.phase = .ready left) (device user : String) :
    (s.setCall i (Interleaving.draw now device user left c)).Sound now := by
  refine h.setCall ?_ ?_
  · intro d r hd hreturned
    rw [hcall, Option.some.injEq] at hd
    rw [← hd, hphase] at hreturned
    cases hreturned
  · unfold Interleaving.draw
    split
    · trivial
    · split
      · next r hr =>
        obtain ⟨second, _, rfl⟩ := Issuer.newRecord_eq_ok_iff.1 hr
        exact rfl
      · trivial

/-- A record that is stored has no code in common with any that is live, and goes to its call. -/
theorem insert (h : s.Sound now) {left : Nat} (hcall : s.calls i = some c)
    (hphase : c.phase = .drawn left r) : (s.insert now i c left r).Sound now := by
  have hnot : ∀ d q, s.calls i = some d → d.phase ≠ .returned q := by
    intro d q hd hreturned
    rw [hcall, Option.some.injEq] at hd
    rw [← hd, hphase] at hreturned
    cases hreturned
  have hrequest : r.request = c.request := by
    have hc := h.requests i c hcall
    rw [KeepsRequest, hphase] at hc
    exact hc
  cases hlive : s.store.holdsLive now r with
  | true =>
    rw [insert_of_taken _ _ hlive]
    exact h.setCall hnot trivial
  | false =>
    have hgone := h.setCall (c := { c with phase := .returned r }) hnot hrequest
    rw [insert_of_free _ _ hlive]
    constructor
    · rw [List.map_append, List.map_singleton]
      exact h.remembers.reclaim_put hlive
    · -- The insert was not refused, so no live record has one of the new codes.
      refine List.pairwise_append.2 ⟨h.apart, List.pairwise_singleton .., ?_⟩
      rintro q hq _ hr hqlive -
      obtain rfl := List.mem_singleton.1 hr
      exact h.remembers.holdsLive_eq_false_iff.1 hlive q.2 (List.mem_map_of_mem hq) hqlive
    · intro j q he
      rcases List.mem_append.1 he with he | he
      · exact hgone.returned j q he
      · obtain ⟨rfl, rfl⟩ : j = i ∧ q = r := by simpa using he
        exact ⟨_, calls_setCall_self .., rfl⟩
    · exact hgone.requests

theorem delete (h : s.Sound now) (code : String) : (s.step now (.delete code)).Sound now where
  remembers := by
    have hforgets := h.remembers.remove code
    rw [List.filter_map] at hforgets
    exact hforgets
  apart := h.apart.filter _
  returned i r he := h.returned i r (List.mem_of_mem_filter he)
  requests := h.requests

/-- Every step keeps what holds between the steps. -/
theorem step (h : s.Sound now) (e : InterleavingStep) : (s.step now e).Sound now := by
  cases e with
  | start i issuer request =>
    simp only [Interleaving.step]
    split
    · next hnone =>
      refine h.setCall ?_ trivial
      intro c r hc
      rw [hnone] at hc
      cases hc
    · exact h
  | draw i device user =>
    simp only [Interleaving.step]
    split
    · next c hcall =>
      split
      · next left hphase => exact h.draw hcall hphase device user
      · exact h
    · exact h
  | insert i =>
    simp only [Interleaving.step]
    split
    · next c hcall =>
      split
      · next left r hphase => exact h.insert hcall hphase
      · exact h
    · exact h
  | delete code => exact h.delete code
  | deleteExpired => exact ⟨h.remembers.deleteExpired, h.apart, h.returned, h.requests⟩
  | getByDeviceCode code => exact h
  | getByUserCode code => exact h

end Sound

/-! ## What is outstanding -/

/-- Only a step that returns puts a call at its return. -/
theorem calls_of_setCall {d : IssueCall} (hc : (s.setCall j d).calls i = some c)
    (hphase : c.phase = .returned r) (hd : ∀ q, d.phase ≠ .returned q) : s.calls i = some c := by
  rw [calls_setCall] at hc
  split at hc
  · cases hc
    exact absurd hphase (hd r)
  · exact hc

theorem phase_draw_ne_returned (now : Instant) (device user : String) (left : Nat) (c : IssueCall)
    (q : DeviceRecord) : (draw now device user left c).phase ≠ .returned q := by
  unfold draw
  split
  · simp
  · split <;> simp

/-- An insert of a call may return its record; the other calls keep what they have returned. -/
theorem mem_outstanding_of_insert {d : IssueCall} {left : Nat} {q : DeviceRecord}
    (hc : (s.insert now j d left q).calls i = some c) (hphase : c.phase = .returned r) :
    (i, r) ∈ (s.insert now j d left q).outstanding ∨ s.calls i = some c ∧
      ((i, r) ∈ s.outstanding → (i, r) ∈ (s.insert now j d left q).outstanding) := by
  cases hlive : s.store.holdsLive now q with
  | true =>
    rw [insert_of_taken d left hlive] at hc ⊢
    exact .inr ⟨calls_of_setCall hc hphase (by simp), id⟩
  | false =>
    rw [insert_of_free d left hlive] at hc ⊢
    by_cases hi : i = j
    · subst hi
      rw [calls_setCall_self] at hc
      cases hc
      cases hphase
      exact .inl (by simp)
    · rw [calls_setCall, if_neg hi] at hc
      exact .inr ⟨hc, List.mem_append_left _⟩

/-- A record that a call has returned is outstanding from then on, unless its device code is
deleted. -/
theorem mem_outstanding_of_step {e : InterleavingStep} (hc : (s.step now e).calls i = some c)
    (hphase : c.phase = .returned r) :
    (i, r) ∈ (s.step now e).outstanding ∨ s.calls i = some c ∧ (e = .delete r.deviceCode ∨
      ((i, r) ∈ s.outstanding → (i, r) ∈ (s.step now e).outstanding)) := by
  cases e with
  | start j issuer request =>
    simp only [step] at hc ⊢
    split at hc
    · exact .inr ⟨calls_of_setCall hc hphase (by simp), .inr id⟩
    · exact .inr ⟨hc, .inr id⟩
  | draw j device user =>
    simp only [step] at hc ⊢
    split at hc
    · next d _ =>
      split at hc
      · next left _ =>
        have hd := phase_draw_ne_returned now device user left d
        exact .inr ⟨calls_of_setCall hc hphase hd, .inr id⟩
      · exact .inr ⟨hc, .inr id⟩
    · exact .inr ⟨hc, .inr id⟩
  | insert j =>
    simp only [step] at hc ⊢
    split at hc
    · split at hc
      · rcases mem_outstanding_of_insert hc hphase with hmem | ⟨hbefore, hkept⟩
        · exact .inl hmem
        · exact .inr ⟨hbefore, .inr hkept⟩
      · exact .inr ⟨hc, .inr id⟩
    · exact .inr ⟨hc, .inr id⟩
  | delete code =>
    refine .inr ⟨hc, ?_⟩
    by_cases hcode : r.deviceCode = code
    · exact .inl (congrArg _ hcode.symm)
    · exact .inr fun hr => List.mem_filter.2 ⟨hr, by simpa using hcode⟩
  | deleteExpired => exact .inr ⟨hc, .inr id⟩
  | getByDeviceCode code => exact .inr ⟨hc, .inr id⟩
  | getByUserCode code => exact .inr ⟨hc, .inr id⟩

/-- What a call has returned is outstanding, or its device code was deleted after it returned. -/
theorem outstanding_or_deleted (steps : List (Instant × InterleavingStep))
    (hc : (empty.run steps).calls i = some c) (hphase : c.phase = .returned r) :
    (i, r) ∈ (empty.run steps).outstanding ∨ ∃ past t later,
      steps = past ++ (t, .delete r.deviceCode) :: later ∧
        (empty.run past).calls i = some c := by
  induction steps using List.reverseRecOn with
  | nil => cases hc
  | append_singleton steps e ih =>
    rw [run_append] at hc ⊢
    rcases mem_outstanding_of_step hc hphase with hmem | ⟨hbefore, hkept⟩
    · exact .inl hmem
    · rcases ih hbefore with hmem | ⟨past, t, later, rfl, hpast⟩
      · rcases hkept with hdelete | hkept
        · exact .inr ⟨steps, e.1, [], by rw [← hdelete], hbefore⟩
        · exact .inl (hkept hmem)
      · exact .inr ⟨past, t, later ++ [e], by simp, hpast⟩

/-! ## Every interleaving -/

theorem sound_run (steps : List (Instant × InterleavingStep)) (now : Instant)
    (hclock : NeverDecreases (steps.map (·.1) ++ [now])) : (empty.run steps).Sound now := by
  -- On the last step: what holds at its reading holds at later ones.
  induction steps using List.reverseRecOn generalizing now with
  | nil => exact .of_empty now
  | append_singleton steps e ih =>
    rw [List.map_append, List.map_singleton] at hclock
    have hbefore := ih e.1 hclock.of_append
    rw [run_append]
    exact (hbefore.step e.2).of_le hclock.le_of_last_two

/-- However the turns of any number of calls are interleaved with each other and with look-ups,
deletes and sweeps, as long as the clock never decreases: of the records whose codes were returned
and that are neither expired nor deleted, those of two calls have different device codes and
different user codes, and either code of each finds exactly the record that its call has returned,
which is for the request of that call. A call that has returned stands among them with its record
until the device code of the record is deleted. -/
theorem codes_never_shared (steps : List (Instant × InterleavingStep)) (now : Instant)
    (hclock : NeverDecreases (steps.map (·.1) ++ [now])) :
    (∀ i q j r, (i, q) ∈ (empty.run steps).outstanding → (j, r) ∈ (empty.run steps).outstanding →
      i ≠ j → now ≤ .whole q.expiresAt → now ≤ .whole r.expiresAt →
        q.deviceCode ≠ r.deviceCode ∧ q.userCode ≠ r.userCode) ∧
    (∀ i r, (i, r) ∈ (empty.run steps).outstanding → now ≤ .whole r.expiresAt →
      (empty.run steps).store.getByDeviceCode now r.deviceCode = some r ∧
      (empty.run steps).store.getByUserCode now r.userCode = some r ∧
      ∃ c, (empty.run steps).calls i = some c ∧ c.phase = .returned r ∧ r.request = c.request) ∧
    ∀ i c r, (empty.run steps).calls i = some c → c.phase = .returned r →
      (i, r) ∈ (empty.run steps).outstanding ∨ ∃ past t later,
        steps = past ++ (t, .delete r.deviceCode) :: later ∧
          (empty.run past).calls i = some c := by
  have hnow := hclock.last_le_self
  have hsound := sound_run steps now hclock
  simp only [← DeviceRecord.isLive_iff hnow]
  refine ⟨?_, ?_, fun i c r => outstanding_or_deleted steps⟩
  · intro i q j r hq hr hne hqlive hrlive
    have hpair : (i, q) ≠ (j, r) := fun heq => hne (congrArg Prod.fst heq)
    exact hsound.apart.forall hq hr hpair hqlive hrlive
  · intro i r hr hlive
    have hmem : r ∈ (empty.run steps).outstanding.map (·.2) := List.mem_map_of_mem hr
    obtain ⟨c, hc, hphase⟩ := hsound.returned i r hr
    have hrequest := hsound.requests i c hc
    rw [KeepsRequest, hphase] at hrequest
    exact ⟨hsound.remembers.getByDeviceCode_iff.2 ⟨hmem, rfl, hlive⟩,
      hsound.remembers.getByUserCode_iff.2 ⟨hmem, rfl, hlive⟩, c, hc, hphase, hrequest⟩

/-- Two calls draw the same user code at once; the second one to store it has to draw again. -/
def sameUserCode : List (Instant × InterleavingStep) :=
  [(.whole 0, .start 0 ⟨600, 10⟩ ⟨"tv", .empty, .empty⟩),
    (.whole 0, .start 1 ⟨600, 10⟩ ⟨"radio", .empty, .empty⟩),
    (.whole 1, .draw 0 "d1" "u"), (.whole 1, .draw 1 "d2" "u"), (.whole 2, .insert 1),
    (.whole 3, .insert 0), (.whole 3, .draw 0 "d3" "v"), (.whole 4, .insert 0)]

/-- The user code finds the record of the call that stored it first, for its request. -/
theorem codes_never_shared_same_user_code :
    NeverDecreases (sameUserCode.map (·.1) ++ [.whole 600]) ∧
      ∃ q r, (0, q) ∈ (empty.run sameUserCode).outstanding ∧
        (1, r) ∈ (empty.run sameUserCode).outstanding ∧
        q.deviceCode ≠ r.deviceCode ∧ q.userCode ≠ r.userCode ∧
        (empty.run sameUserCode).store.getByUserCode (.whole 600) "u" = some r ∧
        r.request.clientId = "radio" := by
  have hclock : NeverDecreases (sameUserCode.map (·.1) ++ [.whole 600]) := by
    constructor <;> simp [sameUserCode]
  obtain ⟨hapart, hfound, _⟩ := codes_never_shared sameUserCode (.whole 600) hclock
  have hq : (0, (⟨"d3", "v", ⟨"tv", .empty, .empty⟩, 3, 603, .pending⟩ : DeviceRecord)) ∈
      (empty.run sameUserCode).outstanding := by decide
  have hr : (1, (⟨"d2", "u", ⟨"radio", .empty, .empty⟩, 1, 601, .pending⟩ : DeviceRecord)) ∈
      (empty.run sameUserCode).outstanding := by decide
  obtain ⟨hdevice, huser⟩ := hapart 0 _ 1 _ hq hr (by decide) (by simp) (by simp)
  exact ⟨hclock, _, _, hq, hr, hdevice, huser, (hfound 1 _ hr (by simp)).2.1, rfl⟩

end Interleaving

end DeviceGrant
