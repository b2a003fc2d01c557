import DeviceGrant.Proofs.Issuing
import DeviceGrant.Proofs.Mask
set_option autoImplicit false

/-! # The log of an issuer shows masks only

Two issuers with the same settings get the same calls at the same readings of the clock, but draw
different codes. As long as the codes that they draw have the same masks and their calls come to
the same, their logs are the same, level by level and line by line (`log_shows_masks_only`): a code
is in no line except through its mask.

What a call comes to is its `Outcome`. Of an issue it tells the result and how many pairs have been
drawn, which says which of its inserts were refused (`refused_of_same_outcome`). Look-ups and
deletes write no line, whatever they come to. -/

namespace DeviceGrant

/-! ## Log lines -/

namespace Event

/-- The lines that a log shows for events, with their levels. -/
def lines (events : List Event) : List (LogLevel × String) :=
  events.map fun e => (e.level, e.line)

theorem lines_append (es fs : List Event) : lines (es ++ fs) = lines es ++ lines fs :=
  List.map_append

theorem lines_cons (e : Event) (es : List Event) :
    lines (e :: es) = (e.level, e.line) :: lines es := rfl

theorem lines_sharedCollision (d u : String) :
    lines [.sharedCollision d u] =
      [(.debug, "Code collision in Redis for device_code " ++ Mask.id d ++ " / user_code " ++
        Mask.userCode u)] := rfl

theorem lines_codesGenerated (clientId u d : String) :
    lines [.codesGenerated clientId u d] =
      [(.info, "Generated device code for client_id: " ++ clientId ++ ", user_code: " ++
        Mask.userCode u ++ ", device_code: " ++ Mask.id d)] := rfl

end Event

/-! ## Codes that look alike -/

namespace CodeSource

variable {codes codes' : CodeSource}

/-- The codes of one number look alike: the user codes have the same length and the same first
half, the device codes are longer than eight characters and have the same ends. -/
structure Alike (codes codes' : CodeSource) : Prop where
  device : ∀ k, Mask.AlikeIds (codes.device k) (codes'.device k)
  user : ∀ k, Mask.AlikeUserCodes (codes.user k) (codes'.user k)

/-- The codes of one number have the same masks. -/
structure SameMasks (codes codes' : CodeSource) : Prop where
  device : ∀ k, Mask.id (codes.device k) = Mask.id (codes'.device k)
  user : ∀ k, Mask.userCode (codes.user k) = Mask.userCode (codes'.user k)

theorem Alike.sameMasks (h : codes.Alike codes') : codes.SameMasks codes' where
  device k := (h.device k).mask_eq
  user k := (h.user k).mask_eq

end CodeSource

/-! ## What a store tells -/

namespace Store

/-- Whether a store is shared between instances. -/
def isShared : Store → Bool
  | memory _ => false
  | shared _ => true

@[simp] theorem isShared_insertIfAbsent (s : Store) (now : Instant) (r : DeviceRecord) :
    (s.insertIfAbsent now r).2.isShared = s.isShared := by
  cases s <;> rfl

@[simp] theorem isShared_delete (s : Store) (code : String) :
    (s.delete code).2.isShared = s.isShared := by
  cases s <;> rfl

@[simp] theorem isShared_deleteExpired (s : Store) (now : Instant) :
    (s.deleteExpired now).2.isShared = s.isShared := by
  cases s <;> rfl

/-- What is told of an insert and its answer: a shared store tells of a pair that it refused. -/
def insertEvents (isShared : Bool) (r : DeviceRecord) : Except Failure Bool → List Event
  | .ok false => if isShared then [.sharedCollision r.deviceCode r.userCode] else []
  | _ => []

theorem events_insertIfAbsent (s : Store) (now : Instant) (r : DeviceRecord) :
    (s.insertIfAbsent now r).1.events =
      insertEvents s.isShared r (s.insertIfAbsent now r).1.value := by
  cases s with
  | memory m =>
    simp only [insertIfAbsent, isShared, Logged.silent]
    cases (m.insertIfAbsent now r).1 <;> rfl
  | shared s =>
    simp only [insertIfAbsent, isShared, SharedStore.insertIfAbsent]
    split
    · rfl
    · split
      · rfl
      · split <;> rfl

/-- What is told of a sweep and its answer: how many records it removed, if there were any. -/
def sweepEvents (isShared : Bool) : Except Failure Nat → List Event
  | .ok n => if n = 0 then [] else [if isShared then .sharedCleaned n else .memoryCleaned n]
  | .error _ => []

theorem events_deleteExpired (s : Store) (now : Instant) :
    (s.deleteExpired now).1.events = sweepEvents s.isShared (s.deleteExpired now).1.value := by
  cases s with
  | memory m => rfl
  | shared s =>
    simp only [deleteExpired, isShared, SharedStore.deleteExpired]
    split
    · rfl
    · split <;> rfl

/-- A store fails otherwise than an issuer that is out of attempts. -/
theorem insertIfAbsent_ne_refused (s : Store) (now : Instant) (r : DeviceRecord) (e : Refusal) :
    (s.insertIfAbsent now r).1.value ≠ .error (.refused e) := by
  have hseconds : SharedStore.secondsToLive now r ≠ .error (.refused e) := by
    unfold SharedStore.secondsToLive Instant.secondsUntil Instant.wholePart
    repeat' split
    all_goals simp [Except.map]
  intro h
  cases s with
  | memory m => cases h
  | shared s =>
    simp only [insertIfAbsent, SharedStore.insertIfAbsent] at h
    split at h
    · cases h
    · split at h
      · cases h
      · split at h
        · next hfails =>
          obtain rfl := Except.error.inj h
          exact hseconds hfails
        · cases h

end Store

namespace Issuer

variable {i : Issuer} {codes codes' : CodeSource} {now : Instant}
  {request : AuthorizationRequest} {left : Nat} {s t : Issuance} {r q : DeviceRecord}

/-! ## Attempts over a store of either kind -/

theorem attempt_of_stored (left : Nat) (h : i.newRecord codes now request s.drawn = .ok r)
    (hinsert : (s.store.insertIfAbsent now r).1.value = .ok true) :
    i.attempt codes now request (left + 1) s =
      (⟨.ok (r.userCode, r.deviceCode), (s.store.insertIfAbsent now r).1.events ++
          [.codesGenerated request.clientId r.userCode r.deviceCode]⟩,
        ⟨(s.store.insertIfAbsent now r).2, s.drawn + 1⟩) := by
  simp only [attempt, h, hinsert]

theorem attempt_of_failed {f : Failure} (left : Nat)
    (h : i.newRecord codes now request s.drawn = .ok r)
    (hinsert : (s.store.insertIfAbsent now r).1.value = .error f) :
    i.attempt codes now request (left + 1) s =
      (⟨.error f, (s.store.insertIfAbsent now r).1.events⟩,
        ⟨(s.store.insertIfAbsent now r).2, s.drawn + 1⟩) := by
  simp only [attempt, h, hinsert]

theorem attempt_of_refused (left : Nat) (h : i.newRecord codes now request s.drawn = .ok r)
    (hinsert : (s.store.insertIfAbsent now r).1.value = .ok false) :
    i.attempt codes now request (left + 1) s =
      let next := i.attempt codes now request left ⟨(s.store.insertIfAbsent now r).2, s.drawn + 1⟩
      (⟨next.1.value, (s.store.insertIfAbsent now r).1.events ++
          .codeCollision (i.maxAttempts - left) i.maxAttempts :: next.1.events⟩, next.2) := by
  simp only [attempt, h, hinsert]

/-! ## Which inserts were refused -/

theorem drawn_le_attempt (left : Nat) (s : Issuance) :
    s.drawn ≤ (i.attempt codes now request left s).2.drawn :=
  attempt_keeps (P := fun t => s.drawn ≤ t.drawn) (fun _ _ ht _ => Nat.le_succ_of_le ht) left
    (Nat.le_refl _)

/-- Where the clock has a whole second, attempts draw a pair, or none is left. -/
theorem drawn_lt_or_exhausted {second : Int} (hsecond : now.truncate = .ok second) (left : Nat)
    (s : Issuance) :
    s.drawn < (i.attempt codes now request left s).2.drawn ∨
      (i.attempt codes now request left s).1.value = .error (.refused (.exhausted i.maxAttempts)) := by
  cases left with
  | zero => exact .inr rfl
  | succ left =>
    left
    unfold attempt
    split
    · next hfails =>
      rw [newRecord_eq_error_iff, hsecond] at hfails
      cases hfails
    · dsimp only
      split
      · exact Nat.lt_succ_self _
      · exact Nat.lt_succ_self _
      · exact drawn_le_attempt left ⟨_, s.drawn + 1⟩

/-- What attempts come to: their result without the codes, and how many pairs have been drawn. -/
def outcome (x : Logged (Except Failure (String × String)) × Issuance) :
    Except Failure Unit × Nat :=
  (x.1.value.map fun _ => (), x.2.drawn)

/-- An insert that is not refused is the last one of the attempts. -/
theorem outcome_of_settled (left : Nat) (h : i.newRecord codes now request s.drawn = .ok r)
    (hinsert : (s.store.insertIfAbsent now r).1.value ≠ .ok false) :
    outcome (i.attempt codes now request (left + 1) s) =
      ((s.store.insertIfAbsent now r).1.value.map fun _ => (), s.drawn + 1) := by
  match hanswer : (s.store.insertIfAbsent now r).1.value with
  | .ok true =>
    rw [attempt_of_stored left h hanswer]
    rfl
  | .error f =>
    rw [attempt_of_failed left h hanswer]
    rfl
  | .ok false => exact absurd hanswer hinsert

/-- Whether the first pair is refused can be told from what the attempts come to: after a refusal
more pairs are drawn, or the issuer fails as no store does. -/
theorem refused_of_same_outcome (hr : i.newRecord codes now request s.drawn = .ok r)
    (hq : i.newRecord codes' now request t.drawn = .ok q) (hdrawn : s.drawn = t.drawn)
    (hsame : outcome (i.attempt codes now request (left + 1) s) =
      outcome (i.attempt codes' now request (left + 1) t))
    (hrefused : (s.store.insertIfAbsent now r).1.value = .ok false) :
    (t.store.insertIfAbsent now q).1.value = .ok false := by
  by_contra hsettled
  rw [attempt_of_refused left hr hrefused, outcome_of_settled left hq hsettled] at hsame
  obtain ⟨hvalue, hnumber⟩ := Prod.mk.inj hsame
  obtain ⟨second, hsecond, _⟩ := newRecord_eq_ok_iff.1 hr
  rcases drawn_lt_or_exhausted hsecond left ⟨_, s.drawn + 1⟩ with hlt | hexhausted
  · have hmore := hlt.trans_eq hnumber
    dsimp only at hmore
    omega
  · dsimp only at hvalue
    rw [hexhausted] at hvalue
    cases hanswer : (t.store.insertIfAbsent now q).1.value with
    | ok stored =>
      rw [hanswer] at hvalue
      cases hvalue
    | error f =>
      rw [hanswer] at hvalue
      obtain rfl := Except.error.inj hvalue
      exact t.store.insertIfAbsent_ne_refused now q _ hanswer

/-- The first insert of attempts that come to the same has the same answer. -/
theorem answer_of_same_outcome (hr : i.newRecord codes now request s.drawn = .ok r)
    (hq : i.newRecord codes' now request t.drawn = .ok q) (hdrawn : s.drawn = t.drawn)
    (hsame : outcome (i.attempt codes now request (left + 1) s) =
      outcome (i.attempt codes' now request (left + 1) t)) :
    (s.store.insertIfAbsent now r).1.value = (t.store.insertIfAbsent now q).1.value := by
  by_cases hrefused : (s.store.insertIfAbsent now r).1.value = .ok false
  · rw [hrefused, refused_of_same_outcome hr hq hdrawn hsame hrefused]
  · have hother : (t.store.insertIfAbsent now q).1.value ≠ .ok false :=
      fun h => hrefused (refused_of_same_outcome hq hr hdrawn.symm hsame.symm h)
    rw [outcome_of_settled left hr hrefused, outcome_of_settled left hq hother] at hsame
    have hvalue := (Prod.mk.inj hsame).1
    revert hrefused hother hvalue
    generalize (s.store.insertIfAbsent now r).1.value = v
    generalize (t.store.insertIfAbsent now q).1.value = w
    intro hv hw hvw
    match v, w with
    | .ok true, .ok true => rfl
    | .error f, .error f' => rw [Except.error.inj hvw]
    | .ok false, _ => exact absurd rfl hv
    | _, .ok false => exact absurd rfl hw

/-! ## Two issuers -/

/-- Two records with the same masks, whose inserts come to the same in stores of one kind, are told
in the same lines. -/
theorem lines_insertIfAbsent_congr (hkind : s.store.isShared = t.store.isShared)
    (hdevice : Mask.id r.deviceCode = Mask.id q.deviceCode)
    (huser : Mask.userCode r.userCode = Mask.userCode q.userCode)
    (hvalue : (s.store.insertIfAbsent now r).1.value = (t.store.insertIfAbsent now q).1.value) :
    Event.lines (s.store.insertIfAbsent now r).1.events =
      Event.lines (t.store.insertIfAbsent now q).1.events := by
  rw [Store.events_insertIfAbsent, Store.events_insertIfAbsent, hkind, hvalue]
  match (t.store.insertIfAbsent now q).1.value with
  | .ok true => rfl
  | .error _ => rfl
  | .ok false =>
    simp only [Store.insertEvents]
    split
    · rw [Event.lines_sharedCollision, Event.lines_sharedCollision, hdevice, huser]
    · rfl

/-- Two records that are made of the codes of one number have the same masks. -/
theorem masks_of_newRecord (hcodes : codes.SameMasks codes') (hdrawn : s.drawn = t.drawn)
    (hr : i.newRecord codes now request s.drawn = .ok r)
    (hq : i.newRecord codes' now request t.drawn = .ok q) :
    Mask.id r.deviceCode = Mask.id q.deviceCode ∧
      Mask.userCode r.userCode = Mask.userCode q.userCode := by
  obtain ⟨_, _, rfl⟩ := newRecord_eq_ok_iff.1 hr
  obtain ⟨_, _, rfl⟩ := newRecord_eq_ok_iff.1 hq
  rw [hdrawn]
  exact ⟨hcodes.device t.drawn, hcodes.user t.drawn⟩

/-- Attempts that come to the same write the same lines. -/
theorem lines_attempt_congr (hcodes : codes.SameMasks codes')
    (hkind : s.store.isShared = t.store.isShared) (hdrawn : s.drawn = t.drawn)
    (hsame : outcome (i.attempt codes now request left s) =
      outcome (i.attempt codes' now request left t)) :
    Event.lines (i.attempt codes now request left s).1.events =
      Event.lines (i.attempt codes' now request left t).1.events := by
  induction left generalizing s t with
  | zero => rfl
  | succ left ih =>
    cases hr : i.newRecord codes now request s.drawn with
    | error f =>
      -- Both meet the same reading of the clock, which has no whole second.
      have hq : i.newRecord codes' now request t.drawn = .error f :=
        newRecord_eq_error_iff.2 (newRecord_eq_error_iff.1 hr)
      simp only [attempt, hr, hq]
    | ok r =>
      obtain ⟨second, hsecond, _⟩ := newRecord_eq_ok_iff.1 hr
      obtain ⟨q, hq⟩ : ∃ q, i.newRecord codes' now request t.drawn = .ok q :=
        ⟨_, newRecord_eq_ok_iff.2 ⟨second, hsecond, rfl⟩⟩
      obtain ⟨hdevice, huser⟩ := masks_of_newRecord hcodes hdrawn hr hq
      have hanswer := answer_of_same_outcome hr hq hdrawn hsame
      have hfirst := lines_insertIfAbsent_congr hkind hdevice huser hanswer
      cases hinsert : (s.store.insertIfAbsent now r).1.value with
      | error f =>
        rw [attempt_of_failed left hr hinsert, attempt_of_failed left hq (hanswer ▸ hinsert)]
        exact hfirst
      | ok stored =>
        cases stored with
        | true =>
          rw [attempt_of_stored left hr hinsert, attempt_of_stored left hq (hanswer ▸ hinsert)]
          dsimp only
          rw [Event.lines_append, Event.lines_append, hfirst, Event.lines_codesGenerated,
            Event.lines_codesGenerated, hdevice, huser]
        | false =>
          rw [attempt_of_refused left hr hinsert,
            attempt_of_refused left hq (hanswer ▸ hinsert)] at hsame ⊢
          have hrest := ih (by simpa using hkind) (congrArg (· + 1) hdrawn) hsame
          dsimp only
          rw [Event.lines_append, Event.lines_append, Event.lines_cons, Event.lines_cons, hfirst,
            hrest]

theorem isShared_attempt (left : Nat) (s : Issuance) :
    (i.attempt codes now request left s).2.store.isShared = s.store.isShared :=
  attempt_keeps (P := fun t => t.store.isShared = s.store.isShared)
    (fun t r ht _ => (t.store.isShared_insertIfAbsent now r).trans ht) left rfl

end Issuer

/-! ## Runs -/

/-- What an issuer and its store are asked to do. -/
inductive IssuerCall
  | issue (request : AuthorizationRequest)
  | getByDeviceCode (code : String)
  | getByUserCode (code : String)
  | delete (code : String)
  | deleteExpired

/-- Calls at one reading of the clock that may differ in the codes that they ask for. -/
inductive IssuerCall.Alike : Instant × IssuerCall → Instant × IssuerCall → Prop
  | issue (now : Instant) (request : AuthorizationRequest) :
    Alike (now, .issue request) (now, .issue request)
  | getByDeviceCode (now : Instant) (code code' : String) :
    Alike (now, .getByDeviceCode code) (now, .getByDeviceCode code')
  | getByUserCode (now : Instant) (code code' : String) :
    Alike (now, .getByUserCode code) (now, .getByUserCode code')
  | delete (now : Instant) (code code' : String) : Alike (now, .delete code) (now, .delete code')
  | deleteExpired (now : Instant) : Alike (now, .deleteExpired) (now, .deleteExpired)

/-- What a call comes to, as far as it bears on the log: of an issue the result without the codes
and how many pairs have been drawn, of a sweep how many records it removed. -/
inductive Outcome
  | issued (result : Except Failure Unit) (drawn : Nat)
  | swept (result : Except Failure Nat)
  | quiet
deriving DecidableEq

namespace Issuer

variable {i : Issuer} {codes codes' : CodeSource} {s t : Issuance} {c c' : Instant × IssuerCall}

/-- What a call comes to and tells, and the store after it. -/
def perform (i : Issuer) (codes : CodeSource) (s : Issuance) (c : Instant × IssuerCall) :
    Logged Outcome × Issuance :=
  match c.2 with
  | .issue request =>
    let issued := i.issue codes c.1 request s
    (issued.1.map fun _ => .issued (outcome issued).1 (outcome issued).2, issued.2)
  | .getByDeviceCode _ => (.silent .quiet, s)
  | .getByUserCode _ => (.silent .quiet, s)
  | .delete code => (.silent .quiet, { s with store := (s.store.delete code).2 })
  | .deleteExpired =>
    let swept := s.store.deleteExpired c.1
    (swept.1.map .swept, { s with store := swept.2 })

/-- What a sequence of calls comes to and tells. -/
def transcript (i : Issuer) (codes : CodeSource) :
    Issuance → List (Instant × IssuerCall) → List (Logged Outcome)
  | _, [] => []
  | s, c :: cs => (i.perform codes s c).1 :: i.transcript codes (i.perform codes s c).2 cs

/-- The log of a sequence of calls. -/
def log (told : List (Logged Outcome)) : List (LogLevel × String) :=
  told.flatMap fun x => Event.lines x.events

/-- Calls that are alike and come to the same write the same lines, and leave as many pairs drawn
and stores of one kind behind. -/
theorem perform_congr (hcodes : codes.SameMasks codes') (hcall : IssuerCall.Alike c c')
    (hkind : s.store.isShared = t.store.isShared) (hdrawn : s.drawn = t.drawn)
    (hsame : (i.perform codes s c).1.value = (i.perform codes' t c').1.value) :
    Event.lines (i.perform codes s c).1.events = Event.lines (i.perform codes' t c').1.events ∧
    (i.perform codes s c).2.store.isShared = (i.perform codes' t c').2.store.isShared ∧
    (i.perform codes s c).2.drawn = (i.perform codes' t c').2.drawn := by
  cases hcall with
  | issue now request =>
    obtain ⟨hresult, hnumber⟩ := Outcome.issued.inj hsame
    refine ⟨lines_attempt_congr hcodes hkind hdrawn (Prod.ext hresult hnumber), ?_, hnumber⟩
    simp only [perform, issue, isShared_attempt, hkind]
  | getByDeviceCode now code code' => exact ⟨rfl, hkind, hdrawn⟩
  | getByUserCode now code code' => exact ⟨rfl, hkind, hdrawn⟩
  | delete now code code' => exact ⟨rfl, by simpa [perform] using hkind, hdrawn⟩
  | deleteExpired now =>
    have hresult : (s.store.deleteExpired now).1.value = (t.store.deleteExpired now).1.value :=
      Outcome.swept.inj hsame
    refine ⟨?_, by simpa [perform] using hkind, hdrawn⟩
    simp only [perform, Logged.map, Store.events_deleteExpired, hkind, hresult]

/-- Two runs of one issuer over stores of one kind, in which the calls are alike and come to the
same, and in which the user codes that are drawn have the same length and the same first half and
the device codes are longer than eight characters and have the same ends, write the same lines. -/
theorem log_shows_masks_only (i : Issuer) (codes codes' : CodeSource) (s t : Issuance)
    (calls calls' : List (Instant × IssuerCall)) (hcodes : codes.Alike codes')
    (hkind : s.store.isShared = t.store.isShared) (hdrawn : s.drawn = t.drawn)
    (hcalls : List.Forall₂ IssuerCall.Alike calls calls')
    (hsame : (i.transcript codes s calls).map (·.value) =
      (i.transcript codes' t calls').map (·.value)) :
    log (i.transcript codes s calls) = log (i.transcript codes' t calls') := by
  induction hcalls generalizing s t with
  | nil => rfl
  | cons hcall _ ih =>
    obtain ⟨hfirst, hrest⟩ := List.cons.inj hsame
    obtain ⟨hlines, hkind, hdrawn⟩ := perform_congr hcodes.sameMasks hcall hkind hdrawn hfirst
    simp only [log, transcript, List.flatMap_cons] at ih ⊢
    rw [hlines, ih _ _ hkind hdrawn hrest]

/-- A source that draws its first device code twice and its second one from then on, each with one
user code, which ends in the given choices. -/
def sampleCodes (first second : String) (ending : List (Fin 32)) : CodeSource where
  device k := if k < 2 then first else second
  user k := Code.userCode ([7, 11, 13, if k < 2 then 17 else 19] ++ ending)

/-- A shared store without keys, and no pair drawn. -/
def sampleStart : Issuance := ⟨.shared ⟨.empty, "device_flow"⟩, 0⟩

/-- A sweep, three issues and other calls about a device code. -/
def sampleCalls (code : String) : List (Instant × IssuerCall) :=
  [(.whole 0, .deleteExpired), (.whole 1, .issue ⟨"tv", .empty, .empty⟩),
    (.whole 2, .issue ⟨"tv", .empty, .empty⟩), (.whole 3, .issue ⟨"tv", .empty, .empty⟩),
    (.whole 3, .getByDeviceCode code), (.whole 3, .delete code)]

/-- What the sample calls come to and tell where an issuer has two attempts. -/
def sampleTranscript (codes : CodeSource) (code : String) : List (Logged Outcome) :=
  (Issuer.mk 600 2).transcript codes sampleStart (sampleCalls code)

/-- The first issue needs one attempt, the second one two, and the third one runs out of them. -/
def sampleOutcomes : List Outcome :=
  [.swept (.ok 0), .issued (.ok ()) 1, .issued (.ok ()) 3,
    .issued (.error (.refused (.exhausted 2))) 5, .quiet, .quiet]

/-- Codes for the sample calls. -/
def someCodes : CodeSource := sampleCodes "abcd-first-wxyz" "dcba-second-wxyz" [0, 1, 2, 3]

/-- Other codes that look like them. -/
def otherCodes : CodeSource := sampleCodes "abcdefghijwxyz" "dcba wxyz" [31, 30, 29, 28]

/-- The log of the sample calls is the same for both. -/
theorem log_shows_masks_only_of_refusals :
    someCodes.Alike otherCodes ∧
    (sampleTranscript someCodes "dcba-second-wxyz").map (·.value) = sampleOutcomes ∧
    (sampleTranscript otherCodes "unknown").map (·.value) = sampleOutcomes ∧
    log (sampleTranscript someCodes "dcba-second-wxyz") =
      log (sampleTranscript otherCodes "unknown") := by
  have halike : someCodes.Alike otherCodes := by
    constructor
    · intro k
      dsimp only [someCodes, otherCodes, sampleCodes]
      split <;> decide
    · exact fun _ => ⟨_, _, rfl, rfl, rfl, by simp⟩
  have hcalls : List.Forall₂ IssuerCall.Alike (sampleCalls "dcba-second-wxyz")
      (sampleCalls "unknown") := by
    repeat' constructor
  have hsome : (sampleTranscript someCodes "dcba-second-wxyz").map (·.value) = sampleOutcomes := by
    decide +kernel
  have hother : (sampleTranscript otherCodes "unknown").map (·.value) = sampleOutcomes := by
    decide +kernel
  exact ⟨halike, hsome, hother, log_shows_masks_only _ someCodes otherCodes sampleStart sampleStart
    _ _ halike rfl rfl hcalls (hsome.trans hother.symm)⟩

end Issuer

end DeviceGrant
