import DeviceGrant.Http.Site
import DeviceGrant.Sweeper
set_option autoImplicit false

/-! # Deployments

A deployment puts the service together from settings: its store, its issuer and what its answers
say by default. It carries the state between requests and the reading of its clock. Its site is set
up when it is first needed, and a site that cannot be set up is tried again at the next need.

While the site is up, a sweeper removes expired records in the background, unless its interval is
zero or less. -/

namespace DeviceGrant

/-- The store of a deployment; a shared one is tried before it is used. -/
def Store.forSettings (s : Settings) (service : KeyValueService) : Logged (Except Failure Store) :=
  match s.store with
  | .memory => .silent (.ok (.memory .empty))
  | .shared =>
    match service.failure with
    | none => ⟨.ok (.shared ⟨service, s.redisKeyPrefix⟩), [.storeConnected s.redisUrl]⟩
    | some m => ⟨.error (.setup m), [.storeConnectionFailed s.redisUrl m]⟩

/-- The issuer of a deployment. -/
def Issuer.forSettings (s : Settings) : Issuer := ⟨s.expirySeconds, s.maxAttempts⟩

/-- The service of a deployment. -/
def Service.forSettings (s : Settings) (codes : CodeSource) : Service where
  issuer := .forSettings s
  codes := codes
  defaultInterval := s.pollInterval
  verificationPath := s.verificationPath

/-- A running deployment. -/
structure Deployment where
  settings : Settings
  service : Service
  state : ServiceState
  now : Instant
  site : Option Http.Site

namespace Deployment

/-- Starts a deployment with a registry, the sources of its codes and the key-value service that a
shared store may use. -/
def start (s : Settings) (registry : Registry) (codes : CodeSource) (now : Instant)
    (service : KeyValueService) : Logged (Except Failure Deployment) :=
  (Store.forSettings s service).map fun opened => opened.map fun store =>
    ⟨s, .forSettings s codes, ⟨registry, ⟨store, 0⟩⟩, now, none⟩

/-- The store of a deployment. -/
def store (d : Deployment) : Store := d.state.issuance.store

/-- A deployment with another store. -/
def withStore (d : Deployment) (store : Store) : Deployment :=
  { d with state := { d.state with issuance := { d.state.issuance with store } } }

/-- A deployment with another registry. -/
def withRegistry (d : Deployment) (registry : Registry) : Deployment :=
  { d with state := { d.state with registry } }

/-- The site of a deployment, set up where that has not been done. -/
def openSite (d : Deployment) : Logged (Except Failure Http.Site) × Deployment :=
  match d.site with
  | some site => (.silent (.ok site), d)
  | none =>
    let started := Http.Site.start d.settings
    match started.value with
    | .ok site => (started, { d with site := some site })
    | .error _ => (started, d)

/-- Answers a request. -/
def handle (d : Deployment) (r : Http.Request) : Logged (Except Failure Http.Reply) × Deployment :=
  let (site, d) := d.openSite
  match site.value with
  | .error f => (⟨.error f, site.events⟩, d)
  | .ok s =>
    let (reply, state) := s.handle d.service d.now r d.state
    (⟨.ok reply.value, site.events ++ reply.events⟩, { d with state })

/-- Authorizes a request that comes with its parameters read. -/
def authorize (d : Deployment) (parameters : Table String) (principal : Option Principal)
    (context : RequestContext) : Logged (Except Failure DeviceResponse) × Deployment :=
  let (answer, state) := d.service.authorize d.now parameters principal context d.state
  (answer, { d with state })

/-- Brings the site up and takes it down again, and says at which interval the sweeper ran, if it
did. -/
def lifespan (d : Deployment) : Logged (Except Failure (Option Int)) × Deployment :=
  let (site, d) := d.openSite
  match site.value with
  | .error f => (⟨.error f, site.events⟩, d)
  | .ok _ =>
    let interval := d.settings.sweepIntervalSeconds
    if interval ≤ 0 then (⟨.ok none, site.events⟩, d)
    else
      let (run, _, store) := Sweeper.run (.whole interval) 0 d.now d.store
      (⟨.ok (some interval), site.events ++ run.events⟩, d.withStore store)

/-- Lets the sweeper run for a number of rounds. -/
def sweepRounds (d : Deployment) (interval : Instant) (n : Nat) :
    Logged (List Nat) × Deployment :=
  let (run, now, store) := Sweeper.run interval n d.now d.store
  (run, { d.withStore store with now })

end Deployment

end DeviceGrant
