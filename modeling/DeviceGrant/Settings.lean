import DeviceGrant.Settings.EnvFile
import DeviceGrant.Text.Word
set_option autoImplicit false

/-! # Settings

A deployment is described by thirteen settings. The value of a setting is the first that is given:
directly, by the environment, by the environment file, and else its default. Names in the
environment count in either case. A rejected description tells every setting that does not fit. -/

namespace DeviceGrant

/-- The kinds of store that a deployment may keep its records in. -/
inductive StoreKind
  | memory
  | shared
deriving DecidableEq, Repr

namespace StoreKind

/-- The word for a kind of store. -/
def word : StoreKind → String
  | memory => "memory"
  | shared => "redis"

/-- The kind of store of a word in either case. -/
def ofWord? (s : String) : Option StoreKind :=
  let w := Text.lowerAscii s
  if w = memory.word then some memory else if w = shared.word then some shared else none

end StoreKind

/-- The settings of a deployment. -/
structure Settings where
  apiPrefix : String
  corsOrigins : String
  clientsConfigPath : Option String
  expirySeconds : Int
  pollInterval : Int
  verificationPath : String
  maxAttempts : Int
  sweepIntervalSeconds : Int
  store : StoreKind
  redisUrl : String
  redisKeyPrefix : String
  logLevel : String
  logFormat : String
deriving DecidableEq, Repr

namespace Settings

/-- The name of the structure in reports. -/
def subject : String := "DeviceAuthSettings"

/-- The layout of log lines by default. -/
def defaultLogFormat : String :=
  "%(asctime)s,p%(process)s,\x7b%(filename)s:%(lineno)d\x7d,%(levelname)s,%(message)s"

/-! ## Rules -/

/-- Checks the kind of store. -/
def checkStore (v : Value) : Checked StoreKind := do
  let s ← Check.text v
  match StoreKind.ofWord? s with
  | some kind => return kind
  | none =>
    Checked.issue (.rule ("device_code_store must be one of ['memory', 'redis'], got '" ++ s ++ "'"))

/-- Checks a whole number above zero. -/
def checkPositive (v : Value) : Checked Int := do
  let n ← Check.int v
  if 0 < n then return n
  else Checked.issue (.rule ("value must be a positive integer, got " ++ toString n))

/-- A text without the slashes at both ends. -/
def stripSlashes (s : String) : String :=
  Text.withoutEndSlashes (String.ofList (s.toList.dropWhile (· = '/')))

/-- Checks a verification path, which is one or more segments. -/
def checkVerificationPath (v : Value) : Checked String := do
  let s ← Check.text v
  let stripped := stripSlashes s
  if stripped.isEmpty then Checked.issue (.rule "device_verification_path must not be empty")
  else return stripped

/-- Checks a description and all of its settings. -/
def check (es : List (Value × Value)) : Checked Settings :=
  let paths := Checked.combine (fun a b => (a, b))
    (.combine (fun a b => (a, b)) (Check.optional "auth_server_api_prefix" "" Check.text es)
      (Check.optional "cors_origins" "*" Check.text es))
    (Check.optional "clients_config_path" none Check.optionalText es)
  let times := Checked.combine (fun a b => (a, b))
    (Check.optional "device_code_expiry_seconds" 600 checkPositive es)
    (Check.optional "device_code_poll_interval" 2 checkPositive es)
  let path := Check.optional "device_verification_path" "user_verify" checkVerificationPath es
  let counts := Checked.combine (fun a b => (a, b))
    (Check.optional "max_code_generation_attempts" 10 checkPositive es)
    (Check.optional "device_code_sweep_interval_seconds" 60 Check.int es)
  let stores := Checked.combine (fun a b => (a, b))
    (.combine (fun a b => (a, b)) (Check.optional "device_code_store" .memory checkStore es)
      (Check.optional "redis_url" "redis://localhost:6379/1" Check.text es))
    (Check.optional "redis_key_prefix" "device_auth" Check.text es)
  let logs := Checked.combine (fun a b => (a, b))
    (Check.optional "log_level" "INFO" Check.text es)
    (Check.optional "log_format" defaultLogFormat Check.text es)
  .combine (fun f l => f l)
    (.combine (fun f s => f s)
      (.combine (fun f c => f c)
        (.combine (fun f p => f p)
          (.combine
            (fun ((a, b), c) (d, e) p (m, w) ((s, u), k) (l, g) =>
              Settings.mk a b c d e p m w s u k l g)
            paths times)
          path)
        counts)
      stores)
    logs

/-! ## Sources -/

/-- The names of the settings. -/
def names : List String :=
  ["auth_server_api_prefix", "cors_origins", "clients_config_path", "device_code_expiry_seconds",
    "device_code_poll_interval", "device_verification_path", "max_code_generation_attempts",
    "device_code_sweep_interval_seconds", "device_code_store", "redis_url", "redis_key_prefix",
    "log_level", "log_format"]

/-- A name of the environment in the case of the settings. -/
def envName (s : String) : String :=
  String.ofList (s.toList.map fun c => if c.toNat = 0x212A then 'k' else c.toLower)

/-- The value of a setting in an environment; of several spellings the last counts. -/
def fromEnv? (env : List (String × Option String)) (name : String) : Option Value :=
  match env.reverse.find? fun e => envName e.1 = name with
  | some (_, some v) => some (.text v)
  | _ => none

/-- The first value of a setting that is given. -/
def given? (values : List (Value × Value)) (env : List (String × Option String))
    (file : List (String × Option String)) (name : String) : Option Value :=
  match Value.field? name values with
  | some v => some v
  | none =>
    match fromEnv? env name with
    | some v => some v
    | none => fromEnv? file name

/-- The settings of a deployment that is described by values, an environment and the text of an
environment file. -/
def load (values : List (Value × Value)) (env : List (String × String)) (file : Option String) :
    Except Rejection Settings :=
  let vars := env.map fun e => (e.1, some e.2)
  let bindings := match file with
    | some s => EnvFile.read env s
    | none => []
  let entries := names.filterMap fun n =>
    (given? values vars bindings n).map fun v => (Value.text n, v)
  (check entries).refuseAs subject

/-! ## What settings say -/

/-- A path in its shortest spelling: no empty segments and no segments that are a point. Two
slashes at the front stay, more count as one. -/
def normalizePath (s : String) : String :=
  let cs := s.toList
  let slashes := (cs.takeWhile (· = '/')).length
  let root := if slashes = 0 then "" else if slashes = 2 then "//" else "/"
  let segments := (Text.splitText '/' s).filter fun p => p ≠ "" && p ≠ "."
  let path := root ++ String.intercalate "/" segments
  if path.isEmpty then "." else path

/-- The path of the clients file. -/
def clientsFilePath (s : Settings) : String :=
  match s.clientsConfigPath with
  | some p => if p.isEmpty then "config/clients.yml" else normalizePath p
  | none => "config/clients.yml"

/-- The API prefix without slashes at its end. -/
def routePrefix (s : Settings) : String :=
  Text.withoutEndSlashes s.apiPrefix

/-- The origins that may call the service from a browser. -/
def origins (s : Settings) : List String :=
  if s.corsOrigins = "*" then ["*"] else (Text.splitText ',' s.corsOrigins).map Text.trim

end Settings

end DeviceGrant
