import SeriesSql.Keyed
import SeriesSql.Text.Property
import SeriesSql.Time.Duration
import SeriesSql.Url.Basic

/-!
# Configuration

Where the engine is and how requests to it are made, read from the variables of an environment. A
variable that is not set has a default; one that is set must make sense.
-/

namespace SeriesSql

/-- Layers of variables. A variable has its value in the first layer that sets it. -/
abbrev Environment := List (Keyed String)

def Environment.get? (environment : Environment) (name : String) : Option String :=
  environment.findSome? (·.get? name)

def Environment.getOr (environment : Environment) (name default : String) : String :=
  (environment.get? name).getD default

inductive Setting where
  | url
  | user
  | password
  | token
  | timeout
  | maxRetries
  | retryBackoff
deriving DecidableEq, Repr

def Setting.key : Setting → String
  | url => "EXO_QUEST_URL"
  | user => "EXO_QUEST_USER"
  | password => "EXO_QUEST_PASSWORD"
  | token => "EXO_QUEST_TOKEN"
  | timeout => "EXO_QUEST_TIMEOUT_MS"
  | maxRetries => "EXO_QUEST_MAX_RETRIES"
  | retryBackoff => "EXO_QUEST_RETRY_BACKOFF_MS"

/-- How a request says who makes it. -/
inductive Auth where
  | basic (user : String) (password : Option String)
  | bearer (token : String)
deriving DecidableEq, Repr

/-- The text of an authentication that shows no secret. -/
def Auth.redacted : Auth → String
  | basic user _ => s!"Basic({user}, ***)"
  | bearer _ => "Bearer(***)"

/-- How requests are made: the URL of the engine, the longest time of one attempt, the number of
further attempts, and the time before the first of them. -/
structure HttpConfig where
  url : Url
  auth : Option Auth
  timeout : Duration
  maxRetries : Nat
  retryBackoff : Duration

/-- A variable that makes no sense. -/
inductive ConfigError where
  | number (setting : Setting) (value : String)
  | url (setting : Setting) (value : String)
deriving DecidableEq, Repr

def ConfigError.message : ConfigError → String
  | number setting value =>
    s!"Invalid value for {setting.key}: {value}. Expected a non-negative integer"
  | url setting value => s!"Invalid URL for {setting.key}: {value}"

namespace HttpConfig

def ofUrl (url : Url) : HttpConfig :=
  { url
    auth := none
    timeout := .ofMillis 30000
    maxRetries := 3
    retryBackoff := .ofMillis 100 }

/-- The URL of an engine on this computer. -/
def defaultUrl : String := "http://localhost:9000"

/-- A number below a bound, with white space around it, or a default. -/
def number (environment : Environment) (setting : Setting) (bound default : Nat) :
    Except ConfigError Nat :=
  match environment.get? setting.key with
  | none => .ok default
  | some value =>
    match Integer.below? bound (Text.trim value).toList with
    | some n => .ok n
    | none => .error (.number setting value)

/-- The authentication of an environment. A token goes before a user. -/
def auth? (environment : Environment) : Option Auth :=
  match environment.get? Setting.token.key, environment.get? Setting.user.key with
  | some token, _ => some (.bearer token)
  | none, some user => some (.basic user (environment.get? Setting.password.key))
  | none, none => none

def ofEnvironment (environment : Environment) : Except ConfigError HttpConfig := do
  let urlText := environment.getOr Setting.url.key defaultUrl
  match Url.ofText? urlText with
  | none => throw (.url .url urlText)
  | some url =>
    let defaults := ofUrl url
    let timeout ← number environment .timeout UInt64.size defaults.timeout.toMillis
    let maxRetries ← number environment .maxRetries UInt32.size defaults.maxRetries
    let backoff ← number environment .retryBackoff UInt64.size defaults.retryBackoff.toMillis
    return {
      url
      auth := auth? environment
      timeout := .ofMillis timeout
      maxRetries
      retryBackoff := .ofMillis backoff }

end HttpConfig
end SeriesSql
