import RowGuard.Fault
import RowGuard.Text.Digit
import RowGuard.Text.Percent

/-!
# Database settings

Where the records application finds its database server. Settings are read from named variables, all of
which have to be set; the port has to be a whole number. `Settings.url` writes them as one URL, in which
every part is encoded as far as its place requires.
-/

namespace RowGuard.Records

/-- How to reach the database server. Any value can be a password. -/
structure Settings where
  user : String
  password : Data
  name : String
  host : String
  port : Int
  sslmode : String
deriving DecidableEq

namespace Settings

/-- The variables that have to be set. -/
def required : List String := ["DB_USER", "DB_PASS", "DB_NAME", "DB_HOST", "DB_PORT", "DB_SSL"]

/-- The value of a variable; null if it is not set. -/
def valueOf (environment : List (String × Data)) (name : String) : Data :=
  (environment.lookup name).getD .null

/-- The required variables that are not set, or set to nothing. -/
def missing (environment : List (String × Data)) : List String :=
  required.filter fun name => !(valueOf environment name).truthy

/-- Reads a port, which is a number or the text of a whole one. -/
def readPort : Data → Except Fault Int
  | .text s => (Text.parseInt s).elim (.error (.argument (.portNotInteger s))) .ok
  | d => (d.number?.bind Number.truncate?).elim (.error (.shape .wrongType)) .ok

/-- Reads the settings from named variables. -/
def ofVariables (environment : List (String × Data)) : Except Fault Settings :=
  if missing environment ≠ [] then .error (.argument (.missingVariables (missing environment)))
  else
    let get := valueOf environment
    match readPort (get "DB_PORT") with
    | .error f => .error f
    | .ok port =>
      match (get "DB_USER").text?, (get "DB_NAME").text?, (get "DB_HOST").text?,
        (get "DB_SSL").text? with
      | some user, some name, some host, some sslmode =>
        .ok ⟨user, get "DB_PASS", name, host, port, sslmode⟩
      | _, _, _, _ => .error (.shape .wrongType)

/-- The driver that is used unless another one is asked for. -/
def standardDriver : String := "postgresql+psycopg"

/-- What is shown in place of the password. -/
def hidden : String := "***"

/-- A user name or password inside a URL. -/
def encodeAccount (s : String) : String :=
  Text.Percent.encode (fun c => c == ' ' || c == '+') s

/-- A database name inside a URL. -/
def encodeName (s : String) : String :=
  Text.Percent.encode (fun c => c == ' ' || c == '+' || c == '/') s

/-- A host inside a URL; one that contains a colon stands in brackets. -/
def encodeHost (s : String) : String :=
  if s.toList.contains ':' then "[" ++ s ++ "]" else s

/-- The settings as a URL, with the password or without. -/
def url (s : Settings) (driver : String) (showPassword : Bool) : String :=
  driver ++ "://" ++ encodeAccount s.user ++ ":" ++
    (if showPassword then encodeAccount s.password.plain else hidden) ++ "@" ++ encodeHost s.host ++ ":" ++
    toString s.port ++ "/" ++ encodeName s.name ++ "?sslmode=" ++
    Text.Percent.encodeQuery s.sslmode

/-- Settings are read exactly when no variable is missing, the port is a number, and all others but
the password are texts. -/
theorem ofVariables_isOk_iff (environment : List (String × Data)) :
    (∃ s, ofVariables environment = .ok s) ↔
      missing environment = [] ∧ (∃ port, readPort (valueOf environment "DB_PORT") = .ok port) ∧
        ∀ name ∈ ["DB_USER", "DB_NAME", "DB_HOST", "DB_SSL"],
          (valueOf environment name).text?.isSome = true := by
  unfold ofVariables
  by_cases h : missing environment = []
  · cases hp : readPort (valueOf environment "DB_PORT") with
    | error f => simp [h, hp]
    | ok port =>
      cases hu : (valueOf environment "DB_USER").text? <;>
        cases hn : (valueOf environment "DB_NAME").text? <;>
        cases hh : (valueOf environment "DB_HOST").text? <;>
        cases hs : (valueOf environment "DB_SSL").text? <;> simp [h, hp, hu, hn, hh, hs]
  · simp [h]

end Settings

end RowGuard.Records
