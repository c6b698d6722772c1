/-
Settings of the process, read from variables.

Variables are looked at in a fixed order, and the first that cannot be used is reported.
-/
import Switchboard.Net.Address
import Switchboard.Text.Lowercase

namespace Switchboard

/-- How the log is written. -/
inductive LogFormat
  | json
  | pretty
deriving DecidableEq, Repr

def LogFormat.text : LogFormat → String
  | json => "json"
  | pretty => "pretty"

/-- The settings of a process. -/
structure Settings where
  configFile : String
  /-- Where the admin service is offered, if it is. -/
  adminAddress : Option SocketAddress
  logLevel : String
  logFormat : LogFormat
  /-- The limit of listeners that set none. -/
  maxConnections : Nat
  strictValidation : Bool
deriving Repr

/-- Why variables give no settings. -/
inductive SettingsFault
  | noConfigFile
  | badAdminAddress
  | badLogFormat (given : String)
  | badMaxConnections (reason : Numeral.Fault)
deriving DecidableEq, Repr

def SettingsFault.message : SettingsFault → String
  | noConfigFile => "Missing config file. Set MP_CONFIG_FILE."
  | badAdminAddress =>
    "MP_ADMIN_ADDR must be a socket address (example: 127.0.0.1:1234).: " ++ Address.faultMessage
  | badLogFormat given => "MP_LOG_FORMAT must be \"json\" or \"pretty\", got \"" ++ given ++ "\"."
  | badMaxConnections reason => "MP_MAX_CONNECTIONS must be an integer.: " ++ reason.message

/-- The limit of connections where nothing else is said. -/
def defaultMaxConnections : Nat := 10000

namespace Settings

/-- Where the admin service is offered by default. -/
def defaultAdminAddress : String := "127.0.0.1:1234"

/-- Reads the address of the admin service. Blanks alone turn the service off. -/
def readAdminAddress (given : Option String) : Except SettingsFault (Option SocketAddress) :=
  let text := given.getD defaultAdminAddress
  if text.toList.all fun c => Unicode.whiteSpace.contains c.toNat then
    if given.isSome then .ok none else .error .badAdminAddress
  else
    match Address.parse? text with
    | some address => .ok (some address)
    | none => .error .badAdminAddress

def readLogFormat : Option String → Except SettingsFault LogFormat
  | none | some "json" => .ok .json
  | some "pretty" => .ok .pretty
  | some other => .error (.badLogFormat other)

/-- Reads the limit of connections, which is at least one. -/
def readMaxConnections : Option String → Except SettingsFault Nat
  | none => .ok defaultMaxConnections
  | some text =>
    match Numeral.readNat Numeral.word64 text with
    | .ok n => .ok (max n 1)
    | .error reason => .error (.badMaxConnections reason)

def readStrict : Option String → Bool
  | none => false
  | some text => text == "1" || Text.lowercase text == "true"

/-- The settings that variables give. -/
def ofVariables (lookup : String → Option String) : Except SettingsFault Settings := do
  let configFile ← match lookup "MP_CONFIG_FILE" with
    | some file => pure file
    | none => .error .noConfigFile
  let adminAddress ← readAdminAddress (lookup "MP_ADMIN_ADDR")
  let logFormat ← readLogFormat (lookup "MP_LOG_FORMAT")
  let maxConnections ← readMaxConnections (lookup "MP_MAX_CONNECTIONS")
  return {
    configFile
    adminAddress
    logLevel := (lookup "MP_LOG_LEVEL").getD "info"
    logFormat
    maxConnections
    strictValidation := readStrict (lookup "MP_STRICT_VALIDATION") }

end Settings

end Switchboard
