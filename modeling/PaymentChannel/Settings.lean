/-! Settings taken from environment variables: the deployment and the level of the log. -/
namespace PaymentChannel

inductive LogLevel
  | off
  | error
  | warn
  | info
  | debug
  | trace
deriving DecidableEq

namespace LogLevel

def all : List LogLevel := [.off, .error, .warn, .info, .debug, .trace]

def name : LogLevel → String
  | .off => "OFF"
  | .error => "ERROR"
  | .warn => "WARN"
  | .info => "INFO"
  | .debug => "DEBUG"
  | .trace => "TRACE"

/-- Names may be written in either case; only ASCII letters have two. -/
def ofName? (name : String) : Option LogLevel := all.find? (·.name == name.map Char.toUpper)

def unknown (name : String) : String := s!"invalid log level: {name}"

def filterName (level : LogLevel) : String := level.name.map Char.toLower

end LogLevel

abbrev Environment := List (String × String)

namespace Environment

def deployment (env : Environment) : String := (env.lookup "DEPLOYMENT_ENV").getD "DEVELOPMENT"

/-- A value that is no level counts as none. -/
def logLevel? (env : Environment) : Option LogLevel :=
  env.lookup "PICO_LOG_LEVEL" >>= LogLevel.ofName?

def filterLevel (env : Environment) : LogLevel := env.logLevel?.getD .info

def holds (env : Environment) (name value : String) : Bool := env.lookup name == some value

end Environment
end PaymentChannel
