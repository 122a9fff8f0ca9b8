import PaymentChannel.Text.Quoted

/-! Reports of refused operations: a kind, which tells what a caller can do about it, and a text. -/
namespace PaymentChannel

namespace Report

inductive Kind
  | scriptFormat
  | mismatch
  | timelockRange
  | transferQuantity
  | undefinedRole
  | signatureVerification
  | oracleUnavailable
  | missingState
  | snapshot
deriving DecidableEq

end Report

structure Report where
  kind : Report.Kind
  text : String
deriving DecidableEq

namespace Report
namespace Kind

def all : List Kind := [.scriptFormat, .mismatch, .timelockRange, .transferQuantity, .undefinedRole,
  .signatureVerification, .oracleUnavailable, .missingState, .snapshot]

def name : Kind → String
  | .scriptFormat => "ScriptFormat"
  | .mismatch => "Mismatch"
  | .timelockRange => "TimelockRange"
  | .transferQuantity => "TransferQuantity"
  | .undefinedRole => "UndefinedRole"
  | .signatureVerification => "SignatureVerification"
  | .oracleUnavailable => "OracleUnavailable"
  | .missingState => "MissingState"
  | .snapshot => "Snapshot"

def ofName? (name : String) : Option Kind := all.find? (·.name == name)

def heading : Kind → String
  | .scriptFormat => "script format: "
  | .mismatch => "script template mismatch: "
  | .timelockRange => "timelock out of range: "
  | .transferQuantity => "invalid transfer quantity: "
  | .undefinedRole => "undefined role: "
  | .signatureVerification => "signature verification failed: "
  | .oracleUnavailable => "oracle unavailable: "
  | .missingState => "missing channel state: "
  | .snapshot => "malformed snapshot: "

end Kind

/-- Only a failing oracle may answer later. -/
def isTemporary (report : Report) : Bool := report.kind == .oracleUnavailable

def prepend (front : String) (report : Report) : Report :=
  { report with text := front ++ report.text }

def summary (report : Report) : String := report.kind.heading ++ report.text

/-- The kind's name around the quoted text. -/
def display (report : Report) : String := s!"{report.kind.name}({Text.quoted report.text})"

end Report
end PaymentChannel
