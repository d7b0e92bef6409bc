import Storefront.Money
import Storefront.Text.Ascii
import Storefront.Text.Blank

/-! # Settings

The service is set up by variables of its environment.  A variable that is not set or
cannot be read leaves the setting as it is by default.
-/
namespace Storefront

/-- How the log is written. -/
inductive LogFormat where
  | pretty
  | json
  deriving DecidableEq

namespace LogFormat

/-- The format of a name, in any case and with space around it. -/
def parse (text : String) : Except String LogFormat :=
  match Text.asciiLower (Text.trim text) with
  | "pretty" | "text" => .ok pretty
  | "json" => .ok json
  | other => .error s!"unknown log format: {other}"

/-- The name of the format. -/
def name : LogFormat → String
  | pretty => "Pretty"
  | json => "Json"

end LogFormat

/-- The settings of the service. -/
structure Config where
  host : String := "0.0.0.0"
  port : UInt16 := 3000
  logLevel : String := "info"
  logFormat : LogFormat := .pretty
  seedSampleData : Bool := true
  defaultCurrency : String := "USD"
  deriving DecidableEq

namespace Config

/-- Reads a truth value in one of its usual spellings. -/
def parseBool? (text : String) : Option Bool :=
  match Text.asciiLower (Text.trim text) with
  | "1" | "true" | "yes" | "on" => some true
  | "0" | "false" | "no" | "off" => some false
  | _ => none

/-- Reads a port: decimal digits, with or without a plus sign before them. -/
def parsePort? (text : String) : Option UInt16 :=
  let digits := match text.toList with
    | '+' :: rest => rest
    | cs => cs
  let n := digits.foldl (fun n c => n * 10 + (c.toNat - 0x30)) 0
  if !digits.isEmpty && digits.all Char.isDigit && n < UInt16.size then some (UInt16.ofNat n)
  else none

/-- Reads a currency code. -/
def parseCurrency? (text : String) : Option String :=
  let code := Text.asciiUpper (Text.trim text)
  if Currency.isCode code then some code else none

/-- The settings that an environment gives. -/
def ofEnvironment (lookup : String → Option String) : Config :=
  let defaults : Config := {}
  { host := (lookup "HOST").getD defaults.host
    port := ((lookup "PORT").bind parsePort?).getD defaults.port
    logLevel := (lookup "RUST_LOG").getD defaults.logLevel
    logFormat :=
      ((lookup "LOG_FORMAT").bind fun s => (LogFormat.parse s).toOption).getD defaults.logFormat
    seedSampleData :=
      ((lookup "SEED_SAMPLE_DATA").bind parseBool?).getD defaults.seedSampleData
    defaultCurrency :=
      ((lookup "DEFAULT_CURRENCY").bind parseCurrency?).getD defaults.defaultCurrency }

/-- Host and port, as an address to listen at. -/
def address (c : Config) : String := s!"{c.host}:{c.port}"

end Config

end Storefront
