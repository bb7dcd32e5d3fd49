import LiveTrader.Text.Blank

/-!
  LiveTrader.Credentials

  The key and the secret for an exchange's private operations, looked up by names
  that are derived from the exchange's name.
-/

namespace LiveTrader

/-- Finds the value of a variable by its name. -/
abbrev Lookup := String → Option String

/-- A lookup in a list of variables. -/
def Lookup.ofList (pairs : List (String × String)) : Lookup :=
  fun name => pairs.lookup name

/-- A key and its secret. -/
structure Credentials where
  apiKey : String
  apiSecret : String
  deriving DecidableEq

namespace Credentials

/-- The tag of an exchange in variable names: ASCII letters and digits in upper case,
    anything else an underscore. -/
def tagChars (exchange : String) : List Char :=
  (Text.trimChars exchange.toList).map fun c => if c.isAlphanum then c.toUpper else '_'

/-- The variable that holds the key for an exchange. -/
def keyVariable (exchange : String) : String :=
  String.ofList (tagChars exchange ++ "_API_KEY".toList)

/-- The variable that holds the secret for an exchange. -/
def secretVariable (exchange : String) : String :=
  String.ofList (tagChars exchange ++ "_API_SECRET".toList)

/-- The value of a variable, unless it is blank. -/
def present? (lookup : Lookup) (name : String) : Option String :=
  (lookup name).filter fun v => !Text.isBlankText v

/-- The credentials for an exchange; `none` if either variable is missing or blank. -/
def ofLookup? (exchange : String) (lookup : Lookup) : Option Credentials := do
  let key ← present? lookup (keyVariable exchange)
  let secret ← present? lookup (secretVariable exchange)
  return ⟨key, secret⟩

/-- A description that reveals nothing. -/
def describe (_ : Credentials) : String :=
  "ApiCredentials \x7b api_key: \"***\", api_secret: \"***\" \x7d"

end Credentials

end LiveTrader
