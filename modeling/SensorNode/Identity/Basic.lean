import SensorNode.Log

/-!
# Device identity

A device identity is a record of nine indices. An index has eleven bits; larger numbers wrap. A
token carries the record signed; a device without a token announces `unregistered` instead.
-/

namespace SensorNode.Identity

/-- The number of values an index can take. -/
def indexSpace : Nat := 2048

structure Record where
  role : UInt16 := 0
  kind : UInt16 := 1
  name : UInt16 := 1
  version : UInt16 := 1
  model : UInt16 := 1
  prodDate : UInt16 := 1
  actDate : UInt16 := 1
  expiryDate : UInt16 := 1
  sku : UInt16 := 1
deriving DecidableEq, Repr

/-- What a device announces that has no token. -/
def unregistered : String := "UNREGISTERED-DEV-KEY"

/-- Why a token group is no index, or why a whole token is refused. -/
inductive TokenFault where
  | badGroup (group : String)
  | groupCount (found : Nat)
deriving DecidableEq, Repr

inductive IdentityError where
  | unavailable (reason : String)
  | malformed (fault : TokenFault)
  | checksumMismatch
deriving DecidableEq, Repr

namespace TokenFault

def message : TokenFault → String
  | badGroup group => "bad group '" ++ group ++ "'"
  | groupCount found => "expected 12 groups, found " ++ toString found

end TokenFault

namespace IdentityError

def message : IdentityError → String
  | unavailable reason => "Identity issuer unavailable: " ++ reason
  | malformed fault => "Invalid identity token: " ++ fault.message
  | checksumMismatch => "Identity token checksum mismatch"

end IdentityError

/-- A source of tokens. -/
abbrev Issuer := Record → Except IdentityError String

/-- An issued token, or `unregistered` when none can be had. -/
def resolve (issuer : Issuer) (record : Record) : String :=
  match issuer record with
  | .ok token => token
  | .error _ => unregistered

/-- What is logged when a token is asked for. -/
def resolveRecords (issuer : Issuer) (record : Record) : List Log.Record :=
  match issuer record with
  | .ok _ => []
  | .error error =>
    [Log.warning ("Identity generation failed, using sentinel: " ++ error.message)]

end SensorNode.Identity
