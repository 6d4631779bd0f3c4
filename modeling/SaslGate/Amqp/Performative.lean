/-
The five frames of the SASL layer and the performatives they carry. A
performative has a number and a symbol, and either may announce it on the
wire; both are read off one list, so they cannot name different frames.
-/
import SaslGate.Bytes

namespace SaslGate

/-- Result code of a SASL exchange. -/
inductive SaslCode
  | ok
  | auth
  | sys
  | sysPerm
  | sysTemp
  deriving DecidableEq, Repr

namespace SaslCode

/-- Every code, in the order of their numbers. -/
def all : List SaslCode := [ok, auth, sys, sysPerm, sysTemp]

/-- The byte of a code on the wire. -/
def toByte : SaslCode → UInt8
  | ok => 0
  | auth => 1
  | sys => 2
  | sysPerm => 3
  | sysTemp => 4

/-- The code of a byte. -/
def ofByte? (b : UInt8) : Option SaslCode := all.find? fun c => c.toByte == b

/-- The name of a code. -/
def name : SaslCode → String
  | ok => "Ok"
  | auth => "Auth"
  | sys => "Sys"
  | sysPerm => "SysPerm"
  | sysTemp => "SysTemp"

end SaslCode

/-- What kind of frame a body is. -/
inductive Performative
  | mechanisms
  | init
  | challenge
  | response
  | outcome
  deriving DecidableEq, Repr

namespace Performative

/-- Every performative, in the order of their numbers. -/
def all : List Performative :=
  [mechanisms, init, challenge, response, outcome]

/-- The number that announces a performative. -/
def code : Performative → UInt8
  | mechanisms => 0x40
  | init => 0x41
  | challenge => 0x42
  | response => 0x43
  | outcome => 0x44

/-- The name of a performative, which shows nothing of its payload. -/
def name : Performative → String
  | mechanisms => "sasl-mechanisms"
  | init => "sasl-init"
  | challenge => "sasl-challenge"
  | response => "sasl-response"
  | outcome => "sasl-outcome"

/-- The symbol that announces a performative. -/
def symbol (p : Performative) : String := "amqp:" ++ p.name ++ ":list"

/-- The performative of a number. -/
def ofCode? (n : Nat) : Option Performative :=
  all.find? fun p => p.code.toNat == n

/-- The performative of a symbol. -/
def ofSymbol? (s : String) : Option Performative :=
  all.find? fun p => p.symbol == s

end Performative

/-- The body of a SASL frame. -/
inductive Frame
  /-- The mechanisms a server offers. -/
  | mechanisms (names : List String)
  /-- The client's choice of one, with its first message. -/
  | init (mechanism : String) (initialResponse : Option Bytes)
      (hostname : Option String)
  | challenge (data : Bytes)
  | response (data : Bytes)
  /-- The end of the exchange. -/
  | outcome (code : SaslCode) (additionalData : Option Bytes)
  deriving DecidableEq, Repr

/-- The kind of a frame. -/
def Frame.performative : Frame → Performative
  | .mechanisms .. => .mechanisms
  | .init .. => .init
  | .challenge .. => .challenge
  | .response .. => .response
  | .outcome .. => .outcome

end SaslGate
