import DeviceGrant.Text.Octets
set_option autoImplicit false

/-! # User codes and device codes

A user code is short and made to be typed: symbols of an alphabet without the letters and digits
that are easily confused, with a hyphen between its two halves. A device code is made from random
octets and is never typed. -/

namespace DeviceGrant.Code

/-- The symbols of user codes: capitals and digits without `O`, `0`, `I` and `1`. -/
def alphabet : List Char := "ABCDEFGHJKLMNPQRSTUVWXYZ23456789".toList

/-- The symbol of a choice. -/
def symbol (choice : Fin 32) : Char := alphabet.getD choice 'A'

/-- The choice of a random number: its remainder. -/
def choiceOf (draw : Int) : Fin 32 := ⟨(draw % 32).toNat, by omega⟩

/-- Symbols with a hyphen between the two halves, the first half being the shorter one. -/
def hyphenate (symbols : List Char) : List Char :=
  symbols.take (symbols.length / 2) ++ '-' :: symbols.drop (symbols.length / 2)

/-- The user code of a sequence of choices. -/
def userCode (choices : List (Fin 32)) : String := String.ofList (hyphenate (choices.map symbol))

/-- How many choices make up a user code that is issued. -/
def userCodeLength : Nat := 8

/-- The device code of random octets. -/
def deviceCode (octets : List UInt8) : String := String.ofList (Text.base64Url octets)

end DeviceGrant.Code
