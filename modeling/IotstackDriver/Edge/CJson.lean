import IotstackDriver.Libc.Strings

/-! The parts of a parsed cJSON document the driver reads. -/

namespace IotstackDriver.Edge

open Libc

/-- A `cJSON` item, a number with its `valuedouble`. -/
inductive CJson where
  | null
  | bool (value : Bool)
  | number (valuedouble : Rat)
  | string (valuestring : CString)
  | array (items : List CJson)
  | object (members : List (CString × CJson))

namespace CJson

def intMax : Int := 2147483647
def intMin : Int := -2147483648

/-- The part of a number before its point, saturated to an `int`. -/
def truncated (number : Rat) : Int :=
  if intMax ≤ number then intMax
  else if number ≤ intMin then intMin
  else number.num.tdiv number.den

def valueint : CJson → Int
  | bool true => 1
  | number valuedouble => truncated valuedouble
  | _ => 0

/-- `none` is the `NULL` pointer of an item that is not a string. -/
def valuestring : CJson → Option CString
  | string valuestring => some valuestring
  | _ => none

def tolower (byte : UInt8) : UInt8 := if 65 ≤ byte && byte ≤ 90 then byte + 32 else byte

def caseInsensitiveEqual (left right : CString) : Bool :=
  left.bytes.map tolower == right.bytes.map tolower

/-- The first member of that name, whatever the case of its letters. -/
def getObjectItem (item : CJson) (name : String) : Option CJson :=
  match item with
  | object members =>
    (members.find? fun member => caseInsensitiveEqual (.literal name) member.1).map Prod.snd
  | _ => none

end CJson

end IotstackDriver.Edge
