import SdvGateway.Common.Types

/-! The part of the JSON library that the gateway calls. Values, accessors, their
exceptions and the compact serializer follow the library; the parser and the
decimal text of a floating-point number are parameters. -/
namespace SdvGateway.Common

/-- A JSON value. The members of an object stand in the order of the library's
container: by key in `nlohmann::json`, as read in a `rapidjson::Document`. -/
inductive Json where
  | null
  | boolean (value : Bool)
  | integer (value : Int)
  | float (value : Double)
  | string (value : Str)
  | array (items : List Json)
  | object (members : List (Str × Json))

/-- The exceptions derived from `json::exception` that the gateway can meet. -/
inductive JsonError where
  | parseError
  | typeError
  | outOfRange
deriving DecidableEq

namespace Json

def member? (key : Str) : List (Str × Json) → Option Json
  | [] => none
  | (name, value) :: rest => if name = key then some value else member? key rest

def at_ (j : Json) (key : Str) : Except JsonError Json :=
  match j with
  | .object members =>
    match member? key members with
    | some value => .ok value
    | none => .error .outOfRange
  | _ => .error .typeError

def getString (j : Json) : Except JsonError Str :=
  match j with
  | .string value => .ok value
  | _ => .error .typeError

def valueString (j : Json) (key fallback : Str) : Except JsonError Str :=
  match j with
  | .object members =>
    match member? key members with
    | some value => value.getString
    | none => .ok fallback
  | _ => .error .typeError

/-- `j.value(key, fallback)` with a JSON value as the default -/
def valueJson (j : Json) (key : Str) (fallback : Json) : Except JsonError Json :=
  match j with
  | .object members =>
    match member? key members with
    | some value => .ok value
    | none => .ok fallback
  | _ => .error .typeError

mutual

def printable : Json → Bool
  | .string value => isUtf8 value
  | .array items => printableItems items
  | .object members => printableMembers members
  | _ => true

def printableItems : List Json → Bool
  | [] => true
  | item :: rest => item.printable && printableItems rest

def printableMembers : List (Str × Json) → Bool
  | [] => true
  | (key, value) :: rest => isUtf8 key && value.printable && printableMembers rest

end

mutual

/-- The calls of the serializer that stand on the stack at once. -/
def depth : Json → Nat
  | .array items => depthItems items + 1
  | .object members => depthMembers members + 1
  | _ => 1

def depthItems : List Json → Nat
  | [] => 0
  | item :: rest => max item.depth (depthItems rest)

def depthMembers : List (Str × Json) → Nat
  | [] => 0
  | (_, value) :: rest => max value.depth (depthMembers rest)

end

/-- Into the ordered container. Of two members with one key the later one stays. -/
def insertMember (key : Str) (value : Json) : List (Str × Json) → List (Str × Json)
  | [] => [(key, value)]
  | (name, old) :: rest =>
    if key < name then (key, value) :: (name, old) :: rest
    else if key = name then (name, old) :: rest
    else (name, old) :: insertMember key value rest

mutual

def byKey : Json → Json
  | .array items => .array (byKeyItems items)
  | .object members => .object (byKeyMembers members)
  | scalar => scalar

def byKeyItems : List Json → List Json
  | [] => []
  | item :: rest => item.byKey :: byKeyItems rest

def byKeyMembers : List (Str × Json) → List (Str × Json)
  | [] => []
  | (key, value) :: rest => insertMember key value.byKey (byKeyMembers rest)

end

end Json

def hexDigit (n : UInt8) : UInt8 := if n < 10 then 48 + n else 87 + n

/-- One byte of a well-formed string: control characters, the quotation mark
and the backslash are escaped, everything else is copied. -/
def escapeByte (byte : UInt8) : Str :=
  if byte = 0x08 then [0x5C, 0x62]
  else if byte = 0x09 then [0x5C, 0x74]
  else if byte = 0x0A then [0x5C, 0x6E]
  else if byte = 0x0C then [0x5C, 0x66]
  else if byte = 0x0D then [0x5C, 0x72]
  else if byte = 0x22 then [0x5C, 0x22]
  else if byte = 0x5C then [0x5C, 0x5C]
  else if byte ≤ 0x1F then
    [0x5C, 0x75, 0x30, 0x30, hexDigit (byte / 16), hexDigit (byte % 16)]
  else [byte]

def quoted (s : Str) : Str := 0x22 :: s.flatMap escapeByte ++ [0x22]

def natText (n : Nat) : Str := (Nat.toDigits 10 n).map fun c => UInt8.ofNat c.toNat

def intText : Int → Str
  | .ofNat n => natText n
  | .negSucc n => 0x2D :: natText (n + 1)

/-- The parser, which rejects ill-formed texts with a `parse_error`, and the
shortest decimal text of a finite double. -/
structure JsonText where
  parse : Str → Except JsonError Json
  floatText : Double → Str

namespace JsonText

mutual

def compact (text : JsonText) : Json → Str
  | .null => lit "null"
  | .boolean value => if value then lit "true" else lit "false"
  | .integer value => intText value
  | .float value => if value.isFinite then text.floatText value else lit "null"
  | .string value => quoted value
  | .array [] => lit "[]"
  | .array (item :: rest) => 0x5B :: text.compact item ++ text.compactItems rest
  | .object [] => [0x7B, 0x7D]
  | .object ((key, value) :: rest) =>
    0x7B :: quoted key ++ 0x3A :: text.compact value ++ text.compactMembers rest

def compactItems (text : JsonText) : List Json → Str
  | [] => [0x5D]
  | item :: rest => 0x2C :: text.compact item ++ text.compactItems rest

def compactMembers (text : JsonText) : List (Str × Json) → Str
  | [] => [0x7D]
  | (key, value) :: rest =>
    0x2C :: quoted key ++ 0x3A :: text.compact value ++ text.compactMembers rest

end

/-- `j.dump()`, which throws on a string that is not UTF-8. It is the result on a stack
that holds the recursion of the serializer, see `dumpOn_eq`. -/
def dump (text : JsonText) (j : Json) : Except JsonError Str :=
  if j.printable then .ok (text.compact j) else .error .typeError

/-- A call of the serializer throws, returns its text, or overflows the stack with
its recursion, and then the process is gone. -/
abbrev Written := ExceptT JsonError Option Str

def overflow : Written := ExceptT.mk none

def writeString (s : Str) : Written := if isUtf8 s then pure (quoted s) else throw .typeError

mutual

/-- The serializer on a stack with room for so many of its calls. -/
def dumpOn (text : JsonText) : Nat → Json → Written
  | 0, _ => overflow
  | _ + 1, .null => pure (lit "null")
  | _ + 1, .boolean value => pure (if value then lit "true" else lit "false")
  | _ + 1, .integer value => pure (intText value)
  | _ + 1, .float value =>
    pure (if value.isFinite then text.floatText value else lit "null")
  | _ + 1, .string value => writeString value
  | _ + 1, .array [] => pure (lit "[]")
  | stack + 1, .array (item :: rest) => do
    let first ← text.dumpOn stack item
    let others ← text.dumpItemsOn stack rest
    return 0x5B :: first ++ others
  | _ + 1, .object [] => pure [0x7B, 0x7D]
  | stack + 1, .object ((key, value) :: rest) => do
    let name ← writeString key
    let first ← text.dumpOn stack value
    let others ← text.dumpMembersOn stack rest
    return 0x7B :: name ++ 0x3A :: first ++ others

def dumpItemsOn (text : JsonText) (stack : Nat) : List Json → Written
  | [] => pure [0x5D]
  | item :: rest => do
    let first ← text.dumpOn stack item
    let others ← text.dumpItemsOn stack rest
    return 0x2C :: first ++ others

def dumpMembersOn (text : JsonText) (stack : Nat) : List (Str × Json) → Written
  | [] => pure [0x7D]
  | (key, value) :: rest => do
    let name ← writeString key
    let first ← text.dumpOn stack value
    let others ← text.dumpMembersOn stack rest
    return 0x2C :: name ++ 0x3A :: first ++ others

end

end JsonText

end SdvGateway.Common
