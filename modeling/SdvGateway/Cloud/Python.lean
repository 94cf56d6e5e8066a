import SdvGateway.Common.Json
import SdvGateway.Library.Execution

/-! What the cloud functions use of Python: JSON values are dicts, lists and
scalars, and a wrong access raises. The JSON reader and the texts of values that
are not strings are parameters. -/
namespace SdvGateway.Cloud
open Common

/-- The exceptions that the code can meet, all of them caught by `except Exception`. -/
inductive PyError where
  | keyError (key : Str)
  | indexError
  | typeError
  | valueError
  | attributeError
  | clientError
deriving DecidableEq

/-- A `str` of Unicode scalar values, in UTF-8. -/
structure PyStr where
  utf8 : Str
  valid : isUtf8 utf8 = true

/-- `str` is the text of a value that is not a string, `percent` that of a number
under `.0%`. -/
structure Python where
  loads : Str → Except PyError Json
  loads_empty : loads [0x7B, 0x7D] = .ok (.object [])
  dumps : Json → Str
  str : Json → Str
  percent : Json → Str
  message : PyError → Str

namespace Python

def get (j : Json) (key : Str) (default : Json) : Except PyError Json :=
  match j with
  | .object members => .ok ((Json.member? key members).getD default)
  | _ => .error .attributeError

def item (j : Json) (key : Str) : Except PyError Json :=
  match j with
  | .object members =>
    match Json.member? key members with
    | some value => .ok value
    | none => .error (.keyError key)
  | _ => .error .typeError

def firstLength : Str → Nat
  | [] => 0
  | byte :: _ => if byte < 0x80 then 1 else if byte < 0xE0 then 2 else if byte < 0xF0 then 3 else 4

def first (j : Json) : Except PyError Json :=
  match j with
  | .array [] | .string [] => .error .indexError
  | .array (item :: _) => .ok item
  | .string s => .ok (.string (s.take (firstLength s)))
  | .object _ => .error (.keyError (lit "0"))
  | _ => .error .typeError

theorem member?_eq_none {key : Str} {members : List (Str × Json)}
    (h : key ∉ members.map Prod.fst) : Json.member? key members = none := by
  induction members with
  | nil => rfl
  | cons entry rest ih =>
    obtain ⟨name, value⟩ := entry
    rw [List.map_cons, List.mem_cons, not_or] at h
    have hne : name ≠ key := fun heq => h.1 heq.symm
    rw [Json.member?, if_neg hne]
    exact ih h.2

def replaceMember (key : Str) (value : Json) : List (Str × Json) → List (Str × Json)
  | [] => [(key, value)]
  | (name, old) :: rest =>
    if name = key then (name, value) :: rest else (name, old) :: replaceMember key value rest

theorem member?_replaceMember (key : Str) (value : Json) (members : List (Str × Json)) :
    Json.member? key (replaceMember key value members) = some value := by
  induction members with
  | nil => simp [replaceMember, Json.member?]
  | cons entry rest ih =>
    obtain ⟨name, old⟩ := entry
    by_cases hname : name = key
    · simp [replaceMember, Json.member?, hname]
    · simp [replaceMember, Json.member?, hname, ih]

theorem member?_replaceMember_of_ne {key other : Str} (hne : key ≠ other) (value : Json)
    (members : List (Str × Json)) :
    Json.member? other (replaceMember key value members) = Json.member? other members := by
  induction members with
  | nil => simp [replaceMember, Json.member?, hne]
  | cons entry rest ih =>
    obtain ⟨name, old⟩ := entry
    by_cases hname : name = key
    · simp [replaceMember, Json.member?, hname, hne]
    · simp [replaceMember, Json.member?, hname, ih]

def setItem (j : Json) (key : Str) (value : Json) : Except PyError Json :=
  match j with
  | .object members => .ok (.object (replaceMember key value members))
  | _ => .error .typeError

def truthy : Json → Bool
  | .null => false
  | .boolean value => value
  | .integer value => value ≠ 0
  | .float value => value.bits &&& 0x7FFFFFFFFFFFFFFF#64 ≠ 0
  | .string value => value ≠ []
  | .array items => !items.isEmpty
  | .object members => !members.isEmpty

def equalsText (j : Json) (text : Str) : Bool :=
  match j with
  | .string value => value = text
  | _ => false

/-- `json.loads(j)`, which takes nothing but texts. -/
def loadsValue (python : Python) (j : Json) : Except PyError Json :=
  match j with
  | .string text => python.loads text
  | _ => .error .typeError

def format (python : Python) (j : Json) : Str :=
  match j with
  | .string text => text
  | other => python.str other

def formatPercent (python : Python) (j : Json) : Except PyError Str :=
  match j with
  | .boolean _ | .integer _ | .float _ => .ok (python.percent j)
  | .string _ => .error .valueError
  | _ => .error .typeError

end Python

end SdvGateway.Cloud
