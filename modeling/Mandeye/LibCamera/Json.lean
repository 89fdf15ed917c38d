/-! JSON values and the ways in which the camera program reads them. -/
namespace Mandeye

/-- A value as the library holds it. Integers with and without a sign are kept apart. -/
inductive Json where
  | null
  | boolean (value : Bool)
  | numberInteger (value : Int64)
  | numberUnsigned (value : UInt64)
  | numberFloat (value : Float)
  | string (value : String)
  | array (values : List Json)
  | object (members : List (String × Json))

namespace Json

/-- The name of a type in the messages of the library. -/
def typeName : Json → String
  | .null => "null"
  | .boolean _ => "boolean"
  | .numberInteger _ => "number"
  | .numberUnsigned _ => "number"
  | .numberFloat _ => "number"
  | .string _ => "string"
  | .array _ => "array"
  | .object _ => "object"

/-- The member which `contains` looks for and the brackets then select. -/
def member (key : String) : Json → Option Json
  | .object members => members.lookup key
  | _ => none

/-- The value with a member taken out of it. -/
def without (key : String) : Json → Json
  | .object members => .object (members.filter fun member => member.1 ≠ key)
  | json => json

/-- The exception for a value of the wrong type. -/
def typeError (number what : String) (json : Json) : Except String α :=
  .error ("[json.exception.type_error." ++ number ++ "] " ++ what ++ json.typeName)

/-- A text is not converted from anything. -/
def getString : Json → Except String String
  | .string value => .ok value
  | json => json.typeError "302" "type must be string, but is "

/-- Any number, and a boolean, is converted by a cast. -/
def getInt32 : Json → Except String Int32
  | .numberUnsigned value => .ok value.toUInt32.toInt32
  | .numberInteger value => .ok value.toInt32
  | .numberFloat value => .ok value.toInt32
  | .boolean value => .ok (if value then 1 else 0)
  | json => json.typeError "302" "type must be number, but is "

/-- The same without a sign. -/
def getUInt32 : Json → Except String UInt32
  | .numberUnsigned value => .ok value.toUInt32
  | .numberInteger value => .ok value.toInt32.toUInt32
  | .numberFloat value => .ok value.toUInt32
  | .boolean value => .ok (if value then 1 else 0)
  | json => json.typeError "302" "type must be number, but is "

/-- The member or, if it is missing, the default. A member of another type throws, and
so does a value without members. -/
def value (key default : String) : Json → Except String String
  | .object members =>
      match members.lookup key with
      | some json => json.getString
      | none => .ok default
  | json => json.typeError "306" "cannot use value() with "

/-- The keys and values of a loop over all items. -/
def items : Json → List (String × Json)
  | .null => []
  | .object members => members
  | .array values => values.zipIdx.map fun (json, index) => (toString index, json)
  | json => [("", json)]

def isString : Json → Bool
  | .string _ => true
  | _ => false

def isObject : Json → Bool
  | .object _ => true
  | _ => false

/-- A number, or a boolean, which is read as zero or one. -/
def isNumeric : Json → Bool
  | .numberUnsigned _ => true
  | .numberInteger _ => true
  | .numberFloat _ => true
  | .boolean _ => true
  | _ => false

theorem member_without (key other : String) (json : Json) :
    (json.without key).member other = if other = key then none else json.member other := by
  cases json with
  | object members =>
      simp only [without, member]
      induction members with
      | nil => simp
      | cons first rest ih =>
          rw [List.filter_cons]
          by_cases hKey : first.1 = key
          · rw [if_neg (by simp [hKey]), ih, List.lookup_cons, hKey]
            by_cases hOther : other = key
            · simp [hOther]
            · simp [hOther, beq_false_of_ne hOther]
          · rw [if_pos (by simp [hKey]), List.lookup_cons, List.lookup_cons, ih]
            by_cases hFirst : other = first.1
            · simp [hFirst, hKey]
            · simp [beq_false_of_ne hFirst]
  | _ => simp [without, member]

/-- Only a text can be read as one. -/
theorem getString_isOk (json : Json) : json.getString.isOk = json.isString := by
  cases json <;> rfl

/-- What must be there for a default to be of use. -/
theorem value_isOk (key default : String) (json : Json) :
    (json.value key default).isOk = (json.isObject && (json.member key).all isString) := by
  cases json with
  | object members =>
      simp only [value, isObject, member, Bool.true_and]
      cases members.lookup key with
      | none => rfl
      | some json => exact json.getString_isOk
  | _ => rfl

/-- What can be read as a number, with a sign or without. -/
theorem getInt32_isOk (json : Json) : json.getInt32.isOk = json.isNumeric := by
  cases json <;> rfl

theorem getUInt32_isOk (json : Json) : json.getUInt32.isOk = json.isNumeric := by
  cases json <;> rfl

end Json

end Mandeye
