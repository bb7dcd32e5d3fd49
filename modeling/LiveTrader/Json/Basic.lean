import LiveTrader.Binary64.Basic

/-!
  LiveTrader.Json.Basic

  JSON values.  A number is a whole number of the 64-bit ranges or a binary
  floating-point number; the members of an object are kept in ascending order of
  their keys, each key once, so equal objects are equal lists.
-/

namespace LiveTrader

/-- A JSON value. -/
inductive Json where
  | null
  | bool (b : Bool)
  | int (n : Int)
  | float (x : Binary64)
  | str (s : String)
  | arr (items : List Json)
  | obj (members : List (String × Json))

namespace Json

instance : Inhabited Json := ⟨null⟩

/-! ## Equality -/

mutual

/-- Structural equality. -/
def same : Json → Json → Bool
  | null, null => true
  | bool a, bool b => a == b
  | int a, int b => a == b
  | float a, float b => a == b
  | str a, str b => a == b
  | arr a, arr b => sameItems a b
  | obj a, obj b => sameMembers a b
  | _, _ => false

/-- Structural equality of lists of values. -/
def sameItems : List Json → List Json → Bool
  | [], [] => true
  | a :: as, b :: bs => same a b && sameItems as bs
  | _, _ => false

/-- Structural equality of lists of members. -/
def sameMembers : List (String × Json) → List (String × Json) → Bool
  | [], [] => true
  | (j, a) :: as, (k, b) :: bs => j == k && same a b && sameMembers as bs
  | _, _ => false

end

instance : BEq Json := ⟨same⟩

/-! ## Objects -/

/-- Puts a member into a list sorted by key, in place of one with the same key. -/
def insertMember (key : String) (value : Json) :
    List (String × Json) → List (String × Json)
  | [] => [(key, value)]
  | (k, v) :: rest =>
    if key = k then (key, value) :: rest
    else if key < k then (key, value) :: (k, v) :: rest
    else (k, v) :: insertMember key value rest

/-- Sorts members by key; of a repeated key the last member stays. -/
def sortMembers (members : List (String × Json)) : List (String × Json) :=
  members.foldl (fun sorted (k, v) => insertMember k v sorted) []

/-- The object with these members. -/
def object (members : List (String × Json)) : Json :=
  obj (sortMembers members)

/-- Adds or replaces a member of an object; other values stay as they are. -/
def setMember (v : Json) (key : String) (value : Json) : Json :=
  match v with
  | obj members => obj (insertMember key value members)
  | v => v

/-- The member with this key, `none` also for a value that is no object. -/
def get? (key : String) : Json → Option Json
  | obj members => members.lookup key
  | _ => none

/-! ## Views -/

/-- The text of a string. -/
def asText? : Json → Option String
  | str s => some s
  | _ => none

/-- The flag of a boolean. -/
def asBool? : Json → Option Bool
  | bool b => some b
  | _ => none

/-- The items of an array. -/
def asItems? : Json → Option (List Json)
  | arr items => some items
  | _ => none

/-- A whole number of the signed 64-bit range.  Fractions are not whole numbers even
    if their fraction is zero. -/
def asSigned64? : Json → Option Int
  | int n => if n < pow2 63 then some n else none
  | _ => none

/-- Whether a value is `null`. -/
def isNull : Json → Bool
  | null => true
  | _ => false

/-- Whether a value is an object. -/
def isObject : Json → Bool
  | obj _ => true
  | _ => false

/-! ## Building -/

/-- A present value, or `null`. -/
def ofOption {α : Type} (encode : α → Json) : Option α → Json
  | some a => encode a
  | none => null

/-- An array of texts. -/
def texts (items : List String) : Json :=
  arr (items.map str)

/-- A natural number. -/
def nat (n : Nat) : Json :=
  int n

end Json

end LiveTrader
