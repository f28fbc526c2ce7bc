namespace Plateau

/-- A document value.  Fields keep the order in which they were first given. -/
inductive Value where
  | null
  | bool (b : Bool)
  | int (n : Int)
  | float (x : Float)
  | text (s : String)
  | list (items : List Value)
  | record (fields : List (String × Value))
  | moment (text : String)
  deriving Inhabited

def Value.isNull : Value → Bool
  | .null => true
  | _ => false

abbrev Fields := List (String × Value)

namespace Fields

def get? (key : String) : Fields → Option Value
  | [] => none
  | (k, v) :: rest => if k == key then some v else get? key rest

/-- Overwrites the value of `key` where it stands, or adds the field at the end. -/
def set (key : String) (value : Value) : Fields → Fields
  | [] => [(key, value)]
  | (k, v) :: rest => if k == key then (k, value) :: rest else (k, v) :: set key value rest

def update (old new : Fields) : Fields :=
  new.foldl (fun acc kv => acc.set kv.1 kv.2) old

/-- Adds the fields of `new` to `old`, an equal key overwriting: the last one counts. -/
def ofPairs (pairs : List (String × Value)) : Fields :=
  update [] pairs

@[simp] theorem get?_nil (key : String) : get? key [] = none := rfl

theorem get?_set_self (key : String) (value : Value) (fields : Fields) :
    get? key (set key value fields) = some value := by
  induction fields with
  | nil => simp [set, get?]
  | cons kv rest ih => by_cases h : kv.1 = key <;> simp [set, get?, h, ih]

theorem get?_set_of_ne {key other : String} (h : key ≠ other) (value : Value) (fields : Fields) :
    get? other (set key value fields) = get? other fields := by
  induction fields with
  | nil => simp [set, get?, h]
  | cons kv rest ih => by_cases hk : kv.1 = key <;> simp_all [set, get?]

end Fields

end Plateau
