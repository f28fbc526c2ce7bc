import Plateau.Data.Value

namespace Plateau

mutual

def Value.above (low : Option Value) : Value → Value
  | .record fs =>
    match low with
    | some (.record below) => .record (Fields.overlay below fs)
    | _ => .record fs
  | v => v

/-- The fields of `low` with others laid over them. -/
def Fields.overlay (low : Fields) : List (String × Value) → Fields
  | [] => low
  | (key, v) :: rest => Fields.overlay (low.set key (v.above (low.get? key))) rest

end

end Plateau
