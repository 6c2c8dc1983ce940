import Mathlib.Data.List.Basic

/-!
The part of the `UniValue` JSON library that the stratum server reads. Numbers keep the text
they were written with, as `UniValue` stores them; `read` and `write` belong to the library and
enter the server model as parameters.
-/

namespace Wattx.Json

inductive UniValue
  | null
  | bool (b : Bool)
  | num (repr : String)
  | str (s : String)
  | arr (values : List UniValue)
  | obj (entries : List (String × UniValue))
  deriving Repr, Inhabited

namespace UniValue

def existsKey : UniValue → String → Bool
  | .obj entries, key => entries.any (·.1 == key)
  | _, _ => false

def get : UniValue → String → UniValue
  | .obj entries, key => ((entries.find? (·.1 == key)).map (·.2)).getD .null
  | _, _ => .null

def getStr : UniValue → Option String
  | .str s => some s
  | _ => none

def isNull : UniValue → Bool
  | .null => true
  | _ => false

def isStr : UniValue → Bool
  | .str _ => true
  | _ => false

@[simp] theorem getStr_str (s : String) : (UniValue.str s).getStr = some s := rfl

@[simp] theorem isStr_str (s : String) : (UniValue.str s).isStr = true := rfl

@[simp] theorem existsKey_obj (entries : List (String × UniValue)) (key : String) :
    (UniValue.obj entries).existsKey key = entries.any (·.1 == key) := rfl

@[simp] theorem get_obj (entries : List (String × UniValue)) (key : String) :
    (UniValue.obj entries).get key = ((entries.find? (·.1 == key)).map (·.2)).getD .null := rfl

end UniValue

end Wattx.Json
