/-!
# TOML values

What a TOML document can hold. Numbers with a fraction or exponent, dates and times keep their text;
tables keep their keys in the order in which they were first named.
-/

namespace ModuleHints.Toml

/-- A value of a TOML document. -/
inductive Value where
  /-- A text. -/
  | string (text : String)
  /-- A whole number. -/
  | integer (value : Int)
  /-- A number with a fraction or exponent, or one that is infinite or undefined. -/
  | float (text : String)
  /-- True or false. -/
  | boolean (value : Bool)
  /-- A date, a time, or both. -/
  | moment (text : String)
  /-- A list of values. -/
  | array (items : List Value)
  /-- Named values. -/
  | table (entries : List (String × Value))
  deriving Repr, Inhabited

/-- Named values. -/
abbrev Table := List (String × Value)

/-- Whether a value is made of others. -/
def Value.isContainer : Value → Bool
  | .array _ | .table _ => true
  | _ => false

namespace Table

/-- The value of a key. -/
def get? (t : Table) (key : String) : Option Value := t.lookup key

/-- The table with another value for a key that it has, or with a new key at its end. -/
def set (t : Table) (key : String) (value : Value) : Table :=
  if (t.get? key).isSome then t.map fun e => if e.1 = key then (key, value) else e
  else t ++ [(key, value)]

/-- Changes the table that a path of keys leads to, making tables where there is nothing. With
`throughArrays` the path goes on in the last table of an array. Nothing is changed where the path meets
any other value, or where the change is refused. -/
def change (throughArrays : Bool) (f : Table → Option Table) : List String → Table → Option Table
  | [], t => f t
  | key :: path, t =>
    match t.get? key with
    | none => (change throughArrays f path []).map fun inner => t.set key (.table inner)
    | some (.table inner) => (change throughArrays f path inner).map fun inner => t.set key (.table inner)
    | some (.array items) =>
      match throughArrays, items.getLast? with
      | true, some (.table inner) =>
        (change throughArrays f path inner).map fun inner =>
          t.set key (.array (items.dropLast ++ [.table inner]))
      | _, _ => none
    | some _ => none

end Table

end ModuleHints.Toml
