/-
Values of TOML.

A document is a table, which keeps its keys in the order in which they were written.
-/

namespace StaticSite.Toml

/-- A value. -/
inductive Value where
  | text (s : String)
  | integer (n : Int)
  /-- A number with a fraction or an exponent, in the form in which it is shown. -/
  | real (shown : String)
  | boolean (b : Bool)
  /-- A date, a time or both, as it is written. -/
  | moment (written : String)
  | array (items : List Value)
  | table (entries : List (String × Value))

namespace Value

/-- The value of a key in a list of entries. -/
def find? (key : String) (entries : List (String × Value)) : Option Value :=
  (entries.find? fun entry => entry.1 == key).map (·.2)

/-- The entries of a table. -/
def entries? : Value → Option (List (String × Value))
  | .table entries => some entries
  | _ => none

/-- The entries with a new value for a key. -/
def put (key : String) (value : Value) : List (String × Value) → List (String × Value)
  | [] => [(key, value)]
  | (k, v) :: rest => if k = key then (k, value) :: rest else (k, v) :: put key value rest

/-- The entries with a value at a path of keys; what is no table on the way becomes one. -/
def putAt (value : Value) : List String → List (String × Value) → List (String × Value)
  | [], entries => entries
  | [key], entries => put key value entries
  | key :: path, entries =>
    put key (.table (putAt value path (((find? key entries).bind entries?).getD []))) entries

/-- A key that has been set has its value. -/
theorem find?_put_self (key : String) (value : Value) (entries : List (String × Value)) :
    find? key (put key value entries) = some value := by
  induction entries with
  | nil => simp [put, find?]
  | cons entry rest ih =>
    obtain ⟨k, v⟩ := entry
    by_cases h : k = key
    · simp [put, find?, h]
    · have other : (k == key) = false := by simpa using h
      simp only [put, find?, h, if_false, List.find?_cons, other]
      exact ih

end Value

end StaticSite.Toml
