/-
Reading a document of TOML.

A document is read line by line into a tree in which every table remembers how it came about: by its
own header, as a part of the path of another header, or by a key with points.  A table or a key that
has been given cannot be given again.
-/
import StaticSite.Toml.Quoted
import StaticSite.Toml.Word

namespace StaticSite.Toml

/-! ## Values -/

/-- How a table came about. -/
inductive Origin where
  /-- By its own header. -/
  | header
  /-- On the path of a header. -/
  | path
  /-- By a key with points. -/
  | key
  deriving Repr, DecidableEq

/-- What is known of a key while a document is read. -/
inductive Node where
  | value (v : Value)
  | table (origin : Origin) (entries : List (String × Node))
  | tables (items : List (List (String × Node)))

namespace Node

/-- The node of a key. -/
def find? (key : String) (entries : List (String × Node)) : Option Node :=
  (entries.find? fun entry => entry.1 == key).map (·.2)

/-- The entries with a node for a key. -/
def put (key : String) (node : Node) : List (String × Node) → List (String × Node)
  | [] => [(key, node)]
  | (k, n) :: rest => if k = key then (k, node) :: rest else (k, n) :: put key node rest

mutual

/-- The value of a node. -/
def toValue : Node → Value
  | .value v => v
  | .table _ entries => .table (valuesOf entries)
  | .tables items => .array (tablesOf items)

/-- The values of entries. -/
def valuesOf : List (String × Node) → List (String × Value)
  | [] => []
  | (key, node) :: rest => (key, node.toValue) :: valuesOf rest

/-- The tables of a list. -/
def tablesOf : List (List (String × Node)) → List Value
  | [] => []
  | entries :: rest => .table (valuesOf entries) :: tablesOf rest

end

/-- Set the value of a key of one or more parts.  Tables on its path come about by keys. -/
def setKey (value : Value) (first : Bool) : List String → Origin → List (String × Node) →
    Option (List (String × Node))
  | [], _, _ => none
  | [key], origin, entries =>
    if (find? key entries).isSome || (!first && origin != .key) then none
    else some (put key (.value value) entries)
  | key :: path, _, entries =>
    match find? key entries with
    | none =>
      (setKey value false path .key []).map fun inner => put key (.table .key inner) entries
    | some (.table .header _) => none
    | some (.table origin inner) =>
      (setKey value false path origin inner).map fun changed =>
        put key (.table origin changed) entries
    | some (.tables items) =>
      match items.reverse with
      | last :: before =>
        (setKey value false path .header last).map fun changed =>
          put key (.tables (before.reverse ++ [changed])) entries
      | [] => none
    | some (.value _) => none

/-- Open the table of a header. -/
def openTable : List String → List (String × Node) → Option (List (String × Node))
  | [], _ => none
  | [key], entries =>
    match find? key entries with
    | none => some (put key (.table .header []) entries)
    | some (.table .path inner) => some (put key (.table .header inner) entries)
    | some _ => none
  | key :: path, entries =>
    match (find? key entries).getD (.table .path []) with
    | .table origin inner =>
      (openTable path inner).map fun changed => put key (.table origin changed) entries
    | .tables items =>
      match items.reverse with
      | last :: before =>
        (openTable path last).map fun changed =>
          put key (.tables (before.reverse ++ [changed])) entries
      | [] => none
    | .value _ => none

/-- Add a table to the list of a header in double brackets. -/
def appendTable : List String → List (String × Node) → Option (List (String × Node))
  | [], _ => none
  | [key], entries =>
    match find? key entries with
    | none => some (put key (.tables [[]]) entries)
    | some (.tables items) => some (put key (.tables (items ++ [[]])) entries)
    | some _ => none
  | key :: path, entries =>
    match (find? key entries).getD (.table .path []) with
    | .table origin inner =>
      (appendTable path inner).map fun changed => put key (.table origin changed) entries
    | .tables items =>
      match items.reverse with
      | last :: before =>
        (appendTable path last).map fun changed =>
          put key (.tables (before.reverse ++ [changed])) entries
      | [] => none
    | .value _ => none

/-- Set a key inside of the table of the last header. -/
def setUnder (value : Value) (key : List String) : List String → List (String × Node) →
    Option (List (String × Node))
  | [], entries => setKey value true key .header entries
  | step :: path, entries =>
    match find? step entries with
    | some (.table origin inner) =>
      (setUnder value key path inner).map fun changed => put step (.table origin changed) entries
    | some (.tables items) =>
      match items.reverse with
      | last :: before =>
        (setUnder value key path last).map fun changed =>
          put step (.tables (before.reverse ++ [changed])) entries
      | [] => none
    | _ => none

end Node

mutual

/-- A value; the bound is on the depth and number of its parts. -/
def readValue : Nat → List Char → Option (Value × List Char)
  | 0, _ => none
  | bound + 1, cs =>
    match cs with
    | '[' :: rest => (skipBlank rest).bind (readItems bound [])
    | '\x7b' :: rest =>
      match skipSpace rest with
      | '\x7d' :: after => some (.table [], after)
      | next => readEntries bound [] next
    | c :: _ =>
      if c = '"' ∨ c = '\'' then
        (readString cs).map fun (text, after) => (.text (String.ofList text), after)
      else readWord cs
    | [] => none

/-- The items of an array up to its closing bracket; the last one is kept first. -/
def readItems : Nat → List Value → List Char → Option (Value × List Char)
  | 0, _, _ => none
  | bound + 1, items, cs =>
    match cs with
    | ']' :: after => some (.array items.reverse, after)
    | _ =>
      match readValue bound cs with
      | none => none
      | some (value, rest) =>
        match skipBlank rest with
        | some (',' :: more) => (skipBlank more).bind (readItems bound (value :: items))
        | some (']' :: after) => some (.array (value :: items).reverse, after)
        | _ => none

/-- The entries of a table on one line, up to its closing brace. -/
def readEntries : Nat → List (String × Node) → List Char → Option (Value × List Char)
  | 0, _, _ => none
  | bound + 1, entries, cs =>
    match readKey cs with
    | some (key, '=' :: rest) =>
      match readValue bound (skipSpace rest) with
      | none => none
      | some (value, rest) =>
        match Node.setKey value true key .header entries with
        | none => none
        | some entries =>
          match skipSpace rest with
          | ',' :: more => readEntries bound entries more
          | '\x7d' :: after => some (.table (Node.valuesOf entries), after)
          | _ => none
    | _ => none

end

/-! ## Lines -/

/-- The part of a document that has been read. -/
structure Draft where
  /-- The path of the last header. -/
  current : List String
  entries : List (String × Node)

/-- The path of a header and what follows its closing brackets. -/
def readHeader (closing : List Char) (cs : List Char) : Option (List String × List Char) :=
  (readKey cs).bind fun (path, rest) =>
    (Text.afterPrefix? closing rest).bind fun after => (skipLine after).map (path, ·)

/-- Read one line that is not blank. -/
def readStatement (d : Draft) (cs : List Char) : Option (Draft × List Char) :=
  match cs with
  | '[' :: '[' :: rest =>
    (readHeader [']', ']'] rest).bind fun (path, after) =>
      (Node.appendTable path d.entries).map fun entries => (⟨path, entries⟩, after)
  | '[' :: rest =>
    (readHeader [']'] rest).bind fun (path, after) =>
      (Node.openTable path d.entries).map fun entries => (⟨path, entries⟩, after)
  | _ =>
    match readKey cs with
    | some (key, '=' :: rest) =>
      (readValue cs.length (skipSpace rest)).bind fun (value, after) =>
        (Node.setUnder value key d.current d.entries).bind fun entries =>
          (skipLine after).map (⟨d.current, entries⟩, ·)
    | _ => none

/-- Read lines, at most as many as the bound. -/
def readStatements : Nat → Draft → List Char → Option Draft
  | 0, _, _ => none
  | bound + 1, d, cs =>
    match skipBlank cs with
    | none => none
    | some [] => some d
    | some rest => (readStatement d rest).bind fun (d, after) => readStatements bound d after

/-- The entries of a document, if it is well formed. -/
def parse (s : String) : Option (List (String × Value)) :=
  let cs := match s.toList with
    | '\ufeff' :: rest => rest
    | cs => cs
  (readStatements (cs.length + 1) ⟨[], []⟩ cs).map fun d => Node.valuesOf d.entries

end StaticSite.Toml
