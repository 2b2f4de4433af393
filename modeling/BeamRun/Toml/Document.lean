import BeamRun.Toml.Scalar

/-! TOML documents: values, and tables that grow by headers and dotted keys. -/

namespace BeamRun.Toml

inductive Value where
  | scalar (s : Scalar)
  | array (items : List Value)
  | table (entries : List (String × Value))

/-- How a table came about; only an implied one may still get a header of its own. -/
inductive Origin where
  | implied
  | dotted
  | header
  deriving DecidableEq, Repr

inductive Node where
  | value (v : Value)
  | table (origin : Origin) (entries : List (String × Node))
  /-- An array of tables, the open one first. -/
  | tables (current : List (String × Node)) (earlier : List (List (String × Node)))

abbrev Entries := List (String × Node)

namespace Entries

/-- Puts a node in the place of the one under the key, or at the end. -/
def replace (key : String) (node : Node) : Entries → Entries
  | [] => [(key, node)]
  | (k, n) :: rest => if k = key then (k, node) :: rest else (k, n) :: replace key node rest

/-- Changes the table at the end of a path, which is made as far as it is missing. Dotted keys do not
enter tables with a header. -/
def at? (dotted : Bool) (change : Origin → Entries → Option Entries) :
    List String → Origin → Entries → Option Entries
  | [], origin, entries => change origin entries
  | key :: path, _, entries =>
    match entries.lookup key with
    | none => do
      let origin := if dotted then Origin.dotted else .implied
      let inner ← at? dotted change path origin []
      some (replace key (.table origin inner) entries)
    | some (.value _) => none
    | some (.table origin inner) =>
      if dotted ∧ origin = .header then none
      else do
        let inner ← at? dotted change path origin inner
        some (replace key (.table origin inner) entries)
    | some (.tables current earlier) => do
      let current ← at? dotted change path .header current
      some (replace key (.tables current earlier) entries)

/-- Adds a new key to a table, which has to come from a dotted key if the key is one. -/
def add? (isDotted : Bool) (key : String) (v : Value) (origin : Origin) (entries : Entries) :
    Option Entries :=
  if decide (origin = .dotted) != isDotted ∨ (entries.lookup key).isSome then none
  else some (entries ++ [(key, .value v)])

/-- Sets a key, given as a path and the last part, in the table of a header. -/
def set? (header path : List String) (key : String) (v : Value) (root : Entries) :
    Option Entries :=
  at? false
    (fun _ entries => at? true (add? (!path.isEmpty) key v) path .header entries)
    header .header root

def open? (path : List String) (key : String) (root : Entries) : Option Entries :=
  at? false
    (fun _ entries =>
      match entries.lookup key with
      | none => some (replace key (.table .header []) entries)
      | some (.table .implied inner) => some (replace key (.table .header inner) entries)
      | some _ => none)
    path .header root

/-- Opens a new table of an array of tables. -/
def push? (path : List String) (key : String) (root : Entries) : Option Entries :=
  at? false
    (fun _ entries =>
      match entries.lookup key with
      | none => some (replace key (.tables [] []) entries)
      | some (.tables current earlier) =>
        some (replace key (.tables [] (current :: earlier)) entries)
      | some _ => none)
    path .header root

end Entries

mutual
def Node.toValue : Node → Value
  | .value v => v
  | .table _ entries => .table (entryValues entries)
  | .tables current earlier => .array ((.table (entryValues current) :: tableValues earlier).reverse)

def entryValues : List (String × Node) → List (String × Value)
  | [] => []
  | (key, n) :: rest => (key, n.toValue) :: entryValues rest

def tableValues : List (List (String × Node)) → List Value
  | [] => []
  | entries :: rest => .table (entryValues entries) :: tableValues rest
end

/-- An inline table from its entries, each a path and the last part of a dotted key. -/
def inlineTable? (pairs : List ((List String × String) × Value)) : Option Value := do
  let entries ← pairs.foldlM (fun entries p => Entries.set? [] p.1.1 p.1.2 p.2 entries) []
  some (.table (entryValues entries))

end BeamRun.Toml
