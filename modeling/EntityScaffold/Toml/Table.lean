import EntityScaffold.Toml.Value

/-!
Adding to the tables of a document. No key is given twice, and a table that is complete is left
alone.
-/

namespace EntityScaffold.Toml

def find? (entries : List Entry) (name : String) : Option Entry :=
  entries.find? fun entry => entry.1.name == name

def replaceEntry (entries : List Entry) (entry : Entry) : List Entry :=
  entries.map fun old => if old.1.name == entry.1.name then entry else old

/-- Change the table at the end of a path of keys. Missing tables are made on the way. Into an
array of tables the path goes by its last one. A dotted key does not enter a table that was
declared by a header. -/
def alter (dotted : Bool) (change : Standing → List Entry → Option (List Entry)) :
    List Key → Standing → List Entry → Option (List Entry)
  | [], standing, entries => change standing entries
  | key :: path, _, entries =>
    match find? entries key.name with
    | none =>
      let standing := if dotted then .dotted else .implied
      (alter dotted change path standing []).map fun inner =>
        entries ++ [(key, key.span, .table standing inner)]
    | some (old, span, .table standing inner) =>
      if standing = .closed ∨ (dotted ∧ standing = .declared) then none
      else
        (alter dotted change path standing inner).map fun inner =>
          replaceEntry entries (old, span, .table standing inner)
    | some (old, span, .tables items) =>
      match items.getLast? with
      | none => none
      | some (itemSpan, inner) =>
        (alter dotted change path .declared inner).map fun inner =>
          replaceEntry entries (old, span, .tables (items.dropLast ++ [(itemSpan, inner)]))
    | some _ => none

/-- Give a key its value, at the end of a dotted path if there is one. A path of that kind ends
in a table that dotted keys made. -/
def addValue (path : List Key) (key : Key) (span : Span) (value : Value) :
    Standing → List Entry → Option (List Entry) :=
  alter true
    (fun standing entries =>
      if (standing == .dotted) == path.isEmpty then none
      else if (find? entries key.name).isSome then none
      else some (entries ++ [(key, span, value)]))
    path

/-- Declare the table of a header. One that was implied so far is declared now. -/
def declareTable (path : List Key) (key : Key) (span : Span) :
    List Entry → Option (List Entry) :=
  alter false
    (fun _ entries =>
      match find? entries key.name with
      | none => some (entries ++ [(key, span, .table .declared [])])
      | some (_, _, .table .implied inner) =>
        some (replaceEntry entries (key, span, .table .declared inner))
      | some _ => none)
    path .declared

def declareItem (path : List Key) (key : Key) (span : Span) :
    List Entry → Option (List Entry) :=
  alter false
    (fun _ entries =>
      match find? entries key.name with
      | none => some (entries ++ [(key, span, .tables [(span, [])])])
      | some (old, oldSpan, .tables items) =>
        some (replaceEntry entries (old, oldSpan, .tables (items ++ [(span, [])])))
      | some _ => none)
    path .declared

end EntityScaffold.Toml
