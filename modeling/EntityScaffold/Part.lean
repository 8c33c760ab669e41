import EntityScaffold.Entity
import EntityScaffold.Fragment

/-!
The parts of a model's source that hold one entry for each field. Every part goes through the
same fields in the same order.
-/

namespace EntityScaffold

/-- A part of a model with an entry per field. -/
inductive Part where
  | declarations
  | columnDefinitions
  | keyConstants
  | structuredEncode
  | structuredDecode
  | rowDecode
  | rowEncode
  | constructorParams
  | constructorBody
  deriving DecidableEq, Repr

namespace Part

/-- Every part, in the order of the vocabulary. -/
def all : List Part :=
  [.declarations, .columnDefinitions, .keyConstants, .structuredEncode, .structuredDecode,
   .rowDecode, .rowEncode, .constructorParams, .constructorBody]

/-- How deep the part's entries stand in the source. -/
def level : Part → Nat
  | .declarations => 1
  | .columnDefinitions | .structuredDecode => 3
  | .constructorParams => 0
  | _ => 2

/-- Arguments are set apart by commas, statements by line ends. -/
def joiner : Part → Joiner
  | .structuredDecode => .separated ",\n"
  | .constructorParams => .separated ", "
  | _ => .lines

/-- The constant that names the field's key inside its class. -/
def keyPath (entity : Entity) (field : Field) : String :=
  entity.className ++ ".Keys." ++ field.name

/-- What the part says about one field. -/
def entry (entity : Entity) (field : Field) : Part → String
  | .declarations => "var " ++ field.name ++ ": " ++ field.typeName
  | .columnDefinitions => "$0." ++ field.columnType ++ "(\"" ++ field.key ++ "\")"
  | .keyConstants => "static let " ++ field.name ++ " = \"" ++ field.key ++ "\""
  | .structuredEncode => "try json.set(" ++ keyPath entity field ++ ", " ++ field.name ++ ")"
  | .structuredDecode => field.name ++ ": try json.get(" ++ keyPath entity field ++ ")"
  | .rowDecode => field.name ++ " = try row.get(" ++ keyPath entity field ++ ")"
  | .rowEncode => "try row.set(" ++ keyPath entity field ++ ", " ++ field.name ++ ")"
  | .constructorParams => field.name ++ ":" ++ field.typeName
  | .constructorBody => "self." ++ field.name ++ " = " ++ field.name

def entries (part : Part) (entity : Entity) (fields : List Field) : List String :=
  fields.map fun field => part.entry entity field

def render (part : Part) (indent : Indent) (entity : Entity) (fields : List Field) : String :=
  let blank : Fragment := { indent, level := part.level, joiner := part.joiner }
  (blank.pushAll (part.entries entity fields)).text

end Part

end EntityScaffold
