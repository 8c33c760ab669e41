import EntityScaffold.Naming

/-!
Entities and their fields, and every spelling of them that generated code uses.
-/

namespace EntityScaffold

/-- An entity, known by the name its user chose. -/
structure Entity where
  name : String
  deriving DecidableEq, Repr

namespace Entity

/-- The name of the entity's type: `post` gives `Post`. -/
def className (entity : Entity) : String := Naming.capitalizeFirst entity.name

/-- The name of a variable that holds one: `Post` gives `post`. -/
def variableName (entity : Entity) : String := Text.lowercase entity.name

/-- The name of the table that stores them: `post` gives `posts`. -/
def tableName (entity : Entity) : String := Naming.pluralize entity.name

/-- The name in separate words: `BlogPost` gives `blog_post`. -/
def key (entity : Entity) : String := Naming.separatorCase entity.name

end Entity

/-- A field as its user declared it, `name:type`. Either half may be empty. -/
structure Field where
  name : String
  type : String
  deriving DecidableEq, Repr

namespace Field

/-- Read a declaration. What follows the first colon is the type, later colons included; a token
without a colon declares nothing. -/
def parse? (token : String) : Option Field :=
  match token.toList.dropWhile (· ≠ ':') with
  | [] => none
  | _ :: type => some ⟨.ofList (token.toList.takeWhile (· ≠ ':')), .ofList type⟩

/-- The declaration as it was written. -/
def text (field : Field) : String := field.name ++ ":" ++ field.type

/-- The type as declarations spell it: `string` gives `String`. -/
def typeName (field : Field) : String := Naming.capitalizeFirst field.type

/-- The type as the table's columns spell it: `String` gives `string`. -/
def columnType (field : Field) : String := Text.lowercase field.type

/-- The key the field is stored under: `viewCount` gives `view_count`. -/
def key (field : Field) : String := Naming.separatorCase field.name

end Field

end EntityScaffold
