import EntityScaffold.Part

/-!
The placeholders a template may hold. Whatever else looks like one is plain text.
-/

namespace EntityScaffold.Template

/-- A placeholder: a spelling of the entity, or a part of the model. -/
inductive Token where
  | className
  | variableName
  | tableName
  | part (part : Part)
  deriving DecidableEq, Repr

namespace Token

/-- The vocabulary, in its order. -/
def all : List Token := [.className, .variableName, .tableName] ++ Part.all.map .part

/-- The token as templates spell it. -/
def literal : Token → String
  | .className => "_CLASS_NAME_"
  | .variableName => "_IVAR_NAME_"
  | .tableName => "_DB_TABLE_NAME_"
  | .part .declarations => "_IVARS_DEFINITION_"
  | .part .columnDefinitions => "_TABLE_ROWS_DEFINITION_"
  | .part .keyConstants => "_KEYS_DEFINITION_"
  | .part .structuredEncode => "_CLASS_TO_JSON_"
  | .part .structuredDecode => "_CLASS_JSON_INIT_"
  | .part .rowDecode => "_FLUENT_INITIALIZER_"
  | .part .rowEncode => "_FLUENT_SERIALIZE_"
  | .part .constructorParams => "_DEFAULT_INIT_PARAMS_"
  | .part .constructorBody => "_DEFAULT_INIT_IMPLEMENTATION_"

end Token

end EntityScaffold.Template
