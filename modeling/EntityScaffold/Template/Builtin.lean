/-!
The templates that come with the program.
-/

namespace EntityScaffold.Template

/-- A text of lines, each of which is ended. -/
def ofLines (lines : List String) : String := String.join (lines.map (· ++ "\n"))

def modelLines : List String :=
  ["import Vapor",
    "import FluentProvider",
    "import HTTP",
    "",
    "final class _CLASS_NAME_: Model \x7b",
    "    static let entity = \"_DB_TABLE_NAME_\"",
    "",
    "    let storage = Storage()",
    "",
    "    _IVARS_DEFINITION_",
    "",
    "    struct Keys \x7b",
    "        static let id = \"id\"",
    "        _KEYS_DEFINITION_",
    "    \x7d",
    "",
    "    init(_DEFAULT_INIT_PARAMS_) \x7b",
    "        _DEFAULT_INIT_IMPLEMENTATION_",
    "    \x7d",
    "",
    "    init(row: Row) throws \x7b",
    "        _FLUENT_INITIALIZER_",
    "    \x7d",
    "",
    "    func makeRow() throws -> Row \x7b",
    "        var row = Row()",
    "        _FLUENT_SERIALIZE_",
    "        return row",
    "    \x7d",
    "\x7d",
    "",
    "// MARK: Fluent Preparation",
    "",
    "extension _CLASS_NAME_: Preparation \x7b",
    "    static func prepare(_ database: Database) throws \x7b",
    "        try database.create(self) \x7b",
    "            $0.id()",
    "            _TABLE_ROWS_DEFINITION_",
    "        \x7d",
    "    \x7d",
    "",
    "    static func revert(_ database: Database) throws \x7b",
    "        try database.delete(self)",
    "    \x7d",
    "\x7d",
    "",
    "// MARK: JSON",
    "",
    "extension _CLASS_NAME_: JSONConvertible \x7b",
    "    convenience init(json: JSON) throws \x7b",
    "        try self.init(",
    "            _CLASS_JSON_INIT_",
    "        )",
    "    \x7d",
    "",
    "    func makeJSON() throws -> JSON \x7b",
    "        var json = JSON()",
    "        try json.set(_CLASS_NAME_.Keys.id, id)",
    "        _CLASS_TO_JSON_",
    "        return json",
    "    \x7d",
    "\x7d",
    "",
    "// MARK: HTTP",
    "",
    "extension _CLASS_NAME_: ResponseRepresentable \x7b \x7d"]

def testsLines : List String :=
  ["import XCTest",
    "import Testing",
    "import HTTP",
    "@testable import Vapor",
    "@testable import App",
    "",
    "class _CLASS_NAME_Tests: TestCase \x7b",
    "    let drop = try! Droplet.testable()",
    "",
    "    func test_CLASS_NAME_Entity() throws \x7b",
    "        let _IVAR_NAME_Type = _CLASS_NAME_.self",
    "        XCTAssertEqual(_IVAR_NAME_Type.entity, \"_DB_TABLE_NAME_\")",
    "    \x7d",
    "\x7d",
    "",
    "// MARK: Manifest",
    "",
    "extension _CLASS_NAME_Tests \x7b",
    "    static let allTests = [",
    "        (\"test_CLASS_NAME_Entity\", test_CLASS_NAME_Entity),",
    "    ]",
    "\x7d"]

def builtin : List (String × String) :=
  [("Model", ofLines modelLines), ("Tests", ofLines testsLines)]

end EntityScaffold.Template
