import CrossSql.Log
import CrossSql.Schema

/-!
# Registries of dialects

A registry finds the provider of a dialect by its name, without regard to case.

## Main definitions

* `Provider`: a compiler under a name, with its written form.
* `Registry.register`, `Registry.find?`, `Registry.names`.
-/

namespace CrossSql

structure Provider where
  name : String
  compiler : Compiler
  deriving DecidableEq

namespace Setting

def optionText (text : Option String) : String :=
  match text with
  | none => "None"
  | some s => "Some(" ++ Text.quoted s ++ ")"

/-- The written form of a record: its name and its fields between braces. -/
def recordText (name : String) (fields : List (String × String)) (rest : String) : String :=
  name ++ " \x7b " ++ ", ".intercalate (fields.map fun (k, v) => k ++ ": " ++ v) ++ rest ++ " \x7d"

def text (s : Setting) : String :=
  recordText "DbSetting"
    [("opening_quote", Text.quoted s.quotes.opening),
     ("closing_quote", Text.quoted s.quotes.closing),
     ("parameter_prefix", Text.quoted s.parameterMark),
     ("are_table_hints_supported", boolText s.allowsHints),
     ("is_use_upsert", boolText s.nativeUpsert),
     ("default_schema", optionText s.defaultSchema),
     ("averageable_type", (Value.absent s.averageType).text),
     ("is_multi_statement_executable", boolText s.allowsBatches),
     ("is_preparable", boolText s.preparable),
     ("is_direction_supported", boolText s.directional),
     ("is_execute_reader_disposable", boolText s.disposable),
     ("max_in_list_size", toString s.maxListSize),
     ("max_statement_parameters", toString s.maxParameters)] ""

end Setting

/-- The written form of a provider shows its name and its setting. -/
def Provider.text (p : Provider) : String :=
  Setting.recordText "Provider"
    [("name", Text.quoted p.name), ("db_setting", p.compiler.setting.text)] ", .."

/-- Providers by their names in lower case, in the order of these. -/
structure Registry where
  entries : List (String × Provider)

namespace Registry

def empty : Registry := ⟨[]⟩

def insert (key : String) (p : Provider) : List (String × Provider) → List (String × Provider)
  | [] => [(key, p)]
  | (k, q) :: rest =>
    if key = k then (key, p) :: rest
    else if key < k then (key, p) :: (k, q) :: rest
    else (k, q) :: insert key p rest

def contains (r : Registry) (name : String) : Bool :=
  r.entries.any (·.1 == Text.lower name)

/-- Adds a provider; it takes the place of an earlier one of the same name. -/
def register (r : Registry) (p : Provider) : Registry :=
  ⟨insert (Text.lower p.name) p r.entries⟩

/-- Taking the place of another provider is worth a warning. -/
def registerRecords (r : Registry) (p : Provider) : List Log.Record :=
  if r.contains p.name then [⟨.warn, "The dialect `" ++ p.name ++ "` was registered twice"⟩] else []

def find (r : Registry) (name : String) : Except Error Provider :=
  match r.entries.find? (·.1 == Text.lower name) with
  | some (_, p) => .ok p
  | none => .error (.unknownDialect name)

/-- The names of the providers, in the order of their lower case. -/
def names (r : Registry) : List String := r.entries.map (·.2.name)

end Registry

end CrossSql
