import CrossSql.PortableType
import CrossSql.Predicate.Basic

/-!
# Errors

An error names its cause. `Error.kind` sorts the causes, `Error.message` words them, and a place
tells what was being done.

## Main definitions

* `Error`, `Error.Kind`, `Error.Place`.
* `Error.kind?`, `Error.message`.
-/

namespace CrossSql

/-- What a column is expected to be in a keyed write. -/
inductive Role
  | primary | identity
  deriving DecidableEq

def Role.name : Role → String
  | .primary => "primary"
  | .identity => "identity"

inductive Aggregate
  | count | sum | max | min | average
  deriving DecidableEq

namespace Aggregate

def label : Aggregate → String
  | .count => "Count"
  | .sum => "Sum"
  | .max => "Max"
  | .min => "Min"
  | .average => "Average"

/-- The name of the result column. -/
def resultName : Aggregate → String
  | .count => "CountValue"
  | .sum => "SumValue"
  | .max => "MaxValue"
  | .min => "MinValue"
  | .average => "AverageValue"

end Aggregate

inductive Dialect
  | generic | oracle | sqlite
  deriving DecidableEq

/-- What was being done when an error arose. -/
inductive Place
  | decodingColumn (name : String)
  | extractingSet (position : Nat)
  | readingColumnName
  | readingNativeType (column : String)
  deriving DecidableEq

def Place.text : Place → String
  | .decodingColumn name => "While decoding the column `" ++ name ++ "`"
  | .extractingSet position => "While extracting the result set " ++ toString position
  | .readingColumnName => "The introspection row has no column name"
  | .readingNativeType column =>
    "The native type of the column `" ++ column ++ "` is not a string"

inductive Error
  -- tables, fields and keys
  | blankTable
  | blankField
  | noFields (table : String)
  | noInsertableFields (table : String)
  | noUpdatableFields (table : String)
  | noOrdering (table : String)
  | noPrimary (table : String)
  | noQualifiers (table fields : String)
  | noKeys (field : String)
  | missingOrderFields (missing fields : String)
  | missingQualifiers (missing fields : String)
  | wrongRole (role : Role) (field : String)
  | missingRole (role : Role) (field fields : String)
  -- capabilities and sizes
  | hintsUnsupported
  | emptyBatch
  | batchUnsupported (size : Nat)
  | negativePage (page : Int)
  | emptyPage (rows : Int)
  | skipOverflow
  -- predicates and aggregates
  | namelessParameter (field : String)
  | emptyList (operation : Operation) (field : String)
  | wrongOperand (operand : Operand) (operation : Operation) (field : String)
  | aggregateWithoutField (aggregate : Aggregate)
  -- types
  | noPortableType (type : HostType)
  | noAverage (type : HostType)
  | noNativeName (dialect : Dialect) (type : PortableType)
  | blankNativeType (dialect : Dialect)
  -- dialects
  | noScopeIdentity
  | unknownDialect (name : String)
  -- values and rows
  | wrongType (value : Value) (target : HostType)
  | outOfRange (value source target : String)
  | notOneCharacter (text : String)
  | notUuid (text : String)
  | outsideCalendar
  | missingColumn (name : String)
  | beyondRow (index : Nat)
  | tooFewColumns (expected actual : Nat)
  -- result sets
  | disposed
  | noMoreResults (position : Nat)
  | reader (message : String)
  /-- An error with the place where it arose. -/
  | within (place : Place) (cause : Error)
  deriving DecidableEq

namespace Error

inductive Kind
  | invalidArgument | nullArgument | unsupportedFeature | missingFields | emptyUpdatableFields
  | emptyOrdering | primaryFieldNotFound | invalidQualifiers
  | argumentOutOfRange (name : String)
  | unsupportedType | noMoreResults | disposed
  deriving DecidableEq

/-- The words that open every message of the kind. -/
def Kind.opening : Kind → String
  | .invalidArgument => "Invalid argument: "
  | .nullArgument => "Null argument: "
  | .unsupportedFeature => "Unsupported feature: "
  | .missingFields => "Missing fields: "
  | .emptyUpdatableFields => "Empty updatable fields: "
  | .emptyOrdering => "Empty ordering: "
  | .primaryFieldNotFound => "Primary field not found: "
  | .invalidQualifiers => "Invalid qualifiers: "
  | .argumentOutOfRange name => "Argument `" ++ name ++ "` is out of range: "
  | .unsupportedType => "Unsupported type: "
  | .noMoreResults => "No more results: "
  | .disposed => "Disposed: "

/-- The kind of an error, wherever it arose. Errors of values and rows have none. -/
def kind? : Error → Option Kind
  | .blankTable | .blankField | .noFields _ | .noInsertableFields _ | .noKeys _ | .wrongRole ..
  | .namelessParameter _ | .emptyList .. | .wrongOperand .. | .unknownDialect _ =>
    some .invalidArgument
  | .noUpdatableFields _ => some .emptyUpdatableFields
  | .noOrdering _ => some .emptyOrdering
  | .noPrimary _ => some .primaryFieldNotFound
  | .noQualifiers .. | .missingQualifiers .. => some .invalidQualifiers
  | .missingOrderFields .. | .missingRole .. => some .missingFields
  | .hintsUnsupported | .batchUnsupported _ | .noScopeIdentity => some .unsupportedFeature
  | .emptyBatch => some (.argumentOutOfRange "batch_size")
  | .negativePage _ | .skipOverflow => some (.argumentOutOfRange "page")
  | .emptyPage _ => some (.argumentOutOfRange "rows_per_batch")
  | .aggregateWithoutField _ | .blankNativeType _ => some .nullArgument
  | .noPortableType _ | .noAverage _ | .noNativeName .. => some .unsupportedType
  | .disposed => some .disposed
  | .noMoreResults _ => some .noMoreResults
  | .within _ cause => cause.kind?
  | .wrongType .. | .outOfRange .. | .notOneCharacter _ | .notUuid _ | .outsideCalendar
  | .missingColumn _ | .beyondRow _ | .tooFewColumns .. | .reader _ => none

def missingText (what missing fields : String) : String :=
  "The " ++ what ++ " `" ++ missing ++ "` are not present at the given fields `" ++ fields ++ "`"

def noNativeNameText (type : PortableType) : Dialect → String
  | .generic => "The portable type `" ++ type.label ++ "` has no generic type name"
  | .oracle => "The portable type `" ++ type.label ++ "` has no Oracle equivalent"
  | .sqlite => "The portable type `" ++ type.label ++ "` has no SQLite storage class"

def blankNativeTypeText : Dialect → String
  | .generic => "The native type name cannot be empty"
  | .oracle => "The Oracle type name cannot be empty"
  | .sqlite => "The SQLite type name cannot be empty"

/-- The wording of a cause, without the opening of its kind. -/
def detail : Error → String
  | .blankTable => "The table name cannot be empty"
  | .blankField => "The field name cannot be empty"
  | .noFields table => "The list of fields cannot be empty for `" ++ table ++ "`"
  | .noInsertableFields table =>
    "The list of insertable fields cannot be empty for `" ++ table ++ "`"
  | .noUpdatableFields table => "The list of updatable fields cannot be empty for `" ++ table ++ "`"
  | .noOrdering table => "The ordering is required to page `" ++ table ++ "`"
  | .noPrimary table =>
    "The list of qualifiers is empty and no primary field is given for `" ++ table ++ "`"
  | .noQualifiers table fields =>
    "There are no qualifier fields for `" ++ table ++
      "`, the primary field must be present at the given fields `" ++ fields ++ "`"
  | .noKeys field =>
    "The list of keys of `" ++ field ++ "` cannot be empty, omit it to delete every row"
  | .missingOrderFields missing fields => missingText "order fields" missing fields
  | .missingQualifiers missing fields => missingText "qualifiers" missing fields
  | .wrongRole role field => "The field `" ++ field ++ "` is not defined as " ++ role.name
  | .missingRole role field fields =>
    "The " ++ role.name ++ " field `" ++ field ++ "` is not present at the given fields `" ++
      fields ++ "`"
  | .hintsUnsupported => "The hints are not supported by this dialect"
  | .emptyBatch => "The batch size must be equals or greater than 1"
  | .batchUnsupported size =>
    "Multiple statement execution is not supported, the batch size must be 1 (got " ++
      toString size ++ ")"
  | .negativePage page =>
    "The page must be equals or greater than 0 (got " ++ toString page ++ ")"
  | .emptyPage rows =>
    "The rows per batch must be equals or greater than 1 (got " ++ toString rows ++ ")"
  | .skipOverflow => "The number of rows to skip overflows"
  | .namelessParameter field =>
    "The field `" ++ field ++ "` has no character usable in a parameter name"
  | .emptyList operation field =>
    "The `" ++ operation.keyword ++ "` operation on `" ++ field ++ "` requires at least one value"
  | .wrongOperand operand operation field =>
    "The operand " ++ operand.text ++ " cannot be used with the `" ++ operation.keyword ++
      "` operation on `" ++ field ++ "`"
  | .aggregateWithoutField aggregate =>
    "The field is required by the " ++ aggregate.label ++ " aggregate"
  | .noPortableType type => "The host type `" ++ type.label ++ "` has no portable type"
  | .noAverage type => "Cannot compute an average over the host type `" ++ type.label ++ "`"
  | .noNativeName dialect type => noNativeNameText type dialect
  | .blankNativeType dialect => blankNativeTypeText dialect
  | .noScopeIdentity => "The scope identity is not supported by this dialect"
  | .unknownDialect name => "No dialect is registered under the name `" ++ name ++ "`"
  | .wrongType value target => "Cannot convert " ++ value.text ++ " to " ++ target.targetName
  | .outOfRange value source target =>
    "Value " ++ value ++ ": " ++ source ++ " is out of range for " ++ target
  | .notOneCharacter text =>
    "Cannot convert Value::Varchar(" ++ Text.quoted text ++
      ") into a char, it must contain exactly one character"
  | .notUuid text => "Cannot convert Value::Varchar(" ++ Text.quoted text ++ ") into a Uuid"
  | .outsideCalendar => "The date lies outside the calendar"
  | .missingColumn name => "Column `" ++ name ++ "` is not present in the row"
  | .beyondRow index => "The row has no value at the index " ++ toString index
  | .tooFewColumns expected actual =>
    "Expected at least " ++ toString expected ++ " columns but the row has " ++ toString actual
  | .disposed => "The result cursor was already disposed"
  | .noMoreResults position =>
    "There is no result set after the position " ++ toString position
  | .reader message => message
  | .within _ cause => cause.detail

def openingOf (e : Error) : String := (e.kind?.map Kind.opening).getD ""

/-- The whole wording: the places from the outermost in, then the cause. -/
def message : Error → String
  | .within place cause => place.text ++ ": " ++ cause.message
  | e => e.openingOf ++ e.detail

/-- Causes that no caller can answer to: an index beyond the row, a date beyond the calendar. -/
def isFault : Error → Bool
  | .outsideCalendar | .beyondRow _ => true
  | .within _ cause => cause.isFault
  | _ => false

end Error

end CrossSql
