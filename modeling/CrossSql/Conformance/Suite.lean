import CrossSql.Conformance.Trial

/-!
# The conformance suite

What every dialect has to honour, whatever its statements look like: identifiers are quoted once,
guards refuse, pages skip and take, the rows of a batch have parameters of their own, keys are cut
into lists, and a merge falls back on the primary.
-/

namespace CrossSql.Conformance

open Text

variable (c : Compiler)

def mentions (sql part : String) : Bool := occursIn part.toList sql.toList

def countOf (sql part : String) : Nat := occurrences part.toList sql.toList

def person : String := "Person"

def named (names : List String) : List Field := names.map Field.named

/-! ## Quoting -/

def quotingSamples : List String :=
  ["Id", " Name ", "dbo.Person", "Person.Address.Line", "with space"]

def quotedOnce (q : Quotes) (name : String) : Bool :=
  let once := q.table name
  let bare := q.unquote true once
  q.table once == once && q.unquote true bare == bare &&
    !mentions bare q.opening && !mentions bare q.closing

def quoting : Trial Unit :=
  let q := c.setting.quotes
  let around (name : String) : String := q.opening ++ name ++ q.closing
  .all
    [.expect (quotingSamples.all (quotedOnce q)),
     .expect (q.table "dbo.Person" == around "dbo" ++ "." ++ around "Person"),
     .expect (q.column "dbo.Person" == around "dbo.Person"),
     .expect (q.column " Id " == around "Id"),
     .expect (q.unquote true (" " ++ around "Id" ++ " ") == "Id")]

/-! ## Guards -/

def hint : String := "/*+ FIRST_ROWS */"

def query (table : String) (fields : List Field) (order : List OrderField)
    (top : Option Nat) (hints : Option String) : Statement :=
  .query ⟨table, fields, none, order, top, hints⟩

def insert (fields : List Field) (primary identity : Option Column) : Statement :=
  .insert ⟨person, fields, primary, identity, none⟩

def updateAll (fields qualifiers : List Field) (rows : Nat) (primary : Option Column) : Statement :=
  .updateAll ⟨person, fields, qualifiers, rows, primary, none, none⟩

def hinted (fields : List Field) : Trial Unit :=
  let st := query person fields [] none (some hint)
  if c.setting.allowsHints then .compiled c st fun sql _ => mentions sql hint
  else .refused c st .unsupportedFeature

def guards : Trial Unit :=
  let fields := named ["Id", "Name", "Age"]
  .fresh (.all
    [.refused c (query " " fields [] none none) .invalidArgument,
     .refused c (.truncate ⟨""⟩) .invalidArgument,
     .refused c (query person [] [] none none) .invalidArgument,
     .refused c (query person fields [⟨"Missing", .ascending⟩] none none) .missingFields,
     .refused c (insert fields (some { name := "Id" }) none) .invalidArgument,
     .refused c (insert fields (some (.primary "Code")) none) .missingFields,
     .refused c (insert fields none (some (.primary "Id"))) .invalidArgument,
     .refused c (insert (named ["Id"]) none (some (.identity "Id"))) .invalidArgument,
     .refused c (.update ⟨person, named ["Id"], none, some (.primary "Id"), none, none⟩)
       .emptyUpdatableFields,
     .refused c (updateAll fields [] 1 none) .invalidQualifiers,
     .refused c (updateAll fields (named ["Code"]) 1 none) .invalidQualifiers,
     .refused c (updateAll fields [] 0 (some (.primary "Id"))) (.argumentOutOfRange "batch_size"),
     .refused c (.aggregateOf .average person ⟨"Name", some .varchar⟩ none none) .unsupportedType,
     .refused c (.deleteAll ⟨person, some (.named "Id", []), none⟩) .invalidArgument,
     hinted c fields,
     .compiled c (.count person none none) fun sql d =>
       "SELECT COUNT (*) AS ".toList.isPrefixOf sql.toList && d.row == 0])

/-! ## Paging -/

def page (fields : List Field) (page rows : Int) (order : List OrderField) : Statement :=
  .pageQuery ⟨person, fields, page, rows, order, none, none⟩

def paging : Trial Unit :=
  let fields := named ["Id", "Name"]
  let order : List OrderField := [⟨"Id", .ascending⟩]
  .fresh (.all
    [.compiled c (page fields 0 3 order) fun sql _ => !mentions sql "OFFSET" && mentions sql "3",
     .compiled c (page fields 2 3 order) fun sql _ => mentions sql "OFFSET 6",
     .refused c (page fields 0 3 []) .emptyOrdering,
     .refused c (page fields (-1) 3 order) (.argumentOutOfRange "page"),
     .refused c (page fields 0 0 order) (.argumentOutOfRange "rows_per_batch"),
     .refused c (page fields Number.Width.int64.highest 2 order) (.argumentOutOfRange "page"),
     .compiled c (query person fields [] (some 2) none) fun sql _ =>
       !mentions sql "WHERE" && mentions sql "2"])

/-! ## Batches -/

/-- The different parameters that a text refers to. -/
def parametersOf (sql : String) (s : Setting) : List String :=
  let stops (ch : Char) : Bool := isBlank ch || ch == ',' || ch == '(' || ch == ')'
  ((splitWhere stops sql.toList).filter s.parameterMark.toList.isPrefixOf).map String.ofList
    |>.eraseDups

def sameSet (a b : List String) : Bool := a.all b.contains && b.all a.contains

/-- As many rows as the suite writes at once. -/
def batchRows (s : Setting) : Nat := if s.allowsBatches then 3 else 1

def rowConditions (s : Setting) : List String :=
  (List.range (batchRows s)).map fun row =>
    "WHERE (" ++ s.quotes.column "Id" ++ " = " ++ s.marker "Id" row ++ ")"

def keyLists (size : Nat) : Trial Unit :=
  let keys := Value.firstIntegers (size + 1)
  let delete (keys : List Value) : Statement :=
    .deleteAll ⟨person, some (.named "Id", keys), none⟩
  .all
    [.compiled c (delete (keys.take size)) fun sql _ =>
       countOf sql " IN (" == 1 && !mentions sql " OR ",
     .compiled c (delete keys) fun sql _ =>
       countOf sql " IN (" == 2 && (parametersOf sql c.setting).length == size + 1]

def batches : Trial Unit :=
  let s := c.setting
  let fields := named ["Id", "Name", "Age"]
  let rows := batchRows s
  let expected :=
    (fields.flatMap fun f => (List.range rows).map fun row => s.marker f.name row).eraseDups
  .fresh (.all
    [.compiled c (.insertAll ⟨⟨person, fields, none, none, none⟩, rows⟩) fun sql d =>
       sameSet (parametersOf sql s) expected && expected.length == fields.length * rows &&
         d.row == rows - 1,
     .compiled c (updateAll fields [] rows (some (.primary "Id"))) fun sql _ =>
       countOf sql "UPDATE " == rows && (rowConditions s).all (countOf sql · == 1) &&
         !mentions sql ("SET " ++ s.quotes.column "Id"),
     if s.maxListSize > 0 then keyLists c s.maxListSize else .pass])

/-! ## Merges -/

def mergeTest (s : Setting) (sql : String) : Bool :=
  let id := s.quotes.column "Id"
  let target := s.quotes.table person
  let source := s.quotes.column Merge.sourceAlias
  let pair := target ++ "." ++ id ++ " = " ++ source ++ "." ++ id
  (if s.nativeUpsert then mentions sql ("ON CONFLICT ( " ++ id ++ " )")
   else mentions sql ("ON ( " ++ pair ++ " )") && !mentions sql (pair ++ ",")) &&
    mentions sql (s.quotes.column "Name")

def merges : Trial Unit :=
  let fields := named ["Id", "Name"]
  let primary := Column.primary "Id"
  .fresh (.all
    [.compiled c (.mergeOne person fields [] (some primary) none none) fun sql _ =>
       mergeTest c.setting sql,
     .refused c (.mergeOne person fields [] none none none) .primaryFieldNotFound,
     .refused c (.mergeOne person fields (named ["Code"]) none none none) .invalidQualifiers,
     .refused c (.merge ⟨person, fields, [], 0, some primary, none, none⟩)
       (.argumentOutOfRange "batch_size")])

/-- The whole suite. -/
def suite : Trial Unit := .all [quoting c, guards c, paging c, batches c, merges c]

end CrossSql.Conformance
