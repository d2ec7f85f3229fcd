import BenefitScreen.IncomeLimit.County

/-!
The comma-separated form of a sheet.

Records end at a line feed or a carriage return or both, empty lines are skipped, and the first
record is a heading. A field that starts with a quote runs to the next lone quote; a quote inside
is written twice, and what follows the closing quote belongs to the field as well.
-/

namespace BenefitScreen.Csv

/-- Where in a field the reader stands. -/
inductive Place where
  | recordStart
  | fieldStart
  | plain
  | quoted
  /-- After a quote inside a quoted field. -/
  | quoteEnd
  deriving DecidableEq

abbrev Field := List UInt8

/-- The reader's state: the open field and the closed ones, each with the latest first. -/
structure Reader where
  place : Place
  field : Field
  fields : List Field
  records : List (List Field)

namespace Reader

def start : Reader := ⟨.recordStart, [], [], []⟩

def push (r : Reader) (place : Place) (b : UInt8) : Reader :=
  { r with place := place, field := b :: r.field }

def endField (r : Reader) : Reader :=
  { r with place := .fieldStart, field := [], fields := r.field.reverse :: r.fields }

def endRecord (r : Reader) : Reader :=
  ⟨.recordStart, [], [], (r.field.reverse :: r.fields).reverse :: r.records⟩

def comma : UInt8 := 44

def quote : UInt8 := 34

def isLineEnd (b : UInt8) : Bool := b == 10 || b == 13

def step (r : Reader) (b : UInt8) : Reader :=
  match r.place with
  | .recordStart =>
    if isLineEnd b then r
    else if b == quote then { r with place := .quoted }
    else if b == comma then r.endField
    else r.push .plain b
  | .fieldStart =>
    if b == quote then { r with place := .quoted }
    else if b == comma then r.endField
    else if isLineEnd b then r.endRecord
    else r.push .plain b
  | .plain =>
    if b == comma then r.endField
    else if isLineEnd b then r.endRecord
    else r.push .plain b
  | .quoted => if b == quote then { r with place := .quoteEnd } else r.push .quoted b
  | .quoteEnd =>
    if b == quote then r.push .quoted b
    else if b == comma then r.endField
    else if isLineEnd b then r.endRecord
    else r.push .plain b

def finish (r : Reader) : List (List Field) :=
  match r.place with
  | .recordStart => r.records.reverse
  | _ => r.endRecord.records.reverse

end Reader

/-- The records of a sheet, a byte order mark at its start left out. -/
def records (bytes : List UInt8) : List (List Field) :=
  let body := match bytes with
    | 0xEF :: 0xBB :: 0xBF :: rest => rest
    | rest => rest
  (body.foldl Reader.step Reader.start).finish

def fieldText? (field : Field) : Option String := String.fromUTF8? (ByteArray.mk field.toArray)

/-- The table of a sheet; `none` if a record after the heading is not UTF-8. -/
def countyTable? (bytes : List UInt8) : Option CountyTable :=
  let texts := ((records bytes).drop 1).mapM fun (fields : List Field) => fields.mapM fieldText?
  texts.map CountyTable.ofRecords

end BenefitScreen.Csv
