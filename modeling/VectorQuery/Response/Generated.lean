import VectorQuery.Quantity
import VectorQuery.Response.Envelope
/-! Generated results: one payload, which is attached to the first row, or the rows of a group. -/
namespace VectorQuery.Generated

/-- The payload where nothing was generated. -/
def noResults : Row := [(.str "singleResult", .none), (.str "error", .str "No results")]

/-- The payload that is attached to a row. -/
def payload? (row : Row) : Option Row :=
  (Datum.lookup "_additional" row).bind fun d => (d.get? "generate").bind Datum.dict?

/-- The payload of the first row. -/
def single (rows : List Row) : Row :=
  match rows with
  | [] => noResults
  | row :: _ => (payload? row).getD noResults

/-- The first row of data that should be a sequence of rows; none where there are no data. -/
def firstRow? (d : Datum) : Checked (Option Row) :=
  if !d.truthy then .ok none
  else match d with
    | .list (.dict row :: _) => .ok (some row)
    | .tuple (.dict row :: _) => .ok (some row)
    | .list _ => .error .noAttribute
    | .tuple _ => .error .noAttribute
    | .text _ => .error .noAttribute
    | .bytes _ => .error .noAttribute
    | .dict _ => .error .noKey
    | _ => .error .wrongType

/-- The payload of the first row of data that should be a sequence of rows. -/
def singleOf (d : Datum) : Checked Row :=
  (firstRow? d).map fun row? => single row?.toList

/-- The items of data that should be a sequence of rows. -/
def groupedOf (d : Datum) : Checked (List Datum) := itemsOf d

end VectorQuery.Generated
