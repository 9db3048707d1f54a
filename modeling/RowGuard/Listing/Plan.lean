import RowGuard.Database.Order
import RowGuard.Database.Reading
import RowGuard.Fragment.Meaning
import RowGuard.Listing.Basic
import RowGuard.Registry
import RowGuard.Session.Link
import RowGuard.Sql.Statement

/-!
# Planned listings

A listing is one selection: the fragment for reading decides which rows it has, and the fragment of each
further permission is a column of its own, so that rows and permissions come from one state of the
database. `Listing.Plan.render` is its text and `Listing.Plan.select` its answer.
-/

namespace RowGuard.Listing

/-- A column to order by. -/
structure SortKey where
  table : String
  column : String
  descending : Bool := false
deriving DecidableEq

/-- A planned listing. -/
structure Plan where
  subject : Subject
  mapping : Mapping
  read : Fragment
  extras : List (Data × Fragment)
  order : List SortKey
  extractSelf : Bool

/-- The name of the column with the permission at the given place. -/
def label (n : Nat) : String := s!"_perm_{n}"

/-- A sort key as it stands in the statement. -/
def SortKey.render (d : Dialect) (k : SortKey) : String :=
  Sql.column d k.table k.column ++ (if k.descending then " DESC" else " ASC")

namespace Plan

/-- Each permission with the name of its column. -/
def labels (p : Plan) : List (Data × String) :=
  p.extras.zipIdx.map fun ((permission, _), n) => (permission, label n)

/-- The statement. -/
def render (d : Dialect) (p : Plan) : String :=
  let table := p.mapping.table
  let columns := table.columns.map fun c => Sql.column d table.name c.name
  let permissions := p.extras.zipIdx.map fun ((_, f), n) => f.asColumn d (label n)
  let order :=
    if p.order.isEmpty then [Sql.column d table.name p.mapping.identity.name]
    else p.order.map (SortKey.render d)
  Sql.selectFrom d table.name (columns ++ permissions) [p.read.asFilter d] order

/-- The position of the identity column. -/
def identityPosition (p : Plan) : Nat :=
  (p.mapping.table.position? p.mapping.identity.name).getD 0

/-- Whether a sort key is a column of the listed table. -/
def sorts (p : Plan) (k : SortKey) : Bool :=
  k.table == p.mapping.table.name && (p.mapping.table.column? k.column).isSome

/-- The fragments of the statement. -/
def fragments (p : Plan) : List Fragment := p.read :: p.extras.map (·.2)

/-- Whether the statement runs. -/
def runs (db : Database) (p : Plan) : Bool :=
  (db.table? p.mapping.table.name).isSome && p.order.all p.sorts &&
    p.fragments.all fun f => f.runs db p.mapping.table

/-- Whether a row stands before or beside another in the order of a column. -/
def keyLe (p : Plan) (column : String) (descending : Bool) (a b : Row) : Bool :=
  match p.mapping.table.position? column with
  | none => true
  | some i =>
    let x := a[i]?.getD .null
    let y := b[i]?.getD .null
    if descending then !x.lt y else !y.lt x

/-- Whether a row stands before or beside another in the order of several columns. -/
def rowLe (p : Plan) (a b : Row) : List SortKey → Bool
  | [] => true
  | k :: rest =>
    p.keyLe k.column k.descending a b &&
      (!p.keyLe k.column k.descending b a || p.rowLe a b rest)

/-- The rows in the order asked for; the identity's order if none was. -/
def sorted (p : Plan) (rows : List Row) : List Row :=
  if p.order.isEmpty then rows.mergeSort (p.keyLe p.mapping.identity.name false)
  else rows.mergeSort fun a b => p.rowLe a b p.order

/-- The rows that pass the fragment for reading, in order. -/
def readable (p : Plan) (db : Database) : List Row :=
  match db.table? p.mapping.table.name with
  | none => []
  | some t => p.sorted <| t.scanned.filter (p.read.admits db p.mapping.table p.identityPosition)

/-- A row with its permissions. -/
def vector (p : Plan) (db : Database) (row : Row) : Except Fault PermissionVector := do
  let fields := (← p.mapping.table.read row).map fun (name, value) => (name, Data.scalar value)
  return {
    identity := (fields.lookup p.mapping.identity.name).getD .null
    fields
    permissions := p.extras.map fun (permission, f) =>
      (permission, .bool (f.grants db p.mapping.table p.identityPosition row)) }

/-- The rows of the listing with their permissions. -/
def select (p : Plan) (db : Database) : Except Fault (List PermissionVector) :=
  if p.runs db then (p.readable db).mapM (p.vector db) else .error (.sql .operational)

/-- The statement as a connection runs it. -/
def statement (p : Plan) : Link.Statement (List PermissionVector) where
  run db := do return (← p.select db, db)

/-- The listing made of the rows found. -/
def listing (p : Plan) (rows : List PermissionVector) : Except Fault Listing :=
  if p.extractSelf then splitSelf p.subject p.mapping.type rows else .ok ⟨rows, none⟩

end Plan

end RowGuard.Listing
