import Everoute.Monitor.GoMap

/-!
# The OVSDB mirror

The in-memory copy of the switch database that the agent reads under the mirror's lock,
`OVSDBCache`, with values as libovsdb decodes them from the JSON wire format, and the
encodings the Open_vSwitch schema allows for the columns the agent reads.
-/
namespace Everoute.Monitor

/-- A row UUID, libovsdb's `ovsdb.UUID{GoUuid}`. -/
abbrev UUID := String

/-- An OVSDB atom as libovsdb decodes it. JSON numbers decode to float64; the columns the
agent reads as numbers are integer columns, so `real` holds an integer. -/
inductive Atom
  | string (s : String)
  | real (x : Int)
  | boolean (b : Bool)
  | uuid (id : UUID)
  deriving DecidableEq

/-- A value in `Row.Fields`: a bare atom, an `ovsdb.OvsSet` or an `ovsdb.OvsMap`. -/
inductive Value
  | atom (a : Atom)
  | set (elems : List Atom)
  | map (m : GoMap Atom Atom)
  deriving DecidableEq

/-- `ovsdb.Row`, its `Fields` from column name to value. -/
structure Row where
  fields : GoMap String Value
  deriving DecidableEq

/-- One table of the mirror, from row UUID to row. -/
abbrev Table := GoMap UUID Row

/-- `OVSDBCache`, from table name to table. -/
abbrev OVSDBCache := GoMap String Table

/-- `ovsdbCache[name]`; a table the mirror does not hold reads as empty. -/
def OVSDBCache.table (ovsdbCache : OVSDBCache) (name : String) : Table :=
  (ovsdbCache.lookup name).getD GoMap.empty

/-- `row.Fields[column]`; `none` is Go's `nil` interface of a column the row lacks. -/
def Row.field (row : Row) (column : String) : Option Value := row.fields.lookup column

/-! ### Type assertions -/

/-- How a Go call ends abnormally: with the `error` it returns, or with a panic, which nothing
in the agent recovers. -/
inductive Fault
  | error (msg : String)
  | panic (msg : String)
  deriving DecidableEq

/-- `v, ok := x.(string)`. -/
def asString : Option Value → Option String
  | some (.atom (.string s)) => some s
  | _ => none

/-- `v, ok := x.(float64)`. -/
def asFloat64 : Option Value → Option Int
  | some (.atom (.real x)) => some x
  | _ => none

/-- `v, ok := x.(ovsdb.OvsSet)`. -/
def asOvsSet : Option Value → Option (List Atom)
  | some (.set elems) => some elems
  | _ => none

/-- `v, ok := x.(ovsdb.OvsMap)`. -/
def asOvsMap : Option Value → Option (GoMap Atom Atom)
  | some (.map m) => some m
  | _ => none

def Atom.asString : Atom → Option String
  | .string s => some s
  | _ => none

def Atom.asReal : Atom → Option Int
  | .real x => some x
  | _ => none

/-- A type assertion `x.(T)` without the comma-ok form: the value, or a panic. -/
def assertType {α : Type} (expected : String) : Option α → Except Fault α
  | some a => .ok a
  | none => .error (.panic ("interface conversion: interface is not " ++ expected))

@[simp] theorem assertType_some {α : Type} (expected : String) (a : α) :
    assertType expected (some a) = .ok a := rfl

/-! ### Reference columns and the error column -/

/-- The UUID an atom names, if it is one. -/
def Atom.uuids : Atom → List UUID
  | .uuid u => [u]
  | _ => []

/-- `listUUID`: a reference column as its UUIDs in column order. A bare UUID and an `OvsSet`,
whose elements it reads one by one, are accepted; any other value gives no UUID. -/
def listUUID : Option Value → List UUID
  | some (.atom a) => a.uuids
  | some (.set uuidSet) => uuidSet.flatMap Atom.uuids
  | _ => []

/-- `ifHasError`: the `error` column holds a non-empty string. -/
def ifHasError (ovsIf : Option Value) : Bool :=
  match ovsIf with
  | some (.atom (.string value)) => value != ""
  | _ => false

/-! ### Schema encodings -/

/-- The schema type of a column the agent reads. -/
inductive ColumnType
  | string
  | optionalString
  | optionalInteger
  | integerSet
  | uuidSet
  | stringMap
  deriving DecidableEq

/-- Whether a value is one the OVSDB JSON encoding may deliver for a column of a type: an unset
optional column arrives as the empty set, and a one-element set may arrive as its bare
element. -/
def ColumnType.encodes : ColumnType → Option Value → Bool
  | .string, some (.atom (.string _)) => true
  | .optionalString, some (.atom (.string _)) => true
  | .optionalString, some (.set elems) => elems.isEmpty
  | .optionalInteger, some (.atom (.real _)) => true
  | .optionalInteger, some (.set elems) => elems.isEmpty
  | .integerSet, some (.atom (.real _)) => true
  | .integerSet, some (.set elems) => elems.all fun a => a.asReal.isSome
  | .uuidSet, some (.atom (.uuid _)) => true
  | .uuidSet, some (.set elems) => elems.all fun a => (a matches .uuid _)
  | .stringMap, some (.map m) => m.entries.all fun e => e.1.asString.isSome && e.2.asString.isSome
  | _, _ => false

/-- The columns the agent reads, with their types in the Open_vSwitch schema. -/
def readColumns : List (String × List (String × ColumnType)) :=
  [("Open_vSwitch", [("ovs_version", .optionalString)]),
   ("Bridge", [("name", .string), ("ports", .uuidSet)]),
   ("Port", [("name", .string), ("external_ids", .stringMap), ("vlan_mode", .optionalString),
     ("bond_mode", .optionalString), ("tag", .optionalInteger), ("trunks", .integerSet),
     ("interfaces", .uuidSet)]),
   ("Interface", [("name", .string), ("type", .string), ("external_ids", .stringMap),
     ("mac_in_use", .optionalString), ("ofport", .optionalInteger), ("error", .optionalString)])]

/-- Every row of the mirror holds each column the agent reads in an encoding its type allows. -/
def OVSDBCache.WellEncoded (ovsdbCache : OVSDBCache) : Prop :=
  ∀ table ∈ readColumns, ∀ row ∈ (ovsdbCache.table table.1).entries,
    ∀ column ∈ table.2, column.2.encodes (row.2.field column.1)

instance (ovsdbCache : OVSDBCache) : Decidable ovsdbCache.WellEncoded :=
  inferInstanceAs (Decidable (∀ table ∈ readColumns, ∀ row ∈ (ovsdbCache.table table.1).entries,
    ∀ column ∈ table.2, column.2.encodes (row.2.field column.1)))

end Everoute.Monitor
