import Everoute.Monitor.Fetch
import Mathlib.Data.List.ReduceOption

/-!
# What `getAgentInfo` builds

On a mirror whose rows hold the columns the agent reads in the encodings the schema allows,
and whose root row has its version set, `getAgentInfo` never panics. It fails exactly when a
bridge names a port the mirror does not hold; otherwise it builds one bridge per row of the
Bridge table, each port from the row its bridge names, and each port's interfaces from the
rows of its `interfaces` column that exist and report no error, in column order.
-/
namespace Everoute.Monitor

/-! ### Traversals in `Except` -/

section Traversal

variable {α β ε : Type} {f : α → Except ε β}

theorem mapM_cons_of_ok {x : α} {y : β} (hx : f x = .ok y) (xs : List α) :
    (x :: xs).mapM f = (xs.mapM f).map (y :: ·) := by
  rw [List.mapM_cons, hx]
  cases xs.mapM f <;> rfl

theorem mapM_cons_of_error {x : α} {e : ε} (hx : f x = .error e) (xs : List α) :
    (x :: xs).mapM f = .error e := by
  rw [List.mapM_cons, hx]
  rfl

/-- A traversal whose every step succeeds succeeds, with each result the step's. -/
theorem mapM_ok_of_forall {R : α → β → Prop} {xs : List α}
    (ok : ∀ x ∈ xs, ∃ y, f x = .ok y ∧ R x y) :
    ∃ ys, xs.mapM f = .ok ys ∧ List.Forall₂ R xs ys := by
  induction xs with
  | nil => exact ⟨[], rfl, .nil⟩
  | cons x xs ih =>
    obtain ⟨y, hy, rel⟩ := ok x (List.mem_cons_self x xs)
    obtain ⟨ys, hys, rels⟩ := ih fun z hz => ok z (List.mem_cons_of_mem x hz)
    exact ⟨y :: ys, by rw [mapM_cons_of_ok hy, hys]; rfl, .cons rel rels⟩

/-- A successful traversal relates each element to its result. -/
theorem forall₂_of_mapM_ok {xs : List α} {ys : List β} (h : xs.mapM f = .ok ys) :
    List.Forall₂ (fun x y => f x = .ok y) xs ys := by
  induction xs generalizing ys with
  | nil => cases h; exact .nil
  | cons x xs ih =>
    cases hx : f x with
    | error e => rw [mapM_cons_of_error hx] at h; cases h
    | ok y =>
      rw [mapM_cons_of_ok hx] at h
      cases hxs : xs.mapM f with
      | error e => rw [hxs] at h; cases h
      | ok zs =>
        rw [hxs] at h
        cases h
        exact .cons hx (ih hxs)

theorem mapM_ok_of_forall₂ {xs : List α} {ys : List β}
    (rel : List.Forall₂ (fun x y => f x = .ok y) xs ys) : xs.mapM f = .ok ys := by
  induction rel with
  | nil => rfl
  | cons head _ ih => rw [mapM_cons_of_ok head, ih]; rfl

/-- A traversal of the same elements in another order gives the same results in another
order. -/
theorem mapM_ok_of_perm {xs ys : List α} (perm : xs.Perm ys) {bs : List β}
    (h : ys.mapM f = .ok bs) : ∃ as, xs.mapM f = .ok as ∧ as.Perm bs := by
  obtain ⟨as, rel, permuted⟩ := List.perm_comp_forall₂ perm (forall₂_of_mapM_ok h)
  exact ⟨as, mapM_ok_of_forall₂ rel, permuted⟩

/-- A failed traversal fails with the error of one of its steps. -/
theorem mapM_error {xs : List α} {e : ε} (h : xs.mapM f = .error e) : ∃ x ∈ xs, f x = .error e := by
  induction xs with
  | nil => cases h
  | cons x xs ih =>
    cases hx : f x with
    | error e' => rw [mapM_cons_of_error hx] at h; cases h; exact ⟨x, List.mem_cons_self x xs, hx⟩
    | ok y =>
      rw [mapM_cons_of_ok hx] at h
      cases hxs : xs.mapM f with
      | error e' =>
        rw [hxs] at h; cases h
        obtain ⟨z, hz, fz⟩ := ih hxs
        exact ⟨z, List.mem_cons_of_mem x hz, fz⟩
      | ok zs => rw [hxs] at h; cases h

theorem exists_ok_of_mapM_ok {xs : List α} {ys : List β} (h : xs.mapM f = .ok ys) :
    ∀ x ∈ xs, ∃ y, f x = .ok y := by
  have rel := forall₂_of_mapM_ok h
  clear h
  induction rel with
  | nil => simp
  | @cons x y xs ys head _ ih =>
    intro z member
    rcases List.mem_cons.mp member with rfl | member
    · exact ⟨y, head⟩
    · exact ih z member

/-- Each result of a successful traversal is the result of a step. -/
theorem mem_of_mapM_ok {xs : List α} {ys : List β} (h : xs.mapM f = .ok ys) {y : β} (member : y ∈ ys) :
    ∃ x ∈ xs, f x = .ok y := by
  have rel := forall₂_of_mapM_ok h
  clear h
  induction rel with
  | nil => cases member
  | @cons x y' xs ys head _ ih =>
    rcases List.mem_cons.mp member with rfl | member
    · exact ⟨x, List.mem_cons_self x xs, head⟩
    · obtain ⟨z, hz, fz⟩ := ih member
      exact ⟨z, List.mem_cons_of_mem x hz, fz⟩

/-- Two traversals whose steps agree up to a map of the results agree up to that map. -/
theorem mapM_eq_map_of_forall {γ : Type} {h : α → Except ε γ} {g : β → γ} {xs : List α}
    (same : ∀ x ∈ xs, h x = (f x).map g) : xs.mapM h = (xs.mapM f).map (List.map g) := by
  induction xs with
  | nil => rfl
  | cons x xs ih =>
    rw [List.mapM_cons, List.mapM_cons, same x (List.mem_cons_self x xs),
      ih fun y hy => same y (List.mem_cons_of_mem x hy)]
    cases f x <;> cases xs.mapM f <;> rfl

/-- A traversal whose steps succeed or fail with `error`s fails, if at all, with an `error`. -/
theorem mapM_error_of_no_panic {g : α → Except Fault β} {xs : List α} {e : Fault}
    (h : xs.mapM g = .error e) (noPanic : ∀ x ∈ xs, ∀ msg, g x ≠ .error (.panic msg)) :
    ∃ msg, e = .error msg := by
  obtain ⟨x, hx, gx⟩ := mapM_error h
  cases e with
  | error msg => exact ⟨msg, rfl⟩
  | panic msg => exact absurd gx (noPanic x hx msg)

end Traversal

/-! ### Columns of well-encoded rows -/

section Columns

variable {ovsdbCache : OVSDBCache}

theorem OVSDBCache.WellEncoded.column (encoded : ovsdbCache.WellEncoded) {table : String}
    {columns : List (String × ColumnType)} (schema : (table, columns) ∈ readColumns) {uuid : UUID}
    {row : Row} (found : (ovsdbCache.table table).lookup uuid = some row) (column : String)
    {type : ColumnType} (typed : (column, type) ∈ columns) : type.encodes (row.field column) :=
  encoded _ schema _ (GoMap.lookup_eq_some_iff.mp found) _ typed

theorem asString_of_encodes {v : Option Value} (h : ColumnType.string.encodes v) :
    ∃ s, asString v = some s := by
  rcases v with _ | ((s | _ | _ | _) | _ | _)
  all_goals first | exact ⟨s, rfl⟩ | cases h

private theorem foldlM_insert_ok (entries : List (Atom × Atom))
    (strings : ∀ name value, (name, value) ∈ entries →
      name.asString.isSome = true ∧ value.asString.isSome = true)
    (acc : GoMap String String) :
    ∃ ids, entries.foldlM (fun ids (name, value) => do
      let name ← assertType "string" name.asString
      let value ← assertType "string" value.asString
      return ids.insert name value) acc = (Except.ok ids : Except Fault _) := by
  induction entries generalizing acc with
  | nil => exact ⟨acc, rfl⟩
  | cons e entries ih =>
    obtain ⟨name, value⟩ := e
    have both := strings name value (List.mem_cons_self _ _)
    simp only [Option.isSome_iff_exists] at both
    obtain ⟨⟨k, hk⟩, ⟨w, hw⟩⟩ := both
    obtain ⟨ids, hids⟩ :=
      ih (fun a b member => strings a b (List.mem_cons_of_mem _ member)) (acc.insert k w)
    exact ⟨ids, by simp only [List.foldlM_cons, hk, hw, assertType_some]; exact hids⟩

theorem copyExternalIDs_of_encodes {v : Option Value} (h : ColumnType.stringMap.encodes v) :
    ∃ ids, copyExternalIDs v = .ok ids := by
  rcases v with _ | ((_ | _ | _ | _) | _ | m)
  all_goals first | cases h | skip
  exact foldlM_insert_ok m.entries (fun _ _ member => by simpa using List.all_eq_true.mp h _ member)
    GoMap.empty

theorem fetchTrunks_of_encodes {v : Option Value} (h : ColumnType.integerSet.encodes v) :
    ∃ ids, fetchTrunks v = .ok ids := by
  rcases v with _ | ((_ | _ | _ | _) | elems | _) <;> simp [ColumnType.encodes] at h
  · exact ⟨[], rfl⟩
  · obtain ⟨ids, hids, -⟩ := mapM_ok_of_forall (f := fun a : Atom => assertType "float64" a.asReal)
      (R := fun _ _ => True) fun a member => by
        obtain ⟨y, hy⟩ := Option.isSome_iff_exists.mp (h a member)
        exact ⟨y, by simp [hy], trivial⟩
    exact ⟨ids, hids⟩

@[simp] theorem fetchTrunks_bare (x : Int) : fetchTrunks (some (.atom (.real x))) = .ok [] := rfl

theorem fetchTrunks_set (ids : List Int) : fetchTrunks (some (.set (ids.map .real))) = .ok ids := by
  show (ids.map Atom.real).mapM (fun item => assertType "float64" item.asReal) = .ok ids
  induction ids with
  | nil => rfl
  | cons id ids ih =>
    rw [List.map_cons, mapM_cons_of_ok (f := fun item : Atom => assertType "float64" item.asReal)
      (x := .real id) (y := id) rfl, ih]
    rfl

end Columns

/-! ### The specification -/

section Spec

variable (cfg : MonitorConfig) (ipCache : IPCache) (ovsdbCache : OVSDBCache)

/-- The row `uuid` of the Interface table exists and its `error` column is not a non-empty
string. -/
def usableInterface (uuid : UUID) : Bool :=
  match (ovsdbCache.table "Interface").lookup uuid with
  | some row => !ifHasError (row.field "error")
  | none => false

/-- `intf` is the interface built from the Interface row `uuid` on the bridge `bridgeName`.
It shares the IP cache's map under its key `"<bridge>-<ofport>"` when the row's `ofport` is a
non-negative number, and has no IP map otherwise. -/
def InterfaceFrom (bridgeName : String) (uuid : UUID) (intf : OVSInterface IPMapRef) : Prop :=
  fetchInterfaceLocked ipCache ovsdbCache uuid bridgeName = .ok (some intf) ∧
  ∃ row, (ovsdbCache.table "Interface").lookup uuid = some row ∧
    ((∃ ofport, asFloat64 (row.field "ofport") = some ofport ∧ 0 ≤ ofport ∧
        intf.ipMap = cacheRef ipCache (ifaceKey bridgeName (int32OfFloat ofport))) ∨
      ((∀ ofport, asFloat64 (row.field "ofport") = some ofport → ofport < 0) ∧ intf.ipMap = .nil))

/-- `port` is built from the Port row `uuid` on the bridge `bridgeName`: its name and external
ids are the row's, its trunk renders the row's trunks, and its interfaces are those of the
row's `interfaces` column that exist and report no error, in column order. -/
def PortFrom (bridgeName : String) (uuid : UUID) (port : OVSPort IPMapRef) : Prop :=
  ∃ row, (ovsdbCache.table "Port").lookup uuid = some row ∧
    asString (row.field "name") = some port.name ∧
    copyExternalIDs (row.field "external_ids") = .ok port.externalIDs ∧
    (∃ trunks, fetchTrunks (row.field "trunks") = .ok trunks ∧
      port.vlanConfig.trunk = trunkString trunks) ∧
    List.Forall₂ (InterfaceFrom ipCache ovsdbCache bridgeName)
      ((listUUID (row.field "interfaces")).filter (usableInterface ovsdbCache)) port.interfaces

/-- `br` is built from the Bridge row `uuid`: its name, and a port for each UUID of the row's
`ports` column, in column order. -/
def BridgeFrom (uuid : UUID) (br : OVSBridge IPMapRef) : Prop :=
  ∃ row, (ovsdbCache.table "Bridge").lookup uuid = some row ∧ asString (row.field "name") = some br.name ∧
    List.Forall₂ (PortFrom ipCache ovsdbCache br.name) (listUUID (row.field "ports")) br.ports

/-- Some row of the Bridge table names, in its `ports` column, a port the mirror does not
hold. -/
def DanglingPort : Prop :=
  ∃ entry ∈ (ovsdbCache.table "Bridge").entries, ∃ uuid ∈ listUUID (entry.2.field "ports"),
    (ovsdbCache.table "Port").lookup uuid = none

instance : Decidable (DanglingPort ovsdbCache) :=
  inferInstanceAs (Decidable (∃ entry ∈ (ovsdbCache.table "Bridge").entries,
    ∃ uuid ∈ listUUID (entry.2.field "ports"), (ovsdbCache.table "Port").lookup uuid = none))

variable {ovsdbCache}

/-- An interface gets the IP cache's map under its key exactly when its `ofport` is a
non-negative number. -/
theorem ofportAndIPMap_ipMap (ipCache : IPCache) (bridgeName : String) (ofport : Option Value) :
    (∃ o, asFloat64 ofport = some o ∧ 0 ≤ o ∧
        (ofportAndIPMap ipCache bridgeName ofport).2 =
          cacheRef ipCache (ifaceKey bridgeName (int32OfFloat o))) ∨
      ((∀ o, asFloat64 ofport = some o → o < 0) ∧
        (ofportAndIPMap ipCache bridgeName ofport).2 = .nil) := by
  unfold ofportAndIPMap
  cases h : asFloat64 ofport with
  | none => exact .inr ⟨by simp, rfl⟩
  | some o =>
    by_cases nonneg : 0 ≤ o
    · exact .inl ⟨o, rfl, nonneg, by simp [nonneg]⟩
    · exact .inr ⟨by simp only [Option.some.injEq]; omega, by simp [nonneg]⟩

theorem fetchInterfaceLocked_spec (encoded : ovsdbCache.WellEncoded) (uuid : UUID)
    (bridgeName : String) :
    ∃ result, fetchInterfaceLocked ipCache ovsdbCache uuid bridgeName = .ok result ∧
      result.isSome = usableInterface ovsdbCache uuid ∧
      ∀ intf, result = some intf → InterfaceFrom ipCache ovsdbCache bridgeName uuid intf := by
  cases found : (ovsdbCache.table "Interface").lookup uuid with
  | none =>
    exact ⟨none, by simp [fetchInterfaceLocked, found, pure, Except.pure],
      by simp [usableInterface, found], by simp⟩
  | some row =>
    by_cases faulty : ifHasError (row.field "error") = true
    · exact ⟨none, by simp [fetchInterfaceLocked, found, faulty, pure, Except.pure],
        by simp [usableInterface, found, faulty], by simp⟩
    have schema : ("Interface", [("name", ColumnType.string), ("type", .string),
        ("external_ids", .stringMap), ("mac_in_use", .optionalString), ("ofport", .optionalInteger),
        ("error", .optionalString)]) ∈ readColumns := by simp [readColumns]
    obtain ⟨name, hname⟩ := asString_of_encodes (encoded.column schema found "name" (by simp))
    obtain ⟨type, htype⟩ := asString_of_encodes (encoded.column schema found "type" (by simp))
    obtain ⟨ids, hids⟩ :=
      copyExternalIDs_of_encodes (encoded.column schema found "external_ids" (by simp))
    simp only [Bool.not_eq_true] at faulty
    have built : fetchInterfaceLocked ipCache ovsdbCache uuid bridgeName = .ok (some
        ⟨name, type, interfaceMac ids (row.field "mac_in_use"),
          (ofportAndIPMap ipCache bridgeName (row.field "ofport")).1, ids,
          (ofportAndIPMap ipCache bridgeName (row.field "ofport")).2⟩) := by
      simp [fetchInterfaceLocked, found, faulty, hname, htype, hids, pure, Except.pure, bind,
        Except.bind]
    refine ⟨_, built, by simp [usableInterface, found, faulty], ?_⟩
    rintro intf ⟨⟩
    exact ⟨built, row, found, ofportAndIPMap_ipMap ipCache bridgeName _⟩

/-- Keeping, of a port's `interfaces` column, the interfaces that are built. -/
private theorem forall₂_reduceOption {bridgeName : String} {uuids : List UUID}
    {results : List (Option (OVSInterface IPMapRef))} (encoded : ovsdbCache.WellEncoded)
    (fetched : List.Forall₂ (fun uuid result =>
      fetchInterfaceLocked ipCache ovsdbCache uuid bridgeName = .ok result) uuids results) :
    List.Forall₂ (InterfaceFrom ipCache ovsdbCache bridgeName)
      (uuids.filter (usableInterface ovsdbCache)) results.reduceOption := by
  induction fetched with
  | nil => exact .nil
  | @cons uuid result uuids results head _ ih =>
    obtain ⟨result', fetched, usable, from'⟩ := fetchInterfaceLocked_spec ipCache encoded uuid bridgeName
    rw [head, Except.ok.injEq] at fetched
    subst fetched
    cases result with
    | none =>
      rw [List.filter_cons_of_neg (by simp [← usable]), List.reduceOption_cons_of_none]
      exact ih
    | some intf =>
      rw [List.filter_cons_of_pos usable.symm, List.reduceOption_cons_of_some]
      exact .cons (from' intf rfl) ih

theorem fetchPortLocked_of_missing {uuid : UUID} (missing : (ovsdbCache.table "Port").lookup uuid = none)
    (bridgeName : String) :
    fetchPortLocked cfg ipCache ovsdbCache uuid bridgeName =
      .error (.error ("ovs port " ++ uuidText uuid ++ " not found in cache")) := by
  simp [fetchPortLocked, missing, throw, throwThe, MonadExceptOf.throw]

theorem fetchPortLocked_of_found (encoded : ovsdbCache.WellEncoded) {uuid : UUID} {row : Row}
    (found : (ovsdbCache.table "Port").lookup uuid = some row) (bridgeName : String) :
    ∃ port, fetchPortLocked cfg ipCache ovsdbCache uuid bridgeName = .ok port ∧
      PortFrom ipCache ovsdbCache bridgeName uuid port := by
  have schema : ("Port", [("name", ColumnType.string), ("external_ids", .stringMap),
      ("vlan_mode", .optionalString), ("bond_mode", .optionalString), ("tag", .optionalInteger),
      ("trunks", .integerSet), ("interfaces", .uuidSet)]) ∈ readColumns := by simp [readColumns]
  obtain ⟨name, hname⟩ := asString_of_encodes (encoded.column schema found "name" (by simp))
  obtain ⟨ids, hids⟩ :=
    copyExternalIDs_of_encodes (encoded.column schema found "external_ids" (by simp))
  obtain ⟨trunks, htrunks⟩ := fetchTrunks_of_encodes (encoded.column schema found "trunks" (by simp))
  obtain ⟨results, hresults, fetched⟩ := mapM_ok_of_forall
    (f := fun uuid => fetchInterfaceLocked ipCache ovsdbCache uuid bridgeName) fun uuid _ =>
      (fetchInterfaceLocked_spec ipCache encoded uuid bridgeName).imp fun _ h => ⟨h.1, h.1⟩
  simp only [fetchPortLocked, found, hname, hids, htrunks, assertType_some, bind, Except.bind, pure,
    Except.pure]
  rw [hresults]
  exact ⟨_, rfl, row, found, hname, hids, ⟨trunks, htrunks, rfl⟩,
    forall₂_reduceOption ipCache encoded fetched⟩

theorem fetchPortLocked_no_panic (encoded : ovsdbCache.WellEncoded) (uuid : UUID)
    (bridgeName msg : String) :
    fetchPortLocked cfg ipCache ovsdbCache uuid bridgeName ≠ .error (.panic msg) := by
  cases found : (ovsdbCache.table "Port").lookup uuid with
  | none => simp [fetchPortLocked_of_missing cfg ipCache found]
  | some row =>
    obtain ⟨port, fetched, -⟩ :
        ∃ port, fetchPortLocked cfg ipCache ovsdbCache uuid bridgeName = .ok port ∧ _ :=
      fetchPortLocked_of_found cfg ipCache encoded found bridgeName
    simp [fetched]

/-! ### A sample mirror -/

def Row.ofList (columns : List (String × Value)) : Row := ⟨GoMap.ofList columns⟩

/-- A mirror as ovs-vswitchd fills it in, with the root row's version, the bridge's name and the
port's trunks given: bridge `br0` with port `p0`, whose interface `eth0` has ofport 5 and whose
interface `eth1` reports an error. -/
def sampleMirror (version bridgeName trunks : Value) : OVSDBCache :=
  GoMap.ofList [
    ("Open_vSwitch", GoMap.ofList [("root", Row.ofList [("ovs_version", version)])]),
    ("Bridge", GoMap.ofList [("b0", Row.ofList [("name", bridgeName), ("ports", .atom (.uuid "p0"))])]),
    ("Port", GoMap.ofList [("p0", Row.ofList [("name", .atom (.string "p0")),
      ("external_ids", .map GoMap.empty), ("vlan_mode", .set []), ("bond_mode", .set []),
      ("tag", .set []), ("trunks", trunks), ("interfaces", .set [.uuid "i0", .uuid "i1"])])]),
    ("Interface", GoMap.ofList [
      ("i0", Row.ofList [("name", .atom (.string "eth0")), ("type", .atom (.string "")),
        ("external_ids", .map GoMap.empty), ("mac_in_use", .atom (.string "aa:bb")),
        ("ofport", .atom (.real 5)), ("error", .set [])]),
      ("i1", Row.ofList [("name", .atom (.string "eth1")), ("type", .atom (.string "")),
        ("external_ids", .map GoMap.empty), ("mac_in_use", .set []),
        ("ofport", .atom (.real (-1))), ("error", .atom (.string "could not open"))])])]

def sampleConfig : MonitorConfig := ⟨"agent", GoMap.empty, GoMap.empty⟩

/-- An IP cache holding one address learned at `eth0`'s key. -/
def sampleCache : IPCache := GoMap.single "br0-5" (GoMap.single "10.0.0.7" 1)

/-! ### Trunks -/

/-- A port whose trunks column is a set of VLAN ids gets as its trunk those ids in column
order, in decimal, separated by commas. -/
theorem fetchPortLocked_trunk_of_set (encoded : ovsdbCache.WellEncoded) {uuid : UUID} {row : Row}
    (found : (ovsdbCache.table "Port").lookup uuid = some row) {ids : List Int}
    (trunks : row.field "trunks" = some (.set (ids.map .real))) (vlan : ∀ id ∈ ids, 0 ≤ id ∧ id < 4096)
    (bridgeName : String) :
    ∃ port, fetchPortLocked cfg ipCache ovsdbCache uuid bridgeName = .ok port ∧
      port.vlanConfig.trunk = goJoin (ids.map toString) "," := by
  obtain ⟨port, fetched, row', found', -, -, ⟨ids', hids, trunk⟩, -⟩ :=
    fetchPortLocked_of_found cfg ipCache encoded found bridgeName
  cases found.symm.trans found'
  rw [trunks, fetchTrunks_set, Except.ok.injEq] at hids
  subst hids
  exact ⟨port, fetched,
    trunk.trans (trunkString_eq ids fun id member => by have := vlan id member; omega)⟩

/-- The trunk of a port whose trunks column is a set of VLAN ids reads back as the ids: split
at commas, the parts' decimal digits are the ids in column order. An empty set gives the empty
trunk. -/
theorem fetchPortLocked_trunk_roundTrip (encoded : ovsdbCache.WellEncoded) {uuid : UUID}
    {row : Row} (found : (ovsdbCache.table "Port").lookup uuid = some row) {ids : List Int}
    (trunks : row.field "trunks" = some (.set (ids.map .real))) (vlan : ∀ id ∈ ids, 0 ≤ id ∧ id < 4096)
    (bridgeName : String) :
    ∃ port, fetchPortLocked cfg ipCache ovsdbCache uuid bridgeName = .ok port ∧
      (ids = [] → port.vlanConfig.trunk = "") ∧
      (ids ≠ [] → (goSplit port.vlanConfig.trunk ',').map (fun part => (digitsValue part.data : Int)) =
        ids) := by
  obtain ⟨port, fetched, trunk⟩ := fetchPortLocked_trunk_of_set cfg ipCache encoded found trunks vlan
    bridgeName
  refine ⟨port, fetched, fun empty => by rw [trunk, empty]; rfl, fun nonempty => ?_⟩
  rw [trunk]
  exact decode_goJoin_toString (fun id member => (vlan id member).1) nonempty

theorem fetchPortLocked_trunk_roundTrip_on_sample :
    (sampleMirror (.atom (.string "2.14")) (.atom (.string "br0")) (.set [.real 10, .real 20])).WellEncoded ∧
      ∃ port, fetchPortLocked sampleConfig GoMap.empty
          (sampleMirror (.atom (.string "2.14")) (.atom (.string "br0")) (.set [.real 10, .real 20]))
          "p0" "br0" = .ok port ∧
        (([10, 20] : List Int) = [] → port.vlanConfig.trunk = "") ∧
        (([10, 20] : List Int) ≠ [] → (goSplit port.vlanConfig.trunk ',').map
          (fun part => (digitsValue part.data : Int)) = [10, 20]) :=
  ⟨by decide, @fetchPortLocked_trunk_roundTrip sampleConfig GoMap.empty
    (sampleMirror (.atom (.string "2.14")) (.atom (.string "br0")) (.set [.real 10, .real 20]))
    (by decide) "p0" _ rfl [10, 20] rfl (by decide) "br0"⟩

/-- A port whose trunks column is a single VLAN id, delivered as a bare number, gets an empty
trunk: the trunk loop reads only sets. -/
theorem fetchPortLocked_trunk_of_bare (encoded : ovsdbCache.WellEncoded) {uuid : UUID} {row : Row}
    (found : (ovsdbCache.table "Port").lookup uuid = some row) {id : Int}
    (trunks : row.field "trunks" = some (.atom (.real id))) (bridgeName : String) :
    ∃ port, fetchPortLocked cfg ipCache ovsdbCache uuid bridgeName = .ok port ∧
      port.vlanConfig.trunk = "" := by
  obtain ⟨port, fetched, row', found', -, -, ⟨ids', hids, trunk⟩, -⟩ :=
    fetchPortLocked_of_found cfg ipCache encoded found bridgeName
  cases found.symm.trans found'
  rw [trunks, fetchTrunks_bare, Except.ok.injEq] at hids
  subst hids
  exact ⟨port, fetched, trunk⟩

theorem fetchPortLocked_drops_bare_trunk :
    (sampleMirror (.atom (.string "2.14")) (.atom (.string "br0")) (.atom (.real 100))).WellEncoded ∧
      (fetchPortLocked sampleConfig GoMap.empty
        (sampleMirror (.atom (.string "2.14")) (.atom (.string "br0")) (.atom (.real 100))) "p0" "br0").map
        (·.vlanConfig.trunk) = .ok "" := by
  have encoded : (sampleMirror (.atom (.string "2.14")) (.atom (.string "br0")) (.atom (.real 100))).WellEncoded :=
    by decide
  obtain ⟨port, fetched, trunk⟩ :=
    @fetchPortLocked_trunk_of_bare sampleConfig GoMap.empty _ encoded "p0" _ rfl 100 rfl "br0"
  exact ⟨encoded, by rw [fetched, ← trunk]; rfl⟩

/-- A bridge fails, with an `error`, exactly when it names a port the mirror does not hold. -/
theorem fetchBridgeLocked_spec (encoded : ovsdbCache.WellEncoded) {uuid : UUID} {row : Row}
    (found : (ovsdbCache.table "Bridge").lookup uuid = some row) :
    ((∃ portUuid ∈ listUUID (row.field "ports"), (ovsdbCache.table "Port").lookup portUuid = none) ∧
        ∃ msg, fetchBridgeLocked cfg ipCache ovsdbCache uuid = .error (.error msg)) ∨
      ((∀ portUuid ∈ listUUID (row.field "ports"), (ovsdbCache.table "Port").lookup portUuid ≠ none) ∧
        ∃ br, fetchBridgeLocked cfg ipCache ovsdbCache uuid = .ok br ∧
          BridgeFrom ipCache ovsdbCache uuid br) := by
  have schema : ("Bridge", [("name", ColumnType.string), ("ports", .uuidSet)]) ∈ readColumns := by
    simp [readColumns]
  obtain ⟨name, hname⟩ := asString_of_encodes (encoded.column schema found "name" (by simp))
  have ports : fetchBridgeLocked cfg ipCache ovsdbCache uuid =
      ((listUUID (row.field "ports")).mapM fun uuid =>
        fetchPortLocked cfg ipCache ovsdbCache uuid name).map (⟨name, ·⟩) := by
    simp only [fetchBridgeLocked, found, hname, assertType_some, bind, Except.bind]
    cases (listUUID (row.field "ports")).mapM fun uuid =>
      fetchPortLocked cfg ipCache ovsdbCache uuid name <;> rfl
  by_cases dangling :
      ∃ portUuid ∈ listUUID (row.field "ports"), (ovsdbCache.table "Port").lookup portUuid = none
  · refine .inl ⟨dangling, ?_⟩
    obtain ⟨missingUuid, listed, missing⟩ := dangling
    cases h : (listUUID (row.field "ports")).mapM fun uuid =>
        fetchPortLocked cfg ipCache ovsdbCache uuid name with
    | ok ports =>
      obtain ⟨port, fetched⟩ := exists_ok_of_mapM_ok h missingUuid listed
      rw [fetchPortLocked_of_missing cfg ipCache missing] at fetched
      cases fetched
    | error e =>
      obtain ⟨msg, rfl⟩ := mapM_error_of_no_panic h fun portUuid _ =>
        fetchPortLocked_no_panic cfg ipCache encoded portUuid name
      exact ⟨msg, by rw [ports, h]; rfl⟩
  · simp only [not_exists, not_and] at dangling
    obtain ⟨ports', hports, rel⟩ := mapM_ok_of_forall
      (f := fun uuid => fetchPortLocked cfg ipCache ovsdbCache uuid name) fun portUuid listed => by
        obtain ⟨portRow, hp⟩ := Option.ne_none_iff_exists'.mp (dangling portUuid listed)
        exact fetchPortLocked_of_found cfg ipCache encoded hp name
    exact .inr ⟨dangling, ⟨name, ports'⟩, by rw [ports, hports]; rfl, row, found, hname, rel⟩

/-- The version `getAgentInfo` keeps is a value, empty when the mirror has no root row, as long
as the root row's version is a string. -/
theorem valueOrZero_fetchOvsVersionLocked
    (versionSet : ∀ row ∈ (ovsdbCache.table "Open_vSwitch").entries,
      (asString (row.2.field "ovs_version")).isSome) :
    ∃ version, valueOrZero "" (fetchOvsVersionLocked ovsdbCache) = .ok version := by
  unfold fetchOvsVersionLocked
  cases rows : (ovsdbCache.table "Open_vSwitch").entries with
  | nil => exact ⟨"", rfl⟩
  | cons root _ =>
    obtain ⟨version, hversion⟩ :=
      Option.isSome_iff_exists.mp (versionSet root (rows ▸ List.mem_cons_self _ _))
    exact ⟨version, by simp [hversion, valueOrZero]⟩

theorem getAgentInfo_of_version {version : String}
    (hversion : valueOrZero "" (fetchOvsVersionLocked ovsdbCache) = .ok version)
    (hostname : Option String) (now : Time) :
    getAgentInfo cfg ipCache hostname ovsdbCache now =
      ((ovsdbCache.table "Bridge").keys.mapM fun uuid =>
        (fetchBridgeLocked cfg ipCache ovsdbCache uuid).mapError
          (wrapError ("unable fetch bridge " ++ uuid ++ ": "))).map fun bridges =>
        ⟨⟨cfg.agentName, "", 0⟩, hostname.getD "", ⟨version, bridges⟩,
          [healthyCondition now]⟩ := by
  simp only [getAgentInfo, hversion, bind, Except.bind]
  cases (ovsdbCache.table "Bridge").keys.mapM fun uuid =>
    (fetchBridgeLocked cfg ipCache ovsdbCache uuid).mapError
      (wrapError ("unable fetch bridge " ++ uuid ++ ": ")) <;> rfl

/-- The root row's version is asserted to be a string: when it is unset, an empty set,
`getAgentInfo` panics, whatever the rest of the mirror. -/
theorem getAgentInfo_of_unset_version {root : UUID × Row} {rows : List (UUID × Row)}
    (first : (ovsdbCache.table "Open_vSwitch").entries = root :: rows)
    (unset : root.2.field "ovs_version" = some (.set [])) (hostname : Option String) (now : Time) :
    getAgentInfo cfg ipCache hostname ovsdbCache now =
      .error (.panic "interface conversion: interface is not string") := by
  simp [getAgentInfo, fetchOvsVersionLocked, first, unset, asString, assertType, valueOrZero, bind,
    Except.bind]

theorem getAgentInfo_panics_on_unset_version :
    (sampleMirror (.set []) (.atom (.string "br0")) (.set [])).WellEncoded ∧
      getAgentInfo sampleConfig GoMap.empty none (sampleMirror (.set []) (.atom (.string "br0")) (.set [])) 0 =
        .error (.panic "interface conversion: interface is not string") :=
  ⟨by decide, getAgentInfo_of_unset_version sampleConfig GoMap.empty (by rfl) (by rfl) none 0⟩

/-- A bridge of the table as `getAgentInfo` fetches it, under its message prefix. -/
private theorem fetchBridgeLocked_wrapped (encoded : ovsdbCache.WellEncoded) {uuid : UUID} {row : Row}
    (found : (ovsdbCache.table "Bridge").lookup uuid = some row) (pfx : String) :
    ((∃ portUuid ∈ listUUID (row.field "ports"), (ovsdbCache.table "Port").lookup portUuid = none) ∧
        ∃ msg, (fetchBridgeLocked cfg ipCache ovsdbCache uuid).mapError (wrapError pfx) =
          .error (.error msg)) ∨
      ((∀ portUuid ∈ listUUID (row.field "ports"), (ovsdbCache.table "Port").lookup portUuid ≠ none) ∧
        ∃ br, (fetchBridgeLocked cfg ipCache ovsdbCache uuid).mapError (wrapError pfx) = .ok br ∧
          BridgeFrom ipCache ovsdbCache uuid br) :=
  (fetchBridgeLocked_spec cfg ipCache encoded found).imp
    (fun ⟨dangling, msg, failed⟩ => ⟨dangling, pfx ++ msg, by rw [failed]; rfl⟩)
    (fun ⟨complete, br, fetched, built⟩ => ⟨complete, br, by rw [fetched]; rfl, built⟩)

/-- On a well-encoded mirror whose root row sets `ovs_version`, `getAgentInfo` fails exactly when
a bridge names a port the mirror lacks, and otherwise builds one bridge from each Bridge row, in
the table's order. -/
theorem getAgentInfo_exact (encoded : ovsdbCache.WellEncoded)
    (versionSet : ∀ row ∈ (ovsdbCache.table "Open_vSwitch").entries,
      (asString (row.2.field "ovs_version")).isSome)
    (hostname : Option String) (now : Time) :
    ((∃ msg, getAgentInfo cfg ipCache hostname ovsdbCache now = .error (.error msg)) ↔
        DanglingPort ovsdbCache) ∧
      (¬DanglingPort ovsdbCache → ∃ snapshot,
        getAgentInfo cfg ipCache hostname ovsdbCache now = .ok snapshot ∧
        List.Forall₂ (BridgeFrom ipCache ovsdbCache) (ovsdbCache.table "Bridge").keys
          snapshot.ovsInfo.bridges) := by
  obtain ⟨version, hversion⟩ := valueOrZero_fetchOvsVersionLocked versionSet
  rw [getAgentInfo_of_version cfg ipCache hversion]
  by_cases dangling : DanglingPort ovsdbCache
  · refine ⟨iff_of_true ?_ dangling, absurd dangling⟩
    cases h : (ovsdbCache.table "Bridge").keys.mapM fun uuid =>
        (fetchBridgeLocked cfg ipCache ovsdbCache uuid).mapError
          (wrapError ("unable fetch bridge " ++ uuid ++ ": ")) with
    | ok bridges =>
      obtain ⟨⟨uuid, row⟩, member, portUuid, listed, missing⟩ := id dangling
      obtain ⟨br, fetched⟩ := exists_ok_of_mapM_ok h uuid (GoMap.mem_keys_of_mem member)
      rcases fetchBridgeLocked_wrapped cfg ipCache encoded (GoMap.lookup_eq_some_iff.mpr member) _ with
        ⟨-, msg, failed⟩ | ⟨complete, -⟩
      · cases fetched.symm.trans failed
      · exact absurd missing (complete portUuid listed)
    | error e =>
      obtain ⟨uuid, listed, failed⟩ := mapM_error h
      obtain ⟨row, found⟩ := Option.isSome_iff_exists.mp (GoMap.mem_keys.mp listed)
      rcases fetchBridgeLocked_wrapped cfg ipCache encoded found _ with
        ⟨-, msg, failed'⟩ | ⟨-, br, fetched, -⟩
      · exact ⟨msg, by rw [Except.error.inj (failed.symm.trans failed')]; rfl⟩
      · cases failed.symm.trans fetched
  · obtain ⟨bridges, hbridges, rel⟩ := mapM_ok_of_forall
      (f := fun uuid => (fetchBridgeLocked cfg ipCache ovsdbCache uuid).mapError
        (wrapError ("unable fetch bridge " ++ uuid ++ ": ")))
      (R := BridgeFrom ipCache ovsdbCache) fun uuid listed => by
        obtain ⟨row, found⟩ := Option.isSome_iff_exists.mp (GoMap.mem_keys.mp listed)
        rcases fetchBridgeLocked_wrapped cfg ipCache encoded found _ with
          ⟨⟨portUuid, portListed, missing⟩, -⟩ | ⟨-, built⟩
        · exact absurd ⟨(uuid, row), GoMap.lookup_eq_some_iff.mp found, portUuid, portListed, missing⟩
            dangling
        · exact built
    rw [hbridges]
    exact ⟨iff_of_false (by simp [Except.map]) dangling, fun _ => ⟨_, rfl, rel⟩⟩

theorem getAgentInfo_exact_on_sample :
    let mirror := sampleMirror (.atom (.string "2.14")) (.atom (.string "br0")) (.set [.real 100])
    mirror.WellEncoded ∧
      (∀ row ∈ (mirror.table "Open_vSwitch").entries, (asString (row.2.field "ovs_version")).isSome) ∧
      ((∃ msg, getAgentInfo sampleConfig GoMap.empty none mirror 0 = .error (.error msg)) ↔
          DanglingPort mirror) ∧
        (¬DanglingPort mirror → ∃ snapshot, getAgentInfo sampleConfig GoMap.empty none mirror 0 = .ok snapshot ∧
          List.Forall₂ (BridgeFrom GoMap.empty mirror) (mirror.table "Bridge").keys
            snapshot.ovsInfo.bridges) :=
  ⟨by decide, by decide, getAgentInfo_exact sampleConfig GoMap.empty (by decide) (by decide) none 0⟩

/-- A well-encoded mirror with no dangling port, whose root row leaves `ovs_version` unset: the
build neither fails with an error nor gives a snapshot, it panics. -/
theorem getAgentInfo_panics_without_dangling_port :
    (sampleMirror (.set []) (.atom (.string "br0")) (.set [])).WellEncoded ∧
      ¬DanglingPort (sampleMirror (.set []) (.atom (.string "br0")) (.set [])) ∧
      getAgentInfo sampleConfig GoMap.empty none
        (sampleMirror (.set []) (.atom (.string "br0")) (.set [])) 0 =
        .error (.panic "interface conversion: interface is not string") :=
  ⟨by decide, by decide, getAgentInfo_of_unset_version sampleConfig GoMap.empty (by rfl) (by rfl) none 0⟩

end Spec

end Everoute.Monitor
