/-
# Requests

`Request` of `crates/client/src/lib.rs` and the parameter structs of
`src/ipc.rs`, with `params`, which reads them out of a JSON value.

`serde`'s derived code takes a struct from an object, field by field, or from an
array, in the order of the fields; a missing field needs a default, and with
`deny_unknown_fields` an object has no other fields.  What `serde_json` says of
parameters that do not fit is not modelled: it is `Failure.parameters`.

Repeated fields, fields that are missing and values out of the range of their type are
refused in the way of `serde`, for each type of parameters by one description of its
fields (`field`).
-/

import Railwatch.History.Store

namespace Railwatch

/-- `serde_json::Value`.  A number is an integer of 64 bits or a float. An object is the
list of its fields, so that one can occur twice in a request. -/
inductive Json where
  | null
  | bool (b : Bool)
  | int (n : ℤ)
  | float (text : String)
  | str (s : String)
  | arr (values : List Json)
  | obj (fields : List (String × Json))

/-- `Request`. The parameters are `null` if there are none, and the two flags are off. -/
structure Request where
  /-- With the name of its interface. -/
  method : String
  /-- Any value. -/
  parameters : Json := .null
  /-- A stream is asked for. -/
  more : Bool := false
  /-- No reply is wanted. -/
  oneway : Bool := false

/-- Why a request fails: with a message, or because `serde_json` refuses its
parameters. -/
inductive Failure where
  | message (text : String)
  | parameters
  deriving DecidableEq, Repr

/-! ### Reading values -/

/-- A `String`. -/
def Json.asString : Json → Option String
  | .str s => some s
  | _ => none

/-- A `bool`. -/
def Json.asBool : Json → Option Bool
  | .bool b => some b
  | _ => none

/-- An `i64`. -/
def Json.asI64 : Json → Option ℤ
  | .int n => if -2 ^ 63 ≤ n ∧ n < 2 ^ 63 then some n else none
  | _ => none

/-- An unsigned number of some bits. -/
def Json.asUnsigned (bits : ℕ) : Json → Option ℕ
  | .int n => if 0 ≤ n ∧ n < 2 ^ bits then some n.toNat else none
  | _ => none

/-- The fields of a struct. -/
def Json.fields (names : List String) (denyUnknown : Bool) : Json → Option (String → Option Json)
  | .obj fields =>
      if denyUnknown && fields.any fun f => f.1 ∉ names then none
      else some fun name => fields.lookup name
  | .arr values =>
      if names.length < values.length then none else some fun name => values[names.idxOf name]?
  | _ => none

/-- One field of a struct, or its default. -/
def field {α : Type} (fields : String → Option Json) (name : String) (read : Json → Option α)
    (default : Option α := none) : Option α :=
  match fields name with
  | some v => read v
  | none => default

/-! ### Parameters -/

/-- `Range`, of the methods `Samples` and `Energy`, each of which uses a part of it. -/
structure Range where
  deviceId : String
  fromMs : ℤ
  toMs : ℤ
  period : String
  timezone : String
  limit : ℕ

/-- `IncidentQuery`: whether only open ones are asked for, and how many at most. -/
structure IncidentQuery where
  active : Bool
  limit : ℕ

/-- `Rate`: a tariff, and whether it may replace one. -/
structure Rate where
  tariff : Tariff
  replace : Bool

/-- `PolicyUpdate`: a policy, and the revision that it was made from. -/
structure PolicyUpdate where
  expectedRevision : ℕ
  policy : Policy

/-- `limit_default`. -/
def limitDefault : ℕ := 1000

/-- `period_default`. -/
def periodDefault : String := "day"

/-- `zone_default`. -/
def zoneDefault : String := "UTC"

/-- `Empty`. -/
def Json.asEmpty (v : Json) : Option Unit := (v.fields [] true).map fun _ => ()

/-- The one field of `Id` and of `Name`. -/
def Json.asOne (name : String) (v : Json) : Option String := do
  let fields ← v.fields [name] true
  field fields name Json.asString

/-- `Range`, with the defaults of its fields. The device and the two times have to be
there; unknown fields are refused. -/
def Json.asRange (v : Json) : Option Range := do
  let fields ← v.fields ["device_id", "from_ms", "to_ms", "period", "timezone", "limit"] true
  return {
    deviceId := ← field fields "device_id" Json.asString
    fromMs := ← field fields "from_ms" Json.asI64
    toMs := ← field fields "to_ms" Json.asI64
    period := ← field fields "period" Json.asString periodDefault
    timezone := ← field fields "timezone" Json.asString zoneDefault
    limit := ← field fields "limit" (Json.asUnsigned 64) limitDefault }

/-- `IncidentQuery`. -/
def Json.asIncidentQuery (v : Json) : Option IncidentQuery := do
  let fields ← v.fields ["active", "limit"] true
  return {
    active := ← field fields "active" Json.asBool false
    limit := ← field fields "limit" (Json.asUnsigned 64) limitDefault }

/-- `Tariff`, a field of `Rate`. -/
def Json.asTariff (v : Json) : Option Tariff := do
  let fields ← v.fields ["effective_at_ms", "microcurrency_per_kwh", "currency"] false
  return {
    effectiveAtMs := ← field fields "effective_at_ms" Json.asI64
    microcurrencyPerKwh := ← field fields "microcurrency_per_kwh" Json.asI64
    currency := ← field fields "currency" Json.asString }

/-- `Rate`. -/
def Json.asRate (v : Json) : Option Rate := do
  let fields ← v.fields ["tariff", "replace"] true
  return {
    tariff := ← field fields "tariff" Json.asTariff
    replace := ← field fields "replace" Json.asBool false }

/-- `Policy`, all of whose fields have to be there, and no others. Whether the values
make sense is not decided here but by `validate`. -/
def Json.asPolicy (v : Json) : Option Policy := do
  let fields ← v.fields ["imbalance_enabled", "minimum_connector_ma", "deviation_percent",
    "clear_deviation_percent", "minimum_spread_ma", "trigger_ms", "recovery_ms"] true
  return {
    imbalanceEnabled := ← field fields "imbalance_enabled" Json.asBool
    minimumConnectorMa := ← field fields "minimum_connector_ma" Json.asI64
    deviationPercent := ← field fields "deviation_percent" (Json.asUnsigned 32)
    clearDeviationPercent := ← field fields "clear_deviation_percent" (Json.asUnsigned 32)
    minimumSpreadMa := ← field fields "minimum_spread_ma" Json.asI64
    triggerMs := ← field fields "trigger_ms" (Json.asUnsigned 64)
    recoveryMs := ← field fields "recovery_ms" (Json.asUnsigned 64) }

/-- `PolicyUpdate`. -/
def Json.asPolicyUpdate (v : Json) : Option PolicyUpdate := do
  let fields ← v.fields ["expected_revision", "policy"] true
  return {
    expectedRevision := ← field fields "expected_revision" (Json.asUnsigned 64)
    policy := ← field fields "policy" Json.asPolicy }

/-- `params`: no parameters are an empty object. -/
def params {α : Type} (read : Json → Option α) (v : Json) : Except Failure α :=
  let v := match v with
    | .null => .obj []
    | v => v
  match read v with
  | some a => .ok a
  | none => .error .parameters

/-! ### What a client writes -/

/-- The fields of a serialized `Policy`. -/
def Policy.entries (p : Policy) : List (String × Json) :=
  [("imbalance_enabled", .bool p.imbalanceEnabled),
    ("minimum_connector_ma", .int p.minimumConnectorMa),
    ("deviation_percent", .int p.deviationPercent),
    ("clear_deviation_percent", .int p.clearDeviationPercent),
    ("minimum_spread_ma", .int p.minimumSpreadMa), ("trigger_ms", .int p.triggerMs),
    ("recovery_ms", .int p.recoveryMs)]

/-- A field that is there is read as it is, whatever its default. -/
theorem field_of_eq {α : Type} {fields : String → Option Json} {name : String} {v : Json}
    (h : fields name = some v) {read : Json → Option α} {default : Option α} :
    field fields name read default = read v := by
  rw [field, h]

/-- An integer of 64 bits is read as itself. -/
theorem Json.asI64_int {n : ℤ} (h : -2 ^ 63 ≤ n ∧ n < 2 ^ 63) : (Json.int n).asI64 = some n :=
  if_pos h

/-- And a natural number of so many bits. -/
theorem Json.asUnsigned_int {bits n : ℕ} (h : n < 2 ^ bits) :
    (Json.int n).asUnsigned bits = some n := by
  have hn : (0 : ℤ) ≤ n ∧ (n : ℤ) < 2 ^ bits := ⟨Int.natCast_nonneg n, by exact_mod_cast h⟩
  rw [Json.asUnsigned, if_pos hn, Int.toNat_natCast]

/-- **A policy that passes its check is read back as it was written.** The check bounds
every number below the limits of its type. -/
theorem Policy.asPolicy_entries {p : Policy} (h : p.validate = .ok ()) :
    (Json.obj p.entries).asPolicy = some p := by
  obtain ⟨hconnector, hdeviation, hclear, hspread, htrigger, hrecovery⟩ := p.bounds_of_validate h
  let fields (name : String) : Option Json := p.entries.lookup name
  have h₁ : field fields "imbalance_enabled" Json.asBool = some p.imbalanceEnabled := rfl
  have h₂ : field fields "minimum_connector_ma" Json.asI64 = some p.minimumConnectorMa :=
    (field_of_eq rfl).trans (Json.asI64_int (by omega))
  have h₃ : field fields "deviation_percent" (Json.asUnsigned 32) = some p.deviationPercent :=
    (field_of_eq rfl).trans (Json.asUnsigned_int (by omega))
  have h₄ : field fields "clear_deviation_percent" (Json.asUnsigned 32) =
      some p.clearDeviationPercent := (field_of_eq rfl).trans (Json.asUnsigned_int (by omega))
  have h₅ : field fields "minimum_spread_ma" Json.asI64 = some p.minimumSpreadMa :=
    (field_of_eq rfl).trans (Json.asI64_int (by omega))
  have h₆ : field fields "trigger_ms" (Json.asUnsigned 64) = some p.triggerMs :=
    (field_of_eq rfl).trans (Json.asUnsigned_int (by omega))
  have h₇ : field fields "recovery_ms" (Json.asUnsigned 64) = some p.recoveryMs :=
    (field_of_eq rfl).trans (Json.asUnsigned_int (by omega))
  have hfields : (Json.obj p.entries).fields ["imbalance_enabled", "minimum_connector_ma",
      "deviation_percent", "clear_deviation_percent", "minimum_spread_ma", "trigger_ms",
      "recovery_ms"] true = some fields := rfl
  rw [Json.asPolicy, hfields, Option.bind_eq_bind, Option.bind_some, h₁, h₂, h₃, h₄, h₅, h₆, h₇]
  rfl

/-- An array gives the fields by position. -/
example : (Json.arr [.bool true, .int 6000, .int 40, .int 20, .int 500, .int 3000,
    .int 5000]).asPolicy = some default := by decide

end Railwatch
