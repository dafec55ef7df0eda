/-
# The price history

The `tariffs` table under calls of `set_tariff` through any number of
connections.  A connection keeps nothing that `set_tariff` uses, and its
statements form one transaction, so calls through several connections act on
the table one after the other.  A statement or the commit may fail: then the
transaction is dropped, and nothing of it is kept.

`PriceHistory` is what holds of the table after any such calls.  The currency of
the whole history is that of its first row, which is all `set_tariff` looks at.

So two connections can not bring two currencies into one table, nor more rates than the
limit, and a rate that is there is only replaced by a call that says so.
-/

import Railwatch.History.Reference

namespace Railwatch

open Sql

/-- A call of `set_tariff`, and the database error it meets, if any. It may come through
any connection. -/
structure TariffCall where
  /-- The tariff. -/
  tariff : Tariff
  /-- Whether it may replace another one. -/
  replace : Bool
  /-- The error of a statement. -/
  failure : Option String := none

/-- What a call returns: the database that it commits, or its error. -/
def TariffCall.answer (call : TariffCall) (db : Database) : Except String Database := do
  let db' ← db.setTariff call.tariff call.replace
  match call.failure with
  | some e => .error e
  | none => .ok db'

/-- The database after a call; one that fails leaves it as it was. -/
def Database.tariffStep (db : Database) (call : TariffCall) : Database :=
  (call.answer db).toOption.getD db

/-- The database after a sequence of calls. -/
def Database.tariffRun (db : Database) (calls : List TariffCall) : Database :=
  Transition.run Database.tariffStep db calls

/-- A call that succeeds has set its tariff. A failure of the store is the other
outcome, and leaves the store as it was. -/
theorem TariffCall.setTariff_of_answer {call : TariffCall} {db db' : Database}
    (h : call.answer db = .ok db') : db.setTariff call.tariff call.replace = .ok db' := by
  unfold TariffCall.answer at h
  cases hset : db.setTariff call.tariff call.replace with
  | error e =>
      rw [hset] at h
      cases h
  | ok db'' =>
      rw [hset] at h
      cases hf : call.failure with
      | none =>
          rw [hf] at h
          exact h
      | some e =>
          rw [hf] at h
          cases h

/-! ### Currency codes -/

/-- The size of a text of capital letters is its length, so a currency of three bytes
has three letters. -/
theorem utf8ByteSize_ofList {l : List Char} (h : ∀ c ∈ l, 'A' ≤ c ∧ c ≤ 'Z') :
    (String.ofList l).utf8ByteSize = l.length := by
  induction l with
  | nil => rfl
  | cons c l ih =>
      have hc : c.utf8Size = 1 := by
        have hle : c ≤ 'Z' := (h c (List.mem_cons_self ..)).2
        rw [Char.utf8Size_eq_one_iff]
        exact UInt32.le_trans (Char.le_def.1 hle) (by decide)
      have hcons : String.ofList (c :: l) = String.singleton c ++ String.ofList l := by
        rw [← String.toList_inj, String.toList_append, String.toList_ofList, String.toList_ofList,
          String.toList_singleton]
        rfl
      rw [hcons, String.utf8ByteSize_append, String.utf8ByteSize_singleton, hc,
        ih fun c' hc' => h c' (List.mem_cons_of_mem _ hc'), List.length_cons, add_comm]

/-- A currency code has three letters, all of them capitals. -/
theorem currencyCode_iff (s : String) :
    currencyCode s = true ↔ s.toList.length = 3 ∧ ∀ c ∈ s.toList, 'A' ≤ c ∧ c ≤ 'Z' := by
  have hsize (h : ∀ c ∈ s.toList, 'A' ≤ c ∧ c ≤ 'Z') : s.utf8ByteSize = s.toList.length := by
    rw [← utf8ByteSize_ofList h, String.ofList_toList]
  simp only [currencyCode, Bool.and_eq_true, beq_iff_eq, List.all_eq_true, decide_eq_true_eq]
  constructor
  · rintro ⟨hthree, hletters⟩
    exact ⟨by rw [← hsize hletters, hthree], hletters⟩
  · rintro ⟨hthree, hletters⟩
    exact ⟨by rw [hsize hletters, hthree], hletters⟩

/-! ### The invariant -/

/-- The table is a price history: each tariff is valid, and all are in one
currency. -/
structure PriceHistory (tariffs : Table ℤ Tariff) : Prop extends TariffTable tariffs where
  /-- Each tariff passes the checks of `set_tariff`. -/
  valid : ∀ k t, tariffs.find? k = some t → t.Valid
  /-- Two tariffs are in the same currency. -/
  currency : ∀ k t k' t', tariffs.find? k = some t → tariffs.find? k' = some t' →
    t.currency = t'.currency

/-- Without tariffs there is nothing to check. -/
theorem priceHistory_empty : PriceHistory ∅ where
  toTariffTable := tariffTable_empty
  valid k t h := by cases h
  currency k t k' t' h := by cases h

/-- The tariffs of a table, by their effective times. -/
theorem exists_find?_of_mem {tariffs : Table ℤ Tariff} {t : Tariff}
    (h : t ∈ tariffs.rows.map Prod.snd) : ∃ k, tariffs.find? k = some t := by
  obtain ⟨⟨k, t⟩, hkt, rfl⟩ := List.mem_map.1 h
  exact ⟨k, Table.find?_eq_some_iff.2 hkt⟩

/-- The first row has the currency of every row. -/
theorem PriceHistory.currency_of_head {db : Database} (h : PriceHistory db.tariffs)
    {currency : String} (hhead : ∀ t, db.tariffsByTime.head? = some t → t.currency = currency)
    {k : ℤ} {t : Tariff} (ht : db.tariffs.find? k = some t) : t.currency = currency := by
  have hmem : t ∈ db.tariffsByTime :=
    mem_tariffsByTime.2 (List.mem_map.2 ⟨(k, t), Table.find?_eq_some_iff.1 ht, rfl⟩)
  obtain ⟨first, hfirst⟩ := Option.isSome_iff_exists.1
    (List.isSome_head?.2 (List.ne_nil_of_mem hmem))
  obtain ⟨k', ht'⟩ := exists_find?_of_mem (mem_tariffsByTime.1 (List.mem_of_head? hfirst))
  rw [← hhead first hfirst]
  exact h.currency k t k' first ht ht'

/-- **`set_tariff` keeps the price history.** All of it is checked: the minute, the
range of the rate, the one currency, and the number of rates. -/
theorem PriceHistory.setTariff {db db' : Database} (h : PriceHistory db.tariffs) {tariff : Tariff}
    {replace : Bool} (hset : db.setTariff tariff replace = .ok db') :
    PriceHistory db'.tariffs := by
  have hfind := Database.find?_setTariff hset
  obtain ⟨hvalid, -, hhead, -, -⟩ := Database.setTariff_ok hset
  have hcurrency : ∀ k t, db'.tariffs.find? k = some t → t.currency = tariff.currency := by
    intro k t ht
    rw [hfind k] at ht
    split_ifs at ht
    · rw [Option.some.inj ht]
    · exact h.currency_of_head hhead ht
  refine ⟨(TariffTable.setTariff hset h.toTariffTable).1, fun k t ht => ?_,
    fun k t k' t' ht ht' => (hcurrency k t ht).trans (hcurrency k' t' ht').symm⟩
  rw [hfind k] at ht
  split_ifs at ht
  · rwa [← Option.some.inj ht]
  · exact h.valid k t ht

/-- The price history stays one over any number of requests. -/
theorem PriceHistory.setTariffs {db : Database} (h : PriceHistory db.tariffs)
    (requests : List (Tariff × Bool)) : PriceHistory (db.setTariffs requests).tariffs := by
  refine Transition.run_induction _ (I := fun db' : Database => PriceHistory db'.tariffs) h
    (fun db' request hdb' => ?_) requests
  cases hset : db'.setTariff request.1 request.2 with
  | error e => exact hdb'
  | ok db'' => exact hdb'.setTariff hset

/-- A call keeps the price history, and a call that fails the database. -/
theorem PriceHistory.tariffStep {db : Database} (h : PriceHistory db.tariffs) (call : TariffCall) :
    PriceHistory (db.tariffStep call).tariffs := by
  unfold Database.tariffStep
  cases hanswer : call.answer db with
  | error e => exact h
  | ok db' => exact h.setTariff (call.setTariff_of_answer hanswer)

/-- And over any number of calls, refused ones among them. -/
theorem PriceHistory.tariffRun {db : Database} (h : PriceHistory db.tariffs)
    (calls : List TariffCall) : PriceHistory (db.tariffRun calls).tariffs :=
  Transition.run_induction Database.tariffStep (I := fun db => PriceHistory db.tariffs) h
    (fun _ call hdb => hdb.tariffStep call) calls

/-! ### Currencies in a summary -/

/-- A rate is that of a tariff of the list. -/
theorem mem_of_rateAt {tariffs : List Tariff} {minute : ℤ} {t : Tariff}
    (h : rateAt tariffs minute = some t) : t ∈ tariffs := by
  unfold rateAt at h
  dsimp only at h
  split_ifs at h
  exact List.mem_of_getElem? h

/-- A bucket has the currency of a tariff that was applied to it. -/
theorem currency_foldl_addMinute (tariffs : List Tariff) (minutes : List (ℤ × EnergyRow))
    (b : EnergySummary × ℤ) :
    (minutes.foldl (addMinute tariffs) b).1.currency = b.1.currency ∨
      ∃ t ∈ tariffs, (minutes.foldl (addMinute tariffs) b).1.currency = some t.currency := by
  induction minutes generalizing b with
  | nil => exact Or.inl rfl
  | cons m minutes ih =>
      rw [List.foldl_cons]
      rcases ih (addMinute tariffs b m) with h | h
      · cases hrate : rateAt tariffs m.1 with
        | none => exact Or.inl (h.trans (by simp [addMinute, hrate]))
        | some t => exact Or.inr ⟨t, mem_of_rateAt hrate, h.trans (by simp [addMinute, hrate])⟩
      · exact Or.inr h

/-- **No summary mixes currencies**: the currency of a row is that of every
tariff. -/
theorem PriceHistory.currency_of_row {db : Database} (h : PriceHistory db.tariffs)
    {zones : String → Except String Zone} {device name timezone : String} {fromMs toMs : ℤ}
    {rows : List EnergySummary}
    (hrows : db.summary zones device fromMs toMs name timezone = .ok rows) {row : EnergySummary}
    (hrow : row ∈ rows) {currency : String} (hcurrency : row.currency = some currency) {t : Tariff}
    (ht : t ∈ db.tariffs.rows.map Prod.snd) : t.currency = currency := by
  obtain ⟨period, zone, tariffs, -, -, htariffs, -, -, hfilled⟩ := Database.summary_rows hrows
  obtain rfl := Except.ok.inj ((tariffList_eq h.toTariffTable).symm.trans htariffs)
  rw [hfilled.filled row hrow] at hcurrency
  rcases currency_foldl_addMinute db.tariffsByTime
    ((db.minuteRows device fromMs toMs).filter fun m => periodKey period zone m.1 = row.period)
    ({ period := row.period }, 0) with hnone | ⟨t', ht', hsome⟩
  · exact absurd (hnone.symm.trans hcurrency) (Option.some_ne_none currency).symm
  · obtain ⟨k, hk⟩ := exists_find?_of_mem ht
    obtain ⟨k', hk'⟩ := exists_find?_of_mem (mem_tariffsByTime.1 ht')
    exact (h.currency k t k' t' hk hk').trans (Option.some.inj (hsome.symm.trans hcurrency))

/-- **The tariff store keeps its invariants.**  After any calls of `set_tariff`
on an empty table: there are at most 4096 tariffs, at distinct minutes, with
rates of 0 to 10^12 and one currency of three capital letters; reading them does
not fail, and no summary mixes currencies.  A further call that returns an error
leaves the database as it is.  One that succeeds without `replace` appends one
row, at a time that had none; one that succeeds with `replace` writes the row of
its effective time and no other.  Neither touches another table. -/
theorem tariff_store_keeps_its_invariants (db : Database) (calls : List TariffCall) :
    let store := Database.tariffRun { db with tariffs := ∅ } calls
    let tariffs := store.tariffs.rows.map Prod.snd
    (tariffs.length ≤ 4096 ∧ (tariffs.map Tariff.effectiveAtMs).Nodup ∧
      (∀ t ∈ tariffs, t.effectiveAtMs % 60000 = 0 ∧
        (0 ≤ t.microcurrencyPerKwh ∧ t.microcurrencyPerKwh ≤ 1000000000000) ∧
        t.currency.toList.length = 3 ∧ ∀ c ∈ t.currency.toList, 'A' ≤ c ∧ c ≤ 'Z') ∧
      ∀ t ∈ tariffs, ∀ t' ∈ tariffs, t.currency = t'.currency) ∧
    (∃ listed, store.tariffList = .ok listed ∧ listed.Perm tariffs) ∧
    (∀ zones device fromMs toMs name timezone rows,
      store.summary zones device fromMs toMs name timezone = .ok rows →
      ∀ row ∈ rows, ∀ currency, row.currency = some currency →
        ∀ t ∈ tariffs, t.currency = currency) ∧
    ∀ call : TariffCall, match call.answer store with
      | .error _ => store.tariffStep call = store
      | .ok after => store.tariffStep call = after ∧
          after = { store with tariffs := after.tariffs } ∧
          if call.replace then
            after.tariffs.find? call.tariff.effectiveAtMs = some call.tariff ∧
              ∀ k, k ≠ call.tariff.effectiveAtMs →
                after.tariffs.find? k = store.tariffs.find? k
          else
            call.tariff.effectiveAtMs ∉ store.tariffs.keys ∧
              after.tariffs.rows =
                store.tariffs.rows ++ [(call.tariff.effectiveAtMs, call.tariff)] := by
  intro store tariffs
  have h : PriceHistory store.tariffs := PriceHistory.tariffRun priceHistory_empty calls
  refine ⟨⟨?_, ?_, fun t ht => ?_, fun t ht t' ht' => ?_⟩, ?_, ?_, fun call => ?_⟩
  · rw [List.length_map]
    exact h.limit
  · -- a tariff is filed under its effective time, and keys are distinct
    have hkeys : tariffs.map Tariff.effectiveAtMs = store.tariffs.keys := by
      rw [List.map_map]
      exact List.map_congr_left fun kt hkt =>
        h.effective kt.1 kt.2 (Table.find?_eq_some_iff.2 hkt)
    rw [hkeys]
    exact store.tariffs.primary
  · obtain ⟨k, hk⟩ := exists_find?_of_mem ht
    have hvalid := h.valid k t hk
    exact ⟨hvalid.aligned, hvalid.rate, (currencyCode_iff _).1 hvalid.code⟩
  · obtain ⟨k, hk⟩ := exists_find?_of_mem ht
    obtain ⟨k', hk'⟩ := exists_find?_of_mem ht'
    exact h.currency k t k' t' hk hk'
  · exact ⟨_, tariffList_eq h.toTariffTable, List.perm_insertionSort _ _⟩
  · intro zones device fromMs toMs name timezone rows hrows row hrow currency hcurrency t ht
    exact h.currency_of_row hrows hrow hcurrency ht
  · unfold Database.tariffStep
    cases hanswer : call.answer store with
    | error e => rfl
    | ok after =>
        have hset := call.setTariff_of_answer hanswer
        have hfind := Database.find?_setTariff hset
        obtain ⟨-, -, -, hfree, hafter⟩ := Database.setTariff_ok hset
        refine ⟨rfl, by rw [hafter], ?_⟩
        split_ifs with hreplace
        · refine ⟨by rw [hfind, if_pos rfl], fun k hk => by rw [hfind, if_neg hk]⟩
        · have hk := hfree (Bool.eq_false_of_not_eq_true hreplace)
          refine ⟨hk, ?_⟩
          rw [hafter]
          simp only [Table.upsert, Table.insertOrIgnore, dif_neg hk, if_neg hk]

end Railwatch
