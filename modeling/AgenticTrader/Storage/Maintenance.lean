import AgenticTrader.Accounting.Ledger
import AgenticTrader.Durable
import AgenticTrader.Library.Thinning

/-!
# The compaction of heartbeats

`RetentionService.sweep` (`storage/maintenance.py`) deletes old healthy observations that
say again what the one before them said. Which rows are redundant is asked of the journal
with window functions: the previous observation of the same stream, and whether there is a
next one. A sweep deletes at most a batch of them, oldest first, and journals that it did.

The neighbours of a row may be deleted in the same batch, or in an earlier one. The stream
is thinned all the same (`Thins`), and however often it is thinned it is thinned once, so
what a stream says does not depend on how it was swept.
-/

namespace AgenticTrader

/-! ## The journal -/

inductive RecordKind where
  | healthObserved
  | healthCompacted
  | other (value : String)
  deriving DecidableEq

/-- **A row of `domain_events`.** -/
structure DomainEventRecord where
  id : ℕ
  scope : String
  stream : String
  kind : RecordKind
  schemaVersion : ℕ
  payload : String
  recordedAt : Time
  deriving DecidableEq

/-- **The table**, in the order of its key. -/
structure DomainEventTable where
  rows : List DomainEventRecord
  ascending : rows.Pairwise (fun a b => a.id < b.id)

namespace DomainEventTable

variable (t : DomainEventTable)

/-- The key of the next row, above every key there is. -/
def nextId : ℕ := (t.rows.getLast?.map DomainEventRecord.id).getD 0 + 1

/-- A new row. -/
def newRow (scope stream : String) (kind : RecordKind) (schemaVersion : ℕ) (payload : String)
    (recordedAt : Time) : DomainEventRecord :=
  ⟨t.nextId, scope, stream, kind, schemaVersion, payload, recordedAt⟩

theorem lt_nextId {e : DomainEventRecord} (he : e ∈ t.rows) : e.id < t.nextId := by
  obtain ⟨last, hlast⟩ : ∃ last, t.rows.getLast? = some last :=
    ⟨_, List.getLast?_eq_some_getLast (List.ne_nil_of_mem he)⟩
  obtain ⟨initial, hrows⟩ := List.getLast?_eq_some_iff.mp hlast
  have hle : e.id ≤ last.id := by
    rw [hrows] at he
    rcases List.mem_append.mp he with he | he
    · have hascending := t.ascending
      rw [hrows] at hascending
      exact ((List.pairwise_append.mp hascending).2.2 e he last (by simp)).le
    · rw [List.mem_singleton.mp he]
  unfold nextId
  rw [hlast]
  exact Nat.lt_succ_of_le hle

/-- **`WorkflowStore.append`** of an event under a key of its own. -/
def append (scope stream : String) (kind : RecordKind) (schemaVersion : ℕ) (payload : String)
    (recordedAt : Time) : DomainEventTable where
  rows := t.rows ++ [t.newRow scope stream kind schemaVersion payload recordedAt]
  ascending := by
    refine List.pairwise_append.mpr ⟨t.ascending, List.pairwise_singleton _ _, ?_⟩
    intro a ha b hb
    rw [List.mem_singleton.mp hb]
    exact t.lt_nextId ha

/-- `DELETE … WHERE`. -/
def delete (condition : DomainEventRecord → Bool) : DomainEventTable where
  rows := t.rows.filter (fun e => !condition e)
  ascending := t.ascending.filter _

theorem eq_of_id {a b : DomainEventRecord} (ha : a ∈ t.rows) (hb : b ∈ t.rows) (h : a.id = b.id) :
    a = b := by
  have hnodup : (t.rows.map DomainEventRecord.id).Nodup :=
    List.pairwise_map.mpr (t.ascending.imp Nat.ne_of_lt)
  exact List.inj_on_of_nodup_map hnodup ha hb h

end DomainEventTable

/-! ## `encode` -/

namespace Json

/-- Four digits of a code unit. -/
def hex4 (n : ℕ) : String :=
  String.ofList [(n / 4096 % 16).digitChar, (n / 256 % 16).digitChar, (n / 16 % 16).digitChar,
    (n % 16).digitChar]

/-- What `json.dumps` writes for a character of a text: the printable ones as they are, the
others as escapes, above the basic plane as a pair of surrogates. -/
def escaped (c : Char) : String :=
  if c = '"' then "\\\""
  else if c = '\\' then "\\\\"
  else if c = '\n' then "\\n"
  else if c = '\r' then "\\r"
  else if c = '\t' then "\\t"
  else if c.toNat = 8 then "\\b"
  else if c.toNat = 12 then "\\f"
  else if 32 ≤ c.toNat ∧ c.toNat ≤ 126 then String.singleton c
  else if c.toNat < 65536 then "\\u" ++ hex4 c.toNat
  else "\\u" ++ hex4 (55296 + (c.toNat - 65536) / 1024)
    ++ "\\u" ++ hex4 (56320 + (c.toNat - 65536) % 1024)

/-- A text between quotes. -/
def quoted (text : String) : String :=
  "\"" ++ (text.toList.map escaped).foldr (· ++ ·) "" ++ "\""

mutual

/-- **`encode(value)`**: the text of a document, its keys sorted. -/
def encode : Json → String
  | .null => "null"
  | .bool true => "true"
  | .bool false => "false"
  | .number text => text
  | .str text => quoted text
  | .list items => "[" ++ ", ".intercalate (encodeItems items) ++ "]"
  | .object fields =>
    "\x7b" ++ ", ".intercalate (((encodeFields fields).insertionSort (fun a b => a.1 ≤ b.1)).map
      (fun field => quoted field.1 ++ ": " ++ field.2)) ++ "\x7d"

/-- The texts of the items. -/
def encodeItems : List Json → List String
  | [] => []
  | item :: items => encode item :: encodeItems items

/-- The texts of the fields. -/
def encodeFields : List (String × Json) → List (String × String)
  | [] => []
  | (key, value) :: fields => (key, encode value) :: encodeFields fields

end

example : (Json.object [("success", .bool true), ("detail", .str "")]).encode
    = "\x7b\"detail\": \"\", \"success\": true\x7d" := by decide +kernel

end Json

/-! ## Observations -/

/-- What a heartbeat says, `{"success": …, "detail": …}`. -/
def healthDocument (success : Bool) (detail : String) : Json :=
  .object [("success", .bool success), ("detail", .str detail)]

/-- The text of a heartbeat that has nothing to report. -/
def healthy : String := (healthDocument true "").encode

/-- **`WorkflowStore.record_health`.** -/
def DomainEventTable.recordHealth (t : DomainEventTable) (scope component : String) (success : Bool)
    (detail runId : String) (recordedAt : Time) : DomainEventTable :=
  t.append scope ("health/" ++ runId ++ "/" ++ component) .healthObserved 1
    (healthDocument success detail).encode recordedAt

namespace DomainEventRecord

/-- What an event observed. -/
def observation (e : DomainEventRecord) : ℕ × String := (e.schemaVersion, e.payload)

/-- A healthy observation of the first schema. -/
def Healthy (e : DomainEventRecord) : Prop := e.schemaVersion = 1 ∧ e.payload = healthy

/-- An observation of a stream. -/
def observes (scope stream : String) (e : DomainEventRecord) : Bool :=
  e.scope = scope ∧ e.kind = .healthObserved ∧ e.stream = stream

theorem Healthy.observation_eq {a b : DomainEventRecord} (ha : a.Healthy) (hb : b.Healthy) :
    a.observation = b.observation := by
  unfold observation
  rw [ha.1, ha.2, hb.1, hb.2]

end DomainEventRecord

/-! ## `sweep` -/

/-- **The service**, with what it reads of its store and of `OperationsConfig`. -/
structure RetentionService where
  scope : String
  isoformat : Time → String
  healthyObservationDays : ℕ
  retentionIntervalSeconds : ℚ
  retentionBatchSize : ℕ
  one_le_days : 1 ≤ healthyObservationDays
  interval_pos : 0 < retentionIntervalSeconds
  one_le_batchSize : 1 ≤ retentionBatchSize
  batchSize_le : retentionBatchSize ≤ 10000

/-- What a sweep reports. -/
structure SweepResult where
  applied : Bool
  eligible : ℕ
  deleted : ℕ
  cutoff : Time
  deferred : Bool
  deriving DecidableEq

def maintenanceStream : String := "maintenance/health"

namespace RetentionService

variable (service : RetentionService) (t : DomainEventTable)

/-- `now - timedelta(days=healthy_observation_days)`. -/
def cutoff (now : Time) : Time := now - service.healthyObservationDays * 86400000000

/-- The observations of the scope, in the order of their keys. -/
def observations : List DomainEventRecord :=
  t.rows.filter (fun e => e.scope = service.scope ∧ e.kind = .healthObserved)

/-- `lag(…) over (partition_by=stream, order_by=id)`: the row before in the stream. -/
def lag (e : DomainEventRecord) : Option DomainEventRecord :=
  ((service.observations t).filter (fun r => r.stream = e.stream ∧ r.id < e.id)).getLast?

/-- `lead(…)`: the row after. -/
def lead (e : DomainEventRecord) : Option DomainEventRecord :=
  ((service.observations t).filter (fun r => r.stream = e.stream ∧ e.id < r.id)).head?

/-- The conditions on a candidate. -/
def isCandidate (now : Time) (e : DomainEventRecord) : Bool :=
  e.schemaVersion = 1 ∧ (service.lag t e).any (fun p => p.schemaVersion = 1)
    ∧ e.recordedAt < service.cutoff now ∧ e.payload = healthy
    ∧ (service.lag t e).any (fun p => p.payload = healthy) ∧ (service.lead t e).isSome

def candidates (now : Time) : List DomainEventRecord :=
  (service.observations t).filter (service.isCandidate t now)

/-- The keys of a batch of candidates. -/
def ids (now : Time) : List ℕ :=
  ((service.candidates t now).take service.retentionBatchSize).map DomainEventRecord.id

/-- Whether the last compaction was so recent that nothing is due. -/
def deferred (now : Time) : Bool :=
  ((t.rows.filter (fun e => e.scope = service.scope ∧ e.kind = .healthCompacted)).getLast?).any
    (fun last => ((now - last.recordedAt : ℤ) : ℚ) / 1000000 < service.retentionIntervalSeconds)

/-- The journal without a batch. -/
def compacted (now : Time) : DomainEventTable :=
  t.delete (fun e => e.scope = service.scope ∧ e.id ∈ service.ids t now)

/-- What the sweep journals of itself. -/
def sweepDocument (result : SweepResult) (ids : List ℕ) : Json :=
  .object [("applied", .bool result.applied), ("eligible", .number (toString result.eligible)),
    ("deleted", .number (toString result.deleted)),
    ("cutoff", .str (service.isoformat result.cutoff)),
    ("deferred", .bool result.deferred),
    ("first_id", ids.min?.elim .null (fun id => .number (toString id))),
    ("last_id", ids.max?.elim .null (fun id => .number (toString id)))]

/-- **`RetentionService.sweep`**: the report, and the journal it leaves. -/
def sweep (apply : Bool) (now : Time) (onlyIfDue : Bool) : SweepResult × DomainEventTable :=
  let result : SweepResult := ⟨apply, 0, 0, service.cutoff now, false⟩
  if onlyIfDue ∧ service.deferred t now then ({ result with deferred := true }, t)
  else
    let result := { result with eligible := (service.candidates t now).length }
    if apply then
      let result := { result with deleted := (service.ids t now).length }
      (result, (service.compacted t now).append service.scope maintenanceStream .healthCompacted 1
        (service.sweepDocument result (service.ids t now)).encode now)
    else (result, t)

theorem mem_observations {e : DomainEventRecord} :
    e ∈ service.observations t
      ↔ e ∈ t.rows ∧ e.scope = service.scope ∧ e.kind = .healthObserved := by
  unfold observations
  rw [List.mem_filter, decide_eq_true_eq]

end RetentionService

/-! ## A stream -/

namespace DomainEventTable

variable (t : DomainEventTable) {scope stream : String}

/-- The observations of a stream among some events. -/
def streamOf (scope stream : String) (events : List DomainEventRecord) : List DomainEventRecord :=
  events.filter (DomainEventRecord.observes scope stream)

theorem mem_streamOf {events : List DomainEventRecord} {e : DomainEventRecord} :
    e ∈ streamOf scope stream events
      ↔ e ∈ events ∧ e.scope = scope ∧ e.kind = .healthObserved ∧ e.stream = stream := by
  unfold streamOf DomainEventRecord.observes
  rw [List.mem_filter, decide_eq_true_eq]

theorem streamOf_delete (condition : DomainEventRecord → Bool) :
    streamOf scope stream (t.delete condition).rows
      = (streamOf scope stream t.rows).filter (fun e => !condition e) := by
  unfold streamOf delete
  rw [List.filter_filter, List.filter_filter]
  exact List.filter_congr (fun e _ => Bool.and_comm _ _)

/-- A stream that is split at an event is split by the keys. -/
theorem lt_of_streamOf {e : DomainEventRecord} {l₁ l₂ : List DomainEventRecord}
    (h : streamOf scope stream t.rows = l₁ ++ e :: l₂) :
    (∀ a ∈ l₁, a.id < e.id) ∧ ∀ b ∈ l₂, e.id < b.id := by
  have hascending : (l₁ ++ e :: l₂).Pairwise (fun a b => a.id < b.id) :=
    h ▸ t.ascending.filter _
  obtain ⟨-, hrest, hbetween⟩ := List.pairwise_append.mp hascending
  exact ⟨fun a ha => hbetween a ha e List.mem_cons_self, (List.pairwise_cons.mp hrest).1⟩

end DomainEventTable

namespace RetentionService

open DomainEventTable

variable {service : RetentionService} {t : DomainEventTable} {e : DomainEventRecord}
  {l₁ l₂ : List DomainEventRecord}

theorem filter_observations (service : RetentionService) (t : DomainEventTable) (stream : String)
    (condition : DomainEventRecord → Bool) :
    (service.observations t).filter (fun r => r.stream = stream ∧ condition r)
      = (streamOf service.scope stream t.rows).filter condition := by
  unfold observations streamOf DomainEventRecord.observes
  rw [List.filter_filter, List.filter_filter]
  refine List.filter_congr (fun r _ => ?_)
  grind

/-- **`lag` is the entry before.** -/
theorem lag_eq (h : streamOf service.scope e.stream t.rows = l₁ ++ e :: l₂) :
    service.lag t e = l₁.getLast? := by
  obtain ⟨hbefore, hafter⟩ := t.lt_of_streamOf h
  have hfilter := filter_observations service t e.stream (fun r => decide (r.id < e.id))
  simp only [decide_eq_true_eq] at hfilter
  unfold lag
  rw [hfilter, h, List.filter_append, List.filter_eq_self.mpr, List.filter_eq_nil_iff.mpr,
    List.append_nil]
  · intro r hr
    rcases List.mem_cons.mp hr with rfl | hr
    · simp
    · simpa using (hafter r hr).le
  · simpa using hbefore

/-- **`lead` is the entry after.** -/
theorem lead_eq (h : streamOf service.scope e.stream t.rows = l₁ ++ e :: l₂) :
    service.lead t e = l₂.head? := by
  obtain ⟨hbefore, hafter⟩ := t.lt_of_streamOf h
  have hfilter := filter_observations service t e.stream (fun r => decide (e.id < r.id))
  simp only [decide_eq_true_eq] at hfilter
  unfold lead
  rw [hfilter, h, List.filter_append, List.filter_eq_nil_iff.mpr, List.nil_append,
    List.filter_cons_of_neg (by simp), List.filter_eq_self.mpr]
  · simpa using hafter
  · intro r hr
    simpa using (hbefore r hr).le

/-- **What a sweep may delete**: an old healthy observation that follows a healthy one of its
stream and is followed by another. -/
def Redundant (service : RetentionService) (t : DomainEventTable) (now : Time)
    (e : DomainEventRecord) : Prop :=
  e.scope = service.scope ∧ e.kind = .healthObserved ∧ e.Healthy
    ∧ e.recordedAt < service.cutoff now
    ∧ ∃ l₁ p l₂, streamOf service.scope e.stream t.rows = l₁ ++ p :: e :: l₂ ∧ p.Healthy ∧ l₂ ≠ []

/-- **The candidates are the redundant events.** -/
theorem mem_candidates {now : Time} :
    e ∈ service.candidates t now ↔ e ∈ t.rows ∧ service.Redundant t now e := by
  unfold candidates
  rw [List.mem_filter, mem_observations]
  constructor
  · rintro ⟨⟨hrow, hscope, hkind⟩, hcandidate⟩
    obtain ⟨l₁, l₂, hsplit⟩ := List.append_of_mem
      (mem_streamOf.mpr ⟨hrow, hscope, hkind, rfl⟩ : e ∈ streamOf service.scope e.stream t.rows)
    unfold isCandidate at hcandidate
    rw [decide_eq_true_eq, lag_eq hsplit, lead_eq hsplit] at hcandidate
    obtain ⟨hschema, hprevious, hold, hpayload, hpreviousPayload, hnext⟩ := hcandidate
    obtain ⟨p, hp, hpschema⟩ := Option.any_eq_true _ _ |>.mp hprevious
    rw [hp] at hpreviousPayload
    obtain ⟨initial, rfl⟩ := List.getLast?_eq_some_iff.mp hp
    refine ⟨hrow, hscope, hkind, ⟨hschema, hpayload⟩, hold, initial, p, l₂, ?_, ?_, ?_⟩
    · rw [hsplit, List.append_assoc, List.singleton_append]
    · exact ⟨of_decide_eq_true hpschema, of_decide_eq_true hpreviousPayload⟩
    · rintro rfl
      simp at hnext
  · rintro ⟨hrow, hscope, hkind, hhealthy, hold, l₁, p, l₂, hsplit, hp, hl₂⟩
    have hsplit' : streamOf service.scope e.stream t.rows = (l₁ ++ [p]) ++ e :: l₂ := by
      rw [hsplit, List.append_assoc, List.singleton_append]
    refine ⟨⟨hrow, hscope, hkind⟩, ?_⟩
    unfold isCandidate
    rw [decide_eq_true_eq, lag_eq hsplit', lead_eq hsplit', List.getLast?_concat]
    refine ⟨hhealthy.1, decide_eq_true hp.1, hold, hhealthy.2, decide_eq_true hp.2, ?_⟩
    obtain ⟨next, l₂, rfl⟩ := List.exists_cons_of_ne_nil hl₂
    rfl

/-- A row a batch names is a candidate. -/
theorem mem_candidates_of_ids {now : Time} (hrow : e ∈ t.rows) (h : e.id ∈ service.ids t now) :
    e ∈ service.candidates t now := by
  obtain ⟨c, hc, hid⟩ := List.mem_map.mp h
  have hcandidate := List.mem_of_mem_take hc
  have hc' := (mem_candidates.mp hcandidate).1
  rw [← t.eq_of_id hc' hrow hid]
  exact hcandidate

theorem mem_compacted {now : Time} :
    e ∈ (service.compacted t now).rows
      ↔ e ∈ t.rows ∧ ¬ (e.scope = service.scope ∧ e.id ∈ service.ids t now) := by
  unfold compacted delete
  rw [List.mem_filter, Bool.not_eq_true', decide_eq_false_iff_not]

/-- **A batch thins every stream.** -/
theorem thins_compacted (service : RetentionService) (t : DomainEventTable) (now : Time)
    (scope stream : String) :
    Thins DomainEventRecord.Healthy none (streamOf scope stream t.rows)
      (streamOf scope stream (service.compacted t now).rows) := by
  unfold compacted
  rw [streamOf_delete]
  refine Thins.of_filter _ (fun l₁ x l₂ hsplit hdropped => ?_)
  rw [Bool.not_eq_false', decide_eq_true_eq] at hdropped
  have hx : x ∈ streamOf scope stream t.rows := by
    rw [hsplit]
    exact List.mem_append_right _ List.mem_cons_self
  obtain ⟨hrow, hscope, -, hstream⟩ := mem_streamOf.mp hx
  obtain ⟨-, -, -, hhealthy, -, l₁', p, l₂', hsplit', hp, hl₂⟩ :=
    mem_candidates.mp (mem_candidates_of_ids hrow hdropped.2)
  -- the stream is split at the key of the event in one way only
  obtain ⟨hbefore, hafter⟩ := t.lt_of_streamOf hsplit
  have hsame : l₁ ++ x :: l₂ = (l₁' ++ [p]) ++ x :: l₂' := by
    rw [← hsplit, ← hscope, ← hstream, hdropped.1, hsplit', List.append_assoc,
      List.singleton_append]
  obtain ⟨rfl, -, rfl⟩ := (List.append_cons_inj_of_notMem
    (fun h => (hbefore x h).false) (fun h => (hafter x h).false)).mp hsame
  exact ⟨hhealthy, ⟨p, List.getLast?_concat, hp⟩, hl₂⟩

/-- A row that is not an observation is in no stream. -/
theorem streamOf_append_compacted (service : RetentionService) (t : DomainEventTable)
    (scope stream payload : String) (now : Time) :
    streamOf scope stream
        (t.append service.scope maintenanceStream .healthCompacted 1 payload now).rows
      = streamOf scope stream t.rows := by
  have hnew : ¬ DomainEventRecord.observes scope stream
      (t.newRow service.scope maintenanceStream .healthCompacted 1 payload now) = true := by
    simp [DomainEventRecord.observes, newRow]
  unfold streamOf append
  rw [List.filter_append, List.filter_cons_of_neg hnew, List.filter_nil, List.append_nil]

/-- **What a sweep does**: nothing, or it takes a batch and journals that it did. -/
theorem sweep_cases (service : RetentionService) (t : DomainEventTable) (apply : Bool) (now : Time)
    (onlyIfDue : Bool) :
    (apply = true ∧ ¬ (onlyIfDue = true ∧ service.deferred t now = true)
        ∧ (service.sweep t apply now onlyIfDue).1.deferred = false
        ∧ ∃ payload, (service.sweep t apply now onlyIfDue).2
          = (service.compacted t now).append service.scope maintenanceStream .healthCompacted 1
            payload now)
      ∨ ((apply = false ∨ (onlyIfDue = true ∧ service.deferred t now = true
          ∧ (service.sweep t apply now onlyIfDue).1.deferred = true))
        ∧ (service.sweep t apply now onlyIfDue).2 = t) := by
  by_cases hdeferred : onlyIfDue = true ∧ service.deferred t now = true
  · refine .inr ⟨.inr ⟨hdeferred.1, hdeferred.2, ?_⟩, ?_⟩ <;> simp [sweep, hdeferred]
  · cases apply with
    | false => exact .inr ⟨.inl rfl, by simp only [sweep, if_neg hdeferred]; rfl⟩
    | true =>
      refine .inl ⟨rfl, hdeferred, ?_, ?_⟩
      · simp only [sweep, if_neg hdeferred]
        rfl
      · simp only [sweep, if_neg hdeferred]
        exact ⟨_, rfl⟩

/-- **A sweep thins every stream.** -/
theorem thins_sweep (service : RetentionService) (t : DomainEventTable) (apply : Bool) (now : Time)
    (onlyIfDue : Bool) (scope stream : String) :
    Thins DomainEventRecord.Healthy none (streamOf scope stream t.rows)
      (streamOf scope stream (service.sweep t apply now onlyIfDue).2.rows) := by
  rcases service.sweep_cases t apply now onlyIfDue with ⟨-, -, -, payload, h⟩ | ⟨-, h⟩
  · rw [h, streamOf_append_compacted]
    exact service.thins_compacted t now scope stream
  · rw [h]
    exact Thins.refl _ _

/-- **What a sweep deletes is redundant.** -/
theorem redundant_of_deleted {apply : Bool} {now : Time} {onlyIfDue : Bool} (hrow : e ∈ t.rows)
    (hdeleted : e ∉ (service.sweep t apply now onlyIfDue).2.rows) : service.Redundant t now e := by
  rcases service.sweep_cases t apply now onlyIfDue with ⟨-, -, -, payload, h⟩ | ⟨-, h⟩
  · rw [h] at hdeleted
    have hgone : e ∉ (service.compacted t now).rows :=
      fun hkept => hdeleted (List.mem_append_left _ hkept)
    rw [mem_compacted, not_and, not_not] at hgone
    exact (mem_candidates.mp (mem_candidates_of_ids hrow (hgone hrow).2)).2
  · rw [h] at hdeleted
    exact absurd hrow hdeleted

/-- **A sweep deletes nothing** of a journal. -/
def DeletesNothing (service : RetentionService) (t : DomainEventTable) (apply : Bool) (now : Time)
    (onlyIfDue : Bool) : Prop :=
  ∀ e ∈ t.rows, e ∈ (service.sweep t apply now onlyIfDue).2.rows

theorem deletesNothing_of_candidates {now : Time} (h : service.candidates t now = [])
    (apply onlyIfDue : Bool) : service.DeletesNothing t apply now onlyIfDue := by
  intro e he
  by_contra hdeleted
  have hcandidate := mem_candidates.mpr ⟨he, redundant_of_deleted he hdeleted⟩
  rw [h] at hcandidate
  exact List.not_mem_nil hcandidate

/-- Where there is a candidate, an applied sweep that is due deletes one. -/
theorem candidates_of_deletesNothing {now : Time} {onlyIfDue : Bool}
    (h : service.DeletesNothing t true now onlyIfDue)
    (hdue : (service.sweep t true now onlyIfDue).1.deferred = false) :
    service.candidates t now = [] := by
  rcases service.sweep_cases t true now onlyIfDue with ⟨-, -, -, payload, hsweep⟩ | ⟨hnot, -⟩
  · cases hc : service.candidates t now with
    | nil => rfl
    | cons c rest =>
      have hcandidate : c ∈ service.candidates t now := by
        rw [hc]
        exact List.mem_cons_self
      obtain ⟨hrow, hscope, hkind, -⟩ := mem_candidates.mp hcandidate
      have hid : c.id ∈ service.ids t now := by
        unfold ids
        rw [hc, ← Nat.sub_add_cancel service.one_le_batchSize, List.take_succ_cons]
        exact List.mem_cons_self
      have hkept := h c hrow
      rw [hsweep] at hkept
      rcases List.mem_append.mp hkept with hkept | hkept
      · exact absurd ⟨hscope, hid⟩ (mem_compacted.mp hkept).2
      · rw [List.mem_singleton.mp hkept] at hkind
        cases hkind
  · rcases hnot with hnot | ⟨-, -, hnot⟩
    · cases hnot
    · rw [hnot] at hdue
      cases hdue

/-- Without a candidate a sweep leaves none. -/
theorem candidates_sweep {now : Time} (h : service.candidates t now = []) (apply onlyIfDue : Bool) :
    service.candidates (service.sweep t apply now onlyIfDue).2 now = [] := by
  have hstream : ∀ scope stream, streamOf scope stream (service.sweep t apply now onlyIfDue).2.rows
      = streamOf scope stream t.rows := by
    intro scope stream
    rcases service.sweep_cases t apply now onlyIfDue with ⟨-, -, -, payload, hsweep⟩ | ⟨-, hsweep⟩
    · have hids : service.ids t now = [] := by
        unfold ids
        rw [h, List.take_nil, List.map_nil]
      rw [hsweep, streamOf_append_compacted]
      unfold compacted
      rw [streamOf_delete, List.filter_eq_self.mpr]
      intro e _
      simp [hids]
    · rw [hsweep]
  refine List.eq_nil_iff_forall_not_mem.mpr (fun e he => ?_)
  obtain ⟨hrow, hscope, hkind, hredundant⟩ := mem_candidates.mp he
  have hmem : e ∈ streamOf service.scope e.stream t.rows := by
    rw [← hstream]
    exact mem_streamOf.mpr ⟨hrow, hscope, hkind, rfl⟩
  rw [hstream] at hredundant
  have hcandidate := mem_candidates.mpr ⟨(mem_streamOf.mp hmem).1, hscope, hkind, hredundant⟩
  rw [h] at hcandidate
  exact List.not_mem_nil hcandidate

/-- The same sweep again. -/
theorem DeletesNothing.again {apply : Bool} {now : Time} {onlyIfDue : Bool}
    (h : service.DeletesNothing t apply now onlyIfDue) :
    service.DeletesNothing (service.sweep t apply now onlyIfDue).2 apply now onlyIfDue := by
  rcases service.sweep_cases t apply now onlyIfDue with ⟨happly, -, hdue, -⟩ | ⟨-, hsweep⟩
  · cases happly
    exact deletesNothing_of_candidates
      (candidates_sweep (candidates_of_deletesNothing h hdue) true onlyIfDue) true onlyIfDue
  · rw [hsweep]
    exact h

/-- Any further sweep at the time of one that was applied and found nothing. -/
theorem DeletesNothing.further {now : Time} {onlyIfDue : Bool}
    (h : service.DeletesNothing t true now onlyIfDue)
    (hdue : (service.sweep t true now onlyIfDue).1.deferred = false) (apply' onlyIfDue' : Bool) :
    service.DeletesNothing (service.sweep t true now onlyIfDue).2 apply' now onlyIfDue' :=
  deletesNothing_of_candidates
    (candidates_sweep (candidates_of_deletesNothing h hdue) true onlyIfDue) apply' onlyIfDue'

end RetentionService

/-! ## Every run -/

open DomainEventTable

/-- **A run**: from a journal, events are journalled and services sweep, in any order. The list
holds the events that were there or were journalled since, those the sweeps deleted among
them; the sweeps' own reports are no observations and are left out. -/
inductive MaintenanceRun (t₀ : DomainEventTable) :
    List DomainEventRecord → DomainEventTable → Prop where
  | start : MaintenanceRun t₀ t₀.rows t₀
  | append {written : List DomainEventRecord} {t : DomainEventTable}
    (h : MaintenanceRun t₀ written t) (scope stream : String) (kind : RecordKind)
    (schemaVersion : ℕ) (payload : String) (recordedAt : Time) :
    MaintenanceRun t₀ (written ++ [t.newRow scope stream kind schemaVersion payload recordedAt])
      (t.append scope stream kind schemaVersion payload recordedAt)
  | sweep {written : List DomainEventRecord} {t : DomainEventTable}
    (h : MaintenanceRun t₀ written t) (service : RetentionService) (apply : Bool) (now : Time)
    (onlyIfDue : Bool) :
    MaintenanceRun t₀ written (service.sweep t apply now onlyIfDue).2

namespace MaintenanceRun

variable {t₀ t : DomainEventTable} {written : List DomainEventRecord}

/-- **However it is swept, a stream is thinned.** -/
theorem thins (h : MaintenanceRun t₀ written t) (scope stream : String) :
    Thins DomainEventRecord.Healthy none (streamOf scope stream written)
      (streamOf scope stream t.rows) := by
  induction h with
  | start => exact Thins.refl _ _
  | @append written t _ scope' stream' kind schemaVersion payload recordedAt ih =>
    unfold streamOf DomainEventTable.append
    rw [List.filter_append, List.filter_append]
    cases hobserves : DomainEventRecord.observes scope stream
        (t.newRow scope' stream' kind schemaVersion payload recordedAt) with
    | true =>
      rw [List.filter_cons_of_pos hobserves, List.filter_nil]
      exact ih.concat _
    | false =>
      rw [List.filter_cons_of_neg (by rw [hobserves]; exact Bool.false_ne_true), List.filter_nil,
        List.append_nil, List.append_nil]
      exact ih
  | @sweep _ t _ service apply now onlyIfDue ih =>
    exact ih.trans (service.thins_sweep t apply now onlyIfDue scope stream)

/-- **Compaction loses no health information.** In every run, of every stream: the first and
the last observation are there, every observation that is not healthy, and the first of every
run of equal ones; without repetitions the stream reads as everything that was ever journalled.
The next sweep, whichever it is, deletes only what is redundant, and where a sweep deletes
nothing it deletes nothing when it is made again, nor, if it was applied, does any other at its
time. -/
theorem compaction_keeps_observations (h : MaintenanceRun t₀ written t) :
    (∀ scope stream,
      (streamOf scope stream t.rows).Sublist (streamOf scope stream written)
        ∧ (streamOf scope stream t.rows).head? = (streamOf scope stream written).head?
        ∧ (streamOf scope stream t.rows).getLast? = (streamOf scope stream written).getLast?
        ∧ (∀ e ∈ streamOf scope stream written, ¬ e.Healthy → e ∈ t.rows)
        ∧ (∀ l₁ e l₂, streamOf scope stream written = l₁ ++ e :: l₂ →
          (∀ p ∈ l₁.getLast?, p.observation ≠ e.observation) → e ∈ t.rows)
        ∧ ((streamOf scope stream t.rows).map DomainEventRecord.observation).destutter (· ≠ ·)
          = ((streamOf scope stream written).map DomainEventRecord.observation).destutter (· ≠ ·))
    ∧ ∀ (service : RetentionService) (apply : Bool) (now : Time) (onlyIfDue : Bool),
      (∀ e ∈ t.rows, e ∉ (service.sweep t apply now onlyIfDue).2.rows → service.Redundant t now e)
        ∧ (service.DeletesNothing t apply now onlyIfDue →
          service.DeletesNothing (service.sweep t apply now onlyIfDue).2 apply now onlyIfDue
          ∧ (apply = true → (service.sweep t apply now onlyIfDue).1.deferred = false →
            ∀ apply' onlyIfDue', service.DeletesNothing (service.sweep t apply now onlyIfDue).2
              apply' now onlyIfDue')) := by
  refine ⟨fun scope stream => ?_, fun service apply now onlyIfDue => ⟨?_, ?_⟩⟩
  · have hthins := h.thins scope stream
    have hkept : ∀ e, e ∈ streamOf scope stream t.rows → e ∈ t.rows :=
      fun _ he => (mem_streamOf.mp he).1
    refine ⟨hthins.sublist, hthins.head?_eq, hthins.getLast?_eq, ?_, ?_, ?_⟩
    · intro e he hunhealthy
      obtain ⟨l₁, l₂, hsplit⟩ := List.append_of_mem he
      exact hkept e (hthins.mem hsplit (.inl hunhealthy))
    · intro l₁ e l₂ hsplit hfirst
      refine hkept e (hthins.mem hsplit ?_)
      by_cases hhealthy : e.Healthy
      · exact .inr (fun p hp hphealthy => hfirst p hp (hphealthy.observation_eq hhealthy))
      · exact .inl hhealthy
    · exact hthins.destutter_map (fun _ _ ha hb => ha.observation_eq hb)
  · exact fun e he hdeleted => RetentionService.redundant_of_deleted he hdeleted
  · intro hnothing
    refine ⟨hnothing.again, ?_⟩
    rintro rfl hdue apply' onlyIfDue'
    exact hnothing.further hdue apply' onlyIfDue'

/-- Three heartbeats and a failure, in one stream. -/
def sampleJournal : DomainEventTable :=
  ((((DomainEventTable.mk [] List.Pairwise.nil).recordHealth "paper" "worker" true "" "run"
    0).recordHealth "paper" "worker" true "" "run" 1).recordHealth "paper" "worker" true "" "run"
    2).recordHealth "paper" "worker" false "timeout" "run" 3
theorem one_le_sampleDays : 1 ≤ 30 := by decide

theorem sampleInterval_pos : (0 : ℚ) < 3600 := by norm_num

theorem one_le_sampleBatch : 1 ≤ 1000 := by decide

theorem sampleBatch_le : 1000 ≤ 10000 := by decide

/-- The service as it is configured by default. -/
def sampleRetention : RetentionService where
  scope := "paper"
  isoformat := fun t => toString t
  healthyObservationDays := 30
  retentionIntervalSeconds := 3600
  retentionBatchSize := 1000
  one_le_days := one_le_sampleDays
  interval_pos := sampleInterval_pos
  one_le_batchSize := one_le_sampleBatch
  batchSize_le := sampleBatch_le

theorem compaction_of_sampleJournal :
    sampleJournal.rows.map DomainEventRecord.id = [1, 2, 3, 4]
      ∧ (sampleRetention.sweep sampleJournal true 2592000000100 false).2.rows.map
        DomainEventRecord.id = [1, 4, 5]
      ∧ ((streamOf "paper" "health/run/worker"
          (sampleRetention.sweep sampleJournal true 2592000000100 false).2.rows).map
            DomainEventRecord.observation).destutter (· ≠ ·)
        = ((streamOf "paper" "health/run/worker" sampleJournal.rows).map
            DomainEventRecord.observation).destutter (· ≠ ·) := by
  refine ⟨by decide +kernel, by decide +kernel, ?_⟩
  have hrun : MaintenanceRun sampleJournal sampleJournal.rows
      (sampleRetention.sweep sampleJournal true 2592000000100 false).2 :=
    MaintenanceRun.start.sweep sampleRetention true 2592000000100 false
  exact ((compaction_keeps_observations hrun).1 "paper" "health/run/worker").2.2.2.2.2

end MaintenanceRun

end AgenticTrader
