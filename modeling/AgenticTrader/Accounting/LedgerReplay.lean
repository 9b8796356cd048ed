import AgenticTrader.Accounting.LedgerStore
import AgenticTrader.Library.Replay
import AgenticTrader.Library.Transition

/-!
# The ledger is fenced and replayable

Whatever importers do and in whatever order, the two tables of the ledger are
what its journal replays to: every transaction journals exactly what it does to
them (`Ledger.journals_transact`), so a rebuild changes the token and nothing
else. A token that was superseded never comes back (`Ledger.stale_run`), and
under it neither a commit nor a failure is written. What a commit leaves is its
own import: an activity that is not in it is retracted, one it revised is
rewritten, one it repeats is where it was.
-/

namespace AgenticTrader

open Table

namespace Ledger

/-! ## What is replayed -/

/-- **What a rebuild restores.** -/
def view (db : Ledger) : View := ⟨db.account, db.checkpoint, db.activities⟩

/-- The journal and what it should replay to. -/
def history (db : Ledger) : List LedgerEvent × View := (db.journal, db.view)

/-- **A transaction journals what it does to the tables.** -/
def Traced (env : LedgerEnv) (db db' : Ledger) : Prop :=
  Journals (View.replay env) db.history db'.history

/-- An activity has one row. -/
def Keyed (rows : List ActivityRow) : Prop := (rows.map (·.activityId)).Nodup

/-- **The ledger is the replay of its journal**: the tables are the view, the
row is there once something was journaled, and an activity has one row. -/
structure Replayable (env : LedgerEnv) (db : Ledger) : Prop where
  replay : db.journal.foldlM (View.replay env) View.start = some db.view
  bound : db.row = none → db.journal = []
  keyed : Keyed db.activities

/-- Nothing was imported yet. -/
theorem replayable_empty (env : LedgerEnv) : Replayable env empty where
  replay := rfl
  bound := fun _ => rfl
  keyed := List.nodup_nil

/-! ## The activity table -/

/-- The rows after an activity was written. -/
theorem mem_setRow {row r : ActivityRow} {rows : List ActivityRow} :
    r ∈ setRow row rows ↔ r = row ∨ (r ∈ rows ∧ r.activityId ≠ row.activityId) := by
  unfold setRow
  split
  · rename_i h
    obtain ⟨old, hold, hid⟩ := List.any_eq_true.mp h
    constructor
    · intro hr
      obtain ⟨r₀, hr₀, rfl⟩ := mem_updateWhere.mp hr
      by_cases hm : r₀.activityId = row.activityId
      · simp [hm]
      · simp [hm, hr₀]
    · rintro (rfl | ⟨hr, hne⟩)
      · exact mem_updateWhere_of hold hid
      · exact mem_updateWhere_of_not hr (by simpa using hne)
  · rename_i h
    have hnone : ∀ x ∈ rows, x.activityId ≠ row.activityId := by simpa using h
    rw [List.mem_append, List.mem_singleton]
    constructor
    · rintro (hr | hr)
      · exact Or.inr ⟨hr, hnone r hr⟩
      · exact Or.inl hr
    · rintro (hr | ⟨hr, -⟩)
      · exact Or.inr hr
      · exact Or.inl hr

/-- Writing an activity keeps its row the only one. -/
theorem keyed_setRow {row : ActivityRow} {rows : List ActivityRow} (h : Keyed rows) :
    Keyed (setRow row rows) := by
  unfold Keyed setRow
  split
  · have hkeep : ∀ r : ActivityRow, (r.activityId == row.activityId) = true →
        row.activityId = r.activityId := fun r hr => (beq_iff_eq.mp hr).symm
    rw [map_updateWhere _ hkeep]
    exact h
  · rename_i hn
    have hnone : ∀ x ∈ rows, x.activityId ≠ row.activityId := by simpa using hn
    rw [List.map_append, List.nodup_append]
    refine ⟨h, List.nodup_singleton _, ?_⟩
    intro a ha b hb
    obtain ⟨x, hx, rfl⟩ := List.mem_map.mp ha
    rw [show b = row.activityId by simpa using hb]
    exact hnone x hx

/-- The table has an activity under a name, encoded so. -/
def Shows (rows : List ActivityRow) (id payload : String) : Prop :=
  ∃ r ∈ rows, r.activityId = id ∧ r.payload = payload

section Import

variable {env : LedgerEnv} {db : Ledger} {items : List (String × Activity)}
  {id payload : String}

/-- **An activity of the import is shown under its name**, whether or not it was
stored as it is, and the others are left alone. -/
theorem shows_observe (hkeys : Keyed db.activities)
    (item : String × Activity) :
    Shows (observe env db item).activities id payload
      ↔ (id = item.1 ∧ payload = env.encode item.2)
        ∨ (id ≠ item.1 ∧ Shows db.activities id payload) := by
  unfold observe
  split
  · rename_i h
    obtain ⟨old, hold, hsame⟩ := List.any_eq_true.mp h
    obtain ⟨hid, hpayload⟩ : old.activityId = item.1 ∧ old.payload = env.encode item.2 := by
      simpa using hsame
    constructor
    · rintro ⟨r, hr, rfl, rfl⟩
      by_cases heq : r.activityId = item.1
      · have hrow : r = old := eq_of_key hkeys hr hold (heq.trans hid.symm)
        exact Or.inl ⟨heq, hrow ▸ hpayload⟩
      · exact Or.inr ⟨heq, r, hr, rfl, rfl⟩
    · rintro (⟨rfl, rfl⟩ | ⟨-, hshown⟩)
      · exact ⟨old, hold, hid, hpayload⟩
      · exact hshown
  · constructor
    · rintro ⟨r, hr, rfl, rfl⟩
      rcases mem_setRow.mp hr with rfl | ⟨hr, hne⟩
      · exact Or.inl ⟨rfl, rfl⟩
      · exact Or.inr ⟨hne, r, hr, rfl, rfl⟩
    · rintro (⟨rfl, rfl⟩ | ⟨hne, r, hr, rfl, rfl⟩)
      · exact ⟨_, mem_setRow.mpr (Or.inl rfl), rfl, rfl⟩
      · exact ⟨r, mem_setRow.mpr (Or.inr ⟨hr, hne⟩), rfl, rfl⟩

theorem keyed_observe (hkeys : Keyed db.activities)
    (item : String × Activity) :
    Keyed (observe env db item).activities := by
  unfold observe
  split
  · exact hkeys
  · exact keyed_setRow hkeys

/-- A retracted activity is not shown. -/
theorem shows_retract (gone : String) :
    Shows (retract db gone).activities id payload
      ↔ id ≠ gone ∧ Shows db.activities id payload := by
  unfold retract Shows
  constructor
  · rintro ⟨r, hr, rfl, rfl⟩
    obtain ⟨hr, hne⟩ := List.mem_filter.mp hr
    exact ⟨by simpa using hne, r, hr, rfl, rfl⟩
  · rintro ⟨hne, r, hr, rfl, rfl⟩
    exact ⟨r, List.mem_filter.mpr ⟨hr, by simpa using hne⟩, rfl, rfl⟩

theorem keyed_retract (hkeys : Keyed db.activities) (gone : String) :
    Keyed (retract db gone).activities :=
  hkeys.sublist (List.filter_sublist.map _)

/-- After the observations, the activities of the import are shown, and those it
does not name are as they were. -/
theorem shows_observeAll (hitems : (items.map (·.1)).Nodup)
    (hkeys : Keyed db.activities) :
    Shows (items.foldl (observe env) db).activities id payload
      ↔ (∃ a, (id, a) ∈ items ∧ payload = env.encode a)
        ∨ (id ∉ items.map (·.1) ∧ Shows db.activities id payload) := by
  induction items generalizing db with
  | nil => simp
  | cons item items ih =>
    obtain ⟨hnew, hrest⟩ := List.nodup_cons.mp hitems
    rw [List.foldl_cons, ih hrest (keyed_observe hkeys item), shows_observe hkeys]
    constructor
    · rintro (⟨a, ha, rfl⟩ | ⟨hout, ⟨rfl, rfl⟩ | ⟨hne, hshown⟩⟩)
      · exact Or.inl ⟨a, List.mem_cons_of_mem _ ha, rfl⟩
      · exact Or.inl ⟨item.2, by simp, rfl⟩
      · exact Or.inr ⟨by simpa [hne] using hout, hshown⟩
    · rintro (⟨a, ha, rfl⟩ | ⟨hout, hshown⟩)
      · rcases List.mem_cons.mp ha with ha | ha
        · subst ha
          exact Or.inr ⟨hnew, Or.inl ⟨rfl, rfl⟩⟩
        · exact Or.inl ⟨a, ha, rfl⟩
      · rw [List.map_cons, List.mem_cons, not_or] at hout
        exact Or.inr ⟨hout.2, Or.inr ⟨hout.1, hshown⟩⟩

theorem keyed_observeAll (hkeys : Keyed db.activities) :
    Keyed (items.foldl (observe env) db).activities :=
  List.foldlRecOn (motive := fun db => Keyed db.activities) items (observe env) hkeys
    (fun _ h item _ => keyed_observe h item)

theorem shows_retractAll (gone : List String) :
    Shows (gone.foldl retract db).activities id payload
      ↔ id ∉ gone ∧ Shows db.activities id payload := by
  induction gone generalizing db with
  | nil => simp
  | cons g gone ih =>
    rw [List.foldl_cons, ih, shows_retract, List.mem_cons, not_or]
    tauto

theorem keyed_project (hkeys : Keyed db.activities) :
    Keyed (project env db items).activities :=
  List.foldlRecOn (motive := fun db => Keyed db.activities) _ retract (keyed_observeAll hkeys)
    (fun _ h gone _ => keyed_retract h gone)

/-- **The projection is the import**: what it names is shown as it encodes it,
and nothing else is. -/
theorem shows_project (hitems : (items.map (·.1)).Nodup)
    (hkeys : Keyed db.activities) :
    Shows (project env db items).activities id payload
      ↔ ∃ a, (id, a) ∈ items ∧ payload = env.encode a := by
  unfold project
  rw [shows_retractAll, shows_observeAll hitems hkeys]
  constructor
  · rintro ⟨hkept, hshown | ⟨hout, r, hr, rfl, -⟩⟩
    · exact hshown
    · -- A row the import does not name is among those that are gone.
      exact absurd (List.mem_map_of_mem (List.mem_filter.mpr ⟨hr, by simpa using hout⟩)) hkept
  · rintro ⟨a, ha, rfl⟩
    refine ⟨?_, Or.inl ⟨a, ha, rfl⟩⟩
    intro hgone
    obtain ⟨r, hr, hid⟩ := List.mem_map.mp hgone
    have hout := (List.mem_filter.mp hr).2
    rw [hid] at hout
    exact (of_decide_eq_true hout) (List.mem_map_of_mem ha)

end Import

/-! ## What a call does -/

/-- **What a call may do to the ledger**; a begin that binds the account does
two of these. -/
inductive Moved (env : LedgerEnv) (db : Ledger) : Ledger → Prop where
  | fence : Moved env db db.fence
  | bind {row : LedgerRow} {accountId : String} (hrow : db.row = some row)
      (unbound : row.accountId = "") : Moved env db (db.bindAccount row accountId)
  | commit {row : LedgerRow} {activities : List Activity}
      {items : List (String × Activity)} {documents : ImportDocuments}
      {checkedAt now : WireTime} (hrow : db.row = some row)
      (named : byId? activities = some items) :
      Moved env db
        (db.accept env row items (nextCheckpoint env row activities documents checkedAt now))
  | fail {row : LedgerRow} {error : String} {checkedAt : WireTime}
      (hrow : db.row = some row) :
      Moved env db (db.setCheckpoint row
        { row.payload with error := some error, checkedAt := some checkedAt })
  | rebuild {db' : Ledger} {events : ℕ} (h : db.rebuild env = some (db', events)) :
      Moved env db db'

end Ledger

/-- **The ledger as a transition system.** -/
def ledgerSystem (env : LedgerEnv) : TransitionSystem Ledger :=
  ⟨fun db => db = Ledger.empty, Ledger.Moved env⟩

/-- A begin or a rebuild. -/
def LedgerOp.Fences : LedgerOp → Prop
  | .begin _ => True
  | .rebuild => True
  | _ => False

/-- A commit or a failure under a token. -/
def LedgerOp.Writes (token : Uuid) : LedgerOp → Prop
  | .commit t _ _ _ _ => t = token
  | .fail t _ _ => t = token
  | _ => False

namespace Ledger

variable {env : LedgerEnv} {db db' : Ledger}

theorem moved_run (h : Moved env db db') : (ledgerSystem env).Run db db' :=
  Relation.ReflTransGen.single h

/-- A begin that returns has fenced, and may have bound the account. -/
theorem begin_cases {accountId : Option String} {db₁ : Ledger} {token : Uuid}
    (h : db.begin accountId = some (db₁, token)) :
    token = db.uuids ∧ (db₁ = db.fence ∨ ∃ bound, db.account = ""
      ∧ db₁ = db.fence.bindAccount ⟨"", db.uuids, db.checkpoint⟩ bound) := by
  unfold begin at h
  split at h
  · cases h
  · split at h
    · rename_i hnew
      cases h
      exact ⟨rfl, Or.inr ⟨_, hnew.2, rfl⟩⟩
    · cases h
      exact ⟨rfl, Or.inl rfl⟩

/-- A bind that returns may have bound the account. -/
theorem bind_cases {accountId : String} {token : Uuid} (h : db.bind token accountId = some db') :
    db' = db ∨ ∃ row, db.row = some row ∧ row.accountId = ""
      ∧ db' = db.bindAccount row accountId := by
  unfold bind at h
  split at h
  · cases h
  · split at h
    · cases h
    · rename_i row hrow
      split at h
      · cases h
      · split at h
        · cases h
        · split at h
          · rename_i hfree
            cases h
            exact Or.inr ⟨row, hrow, hfree, rfl⟩
          · cases h
            exact Or.inl rfl

/-- **A commit that returns** was refused, or accepted under the token of the
row. -/
theorem commit_cases {token : Uuid} {activities : List Activity} {documents : ImportDocuments}
    {checkedAt now : WireTime} {accepted : Bool}
    (h : db.commit env token activities documents checkedAt now = some (db', accepted)) :
    (accepted = false ∧ db' = db)
      ∨ (accepted = true ∧ ∃ row items, db.row = some row ∧ row.token = token
        ∧ byId? activities = some items ∧ db' = db.accept env row items
          (nextCheckpoint env row activities documents checkedAt now)) := by
  unfold commit at h
  split at h
  · cases h
  · rename_i items hitems
    split at h
    · cases h
      exact Or.inl ⟨rfl, rfl⟩
    · rename_i row hrow
      split at h
      · cases h
        exact Or.inl ⟨rfl, rfl⟩
      · rename_i htoken
        split at h
        · cases h
        · cases h
          exact Or.inr ⟨rfl, row, items, hrow, not_not.mp htoken, hitems, rfl⟩

/-- A failure is written under the token of the row. -/
theorem fail_cases (db : Ledger) (token : Uuid) (error : String) (checkedAt : WireTime) :
    db.fail token error checkedAt = db
      ∨ ∃ row, db.row = some row ∧ row.token = token
        ∧ db.fail token error checkedAt = db.setCheckpoint row
          { row.payload with error := some error, checkedAt := some checkedAt } := by
  unfold fail
  split
  · exact Or.inl rfl
  · rename_i row hrow
    split
    · rename_i htoken
      exact Or.inr ⟨row, hrow, htoken, rfl⟩
    · exact Or.inl rfl

/-- **A call that returns is a run of moves.** -/
theorem transact_run {op : LedgerOp} (h : db.transact env op = some db') :
    (ledgerSystem env).Run db db' := by
  cases op with
  | begin accountId =>
    obtain ⟨⟨db₁, token⟩, hret, rfl⟩ := Option.map_eq_some_iff.mp h
    obtain ⟨-, rfl | ⟨bound, hfree, rfl⟩⟩ := begin_cases hret
    · exact moved_run .fence
    · have hrow : db.fence.row = some ⟨"", db.uuids, db.checkpoint⟩ := by
        unfold fence
        rw [hfree]
      exact (moved_run .fence).tail (.bind hrow rfl)
  | bind token accountId =>
    rcases bind_cases h with rfl | ⟨row, hrow, hfree, rfl⟩
    · exact Relation.ReflTransGen.refl
    · exact moved_run (.bind hrow hfree)
  | commit token activities documents checkedAt now =>
    obtain ⟨⟨db₁, accepted⟩, hret, rfl⟩ := Option.map_eq_some_iff.mp h
    rcases commit_cases hret with ⟨-, rfl⟩ | ⟨-, row, items, hrow, -, hitems, rfl⟩
    · exact Relation.ReflTransGen.refl
    · exact moved_run (.commit hrow hitems)
  | fail token error checkedAt =>
    obtain rfl : db.fail token error checkedAt = db' := Option.some.inj h
    rcases fail_cases db token error checkedAt with hsame | ⟨row, hrow, -, hfail⟩
    · rw [hsame]
      exact Relation.ReflTransGen.refl
    · rw [hfail]
      exact moved_run (.fail hrow)
  | rebuild =>
    obtain ⟨⟨db₁, events⟩, hret, rfl⟩ := Option.map_eq_some_iff.mp h
    exact moved_run (.rebuild hret)

/-- A call, whether or not it returns. -/
theorem step_run (op : LedgerOp) : (ledgerSystem env).Run db (step env db op) := by
  unfold step
  cases h : db.transact env op with
  | none => exact Relation.ReflTransGen.refl
  | some db' => exact transact_run h

/-- **Calls by any importers in any order.** -/
theorem run_run (ops : List LedgerOp) : (ledgerSystem env).Run db (run env db ops) := by
  induction ops generalizing db with
  | nil => exact Relation.ReflTransGen.refl
  | cons op ops ih => exact Relation.ReflTransGen.trans (step_run op) ih

theorem reachable_run (env : LedgerEnv) (ops : List LedgerOp) :
    (ledgerSystem env).Reachable (run env empty ops) :=
  ⟨empty, rfl, run_run ops⟩

/-! ## Every change is journaled -/

@[simp] theorem observe_row (item : String × Activity) :
    (observe env db item).row = db.row := by
  unfold observe
  split <;> rfl

@[simp] theorem observe_uuids (item : String × Activity) :
    (observe env db item).uuids = db.uuids := by
  unfold observe
  split <;> rfl

@[simp] theorem observe_accepted (item : String × Activity) :
    (observe env db item).accepted = db.accepted := by
  unfold observe
  split <;> rfl

/-- What the changes to the activities leave alone. -/
def SameRow (db db' : Ledger) : Prop :=
  db'.row = db.row ∧ db'.uuids = db.uuids ∧ db'.accepted = db.accepted

theorem sameRow_project (env : LedgerEnv) (db : Ledger) (items : List (String × Activity)) :
    SameRow db (project env db items) := by
  have hobserved : SameRow db (items.foldl (observe env) db) :=
    List.foldlRecOn (motive := SameRow db) items (observe env) ⟨rfl, rfl, rfl⟩
      (fun d h item _ => by simpa [SameRow] using h)
  exact List.foldlRecOn (motive := SameRow db) _ retract hobserved (fun _ h _ _ => h)

/-- An activity with a name is replayed as it was observed. -/
theorem traced_observe {item : String × Activity} (hid : item.2.identity? = some item.1) :
    Traced env db (observe env db item) := by
  unfold observe
  split
  · exact Journals.refl _
  · refine Journals.single ?_
    simp [View.replay, hid, history, view, append, account, checkpoint]

theorem traced_retract (db : Ledger) (gone : String) : Traced env db (retract db gone) :=
  Journals.single rfl

/-- The named activities are the activities, under their identities. -/
theorem mem_mapM_identity {activities : List Activity} {items : List (String × Activity)}
    (h : activities.mapM (fun a => a.identity?.map (fun id => (id, a))) = some items)
    (item : String × Activity) :
    item ∈ items ↔ item.2 ∈ activities ∧ item.2.identity? = some item.1 := by
  induction activities generalizing items with
  | nil =>
    obtain rfl : [] = items := by simpa using h
    simp
  | cons a activities ih =>
    rw [List.mapM_cons] at h
    obtain ⟨named, hnamed, h⟩ := Option.bind_eq_some_iff.mp h
    obtain ⟨rest, hrest, h⟩ := Option.bind_eq_some_iff.mp h
    obtain rfl : named :: rest = items := Option.some.inj h
    obtain ⟨id, hid, rfl⟩ := Option.map_eq_some_iff.mp hnamed
    rw [List.mem_cons, ih hrest, List.mem_cons]
    constructor
    · rintro (rfl | ⟨hmem, hname⟩)
      · exact ⟨Or.inl rfl, hid⟩
      · exact ⟨Or.inr hmem, hname⟩
    · rintro ⟨heq | hmem, hname⟩
      · rw [heq, hid] at hname
        exact Or.inl (Prod.ext (Option.some.inj hname).symm heq)
      · exact Or.inr ⟨hmem, hname⟩

/-- An import has its activities by identity, each identity once. -/
theorem byId?_some {activities : List Activity} {items : List (String × Activity)}
    (h : byId? activities = some items) :
    (items.map (·.1)).Nodup ∧ ∀ item : String × Activity,
      item ∈ items ↔ item.2 ∈ activities ∧ item.2.identity? = some item.1 := by
  unfold byId? at h
  obtain ⟨found, hfound, h⟩ := Option.bind_eq_some_iff.mp h
  split at h
  · rename_i hnodup
    obtain rfl := Option.some.inj h
    exact ⟨hnodup, mem_mapM_identity hfound⟩
  · cases h

theorem traced_project {items : List (String × Activity)}
    (h : ∀ item ∈ items, item.2.identity? = some item.1) :
    Traced env db (project env db items) := by
  have hobserved : Traced env db (items.foldl (observe env) db) :=
    Journals.foldl (observe env) history (fun item hitem _ => traced_observe (h item hitem)) db
  exact hobserved.trans
    (Journals.foldl retract history (fun gone _ d => traced_retract d gone) _)

/-- A checkpoint is journaled. -/
theorem traced_setCheckpoint {row : LedgerRow} (hrow : db.row = some row)
    (payload : Checkpoint) : Traced env db (db.setCheckpoint row payload) := by
  refine Journals.single ?_
  simp [View.replay, history, view, account, checkpoint, hrow, setCheckpoint, append]

/-- **A rebuild returns**, with what was there under a new token. -/
theorem Replayable.rebuild (h : Replayable env db) :
    db.rebuild env = some ({ db with
      row := if db.journal.isEmpty then none else some ⟨db.account, db.uuids, db.checkpoint⟩
      uuids := db.uuids + 1 }, db.journal.length) := by
  unfold Ledger.rebuild
  rw [h.replay]
  rfl

/-- What a rebuild restores is what was there. -/
theorem Replayable.rebuild_view (h : Replayable env db) {events : ℕ}
    (hret : db.rebuild env = some (db', events)) : db'.view = db.view := by
  rw [h.rebuild] at hret
  cases hret
  by_cases hj : db.journal = []
  · have hstart : View.start = db.view := by simpa [hj] using h.replay
    have hacts : [] = db.activities := congrArg View.activities hstart
    rw [← hstart, hj, ← hacts]
    rfl
  · simp [view, account, checkpoint, hj]

/-- **A move keeps the ledger the replay of its journal.** -/
theorem Replayable.moved (h : Replayable env db) (hm : Moved env db db') :
    Replayable env db' := by
  cases hm with
  | fence =>
    exact ⟨h.replay, fun hrow => (by cases hrow), h.keyed⟩
  | @bind row accountId hrow unbound =>
    have htraced : Traced env db (db.bindAccount row accountId) := by
      refine Journals.single ?_
      simp [View.replay, history, view, account, checkpoint, hrow, bindAccount, append]
    exact ⟨htraced.replay h.replay, fun hnone => (by cases hnone), h.keyed⟩
  | @commit row activities items documents checkedAt now hrow named =>
    obtain ⟨-, hitems⟩ := byId?_some named
    have hsame := (sameRow_project env db items).1
    have htraced : Traced env db (db.accept env row items
        (nextCheckpoint env row activities documents checkedAt now)) :=
      (traced_project (fun item hitem => ((hitems item).mp hitem).2)).trans
        (traced_setCheckpoint (hsame.trans hrow) _)
    exact ⟨htraced.replay h.replay, fun hnone => (by cases hnone), keyed_project h.keyed⟩
  | @fail row error checkedAt hrow =>
    exact ⟨(traced_setCheckpoint hrow _).replay h.replay, fun hnone => (by cases hnone),
      h.keyed⟩
  | rebuild hret =>
    have hview := h.rebuild_view hret
    rw [h.rebuild] at hret
    cases hret
    refine ⟨by rw [hview]; exact h.replay, fun hnone => ?_, h.keyed⟩
    by_contra hj
    simp [hj] at hnone

/-- **In every state the ledger is the replay of its journal.** -/
theorem replayable (h : (ledgerSystem env).Reachable db) : Replayable env db :=
  h.of_step (fun _ h₀ => h₀ ▸ replayable_empty env) (fun _ _ _ hi hm => hi.moved hm)

/-! ## Fencing -/

/-- **A token that was superseded**: it was drawn, and the row has another. -/
def Stale (db : Ledger) (token : Uuid) : Prop :=
  token < db.uuids ∧ ∀ row, db.row = some row → row.token ≠ token

section Fence

variable {token : Uuid}

/-- A fence: a draw, and the row, if there is one, under it. -/
def Fenced (db db' : Ledger) : Prop :=
  db'.uuids = db.uuids + 1 ∧ ∀ row, db'.row = some row → row.token = db.uuids

/-- A fence supersedes every token drawn before. -/
theorem Fenced.stale (h : Fenced db db') (ht : token < db.uuids) : Stale db' token := by
  refine ⟨h.1 ▸ Nat.lt_succ_of_lt ht, fun row hr => ?_⟩
  rw [h.2 row hr]
  exact Nat.ne_of_gt ht

/-- A begin returns the token it put in the row. -/
theorem begin_fenced {accountId : Option String} {db₁ : Ledger}
    (h : db.begin accountId = some (db₁, token)) : token = db.uuids ∧ Fenced db db₁ := by
  obtain ⟨htoken, rfl | ⟨bound, -, rfl⟩⟩ := begin_cases h
  · exact ⟨htoken, rfl, fun row hr => (by cases hr; rfl)⟩
  · exact ⟨htoken, rfl, fun row hr => (by cases hr; rfl)⟩

theorem rebuild_fenced {events : ℕ} (h : db.rebuild env = some (db', events)) :
    Fenced db db' := by
  unfold rebuild at h
  obtain ⟨v, -, h⟩ := Option.bind_eq_some_iff.mp h
  cases h
  refine ⟨rfl, fun row hr => ?_⟩
  dsimp only at hr
  split at hr
  · cases hr
  · cases hr
    rfl

/-- **The token of the row only changes to a new one.** -/
theorem token_moved (hm : Moved env db db') :
    Fenced db db' ∨ (db'.uuids = db.uuids
      ∧ ∀ row', db'.row = some row' → ∃ row, db.row = some row ∧ row'.token = row.token) := by
  cases hm with
  | fence => exact Or.inl ⟨rfl, fun row hr => (by cases hr; rfl)⟩
  | bind hrow _ => exact Or.inr ⟨rfl, fun r hr => (by cases hr; exact ⟨_, hrow, rfl⟩)⟩
  | @commit row _ items _ _ _ hrow _ =>
    obtain ⟨-, huuids, -⟩ := sameRow_project env db items
    exact Or.inr ⟨huuids, fun r hr => (by cases hr; exact ⟨_, hrow, rfl⟩)⟩
  | fail hrow => exact Or.inr ⟨rfl, fun r hr => (by cases hr; exact ⟨_, hrow, rfl⟩)⟩
  | rebuild hret => exact Or.inl (rebuild_fenced hret)

/-- The token of the row was drawn. -/
theorem token_drawn (h : (ledgerSystem env).Reachable db) :
    ∀ row, db.row = some row → row.token < db.uuids := by
  refine h.of_step (I := fun d => ∀ row, d.row = some row → row.token < d.uuids)
    (fun _ h₀ row hr => ?_) (fun d d' _ hi hm row' hr' => ?_)
  · rw [h₀] at hr
    cases hr
  · rcases token_moved hm with ⟨huuids, hfresh⟩ | ⟨huuids, hold⟩
    · rw [huuids, hfresh row' hr']
      exact Nat.lt_succ_self _
    · obtain ⟨row, hr, htoken⟩ := hold row' hr'
      rw [huuids, htoken]
      exact hi row hr

/-- **A superseded token stays superseded.** -/
theorem Stale.run (h : Stale db token) (hr : (ledgerSystem env).Run db db') :
    Stale db' token := by
  induction hr with
  | refl => exact h
  | tail _ hm ih =>
    rcases token_moved hm with hfence | ⟨huuids, hrow⟩
    · exact hfence.stale ih.1
    · refine ⟨huuids ▸ ih.1, fun row' hr' => ?_⟩
      obtain ⟨row, hr, htoken⟩ := hrow row' hr'
      rw [htoken]
      exact ih.2 row hr

/-- No draw is undone. -/
theorem uuids_run (hr : (ledgerSystem env).Run db db') : db.uuids ≤ db'.uuids := by
  induction hr with
  | refl => exact Nat.le_refl _
  | tail _ hm ih =>
    rcases token_moved hm with ⟨huuids, -⟩ | ⟨huuids, -⟩ <;> omega

/-- Under a superseded token nothing is written. -/
theorem Stale.step (h : Stale db token) {op : LedgerOp} (hop : op.Writes token) :
    step env db op = db := by
  cases op with
  | begin accountId => cases hop
  | bind token accountId => cases hop
  | rebuild => cases hop
  | commit _ activities documents checkedAt now =>
    obtain rfl : _ = token := hop
    show ((db.commit env _ activities documents checkedAt now).map (·.1)).getD db = db
    cases hret : db.commit env _ activities documents checkedAt now with
    | none => rfl
    | some r =>
      rcases commit_cases hret with ⟨-, hsame⟩ | ⟨-, row, items, hrow, htoken, -, -⟩
      · exact hsame
      · exact absurd htoken (h.2 row hrow)
  | fail _ error checkedAt =>
    obtain rfl : _ = token := hop
    show db.fail _ error checkedAt = db
    rcases fail_cases db _ error checkedAt with hsame | ⟨row, hrow, htoken, -⟩
    · exact hsame
    · exact absurd htoken (h.2 row hrow)

/-- **A begin or a rebuild since the begin of an import supersedes it.** -/
theorem stale_of_fences {accountId : Option String} {db₁ db₂ : Ledger} {op : LedgerOp}
    {pre post : List LedgerOp} (hbegin : db.begin accountId = some (db₁, token))
    (hop : op.Fences) (hret : (run env db₁ pre).transact env op = some db₂) :
    Stale (run env db₁ (pre ++ op :: post)) token := by
  obtain ⟨rfl, hfence₁⟩ := begin_fenced hbegin
  have hdrawn : db.uuids < (run env db₁ pre).uuids :=
    lt_of_lt_of_le (hfence₁.1 ▸ Nat.lt_succ_self _) (uuids_run (run_run pre))
  have hfence : Fenced (run env db₁ pre) db₂ := by
    cases op with
    | begin other =>
      obtain ⟨⟨db₃, token⟩, h, rfl⟩ := Option.map_eq_some_iff.mp hret
      exact (begin_fenced h).2
    | rebuild =>
      obtain ⟨⟨db₃, events⟩, h, rfl⟩ := Option.map_eq_some_iff.mp hret
      exact rebuild_fenced h
    | bind => cases hop
    | commit => cases hop
    | fail => cases hop
  have hsplit : run env db₁ (pre ++ op :: post) = run env db₂ post := by
    have hstep : Ledger.step env (run env db₁ pre) op = db₂ := by
      unfold Ledger.step
      rw [hret]
      rfl
    rw [run, List.foldl_append, List.foldl_cons]
    exact congrArg (fun d => run env d post) hstep
  rw [hsplit]
  exact (hfence.stale hdrawn).run (run_run post)

end Fence

/-- The import that was committed: its activities and its checkpoint. -/
theorem commit_imports (hkeyed : Keyed db.activities) {token : Uuid}
    {activities : List Activity} {documents : ImportDocuments} {checkedAt now : WireTime}
    (h : db.commit env token activities documents checkedAt now = some (db', true)) :
    Keyed db'.activities
      ∧ (∀ id payload, Shows db'.activities id payload
        ↔ ∃ a ∈ activities, a.identity? = some id ∧ payload = env.encode a)
      ∧ ∃ row, db.row = some row ∧ db'.row = some { row with
          payload := nextCheckpoint env row activities documents checkedAt now } := by
  rcases commit_cases h with ⟨hfalse, -⟩ | ⟨-, row, items, hrow, -, hitems, rfl⟩
  · cases hfalse
  · obtain ⟨hnodup, hmem⟩ := byId?_some hitems
    refine ⟨keyed_project hkeyed, fun id payload => ?_, row, hrow, rfl⟩
    refine (shows_project hnodup hkeyed).trans ?_
    simp only [hmem]
    exact exists_congr (fun a => and_assoc)

/-- **The ledger is fenced and replayable.** After any calls of any importers in
any order: a commit or a failure under the token of a begin changes something
only when every begin or rebuild called since raised; a commit that returns true
leaves one row for each activity of the import, with its payload, and the
checkpoint derived from that import; and once something was journaled, a rebuild
returns and changes the token and nothing else. -/
theorem ledger_fenced_and_replayable (env : LedgerEnv) (ops : List LedgerOp) :
    (∀ accountId db₁ token since op,
        (run env empty ops).begin accountId = some (db₁, token) → op.Writes token →
        step env (run env db₁ since) op ≠ run env db₁ since →
        ∀ pre fence post, since = pre ++ fence :: post → fence.Fences →
          (run env db₁ pre).transact env fence = none)
      ∧ (∀ token activities documents checkedAt now db',
        (run env empty ops).commit env token activities documents checkedAt now
            = some (db', true) →
        (db'.activities.map (·.activityId)).Nodup
          ∧ (∀ id payload, (∃ r ∈ db'.activities, r.activityId = id ∧ r.payload = payload)
            ↔ ∃ a ∈ activities, a.identity? = some id ∧ payload = env.encode a)
          ∧ ∃ row, (run env empty ops).row = some row ∧ db'.row = some { row with
              payload := nextCheckpoint env row activities documents checkedAt now })
      ∧ ((run env empty ops).journal ≠ [] →
        ∃ row token, (run env empty ops).row = some row
          ∧ (run env empty ops).rebuild env = some
            ({ run env empty ops with
              row := some { row with token := token }
              uuids := (run env empty ops).uuids + 1 }, (run env empty ops).journal.length)
          ∧ token ≠ row.token) := by
  have hinv := replayable (reachable_run env ops)
  refine ⟨?_, ?_, ?_⟩
  · intro accountId db₁ token since op hbegin hop hchange pre fence post hsince hfence
    cases hret : (run env db₁ pre).transact env fence with
    | none => rfl
    | some db₂ =>
      subst hsince
      exact absurd ((stale_of_fences hbegin hfence hret).step hop) hchange
  · intro token activities documents checkedAt now db' h
    exact commit_imports hinv.keyed h
  · intro hj
    cases hrow : (run env empty ops).row with
    | none => exact absurd (hinv.bound hrow) hj
    | some row =>
      refine ⟨row, (run env empty ops).uuids, rfl, ?_,
        Nat.ne_of_gt (token_drawn (reachable_run env ops) row hrow)⟩
      rw [hinv.rebuild]
      simp [account, checkpoint, hrow, hj]

/-! ### Two imports, the second without the deposit of the first -/

/-- `encode`, of an activity whose fields are texts and in order. -/
def sampleEncode (a : Activity) : String :=
  "\x7b" ++ ", ".intercalate (a.map (fun f => "\"" ++ f.1 ++ "\": \"" ++ f.2.text ++ "\""))
    ++ "\x7d"

/-- The digests of deposits of 1000 and of 900 without a date. -/
def sampleDigest (e : CashEvidence) : String :=
  if e.netAmount = 1000 then
    "b6ffc596665f22c4cb138892d0cc29f1d9a91e771261eab669fb5ae21ae39c9e"
  else "0ca39aba140247bdaa2dc97d1f49b5d18478dbaf5173311be5b460544f315d41"

def sampleLedgerEnv : LedgerEnv := ⟨⟨id, sampleDigest⟩, sampleEncode⟩

def sampleTransfer (id amount : String) : Activity :=
  [("activity_type", .str "CSD"), ("id", .str id), ("net_amount", .str amount)]

/-- An import whose report is not there. -/
def sampleImport (token : Uuid) (activities : List Activity) : LedgerOp :=
  .commit token activities ⟨.absent, .absent⟩ (.aware 10) (.aware 10)

/-- The first import, of two deposits. -/
def sampleOps : List LedgerOp :=
  [.begin none, .bind 0 "acct",
    sampleImport 0 [sampleTransfer "a-1" "1000", sampleTransfer "a-2" "1000"]]

/-- The ledger after it. -/
def sampleLedger : Ledger := run sampleLedgerEnv empty sampleOps

theorem ledger_fenced_and_replayable_sample :
    (∃ db₁, sampleLedger.begin none = some (db₁, 1)
        ∧ db₁.transact sampleLedgerEnv (.begin (some "other")) = none)
      ∧ (∃ db', sampleLedger.commit sampleLedgerEnv 0 [sampleTransfer "a-2" "1000"]
            ⟨.absent, .absent⟩ (.aware 20) (.aware 20) = some (db', true)
        ∧ (∃ r ∈ db'.activities, r.activityId = "a-2"
          ∧ r.payload = sampleEncode (sampleTransfer "a-2" "1000"))
        ∧ (db'.activities.map (·.activityId)).Nodup)
      ∧ ∃ db', sampleLedger.rebuild sampleLedgerEnv = some (db', 4)
        ∧ db'.activities = sampleLedger.activities := by
  obtain ⟨hfence, hcommit, hrebuild⟩ :=
    ledger_fenced_and_replayable sampleLedgerEnv sampleOps
  refine ⟨?_, ?_, ?_⟩
  · -- A begin under another account raises, and the import before it goes on.
    have hbegin : (sampleLedger.begin none).map (fun r => (r.2,
        (run sampleLedgerEnv r.1 [.begin (some "other")]).journal.length,
        (run sampleLedgerEnv r.1 [.begin (some "other"), sampleImport 1 []]).journal.length))
          = some (1, 4, 7) := by
      decide +kernel
    obtain ⟨⟨db₁, token⟩, h, heq⟩ := Option.map_eq_some_iff.mp hbegin
    simp only [Prod.mk.injEq] at heq
    obtain ⟨rfl, hbefore, hafter⟩ := heq
    refine ⟨db₁, h, hfence none db₁ 1 [.begin (some "other")] (sampleImport 1 []) h rfl ?_
      [] _ [] rfl trivial⟩
    intro hsame
    have hlength := congrArg (fun d => d.journal.length) hsame
    have hlast : (step sampleLedgerEnv (run sampleLedgerEnv db₁ [.begin (some "other")])
        (sampleImport 1 [])).journal.length = 7 := hafter
    omega
  · have hret : (sampleLedger.commit sampleLedgerEnv 0 [sampleTransfer "a-2" "1000"]
        ⟨.absent, .absent⟩ (.aware 20) (.aware 20)).map (·.2) = some true := by
      decide +kernel
    obtain ⟨⟨db', ok⟩, h, rfl⟩ := Option.map_eq_some_iff.mp hret
    obtain ⟨hkeyed, hshows, -⟩ := hcommit _ _ _ _ _ _ h
    exact ⟨db', h, (hshows _ _).mpr ⟨_, List.mem_cons_self, by decide +kernel, rfl⟩, hkeyed⟩
  · have hj : (run sampleLedgerEnv empty sampleOps).journal.length = 4 := by decide +kernel
    obtain ⟨row, token, -, hret, -⟩ := hrebuild (fun hnil => by
      rw [hnil] at hj
      cases hj)
    rw [hj] at hret
    exact ⟨_, hret, rfl⟩

end Ledger

end AgenticTrader
