import KvIndexer.Config.Durability
import KvIndexer.Itoa
import Mathlib.Data.List.Perm.Basic

/-!
The SQLite backend (`internal/config/sqlite_persister.go`).

`save` runs one transaction: it deletes every row and inserts those of the snapshot, each
entity as a document under its id. Any statement can fail, and the process can die at any
of them; either way the database rolls the transaction back. An insertion also fails if
the id is taken, which the ids of a consistent store never are. `load` reads the tables
in whatever order the database yields their rows, and the audit log by its sequence number.
-/

namespace KvIndexer.Config

/-! ### The version as text -/

/-- The loop of `atoiSafe`. -/
def atoiLoop (n : Int64) : List Char → Int64
  | [] => n
  | c :: cs =>
      if c < '0' ∨ '9' < c then 0
      else atoiLoop (n * 10 + Int64.ofNat (c.toNat - '0'.toNat)) cs

def atoiSafe (s : String) : Int64 := atoiLoop 0 s.toList

theorem atoiLoop_digits {cs : List Char} (digits : ∀ c ∈ cs, c.isDigit = true) (n : Nat) :
    atoiLoop (.ofNat n) cs = .ofNat (Nat.ofDigitChars 10 cs n) := by
  induction cs generalizing n with
  | nil => rw [Nat.ofDigitChars_nil, atoiLoop]
  | cons c cs ih =>
      obtain ⟨digit, rest⟩ := List.forall_mem_cons.mp digits
      have range : '0'.val ≤ c.val ∧ c.val ≤ '9'.val := by
        simpa only [Char.isDigit, Bool.and_eq_true, decide_eq_true_eq] using digit
      have inside : ¬ (c < '0' ∨ '9' < c) := by
        rintro (low | high)
        · exact absurd (show '0' ≤ c from range.1) (not_le.mpr low)
        · exact absurd (show c ≤ '9' from range.2) (not_le.mpr high)
      rw [atoiLoop, if_neg inside, Nat.ofDigitChars_cons, ← ih rest, Int64.ofNat_add,
        Int64.ofNat_mul, Int64.mul_comm]
      rfl

/-- What is read of a version that was written with `itoa`. -/
def storedVersion (v : Int64) : Int64 := if v.toInt < 0 then 0 else v

theorem atoiSafe_itoa (v : Int64) : atoiSafe (itoa v.toInt) = storedVersion v := by
  unfold storedVersion
  split
  · rename_i negative
    have sign := (head?_itoa v.toInt).mpr negative
    unfold atoiSafe
    cases text : (itoa v.toInt).toList with
    | nil => simp [text] at sign
    | cons c cs =>
        rw [text, List.head?_cons] at sign
        obtain rfl := Option.some.inj sign
        rw [atoiLoop, if_pos (by decide)]
  · rename_i nonneg
    have digits : ∀ c ∈ (Nat.repr v.toInt.toNat).toList, c.isDigit = true :=
      fun _ member => isDigit_of_mem_repr member
    have read := atoiLoop_digits digits 0
    rw [Nat.toList_repr, Nat.ofDigitChars_ten_toDigits, ← Nat.toList_repr] at read
    rw [itoa_of_nonneg (by omega), atoiSafe]
    refine read.trans ?_
    rw [← Int64.ofInt_eq_ofNat, Int.toNat_of_nonneg (by omega), Int64.ofInt_toInt]

theorem storedVersion_storedVersion (v : Int64) :
    storedVersion (storedVersion v) = storedVersion v := by
  unfold storedVersion
  split
  · rfl
  · rfl

/-! ### The database -/

namespace SQLitePersister

/-- The tables that have a text as their primary key. -/
inductive TableName where
  /-- `meta` -/
  | metadata
  | clusters
  | engines
  | profiles
  | policies
deriving DecidableEq

/-- Rows of a key and a text. -/
abbrev Table := List (String × String)

structure Database where
  table : TableName → Table := fun _ => []
  /-- rows of a sequence number and a document -/
  audit : List (Nat × String) := []
  /-- the last sequence number given out -/
  auditSeq : Nat := 0

namespace Database

/-- `DELETE FROM name` -/
def clear (db : Database) (name : TableName) : Database :=
  { db with table := Function.update db.table name [] }

def clearAudit (db : Database) : Database := { db with audit := [] }

/-- `INSERT INTO name VALUES(k,v)`, an error if there is a row with the key. -/
def insert (name : TableName) (k v : String) (db : Database) : Option Database :=
  if k ∈ (db.table name).map Prod.fst then none
  else some { db with table := Function.update db.table name (db.table name ++ [(k, v)]) }

/-- `INSERT INTO audit(data) VALUES(data)`, under the next sequence number. -/
def insertAudit (data : String) (db : Database) : Database :=
  { db with audit := db.audit ++ [(db.auditSeq + 1, data)], auditSeq := db.auditSeq + 1 }

end Database

/-- A transaction: the database as it sees it, and how many statements it has run. -/
structure Tx where
  db : Database
  ran : Nat := 0

/-- Which statements fail, by their number. Where the process dies, the rest fail. -/
abbrev Faults := Nat → Bool

/-- Run one statement. None is an error; `Save` returns and the transaction is rolled back. -/
def Tx.exec (fails : Faults) (stmt : Database → Option Database) (tx : Tx) : Option Tx :=
  if fails tx.ran then none else (stmt tx.db).map fun db => { db, ran := tx.ran + 1 }

/-- `json.Marshal` and `json.Unmarshal` of the entities. -/
structure Documents where
  cluster : Codec Cluster String id
  engine : Codec Engine String id
  profile : Codec ModelProfile String id
  policy : Codec Policy String Policy.reread
  audit : Codec AuditEntry String id

/-- Insert an entity as a row of its id and its document. -/
def insertJSONRow {α : Type} {reread : α → α} (fails : Faults) (name : TableName) (id : α → String)
    (codec : Codec α String reread) (tx : Tx) (entity : α) : Option Tx := do
  let b ← codec.marshal entity
  tx.exec fails (Database.insert name (id entity) b)

def insertJSONRows {α : Type} {reread : α → α} (fails : Faults) (name : TableName)
    (id : α → String) (codec : Codec α String reread) (entities : List α) (tx : Tx) : Option Tx :=
  entities.foldlM (insertJSONRow fails name id codec) tx

def insertAuditRow (fails : Faults) (codec : Codec AuditEntry String id) (tx : Tx)
    (a : AuditEntry) : Option Tx := do
  let b ← codec.marshal a
  tx.exec fails fun db => some (db.insertAudit b)

/-- The `DELETE` statements, in the order of the list. -/
def deleteRows (fails : Faults) (tx : Tx) : Option Tx := do
  let tx ← [.metadata, .clusters, .engines, .profiles, .policies].foldlM
    (fun tx name => Tx.exec fails (fun db => some (db.clear name)) tx) tx
  tx.exec fails fun db => some db.clearAudit

variable (json : Documents)

/-- The transaction of a save, from its begin to its commit. -/
def transaction (fails : Faults) (snap : Snapshot) (db : Database) : Option Database := do
  let tx ← Tx.exec fails some { db }
  let tx ← deleteRows fails tx
  let tx ← tx.exec fails (Database.insert .metadata "version" (itoa snap.version.toInt))
  let tx ← insertJSONRows fails .clusters Cluster.clusterID json.cluster snap.clusters tx
  let tx ← insertJSONRows fails .engines Engine.engineID json.engine snap.engines tx
  let tx ← insertJSONRows fails .profiles ModelProfile.modelID json.profile snap.profiles tx
  let tx ← insertJSONRows fails .policies Policy.ruleID json.policy snap.policies tx
  let tx ← snap.audit.foldlM (insertAuditRow fails json.audit) tx
  let tx ← tx.exec fails some
  some tx.db

def save (fails : Faults) (snap : Snapshot) (db : Database) : Database × Bool :=
  match transaction json fails snap db with
  | some db => (db, true)
  | none => (db, false)

/-- The order in which the rows of a table are yielded. -/
structure Scan where
  table : TableName → Table → Table
  audit : List (Nat × String) → List (Nat × String)
  perm_table : ∀ name rows, (table name rows).Perm rows
  perm_audit : ∀ rows, (audit rows).Perm rows

def loadJSONRows {α : Type} {reread : α → α} (codec : Codec α String reread) (rows : Table) :
    Option (List α) :=
  rows.mapM fun row => codec.unmarshal row.2

def load (scan : Scan) (db : Database) : Option (Option Snapshot) :=
  match (scan.table .metadata (db.table .metadata)).find? fun row => row.1 = "version" with
  | none => some none
  | some (_, versionStr) => do
      let clusters ← loadJSONRows json.cluster (scan.table .clusters (db.table .clusters))
      let engines ← loadJSONRows json.engine (scan.table .engines (db.table .engines))
      let profiles ← loadJSONRows json.profile (scan.table .profiles (db.table .profiles))
      let policies ← loadJSONRows json.policy (scan.table .policies (db.table .policies))
      let audit ← ((scan.audit db.audit).mergeSort fun row row' => row.1 ≤ row'.1).mapM
        fun row => json.audit.unmarshal row.2
      some (some { version := atoiSafe versionStr, clusters, engines, profiles, policies, audit })

def persister : Persister Database Faults Scan where
  save := save json
  load := load json

/-! ### What a transaction writes -/

theorem exec_eq_some {fails : Faults} {stmt : Database → Option Database} {tx tx' : Tx} :
    tx.exec fails stmt = some tx' ↔
      fails tx.ran = false ∧ stmt tx.db = some tx'.db ∧ tx'.ran = tx.ran + 1 := by
  unfold Tx.exec
  cases fails tx.ran with
  | true => simp
  | false =>
      simp only [Bool.false_eq_true, if_false, true_and, Option.map_eq_some_iff]
      constructor
      · rintro ⟨db, done, rfl⟩
        exact ⟨done, rfl⟩
      · rintro ⟨done, ran⟩
        exact ⟨tx'.db, done, congrArg (Tx.mk tx'.db) ran.symm⟩

/-- The database with more rows in a table. -/
def Database.append (db : Database) (name : TableName) (rows : Table) : Database :=
  { db with table := Function.update db.table name (db.table name ++ rows) }

theorem Database.append_nil (db : Database) (name : TableName) : db.append name [] = db := by
  unfold append
  rw [List.append_nil, Function.update_eq_self]

theorem Database.append_append (db : Database) (name : TableName) (rows rows' : Table) :
    (db.append name rows).append name rows' = db.append name (rows ++ rows') := by
  simp only [append, Function.update_self, Function.update_idem, List.append_assoc]

theorem Database.table_append (db : Database) (name : TableName) (rows : Table) :
    (db.append name rows).table name = db.table name ++ rows :=
  Function.update_self _ _ _

theorem Database.table_append_of_ne (db : Database) {name other : TableName} (rows : Table)
    (ne : other ≠ name) : (db.append name rows).table other = db.table other :=
  Function.update_of_ne ne _ _

section Rows

variable {α : Type} {reread : α → α} {fails : Faults} {name : TableName} {id : α → String}
  {codec : Codec α String reread}

/-- The row of an entity. -/
def IsRow (id : α → String) (codec : Codec α String reread) (entity : α) (row : String × String) :
    Prop :=
  row.1 = id entity ∧ codec.marshal entity = some row.2

theorem insertJSONRow_eq_some {tx tx' : Tx} {entity : α} :
    insertJSONRow fails name id codec tx entity = some tx' ↔
      ∃ row, IsRow id codec entity row ∧ fails tx.ran = false ∧
        row.1 ∉ (tx.db.table name).map Prod.fst ∧ tx'.db = tx.db.append name [row] ∧
        tx'.ran = tx.ran + 1 := by
  unfold insertJSONRow
  simp only [Option.bind_eq_bind, Option.bind_eq_some_iff, exec_eq_some]
  constructor
  · rintro ⟨b, written, runs, inserted, ran⟩
    unfold Database.insert at inserted
    split at inserted
    · cases inserted
    · rename_i fresh
      exact ⟨(id entity, b), ⟨rfl, written⟩, runs, fresh, (Option.some.inj inserted).symm, ran⟩
  · rintro ⟨⟨k, b⟩, ⟨rfl, written⟩, runs, fresh, inserted, ran⟩
    refine ⟨b, written, runs, ?_, ran⟩
    rw [Database.insert, if_neg fresh, inserted]
    rfl

/-- The rows of the entities, in order, are appended to the table. -/
theorem insertJSONRows_eq_some {entities : List α} {tx tx' : Tx}
    (inserted : insertJSONRows fails name id codec entities tx = some tx') :
    ∃ rows, List.Forall₂ (IsRow id codec) entities rows ∧ tx'.db = tx.db.append name rows := by
  induction entities generalizing tx with
  | nil =>
      obtain rfl := Option.some.inj inserted
      exact ⟨[], .nil, (Database.append_nil _ _).symm⟩
  | cons entity entities ih =>
      rw [insertJSONRows, List.foldlM_cons] at inserted
      obtain ⟨next, first, rest⟩ := Option.bind_eq_some_iff.mp inserted
      obtain ⟨row, isRow, -, -, appended, -⟩ := insertJSONRow_eq_some.mp first
      obtain ⟨rows, areRows, whole⟩ := ih rest
      refine ⟨row :: rows, .cons isRow areRows, ?_⟩
      rw [whole, appended, Database.append_append, List.singleton_append]

/-- If no statement fails, entities with documents and new ids of their own are inserted. -/
theorem insertJSONRows_isSome (runs : ∀ i, fails i = false) {entities : List α} {tx : Tx}
    (written : ∀ entity ∈ entities, (codec.marshal entity).isSome)
    (distinct : (entities.map id).Nodup)
    (fresh : ∀ entity ∈ entities, id entity ∉ (tx.db.table name).map Prod.fst) :
    (insertJSONRows fails name id codec entities tx).isSome := by
  induction entities generalizing tx with
  | nil => rfl
  | cons entity entities ih =>
      obtain ⟨here, later⟩ := List.forall_mem_cons.mp written
      obtain ⟨new, newer⟩ := List.forall_mem_cons.mp fresh
      obtain ⟨own, others⟩ := List.nodup_cons.mp distinct
      obtain ⟨b, document⟩ := Option.isSome_iff_exists.mp here
      have first : insertJSONRow fails name id codec tx entity =
          some ⟨tx.db.append name [(id entity, b)], tx.ran + 1⟩ :=
        insertJSONRow_eq_some.mpr ⟨(id entity, b), ⟨rfl, document⟩, runs _, new, rfl, rfl⟩
      rw [insertJSONRows, List.foldlM_cons, first]
      refine ih later others fun other member taken => ?_
      have taken : id other ∈ ((tx.db.append name [(id entity, b)]).table name).map Prod.fst :=
        taken
      rw [Database.table_append, List.map_append, List.map_singleton] at taken
      rcases List.mem_append.mp taken with before | now
      · exact newer other member before
      · exact own (List.mem_map.mpr ⟨other, member, List.mem_singleton.mp now⟩)

/-- So into an empty table, and the other tables stay as they were. -/
theorem insertJSONRows_into_empty (runs : ∀ i, fails i = false) (name : TableName) (tx : Tx)
    {entities : List α} (written : ∀ entity ∈ entities, (codec.marshal entity).isSome)
    (distinct : (entities.map id).Nodup) (empty : tx.db.table name = []) :
    ∃ tx', insertJSONRows fails name id codec entities tx = some tx' ∧
      ∀ other, other ≠ name → tx'.db.table other = tx.db.table other := by
  have fresh : ∀ entity ∈ entities, id entity ∉ (tx.db.table name).map Prod.fst := by
    intro entity _
    rw [empty]
    exact List.not_mem_nil
  obtain ⟨tx', inserted⟩ :=
    Option.isSome_iff_exists.mp (insertJSONRows_isSome runs written distinct fresh)
  obtain ⟨rows, -, appended⟩ := insertJSONRows_eq_some inserted
  refine ⟨tx', inserted, fun other ne => ?_⟩
  rw [appended, Database.table_append_of_ne _ _ ne]

/-- Rows read back in any order give the entities, in some order. -/
theorem loadJSONRows_perm {entities : List α} {rows rows' : Table}
    (areRows : List.Forall₂ (IsRow id codec) entities rows) (rearranged : rows'.Perm rows) :
    ∃ entities' : List α, entities'.Perm entities ∧
      loadJSONRows codec rows' = some (entities'.map reread) := by
  obtain ⟨entities', areRows', rearranged'⟩ := List.perm_comp_forall₂ rearranged areRows.flip
  have documents : List.Forall₂ (fun entity row => codec.marshal entity = some row.2) entities'
      rows' := areRows'.flip.imp fun _ _ isRow => isRow.2
  exact ⟨entities', rearranged', codec.mapM_unmarshal documents⟩

end Rows

/-! #### The audit log -/

section Audit

variable {fails : Faults} {codec : Codec AuditEntry String id}

theorem insertAuditRow_eq_some {tx tx' : Tx} {a : AuditEntry} :
    insertAuditRow fails codec tx a = some tx' ↔
      ∃ b, codec.marshal a = some b ∧ fails tx.ran = false ∧ tx'.db = tx.db.insertAudit b ∧
        tx'.ran = tx.ran + 1 := by
  unfold insertAuditRow
  simp only [Option.bind_eq_bind, Option.bind_eq_some_iff, exec_eq_some, Option.some.injEq]
  refine exists_congr fun b => and_congr_right fun _ => and_congr_right fun _ => ?_
  rw [eq_comm]

/-- The entries are appended in order, under rising sequence numbers. -/
theorem insertAuditRows_eq_some {entries : List AuditEntry} {tx tx' : Tx}
    (inserted : entries.foldlM (insertAuditRow fails codec) tx = some tx') :
    ∃ rows : List (Nat × String), tx'.db.table = tx.db.table ∧
      tx'.db.audit = tx.db.audit ++ rows ∧
      List.Forall₂ (fun a row => codec.marshal a = some row.2) entries rows ∧
      rows.Pairwise (fun row row' => row.1 < row'.1) ∧ ∀ row ∈ rows, tx.db.auditSeq < row.1 := by
  induction entries generalizing tx with
  | nil =>
      obtain rfl := Option.some.inj inserted
      exact ⟨[], rfl, (List.append_nil _).symm, .nil, .nil, by simp⟩
  | cons a entries ih =>
      rw [List.foldlM_cons] at inserted
      obtain ⟨next, first, rest⟩ := Option.bind_eq_some_iff.mp inserted
      obtain ⟨b, written, -, appended, -⟩ := insertAuditRow_eq_some.mp first
      obtain ⟨rows, table, audit, areRows, rising, later⟩ := ih rest
      rw [appended] at table audit later
      refine ⟨(tx.db.auditSeq + 1, b) :: rows, table, ?_, .cons written areRows, ?_, ?_⟩
      · rw [audit, Database.insertAudit, List.append_assoc, List.singleton_append]
      · exact List.pairwise_cons.mpr ⟨later, rising⟩
      · intro row member
        rcases List.mem_cons.mp member with rfl | member
        · exact Nat.lt_succ_self _
        · exact lt_trans (Nat.lt_succ_self _) (later row member)

theorem insertAuditRows_isSome (runs : ∀ i, fails i = false) {entries : List AuditEntry} {tx : Tx}
    (written : ∀ a ∈ entries, (codec.marshal a).isSome) :
    (entries.foldlM (insertAuditRow fails codec) tx).isSome := by
  induction entries generalizing tx with
  | nil => rfl
  | cons a entries ih =>
      obtain ⟨here, later⟩ := List.forall_mem_cons.mp written
      obtain ⟨b, document⟩ := Option.isSome_iff_exists.mp here
      have first : insertAuditRow fails codec tx a = some ⟨tx.db.insertAudit b, tx.ran + 1⟩ :=
        insertAuditRow_eq_some.mpr ⟨b, document, runs _, rfl, rfl⟩
      rw [List.foldlM_cons, first]
      exact ih later

/-- Read by their numbers, the rows are in the order in which they were inserted. -/
theorem mergeSort_rising {rows rows' : List (Nat × String)}
    (rising : rows.Pairwise fun row row' => row.1 < row'.1) (rearranged : rows'.Perm rows) :
    rows'.mergeSort (fun row row' => row.1 ≤ row'.1) = rows := by
  have sorted : (rows'.mergeSort fun row row' => row.1 ≤ row'.1).Pairwise
      fun row row' => row.1 ≤ row'.1 := by
    have ordered := @List.pairwise_mergeSort _ (fun row row' : Nat × String => row.1 ≤ row'.1)
      (by simpa only [decide_eq_true_eq] using fun row row' row'' => le_trans)
      (by simpa using Nat.le_total) rows'
    simpa only [decide_eq_true_eq] using ordered
  have same := (List.mergeSort_perm rows' fun row row' => row.1 ≤ row'.1).trans rearranged
  have numbers : (rows.map Prod.fst).Nodup := List.pairwise_map.mpr (rising.imp ne_of_lt)
  refine List.Perm.eq_of_pairwise ?_ sorted (rising.imp le_of_lt) same
  intro row row' member member' le ge
  exact List.inj_on_of_nodup_map numbers (same.mem_iff.mp member) member' (le_antisymm le ge)

end Audit

/-! #### The whole transaction -/

theorem clearAll_eq_some {fails : Faults} {names : List TableName} {tx tx' : Tx}
    (cleared : names.foldlM (fun tx name => Tx.exec fails (fun db => some (db.clear name)) tx) tx =
      some tx') :
    tx'.db.audit = tx.db.audit ∧
      ∀ name, tx'.db.table name = if name ∈ names then [] else tx.db.table name := by
  induction names generalizing tx with
  | nil =>
      obtain rfl := Option.some.inj cleared
      exact ⟨rfl, fun name => by simp⟩
  | cons first names ih =>
      rw [List.foldlM_cons] at cleared
      obtain ⟨next, here, rest⟩ := Option.bind_eq_some_iff.mp cleared
      obtain ⟨-, done, -⟩ := exec_eq_some.mp here
      have done : next.db = tx.db.clear first := (Option.some.inj done).symm
      obtain ⟨audit, tables⟩ := ih rest
      refine ⟨audit.trans (by rw [done]; rfl), fun name => ?_⟩
      have here : (tx.db.clear first).table name = if name = first then [] else tx.db.table name :=
        Function.update_apply _ _ _ _
      rw [tables, done, here]
      by_cases same : name = first
      · simp [same]
      · simp [same]

theorem deleteRows_eq_some {fails : Faults} {tx tx' : Tx}
    (deleted : deleteRows fails tx = some tx') :
    tx'.db.audit = [] ∧ ∀ name, tx'.db.table name = [] := by
  unfold deleteRows at deleted
  obtain ⟨next, tables, last⟩ := Option.bind_eq_some_iff.mp deleted
  obtain ⟨-, done, -⟩ := exec_eq_some.mp last
  rw [← Option.some.inj done]
  refine ⟨rfl, fun name => ?_⟩
  show next.db.table name = []
  rw [(clearAll_eq_some tables).2, if_pos]
  cases name <;> simp

/-- What a database holds once a snapshot was written to it. -/
structure Written (snap : Snapshot) (db : Database) : Prop where
  version : db.table .metadata = [("version", itoa snap.version.toInt)]
  clusters : List.Forall₂ (IsRow Cluster.clusterID json.cluster) snap.clusters (db.table .clusters)
  engines : List.Forall₂ (IsRow Engine.engineID json.engine) snap.engines (db.table .engines)
  profiles : List.Forall₂ (IsRow ModelProfile.modelID json.profile) snap.profiles
    (db.table .profiles)
  policies : List.Forall₂ (IsRow Policy.ruleID json.policy) snap.policies (db.table .policies)
  audit : List.Forall₂ (fun a row => json.audit.marshal a = some row.2) snap.audit db.audit
  rising : db.audit.Pairwise fun row row' => row.1 < row'.1

theorem insert_of_empty {db : Database} {name : TableName} {k v : String}
    (empty : db.table name = []) : db.insert name k v = some (db.append name [(k, v)]) := by
  rw [Database.insert, empty, if_neg (by simp), Database.append, empty]

variable {json}

theorem transaction_eq_some {fails : Faults} {snap : Snapshot} {db db' : Database}
    (done : transaction json fails snap db = some db') : Written json snap db' := by
  unfold transaction at done
  obtain ⟨tx₁, begun, done⟩ := Option.bind_eq_some_iff.mp done
  obtain ⟨tx₂, deleted, done⟩ := Option.bind_eq_some_iff.mp done
  obtain ⟨tx₃, versioned, done⟩ := Option.bind_eq_some_iff.mp done
  obtain ⟨tx₄, clusters, done⟩ := Option.bind_eq_some_iff.mp done
  obtain ⟨tx₅, engines, done⟩ := Option.bind_eq_some_iff.mp done
  obtain ⟨tx₆, profiles, done⟩ := Option.bind_eq_some_iff.mp done
  obtain ⟨tx₇, policies, done⟩ := Option.bind_eq_some_iff.mp done
  obtain ⟨tx₈, audit, done⟩ := Option.bind_eq_some_iff.mp done
  obtain ⟨tx₉, committed, done⟩ := Option.bind_eq_some_iff.mp done
  obtain rfl := Option.some.inj done
  obtain ⟨noAudit, noRows⟩ := deleteRows_eq_some deleted
  obtain ⟨-, inserted, -⟩ := exec_eq_some.mp versioned
  rw [insert_of_empty (noRows _)] at inserted
  obtain ⟨rows₄, areRows₄, db₄⟩ := insertJSONRows_eq_some clusters
  obtain ⟨rows₅, areRows₅, db₅⟩ := insertJSONRows_eq_some engines
  obtain ⟨rows₆, areRows₆, db₆⟩ := insertJSONRows_eq_some profiles
  obtain ⟨rows₇, areRows₇, db₇⟩ := insertJSONRows_eq_some policies
  obtain ⟨rows₈, table₈, audit₈, areRows₈, rising, -⟩ := insertAuditRows_eq_some audit
  obtain ⟨-, last, -⟩ := exec_eq_some.mp committed
  rw [← Option.some.inj last]
  rw [db₇, db₆, db₅, db₄, ← Option.some.inj inserted] at table₈ audit₈
  have whole : tx₈.db.audit = rows₈ := audit₈.trans (congrArg (· ++ rows₈) noAudit)
  constructor
  · rw [table₈]
    simp [Database.append, noRows]
  · rw [table₈]
    simpa [Database.append, noRows] using areRows₄
  · rw [table₈]
    simpa [Database.append, noRows] using areRows₅
  · rw [table₈]
    simpa [Database.append, noRows] using areRows₆
  · rw [table₈]
    simpa [Database.append, noRows] using areRows₇
  · rw [whole]
    exact areRows₈
  · rw [whole]
    exact rising

/-- What was written reads back, whatever the order of the rows. -/
theorem load_written {snap : Snapshot} {db : Database} (written : Written json snap db)
    (scan : Scan) :
    ∃ snap' : Snapshot, snap'.Rearranged snap ∧ snap'.version = storedVersion snap.version ∧
      load json scan db = some (some snap'.reread) := by
  have metadata : scan.table .metadata (db.table .metadata) =
      [("version", itoa snap.version.toInt)] :=
    List.perm_singleton.mp (written.version ▸ scan.perm_table .metadata _)
  obtain ⟨clusters, sameClusters, loadClusters⟩ :=
    loadJSONRows_perm written.clusters (scan.perm_table .clusters _)
  obtain ⟨engines, sameEngines, loadEngines⟩ :=
    loadJSONRows_perm written.engines (scan.perm_table .engines _)
  obtain ⟨profiles, sameProfiles, loadProfiles⟩ :=
    loadJSONRows_perm written.profiles (scan.perm_table .profiles _)
  obtain ⟨policies, samePolicies, loadPolicies⟩ :=
    loadJSONRows_perm written.policies (scan.perm_table .policies _)
  have loadAudit : ((scan.audit db.audit).mergeSort fun row row' => row.1 ≤ row'.1).mapM
      (fun row => json.audit.unmarshal row.2) = some snap.audit := by
    rw [mergeSort_rising written.rising (scan.perm_audit _),
      json.audit.mapM_unmarshal written.audit, List.map_id]
  refine ⟨⟨storedVersion snap.version, clusters, engines, profiles, policies, snap.audit⟩,
    ⟨sameClusters, sameEngines, sameProfiles, samePolicies, rfl⟩, rfl, ?_⟩
  unfold load
  rw [metadata]
  simp [loadClusters, loadEngines, loadProfiles, loadPolicies, loadAudit, atoiSafe_itoa,
    Snapshot.reread]

/-! #### When a transaction commits -/

theorem clearAll_isSome {fails : Faults} (runs : ∀ i, fails i = false) (names : List TableName)
    (tx : Tx) :
    (names.foldlM (fun tx name => Tx.exec fails (fun db => some (db.clear name)) tx)
      tx).isSome := by
  induction names generalizing tx with
  | nil => rfl
  | cons first names ih =>
      have here : Tx.exec fails (fun db => some (db.clear first)) tx =
          some ⟨tx.db.clear first, tx.ran + 1⟩ := exec_eq_some.mpr ⟨runs _, rfl, rfl⟩
      rw [List.foldlM_cons, here]
      exact ih _

theorem deleteRows_isSome {fails : Faults} (runs : ∀ i, fails i = false) (tx : Tx) :
    (deleteRows fails tx).isSome := by
  obtain ⟨next, tables⟩ := Option.isSome_iff_exists.mp (clearAll_isSome runs
    [.metadata, .clusters, .engines, .profiles, .policies] tx)
  have last : next.exec fails (fun db => some db.clearAudit) =
      some ⟨next.db.clearAudit, next.ran + 1⟩ := exec_eq_some.mpr ⟨runs _, rfl, rfl⟩
  unfold deleteRows
  rw [tables]
  exact Option.isSome_iff_exists.mpr ⟨_, last⟩

variable (json) in
/-- Every entity has a document. -/
structure HasDocuments (snap : Snapshot) : Prop where
  clusters : ∀ c ∈ snap.clusters, (json.cluster.marshal c).isSome
  engines : ∀ e ∈ snap.engines, (json.engine.marshal e).isSome
  profiles : ∀ p ∈ snap.profiles, (json.profile.marshal p).isSome
  policies : ∀ p ∈ snap.policies, (json.policy.marshal p).isSome
  audit : ∀ a ∈ snap.audit, (json.audit.marshal a).isSome

/-- If no statement fails, the snapshot of a consistent store whose entities all have documents
is committed. -/
theorem transaction_isSome {fails : Faults} (runs : ∀ i, fails i = false) {s : FullStore}
    (consistent : s.Consistent) {orders : MapOrders}
    (documents : HasDocuments json (s.snapshot orders)) (db : Database) :
    (transaction json fails (s.snapshot orders) db).isSome := by
  have begun : Tx.exec fails some { db } = some ⟨db, 1⟩ := exec_eq_some.mpr ⟨runs _, rfl, rfl⟩
  obtain ⟨tx₂, deleted⟩ := Option.isSome_iff_exists.mp (deleteRows_isSome runs ⟨db, 1⟩)
  have noRows := (deleteRows_eq_some deleted).2
  obtain ⟨tx₃, versioned, frame₃⟩ : ∃ tx₃,
      tx₂.exec fails (Database.insert .metadata "version" (itoa s.version.toInt)) = some tx₃ ∧
        ∀ other, other ≠ .metadata → tx₃.db.table other = [] := by
    refine ⟨⟨_, _⟩, exec_eq_some.mpr ⟨runs _, insert_of_empty (noRows _), rfl⟩, fun other ne => ?_⟩
    exact (Database.table_append_of_ne _ _ ne).trans (noRows other)
  obtain ⟨tx₄, clusters, frame₄⟩ := insertJSONRows_into_empty runs .clusters tx₃ documents.clusters
    (consistent.clusters.nodup_keys _) (frame₃ _ (by decide))
  obtain ⟨tx₅, engines, frame₅⟩ := insertJSONRows_into_empty runs .engines tx₄ documents.engines
    (consistent.engines.nodup_keys _) (by simp [frame₄, frame₃])
  obtain ⟨tx₆, profiles, frame₆⟩ := insertJSONRows_into_empty runs .profiles tx₅
    documents.profiles (consistent.profiles.nodup_keys _) (by simp [frame₅, frame₄, frame₃])
  obtain ⟨tx₇, policies, -⟩ := insertJSONRows_into_empty runs .policies tx₆ documents.policies
    (consistent.policies.nodup_keys _) (by simp [frame₆, frame₅, frame₄, frame₃])
  obtain ⟨tx₈, audit⟩ := Option.isSome_iff_exists.mp
    (@insertAuditRows_isSome _ _ runs _ tx₇ documents.audit)
  have committed : tx₈.exec fails some = some ⟨tx₈.db, tx₈.ran + 1⟩ :=
    exec_eq_some.mpr ⟨runs _, rfl, rfl⟩
  have version : (s.snapshot orders).version = s.version := rfl
  refine Option.isSome_iff_exists.mpr ⟨tx₈.db, ?_⟩
  unfold transaction
  simp only [Option.bind_eq_bind, Option.bind_some, begun, deleted, version, versioned, clusters,
    engines, profiles, policies, audit, committed]

/-! ### Restarts -/

/-- What is left of a store that went through the database. -/
def image (s : FullStore) : FullStore := { s.reread with version := storedVersion s.version }

theorem persister_atomic : (persister json).Atomic image where
  taken := by
    intro fails s orders db consistent taken scan
    show (load json scan (save json fails (s.snapshot orders) db).1).map Config.load = _
    have taken : (save json fails (s.snapshot orders) db).2 = true := taken
    unfold save at taken ⊢
    cases done : transaction json fails (s.snapshot orders) db with
    | none => simp [done] at taken
    | some db' =>
        obtain ⟨snap, rearranged, version, loaded⟩ := load_written (transaction_eq_some done) scan
        rw [loaded]
        refine congrArg some ((applySnapshot_reread consistent orders rearranged).trans ?_)
        rw [version]
        rfl
  refused := by
    intro fails snap db refused scan
    show load json scan (save json fails snap db).1 = load json scan db
    have refused : (save json fails snap db).2 = false := refused
    unfold save at refused ⊢
    cases done : transaction json fails snap db with
    | none => rfl
    | some db' => simp [done] at refused
  consistent consistent := { consistent.reread with }
  image_image := by
    intro s consistent
    show { (image s).reread with version := storedVersion (storedVersion s.version) } = image s
    rw [storedVersion_storedVersion]
    exact congrArg (fun t : FullStore => { t with version := storedVersion s.version })
      (FullStore.reread_reread s)

variable (json) in
/-- Nothing disturbs the event: no statement of its save fails, and all that it saves has
documents; or the load of its restart succeeds. -/
def Undisturbed (st : Durable.Running FullStore Database) :
    Durable.Event TimedCall Faults Scan → Prop
  | .act op fails => (∀ i, fails i = false) ∧
      HasDocuments json ((st.live.mutate op.now op.call).1.snapshot op.orders)
  | .restart scan => scan.isSome

/-- Whichever statements fail and whenever the process dies, a restarted store is the store as of
the last save that committed, all of it, whatever the order in which the rows are yielded;
and as long as nothing disturbs the saves, it is the store as it was. -/
theorem sqlite_durable (json : Documents) {events : List (Durable.Event TimedCall Faults Scan)}
    (keeps : ∀ event ∈ events, event.Allowed fun op => op.call.KeepsID) :
    let st := Run.run (persister json).machine.happen (freshProcess {}) events
    (∀ scan, (persister json).restored scan st.disk = some (image st.committed)) ∧
      (Run.EachStep (persister json).machine.happen (Undisturbed json) (freshProcess {}) events →
        image st.live = image st.committed) := by
  have fresh : ∀ scan, (persister json).load scan {} = some none := by
    intro scan
    have noRows : scan.table .metadata [] = [] := (scan.perm_table .metadata []).eq_nil
    show load json scan {} = some none
    unfold load
    rw [noRows]
    rfl
  refine Persister.Atomic.durable persister_atomic fresh ?_ ?_ (fun _ _ reads => reads) keeps
  · exact congrArg (fun t : FullStore => { t with version := storedVersion 0 })
      FullStore.reread_empty
  · intro st op fails consistent undisturbed
    obtain ⟨runs, documents⟩ := undisturbed
    obtain ⟨db, done⟩ := Option.isSome_iff_exists.mp
      (transaction_isSome runs consistent documents st.disk)
    show (save json fails _ st.disk).2 = true
    rw [save, done]

/-! The patch is not saved because its first statement fails. -/

/-- The documents in as far as they are about the cluster and its audit entry. -/
def clusterDocuments : Documents where
  cluster := .single storedCluster
    "\x7b\"cluster_id\":\"c\",\"display_name\":\"\",\"enabled\":true,\"maintenance_mode\":false\x7d"
  engine := ⟨fun _ => none, fun _ => none, fun written => by cases written⟩
  profile := ⟨fun _ => none, fun _ => none, fun written => by cases written⟩
  policy := ⟨fun _ => none, fun _ => none, fun written => by cases written⟩
  audit := .single storedAudit <|
    "\x7b\"version\":1,\"timestamp\":\"1970-01-01T00:00:00Z\",\"action\":\"upsert\"," ++
    "\"entity\":\"cluster\",\"entity_id\":\"c\",\"version_bump\":false\x7d"

/-- The rows in the order in which they were inserted. -/
def insertionOrder : Scan := ⟨fun _ rows => rows, id, fun _ _ => .rfl, fun _ => .rfl⟩

theorem rolledBack_durable :
    let events := clusterEvents (fun _ => false) (fun i => i = 0) insertionOrder
    let st := Run.run (persister clusterDocuments).machine.happen (freshProcess {}) events
    (∀ scan, (persister clusterDocuments).restored scan st.disk = some (image st.committed)) ∧
      (Run.EachStep (persister clusterDocuments).machine.happen (Undisturbed clusterDocuments)
        (freshProcess {}) events → image st.live = image st.committed) :=
  sqlite_durable clusterDocuments
    (clusterEvents_keepID (fun _ => false) (fun i => i = 0) insertionOrder)

end SQLitePersister

end KvIndexer.Config
