/-
  Visuara.Relational.Sql
  ──────────────────────
  **SQL STATEMENTS OVER ROWS OF VALUES.**

  What SQLite does for the statements of a small application: a database is a
  catalogue of relations, a relation has columns and rows, a row gives every
  column a value.  Statements check names, NOT NULL, UNIQUE and REFERENCES as
  SQLite does and fail with its messages.  Left out: expressions beyond one
  equation in WHERE, type affinity, and statements that name the AUTOINCREMENT
  column on the left of an assignment.

    • `Statement`s             — `createTable`, `addColumn`, `insert`, `upsert`,
                                 `update`, `delete`, `select`, `join`;
    • `Rows R rows xs`         — the rows stand for the records `xs`;
    • `Rows.select`, `Rows.set`, … — a statement does to the rows what the same
                                 operation on lists does to the records.
-/
import Visuara.Relational.Table
import Mathlib.Data.List.Forall2
import Mathlib.Logic.Function.Basic

namespace Sql

/-! ## §1. Values, rows and relations. -/

inductive Value where
  | null
  | integer (i : Int)
  | text (s : String)
  deriving DecidableEq, Repr

/-- The order of values: NULL, then integers, then text. -/
def Value.le : Value → Value → Bool
  | null, _ => true
  | integer _, null => false
  | integer i, integer j => i ≤ j
  | integer _, text _ => true
  | text s, text t => s ≤ t
  | text _, _ => false

/-- A row gives every column a value. -/
abbrev Row := String → Value

/-- What stands after DEFAULT. -/
inductive Default where
  | null
  | text (s : String)
  /-- `(strftime('%s','now'))`, in an INTEGER column. -/
  | now
  deriving DecidableEq, Repr

def Default.value (now : Int) : Default → Value
  | null => .null
  | text s => .text s
  | .now => .integer now

def Default.constant? : Default → Option Value
  | null => some .null
  | text s => some (.text s)
  | now => none

structure Column where
  name : String
  notNull : Bool := false
  /-- UNIQUE, or PRIMARY KEY. -/
  unique : Bool := false
  default : Default := .null
  /-- REFERENCES, table and column. -/
  references : Option (String × String) := none
  deriving DecidableEq, Repr

structure Relation where
  name : String
  /-- The column that is INTEGER PRIMARY KEY AUTOINCREMENT. -/
  rowid : Option String
  columns : List Column
  /-- The last rowid handed out. -/
  seq : Int
  rows : List Row

structure Database where
  relations : Relational.Table Relation.name
  /-- Whether REFERENCES is enforced. -/
  foreignKeys : Bool

/-- The largest rowid. -/
def maxRowid : Int := 9223372036854775807

/-- `WHERE column = value`, or nothing. -/
abbrev Where := Option (String × Value)

/-- No value equals NULL. -/
def Row.satisfies (row : Row) : Where → Bool
  | none => true
  | some (c, v) => v != .null && row c == v

/-- A row of a result: the columns asked for, in order. -/
abbrev Fetched := List (String × Value)

def Row.fetch (columns : List String) (row : Row) : Fetched := columns.map fun c => (c, row c)

theorem Row.satisfies_integer {row : Row} {c : String} {i j : Int} (h : row c = .integer i) :
    row.satisfies (some (c, .integer j)) = (i == j) := by
  rw [Row.satisfies, h, Bool.eq_iff_iff]
  simp

theorem Row.satisfies_text {row : Row} {c s s' : String} (h : row c = .text s) :
    row.satisfies (some (c, .text s')) = (s == s') := by
  rw [Row.satisfies, h, Bool.eq_iff_iff]
  simp

namespace Relation

def columnNames (t : Relation) : List String := t.rowid.toList ++ t.columns.map Column.name

/-- Every name is a column of `t`. -/
def knows (t : Relation) (names : List String) : Except String Unit :=
  match names.find? fun c => !t.columnNames.contains c with
  | some c => .error ("no such column: " ++ c)
  | none => .ok ()

/-- The row that INSERT builds from the values it is given. -/
def fill (t : Relation) (now : Int) (given : List (String × Value)) : Row := fun c =>
  if t.rowid = some c then .integer (t.seq + 1)
  else match given.lookup c with
    | some v => v
    | none => ((t.columns.find? fun column => column.name == c).map
        fun column => column.default.value now).getD .null

/-- A NOT NULL column without a value. -/
def missing (t : Relation) (row : Row) : Option Column :=
  t.columns.find? fun c => c.notNull && row c.name == .null

/-- A UNIQUE column in which another row has the same value. -/
def conflict (t : Relation) (row : Row) : Option Column :=
  t.columns.find? fun c => c.unique && row c.name != .null && t.rows.any fun r => r c.name == row c.name

end Relation

namespace Database

def relation (db : Database) (name : String) : Except String Relation :=
  match db.relations.lookup name with
  | some t => .ok t
  | none => .error ("no such table: " ++ name)

/-- Replace the relation of that name. -/
def put (db : Database) (t : Relation) : Database := { db with relations := db.relations.upsert t }

/-- The row refers to a row that is not there. -/
def dangles (db : Database) (t : Relation) (row : Row) : Bool :=
  t.columns.any fun c =>
    match c.references with
    | none => false
    | some (parent, key) => row c.name != .null &&
        !(db.relations.lookup parent).any fun p => p.rows.any fun r => r key == row c.name

/-- Some row still refers to the value `v` of column `key` of `name`. -/
def referenced (db : Database) (name key : String) (v : Value) : Bool :=
  v != .null && db.relations.rows.any fun t =>
    t.columns.any fun c => c.references == some (name, key) && t.rows.any fun r => r c.name == v

/-! ## §2. Statements. -/

/-- `CREATE TABLE IF NOT EXISTS`. -/
def createTable (db : Database) (t : Relation) : Database :=
  match db.relations.lookup t.name with
  | some _ => db
  | none => db.put t

/-- `SELECT COUNT(*) FROM pragma_table_info(name) WHERE name = column`. -/
def tableInfo (db : Database) (name column : String) : Nat :=
  (db.relations.lookup name).elim 0 fun t => t.columnNames.count column

/-- `ALTER TABLE name ADD COLUMN`: the rows that are there get the default. -/
def addColumn (db : Database) (name : String) (column : Column) : Except String Database := do
  let t ← db.relation name
  if t.columnNames.contains column.name then
    .error ("duplicate column name: " ++ column.name)
  else if column.unique then .error "Cannot add a UNIQUE column"
  else
    match column.default.constant? with
    | none => .error "Cannot add a column with non-constant default"
    | some v =>
      if column.notNull && v == .null then
        .error "Cannot add a NOT NULL column with default value NULL"
      else
        .ok (db.put { t with
          columns := t.columns ++ [column]
          rows := t.rows.map fun row => Function.update row column.name v })

/-- The checks of INSERT that need no other row. -/
def check (t : Relation) (now : Int) (given : List (String × Value)) : Except String Row :=
  match (given.map Prod.fst).find? fun c => !t.columnNames.contains c with
  | some c => .error ("table " ++ t.name ++ " has no column named " ++ c)
  | none =>
    if t.rowid.isSome && maxRowid ≤ t.seq then .error "database or disk is full"
    else match t.missing (t.fill now given) with
      | some c => .error ("NOT NULL constraint failed: " ++ t.name ++ "." ++ c.name)
      | none => .ok (t.fill now given)

/-- Append a row that has passed the checks. -/
def append (db : Database) (t : Relation) (row : Row) : Except String Database :=
  if db.foreignKeys && db.dangles t row then .error "FOREIGN KEY constraint failed"
  else .ok (db.put { t with
    seq := if t.rowid.isSome then t.seq + 1 else t.seq
    rows := t.rows ++ [row] })

/-- `INSERT INTO name (…) VALUES (…)`. -/
def insert (db : Database) (now : Int) (name : String) (given : List (String × Value)) :
    Except String Database := do
  let t ← db.relation name
  let row ← check t now given
  match t.conflict row with
  | some c => .error ("UNIQUE constraint failed: " ++ t.name ++ "." ++ c.name)
  | none => db.append t row

/-- `INSERT … ON CONFLICT(key) DO UPDATE SET column = excluded.column`. -/
def upsert (db : Database) (now : Int) (name key column : String) (given : List (String × Value)) :
    Except String Database := do
  let t ← db.relation name
  let row ← check t now given
  match t.conflict row with
  | none => db.append t row
  | some c =>
    if c.name = key then
      .ok (db.put { t with
        rows := t.rows.map fun r =>
          if r key == row key then Function.update r column (row column) else r })
    else .error ("UNIQUE constraint failed: " ++ t.name ++ "." ++ c.name)

/-- `UPDATE name SET column = v WHERE …`, for a column that is neither a key nor
a reference. -/
def update (db : Database) (name column : String) (v : Value) (cond : Where) :
    Except String Database := do
  let t ← db.relation name
  t.knows (column :: cond.toList.map Prod.fst)
  let notNull := t.columns.any fun c => c.name == column && c.notNull
  if v = .null && notNull && t.rows.any (Row.satisfies · cond) then
    .error ("NOT NULL constraint failed: " ++ t.name ++ "." ++ column)
  else
    .ok (db.put { t with
      rows := t.rows.map fun row =>
        if row.satisfies cond then Function.update row column v else row })

/-- `DELETE FROM name WHERE …`. -/
def delete (db : Database) (name : String) (cond : Where) : Except String Database := do
  let t ← db.relation name
  t.knows (cond.toList.map Prod.fst)
  let db' := db.put { t with rows := t.rows.filter fun row => !row.satisfies cond }
  let leaves := t.rows.any fun row =>
    row.satisfies cond && t.columnNames.any fun c => db'.referenced name c (row c)
  if db.foreignKeys && leaves then .error "FOREIGN KEY constraint failed"
  else .ok db'

/-- `SELECT columns FROM name WHERE …`. -/
def select (db : Database) (columns : List String) (name : String) (cond : Where) :
    Except String (List Fetched) := do
  let t ← db.relation name
  t.knows (columns ++ cond.toList.map Prod.fst)
  return (t.rows.filter (Row.satisfies · cond)).map (Row.fetch columns)

/-- `SELECT columns FROM name ORDER BY column`. -/
def selectOrderBy (db : Database) (columns : List String) (name column : String) :
    Except String (List Fetched) := do
  let t ← db.relation name
  t.knows (column :: columns)
  return (t.rows.mergeSort fun r r' => (r column).le (r' column)).map (Row.fetch columns)

/-- `SELECT COUNT(*) FROM name WHERE …`. -/
def count (db : Database) (name : String) (cond : Where) : Except String (List Fetched) := do
  let rows ← db.select [] name cond
  return [[("COUNT(*)", .integer rows.length)]]

/-- `SELECT columns FROM outer s JOIN inner a ON a.key = s.ref WHERE s.… = …`,
the columns those of `a`. -/
def join (db : Database) (columns : List String) (outer ref inner key : String) (cond : Where) :
    Except String (List Fetched) := do
  let s ← db.relation outer
  let a ← db.relation inner
  s.knows (ref :: cond.toList.map Prod.fst)
  a.knows (key :: columns)
  return (s.rows.filter (Row.satisfies · cond)).flatMap fun row =>
    (a.rows.filter (Row.satisfies · (some (key, row ref)))).map (Row.fetch columns)

end Database

/-! ## §3. What a client reads. -/

def Value.type : Value → String
  | null => "Null"
  | integer _ => "Integer"
  | text _ => "Text"

/-- Column `i` of a row, as `get` converts it. -/
def Fetched.get {α : Type} (convert : Value → Option α) (row : Fetched) (i : Nat) :
    Except String α :=
  match row[i]? with
  | none => .error ("Invalid column index: " ++ toString i)
  | some (name, v) =>
    match convert v with
    | some a => .ok a
    | none => .error
        ("Invalid column type " ++ v.type ++ " at index: " ++ toString i ++ ", name: " ++ name)

def Value.integer? : Value → Option Int
  | integer i => some i
  | _ => none

def Value.text? : Value → Option String
  | text s => some s
  | _ => none

/-- NULL is `None`. -/
def Value.optionalText? : Value → Option (Option String)
  | null => some none
  | text s => some (some s)
  | _ => none

/-- The first row of a result. -/
def queryRow {α : Type} (rows : List Fetched) (f : Fetched → Except String α) : Except String α :=
  match rows with
  | [] => .error "Query returned no rows"
  | row :: _ => f row

/-- The first row of a result, if any. -/
def queryOptional {α : Type} (rows : List Fetched) (f : Fetched → Except String α) :
    Except String (Option α) :=
  match rows with
  | [] => .ok none
  | row :: _ => some <$> f row

/-- All rows of a result; the first that cannot be read fails it. -/
def queryMap {α : Type} (rows : List Fetched) (f : Fetched → Except String α) :
    Except String (List α) := rows.mapM f

/-! ## §4. Rows that stand for records. -/

/-- The rows stand for the records, one for one. -/
abbrev Rows {α : Type} (R : Row → α → Prop) (rows : List Row) (xs : List α) : Prop :=
  List.Forall₂ R rows xs

section Rows

variable {α : Type} {R : Row → α → Prop} {rows : List Row} {xs : List α}

theorem Rows.filter {p : Row → Bool} {q : α → Bool} (h : Rows R rows xs)
    (hp : ∀ row x, R row x → p row = q x) : Rows R (rows.filter p) (xs.filter q) := by
  induction h with
  | nil => exact .nil
  | @cons row x rows xs hrow _ ih =>
    rw [List.filter_cons, List.filter_cons, hp row x hrow]
    split
    · exact .cons hrow ih
    · exact ih

theorem Rows.any {p : Row → Bool} {q : α → Bool} (h : Rows R rows xs)
    (hp : ∀ row x, R row x → p row = q x) : rows.any p = xs.any q := by
  induction h with
  | nil => rfl
  | @cons row x rows xs hrow _ ih => rw [List.any_cons, List.any_cons, hp row x hrow, ih]

theorem Rows.map {f : Row → Row} {g : α → α} (h : Rows R rows xs)
    (hf : ∀ row x, R row x → R (f row) (g x)) : Rows R (rows.map f) (xs.map g) := by
  induction h with
  | nil => exact .nil
  | @cons row x rows xs hrow _ ih => exact .cons (hf row x hrow) ih

theorem Rows.mem (h : Rows R rows xs) {row : Row} (hrow : row ∈ rows) : ∃ x ∈ xs, R row x := by
  induction h with
  | nil => exact absurd hrow List.not_mem_nil
  | @cons head x rows xs hhead _ ih =>
    rcases List.mem_cons.mp hrow with rfl | hrow
    · exact ⟨x, List.mem_cons_self, hhead⟩
    · obtain ⟨y, hy, hR⟩ := ih hrow
      exact ⟨y, List.mem_cons_of_mem x hy, hR⟩

/-- What the rows of a kind say of their records. -/
theorem Rows.all {P : α → Prop} (h : Rows R rows xs) (hP : ∀ row x, R row x → P x) :
    ∀ x ∈ xs, P x := by
  induction h with
  | nil => exact fun x hx => absurd hx List.not_mem_nil
  | @cons row y rows xs hrow _ ih => exact List.forall_mem_cons.mpr ⟨hP row y hrow, ih⟩

theorem Rows.append (h : Rows R rows xs) {row : Row} {x : α} (hrow : R row x) :
    Rows R (rows ++ [row]) (xs ++ [x]) := by
  induction h with
  | nil => exact .cons hrow .nil
  | cons hhead _ ih => exact .cons hhead ih

/-- Sorting the rows sorts the records, when the orders agree. -/
theorem Rows.mergeSort {le : Row → Row → Bool} {le' : α → α → Bool} (h : Rows R rows xs)
    (hle : ∀ r x r' x', R r x → R r' x' → le r r' = le' x x') :
    Rows R (rows.mergeSort le) (xs.mergeSort le') := by
  have hR : ∀ z ∈ rows.zip xs, R z.1 z.2 := fun z hz => List.forall₂_zip h hz
  have hlen := h.length_eq
  have hrows : (rows.zip xs).map Prod.fst = rows := List.map_fst_zip (Nat.le_of_eq hlen)
  have hxs : (rows.zip xs).map Prod.snd = xs := List.map_snd_zip (Nat.le_of_eq hlen.symm)
  have hsorted : ∀ z ∈ (rows.zip xs).mergeSort fun z z' => le z.1 z'.1, R z.1 z.2 :=
    fun z hz => hR z (List.mem_mergeSort.mp hz)
  have hfst := List.map_mergeSort (r := fun z z' => le z.1 z'.1) (s := le) (f := Prod.fst)
    (l := rows.zip xs) fun _ _ _ _ => rfl
  have hsnd := List.map_mergeSort (r := fun z z' => le z.1 z'.1) (s := le') (f := Prod.snd)
    (l := rows.zip xs) fun z hz z' hz' => hle _ _ _ _ (hR z hz) (hR z' hz')
  rw [hrows] at hfst
  rw [hxs] at hsnd
  rw [← hfst, ← hsnd, Rows, List.forall₂_map_left_iff, List.forall₂_map_right_iff,
    List.forall₂_same]
  exact hsorted

theorem Rows.read {columns : List String} {β : Type} {f : Fetched → Except String β} {g : α → β}
    (h : Rows R rows xs) (hf : ∀ row x, R row x → f (row.fetch columns) = .ok (g x)) :
    queryMap (rows.map (Row.fetch columns)) f = .ok (xs.map g) := by
  unfold queryMap
  induction h with
  | nil => rfl
  | @cons row x rows xs hrow _ ih =>
    rw [List.map_cons, List.mapM_cons, hf row x hrow, ih]
    rfl

theorem Rows.first {columns : List String} {β : Type} {f : Fetched → Except String β} {g : α → β}
    (h : Rows R rows xs) (hf : ∀ row x, R row x → f (row.fetch columns) = .ok (g x)) :
    queryOptional (rows.map (Row.fetch columns)) f = .ok (xs.head?.map g) := by
  cases h with
  | nil => rfl
  | cons hrow _ =>
    rw [List.map_cons, queryOptional, hf _ _ hrow]
    rfl

end Rows

/-! ## §5. What the statements do to the records. -/

namespace Database

variable {db : Database} {t : Relation}

theorem relation_of {name : String} (h : db.relations.lookup name = some t) :
    db.relation name = .ok t := by
  rw [relation, h]

@[simp] theorem put_foreignKeys : (db.put t).foreignKeys = db.foreignKeys := rfl

theorem lookup_put {name : String} : (db.put t).relations.lookup name
    = if t.name = name then some t else db.relations.lookup name :=
  Relational.Table.lookup_upsert

theorem mem_put {u : Relation} :
    u ∈ (db.put t).relations ↔ (u ∈ db.relations ∧ u.name ≠ t.name) ∨ u = t :=
  Relational.Table.mem_upsert u

theorem referenced_eq_false {name key : String} {v : Value}
    (h : ∀ u ∈ db.relations, ∀ c ∈ u.columns, c.references = some (name, key) →
      ∀ r ∈ u.rows, r c.name ≠ v) : db.referenced name key v = false := by
  rw [referenced, Bool.and_eq_false_iff]
  right
  simp only [List.any_eq_false, Bool.and_eq_true, List.any_eq_true, beq_iff_eq, not_exists, not_and]
  exact fun u hu c hc href r hr => h u hu c hc href r hr

end Database

/-- `t` is there, and its rows stand for `xs`. -/
def Has {α : Type} (db : Database) (t : Relation) (R : Row → α → Prop) (xs : List α) : Prop :=
  ∃ rows, db.relations.lookup t.name = some { t with rows := rows } ∧ Rows R rows xs

/-- `t` is there; unless `created`, it may also be missing, and then has no
records. -/
def Kept {α : Type} (created : Bool) (db : Database) (t : Relation) (R : Row → α → Prop)
    (xs : List α) : Prop :=
  Has db t R xs ∨ created = false ∧ db.relations.lookup t.name = none ∧ xs = []

/-- `db'` is `db` with other rows in the relation `t`. -/
def Edits (db db' : Database) (t : Relation) : Prop :=
  ∃ seq rows, db' = db.put { t with seq := seq, rows := rows }

section Has

variable {α β : Type} {db db' : Database} {t u : Relation} {R : Row → α → Prop} {xs : List α}
  {cond : Where} {q : α → Bool}

theorem Edits.foreignKeys (h : Edits db db' t) : db'.foreignKeys = db.foreignKeys := by
  obtain ⟨seq, rows, rfl⟩ := h
  rfl

/-- The other relations are as they were. -/
theorem Edits.has (h : Edits db db' t) (hne : t.name ≠ u.name) {R : Row → β → Prop} {ys : List β}
    (hu : Has db u R ys) : Has db' u R ys := by
  obtain ⟨seq, rows, rfl⟩ := h
  obtain ⟨rows', hl, hrows⟩ := hu
  exact ⟨rows', by rw [Database.lookup_put, if_neg hne, hl], hrows⟩

theorem Has.select (h : Has db t R xs) (columns : List String)
    (hknown : t.knows (columns ++ cond.toList.map Prod.fst) = .ok ())
    (hq : ∀ row x, R row x → row.satisfies cond = q x) :
    ∃ rows, db.select columns t.name cond = .ok (rows.map (Row.fetch columns))
      ∧ Rows R rows (xs.filter q) := by
  obtain ⟨rows, hl, hrows⟩ := h
  refine ⟨rows.filter (Row.satisfies · cond), ?_, hrows.filter hq⟩
  rw [Database.select, Database.relation_of hl]
  show ((t.knows _ : Except String Unit) >>= _) = _
  rw [hknown]
  rfl

/-- One record, as a client reads it. -/
theorem Has.find (h : Has db t R xs) {columns : List String} {f : Fetched → Except String β}
    {g : α → β} (hknown : t.knows (columns ++ cond.toList.map Prod.fst) = .ok ())
    (hq : ∀ row x, R row x → row.satisfies cond = q x)
    (hf : ∀ row x, R row x → f (row.fetch columns) = .ok (g x)) :
    (do queryOptional (← db.select columns t.name cond) f) = .ok ((xs.find? q).map g) := by
  obtain ⟨rows, hsel, hrows⟩ := h.select columns hknown hq
  rw [hsel, ← List.head?_filter]
  exact hrows.first hf

/-- All of them. -/
theorem Has.list (h : Has db t R xs) {columns : List String} {f : Fetched → Except String β}
    {g : α → β} (hknown : t.knows (columns ++ cond.toList.map Prod.fst) = .ok ())
    (hq : ∀ row x, R row x → row.satisfies cond = q x)
    (hf : ∀ row x, R row x → f (row.fetch columns) = .ok (g x)) :
    (do queryMap (← db.select columns t.name cond) f) = .ok ((xs.filter q).map g) := by
  obtain ⟨rows, hsel, hrows⟩ := h.select columns hknown hq
  rw [hsel]
  exact hrows.read hf

theorem Has.count (h : Has db t R xs) (hknown : t.knows (cond.toList.map Prod.fst) = .ok ())
    (hq : ∀ row x, R row x → row.satisfies cond = q x) :
    (do queryRow (← db.count t.name cond) (·.get Value.integer? 0)) = .ok (xs.countP q : Int) := by
  obtain ⟨rows, hsel, hrows⟩ := h.select [] hknown hq
  rw [Database.count, hsel, List.countP_eq_length_filter, ← hrows.length_eq,
    ← List.length_map (Row.fetch [])]
  rfl

theorem Has.selectOrderBy (h : Has db t R xs) (columns : List String) (column : String)
    (le : α → α → Bool) (hknown : t.knows (column :: columns) = .ok ())
    (hle : ∀ r x r' x', R r x → R r' x' → (r column).le (r' column) = le x x') :
    ∃ rows, db.selectOrderBy columns t.name column = .ok (rows.map (Row.fetch columns))
      ∧ Rows R rows (xs.mergeSort le) := by
  obtain ⟨rows, hl, hrows⟩ := h
  refine ⟨rows.mergeSort fun r r' => (r column).le (r' column), ?_, hrows.mergeSort hle⟩
  rw [Database.selectOrderBy, Database.relation_of hl]
  show ((t.knows _ : Except String Unit) >>= _) = _
  rw [hknown]
  rfl

/-- A join pairs the records that the equation pairs. -/
theorem Has.join (h : Has db t R xs) {R' : Row → β → Prop} {ys : List β} (hu : Has db u R' ys)
    (columns : List String) (ref key : String) (cond : Where) (on : α → β → Bool)
    (hknown : t.knows (ref :: cond.toList.map Prod.fst) = .ok ())
    (hknown' : u.knows (key :: columns) = .ok ())
    (hq : ∀ row x, R row x → row.satisfies cond = q x)
    (hon : ∀ r x r' y, R r x → R' r' y → r'.satisfies (some (key, r ref)) = on x y) :
    ∃ rows, db.join columns t.name ref u.name key cond = .ok (rows.map (Row.fetch columns))
      ∧ Rows R' rows ((xs.filter q).flatMap fun x => ys.filter (on x)) := by
  obtain ⟨rows, hl, hrows⟩ := h
  obtain ⟨rows', hl', hrows'⟩ := hu
  refine ⟨(rows.filter (Row.satisfies · cond)).flatMap fun row =>
    rows'.filter (Row.satisfies · (some (key, row ref))), ?_, ?_⟩
  · rw [Database.join, Database.relation_of hl, Database.relation_of hl', List.map_flatMap]
    show ((t.knows _ : Except String Unit) >>= fun _ => (u.knows _ : Except String Unit) >>= _) = _
    rw [hknown, hknown']
    rfl
  · have hpicked : Rows R (rows.filter (Row.satisfies · cond)) (xs.filter q) := hrows.filter hq
    generalize rows.filter (Row.satisfies · cond) = picked at hpicked
    generalize xs.filter q = picked' at hpicked
    induction hpicked with
    | nil => exact .nil
    | @cons r x _ _ hr _ ih =>
      rw [List.flatMap_cons, List.flatMap_cons]
      exact List.rel_append (hrows'.filter fun r' y hr' => hon r x r' y hr hr') ih

theorem Has.update (h : Has db t R xs) (column : String) (v : Value) (cond : Where)
    {q : α → Bool} (f : α → α)
    (hknown : t.knows (column :: cond.toList.map Prod.fst) = .ok ()) (hv : v ≠ .null)
    (hq : ∀ row x, R row x → row.satisfies cond = q x)
    (hf : ∀ row x, R row x → q x = true → R (Function.update row column v) (f x)) :
    ∃ db', db.update t.name column v cond = .ok db' ∧ Edits db db' t
      ∧ Has db' t R (xs.map fun x => if q x then f x else x) := by
  obtain ⟨rows, hl, hrows⟩ := h
  refine ⟨db.put { t with
      rows := rows.map fun row =>
        if row.satisfies cond then Function.update row column v else row }, ?_, ⟨t.seq, _, rfl⟩,
    ⟨_, by rw [Database.lookup_put, if_pos rfl], hrows.map ?_⟩⟩
  · rw [Database.update, Database.relation_of hl]
    show ((t.knows _ : Except String Unit) >>= _) = _
    rw [hknown]
    show (if _ then _ else _) = _
    simp only [hv, decide_false, Bool.false_and, Bool.false_eq_true, if_false]
  · intro row x hrow
    rw [hq row x hrow]
    split
    next hx => exact hf row x hrow hx
    next => exact hrow

/-- A deletion, once nothing refers to what goes. -/
theorem Has.delete (h : Has db t R xs) (cond : Where) {q : α → Bool}
    (hknown : t.knows (cond.toList.map Prod.fst) = .ok ())
    (hq : ∀ row x, R row x → row.satisfies cond = q x)
    (hleft : ∀ db', Edits db db' t → Has db' t R (xs.filter fun x => !q x) →
      ∀ row x, R row x → q x = true → ∀ c ∈ t.columnNames,
        db'.referenced t.name c (row c) = false) :
    ∃ db', db.delete t.name cond = .ok db' ∧ Edits db db' t
      ∧ Has db' t R (xs.filter fun x => !q x) := by
  obtain ⟨rows, hl, hrows⟩ := h
  have hhas : Has (db.put { t with rows := rows.filter fun row => !row.satisfies cond }) t R
      (xs.filter fun x => !q x) :=
    ⟨_, by rw [Database.lookup_put, if_pos rfl],
      hrows.filter fun row x hrow => congrArg not (hq row x hrow)⟩
  refine ⟨_, ?_, ⟨t.seq, _, rfl⟩, hhas⟩
  rw [Database.delete, Database.relation_of hl]
  show ((t.knows _ : Except String Unit) >>= _) = _
  rw [hknown]
  show (if _ then _ else _) = _
  rw [if_neg]
  rw [Bool.and_eq_true, not_and]
  intro _ hleaves
  obtain ⟨row, hrow, hgone⟩ := List.any_eq_true.mp hleaves
  obtain ⟨hsat, hcol⟩ := Bool.and_eq_true_iff.mp hgone
  obtain ⟨c, hc, href⟩ := List.any_eq_true.mp hcol
  obtain ⟨x, -, hR⟩ := hrows.mem hrow
  rw [hleft _ ⟨t.seq, _, rfl⟩ hhas row x hR (hq row x hR ▸ hsat) c hc] at href
  exact Bool.false_ne_true href

/-! ### Definitions of relations. -/

theorem createTable_eq (h : db.relations.lookup t.name = some u) : db.createTable t = db := by
  rw [Database.createTable, h]

theorem createTable_absent (h : db.relations.lookup t.name = none) :
    db.createTable t = db.put t := by
  rw [Database.createTable, h]

theorem mem_createTable (hu : u ∈ (db.createTable t).relations) : u ∈ db.relations ∨ u = t := by
  cases hl : db.relations.lookup t.name with
  | some t' => exact .inl (by rwa [createTable_eq hl] at hu)
  | none =>
    rw [createTable_absent hl] at hu
    exact (Database.mem_put.mp hu).imp_left And.left

theorem createTable_foreignKeys : (db.createTable t).foreignKeys = db.foreignKeys := by
  cases hl : db.relations.lookup t.name with
  | some t' => rw [createTable_eq hl]
  | none => rw [createTable_absent hl]; rfl

theorem lookup_createTable {name : String} (hne : t.name ≠ name) :
    (db.createTable t).relations.lookup name = db.relations.lookup name := by
  cases hl : db.relations.lookup t.name with
  | some t' => rw [createTable_eq hl]
  | none => rw [createTable_absent hl, Database.lookup_put, if_neg hne]

theorem Has.createTable (h : Has db u R xs) (hne : t.name ≠ u.name) :
    Has (db.createTable t) u R xs := by
  obtain ⟨rows, hl, hrows⟩ := h
  exact ⟨rows, by rw [lookup_createTable hne, hl], hrows⟩

theorem Kept.other {created : Bool} (h : Kept created db u R xs) (hne : t.name ≠ u.name) :
    Kept created (db.createTable t) u R xs :=
  h.imp (·.createTable hne) fun ⟨hc, hl, hxs⟩ => ⟨hc, by rw [lookup_createTable hne, hl], hxs⟩

/-- `CREATE TABLE IF NOT EXISTS` makes the relation, or leaves it. -/
theorem Kept.create {created : Bool} (h : Kept created db t R xs) (hrows : t.rows = []) :
    Kept true (db.createTable t) t R xs := by
  obtain ⟨rows, hl, hR⟩ | ⟨-, hl, rfl⟩ := h
  · rw [createTable_eq hl]
    exact .inl ⟨rows, hl, hR⟩
  · rw [createTable_absent hl]
    refine .inl ⟨[], ?_, .nil⟩
    rw [Database.lookup_put, if_pos rfl, ← hrows]

theorem Kept.has (h : Kept true db t R xs) : Has db t R xs :=
  h.resolve_right fun ⟨hc, _⟩ => absurd hc.symm Bool.false_ne_true

theorem Kept.forget {created : Bool} (h : Kept created db t R xs) : Kept false db t R xs :=
  h.imp_right fun ⟨_, hl⟩ => ⟨rfl, hl⟩

/-- A new column has its default in every row. -/
theorem Has.addColumn (h : Has db t R xs) (column : Column) {v : Value} (R' : Row → α → Prop)
    (hnew : t.columnNames.contains column.name = false) (hunique : column.unique = false)
    (hv : column.default.constant? = some v) (hnull : v ≠ .null)
    (hR : ∀ row x, R row x → R' (Function.update row column.name v) x) :
    ∃ db', db.addColumn t.name column = .ok db'
      ∧ Edits db db' { t with columns := t.columns ++ [column] }
      ∧ Has db' { t with columns := t.columns ++ [column] } R' xs := by
  obtain ⟨rows, hl, hrows⟩ := h
  refine ⟨db.put { t with
      columns := t.columns ++ [column]
      rows := rows.map fun row => Function.update row column.name v }, ?_, ⟨t.seq, _, rfl⟩,
    ⟨_, by rw [Database.lookup_put, if_pos rfl], ?_⟩⟩
  · rw [Database.addColumn, Database.relation_of hl]
    show (if t.columnNames.contains column.name then _ else _) = _
    rw [hnew, hunique, hv]
    simp [hnull]
  · exact List.forall₂_map_left_iff.mpr (hrows.imp fun row x hrow => hR row x hrow)

/-! ### INSERT, in a relation with one UNIQUE column. -/

theorem Relation.conflict_eq {c : Column} (hone : t.columns.filter Column.unique = [c]) {row : Row}
    (hnull : row c.name ≠ .null) :
    t.conflict row = if t.rows.any (fun r => r c.name == row c.name) then some c else none := by
  have hfilter : t.conflict row = (t.columns.filter Column.unique).find? fun c =>
      row c.name != .null && t.rows.any fun r => r c.name == row c.name := by
    rw [List.find?_filter]
    simp only [conflict, Bool.and_assoc, Bool.decide_and, Bool.decide_eq_true]
  rw [hfilter, hone, List.find?_singleton, bne_iff_ne.mpr hnull, Bool.true_and]

variable (now : Int) (given : List (String × Value)) {c : Column} {row : Row} {taken : α → Bool}

/-- An insertion looks whether the key is taken, and then at the reference. -/
theorem Has.insert (h : Has db t R xs) (hone : t.columns.filter Column.unique = [c])
    (hcheck : Database.check t now given = .ok row) (hnull : row c.name ≠ .null)
    (htaken : ∀ r x, R r x → r.satisfies (some (c.name, row c.name)) = taken x) (y : α)
    (hrow : R row y) :
    ∃ db', db.insert now t.name given
        = (if xs.any taken then
            .error ("UNIQUE constraint failed: " ++ t.name ++ "." ++ c.name)
          else if db.foreignKeys && db.dangles t row then .error "FOREIGN KEY constraint failed"
          else .ok db')
      ∧ Edits db db' t
      ∧ Has db' { t with seq := if t.rowid.isSome then t.seq + 1 else t.seq } R (xs ++ [y]) := by
  obtain ⟨rows, hl, hrows⟩ := h
  refine ⟨db.put { t with
      seq := if t.rowid.isSome then t.seq + 1 else t.seq
      rows := rows ++ [row] }, ?_, ⟨_, _, rfl⟩,
    ⟨_, by rw [Database.lookup_put, if_pos rfl], hrows.append hrow⟩⟩
  replace htaken : ∀ r x, R r x → (r c.name == row c.name) = taken x := fun r x hr => by
    rw [← htaken r x hr, Row.satisfies, bne_iff_ne.mpr hnull, Bool.true_and]
  have hconflict := Relation.conflict_eq (t := { t with rows := rows }) hone hnull
  rw [hrows.any htaken] at hconflict
  rw [Database.insert, Database.relation_of hl]
  show (Database.check t now given >>= _) = _
  rw [hcheck]
  show (match Relation.conflict _ row with | some c => _ | none => _) = _
  rw [hconflict]
  cases xs.any taken <;> rfl

/-- An insertion that fails its own checks. -/
theorem Has.insert_error (h : Has db t R xs) {e : String}
    (hcheck : Database.check t now given = .error e) : db.insert now t.name given = .error e := by
  obtain ⟨rows, hl, -⟩ := h
  rw [Database.insert, Database.relation_of hl]
  show (Database.check t now given >>= _) = _
  rw [hcheck]
  rfl

theorem Has.upsert (h : Has db t R xs) (hone : t.columns.filter Column.unique = [c])
    (hcheck : Database.check t now given = .ok row) (hnull : row c.name ≠ .null)
    (htaken : ∀ r x, R r x → r.satisfies (some (c.name, row c.name)) = taken x) (y : α)
    (hrow : R row y)
    (hkey : t.rowid = none) (hrefs : ∀ c ∈ t.columns, c.references = none) (column : String)
    (f : α → α) (hf : ∀ r x, R r x → taken x = true →
      R (Function.update r column (row column)) (f x)) :
    ∃ db', db.upsert now t.name c.name column given = .ok db' ∧ Edits db db' t
      ∧ Has db' t R
          (if xs.any taken then xs.map fun x => if taken x then f x else x else xs ++ [y]) := by
  obtain ⟨rows, hl, hrows⟩ := h
  replace htaken : ∀ r x, R r x → (r c.name == row c.name) = taken x := fun r x hr => by
    rw [← htaken r x hr, Row.satisfies, bne_iff_ne.mpr hnull, Bool.true_and]
  have hconflict := Relation.conflict_eq (t := { t with rows := rows }) hone hnull
  rw [hrows.any htaken] at hconflict
  have heq : db.upsert now t.name c.name column given
      = match if xs.any taken then some c else none with
        | none => db.append { t with rows := rows } row
        | some c' =>
          if c'.name = c.name then
            .ok (db.put { t with
              rows := rows.map fun r =>
                if r c.name == row c.name then Function.update r column (row column) else r })
          else .error ("UNIQUE constraint failed: " ++ t.name ++ "." ++ c'.name) := by
    rw [Database.upsert, Database.relation_of hl]
    show (Database.check t now given >>= _) = _
    rw [hcheck]
    show (match Relation.conflict _ row with | none => _ | some c' => _) = _
    rw [hconflict]
  rw [heq]
  cases hany : xs.any taken with
  | true =>
    refine ⟨_, if_pos rfl, ⟨t.seq, _, rfl⟩, ⟨_, by rw [Database.lookup_put, if_pos rfl],
      hrows.map fun r x hr => ?_⟩⟩
    rw [htaken r x hr]
    split
    next hx => exact hf r x hr hx
    next => exact hr
  | false =>
    have hdangles : db.dangles { t with rows := rows } row = false :=
      List.any_eq_false.mpr fun c hc => by simp [hrefs c hc]
    refine ⟨db.put { t with rows := rows ++ [row] }, ?_, ⟨t.seq, _, rfl⟩,
      ⟨_, by rw [Database.lookup_put, if_pos rfl], hrows.append hrow⟩⟩
    show Database.append _ _ _ = _
    rw [Database.append, hdangles, Bool.and_false]
    simp only [hkey, Option.isSome_none, Bool.false_eq_true, if_false]

end Has

end Sql
