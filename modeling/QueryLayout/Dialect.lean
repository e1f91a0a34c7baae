import QueryLayout.Dialect.Db2
import QueryLayout.Dialect.N1ql
import QueryLayout.Dialect.PlSql
import QueryLayout.Dialect.Standard
import QueryLayout.Lexer

namespace QueryLayout

/-- The variants of the query language that can be laid out. -/
inductive Dialect where
  | standard
  | db2
  | n1ql
  | plSql
deriving DecidableEq, Repr

def Dialect.name : Dialect → String
  | .standard => "sql"
  | .db2 => "db2"
  | .n1ql => "n1ql"
  | .plSql => "pl/sql"

/-- The dialects in the order of their names. -/
def Dialect.all : List Dialect :=
  [.db2, .n1ql, .plSql, .standard]

def Dialect.lexicon : Dialect → Lexicon
  | .standard => standardLexicon
  | .db2 => db2Lexicon
  | .n1ql => n1qlLexicon
  | .plSql => plSqlLexicon

def Dialect.rules (dialect : Dialect) : List Rule :=
  dialect.lexicon.rules

/-- The longest bracketed group that stays on one line. -/
def Dialect.inlineLimit (_ : Dialect) : Int :=
  50

/-- The words after which a comma separates two bounds and not two items. -/
def Dialect.rowLimitWords (_ : Dialect) : List String :=
  ["LIMIT"]

/-- Names are compared without regard to case. All of them are plain ASCII. -/
def Dialect.ofName? (name : String) : Option Dialect :=
  Dialect.all.find? fun dialect => dialect.name == name.toLower

/-- A name that belongs to no dialect, and the names that do. -/
structure UnknownDialect where
  name : String
  known : List String := Dialect.all.map Dialect.name
deriving DecidableEq, Repr

def UnknownDialect.message (error : UnknownDialect) : String :=
  "Unsupported SQL dialect: " ++ error.name

def UnknownDialect.report (error : UnknownDialect) : String :=
  "error: " ++ error.message ++ "\n  = known dialects: " ++ ", ".intercalate error.known

def Dialect.find (name : String) : Except UnknownDialect Dialect :=
  match Dialect.ofName? name with
  | some dialect => .ok dialect
  | none => .error { name }

end QueryLayout
