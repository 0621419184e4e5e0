import Troubleshooter.Go.Text
import Troubleshooter.Library.Greedy
import Troubleshooter.Python.Text

-- How the gateway and the agent platform read the name of a MySQL database, and what each of
-- them refuses.
namespace Troubleshooter.Storage

open Troubleshooter.Library
open Troubleshooter.Library.Pattern (many run word)

-- What both read of the environment, where a variable that is not set is empty.
structure LocalEnvironment where
  allowNonCanonicalLocalDB : String
  mysqlCanonicalLocalDatabase : String

-- @tcp\(([^)]*)\)/([^?]+), with the numbers of its groups
def tcpRE (hostGroup databaseGroup : Nat) : Pattern Char :=
  .seq (word "@tcp(".toList) (.seq (.group hostGroup (many (· != ')')))
    (.seq (word ")/".toList) (.seq (.group databaseGroup (run (· != '?'))) .empty)))

def groupText (found : Taken Char) (number : Nat) : String :=
  String.ofList ((found.group? number).getD [])

def colons (value : String) : Nat := value.toList.count ':'

-- Before and after the last colon of a text that has one.
def beforeColon (value : String) : String :=
  String.ofList ((value.toList.rdropWhile (· ≠ ':')).dropLast)

def afterColon (value : String) : String := String.ofList (value.toList.rtakeWhile (· ≠ ':'))

-- Between an opening bracket and the first closing one, and behind it.
def bracketed (value : String) : String :=
  String.ofList ((value.toList.drop 1).takeWhile (· ≠ ']'))

def afterBracket (value : String) : String :=
  String.ofList ((value.toList.dropWhile (· ≠ ']')).drop 1)

def localHosts : List String := ["127.0.0.1", "localhost", "::1"]

def canonicalDatabase : String := "ai_troubleshooter"

section Gateway

variable (go : Go.Runtime)

def envTruthy (value : String) : Bool :=
  go.toLower (Go.trimSpace value) ∈ ["1", "true", "yes", "y", "on"]

def isLocalMySQLHost (host : String) : Bool := go.toLower (Go.trimSpace host) ∈ localHosts

-- The host of parseGoMySQLDSNHostDatabase
def hostOf (part : String) : String :=
  let hostPort := Go.trimSpace part
  let host :=
    if hostPort.toList.head? = some '[' then
      if ']' ∈ hostPort.toList then bracketed hostPort else hostPort
    else if colons hostPort ≤ 1 ∧ beforeColon hostPort ≠ "" then beforeColon hostPort
    else hostPort
  Go.trimSpace host

def parseGoMySQLDSNHostDatabase (dsn : String) : Option (String × String) :=
  ((tcpRE 1 2).search none dsn.toList).map fun found =>
    (hostOf (groupText found 1), Go.trimSpace (groupText found 2))

def canonicalOf (env : LocalEnvironment) : String :=
  let canonical := Go.trimSpace env.mysqlCanonicalLocalDatabase
  if canonical = "" then canonicalDatabase else canonical

-- What validateLocalMySQLDSN has against a database on a host.
def refusal (env : LocalEnvironment) (host database : String) : Option String :=
  if isLocalMySQLHost go host = false ∨ envTruthy go env.allowNonCanonicalLocalDB = true then none
  else if database = canonicalOf env then none
  else
    some ("local MySQL platform database must be " ++ go.quote (canonicalOf env) ++ "; got " ++
      go.quote database ++ "; set ALLOW_NON_CANONICAL_LOCAL_DB=true only for intentional " ++
      "isolated experiments with a recorded cleanup plan")

def validateLocalMySQLDSN (env : LocalEnvironment) (dsn : String) : Except String Unit :=
  match parseGoMySQLDSNHostDatabase dsn with
  | none => .ok ()
  | some (host, database) =>
    match refusal go env host database with
    | none => .ok ()
    | some message => .error message

end Gateway

namespace Platform

structure MySQLConfig where
  host : String
  port : Int
  user : String
  password : String
  database : String
  charset : String := "utf8mb4"

section Reading

-- str.isdigit on one character, and int of such a text
variable (isDigit : Char → Bool) (int : String → Except String Int)

def isDigits (text : String) : Bool := text != "" && text.toList.all isDigit

def parseMySQLHostPort (hostPort : String) : Except String (String × Int) :=
  let value := Python.strip hostPort
  if value.toList.head? = some '[' ∧ ']' ∈ value.toList then
    let portPart := afterBracket value
    let port := String.ofList (portPart.toList.drop 1)
    if portPart.toList.head? = some ':' ∧ isDigits isDigit port = true then
      (int port).map fun port => (bracketed value, port)
    else .ok (bracketed value, 3306)
  else if colons value = 1 ∧ isDigits isDigit (afterColon value) = true then
    (int (afterColon value)).map fun port => (beforeColon value, port)
  else .ok (value, 3306)

-- ([^:]+):([^@]*)@tcp\(([^)]*)\)/([^?]+)
def goDSNRE : Pattern Char :=
  .seq (.group 1 (run (· != ':'))) (.seq (word [':'])
    (.seq (.group 2 (many (· != '@'))) (tcpRE 3 4)))

def parseGoMySQLDSN (dsn : String) : Except String (Option MySQLConfig) :=
  match goDSNRE.first none dsn.toList with
  | none => .ok none
  | some found => do
    let (host, port) ← parseMySQLHostPort isDigit int (groupText found 3)
    return some
      { host, port
        user := groupText found 1
        password := groupText found 2
        database := groupText found 4 }

end Reading

section Guarding

variable (python : Python.Runtime)

def envBool (value : String) (default : Bool) : Bool :=
  let raw := python.lower (Python.strip value)
  if raw = "" then default else raw ∈ ["1", "true", "yes", "y", "on", "enabled"]

def isLocalMySQLHost (host : String) : Bool := python.lower (Python.strip host) ∈ localHosts

def canonicalOf (env : LocalEnvironment) : String :=
  let canonical := Python.strip env.mysqlCanonicalLocalDatabase
  if canonical = "" then canonicalDatabase else canonical

-- What _validate_local_mysql_schema has against a database on a host.
def refusal (env : LocalEnvironment) (host database : String) : Option String :=
  if isLocalMySQLHost python host = true ∧
      envBool python env.allowNonCanonicalLocalDB false = false then
    if database = canonicalOf env then none
    else
      some ("local MySQL platform database must be " ++ python.reprStr (canonicalOf env) ++
        "; got " ++ python.reprStr database ++ ". Set ALLOW_NON_CANONICAL_LOCAL_DB=true only " ++
        "for intentional isolated experiments with a recorded cleanup plan.")
  else none

def validateLocalMySQLSchema (env : LocalEnvironment) (mysql : MySQLConfig) :
    Except String MySQLConfig :=
  match refusal python env mysql.host mysql.database with
  | none => .ok mysql
  | some message => .error message

end Guarding

end Platform

end Troubleshooter.Storage
