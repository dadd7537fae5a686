import DiskServer.Construction.Drive.ShareService
import DiskServer.Construction.Utils.DtoBase
import DiskServer.Library.Binary64
import DiskServer.Library.Paging
import DiskServer.Library.SqlText

/-
This file gives the filtered list of users, the statements that it builds and what the database makes of
them.
-/

namespace DiskServer.Admin

open Library Utils

section Requests

structure ListUsersRequest where
  page : Int
  pageSize : Int
  username : Option (List Char)
  email : Option (List Char)
  status : Option Int
  role : Option Int
  deriving Repr, DecidableEq

def queryText (text : List Char) : Option (List Char) := if text = [] then none else some text

def queryChoice (text : List Char) (key : String) (most : Int) (invalid : ErrorInfo) :
    Parsed (Option Int) :=
  if text = [] then
    .value none
  else
    match stoi text with
    | none => .error (validationFailed ("Parameter '" ++ key ++ "' invalid format"))
    | some (value, pos) =>
        if pos ≠ text.length then
          .error (validationFailed ("Parameter '" ++ key ++ "' invalid format"))
        else if value < 0 ∨ most < value then
          .error invalid
        else
          .value (some value)

def queryStatus (text : List Char) : Parsed (Option Int) :=
  queryChoice text "status" 2 ⟨.adminInvalidStatus, "Invalid status value"⟩

def queryRole (text : List Char) : Parsed (Option Int) :=
  queryChoice text "role" 1 ⟨.adminInvalidRole, "Invalid role value"⟩

def ListUsersRequest.fromRequest (getParameter : String → List Char) : Parsed ListUsersRequest :=
  match queryPositiveInt (getParameter "page") "page" 1 intMax with
  | .error error => .error error
  | .raised => .raised
  | .value page =>
      match queryPositiveInt (getParameter "page_size") "page_size" 1 100 with
      | .error error => .error error
      | .raised => .raised
      | .value pageSize =>
          match queryStatus (getParameter "status") with
          | .error error => .error error
          | .raised => .raised
          | .value status =>
              match queryRole (getParameter "role") with
              | .error error => .error error
              | .raised => .raised
              | .value role =>
                  .value
                    { page := page.getD 1
                      pageSize := pageSize.getD 20
                      username := queryText (getParameter "username")
                      email := queryText (getParameter "email")
                      status := status
                      role := role }

end Requests

section Statements

def usernameClause (value : List Char) : List Char :=
  " AND username LIKE '%".toList ++ value ++ "%'".toList

def emailClause (value : List Char) : List Char :=
  " AND email LIKE '%".toList ++ value ++ "%'".toList

def statusClause (value : Int) : List Char := " AND status = ".toList ++ (toString value).toList

def roleClause (value : Int) : List Char := " AND role = ".toList ++ (toString value).toList

def clause {Value : Type} (text : Value → List Char) (filter : Option Value) : List Char :=
  (filter.map text).getD []

variable (request : ListUsersRequest)

def whereClause : List Char :=
  " WHERE 1=1".toList ++ (clause usernameClause request.username ++
    (clause emailClause request.email ++
      (clause statusClause request.status ++ clause roleClause request.role)))

def countSql : List Char := "SELECT COUNT(*) AS total FROM users".toList ++ whereClause request

def listSql : List Char :=
  ("SELECT id, username, email, nickname, avatar, " ++
    "role, status, storage_quota, storage_used, storage_reserved, " ++
    "created_at, last_login_at " ++ "FROM users").toList ++ (whereClause request ++
      " ORDER BY created_at DESC LIMIT $1 OFFSET $2".toList)

/-- The client hands a statement over as a text that ends at its first zero character. -/
def cString (text : List Char) : List Char := text.takeWhile fun character => character ≠ Char.ofNat 0

end Statements

section Database

structure UserRecord where
  id : UInt64
  username : String
  email : String
  nickname : Option String
  avatar : Option String
  role : Int
  status : Int
  storageQuota : UInt64
  storageUsed : UInt64
  storageReserved : UInt64
  createdAt : Int
  lastLoginAt : Option Int
  deriving Repr, DecidableEq

inductive Condition where
  | username (pattern : List Char)
  | email (pattern : List Char)
  | status (value : List Char)
  | role (value : List Char)
  deriving Repr, DecidableEq

def Condition.holds (user : UserRecord) : Condition → Bool
  | .username pattern => Drive.sqlLike pattern user.username.toList
  | .email pattern => Drive.sqlLike pattern user.email.toList
  | .status value => (toString user.status).toList = value
  | .role value => (toString user.role).toList = value

def word (text : String) : SqlToken := .word text.toList

def likeTokens (column : String) (pattern : List Char) : List SqlToken :=
  [word "AND", word column, word "LIKE", .literal false pattern]

def equalTokens (column : String) (value : List Char) : List SqlToken :=
  [word "AND", word column, .symbol '=', .word value]

def Condition.tokens : Condition → List SqlToken
  | .username pattern => likeTokens "username" pattern
  | .email pattern => likeTokens "email" pattern
  | .status value => equalTokens "status" value
  | .role value => equalTokens "role" value

def whereTokens : List SqlToken := [word "WHERE", word "1", .symbol '=', word "1"]

def countHead : List SqlToken :=
  [word "SELECT", word "COUNT", .symbol '(', .symbol '*', .symbol ')', word "AS", word "total",
    word "FROM", word "users"] ++ whereTokens

def listHead : List SqlToken :=
  [word "SELECT", word "id", .symbol ',', word "username", .symbol ',', word "email", .symbol ',',
    word "nickname", .symbol ',', word "avatar", .symbol ',', word "role", .symbol ',', word "status",
    .symbol ',', word "storage_quota", .symbol ',', word "storage_used", .symbol ',',
    word "storage_reserved", .symbol ',', word "created_at", .symbol ',', word "last_login_at",
    word "FROM", word "users"] ++ whereTokens

def listTail : List SqlToken :=
  [word "ORDER", word "BY", word "created_at", word "DESC", word "LIMIT", .parameter ['1'],
    word "OFFSET", .parameter ['2']]

def parseComparison (column : List Char) : SqlToken → SqlToken → Option Condition
  | .word like, .literal false pattern =>
      if like = "LIKE".toList ∧ column = "username".toList then some (.username pattern)
      else if like = "LIKE".toList ∧ column = "email".toList then some (.email pattern)
      else none
  | .symbol '=', .word value =>
      if column = "status".toList then some (.status value)
      else if column = "role".toList then some (.role value)
      else none
  | _, _ => none

def parseConditions : List SqlToken → List Condition × List SqlToken
  | .word conjunction :: .word column :: operator :: operand :: rest =>
      match parseComparison column operator operand with
      | some condition =>
          if conjunction = "AND".toList then
            let parsed := parseConditions rest
            (condition :: parsed.1, parsed.2)
          else ([], .word conjunction :: .word column :: operator :: operand :: rest)
      | none => ([], .word conjunction :: .word column :: operator :: operand :: rest)
  | tokens => ([], tokens)

def parseSelect (head tail tokens : List SqlToken) : Option (List Condition) :=
  if head <+: tokens then
    let parsed := parseConditions (tokens.drop head.length)
    if parsed.2 = tail then some parsed.1 else none
  else
    none

def selectUsers (conditions : List Condition) (users : List UserRecord) : List UserRecord :=
  users.filter fun user => conditions.all fun condition => condition.holds user

def newestFirst (users : List UserRecord) : List UserRecord :=
  users.mergeSort fun first second => second.createdAt ≤ first.createdAt

structure OtherStatements where
  count : List Char → List UserRecord → Option Nat
  rows : List Char → Nat → Nat → List UserRecord → Option (List UserRecord)

variable (other : OtherStatements)

def executeCount (sql : List Char) (users : List UserRecord) : Option Nat :=
  match (lexSql (cString sql)).bind (parseSelect countHead []) with
  | some conditions => some (selectUsers conditions users).length
  | none => other.count sql users

def executeList (sql : List Char) (limit offset : Nat) (users : List UserRecord) :
    Option (List UserRecord) :=
  match (lexSql (cString sql)).bind (parseSelect listHead listTail) with
  | some conditions => some (((newestFirst (selectUsers conditions users)).drop offset).take limit)
  | none => other.rows sql limit offset users

end Database

section ListUsers

structure UserDetailResponse where
  id : UInt64
  username : String
  email : String
  nickname : String
  avatar : String
  role : Int
  status : Int
  storageQuota : UInt64
  storageUsed : UInt64
  storageReserved : UInt64
  createdAt : String
  lastLoginAt : String
  deriving Repr, DecidableEq

structure PaginationInfo where
  page : Int
  pageSize : Int
  total : Nat
  totalPages : Nat
  deriving Repr, DecidableEq

structure UserListResponse where
  items : List UserDetailResponse
  pagination : PaginationInfo
  deriving Repr, DecidableEq

variable (timestamp : Int → String) (other : OtherStatements)

def UserRecord.response (user : UserRecord) : UserDetailResponse where
  id := user.id
  username := user.username
  email := user.email
  nickname := user.nickname.getD ""
  avatar := user.avatar.getD ""
  role := user.role
  status := user.status
  storageQuota := user.storageQuota
  storageUsed := user.storageUsed
  storageReserved := user.storageReserved
  createdAt := timestamp user.createdAt
  lastLoginAt := (user.lastLoginAt.map timestamp).getD ""

def buildUserList (request : ListUsersRequest) (total : Nat) (rows : List UserRecord) :
    UserListResponse where
  items := rows.map (UserRecord.response timestamp)
  pagination :=
    { page := request.page
      pageSize := request.pageSize
      total := total
      totalPages := (total + request.pageSize.toNat - 1) / request.pageSize.toNat }

def ListUsersRequest.offset (request : ListUsersRequest) : Nat :=
  ((request.page - 1) * request.pageSize).toNat

def failedToListUsers : ErrorInfo := ⟨.internalError, "Failed to list users"⟩

def listUsers (request : ListUsersRequest) (users : List UserRecord) :
    Except ErrorInfo UserListResponse :=
  match executeCount other (countSql request) users with
  | none => .error failedToListUsers
  | some total =>
      match executeList other (listSql request) request.pageSize.toNat request.offset users with
      | none => .error failedToListUsers
      | some rows => .ok (buildUserList timestamp request total rows)

end ListUsers

section Paging

variable (timestamp : Int → String) (conditions : List Condition) (users : List UserRecord)

/-- One page of the users that the conditions select, in an order that the database chooses. The total is converted
from a text and throws beyond its type, and the number of pages is the ceiling of a quotient of doubles. -/
def listUsersPage (order : Arrangement (Descending UserRecord.createdAt)) (request : ListUsersRequest) :
    Option UserListResponse :=
  let selected := selectUsers conditions users
  if selected.length < 2147483648 then
    some
      { items := (cut request.pageSize.toNat request.offset (order.sort selected)).map (UserRecord.response timestamp)
        pagination :=
          { page := request.page
            pageSize := request.pageSize
            total := selected.length
            totalPages := Binary64.ceilQuotient selected.length request.pageSize.toNat } }
  else none

end Paging

end DiskServer.Admin
