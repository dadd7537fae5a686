import DiskServer.Construction.Drive.ShareService
import DiskServer.Construction.Files.FileList
import DiskServer.Construction.Utils.DtoBase
import DiskServer.Library.Separator

/-
This file gives the search for files and folders by a keyword, with its plain and its full-text form.
-/

namespace DiskServer.Files

open Library Utils

section Requests

structure SearchQueryParams where
  keyword : List Char
  type : ItemFilter
  folderId : Option UInt64
  page : Int32
  pageSize : Int32
  deriving Repr, DecidableEq

def SearchQueryParams.offset (query : SearchQueryParams) : Nat :=
  ((query.page.toInt - 1) * query.pageSize.toInt).toNat

def forbiddenKeywordChars : List Char := ['%', '_', '\\', '\'', '"']

def searchType (text : List Char) : Parsed ItemFilter :=
  if text = [] ∨ text = "all".toList then .value .all
  else if text = "file".toList then .value .file
  else if text = "folder".toList then .value .folder
  else .error (validationFailed "Parameter 'type' invalid value, must be all/file/folder")

def SearchQueryParams.fromRequest (getParameter : String → List Char) : Parsed SearchQueryParams := do
  let keyword := getParameter "keyword"
  if keyword = [] then
    .error (validationFailed "Missing required parameter: keyword")
  else if 100 < (String.ofList keyword).utf8ByteSize then
    .error (validationFailed "Parameter 'keyword' length must be between 1-100 characters")
  else if keyword.any fun character => forbiddenKeywordChars.contains character then
    .error (validationFailed "Parameter 'keyword' contains forbidden characters")
  else
    let type ← searchType (getParameter "type")
    let folderId ← queryUInt64 (getParameter "folder_id") "folder_id"
    let page ← queryPositiveInt (getParameter "page") "page" 1 intMax
    let pageSize ← queryPositiveInt (getParameter "page_size") "page_size" 1 100
    pure ⟨keyword, type, folderId, Int32.ofInt (page.getD 1), Int32.ofInt (pageSize.getD 20)⟩

end Requests

section Keywords

def normalizeStep (state : List Char × Bool) (character : Char) : List Char × Bool :=
  if character = ' ' then (if state.2 then state.1 else state.1 ++ [' '], true)
  else (state.1 ++ [character], false)

def normalizeFulltextKeyword (keyword : List Char) : List Char :=
  let normalized := (keyword.foldl normalizeStep ([], true)).1
  if normalized.getLast? = some ' ' then normalized.dropLast else normalized

def isFulltextEligible (keyword : List Char) : Bool :=
  let normalized := normalizeFulltextKeyword keyword
  3 ≤ (String.ofList normalized).utf8ByteSize &&
    (normalized.all fun character => character.isAlphanum || character = ' ') &&
      normalized.any fun character => character ≠ ' '

def escapeLikeKeyword (keyword : List Char) : List Char :=
  keyword.flatMap fun character => if character = '_' then ['\\', '_'] else [character]

/-- The parser of the database takes digits, an e and a digit for the start of a number in scientific notation, and
what follows that number in the word for another lexeme. -/
def readsNumber : List Char → Bool
  | first :: mark :: next :: rest =>
      first.isDigit && ((mark = 'e' || mark = 'E') && next.isDigit || readsNumber (mark :: next :: rest))
  | _ => false

/-- The text search of the database under the configuration simple. A text gives lexemes, which are parts of it in
lower case. The words of a text of letters, digits and blanks are its lexemes, and so are words of letters and digits
between blanks in texts that have no tags, where no word starts as such a number. -/
structure TextSearch where
  fold : Char → Char
  lexemes : List Char → List (List Char)
  lower : ∀ character, character.isLower → fold character = character
  inside : ∀ text, ∀ lexeme ∈ lexemes text, lexeme <:+: text.map fold
  plain : ∀ text, (∀ character ∈ text, character.isAlphanum ∨ character = ' ') →
    (∀ word ∈ wordsOf ' ' text, readsNumber word = false) →
    ∀ lexeme, lexeme ∈ lexemes text ↔ ∃ word ∈ wordsOf ' ' text, lexeme = word.map fold
  between : ∀ before word after, '<' ∉ before ++ after → word ≠ [] → (∀ character ∈ word, character.isAlphanum) →
    readsNumber word = false → word.map fold ∈ lexemes (before ++ ' ' :: (word ++ ' ' :: after))

/-- A text ends at its first zero character when it is bound to a statement. -/
def boundText (text : List Char) : List Char := text.takeWhile fun character => character ≠ Char.ofNat 0

def likeMatches (keyword name : List Char) : Bool :=
  Drive.sqlLike (boundText ('%' :: escapeLikeKeyword keyword ++ ['%'])) name

def fulltextMatches (search : TextSearch) (keyword name : List Char) : Bool :=
  (wordsOf ' ' (normalizeFulltextKeyword keyword)).any fun word => (search.lexemes name).contains (word.map search.fold)

def searchMatches (search : TextSearch) (keyword name : List Char) : Bool :=
  if isFulltextEligible keyword then fulltextMatches search keyword name else likeMatches keyword name

end Keywords

section Queries

structure SearchFile extends FileRow where
  path : String
  deriving Repr, DecidableEq

structure SearchFolder extends FolderRow where
  path : String
  deriving Repr, DecidableEq

structure SearchDb where
  files : Table SearchFile fun file => file.id
  folders : Table SearchFolder fun folder => folder.id
  contents : List ContentRow

structure SearchResultItem extends FileListItem where
  path : String
  deriving Repr, DecidableEq

structure SearchResponse where
  items : List SearchResultItem
  pagination : Pagination
  deriving Repr, DecidableEq

structure SearchRow where
  id : UInt64
  name : String
  type : String
  deriving Repr, DecidableEq

def SearchFile.narrow (file : SearchFile) : SearchRow := ⟨file.id, file.name, "file"⟩

def SearchFolder.narrow (folder : SearchFolder) : SearchRow := ⟨folder.id, folder.name, "folder"⟩

variable (search : TextSearch) (locale : Locale) (db : SearchDb) (query : SearchQueryParams) (userId : UInt64)

def inFolder (folderId : UInt64) : Bool :=
  match query.folderId with
  | none => true
  | some wanted => folderId = wanted

def searchFiles : List SearchFile :=
  db.files.rows.filter fun file =>
    file.userId = userId && searchMatches search query.keyword file.name.toList && inFolder query file.folderId

def searchFolders : List SearchFolder :=
  db.folders.rows.filter fun folder =>
    folder.userId = userId && searchMatches search query.keyword folder.name.toList && inFolder query folder.parentId

/-- The type of the rows is compared only where both types are wanted. -/
def searchOrder (type : ItemFilter) (first second : SearchRow) : Ordering :=
  (locale.collation first.name second.name).then
    ((if type = .all then locale.collation first.type second.type else .eq).then (compare first.id second.id))

variable (order : Arrangement (AtMost (searchOrder locale query.type)))

def searchPage (rows : List SearchRow) : List SearchRow :=
  cut query.pageSize.toInt.toNat query.offset (order.sort rows)

def joinFile (row : SearchRow) (file : Option SearchFile) : SearchResultItem where
  id := row.id
  name := row.name
  type := "file"
  size := (file.map fun file => file.size).getD 0
  mimeType := (file.bind fun file => file.mimeType).getD ""
  hash := (file.bind fun file => (db.contents.find? fun content => content.id = file.contentId).map
    ContentRow.hashMd5).getD ""
  itemCount := 0
  createdAt := (file.map fun file => locale.timestamp file.createdAt).getD ""
  updatedAt := (file.map fun file => locale.timestamp file.updatedAt).getD ""
  path := (file.map fun file => file.path).getD ""

def joinFolder (row : SearchRow) (folder : Option SearchFolder) : SearchResultItem where
  id := row.id
  name := row.name
  type := "folder"
  size := 0
  mimeType := ""
  hash := ""
  itemCount := (folder.map fun folder => folder.itemCount).getD 0
  createdAt := (folder.map fun folder => locale.timestamp folder.createdAt).getD ""
  updatedAt := (folder.map fun folder => locale.timestamp folder.updatedAt).getD ""
  path := (folder.map fun folder => folder.path).getD ""

def joinRow (row : SearchRow) : SearchResultItem :=
  if row.type = "file" then joinFile locale db row (db.files.find? row.id)
  else joinFolder locale row (db.folders.find? row.id)

def execute : SearchResponse :=
  let files := searchFiles search db query userId
  let folders := searchFolders search db query userId
  let found : Int32 × List SearchResultItem :=
    match query.type with
    | .all =>
        (0 + Int32.ofNat files.length + Int32.ofNat folders.length,
          (searchPage locale query order (files.map SearchFile.narrow ++ folders.map SearchFolder.narrow)).map
            (joinRow locale db))
    | .file =>
        (Int32.ofNat files.length, (searchPage locale query order (files.map SearchFile.narrow)).map
          (joinRow locale db))
    | .folder =>
        (Int32.ofNat folders.length, (searchPage locale query order (folders.map SearchFolder.narrow)).map
          (joinRow locale db))
  { items := found.2
    pagination :=
      { page := query.page
        pageSize := query.pageSize
        total := found.1
        totalPages := if 0 < query.pageSize then (found.1 + query.pageSize - 1) / query.pageSize else 0 } }

end Queries

end DiskServer.Files
