import DiskServer.Construction.Drive.Repositories
import DiskServer.Library.Paging

/-
This file gives the queries of the folder tree and of the breadcrumb, and the tree that is built from rows.
-/

namespace DiskServer.Drive

open Library

structure FolderNodeData where
  id : Nat
  name : String
  parentId : Nat
  deriving Repr, DecidableEq

inductive FolderTreeNode where
  | node (id : Nat) (name : String) (children : List FolderTreeNode)

structure BreadcrumbItem where
  id : Nat
  name : String
  deriving Repr, DecidableEq

section Queries

/-- A recursive query unites its rounds until one is empty, and it does not end on a cycle. -/
def withRecursive {Row : Type} (step : List Row → List Row) : Nat → List Row → Option (List Row)
  | _, [] => some []
  | 0, _ :: _ => none
  | fuel + 1, row :: rows => (withRecursive step fuel (step (row :: rows))).map ((row :: rows) ++ ·)

variable (folders : List Folder) (userId : Nat)

def nextLevel (maxDepth : Int) (rows : List (Folder × Nat)) : List (Folder × Nat) :=
  rows.flatMap fun row =>
    if (row.2 : Int) < maxDepth then
      (folders.filter fun folder => folder.parentId = row.1.id && folder.userId = userId).map fun folder =>
        (folder, row.2 + 1)
    else []

/-- The levels bound the rounds, and rows with one path come in any order. -/
def fetchFolderTreeRows {le : Folder → Folder → Prop} (order : Arrangement le) (parentId : Nat)
    (maxDepth : Int) : Option (List FolderNodeData) :=
  let top := (folders.filter fun folder => folder.userId = userId && folder.parentId = parentId).map fun folder =>
    (folder, 0)
  (withRecursive (nextLevel folders userId maxDepth) (maxDepth.toNat + 1) top).map fun rows =>
    (order.sort (rows.map Prod.fst)).map fun folder => ⟨folder.id, folder.name, folder.parentId⟩

def nextParents (rows : List Folder) : List Folder :=
  rows.flatMap fun row => folders.filter fun folder => folder.id = row.parentId && folder.userId = userId

/-- Chains of parents without a cycle have fewer rounds than there are folders. -/
def fetchBreadcrumbRows (folderId : Nat) : Option (List BreadcrumbItem) :=
  let start := folders.filter fun folder => folder.owned folderId userId
  (withRecursive (nextParents folders userId) (folders.length + 1) start).map fun rows =>
    rows.map fun folder => ⟨folder.id, folder.name⟩

end Queries

section Service

def rootName : String := "根目录"

def rootItem : BreadcrumbItem := ⟨0, rootName⟩

/-- The recursion over the children of each node, which does not end on a cycle. -/
def buildChildren (nodes : List FolderNodeData) : (fuel parentId : Nat) → Option (List FolderTreeNode)
  | 0, _ => none
  | fuel + 1, parentId =>
      (nodes.filter fun node => node.parentId = parentId).mapM fun node =>
        (buildChildren nodes fuel node.id).map fun children => .node node.id node.name children

def rootNode (rootId : Nat) (children : List FolderTreeNode) : FolderTreeNode :=
  .node rootId (if rootId = 0 then rootName else "") children

def buildTreeFromFlatList (nodes : List FolderNodeData) (rootId : Nat) : Option FolderTreeNode :=
  (buildChildren nodes (nodes.length + 1) rootId).map (rootNode rootId)

variable (folders : List Folder) (userId : Nat)

def getFolderTree {le : Folder → Folder → Prop} (order : Arrangement le) (parentId : Nat) (depth : Int) :
    Option (Except ErrorInfo FolderTreeNode) :=
  if 0 < parentId ∧ ¬folders.any fun folder => folder.owned parentId userId then
    some (.error (ErrorInfo.ofCode .folderNotFound))
  else
    let maxDepth := if depth = -1 then 100 else depth
    match fetchFolderTreeRows folders userId order parentId maxDepth with
    | none => none
    | some nodes =>
        if nodes = [] then some (.ok (rootNode parentId []))
        else (buildTreeFromFlatList nodes parentId).map .ok

def getBreadcrumb (folderId : Nat) : Option (Except ErrorInfo (List BreadcrumbItem)) :=
  if folderId = 0 then some (.ok [rootItem])
  else
    match fetchBreadcrumbRows folders userId folderId with
    | none => none
    | some path =>
        if path = [] then some (.error (ErrorInfo.ofCode .folderNotFound))
        else some (.ok (path ++ [rootItem]).reverse)

end Service

end DiskServer.Drive
