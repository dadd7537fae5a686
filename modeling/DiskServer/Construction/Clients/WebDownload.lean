import DiskServer.Library.Threads

/-
This file gives one download task of the web client: what its user does, and the runs that fetch the
file, each up to the next event that it waits for.
-/

namespace DiskServer.Clients.WebDownload

open Library

section Task

inductive DownloadTaskStatus where
  | pending
  | downloading
  | paused
  | completed
  | failed
  | cancelled
  deriving DecidableEq, Repr

structure DownloadTask where
  status : DownloadTaskStatus
  receivedBytes : Nat
  totalSize : Nat
  supportsRange : Bool
  deriving DecidableEq, Repr

/-- The task and the registry of its abort controller. The last field keeps what each run that completed
the task had saved. -/
structure TransferStore where
  added : Bool
  task : Option DownloadTask
  abortController : Option Nat
  aborted : List Nat
  controllers : Nat
  completions : List (List UInt8)
  deriving DecidableEq, Repr

def TransferStore.fresh : TransferStore := ⟨false, none, none, [], 0, []⟩

variable (store : TransferStore)

def updateDownloadTask (patch : DownloadTask → DownloadTask) : TransferStore :=
  { store with task := store.task.map patch }

def clearDownloadRuntime (task : DownloadTask) : DownloadTask := { task with receivedBytes := 0 }

def getOrCreateController : Nat × TransferStore :=
  match store.abortController with
  | some controller => (controller, store)
  | none =>
      (store.controllers,
        { store with abortController := some store.controllers, controllers := store.controllers + 1 })

def abortController : TransferStore :=
  match store.abortController with
  | some controller =>
      { store with aborted := controller :: store.aborted, abortController := none }
  | none => store

def removeDownloadTask : TransferStore := { abortController store with task := none }

def cancelDownloadTask : TransferStore :=
  updateDownloadTask (updateDownloadTask (abortController store) clearDownloadRuntime)
    fun task => { task with status := .cancelled }

def pauseDownloadTask : TransferStore :=
  updateDownloadTask (abortController store) fun task =>
    if task.supportsRange then { task with status := .paused }
    else { clearDownloadRuntime task with status := .paused }

end Task

section Runs

structure Run where
  controller : Nat
  startByte : Nat
  deriving DecidableEq, Repr

/-- What a thread waits for. The bytes that are left are those that the response has not delivered, and
the flag of a blob says that its stream can deliver no more. -/
inductive DownloadThread where
  | adding (sizeKnown : Bool)
  | pausing
  | resuming
  | cancelling
  | removing
  | info (run : Run)
  | response (run : Run) (rangeStart : Nat)
  | picker (run : Run) (left : List UInt8)
  | diskRead (run : Run) (left written : List UInt8)
  | diskWrite (run : Run) (left written value : List UInt8)
  | diskClose (run : Run) (written : List UInt8)
  | blobRead (run : Run) (rangeStart : Nat) (left parts : List UInt8) (broken : Bool)
  | wholeBlob (run : Run) (rangeStart : Nat) (left : List UInt8) (disturbed : Bool)
  | returned (run : Run) (saved : List UInt8)
  | finished
  deriving DecidableEq, Repr

inductive DownloadEvent where
  | info (supportsRange : Bool)
  | accepted (hasPicker : Bool)
  | refused
  | picked
  | chunk (size : Nat)
  | ended
  | done
  | aborted
  | failed
  deriving DecidableEq, Repr

inductive DownloadCall where
  | addDownloadTask (sizeKnown : Bool)
  | pauseDownloadTask
  | resumeDownloadTask
  | cancelDownloadTask
  | removeDownloadTask
  deriving DecidableEq, Repr

def DownloadCall.enter : DownloadCall → DownloadThread
  | .addDownloadTask sizeKnown => .adding sizeKnown
  | .pauseDownloadTask => .pausing
  | .resumeDownloadTask => .resuming
  | .cancelDownloadTask => .cancelling
  | .removeDownloadTask => .removing

variable (content : List UInt8) (store : TransferStore)

def executeDownload : TransferStore × DownloadThread :=
  match store.task with
  | none => (store, .finished)
  | some task =>
      let startByte := if task.supportsRange then task.receivedBytes else 0
      let (controller, store) := getOrCreateController store
      let store :=
        if startByte = 0 ∧ 0 < task.receivedBytes then updateDownloadTask store clearDownloadRuntime
        else store
      (updateDownloadTask store fun task => { task with status := .downloading },
        .info ⟨controller, startByte⟩)

def addDownloadTask (sizeKnown : Bool) : TransferStore × DownloadThread :=
  executeDownload
    { store with
      added := true
      task := some ⟨.pending, 0, if sizeKnown then content.length else 0, false⟩ }

def resumeDownloadTask : TransferStore × DownloadThread :=
  match store.task with
  | none => (store, .finished)
  | some task =>
      if task.status ≠ .paused then (store, .finished)
      else
        let cleared :=
          if task.supportsRange = false ∧ 0 < task.receivedBytes then
            updateDownloadTask store clearDownloadRuntime
          else store
        executeDownload (getOrCreateController
          (updateDownloadTask cleared fun task => { task with status := .pending })).2

def isAborted (run : Run) : Bool := run.controller ∈ store.aborted

def failRun : TransferStore × DownloadThread :=
  ({ updateDownloadTask store fun task => { task with status := .failed, receivedBytes := 0 } with
    abortController := none }, .finished)

def onProgress (loaded : Nat) : TransferStore :=
  updateDownloadTask store fun task =>
    { task with receivedBytes := loaded, totalSize := content.length }

def unlessAborted (run : Run) (next : DownloadThread) : DownloadThread :=
  if isAborted store run then .finished else next

def readBodyWithProgress (run : Run) (rangeStart : Nat) (left : List UInt8) (broken disturbed : Bool) :
    TransferStore × DownloadThread :=
  if content.length = 0 then (store, .wholeBlob run rangeStart left disturbed)
  else (store, unlessAborted store run (.blobRead run rangeStart left [] broken))

def startBody (run : Run) (rangeStart : Nat) (hasPicker : Bool) :
    Option (TransferStore × DownloadThread) :=
  if rangeStart ≠ 0 ∧ content.length ≤ rangeStart then none
  else if run.startByte = 0 ∧ hasPicker then some (store, .picker run (content.drop rangeStart))
  else some (readBodyWithProgress content store run rangeStart (content.drop rangeStart) false false)

def finishRun (run : Run) (saved : List UInt8) : TransferStore × DownloadThread :=
  if isAborted store run then (store, .finished)
  else
    match store.task with
    | none => (store, .finished)
    | some completed =>
        ({ updateDownloadTask store fun task =>
            { task with
              status := .completed
              receivedBytes :=
                if completed.totalSize ≠ 0 then completed.totalSize else completed.receivedBytes } with
          abortController := none
          completions := saved :: store.completions }, .finished)

/-- A run is aborted by its signal, and by a user who dismisses the picker. A stream whose signal is
aborted may still deliver what it has buffered. -/
def advanceDownload : DownloadThread → DownloadEvent → Option (TransferStore × DownloadThread)
  | .adding sizeKnown, _ => if store.added then none else some (addDownloadTask content store sizeKnown)
  | .pausing, _ => some (pauseDownloadTask store, .finished)
  | .resuming, _ => some (resumeDownloadTask store)
  | .cancelling, _ => some (cancelDownloadTask store, .finished)
  | .removing, _ => some (removeDownloadTask store, .finished)
  | .info run, .info supportsRange =>
      some (updateDownloadTask store fun task =>
          { task with totalSize := content.length, supportsRange := supportsRange },
        .response run (if 0 < run.startByte ∧ supportsRange then run.startByte else 0))
  | .info _, .failed => some (failRun store)
  | .response run rangeStart, .accepted hasPicker => startBody content store run rangeStart hasPicker
  | .response _ _, .refused => some (failRun store)
  | .response _ _, .failed => some (failRun store)
  | .response run _, .aborted => if isAborted store run then some (store, .finished) else none
  | .picker run left, .picked => some (store, unlessAborted store run (.diskRead run left []))
  | .picker _ _, .aborted => some (store, .finished)
  | .picker run left, .failed =>
      some (readBodyWithProgress content store run 0 left false false)
  | .diskRead run left written, .chunk size =>
      if 0 < size ∧ size ≤ left.length then
        some (store, .diskWrite run (left.drop size) written (left.take size))
      else none
  | .diskRead run left written, .ended => if left = [] then some (store, .diskClose run written) else none
  | .diskRead run left _, .failed => some (readBodyWithProgress content store run 0 left true true)
  | .diskRead run _ _, .aborted => if isAborted store run then some (store, .finished) else none
  | .diskWrite run left written value, .done =>
      let store := onProgress content store (written ++ value).length
      some (store, unlessAborted store run (.diskRead run left (written ++ value)))
  | .diskWrite run left _ _, .failed =>
      some (readBodyWithProgress content store run 0 left false true)
  | .diskClose run written, .done => some (store, .returned run written)
  | .diskClose run _, .failed => some (readBodyWithProgress content store run 0 [] false true)
  | .blobRead run rangeStart left parts broken, .chunk size =>
      if broken = false ∧ 0 < size ∧ size ≤ left.length then
        let store := onProgress content store (rangeStart + (parts ++ left.take size).length)
        some (store, unlessAborted store run
          (.blobRead run rangeStart (left.drop size) (parts ++ left.take size) broken))
      else none
  | .blobRead run _ left parts broken, .ended =>
      if broken = false ∧ left = [] then some (store, .returned run parts) else none
  | .blobRead _ _ _ _ _, .failed => some (failRun store)
  | .blobRead run _ _ _ _, .aborted => if isAborted store run then some (store, .finished) else none
  | .wholeBlob run rangeStart left disturbed, .ended =>
      if disturbed then none
      else some (onProgress content store (rangeStart + left.length), .returned run left)
  | .wholeBlob _ _ _ _, .failed => some (failRun store)
  | .wholeBlob run _ _ _, .aborted => if isAborted store run then some (store, .finished) else none
  | .returned run saved, _ => some (finishRun store run saved)
  | _, _ => none

def downloadProgram : ThreadProgram TransferStore DownloadThread DownloadCall DownloadEvent where
  enter := DownloadCall.enter
  advance := advanceDownload content

def downloadSystem :
    TransitionSystem (Threads TransferStore DownloadThread) (ThreadAction DownloadCall DownloadEvent) :=
  (downloadProgram content).system .fresh

end Runs

end DiskServer.Clients.WebDownload
