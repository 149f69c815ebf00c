import RustyCrew.Persistence.Step

namespace RustyCrew.Persistence

open Library Protocol

structure LogicalTurnDiagnosticQuery where
  logicalTurnId : Option LogicalTurnId
  sessionId : Option SessionId
  includeTerminal : Bool
  limit : Nat
  deriving DecidableEq, Repr

def LogicalTurnDiagnosticQuery.selects (query : LogicalTurnDiagnosticQuery)
    (record : LogicalTurnRecord) : Bool :=
  query.logicalTurnId.all (record.logicalTurnId = ·) &&
    query.sessionId.all (record.sessionId = ·) &&
    (query.includeTerminal || record.terminalAt.isNone)

def LogicalTurnDiagnosticQuery.rowLimit (query : LogicalTurnDiagnosticQuery) : Nat :=
  max 1 (min query.limit 500)

/-- The methods of the logical-turn repository: the transitions, the two statements on single
operation rows, and the queries. -/
inductive RepositoryCall where
  | transition (op : Op)
  | insertOperation (operation : LogicalTurnOperationRecord)
  | updateOperation (operation : LogicalTurnOperationRecord) (expectedRevision : Nat)
  | getTurn (id : LogicalTurnId)
  | listTurns (query : LogicalTurnDiagnosticQuery)
  | getCheckpoint (id : ContinuationId)
  | loadContent (contentRef : String)
  | listOperations (id : LogicalTurnId)
  | listTickets
  | listPendingOutbox
  deriving DecidableEq

inductive RepositoryAnswer where
  | response (response : Response)
  | operation (operation : LogicalTurnOperationRecord)
  | turn (record : Option LogicalTurnRecord)
  | turns (records : List LogicalTurnRecord)
  | checkpoint (checkpoint : Option LogicalTurnCheckpoint)
  | content (bytes : Option (List UInt8))
  | operations (operations : List LogicalTurnOperationRecord)
  | tickets (tickets : List LogicalTurnContinuationTicket)
  | outbox (rows : List LogicalTurnOutboxRecord)
  deriving DecidableEq

namespace Store

def listLogicalTurns (s : Store) (query : LogicalTurnDiagnosticQuery) : List LogicalTurnRecord :=
  ((s.turns.select query.selects).insertionSort fun a b =>
    b.updatedAt < a.updatedAt ∨
      b.updatedAt = a.updatedAt ∧ b.logicalTurnId.raw ≤ a.logicalTurnId.raw).take query.rowLimit

/-- Unlike a lease, this insert has not loaded the turn: the reference to it is checked too. -/
def insertLogicalTurnOperation (s : Store) (operation : LogicalTurnOperationRecord) :
    CoreResult Store := do
  let inserted ← s.insertOperation operation
  rejectIf ((s.loadTurn operation.logicalTurnId).isNone)
    (persistenceError "insert logical turn operation" "FOREIGN KEY constraint failed")
  .ok inserted

def call (s : Store) : RepositoryCall → CoreResult (Store × RepositoryAnswer)
  | .transition op => do
    let (s, response) ← s.apply op
    .ok (s, .response response)
  | .insertOperation operation => do
    let s ← s.insertLogicalTurnOperation operation
    .ok (s, .operation operation)
  | .updateOperation operation expectedRevision => do
    let s ← s.updateOperation operation expectedRevision
    .ok (s, .operation operation)
  | .getTurn id => .ok (s, .turn (s.loadTurn id))
  | .listTurns query => .ok (s, .turns (s.listLogicalTurns query))
  | .getCheckpoint id => .ok (s, .checkpoint (s.loadCheckpoint id))
  | .loadContent contentRef => .ok (s, .content (s.loadLogicalTurnContent contentRef))
  | .listOperations id => .ok (s, .operations (s.listLogicalTurnOperations id))
  | .listTickets => .ok (s, .tickets s.listLogicalTurnTickets)
  | .listPendingOutbox => .ok (s, .outbox s.listPendingLogicalTurnOutbox)

/-- What a call answers, and the store it leaves: a failed call is rolled back. -/
def serve (s : Store) (call : RepositoryCall) : CoreResult RepositoryAnswer × Store :=
  match s.call call with
  | .ok (s', answer) => (.ok answer, s')
  | .error failure => (.error failure, s)

end Store

end RustyCrew.Persistence
