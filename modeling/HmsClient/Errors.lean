import HmsClient.CauseTree

/-! The errors of the client and how it classifies them. The kinds are the ones
the source tells apart: the package's sentinels, the generated exceptions, the
Thrift library's own exceptions, and the io, context, net and TLS errors. -/
namespace HmsClient

open CauseTree

/-- The sentinels of the package. -/
inductive Sentinel where
  | errNotFound
  | errAlreadyExists
  | errInvalidOperation
  | errMeta
  | errUnavailable
  | errNotSupported
  deriving DecidableEq, Repr

/-- The exceptions generated from the metastore's interface that the client
knows by type. -/
inductive Exception where
  | noSuchObject
  | alreadyExists
  | invalidOperation
  | invalidObject
  | invalidInput
  | metaException
  | noSuchTxn
  | txnAborted
  | txnOpen
  | noSuchLock
  | configValSecurity
  deriving DecidableEq, Repr

/-- The errors of a TLS handshake that `classify` lists. -/
inductive TlsError where
  | hostname
  | unknownAuthority
  | certificateInvalid
  | certificateVerification
  | recordHeader
  | alert
  deriving DecidableEq, Repr

/-- One error value, apart from what it wraps. `compiled` is a generated
exception of another type, `thrift` a `TException` of no listed kind, and
`other` any error the client does not know by type or identity. -/
inductive Node where
  | sentinel (sentinel : Sentinel)
  | errClosed
  | hmsError (op : String)
  | exception (exception : Exception)
  | compiled
  | application (typeId : Int)
  | protocol
  | transport
  | thrift
  | eof
  | unexpectedEOF
  | deadlineExceeded
  | canceled
  | net
  | tls (error : TlsError)
  | joined
  | other (text : String)
  deriving DecidableEq, Repr

abbrev Err := CauseTree.Tree Node

namespace Err

/-- `errors.Is` for a sentinel of the package. -/
def isSentinel (err : Err) (sentinel : Sentinel) : Bool := err.has (· = .sentinel sentinel)

/-- `errors.As` for a generated exception. -/
def isException (err : Err) (exception : Exception) : Bool :=
  err.has (· = .exception exception)

/-- The type id of the first `TApplicationException`, if there is one. -/
def typeId (err : Err) : Option Int :=
  err.find fun
    | .application typeId => some typeId
    | _ => none

end Err

/-- `errors.Join` of a sentinel and an error that may be nil. -/
def join (sentinel : Sentinel) (last : Option Err) : Err :=
  .node .joined (.leaf (.sentinel sentinel) :: last.toList)

def isUnknownMethod (err : Err) : Bool := err.typeId == some 1

/-- `isDesyncError`: `INVALID_MESSAGE_TYPE_EXCEPTION`, `WRONG_METHOD_NAME`,
`BAD_SEQUENCE_ID` or `PROTOCOL_ERROR`. -/
def isDesyncError (err : Err) : Bool :=
  match err.typeId with
  | some typeId => typeId ∈ [2, 3, 4, 7]
  | none => false

/-- `isProtocolError`: the first `TException` of the tree is a protocol one. -/
def isProtocolError (err : Err) : Bool :=
  (err.find fun
    | .protocol => some true
    | .exception _ | .compiled | .application _ | .transport | .thrift => some false
    | _ => none) == some true

/-- Whether an error comes from the connection rather than from the server:
the case of `classify` that lists io, context, transport, net and TLS errors. -/
def isConnectionError (err : Err) : Bool :=
  err.has fun
    | .eof | .unexpectedEOF | .deadlineExceeded | .canceled | .transport | .net | .tls _ => true
    | _ => false

def classify (err : Err) : Sentinel :=
  if err.isException .noSuchObject then .errNotFound
  else if err.isException .alreadyExists then .errAlreadyExists
  else if err.isException .invalidOperation || err.isException .invalidObject ||
      err.isException .invalidInput then .errInvalidOperation
  else if err.isException .metaException then .errMeta
  else if err.isException .noSuchTxn || err.isException .noSuchLock then .errNotFound
  else if err.isException .txnAborted || err.isException .txnOpen then .errInvalidOperation
  else if err.isException .configValSecurity then .errInvalidOperation
  else if isUnknownMethod err then .errNotSupported
  else if isDesyncError err then .errUnavailable
  else if err.typeId.isSome then .errMeta
  else if isConnectionError err then .errUnavailable
  else if err.isSentinel .errNotFound then .errNotFound
  else if err.isSentinel .errAlreadyExists then .errAlreadyExists
  else if err.isSentinel .errInvalidOperation then .errInvalidOperation
  else if err.isSentinel .errNotSupported then .errNotSupported
  else if err.isSentinel .errUnavailable then .errUnavailable
  else .errMeta

/-- `errors.New`. -/
def plainError (text : String) : Err := .leaf (.other text)

/-- `fmt.Errorf` with the verb `%w`. -/
def wrapping (text : String) (err : Err) : Err := .node (.other text) [err]

/-- `wrapAs` of an error that is not nil. -/
def wrapAs (op : String) (sentinel : Sentinel) (err : Err) : Err :=
  .node (.hmsError op) [.leaf (.sentinel sentinel), err]

/-- `wrapError` of an error that is not nil. -/
def wrapError (op : String) (err : Err) : Err :=
  if err.has (fun | .hmsError _ => true | _ => false) then err
  else wrapAs op (classify err) err

/-- Whether `do` must not put the connection an RPC failed on back into its
pool. -/
def breaksConn (err : Err) : Bool := classify err = .errUnavailable || isProtocolError err

end HmsClient
