/-
# ByteStream.Error -- what can go wrong, and what is said about it

A backend reports one of five causes. A stream turns a cause into its own error, which says what
the caller was doing: `StreamError.ofBackend` for a call on an open stream, `StreamError.ofConnect`
for an attempt to open one. A third view, `IoError`, is what the generic reading and writing
interface reports: the same text, sorted into kinds.
-/

namespace ByteStream

/-! ## Causes -/

/-- Why a backend call failed. -/
inductive BackendError
  | protocolNotFound
  | interrupted
  | unsupported
  | eof
  | io (text : String)
deriving DecidableEq, Repr

/-- The text of a cause. -/
def BackendError.message : BackendError → String
  | .protocolNotFound => "protocol not found"
  | .interrupted => "interrupted"
  | .unsupported => "operation not supported"
  | .eof => "end of stream"
  | .io text => text

/-- The cause when a wait would never end: nothing can come any more. -/
def BackendError.lost : BackendError := .io "connection lost"

/-- What a stream was asked to do. -/
inductive Op
  | openStream
  | read
  | write
  | seek
  | control
deriving DecidableEq, Repr

/-- The operation as the error texts name it. -/
def Op.name : Op → String
  | .openStream => "open"
  | .read => "read"
  | .write => "write"
  | .seek => "seek"
  | .control => "control"

/-! ## Errors of a stream -/

/-- Why an operation on a stream failed. -/
inductive StreamError
  | input (text : String)
  | protocolUnavailable (url : String)
  | connect (url : String) (cause : BackendError)
  | io (op : Op) (cause : BackendError)
  | eof
  | interrupted (op : Op)
  | unsupported (op : Op)
  | noConnection (op : Op)
deriving DecidableEq, Repr

namespace StreamError

/-- The error for a cause met while doing `op` on an open stream. -/
def ofBackend (op : Op) : BackendError → StreamError
  | .interrupted => .interrupted op
  | .unsupported => .unsupported op
  | .eof => .eof
  | cause => .io op cause

/-- The error for a cause met while connecting to `url`. -/
def ofConnect (url : String) : BackendError → StreamError
  | .protocolNotFound => .protocolUnavailable url
  | .interrupted => .interrupted .openStream
  | cause => .connect url cause

/-- The text of an error. -/
def message : StreamError → String
  | .input text => "invalid input: " ++ text
  | .protocolUnavailable url =>
    "protocol not found for " ++ url ++ "; make sure the backend is built with networking support"
  | .connect url cause => "failed to open " ++ url ++ ": " ++ cause.message
  | .io op cause => op.name ++ " failed: " ++ cause.message
  | .eof => "end of stream"
  | .interrupted op => op.name ++ " interrupted"
  | .unsupported op => op.name ++ " not supported"
  | .noConnection op => op.name ++ " on a stream without a live connection"

/-- The operation that an error was raised from. The end of a stream is met by reading. -/
def op : StreamError → Op
  | .input _ | .protocolUnavailable _ | .connect _ _ => .openStream
  | .io op _ | .interrupted op | .unsupported op | .noConnection op => op
  | .eof => .read

/-- The backend's cause, for the errors that carry one. -/
def cause? : StreamError → Option BackendError
  | .connect _ cause | .io _ cause => some cause
  | _ => none

/-- The operation was broken off by its interrupt. -/
def isInterrupted : StreamError → Bool
  | .interrupted _ => true
  | _ => false

/-- The stream has ended. -/
def isEof : StreamError → Bool
  | .eof => true
  | _ => false

/-- The stream cannot do this. -/
def isUnsupported : StreamError → Bool
  | .unsupported _ => true
  | _ => false

end StreamError

/-! ## The generic reading and writing errors -/

/-- The kinds into which the generic errors are sorted. -/
inductive IoKind
  | invalidInput
  | unexpectedEof
  | interrupted
  | unsupported
  | notConnected
  | notFound
  | other
deriving DecidableEq, Repr

/-- An error of the generic reading, writing and seeking operations. -/
structure IoError where
  kind : IoKind
  message : String
deriving DecidableEq, Repr

/-- The kind of a stream error. -/
def StreamError.ioKind : StreamError → IoKind
  | .input _ => .invalidInput
  | .eof => .unexpectedEof
  | .interrupted _ => .interrupted
  | .unsupported _ => .unsupported
  | .noConnection _ => .notConnected
  | .protocolUnavailable _ => .notFound
  | .connect _ _ | .io _ _ => .other

/-- A stream error as a generic one: its kind and its text. -/
def StreamError.toIo (e : StreamError) : IoError := ⟨e.ioKind, e.message⟩

end ByteStream
