/-!
# Gatewayd.Errors

Modelled from the spec: the `gerr` package is not among the sources. Its error kinds are those of
§7 of the spec, and those of errors the proxy only passes along; a `*gerr.GatewayDError` carries
its kind and the error it wraps (`Wrap`), which `Unwrap` returns, so that `errors.Is` can follow
the chain down to `io.EOF`.

Go's `error` is an interface, and two of its dynamic types matter to the proxy:
`*gerr.GatewayDError` (returned by the pool, the hooks, `Send` and `Receive`) and everything else
(`io.EOF`, the errors of `gnet.Conn.Next` and `AsyncWrite`), kept here as `PlainError` with the
text `Error()` returns.
-/

namespace Gatewayd

/-- Modelled from the spec: the kinds of `*gerr.GatewayDError` that §7 lists, and the others. -/
inductive ErrCode where
  | poolExhausted
  | clientNotFound
  | clientNotConnected
  | castFailed
  | serverSendFailed
  | resolveFailed
  | networkNotSupported
  | other (name : String)
  deriving DecidableEq, Repr

inductive PlainError where
  | eof
  | msg (text : String)
  deriving DecidableEq, Repr

def PlainError.error : PlainError → String
  | .eof => "EOF"
  | .msg text => text

inductive GoError where
  | plain (e : PlainError)
  | gatewayD (code : ErrCode) (originalError : Option GoError)
  deriving Repr

/-- Modelled from the spec: a non-nil `*gerr.GatewayDError`. -/
structure GatewayDError where
  code : ErrCode
  originalError : Option GoError
  deriving Repr

namespace GatewayDError

def toError (e : GatewayDError) : GoError := .gatewayD e.code e.originalError

def unwrap (e : GatewayDError) : Option GoError := e.originalError

def wrap (e : GatewayDError) (err : Option GoError) : GatewayDError :=
  { e with originalError := err }

@[simp] theorem wrap_code (e : GatewayDError) (err : Option GoError) : (e.wrap err).code = e.code :=
  rfl

@[simp] theorem wrap_originalError (e : GatewayDError) (err : Option GoError) :
    (e.wrap err).originalError = err := rfl

end GatewayDError

/-- `errors.Is(err, io.EOF)` for a non-nil `err`: `err` is `io.EOF`, or unwraps to it. -/
def GoError.isEOF : GoError → Bool
  | .plain e => e == .eof
  | .gatewayD _ none => false
  | .gatewayD _ (some e) => e.isEOF

def errorsIsEOF : Option GoError → Bool
  | none => false
  | some e => e.isEOF

/-! ## The error values the proxy returns -/

def errPoolExhausted : GatewayDError := ⟨.poolExhausted, none⟩
def errClientNotFound : GatewayDError := ⟨.clientNotFound, none⟩
def errClientNotConnected : GatewayDError := ⟨.clientNotConnected, none⟩
def errCastFailed : GatewayDError := ⟨.castFailed, none⟩
def errServerSendFailed : GatewayDError := ⟨.serverSendFailed, none⟩
def errResolveFailed : GatewayDError := ⟨.resolveFailed, none⟩
def errNetworkNotSupported : GatewayDError := ⟨.networkNotSupported, none⟩

end Gatewayd
