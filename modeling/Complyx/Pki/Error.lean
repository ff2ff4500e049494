import Complyx.Db.Schema

namespace Complyx

/-!
# Errors of the PKI and their gRPC status

The enrolment service answers a status whose text is the error's own for
errors the agent can act on, and a fixed one for internal errors.
-/

inductive PkiError where
  | tokenInvalid
  | tokenAlreadyUsed
  | tokenExpired
  | agentNotFound (agentId : Uuid)
  | csrParse (reason : String)
  | csrSignatureInvalid (reason : String)
  | certGeneration (reason : String)
  | io (path source : String)
  | database (cause : DbError)
  | invalidIp (reason : String)
  deriving DecidableEq, Repr

/-- The gRPC codes the services use. -/
inductive StatusCode where
  | unauthenticated
  | permissionDenied
  | invalidArgument
  | notFound
  | internal
  deriving DecidableEq, Repr

structure Status where
  code : StatusCode
  message : String
  deriving DecidableEq, Repr

def Status.unauthenticated (message : String) : Status :=
  ⟨.unauthenticated, message⟩

def Status.permissionDenied (message : String) : Status :=
  ⟨.permissionDenied, message⟩

def Status.invalidArgument (message : String) : Status :=
  ⟨.invalidArgument, message⟩

def Status.notFound (message : String) : Status := ⟨.notFound, message⟩

def Status.internal (message : String) : Status := ⟨.internal, message⟩

/-- `From<PkiError> for tonic::Status`. -/
def PkiError.toStatus (text : UuidText) : PkiError -> Status
  | .tokenInvalid => .unauthenticated "token de enrolamiento inválido"
  | .tokenAlreadyUsed => .unauthenticated "token de enrolamiento ya utilizado"
  | .tokenExpired => .unauthenticated "token de enrolamiento expirado"
  | .csrParse reason => .invalidArgument ("CSR inválido: " ++ reason)
  | .csrSignatureInvalid reason =>
      .invalidArgument ("firma del CSR inválida: " ++ reason)
  | .agentNotFound agentId =>
      .notFound ("agente " ++ text.toText agentId ++ " no encontrado")
  | .certGeneration _ => .internal "error interno del servidor"
  | .io _ _ => .internal "error interno del servidor"
  | .database _ => .internal "error interno del servidor"
  | .invalidIp _ => .invalidArgument "Ip inválida en el certificado"

/-- Causes inside the server are never shown to the agent. -/
theorem PkiError.toStatus_internal {text : UuidText} {error : PkiError}
    (internal : (error.toStatus text).code = .internal) :
    error.toStatus text = .internal "error interno del servidor" := by
  cases error <;> first | rfl | cases internal

end Complyx
