import Complyx.Pki.Enrollment

namespace Complyx

open Transition

/-!
# The enrolment service

The service fills in the address of the agent before it hands the request to
the PKI.  It has no access to the peer's address and writes a constant.
-/

/-- The message `EnrollRequest` of the protocol. -/
structure EnrollMessage where
  token : String
  csrPem : String
  hostname : String
  osName : String
  osVersion : String
  deriving DecidableEq

structure EnrollResponse where
  certPem : String
  caCertPem : String
  deriving DecidableEq

/-- One RPC with the clock readings and the random identifier it draws. -/
structure EnrollRpc where
  message : EnrollMessage
  checkedAt : DateTime
  draws : SignDraws

structure EnrollServiceImpl where
  ctx : EnrollContext
  text : UuidText
  certValidityDays : Int

def remoteIp : String := "0.0.0.0"

/-- The request the service makes of the message. -/
def EnrollMessage.request (message : EnrollMessage) : EnrollRequest where
  token := message.token
  csrPem := message.csrPem
  hostname := message.hostname
  osName := message.osName
  osVersion := message.osVersion
  remoteIp := remoteIp

def EnrollServiceImpl.call (service : EnrollServiceImpl)
    (rpc : EnrollRpc) : EnrollCall where
  request := rpc.message.request
  validityDays := service.certValidityDays
  checkedAt := rpc.checkedAt
  draws := rpc.draws

/-- `enroll`. -/
def EnrollServiceImpl.enroll (service : EnrollServiceImpl) (rpc : EnrollRpc) :
    Code (Fault Status) EnrollResponse := do
  let result <- (processEnroll service.ctx (service.call rpc)).mapError
    (Fault.map (PkiError.toStatus service.text))
  return { certPem := result.certPem, caCertPem := result.caCertPem }

/-- An RPC succeeds exactly when its enrolment does, and leaves the same state. -/
theorem run_enroll (service : EnrollServiceImpl) (rpc : EnrollRpc)
    (envs : Nat -> Env) (db : Db) :
    Program.run exec (service.enroll rpc) envs db =
      match Program.run exec (processEnroll service.ctx (service.call rpc))
        envs db with
      | (.ok result, db') => (.ok ⟨result.certPem, result.caCertPem⟩, db')
      | (.error failure, db') =>
          (.error (failure.map (PkiError.toStatus service.text)), db') := by
  rw [EnrollServiceImpl.enroll, Program.run_bind, Program.run_mapError]
  rcases Program.run exec (processEnroll service.ctx (service.call rpc)) envs
    db with ⟨outcome, db'⟩
  cases outcome <;> rfl

end Complyx
