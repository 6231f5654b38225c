import BatchedSave.Program.Basic

/-!
# Two manners of calling the store

A blocking call is waited for. A suspending call looks at the token first and never starts once
the caller has given up; while it is pending, cancellation drops it.
-/
namespace BatchedSave

inductive Manner where
  | blocking | suspending
  deriving DecidableEq, Repr

/-- A call that is waited for. -/
def wait (call : StoreCall) : Attempt call.Result :=
  ExceptT.mk (Program.request (.store call))

/-- A call that cancellation may prevent or drop; `origin` is then the error's. -/
def suspend (origin : Origin) (call : StoreCall) : Attempt call.Result :=
  ExceptT.mk do
    if ← Program.request .cancelled then
      return .error (.cancelled origin)
    match ← Program.request (.await call) with
    | some result => return result
    | none => return .error (.cancelled origin)

/-- A call in either manner. -/
def Manner.perform (manner : Manner) (origin : Origin) (call : StoreCall) : Attempt call.Result :=
  match manner with
  | blocking => wait call
  | suspending => suspend origin call

end BatchedSave
