import SocketLibrary.Posix.Calls

/-!
# The base class: `socket/Socket.cpp` and `socketexceptions/SocketError.cpp`
-/

namespace SocketLibrary.Model

open SocketLibrary.Interaction SocketLibrary.Posix

variable {S : Type}

def getErrorCode : M S Bytes := do
  let errnum ← sys .errno
  sys (.strerror errnum)

@[simp] theorem always_getErrorCode {P : Sys → Prop} {o : S} {Q : Outcome Exn Bytes → S → Prop} :
    getErrorCode.Always P o Q ↔ P .errno ∧ ∀ errnum, P (.strerror errnum) ∧ ∀ code, Q (.returned code) o := by
  simp [getErrorCode]

def getInvalidSocketValue : SOCKET := -1

def isInvalidSocket (descriptor : SOCKET) : Bool := descriptor == getInvalidSocketValue

@[simp] theorem isInvalidSocket_iff {fd : SOCKET} : isInvalidSocket fd = true ↔ fd = -1 := by
  simp [isInvalidSocket, getInvalidSocketValue]

namespace Socket

/-- `timeout` is in microseconds, and only read without a `timeOutVal`. -/
def pollSocket (socketDescriptor : SOCKET) (timeout : ℤ) (timeOutVal : Option TimeVal) : M S ℤ :=
  if isInvalidSocket socketDescriptor then
    return -1
  else
    let timeOutVal := timeOutVal.getD ⟨timeout.tdiv 1000000, timeout.tmod 1000000⟩
    sys (.select (toInt32 (socketDescriptor + 1)) socketDescriptor timeOutVal)

def close (socket : SOCKET) : M S Unit := sys (.close socket)

end Socket

/-- Run an optional operation of the user on a descriptor, `operation.value()(socket)`. -/
def runOperation (operation : Option Callback) (socket : SOCKET) : M S Unit :=
  match operation with
  | none => return ()
  | some f => do
    match ← sys (.callback f socket) with
    | .returned => return ()
    | .threw => Method.throw (.user f)

@[simp] theorem always_runOperation {P : Sys → Prop} {o : S} {operation : Option Callback} {socket : SOCKET}
    {Q : Outcome Exn Unit → S → Prop} : (runOperation operation socket).Always P o Q ↔
      (operation = none → Q (.returned ()) o) ∧
      ∀ f, operation = some f → P (.callback f socket) ∧ Q (.returned ()) o ∧ Q (.threw (.user f)) o := by
  cases operation with
  | none => simp [runOperation]
  | some f =>
    simp only [runOperation, Method.always_bind, always_sys, reduceCtorEq, false_implies, true_and, Option.some.injEq,
      forall_eq']
    refine and_congr_right fun _ => ?_
    constructor
    · intro h
      exact ⟨h .returned, h .threw⟩
    · rintro ⟨hreturned, hthrew⟩ (_ | _)
      · exact hreturned
      · exact hthrew

end SocketLibrary.Model
