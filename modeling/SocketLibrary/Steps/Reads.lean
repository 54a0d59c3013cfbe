import SocketLibrary.Descriptors.Sharing

/-!
# The descriptor and the flags of the calls on a stream

Whatever is answered, the methods of `ConnectionOrientedSocket` make no calls but `select`, `send` and `recv` on the
descriptor they are given, with the flags they are given. So what holds of these calls (`P`) holds of all that the
methods do.
-/

namespace SocketLibrary.Steps

open SocketLibrary.Interaction SocketLibrary.Posix SocketLibrary.Model SocketLibrary.Model.ConnectionOrientedSocket
open SocketLibrary.Descriptors (StreamCall)

section Reads

variable {S : Type} {dm : DataModel} {socket : SOCKET} {flags : ℤ} {P : Sys → Prop}
  (hselect : ∀ nfds t, P (.select nfds socket t)) (hrecv : ∀ offset length, P (.recv socket offset length flags))

include hselect

theorem pollSocket_within (timeout : ℤ) (timeOutVal : Option TimeVal) :
    Method.Within P (Socket.pollSocket socket timeout timeOutVal : M S ℤ) := .ite (.pure _) (.call (hselect _ _))

theorem ready_within (timeout : ULong dm) : Method.Within P (ready dm socket timeout : M S Bool) :=
  .bind (pollSocket_within hselect _ _) fun _ => .pure _

theorem connected_within (timeout : ULong dm) : Method.Within P (connected dm socket timeout : M S Bool) :=
  .bind (pollSocket_within hselect _ _) fun _ => .pure _

include hrecv

theorem receiveAmountTurn_within (amountToReceive : UInt32) (p : ℤ × Bytes) :
    Method.Within P (receiveAmountTurn dm socket amountToReceive flags p : M S ((ℤ × Bytes) ⊕ (ℤ × Bytes))) := by
  refine .bind (.call (hrecv _ _)) fun received => ?_
  refine .ite (.pure _) (.ite (.throw _) (.ite ?_ (.pure _)))
  exact .bind (ready_within hselect _) fun _ => .ite (.pure _) (.pure _)

theorem receiveAmountInto_within (buffer : Bytes) (amountToReceive : UInt32) :
    Method.Within P (receiveAmountInto dm socket buffer amountToReceive flags : M S (ℤ × Bytes)) :=
  .ite (.pure _) (.iterate (receiveAmountTurn_within hselect hrecv _) _ _)

theorem receiveAmount_within (amountToReceive : UInt32) :
    Method.Within P (receiveAmount dm socket amountToReceive flags : M S Bytes) :=
  .bind (receiveAmountInto_within hselect hrecv _ _) fun _ => .pure _

theorem get_within : Method.Within P (ConnectionOrientedSocket.get dm socket flags : M S (Option UInt8)) :=
  .bind (receiveAmount_within hselect hrecv _) fun _ => .pure _

theorem receiveToDelimiterTurn_within (delimiter : UInt8) (data : Bytes) :
    Method.Within P (receiveToDelimiterTurn dm socket delimiter flags data : M S (Bytes ⊕ Bytes)) := by
  refine .bind (get_within hselect hrecv) fun character => ?_
  cases character with
  | none => exact .pure _
  | some c =>
    refine .ite (.pure _) (.bind (ready_within hselect _) fun _ => ?_)
    exact .ite (.pure _) (.pure _)

theorem receiveToDelimiter_within (fuel : ℕ) (delimiter : UInt8) :
    Method.Within P (receiveToDelimiter dm socket fuel delimiter flags : M S Bytes) := by
  refine .ite (.throw _) (.bind (ready_within hselect _) fun _ => ?_)
  exact .ite (.iterate (receiveToDelimiterTurn_within hselect hrecv _) _ _) (.pure _)

theorem receiveAllTurn_within (timeout : ULong dm) (p : Bytes × Bool) :
    Method.Within P (receiveAllTurn dm socket timeout flags p : M S ((Bytes × Bool) ⊕ Bytes)) := by
  refine .bind (ready_within hselect _) fun _ => .ite ?_ (.pure _)
  refine .bind (pollSocket_within hselect _ _) fun _ => ?_
  exact .bind (receiveAmount_within hselect hrecv _) fun _ => .ite (.pure _) (.pure _)

theorem receiveAll_within (fuel : ℕ) (timeout : ULong dm) :
    Method.Within P (receiveAll dm socket fuel timeout flags : M S Bytes) :=
  .iterate (receiveAllTurn_within hselect hrecv _) _ _

end Reads

/-- **Every method of `ConnectionOrientedSocket`.** -/
theorem streamCall_within {S : Type} {dm : DataModel} {socket : SOCKET} {P : Sys → Prop}
    (hselect : ∀ nfds t, P (.select nfds socket t)) (hsend : ∀ message length flags, P (.send socket message length flags))
    (hrecv : ∀ offset length flags, P (.recv socket offset length flags)) (c : StreamCall dm) :
    Method.Within P (c.perform socket : M S Unit) := by
  cases c with
  | ready timeout => exact .bind (ready_within hselect _) fun _ => .pure _
  | connected timeout => exact .bind (connected_within hselect _) fun _ => .pure _
  | sendBuffer message messageLength flags => exact .bind (.call (hsend _ _ _)) fun _ => .pure _
  | send message flags => exact .bind (.call (hsend _ _ _)) fun _ => .pure _
  | get flags => exact .bind (get_within hselect fun _ _ => hrecv _ _ _) fun _ => .pure _
  | receiveAmount amountToReceive flags =>
    exact .bind (receiveAmount_within hselect (fun _ _ => hrecv _ _ _) _) fun _ => .pure _
  | receiveAmountInto buffer amountToReceive flags =>
    exact .bind (receiveAmountInto_within hselect (fun _ _ => hrecv _ _ _) _ _) fun _ => .pure _
  | receiveToDelimiter fuel delimiter flags =>
    exact .bind (receiveToDelimiter_within hselect (fun _ _ => hrecv _ _ _) _ _) fun _ => .pure _
  | receiveAll fuel timeout flags =>
    exact .bind (receiveAll_within hselect (fun _ _ => hrecv _ _ _) _ _) fun _ => .pure _

end SocketLibrary.Steps
