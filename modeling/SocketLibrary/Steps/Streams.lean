import SocketLibrary.Descriptors.Sharing

/-!
# The calls on a byte stream

Whatever is answered, the methods of `ConnectionOrientedSocket` make no calls but `select`, `send` and `recv`, and change
no field of the object.
-/

namespace SocketLibrary.Steps

open SocketLibrary.Interaction SocketLibrary.Posix SocketLibrary.Model SocketLibrary.Model.ConnectionOrientedSocket
open SocketLibrary.Descriptors (StreamCall)

/-- A call of `select`, `send` or `recv`. -/
def OnStream : Sys → Prop
  | .select .. | .send .. | .recv .. => True
  | _ => False

/-- The method makes only such calls, and leaves the object as it is. -/
def OnlyStreams {S α : Type} (m : M S α) : Prop := ∀ o, m.Always OnStream o fun _ o' => o' = o

namespace OnlyStreams

variable {S α β : Type}

theorem pure (a : α) : OnlyStreams (pure a : M S α) := fun _ => rfl

theorem throw (e : Exn) : OnlyStreams (Method.throw e : M S α) := fun _ => rfl

theorem sys {c : Sys} (hc : OnStream c) : OnlyStreams (sys c : M S (Ans c)) := fun _ => ⟨hc, fun _ => rfl⟩

theorem ite {p : Prop} [Decidable p] {m m' : M S α} (h : OnlyStreams m) (h' : OnlyStreams m') :
    OnlyStreams (if p then m else m') := by
  split
  · exact h
  · exact h'

theorem bind {m : M S α} {f : α → M S β} (hm : OnlyStreams m) (hf : ∀ a, OnlyStreams (f a)) : OnlyStreams (m >>= f) := by
  intro o
  refine (hm o).seq fun a o' ho' => ?_
  subst ho'
  exact hf a o'

theorem iterate {body : β → M S (β ⊕ α)} (hbody : ∀ b, OnlyStreams (body b)) (n : ℕ) (b : β) :
    OnlyStreams (Method.iterate body n b) := by
  intro o
  refine Method.Always.iterate (I := (· = o)) (fun b o' ho' => ?_) n b o rfl
  subst ho'
  exact hbody b o'

end OnlyStreams

section Streams

variable {S : Type} (dm : DataModel) (socket : SOCKET)

theorem pollSocket_onlyStreams (timeout : ℤ) (timeOutVal : Option TimeVal) :
    OnlyStreams (Socket.pollSocket socket timeout timeOutVal : M S ℤ) := .ite (.pure _) (.sys trivial)

theorem ready_onlyStreams (timeout : ULong dm) : OnlyStreams (ready dm socket timeout : M S Bool) :=
  .bind (pollSocket_onlyStreams socket _ _) fun _ => .pure _

theorem connected_onlyStreams (timeout : ULong dm) : OnlyStreams (connected dm socket timeout : M S Bool) :=
  .bind (pollSocket_onlyStreams socket _ _) fun _ => .pure _

theorem sendBuffer_onlyStreams (message : Bytes) (messageLength flags : ℤ) :
    OnlyStreams (sendBuffer socket message messageLength flags : M S ℤ) := .sys trivial

theorem receiveAmountTurn_onlyStreams (amountToReceive : UInt32) (flags : ℤ) (p : ℤ × Bytes) :
    OnlyStreams (receiveAmountTurn dm socket amountToReceive flags p : M S ((ℤ × Bytes) ⊕ (ℤ × Bytes))) := by
  refine .bind (.sys trivial) fun received => ?_
  refine .ite (.pure _) (.ite (.throw _) (.ite ?_ (.pure _)))
  exact .bind (ready_onlyStreams dm socket _) fun _ => .ite (.pure _) (.pure _)

theorem receiveAmountInto_onlyStreams (buffer : Bytes) (amountToReceive : UInt32) (flags : ℤ) :
    OnlyStreams (receiveAmountInto dm socket buffer amountToReceive flags : M S (ℤ × Bytes)) :=
  .ite (.pure _) (.iterate (receiveAmountTurn_onlyStreams dm socket _ _) _ _)

theorem receiveAmount_onlyStreams (amountToReceive : UInt32) (flags : ℤ) :
    OnlyStreams (receiveAmount dm socket amountToReceive flags : M S Bytes) :=
  .bind (receiveAmountInto_onlyStreams dm socket _ _ _) fun _ => .pure _

theorem get_onlyStreams (flags : ℤ) : OnlyStreams (ConnectionOrientedSocket.get dm socket flags : M S (Option UInt8)) :=
  .bind (receiveAmount_onlyStreams dm socket _ _) fun _ => .pure _

theorem receiveToDelimiterTurn_onlyStreams (delimiter : UInt8) (flags : ℤ) (data : Bytes) :
    OnlyStreams (receiveToDelimiterTurn dm socket delimiter flags data : M S (Bytes ⊕ Bytes)) := by
  refine .bind (get_onlyStreams dm socket _) fun character => ?_
  cases character with
  | none => exact .pure _
  | some c =>
    refine .ite (.pure _) (.bind (ready_onlyStreams dm socket _) fun _ => ?_)
    exact .ite (.pure _) (.pure _)

theorem receiveToDelimiter_onlyStreams (fuel : ℕ) (delimiter : UInt8) (flags : ℤ) :
    OnlyStreams (receiveToDelimiter dm socket fuel delimiter flags : M S Bytes) := by
  refine .ite (.throw _) (.bind (ready_onlyStreams dm socket _) fun _ => ?_)
  exact .ite (.iterate (receiveToDelimiterTurn_onlyStreams dm socket _ _) _ _) (.pure _)

theorem receiveAllTurn_onlyStreams (timeout : ULong dm) (flags : ℤ) (p : Bytes × Bool) :
    OnlyStreams (receiveAllTurn dm socket timeout flags p : M S ((Bytes × Bool) ⊕ Bytes)) := by
  refine .bind (ready_onlyStreams dm socket _) fun _ => .ite ?_ (.pure _)
  refine .bind (pollSocket_onlyStreams socket _ _) fun _ => ?_
  exact .bind (receiveAmount_onlyStreams dm socket _ _) fun _ => .ite (.pure _) (.pure _)

theorem receiveAll_onlyStreams (fuel : ℕ) (timeout : ULong dm) (flags : ℤ) :
    OnlyStreams (receiveAll dm socket fuel timeout flags : M S Bytes) :=
  .iterate (receiveAllTurn_onlyStreams dm socket _ _) _ _

/-- **Every method of `ConnectionOrientedSocket`.** -/
theorem streamCall_onlyStreams (c : StreamCall dm) : OnlyStreams (c.perform socket : M S Unit) := by
  cases c with
  | ready timeout => exact .bind (ready_onlyStreams dm socket _) fun _ => .pure _
  | connected timeout => exact .bind (connected_onlyStreams dm socket _) fun _ => .pure _
  | sendBuffer message messageLength flags => exact .bind (sendBuffer_onlyStreams socket _ _ _) fun _ => .pure _
  | send message flags => exact .bind (sendBuffer_onlyStreams socket _ _ _) fun _ => .pure _
  | get flags => exact .bind (get_onlyStreams dm socket _) fun _ => .pure _
  | receiveAmount amountToReceive flags => exact .bind (receiveAmount_onlyStreams dm socket _ _) fun _ => .pure _
  | receiveAmountInto buffer amountToReceive flags =>
    exact .bind (receiveAmountInto_onlyStreams dm socket _ _ _) fun _ => .pure _
  | receiveToDelimiter fuel delimiter flags =>
    exact .bind (receiveToDelimiter_onlyStreams dm socket _ _ _) fun _ => .pure _
  | receiveAll fuel timeout flags => exact .bind (receiveAll_onlyStreams dm socket _ _ _) fun _ => .pure _

end Streams

end SocketLibrary.Steps
