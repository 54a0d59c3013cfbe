import Mathlib.Data.List.TakeWhile
import Mathlib.Tactic
import SocketLibrary.Steps.IPCServer

/-!
# The files after a failed construction of an `IPCServerSocket`

The cleanup of `constructSocket` goes through `close()`, which removes the file at the path whoever made it. Each step
of the construction is described by what it does to the files; `construct_keeps_files_iff` says when a construction
without override that throws leaves the files alone that were there before.
-/

namespace SocketLibrary.Files

open SocketLibrary.Interaction SocketLibrary.Posix SocketLibrary.Model

/-! ## The file of a path -/

/-- The name of the file that belongs to a path. -/
def pathName (socketPath : Bytes) : Bytes := c_str (resizePath socketPath)

theorem length_resizePath (path : Bytes) : (resizePath path).length ≤ sunPathSize := by
  unfold resizePath
  split_ifs with h
  · simp
  · omega

/-- A C string has no NUL in front of its end. -/
theorem c_str_append_replicate (s : Bytes) (n : ℕ) : c_str (c_str s ++ List.replicate n 0) = c_str s := by
  have hs : ∀ c ∈ c_str s, (c != 0) = true := fun c hc => List.mem_takeWhile_imp (p := (· != 0)) hc
  rw [c_str, List.takeWhile_append_of_pos hs]
  cases n with
  | zero => simp
  | succ n => simp [List.replicate_succ]

/-- The file that `bind` makes is the one that `removeSocketPath` removes. -/
theorem fileName_pathAddress {path : Bytes} (h : path.length ≤ sunPathSize) :
    Kernel.fileName (pathAddress path) = c_str path := by
  have hle : (c_str path).length ≤ sunPathSize := (List.takeWhile_prefix _).length_le.trans h
  rw [pathAddress, Kernel.fileName, strncpy, List.take_of_length_le hle, c_str_append_replicate]

/-! ## The steps of the construction -/

/-- The construction ends before it binds: `socket` fails, or the operation of the user throws. -/
def EndsEarly : Event Sys Ans Kernel → Prop
  | ⟨_, .socket .., fd⟩ => fd = -1
  | ⟨_, .callback .., ending⟩ => ending = .threw
  | _ => False

section Steps

variable (o : IPCServerSocket) (k : Kernel)

theorem openSocket_files : IPCServerSocket.openSocket.wp Kernel.env (fun tr r o' k' =>
    o'.socketPath = o.socketPath ∧ k'.files = k.files ∧
      (r.Threw ∧ (∃ e ∈ tr, EndsEarly e) ∨ r = .returned () ∧ ¬ ∃ e ∈ tr, EndsEarly e)) o k := by
  refine Method.wp_mono (Steps.openSocket_spec o k) ?_
  rintro tr r o' k' (⟨rfl, fd, h0, rfl, -, rfl, rfl⟩ | ⟨hr, rfl, rfl, n, s, rfl⟩)
  · have hfd : fd ≠ -1 := fun h => absurd (h ▸ h0) (by decide)
    simp [EndsEarly, Kernel.opened, hfd]
  · simp [EndsEarly, hr]

theorem runOperation_files {S : Type} (o : S) (k : Kernel) (operation : Option Callback) (socket : SOCKET) :
    (runOperation operation socket).wp Kernel.env (fun tr r o' k' => o' = o ∧ k' = k ∧
      (r = .returned () ∧ (¬ ∃ e ∈ tr, EndsEarly e) ∨ r.Threw ∧ ∃ e ∈ tr, EndsEarly e)) o k :=
  Steps.runOperation_spec (fun _ _ _ _ => Iff.rfl) operation socket o k

/-- The cleanup of a step that failed removes the file at the path. -/
theorem failed_files {o o' : IPCServerSocket} {k k' : Kernel} {tr : List (Event Sys Ans Kernel)}
    {r : Outcome Exn Unit} (h : Steps.FailedServer o k tr r o' k') :
    r.Threw ∧ o'.socketPath = o.socketPath ∧ (¬ ∃ e ∈ tr, EndsEarly e) ∧
      k'.files = Function.update k.files (c_str o.socketPath) none := by
  obtain ⟨hr, l, n, s, ⟨rfl, rfl, x, rfl⟩, rfl⟩ := h
  refine ⟨hr, rfl, ?_, rfl⟩
  simp [EndsEarly]

/-- `bind` fails where a file lies, and then that file is removed; where it succeeds there was none. -/
theorem bindPath_files (hlen : o.socketPath.length ≤ sunPathSize) :
    IPCServerSocket.bindPath.wp Kernel.env (fun tr r o' k' =>
      o'.socketPath = o.socketPath ∧ (¬ ∃ e ∈ tr, EndsEarly e) ∧
      (∀ name ≠ c_str o.socketPath, k'.files name = k.files name) ∧
      (r.Threw ∧ k'.files (c_str o.socketPath) = none ∨ r = .returned () ∧ k.files (c_str o.socketPath) = none)) o k := by
  have hname := fileName_pathAddress hlen
  refine Method.wp_mono (Steps.bindPath_spec o k) ?_
  rintro tr r o' k' (⟨rfl, rfl, hbind, rfl⟩ | ⟨l, hfailed, rfl⟩)
  · obtain ⟨-, id, hid, h⟩ := hbind.resolve_left fun h => absurd h.1 (by decide)
    rw [hname] at h
    rcases h with ⟨hnil, rfl⟩ | ⟨hne, hnone, rfl⟩
    · simp [hnil, k'.files_nil, EndsEarly]
    · refine ⟨rfl, by simp [EndsEarly], fun name h => ?_, Or.inr ⟨rfl, hnone⟩⟩
      exact Function.update_of_ne h _ _
  · obtain ⟨hr, hpath, htr, hfiles⟩ := failed_files hfailed
    have hgone : k'.files (c_str o.socketPath) = none := by rw [hfiles, Function.update_self]
    refine ⟨hpath, ?_, fun name hne => ?_, Or.inl ⟨hr, hgone⟩⟩
    · exact not_exists_append (l := [_]) (by simp [EndsEarly]) htr
    · rw [hfiles, Function.update_of_ne hne]

theorem startListening_files (connectionBacklogSize : UInt32) :
    (IPCServerSocket.startListening connectionBacklogSize).wp Kernel.env (fun tr _ _ k' =>
      (¬ ∃ e ∈ tr, EndsEarly e) ∧ ∀ name ≠ c_str o.socketPath, k'.files name = k.files name) o k := by
  refine Method.wp_mono (Steps.startListening_spec o k connectionBacklogSize) ?_
  rintro tr r o' k' ⟨x, ⟨-, -, rfl, rfl⟩ | ⟨l, hfailed, rfl⟩⟩
  · simp [EndsEarly]
  · obtain ⟨-, -, htr, hfiles⟩ := failed_files hfailed
    constructor
    · exact not_exists_append (l := [_]) (by simp [EndsEarly]) htr
    · intro name hne
      rw [hfiles, Function.update_of_ne hne]

/-- How a construction without override may treat the files: it ends early and leaves them alone, or it gets as far as
`bind`, keeps every other file, and an exception leaves no file at the path. -/
def FilesAfter (name : Bytes) (k : Kernel) : Method.Post Sys Ans Kernel Exn IPCServerSocket Unit := fun tr r _ k' =>
  (∃ e ∈ tr, EndsEarly e) ∧ k'.files = k.files ∨
  (¬ ∃ e ∈ tr, EndsEarly e) ∧ (∀ other ≠ name, k'.files other = k.files other) ∧
    (r.Threw ∧ k'.files name = none ∨ k.files name = none)

theorem openBindListen_files (connectionBacklogSize : UInt32) (preBindSocketOperation : Option Callback)
    (hlen : o.socketPath.length ≤ sunPathSize) :
    (IPCServerSocket.openAndBind preBindSocketOperation >>= fun _ =>
      IPCServerSocket.startListening connectionBacklogSize).wp Kernel.env
        (FilesAfter (c_str o.socketPath) k) o k := by
  rw [IPCServerSocket.openAndBind, Method.wp_bind_assoc, Method.wp_bind]
  refine Method.wp_mono (openSocket_files o k) ?_
  rintro tr r o₁ k₁ ⟨hpath, hfiles, ⟨hr, hearly⟩ | ⟨rfl, htr⟩⟩
  · obtain ⟨e, rfl⟩ := hr.exists_eq
    exact Or.inl ⟨hearly, hfiles⟩
  rw [Method.after_returned, Method.wp_bind_assoc, Method.wp_bind, Method.wp_this, Method.after_returned,
    Method.wp_bind_assoc, Method.wp_bind]
  refine Method.wp_mono (runOperation_files o₁ k₁ _ _) ?_
  rintro tr₁ r o₂ k₂ ⟨rfl, rfl, ⟨rfl, htr₁⟩ | ⟨hr, e, he, hearly⟩⟩
  swap
  · obtain ⟨x, rfl⟩ := hr.exists_eq
    exact Or.inl ⟨⟨e, by simp [he], hearly⟩, hfiles⟩
  have hlen₂ : o₂.socketPath.length ≤ sunPathSize := by rwa [hpath]
  rw [Method.after_returned, Method.wp_bind]
  refine Method.wp_mono (bindPath_files o₂ k₂ hlen₂) ?_
  rintro tr₂ r o₃ k₃ ⟨hpath₃, htr₂, hother, hend⟩
  rw [hpath] at hother hend
  have hlate : ¬ ∃ e ∈ tr ++ (tr₁ ++ tr₂), EndsEarly e := not_exists_append htr (not_exists_append htr₁ htr₂)
  rcases hend with ⟨hr, hnone⟩ | ⟨rfl, hnone⟩
  · obtain ⟨x, rfl⟩ := hr.exists_eq
    refine Or.inr ⟨hlate, fun other hne => ?_, Or.inl ⟨trivial, hnone⟩⟩
    rw [hother other hne, hfiles]
  rw [Method.after_returned]
  refine Method.wp_mono (startListening_files o₃ k₃ connectionBacklogSize) ?_
  rintro tr₃ r o' k' ⟨htr₃, hother₃⟩
  rw [hpath₃, hpath] at hother₃
  rw [hfiles] at hnone
  have hlate₃ : ¬ ∃ e ∈ tr ++ (tr₁ ++ (tr₂ ++ tr₃)), EndsEarly e := by
    simpa only [List.append_assoc] using not_exists_append hlate htr₃
  refine Or.inr ⟨hlate₃, fun other hne => ?_, Or.inr hnone⟩
  rw [hother₃ other hne, hother other hne, hfiles]

theorem construct_files (socketPath : Bytes) (connectionBacklogSize : UInt32)
    (preBindSocketOperation : Option Callback) :
    (IPCServerSocket.construct socketPath false connectionBacklogSize preBindSocketOperation).wp Kernel.env
      (FilesAfter (pathName socketPath) k) o k := by
  have h := openBindListen_files ⟨o.socket, resizePath socketPath⟩ k connectionBacklogSize preBindSocketOperation
    (length_resizePath socketPath)
  simpa [IPCServerSocket.construct, IPCServerSocket.constructSocket, IPCServerSocket.removeOnOverride, pathName] using h

end Steps

/-- **Files after an exception.** A construction without override that throws leaves every file in place that was there
before, if and only if there was none at the path, or it got no further than `socket` or the operation of the user. -/
theorem construct_keeps_files_iff {socketPath : Bytes} {connectionBacklogSize : UInt32}
    {preBindSocketOperation : Option Callback} {o o' : IPCServerSocket} {k k' : Kernel}
    {tr : List (Event Sys Ans Kernel)} {r : Outcome Exn Unit}
    (h : (IPCServerSocket.construct socketPath false connectionBacklogSize preBindSocketOperation).Runs Kernel.env o k
      tr r o' k') :
    (r.Threw → ∀ name owner, k.files name = some owner → k'.files name = some owner) ↔
      (k.files (pathName socketPath) = none ∨ ∃ e ∈ tr, EndsEarly e) := by
  have hfiles := Method.wp_iff.1 (construct_files o k socketPath connectionBacklogSize preBindSocketOperation) tr r o' k' h
  rcases hfiles with ⟨hearly, heq⟩ | ⟨hlate, hother, hrest⟩
  · refine iff_of_true (fun _ name owner hname => ?_) (Or.inr hearly)
    rw [heq]
    exact hname
  · cases hfree : k.files (pathName socketPath) with
    | none =>
      refine iff_of_true (fun _ name owner hname => ?_) (Or.inl rfl)
      have hne : name ≠ pathName socketPath := fun he => by simp [he, hfree] at hname
      rw [hother name hne]
      exact hname
    | some owner =>
      have hlies : some owner ≠ none := Option.some_ne_none owner
      obtain ⟨hr, hgone⟩ := hrest.resolve_right fun h => hlies (hfree.symm.trans h)
      refine iff_of_false (fun hkeep => ?_) fun h => h.elim hlies hlate
      rw [hkeep hr _ owner hfree] at hgone
      exact hlies hgone

section Examples

/-- A construction whose `listen` fails, next to that file. -/
theorem construct_keeps_files_iff_listen : ∃ tr r o' k',
    (IPCServerSocket.construct [115] false 0 none).Runs Kernel.env ⟨0, []⟩ (.boot [[116]]) tr r o' k' ∧ r.Threw ∧
      ∀ name owner, (Kernel.boot [[116]]).files name = some owner → k'.files name = some owner := by
  have hrun := Kernel.execute_runs (fun c => c matches .listen ..) 3 (IPCServerSocket.construct [115] false 0 none)
    ⟨0, []⟩ (.boot [[116]])
  exact ⟨_, _, _, _, hrun, trivial, (construct_keeps_files_iff hrun).2 (Or.inl (by decide)) trivial⟩

/-- A construction at the path of that file throws, and removes it. -/
theorem construct_removes_file : ¬ ∀ (socketPath : Bytes) (connectionBacklogSize : UInt32)
    (preBindSocketOperation : Option Callback) (o o' : IPCServerSocket) (k k' : Kernel)
    (tr : List (Event Sys Ans Kernel)) (r : Outcome Exn Unit),
    (IPCServerSocket.construct socketPath false connectionBacklogSize preBindSocketOperation).Runs Kernel.env o k
      tr r o' k' → r.Threw → ∀ name owner, k.files name = some owner → k'.files name = some owner := by
  intro h
  have hrun := Kernel.execute_runs (fun _ => false) 3 (IPCServerSocket.construct [115] false 0 none) ⟨0, []⟩
    (.boot [[115]])
  have hkept := h _ _ _ _ _ _ _ _ _ hrun trivial [115] .other (by decide)
  exact absurd hkept (by decide)

end Examples

end SocketLibrary.Files
