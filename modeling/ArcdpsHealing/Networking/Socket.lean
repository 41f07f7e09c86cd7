import ArcdpsHealing.Lib.Memory
import ArcdpsHealing.Lib.Ownership
import ArcdpsHealing.Lib.Run

/-! Sockets, which own the handles that they get from the operating system. -/

namespace ArcdpsHealing.Networking

open Lib Lib.Transaction Relation

/-- The handles are of a type of the operating system, one of which is no handle. -/
structure Socket (H : Type) where
  mHandle : H

variable {H : Type} [DecidableEq H] (invalidSocket : H)

def Returned (history : List (Transaction H)) (res : H) : Prop :=
  res ≠ invalidSocket → ¬ Outstanding history res

namespace Socket

def new : Socket H := ⟨invalidSocket⟩

/-- The handle is gone, whether or not the operating system reports an error. -/
def close (s : Socket H) (history : List (Transaction H)) : Socket H × List (Transaction H) :=
  if s.mHandle = invalidSocket then (s, history)
  else (⟨invalidSocket⟩, history ++ [.released s.mHandle])

/-- The call of the operating system returns `res`. -/
def socket (s : Socket H) (history : List (Transaction H)) (res : H) :
    Socket H × List (Transaction H) :=
  let (s, history) := s.close invalidSocket history
  if res = invalidSocket then (s, history) else (⟨res⟩, history ++ [.obtained res])

def accept (outSocket : Socket H) (history : List (Transaction H)) (res : H) :
    Except Fault (Socket H × List (Transaction H)) :=
  if outSocket.mHandle ≠ invalidSocket then .error .assertion
  else if res = invalidSocket then .ok (outSocket, history)
  else .ok (⟨res⟩, history ++ [.obtained res])

def handle (s : Socket H) : Option H := if s.mHandle = invalidSocket then none else some s.mHandle

end Socket

inductive SocketCall (ι H : Type)
  | construct (i : ι)
  | socket (i : ι) (res : H)
  | accept (i outSocket : ι) (res : H)
  | moveConstruct (i other : ι)
  | moveAssign (i other : ι)
  | close (i : ι)
  | destroy (i : ι)

structure Sockets (ι H : Type) where
  objects : ι → Option (Socket H)
  history : List (Transaction H)

namespace Sockets

variable {ι : Type} [DecidableEq ι]

def initial : Sockets ι H := ⟨fun _ => none, []⟩

def put (x : Sockets ι H) (i : ι) (result : Socket H × List (Transaction H)) : Sockets ι H :=
  ⟨Function.update x.objects i (some result.1), result.2⟩

/-- Both kinds of moves read the handle first, and then mark the other object. -/
def move (x : Sockets ι H) (i other : ι) (s : Socket H) : Sockets ι H :=
  (x.put i (s, x.history)).put other (⟨invalidSocket⟩, x.history)

def destroy (x : Sockets ι H) (i : ι) (s : Socket H) : Sockets ι H :=
  ⟨Function.update x.objects i none, (s.close invalidSocket x.history).2⟩

inductive Step : Sockets ι H → SocketCall ι H → Sockets ι H → Prop
  | construct {x i} (fresh : x.objects i = none) :
      Step x (.construct i) (x.put i (.new invalidSocket, x.history))
  | socket {x i s res} (here : x.objects i = some s)
      (os : Returned invalidSocket (s.close invalidSocket x.history).2 res) :
      Step x (.socket i res) (x.put i (s.socket invalidSocket x.history res))
  | accept {x i s outSocket t res result} (here : x.objects i = some s)
      (out : x.objects outSocket = some t) (os : Returned invalidSocket x.history res)
      (accepted : t.accept invalidSocket x.history res = .ok result) :
      Step x (.accept i outSocket res) (x.put outSocket result)
  | moveConstruct {x i other s} (fresh : x.objects i = none) (there : x.objects other = some s) :
      Step x (.moveConstruct i other) (x.move invalidSocket i other s)
  | moveAssign {x i t other s} (here : x.objects i = some t) (there : x.objects other = some s) :
      Step x (.moveAssign i other) (x.move invalidSocket i other s)
  | close {x i s} (here : x.objects i = some s) :
      Step x (.close i) (x.put i (s.close invalidSocket x.history))
  | destroy {x i s} (here : x.objects i = some s) :
      Step x (.destroy i) (x.destroy invalidSocket i s)

theorem Step.unique {x y z : Sockets ι H} {call : SocketCall ι H}
    (step : Step invalidSocket x call y) (step' : Step invalidSocket x call z) : y = z := by
  cases step with
  | construct | close here | destroy here | socket here => cases step'; simp_all
  | moveConstruct fresh there | moveAssign here there => cases step'; simp_all
  | accept here out os accepted =>
    cases step' with
    | accept here' out' os' accepted' =>
      cases out.symm.trans out'
      cases accepted.symm.trans accepted'
      rfl

def overwrites (x : Sockets ι H) : SocketCall ι H → Bool
  | .moveAssign i _ => ((x.objects i).bind (Socket.handle invalidSocket)).isSome
  | _ => false

/-- A step that leaves open sockets alone when it assigns. -/
def Careful (x : Sockets ι H) (call : SocketCall ι H) (y : Sockets ι H) : Prop :=
  Step invalidSocket x call y ∧ x.overwrites invalidSocket call = false

def holdings (x : Sockets ι H) : Holdings ι H :=
  ⟨fun i => (x.objects i).bind (Socket.handle invalidSocket), x.history⟩

section Refines

variable {x y : Sockets ι H} {i other : ι} {s t : Socket H}

omit [DecidableEq ι] in
theorem owned_of_here (here : x.objects i = some s) :
    (x.holdings invalidSocket).owned i = s.handle invalidSocket := by
  simp [holdings, here]

theorem handle_new : (Socket.new invalidSocket).handle invalidSocket = none := if_pos rfl

theorem handle_of_ne {res : H} (valid : res ≠ invalidSocket) :
    (⟨res⟩ : Socket H).handle invalidSocket = some res := if_neg valid

theorem handle_close (history : List (Transaction H)) :
    (s.close invalidSocket history).1.handle invalidSocket = none := by
  unfold Socket.close
  split
  · rename_i unopened
    exact if_pos unopened
  · exact if_pos rfl

theorem owned_update (objects : ι → Option (Socket H)) (object : Option (Socket H)) :
    (fun j => (Function.update objects i object j).bind (Socket.handle invalidSocket)) =
      Function.update (fun j => (objects j).bind (Socket.handle invalidSocket)) i
        (object.bind (Socket.handle invalidSocket)) := by
  funext j
  rw [Function.update_apply, Function.update_apply]
  split <;> rfl

theorem holdings_put (result : Socket H × List (Transaction H)) :
    (x.put i result).holdings invalidSocket =
      ⟨Function.update (x.holdings invalidSocket).owned i (result.1.handle invalidSocket),
        result.2⟩ :=
  congrArg (Holdings.mk · _) (owned_update invalidSocket x.objects (some result.1))

theorem holdings_destroy :
    (x.destroy invalidSocket i s).holdings invalidSocket =
      (x.put i (s.close invalidSocket x.history)).holdings invalidSocket := by
  rw [holdings_put, handle_close]
  exact congrArg (Holdings.mk · _) (owned_update invalidSocket x.objects none)

theorem holdings_move (there : x.objects other = some s) :
    (x.move invalidSocket i other s).holdings invalidSocket =
      ⟨Function.update (Function.update (x.holdings invalidSocket).owned i
        ((x.holdings invalidSocket).owned other)) other none, x.history⟩ := by
  rw [move, holdings_put, holdings_put, owned_of_here invalidSocket there]
  exact congrArg (Holdings.mk · _) (congrArg (Function.update _ other) (handle_new invalidSocket))

theorem holdings_put_same {result : Socket H × List (Transaction H)}
    (same : result.1.handle invalidSocket = (x.holdings invalidSocket).owned i)
    (silent : result.2 = x.history) :
    (x.put i result).holdings invalidSocket = x.holdings invalidSocket := by
  rw [holdings_put, same, Function.update_eq_self, silent]
  rfl

theorem transfers_close (here : x.objects i = some s) :
    ReflTransGen Holdings.Transfer (x.holdings invalidSocket)
      ((x.put i (s.close invalidSocket x.history)).holdings invalidSocket) := by
  by_cases unopened : s.mHandle = invalidSocket
  · have same : s.close invalidSocket x.history = (s, x.history) := if_pos unopened
    rw [same, holdings_put_same invalidSocket (owned_of_here invalidSocket here).symm rfl]
  · have closed : s.close invalidSocket x.history =
        (.new invalidSocket, x.history ++ [.released s.mHandle]) := if_neg unopened
    rw [closed, holdings_put, handle_new]
    exact .single (.release ((owned_of_here invalidSocket here).trans (if_neg unopened)))

theorem transfer_obtained {res : H} (free : (x.holdings invalidSocket).owned i = none)
    (valid : res ≠ invalidSocket) (os : Returned invalidSocket x.history res) :
    Holdings.Transfer (x.holdings invalidSocket)
      ((x.put i (⟨res⟩, x.history ++ [.obtained res])).holdings invalidSocket) := by
  rw [holdings_put, handle_of_ne invalidSocket valid]
  exact .obtain free (os valid)

theorem transfers_socket (here : x.objects i = some s) {res : H}
    (os : Returned invalidSocket (s.close invalidSocket x.history).2 res) :
    ReflTransGen Holdings.Transfer (x.holdings invalidSocket)
      ((x.put i (s.socket invalidSocket x.history res)).holdings invalidSocket) := by
  have closes := transfers_close invalidSocket here
  simp only [Socket.socket]
  by_cases failed : res = invalidSocket
  · rwa [if_pos failed]
  · rw [if_neg failed]
    -- The handle is put where the one that was closed has been.
    have free : ((x.put i (s.close invalidSocket x.history)).holdings invalidSocket).owned i =
        none := by
      rw [holdings_put, handle_close]
      exact Function.update_self ..
    have obtains := transfer_obtained invalidSocket free failed os
    have again : (x.put i (s.close invalidSocket x.history)).put i
        (⟨res⟩, (s.close invalidSocket x.history).2 ++ [.obtained res]) =
        x.put i (⟨res⟩, (s.close invalidSocket x.history).2 ++ [.obtained res]) := by
      simp [put]
    exact closes.tail (again ▸ obtains)

theorem transfers_accept (out : x.objects i = some t) {res : H}
    (os : Returned invalidSocket x.history res) {result : Socket H × List (Transaction H)}
    (accepted : t.accept invalidSocket x.history res = .ok result) :
    ReflTransGen Holdings.Transfer (x.holdings invalidSocket)
      ((x.put i result).holdings invalidSocket) := by
  unfold Socket.accept at accepted
  split at accepted
  · cases accepted
  · rename_i unopened
    split at accepted
    · cases accepted
      rw [holdings_put_same invalidSocket (owned_of_here invalidSocket out).symm rfl]
    · rename_i valid
      cases accepted
      have free := (owned_of_here invalidSocket out).trans
        (if_pos (not_not.mp unopened))
      exact .single (transfer_obtained invalidSocket free valid os)

theorem transfer_move (there : x.objects other = some s) :
    Holdings.Transfer ((x.holdings invalidSocket).forget i)
      ((x.move invalidSocket i other s).holdings invalidSocket) := by
  have hands := Holdings.Transfer.hand (x := (x.holdings invalidSocket).forget i) other
    (Function.update_self ..)
  rw [holdings_move invalidSocket there]
  by_cases same : other = i
  · subst same
    simpa [Holdings.forget, holdings] using hands
  · simpa [Holdings.forget, holdings, same] using hands

theorem forget_unopened (unopened : (x.holdings invalidSocket).owned i = none) :
    (x.holdings invalidSocket).forget i = x.holdings invalidSocket := by
  rw [Holdings.forget, ← unopened, Function.update_eq_self]

theorem step_cases {call : SocketCall ι H} (step : Step invalidSocket x call y) :
    (x.overwrites invalidSocket call = false ∧
      ReflTransGen Holdings.Transfer (x.holdings invalidSocket) (y.holdings invalidSocket)) ∨
    x.overwrites invalidSocket call = true ∧ ∃ i h,
      (x.holdings invalidSocket).owned i = some h ∧
        Holdings.Transfer ((x.holdings invalidSocket).forget i) (y.holdings invalidSocket) := by
  -- Nothing is forgotten but what an open socket had that is assigned to.
  cases step with
  | @construct i fresh =>
    refine .inl ⟨rfl, ?_⟩
    have unowned : (x.holdings invalidSocket).owned i = none := by simp [holdings, fresh]
    rw [holdings_put_same invalidSocket ((handle_new invalidSocket).trans unowned.symm) rfl]
  | socket here os => exact .inl ⟨rfl, transfers_socket invalidSocket here os⟩
  | accept here out os accepted => exact .inl ⟨rfl, transfers_accept invalidSocket out os accepted⟩
  | @moveConstruct i other s fresh there =>
    have unowned : (x.holdings invalidSocket).owned i = none := by simp [holdings, fresh]
    have moves := transfer_move invalidSocket (i := i) there
    rw [forget_unopened invalidSocket unowned] at moves
    exact .inl ⟨rfl, .single moves⟩
  | @moveAssign i t other s here there =>
    have moves := transfer_move invalidSocket (i := i) there
    cases has : (x.holdings invalidSocket).owned i with
    | none =>
      rw [forget_unopened invalidSocket has] at moves
      exact .inl ⟨congrArg Option.isSome has, .single moves⟩
    | some h => exact .inr ⟨congrArg Option.isSome has, i, h, has, moves⟩
  | close here => exact .inl ⟨rfl, transfers_close invalidSocket here⟩
  | @destroy i s here =>
    rw [holdings_destroy]
    exact .inl ⟨rfl, transfers_close invalidSocket here⟩

end Refines

section Runs

variable {x y : Sockets ι H} {call : SocketCall ι H} {calls : List (SocketCall ι H)}

omit [DecidableEq ι] in
theorem sound_initial : ((initial : Sockets ι H).holdings invalidSocket).Sound where
  balanced := balanced_nil
  outstanding _ _ has := nomatch has
  unique _ _ _ has := nomatch has

theorem sound_step (sound : (x.holdings invalidSocket).Sound) (step : Step invalidSocket x call y) :
    (y.holdings invalidSocket).Sound := by
  rcases step_cases invalidSocket step with ⟨-, transfers⟩ | ⟨-, i, h, -, moves⟩
  · exact (sound.transfers transfers).1
  · exact (sound.forget i).transfer moves

theorem lost_step (sound : (x.holdings invalidSocket).Sound) (step : Step invalidSocket x call y) :
    (∃ h, (y.holdings invalidSocket).Lost h) ↔
      (∃ h, (x.holdings invalidSocket).Lost h) ∨ x.overwrites invalidSocket call = true := by
  rcases step_cases invalidSocket step with ⟨careful, transfers⟩ | ⟨overwrites, i, h, has, moves⟩
  · have same := (sound.transfers transfers).2
    rw [careful, or_iff_left Bool.false_ne_true]
    exact exists_congr same
  · have lost := sound.lost_forget has
    exact iff_of_true ⟨h, ((sound.forget i).lost_transfer moves h).mpr lost⟩ (.inr overwrites)

variable {w : Sockets ι H}

theorem run_sound (sound : (w.holdings invalidSocket).Sound)
    (run : Run (Step invalidSocket) w calls x) : (x.holdings invalidSocket).Sound :=
  run.invariant (fun _ => True) (fun sound _ step => sound_step invalidSocket sound step) sound
    fun _ _ => trivial

theorem careful_run (sound : (w.holdings invalidSocket).Sound)
    (kept : ¬ ∃ h, (w.holdings invalidSocket).Lost h)
    (run : Run (Careful invalidSocket) w calls x) : ¬ ∃ h, (x.holdings invalidSocket).Lost h := by
  have all := run.invariant
    (P := fun x => (x.holdings invalidSocket).Sound ∧ ¬ ∃ h, (x.holdings invalidSocket).Lost h)
    (fun _ => True) (fun before _ step => ?_) ⟨sound, kept⟩ fun _ _ => trivial
  · exact all.2
  · refine ⟨sound_step invalidSocket before.1 step.1, ?_⟩
    rw [lost_step invalidSocket before.1 step.1, step.2, or_iff_left Bool.false_ne_true]
    exact before.2

theorem not_lost_iff (sound : (w.holdings invalidSocket).Sound)
    (kept : ¬ ∃ h, (w.holdings invalidSocket).Lost h)
    (run : Run (Step invalidSocket) w calls x) :
    (¬ ∃ h, (x.holdings invalidSocket).Lost h) ↔ Run (Careful invalidSocket) w calls x := by
  refine ⟨fun none => ?_, careful_run invalidSocket sound kept⟩
  induction run with
  | nil => exact .nil
  | snoc run last ih =>
    rw [lost_step invalidSocket (run_sound invalidSocket sound run) last, not_or,
      Bool.not_eq_true] at none
    exact (ih none.1).snoc ⟨last, none.2⟩

end Runs

variable {calls : List (SocketCall ι H)} {x : Sockets ι H}

/-- No handle is owned twice or closed twice, and when all objects are gone the handles
are closed unless an open socket has been assigned to. -/
theorem owned_iff_careful (run : Run (Step invalidSocket) initial calls x) :
    (∀ i j s t, x.objects i = some s → x.objects j = some t → s.mHandle = t.mHandle →
        s.mHandle ≠ invalidSocket → i = j) ∧
      (∀ i s, x.objects i = some s → s.mHandle ≠ invalidSocket →
        releases x.history s.mHandle < obtains x.history s.mHandle) ∧
      (∀ h, releases x.history h ≤ obtains x.history h ∧
        obtains x.history h ≤ releases x.history h + 1) ∧
      ((∀ i, x.objects i = none) →
        ((∀ h, releases x.history h = obtains x.history h) ↔
          Run (Careful invalidSocket) initial calls x)) := by
  have sound := run_sound invalidSocket (sound_initial invalidSocket) run
  have owns {i : ι} {s : Socket H} (here : x.objects i = some s)
      (valid : s.mHandle ≠ invalidSocket) :
      (x.holdings invalidSocket).owned i = some s.mHandle :=
    (owned_of_here invalidSocket here).trans (if_neg valid)
  refine ⟨fun i j s t here there same valid => ?_, fun i s here valid => ?_, sound.balanced,
    fun gone => ?_⟩
  · exact sound.unique i j s.mHandle (owns here valid)
      ((owns there (same ▸ valid)).trans (congrArg some same.symm))
  · exact sound.outstanding i s.mHandle (owns here valid)
  · have nobody (i : ι) : (x.holdings invalidSocket).owned i = none := by simp [holdings, gone]
    have nothing : ¬ ∃ h, ((initial : Sockets ι H).holdings invalidSocket).Lost h :=
      fun ⟨_, lost⟩ => not_outstanding_nil lost.1
    rw [← not_lost_iff invalidSocket (sound_initial invalidSocket) nothing run]
    exact sound.released_iff nobody

def handedOver : List (SocketCall Nat Int) :=
  [.construct 0, .socket 0 3, .construct 1, .moveAssign 1 0, .destroy 0, .destroy 1]

theorem run_handedOver : ∃ x, Run (Careful (-1)) initial handedOver x ∧
    ∀ i, x.objects i = none := by
  refine ⟨_, ((((((Run.nil.snoc ⟨.construct rfl, rfl⟩).snoc
    ⟨.socket rfl (fun _ => by decide), rfl⟩).snoc ⟨.construct rfl, rfl⟩).snoc
    ⟨.moveAssign rfl rfl, rfl⟩).snoc ⟨.destroy rfl, rfl⟩).snoc ⟨.destroy rfl, rfl⟩), ?_⟩
  intro i
  simp only [destroy, move, put, initial, Function.update_apply]
  split <;> simp_all

theorem owned_iff_careful_handedOver :
    ∃ x, Run (Step (-1)) initial handedOver x ∧
      ∀ h, releases x.history h = obtains x.history h := by
  obtain ⟨x, run, gone⟩ := run_handedOver
  have steps : Run (Step (-1)) initial handedOver x := run.mono And.left
  exact ⟨x, steps, ((owned_iff_careful (-1) steps).2.2.2 gone).mpr run⟩

/-- The first of two sockets is overwritten, and one that is moved to itself. -/
theorem overwritten_not_closed :
    (∃ x, Run (Step (-1)) (initial : Sockets Nat Int)
        [.construct 0, .socket 0 3, .construct 1, .socket 1 4, .moveAssign 0 1, .destroy 0,
          .destroy 1] x ∧
      (∀ i, x.objects i = none) ∧ obtains x.history 3 = 1 ∧ releases x.history 3 = 0) ∧
    ∃ x, Run (Step (-1)) (initial : Sockets Nat Int)
        [.construct 0, .socket 0 3, .moveAssign 0 0, .destroy 0] x ∧
      (∀ i, x.objects i = none) ∧ obtains x.history 3 = 1 ∧ releases x.history 3 = 0 := by
  constructor
  · refine ⟨_, (((((((Run.nil.snoc (.construct rfl)).snoc
      (.socket rfl (fun _ => by decide))).snoc (.construct rfl)).snoc
      (.socket rfl (fun _ => by decide))).snoc (.moveAssign rfl rfl)).snoc (.destroy rfl)).snoc
      (.destroy rfl)), fun i => ?_, by decide, by decide⟩
    simp only [destroy, move, put, initial, Function.update_apply]
    split <;> simp_all
  · refine ⟨_, ((((Run.nil.snoc (.construct rfl)).snoc (.socket rfl (fun _ => by decide))).snoc
      (.moveAssign rfl rfl)).snoc (.destroy rfl)), fun i => ?_, by decide, by decide⟩
    simp only [destroy, move, put, initial, Function.update_apply]
    split <;> simp_all

end Sockets

end ArcdpsHealing.Networking
