import Raphael.DelayQueue.Theorems
import Raphael.PopupCamera.Service

namespace Raphael.PopupCamera

-- Camera events become messages, messages become requests that wait for the
-- motor or are posted as runnables, and a runnable that is executed sets the
-- motor's target. The requests are numbered as updateMotor was called.
structure InOrder (target last : CameraState) (runnables waiting : List (Nat × CameraState))
    (messages : List CameraState) (executed : List Nat) (requests : Nat) : Prop where
  last : (target :: (runnables.map Prod.snd ++ (waiting.map Prod.snd ++ messages))).getLast? =
    some last
  numbered : executed.reverse ++ (runnables.map Prod.fst ++ waiting.map Prod.fst) =
    List.range requests

namespace InOrder

variable {target last : CameraState} {runnables waiting : List (Nat × CameraState)}
  {messages : List CameraState} {executed : List Nat} {requests : Nat}

theorem send (cameraState : CameraState)
    (h : InOrder target last runnables waiting messages executed requests) :
    InOrder target cameraState runnables waiting (messages ++ [cameraState]) executed requests where
  last := by
    rw [← List.append_assoc, ← List.append_assoc, ← List.cons_append]
    exact List.getLast?_concat
  numbered := h.numbered

-- Dropped messages may carry the last event, but no request.
theorem drop (rest : List CameraState)
    (h : InOrder target last runnables waiting messages executed requests) :
    ∃ last', InOrder target last' runnables waiting rest executed requests :=
  ⟨_, List.getLast?_eq_some_getLast (List.cons_ne_nil _ _), h.numbered⟩

-- updateMotor is called for the first message.
theorem accept {cameraState : CameraState}
    (h : InOrder target last runnables waiting (cameraState :: messages) executed requests) :
    InOrder target last runnables (waiting ++ [(requests, cameraState)]) messages executed
      (requests + 1) where
  last := by
    rw [List.map_append, List.append_assoc]
    exact h.last
  numbered := by
    rw [List.map_append, List.range_succ, ← h.numbered, List.append_assoc, List.append_assoc]
    rfl

-- The first request that waits is posted.
theorem release {request : Nat × CameraState}
    (h : InOrder target last runnables (request :: waiting) messages executed requests) :
    InOrder target last (runnables ++ [request]) waiting messages executed requests where
  last := by
    rw [List.map_append, List.append_assoc]
    exact h.last
  numbered := by
    rw [List.map_append, List.append_assoc]
    exact h.numbered

theorem execute {request : Nat} {cameraState : CameraState}
    (h : InOrder target last ((request, cameraState) :: runnables) waiting messages executed
      requests) :
    InOrder cameraState last runnables waiting messages (request :: executed) requests where
  last := by
    have hlast := h.last
    rw [List.map_cons, List.cons_append, List.getLast?_cons_cons] at hlast
    exact hlast
  numbered := by
    rw [List.reverse_cons, List.append_assoc]
    exact h.numbered

theorem drained (h : InOrder target last [] [] [] executed requests) :
    target = last ∧ executed.reverse = List.range requests :=
  ⟨Option.some.inj h.last, (List.append_nil _).symm.trans h.numbered⟩

theorem waiting_sorted (h : InOrder target last runnables waiting messages executed requests) :
    (waiting.map Prod.fst).Pairwise (· < ·) := by
  have hrange : (List.range requests).Pairwise (· < ·) := List.pairwise_lt_range
  rw [← h.numbered, ← List.append_assoc] at hrange
  exact (List.pairwise_append.mp hrange).2.1

-- A request that waits with no older one is the first of those that wait.
theorem eq_cons_of_oldest {request : Nat × CameraState} {others : List (Nat × CameraState)}
    (h : InOrder target last runnables waiting messages executed requests)
    (hperm : (request :: others).Perm waiting)
    (holdest : ∀ other ∈ others, request.1 ≤ other.1) :
    ∃ rest, waiting = request :: rest ∧ others.Perm rest := by
  cases waiting with
  | nil => exact absurd hperm.eq_nil (List.cons_ne_nil _ _)
  | cons first rest =>
      have hfirst : first = request := by
        obtain hfirst | hm := List.mem_cons.mp (hperm.symm.subset List.mem_cons_self)
        · exact hfirst
        · obtain hrequest | hm' := List.mem_cons.mp (hperm.subset List.mem_cons_self)
          · exact hrequest.symm
          · have hsorted := h.waiting_sorted
            rw [List.map_cons, List.pairwise_cons] at hsorted
            have hlt := hsorted.1 request.1 (List.mem_map_of_mem hm')
            exact absurd (holdest first hm) (Nat.not_le.mpr hlt)
      subst hfirst
      exact ⟨rest, rfl, hperm.cons_inv⟩

end InOrder

def Task.message? : Task → Option CameraState
  | .msgCameraClosed => some .closed
  | .msgCameraOpen => some .opened
  | _ => none

def Task.runnable? : Task → Option (Nat × CameraState)
  | .motorRequest request cameraState => some (request, cameraState)
  | _ => none

def Task.polling? : Task → Option (Nat × CameraState)
  | .pollMotorBusy request cameraState => some (request, cameraState)
  | _ => none

-- In the handler's queue messages and runnables stand in their order, while
-- the requests that wait stand in the order of their polls.
structure Pipeline (now : Nat) (target last : CameraState) (queue : DelayQueue Task)
    (executed : List Nat) (requests : Nat) : Prop where
  runnablesDue : ∀ entry ∈ queue.select (fun task => task.runnable?.isSome), entry.due ≤ now
  messagesDue : ∀ entry ∈ queue.select (fun task => task.message?.isSome),
    entry.due ≤ now + CAMERA_EVENT_DELAY_TIME
  inOrder : ∃ waiting, (queue.collect Task.polling?).Perm waiting ∧
    InOrder target last (queue.collect Task.runnable?) waiting (queue.collect Task.message?)
      executed requests

namespace Pipeline

variable {now : Nat} {target last : CameraState} {queue rest : DelayQueue Task}
  {executed : List Nat} {requests : Nat}

theorem start (now : Nat) (target : CameraState) : Pipeline now target target .empty [] 0 where
  runnablesDue _ hm := nomatch hm
  messagesDue _ hm := nomatch hm
  inOrder := ⟨[], .refl _, rfl, rfl⟩

theorem tick {later : Nat} (h : Pipeline now target last queue executed requests)
    (hle : now ≤ later) : Pipeline later target last queue executed requests where
  runnablesDue entry hm := Nat.le_trans (h.runnablesDue entry hm) hle
  messagesDue entry hm := Nat.le_trans (h.messagesDue entry hm) (Nat.add_le_add_right hle _)
  inOrder := h.inOrder

-- Timers and dialogs are no part of the pipeline.
structure Outside (task : Task) : Prop where
  message : task.message? = none
  runnable : task.runnable? = none
  polling : task.polling? = none

theorem post_outside {task : Task} (htask : Outside task) (due : Nat)
    (h : Pipeline now target last queue executed requests) :
    Pipeline now target last (queue.post due task) executed requests where
  runnablesDue := by
    rw [DelayQueue.select_post_of_other (by rw [htask.runnable]; rfl)]
    exact h.runnablesDue
  messagesDue := by
    rw [DelayQueue.select_post_of_other (by rw [htask.message]; rfl)]
    exact h.messagesDue
  inOrder := by
    rw [DelayQueue.collect_post_of_none _ htask.message,
      DelayQueue.collect_post_of_none _ htask.runnable,
      DelayQueue.collect_post_of_none _ htask.polling]
    exact h.inOrder

theorem pop_outside {task : Task} (htask : Outside task)
    (h : Pipeline now target last queue executed requests)
    (hpop : queue.pop now = some (task, rest)) :
    Pipeline now target last rest executed requests where
  runnablesDue entry he := h.runnablesDue entry (DelayQueue.mem_pop hpop he)
  messagesDue entry he := h.messagesDue entry (DelayQueue.mem_pop hpop he)
  inOrder := by
    have hinOrder := h.inOrder
    rw [DelayQueue.collect_pop hpop, DelayQueue.collect_pop hpop, DelayQueue.collect_pop hpop,
      htask.message, htask.runnable, htask.polling] at hinOrder
    exact hinOrder

theorem runnable_none_of_message {message : Task} {cameraState : CameraState}
    (hmessage : message.message? = some cameraState) : message.runnable? = none := by
  cases message with
  | motorRequest => cases hmessage
  | _ => rfl

theorem polling_none_of_message {message : Task} {cameraState : CameraState}
    (hmessage : message.message? = some cameraState) : message.polling? = none := by
  cases message with
  | pollMotorBusy => cases hmessage
  | _ => rfl

section Message

variable {message : Task} {cameraState : CameraState}
  (hmessage : message.message? = some cameraState)
include hmessage

-- A message sent now is behind all others, so its event is the last.
theorem send (h : Pipeline now target last queue executed requests) :
    Pipeline now target cameraState (queue.post (now + CAMERA_EVENT_DELAY_TIME) message) executed
      requests where
  runnablesDue := by
    rw [DelayQueue.select_post_of_other (by rw [runnable_none_of_message hmessage]; rfl)]
    exact h.runnablesDue
  messagesDue entry he := by
    obtain rfl | he := DelayQueue.mem_select_post he
    · exact Nat.le_refl _
    · exact h.messagesDue entry he
  inOrder := by
    obtain ⟨waiting, hperm, hinOrder⟩ := h.inOrder
    rw [DelayQueue.collect_post_last _ hmessage h.messagesDue,
      DelayQueue.collect_post_of_none _ (runnable_none_of_message hmessage),
      DelayQueue.collect_post_of_none _ (polling_none_of_message hmessage)]
    exact ⟨waiting, hperm, hinOrder.send cameraState⟩

theorem remove (h : Pipeline now target last queue executed requests) :
    ∃ last', Pipeline now target last' (queue.remove (· = message)) executed requests := by
  obtain ⟨waiting, hperm, hinOrder⟩ := h.inOrder
  obtain ⟨last', hdropped⟩ := hinOrder.drop ((queue.remove (· = message)).collect Task.message?)
  refine ⟨last', fun entry he => h.runnablesDue entry (DelayQueue.mem_select_remove he),
    fun entry he => h.messagesDue entry (DelayQueue.mem_select_remove he), waiting, ?_, ?_⟩
  · rw [DelayQueue.collect_remove_of_none fun task htask => ?_]
    · exact hperm
    · obtain rfl := of_decide_eq_true htask
      exact polling_none_of_message hmessage
  · rw [DelayQueue.collect_remove_of_none fun task htask => ?_]
    · exact hdropped
    · obtain rfl := of_decide_eq_true htask
      exact runnable_none_of_message hmessage

variable (hpop : queue.pop now = some (message, rest))
  (h : Pipeline now target last queue executed requests)
include hpop h

-- The message that is taken becomes the last of the requests that wait.
theorem accept :
    ∃ waiting, (rest.collect Task.polling?).Perm waiting ∧
      InOrder target last (rest.collect Task.runnable?) (waiting ++ [(requests, cameraState)])
        (rest.collect Task.message?) executed (requests + 1) := by
  obtain ⟨waiting, hperm, hinOrder⟩ := h.inOrder
  rw [DelayQueue.collect_pop hpop, polling_none_of_message hmessage] at hperm
  rw [DelayQueue.collect_pop hpop, DelayQueue.collect_pop hpop, hmessage,
    runnable_none_of_message hmessage] at hinOrder
  exact ⟨waiting, hperm, hinOrder.accept⟩

theorem acceptPoll :
    Pipeline now target last (rest.post (now + POLL_TIME) (.pollMotorBusy requests cameraState))
      executed (requests + 1) where
  runnablesDue := by
    rw [DelayQueue.select_post_of_other rfl]
    exact fun entry he => h.runnablesDue entry (DelayQueue.mem_pop hpop he)
  messagesDue := by
    rw [DelayQueue.select_post_of_other rfl]
    exact fun entry he => h.messagesDue entry (DelayQueue.mem_pop hpop he)
  inOrder := by
    obtain ⟨waiting, hperm, hinOrder⟩ := h.accept hmessage hpop
    rw [DelayQueue.collect_post_of_none Task.runnable? rfl,
      DelayQueue.collect_post_of_none Task.message? rfl]
    refine ⟨_, ?_, hinOrder⟩
    exact ((DelayQueue.collect_post_perm Task.polling? rfl).trans (hperm.cons _)).trans
      (List.perm_append_singleton _ _).symm

-- A request that finds the motor free is in its turn if no other one waits.
theorem acceptPost (hturn : rest.collect Task.polling? = []) :
    Pipeline now target last (rest.post (now + 0) (.motorRequest requests cameraState))
      executed (requests + 1) where
  runnablesDue entry he := by
    obtain rfl | he := DelayQueue.mem_select_post he
    · exact Nat.le_refl _
    · exact h.runnablesDue entry (DelayQueue.mem_pop hpop he)
  messagesDue := by
    rw [DelayQueue.select_post_of_other rfl]
    exact fun entry he => h.messagesDue entry (DelayQueue.mem_pop hpop he)
  inOrder := by
    obtain ⟨waiting, hperm, hinOrder⟩ := h.accept hmessage hpop
    rw [hturn, List.nil_perm] at hperm
    rw [hperm] at hinOrder
    have hdue : ∀ entry ∈ rest.select (fun task => task.runnable?.isSome), entry.due ≤ now + 0 :=
      fun entry he => h.runnablesDue entry (DelayQueue.mem_pop hpop he)
    rw [DelayQueue.collect_post_of_none Task.polling? rfl,
      DelayQueue.collect_post_of_none Task.message? rfl, hturn,
      DelayQueue.collect_post_last Task.runnable? rfl hdue]
    exact ⟨[], .refl _, hinOrder.release⟩

end Message

section Poll

variable {request : Nat} {cameraState : CameraState}
  (hpop : queue.pop now = some (.pollMotorBusy request cameraState, rest))
  (h : Pipeline now target last queue executed requests)
include hpop h

theorem pop_poll :
    ∃ waiting, ((request, cameraState) :: rest.collect Task.polling?).Perm waiting ∧
      InOrder target last (rest.collect Task.runnable?) waiting (rest.collect Task.message?)
        executed requests := by
  have hinOrder := h.inOrder
  rw [DelayQueue.collect_pop hpop, DelayQueue.collect_pop hpop, DelayQueue.collect_pop hpop]
    at hinOrder
  exact hinOrder

-- A poll that finds the motor busy is back among those that wait.
theorem pollAgain :
    Pipeline now target last (rest.post (now + POLL_TIME) (.pollMotorBusy request cameraState))
      executed requests where
  runnablesDue := by
    rw [DelayQueue.select_post_of_other rfl]
    exact fun entry he => h.runnablesDue entry (DelayQueue.mem_pop hpop he)
  messagesDue := by
    rw [DelayQueue.select_post_of_other rfl]
    exact fun entry he => h.messagesDue entry (DelayQueue.mem_pop hpop he)
  inOrder := by
    obtain ⟨waiting, hperm, hinOrder⟩ := h.pop_poll hpop
    rw [DelayQueue.collect_post_of_none Task.runnable? rfl,
      DelayQueue.collect_post_of_none Task.message? rfl]
    exact ⟨waiting, (DelayQueue.collect_post_perm Task.polling? rfl).trans hperm, hinOrder⟩

-- A poll that finds it free is in its turn if no older request waits.
theorem pollDone (hturn : ∀ other ∈ rest.collect Task.polling?, request ≤ other.1) :
    Pipeline now target last (rest.post (now + 0) (.motorRequest request cameraState)) executed
      requests where
  runnablesDue entry he := by
    obtain rfl | he := DelayQueue.mem_select_post he
    · exact Nat.le_refl _
    · exact h.runnablesDue entry (DelayQueue.mem_pop hpop he)
  messagesDue := by
    rw [DelayQueue.select_post_of_other rfl]
    exact fun entry he => h.messagesDue entry (DelayQueue.mem_pop hpop he)
  inOrder := by
    obtain ⟨waiting, hperm, hinOrder⟩ := h.pop_poll hpop
    obtain ⟨others, hwaiting, hothers⟩ := hinOrder.eq_cons_of_oldest hperm hturn
    rw [hwaiting] at hinOrder
    have hdue : ∀ entry ∈ rest.select (fun task => task.runnable?.isSome), entry.due ≤ now + 0 :=
      fun entry he => h.runnablesDue entry (DelayQueue.mem_pop hpop he)
    rw [DelayQueue.collect_post_of_none Task.polling? rfl,
      DelayQueue.collect_post_of_none Task.message? rfl,
      DelayQueue.collect_post_last Task.runnable? rfl hdue]
    exact ⟨others, hothers, hinOrder.release⟩

end Poll

-- The runnable that is executed has set the target.
theorem execute {request : Nat} {cameraState : CameraState}
    (hpop : queue.pop now = some (.motorRequest request cameraState, rest))
    (h : Pipeline now target last queue executed requests) :
    Pipeline now cameraState last rest (request :: executed) requests where
  runnablesDue entry he := h.runnablesDue entry (DelayQueue.mem_pop hpop he)
  messagesDue entry he := h.messagesDue entry (DelayQueue.mem_pop hpop he)
  inOrder := by
    obtain ⟨waiting, hperm, hinOrder⟩ := h.inOrder
    rw [DelayQueue.collect_pop hpop] at hperm
    rw [DelayQueue.collect_pop hpop, DelayQueue.collect_pop hpop] at hinOrder
    exact ⟨waiting, hperm, hinOrder.execute⟩

-- An empty queue leaves the last event as the target, and no request undone.
theorem drained (h : Pipeline now target last queue executed requests)
    (hempty : queue.entries = []) :
    target = last ∧ executed.reverse = List.range requests := by
  have hcollect : ∀ {β : Type} (carried : Task → Option β), queue.collect carried = [] := by
    intro β carried
    rw [DelayQueue.collect, hempty]
    rfl
  obtain ⟨waiting, hperm, hinOrder⟩ := h.inOrder
  rw [hcollect, List.nil_perm] at hperm
  rw [hcollect, hcollect, hperm] at hinOrder
  exact hinOrder.drained

theorem executed_prefix (h : Pipeline now target last queue executed requests) :
    executed.reverse <+: List.range requests := by
  obtain ⟨waiting, _, hinOrder⟩ := h.inOrder
  exact ⟨_, hinOrder.numbered⟩

end Pipeline

end Raphael.PopupCamera
