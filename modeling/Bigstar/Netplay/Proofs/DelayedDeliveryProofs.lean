import Bigstar.Netplay.DelayedDelivery
import Mathlib.Data.List.Perm.Basic
import Mathlib.Tactic.Common

/-!
# The simulated network loses and duplicates nothing

Over any run of calls, what has been handed over and what is still in the queue are together exactly
the payloads that were prepared. The queue is kept in the order of preparation, and a drain takes
out of it, in this order, what is due.
-/

namespace Bigstar.Netplay.InputDelivery

/-- What a call lets out of the queue. -/
def QueueCall.Releases (pending : PendingPayload) : QueueCall → Prop
  | .drainDue currentFrame now => pending.releaseFrame ≤ currentFrame ∨ pending.releaseTime ≤ now
  | .drainAll | .clear => True
  | .prepare _ | .recordAck .. => False

/-- A call of `Prepare` hands over its own payload if it is not delayed. -/
def QueueCall.Immediate (k : Nat) (p : PendingPayload) : QueueCall → Prop
  | .prepare request => p.ticket = k ∧ request.decision.delayFrames ≤ 0
  | _ => False

/-! ## One call -/

theorem drainLoop_eq (currentFrame : Nat) (now : Int) (pending : List PendingPayload) :
    Runtime.drainLoop currentFrame now pending =
      (pending.filter fun p => !shouldReleaseDelayedInput currentFrame now
        p.releaseFrame p.releaseTime,
        pending.filter fun p => shouldReleaseDelayedInput currentFrame now p.releaseFrame
          p.releaseTime) := by
  induction pending with
  | nil => rfl
  | cons p pending ih =>
    unfold Runtime.drainLoop
    rw [ih]
    dsimp only
    cases hdue : shouldReleaseDelayedInput currentFrame now p.releaseFrame p.releaseTime with
    | true => simp [hdue]
    | false => simp [hdue]

theorem shouldReleaseDelayedInput_iff {currentFrame : Nat} {now : Int} {p : PendingPayload} :
    shouldReleaseDelayedInput currentFrame now p.releaseFrame p.releaseTime = true ↔
      p.releaseFrame ≤ currentFrame ∨ p.releaseTime ≤ now := by
  simp [shouldReleaseDelayedInput]

/-- What one call does to the queue. -/
structure Delivers (k : Nat) (call : QueueCall) (before after : Runtime)
    (handed prepared : List PendingPayload) : Prop where
  /-- What was in the queue or is prepared now is handed over or stays. -/
  accounted : (handed ++ after.pending).Perm (before.pending ++ prepared)
  ordered : handed.Sublist (before.pending ++ prepared)
  kept : after.pending.Sublist (before.pending ++ prepared)
  allowed : ∀ p ∈ handed, call.Releases p ∨ call.Immediate k p
  rest : ∀ p ∈ after.pending, ¬ call.Releases p

/-- The payload that a call prepares, if it does. -/
def QueueCall.prepares (k : Nat) (r : Runtime) : QueueCall → List PendingPayload
  | .prepare request => if request.decision.drop then [] else [r.preparedPayload k request]
  | _ => []

theorem QueueCall.delivers (k : Nat) (call : QueueCall) (r : Runtime) :
    Delivers k call r (call.apply k r).1 (call.apply k r).2 (call.prepares k r) := by
  cases call with
  | prepare request =>
    unfold QueueCall.apply QueueCall.prepares Runtime.prepare
    dsimp only
    by_cases hdrop : request.decision.drop = true
    · rw [if_pos hdrop, if_pos hdrop]
      exact ⟨by simp, by simp, by simp, by simp, fun _ _ h => h⟩
    · rw [if_neg hdrop, if_neg hdrop]
      by_cases hdelay : request.decision.delayFrames ≤ 0
      · rw [if_pos hdelay]
        refine ⟨?_, by simp, by simp, ?_, fun _ _ h => h⟩
        · exact List.perm_append_comm
        · intro p hp
          right
          obtain rfl := List.mem_singleton.mp hp
          exact ⟨rfl, hdelay⟩
      · rw [if_neg hdelay]
        exact ⟨by simp, by simp, by simp, by simp, fun _ _ h => h⟩
  | drainDue currentFrame now =>
    unfold QueueCall.apply QueueCall.prepares Runtime.drainDue
    dsimp only
    rw [drainLoop_eq]
    dsimp only
    constructor
    case accounted =>
      rw [List.append_nil]
      exact List.filter_append_perm _ _
    case ordered =>
      rw [List.append_nil]
      exact List.filter_sublist
    case kept =>
      rw [List.append_nil]
      exact List.filter_sublist
    case allowed =>
      intro p hp
      left
      exact shouldReleaseDelayedInput_iff.mp (List.mem_filter.mp hp).2
    case rest =>
      intro p hp hdue
      have hkept := (List.mem_filter.mp hp).2
      rw [shouldReleaseDelayedInput_iff.mpr hdue] at hkept
      cases hkept
  | drainAll =>
    unfold QueueCall.apply QueueCall.prepares Runtime.drainAll
    exact ⟨by simp, by simp, by simp, fun _ _ => Or.inl trivial, by simp⟩
  | clear =>
    unfold QueueCall.apply QueueCall.prepares Runtime.clear
    exact ⟨by simp, by simp, by simp, fun _ _ => Or.inl trivial, by simp⟩
  | recordAck ackFrame lastSentInputFrame noFrame =>
    unfold QueueCall.apply QueueCall.prepares Runtime.recordAck
    exact ⟨by simp, by simp, by simp, by simp, fun _ _ h => h⟩

/-! ## Delays -/

theorem delay_nonneg (request : SendRequest) : 0 ≤ request.delay := by
  unfold SendRequest.delay
  split
  · split <;> omega
  · exact Int.le_refl 0

/-- The decision holds the delay as an `int`. -/
theorem delayFrames_decision (request : SendRequest) :
    request.decision.delayFrames = i32 request.delay := by
  unfold SendRequest.decision decideSend SendRequest.delay
  by_cases hactive : request.config.delayStartFrame ≤ request.frame ∧
      (request.config.delayEndFrame = 0 ∨ request.frame ≤ request.config.delayEndFrame)
  · simp [hactive]
  · rw [if_neg hactive]
    simp [hactive, i32]

/-- Where the delay fits, a payload waits for what the configuration asks for. -/
theorem Runtime.preparedPayload_due {request : SendRequest} (h : request.Fits)
    (k : Nat) (r : Runtime) :
    (r.preparedPayload k request).releaseFrame = request.dueFrame ∧
      (r.preparedPayload k request).releaseTime = request.dueTime := by
  obtain ⟨hframe, htime⟩ := h
  have hnonneg := delay_nonneg request
  have hdelay : request.decision.delayFrames = request.delay := by
    rw [delayFrames_decision]
    exact i32_of_bounds (by omega) (by omega)
  constructor
  · unfold Runtime.preparedPayload
    dsimp only
    rw [hdelay]
    exact Nat.mod_eq_of_lt hframe
  · unfold Runtime.preparedPayload SendRequest.dueTime
    dsimp only
    rw [hdelay, i32_of_bounds (by omega) htime, Int.tdiv_eq_ediv_of_nonneg (by omega)]

/-- Where it does not, the payload is let out too early at some point that comes no earlier than the
call of `Prepare`. -/
theorem Runtime.exists_early {request : SendRequest} (hdelay : 0 < request.decision.delayFrames)
    (h : ¬ request.Fits) (k : Nat) (r : Runtime) :
    ∃ currentFrame now, request.frame ≤ currentFrame ∧ request.now ≤ now ∧
      currentFrame < request.dueFrame ∧ now < request.dueTime ∧
      shouldReleaseDelayedInput currentFrame now (r.preparedPayload k request).releaseFrame
        (r.preparedPayload k request).releaseTime = true := by
  rw [delayFrames_decision] at hdelay
  have hnonneg := delay_nonneg request
  have hpos : 0 < request.delay := by
    by_contra hzero
    have heq : request.delay = 0 := by omega
    rw [heq] at hdelay
    exact absurd hdelay (by decide)
  have hframe : request.frame < request.dueFrame := by
    unfold SendRequest.dueFrame
    omega
  have hnow : request.now < request.dueTime := by
    unfold SendRequest.dueTime milliseconds
    omega
  by_cases hwraps : 2 ^ 32 ≤ request.dueFrame
  · -- the frame wraps around and lies in the past
    refine ⟨max request.frame (r.preparedPayload k request).releaseFrame, request.now,
      Nat.le_max_left _ _, Int.le_refl _, ?_, hnow, ?_⟩
    · have hlt : (r.preparedPayload k request).releaseFrame < 2 ^ 32 := Nat.mod_lt _ (by decide)
      omega
    · exact shouldReleaseDelayedInput_iff.mpr (Or.inl (Nat.le_max_right _ _))
  · -- the milliseconds wrap around
    have hlarge : 2 ^ 31 ≤ request.delay * 1000 + 59 := by
      unfold SendRequest.Fits at h
      omega
    refine ⟨request.frame, max request.now (r.preparedPayload k request).releaseTime,
      Nat.le_refl _, Int.le_max_left _ _, hframe, ?_, ?_⟩
    · have htime : (r.preparedPayload k request).releaseTime < request.dueTime := by
        unfold Runtime.preparedPayload SendRequest.dueTime milliseconds
        dsimp only
        rw [delayFrames_decision, Int.tdiv_eq_ediv]
        have hsign : Int.sign 60 = 1 := rfl
        have hsmall := i32_lt (i32 request.delay * 1000 + 59)
        by_cases hfits : request.delay < 2 ^ 31
        · rw [i32_of_bounds (by omega) hfits] at hsmall ⊢
          have := i32_le_of_le hlarge
          split <;> omega
        · split <;> omega
      omega
    · exact shouldReleaseDelayedInput_iff.mpr (Or.inr (Int.le_max_right _ _))

/-- A call of `Prepare` that queues its payload has a delay that fits. -/
def QueueCall.Fits : QueueCall → Prop
  | .prepare request =>
    request.decision.drop = false → 0 < request.decision.delayFrames → request.Fits
  | _ => True

instance : (call : QueueCall) → Decidable call.Fits
  | .prepare request =>
    inferInstanceAs (Decidable
      (request.decision.drop = false → 0 < request.decision.delayFrames → request.Fits))
  | .drainDue _ _ | .drainAll | .clear | .recordAck .. => isTrue trivial

/-! ## A run -/

namespace QueueRun

theorem step_eq (run : QueueRun) (call : QueueCall) :
    run.step call =
      { runtime := (call.apply run.calls.length run.runtime).1
        calls := run.calls ++ [(call, (call.apply run.calls.length run.runtime).2)]
        prepared := run.prepared ++ call.prepares run.calls.length run.runtime } := by
  unfold step
  cases call with
  | prepare request =>
    unfold QueueCall.prepares
    dsimp only
    split
    · rw [List.append_nil]
    · rfl
  | drainDue | drainAll | clear | recordAck => simp [QueueCall.prepares]

/-- The run of a list of calls. -/
def after (calls : List QueueCall) : QueueRun := calls.foldl step {}

theorem after_append (calls : List QueueCall) (call : QueueCall) :
    after (calls ++ [call]) = (after calls).step call := by
  unfold after
  rw [List.foldl_append]
  rfl

theorem map_calls_after (calls : List QueueCall) : (after calls).calls.map (·.1) = calls := by
  induction calls using List.reverseRecOn with
  | nil => rfl
  | append_singleton calls call ih =>
    rw [after_append, step_eq, List.map_append, ih]
    rfl

theorem length_calls_after (calls : List QueueCall) :
    (after calls).calls.length = calls.length := by
  rw [← List.length_map (f := (·.1)), map_calls_after]

/-- The calls of `Prepare` that drop nothing, by their number. -/
def acceptedCalls (calls : List QueueCall) : List Nat :=
  (List.range calls.length).filter fun k => calls[k]?.any QueueCall.accepted

theorem acceptedCalls_append (calls : List QueueCall) (call : QueueCall) :
    acceptedCalls (calls ++ [call]) = acceptedCalls calls ++ if call.accepted then
      [calls.length] else [] := by
  unfold acceptedCalls
  rw [List.length_append, List.length_singleton, List.range_succ, List.filter_append]
  congr 1
  · apply List.filter_congr
    intro k hk
    rw [List.getElem?_append_left (List.mem_range.mp hk)]
  · rw [List.filter_singleton, List.getElem?_append_right (Nat.le_refl _), Nat.sub_self]
    cases haccepted : call.accepted with
    | true => simp [haccepted]
    | false => simp [haccepted]

theorem map_ticket_prepares (k : Nat) (r : Runtime) (call : QueueCall) :
    (call.prepares k r).map (·.ticket) = if call.accepted then [k] else [] := by
  cases call with
  | prepare request =>
    unfold QueueCall.prepares QueueCall.accepted
    dsimp only
    by_cases hdrop : request.decision.drop = true
    · simp [hdrop]
    · simp [hdrop, Runtime.preparedPayload]
  | drainDue | drainAll | clear | recordAck => rfl

theorem tickets_after (calls : List QueueCall) :
    (after calls).prepared.map (·.ticket) = acceptedCalls calls := by
  induction calls using List.reverseRecOn with
  | nil => rfl
  | append_singleton calls call ih =>
    rw [after_append, step_eq, List.map_append, ih, map_ticket_prepares, acceptedCalls_append,
      length_calls_after]

theorem pairwise_acceptedCalls (calls : List QueueCall) : (acceptedCalls calls).Pairwise (· < ·) :=
  List.Pairwise.filter _ List.pairwise_lt_range

/-- The payloads were prepared in the order of their tickets. -/
theorem pairwise_prepared_after (calls : List QueueCall) :
    (after calls).prepared.Pairwise fun p q => p.ticket < q.ticket := by
  have hsorted := pairwise_acceptedCalls calls
  rw [← tickets_after] at hsorted
  exact List.pairwise_map.mp hsorted

/-- The invariant of the queue. -/
structure Ledger (run : QueueRun) : Prop where
  accounted : (run.handed ++ run.runtime.pending).Perm run.prepared
  queue : run.runtime.pending.Sublist run.prepared

theorem ledger_after (calls : List QueueCall) : (after calls).Ledger := by
  induction calls using List.reverseRecOn with
  | nil => exact ⟨List.Perm.refl _, List.Sublist.refl _⟩
  | append_singleton calls call ih =>
    obtain ⟨haccounted, hqueue⟩ := ih
    have hdelivers := call.delivers (after calls).calls.length (after calls).runtime
    rw [after_append, step_eq]
    constructor
    · have hhanded : QueueRun.handed
          { runtime := (call.apply (after calls).calls.length (after calls).runtime).1
            calls := (after calls).calls ++
              [(call, (call.apply (after calls).calls.length (after calls).runtime).2)]
            prepared := (after calls).prepared ++ call.prepares (after calls).calls.length
              (after calls).runtime }
          = (after calls).handed ++
            (call.apply (after calls).calls.length (after calls).runtime).2 := by
        simp [handed]
      rw [hhanded, List.append_assoc]
      refine (hdelivers.accounted.append_left _).trans ?_
      rw [← List.append_assoc]
      exact haccounted.append_right _
    · exact hdelivers.kept.trans (hqueue.append_right _)

/-- Each call hands over what it may, in the order of preparation. -/
theorem calls_after {calls : List QueueCall} {k : Nat} {call : QueueCall}
    {handed : List PendingPayload} (h : (after calls).calls[k]? = some (call, handed)) :
    handed.Pairwise (fun p q => p.ticket < q.ticket) ∧
      ∀ p ∈ handed, call.Releases p ∨ call.Immediate k p := by
  induction calls using List.reverseRecOn with
  | nil => cases h
  | append_singleton calls last ih =>
    have hledger := ledger_after calls
    have hsorted := pairwise_prepared_after (calls ++ [last])
    rw [after_append, step_eq] at h hsorted
    dsimp only at h hsorted
    by_cases hk : k < (after calls).calls.length
    · rw [List.getElem?_append_left hk] at h
      exact ih h
    · obtain rfl : k = (after calls).calls.length := by
        have hlt := (List.getElem?_eq_some_iff.mp h).1
        rw [List.length_append, List.length_singleton] at hlt
        omega
      rw [List.getElem?_append_right (Nat.le_refl _), Nat.sub_self] at h
      cases h
      have hdelivers := call.delivers (after calls).calls.length (after calls).runtime
      constructor
      · exact hsorted.sublist (hdelivers.ordered.trans (hledger.queue.append_right _))
      · exact hdelivers.allowed

/-- After a call, the queue holds nothing that the call lets out. -/
theorem not_releases_after {calls : List QueueCall} {call : QueueCall} (h : call ∈ calls.getLast?) :
    ∀ p ∈ (after calls).runtime.pending, ¬ call.Releases p := by
  induction calls using List.reverseRecOn with
  | nil => cases h
  | append_singleton calls last ih =>
    rw [List.getLast?_concat] at h
    obtain rfl := Option.some.inj h
    rw [after_append, step_eq]
    exact (last.delivers (after calls).calls.length (after calls).runtime).rest

/-- A payload was built by the call with its ticket. -/
theorem prepared_after {calls : List QueueCall} {p : PendingPayload}
    (h : p ∈ (after calls).prepared) :
    ∃ request ack, calls[p.ticket]? = some (.prepare request) ∧
      p = ({ remoteAckFrame := ack } : Runtime).preparedPayload p.ticket request := by
  induction calls using List.reverseRecOn with
  | nil => cases h
  | append_singleton calls last ih =>
    rw [after_append, step_eq] at h
    obtain hold | hnew := List.mem_append.mp h
    · obtain ⟨request, ack, hcall, hp⟩ := ih hold
      refine ⟨request, ack, ?_, hp⟩
      rw [List.getElem?_append_left (List.getElem?_eq_some_iff.mp hcall).1]
      exact hcall
    · cases last with
      | prepare request =>
        unfold QueueCall.prepares at hnew
        dsimp only at hnew
        split at hnew
        · cases hnew
        · obtain rfl := List.mem_singleton.mp hnew
          refine ⟨request, (after calls).runtime.remoteAckFrame, ?_, rfl⟩
          have hticket :
            ((after calls).runtime.preparedPayload (after calls).calls.length request).ticket
              = calls.length := length_calls_after calls
          rw [hticket, List.getElem?_append_right (Nat.le_refl _), Nat.sub_self]
          rfl
      | drainDue | drainAll | clear | recordAck => cases hnew

/-- What is in the queue has been put there by a call of `Prepare` that does not drop it but delays
it. -/
theorem pending_after {calls : List QueueCall} {p : PendingPayload}
    (h : p ∈ (after calls).runtime.pending) :
    ∃ request ack, calls[p.ticket]? = some (.prepare request) ∧ request.decision.drop = false ∧
      0 < request.decision.delayFrames ∧
      p = ({ remoteAckFrame := ack } : Runtime).preparedPayload p.ticket request := by
  induction calls using List.reverseRecOn with
  | nil => cases h
  | append_singleton calls last ih =>
    have hearlier : p ∈ (after calls).runtime.pending →
        ∃ request ack, (calls ++ [last])[p.ticket]? = some (.prepare request) ∧
          request.decision.drop = false ∧ 0 < request.decision.delayFrames ∧
          p = ({ remoteAckFrame := ack } : Runtime).preparedPayload p.ticket request := by
      intro hold
      obtain ⟨request, ack, hcall, hrest⟩ := ih hold
      refine ⟨request, ack, ?_, hrest⟩
      rw [List.getElem?_append_left (List.getElem?_eq_some_iff.mp hcall).1]
      exact hcall
    rw [after_append, step_eq] at h
    cases last with
    | prepare request =>
      unfold QueueCall.apply Runtime.prepare at h
      dsimp only at h
      by_cases hdrop : request.decision.drop = true
      · rw [if_pos hdrop] at h
        exact hearlier h
      · rw [if_neg hdrop] at h
        by_cases hdelay : request.decision.delayFrames ≤ 0
        · rw [if_pos hdelay] at h
          exact hearlier h
        · rw [if_neg hdelay] at h
          rcases List.mem_append.mp h with hold | hnew
          · exact hearlier hold
          · obtain rfl := List.mem_singleton.mp hnew
            refine ⟨request, (after calls).runtime.remoteAckFrame, ?_, Bool.eq_false_iff.mpr hdrop,
              Int.not_le.mp hdelay, rfl⟩
            have hticket :
              ((after calls).runtime.preparedPayload (after calls).calls.length request).ticket
                = calls.length := length_calls_after calls
            rw [hticket, List.getElem?_append_right (Nat.le_refl _), Nat.sub_self]
            rfl
    | drainDue currentFrame now =>
      unfold QueueCall.apply Runtime.drainDue at h
      dsimp only at h
      rw [drainLoop_eq] at h
      exact hearlier (List.mem_of_mem_filter h)
    | drainAll => cases h
    | clear => cases h
    | recordAck _ _ _ => exact hearlier h

/-- What a drain has sent was in the queue. -/
theorem drained_after {calls : List QueueCall} {k currentFrame : Nat} {now : Int}
    {handed : List PendingPayload}
    (h : (after calls).calls[k]? = some (.drainDue currentFrame now, handed)) :
    ∀ p ∈ handed, ∃ request ack, calls[p.ticket]? = some (.prepare request) ∧
      request.decision.drop = false ∧ 0 < request.decision.delayFrames ∧
      p = ({ remoteAckFrame := ack } : Runtime).preparedPayload p.ticket request := by
  induction calls using List.reverseRecOn with
  | nil => cases h
  | append_singleton calls last ih =>
    have hlater : ∀ p : PendingPayload, (∃ request ack, calls[p.ticket]? = some (.prepare request) ∧
        request.decision.drop = false ∧ 0 < request.decision.delayFrames ∧
        p = ({ remoteAckFrame := ack } : Runtime).preparedPayload p.ticket request) →
        ∃ request ack, (calls ++ [last])[p.ticket]? = some (.prepare request) ∧
          request.decision.drop = false ∧ 0 < request.decision.delayFrames ∧
          p = ({ remoteAckFrame := ack } : Runtime).preparedPayload p.ticket request := by
      rintro p ⟨request, ack, hcall, hrest⟩
      refine ⟨request, ack, ?_, hrest⟩
      rw [List.getElem?_append_left (List.getElem?_eq_some_iff.mp hcall).1]
      exact hcall
    rw [after_append, step_eq] at h
    dsimp only at h
    by_cases hk : k < (after calls).calls.length
    · rw [List.getElem?_append_left hk] at h
      exact fun p hp => hlater p (ih h p hp)
    · obtain rfl : k = (after calls).calls.length := by
        have hlt := (List.getElem?_eq_some_iff.mp h).1
        rw [List.length_append, List.length_singleton] at hlt
        omega
      rw [List.getElem?_append_right (Nat.le_refl _), Nat.sub_self] at h
      obtain ⟨rfl, rfl⟩ := Prod.mk.inj (Option.some.inj h)
      intro p hp
      unfold QueueCall.apply Runtime.drainDue at hp
      dsimp only at hp
      rw [drainLoop_eq] at hp
      exact hlater p (pending_after (List.mem_of_mem_filter hp))

/-! ## What the queue guarantees -/

/-- Every payload that is not dropped is handed over once, in the order of preparation, and by a
drain only when the queue takes it to be due. -/
structure ExactlyOnce (calls : List QueueCall) : Prop where
  /-- The run consists of these calls. -/
  calls_eq : (after calls).calls.map (·.1) = calls
  /-- What has been handed over and what is still queued are together the payloads of the calls that
  were not dropped. -/
  accounted : (((after calls).handed ++ (after calls).runtime.pending).map (·.ticket)).Perm
    (acceptedCalls calls)
  /-- Each of them once. -/
  once : (acceptedCalls calls).Nodup
  /-- Each payload is the one that the call with its ticket has built. -/
  built : ∀ p ∈ (after calls).handed ++ (after calls).runtime.pending,
    ∃ request ack, calls[p.ticket]? = some (.prepare request) ∧
      p = ({ remoteAckFrame := ack } : Runtime).preparedPayload p.ticket request
  /-- One call hands over in the order of preparation, and nothing that it must not let out. -/
  ordered : ∀ (k : Nat) (call : QueueCall) (handed : List PendingPayload),
    (after calls).calls[k]? = some (call, handed) →
      handed.Pairwise (fun p q => p.ticket < q.ticket) ∧
        ∀ p ∈ handed, call.Releases p ∨ call.Immediate k p
  /-- Nothing is left behind that the last call should have let out. -/
  drained : ∀ call ∈ calls.getLast?, ∀ p ∈ (after calls).runtime.pending, ¬ call.Releases p

theorem exactlyOnce (calls : List QueueCall) : ExactlyOnce calls where
  calls_eq := map_calls_after calls
  accounted := by
    rw [← tickets_after]
    exact (ledger_after calls).accounted.map _
  once := (pairwise_acceptedCalls calls).imp Nat.ne_of_lt
  built := fun p hp => prepared_after ((ledger_after calls).accounted.mem_iff.mp hp)
  ordered := fun _ _ _ h => calls_after h
  drained := fun _ h => not_releases_after h

/-- Whatever `DrainDue` has sent in a run had reached the frame or the time that its delay stands
for. -/
def NeverEarly (calls : List QueueCall) : Prop :=
  ∀ (k currentFrame : Nat) (now : Int) (handed : List PendingPayload),
    (after calls).calls[k]? = some (.drainDue currentFrame now, handed) →
      ∀ p ∈ handed, ∀ request, calls[p.ticket]? = some (.prepare request) →
        request.dueFrame ≤ currentFrame ∨ request.dueTime ≤ now

theorem neverEarly {calls : List QueueCall} (h : ∀ call ∈ calls, call.Fits) : NeverEarly calls := by
  intro k currentFrame now handed hcall p hp request hrequest
  obtain ⟨request', ack, hcall', hdrop, hdelay, heq⟩ := drained_after hcall p hp
  obtain rfl : request' = request := by
    rw [hrequest] at hcall'
    cases hcall'
    rfl
  have hfits : request'.Fits := h _ (List.mem_of_getElem? hrequest) hdrop hdelay
  obtain ⟨hframe, htime⟩ := Runtime.preparedPayload_due hfits p.ticket { remoteAckFrame := ack }
  have hdue := (calls_after hcall).2 p hp
  rcases hdue with hreleases | himmediate
  · rw [heq] at hreleases
    unfold QueueCall.Releases at hreleases
    rw [hframe, htime] at hreleases
    exact hreleases
  · cases himmediate

/-- A request that is queued with a delay that does not fit can be sent too early by a drain. -/
theorem exists_early (calls : List QueueCall) {request : SendRequest}
    (hdrop : request.decision.drop = false) (hdelay : 0 < request.decision.delayFrames)
    (h : ¬ request.Fits) :
    ∃ currentFrame now, request.frame ≤ currentFrame ∧ request.now ≤ now ∧
      ¬ NeverEarly (calls ++ [.prepare request, .drainDue currentFrame now]) := by
  obtain ⟨currentFrame, now, hframe, hnow, hearly, hearlyTime, hrelease⟩ :=
    Runtime.exists_early hdelay h calls.length (after calls).runtime
  refine ⟨currentFrame, now, hframe, hnow, ?_⟩
  intro hnever
  have hsplit : calls ++ [.prepare request, .drainDue currentFrame now] =
      (calls ++ [.prepare request]) ++ [.drainDue currentFrame now] := by simp
  -- the drain finds the payload at the end of the queue
  have hqueue : (after (calls ++ [.prepare request])).runtime.pending =
      (after calls).runtime.pending ++
        [(after calls).runtime.preparedPayload calls.length request] := by
    rw [after_append, step_eq]
    unfold QueueCall.apply Runtime.prepare
    dsimp only
    rw [if_neg (by rw [hdrop]; exact Bool.false_ne_true), if_neg (by omega), length_calls_after]
  have hcalls :
    (after (calls ++ [.prepare request, .drainDue currentFrame now])).calls[calls.length + 1]? =
      some (.drainDue currentFrame now,
        (after (calls ++ [.prepare request])).runtime.pending.filter fun p =>
          shouldReleaseDelayedInput currentFrame now p.releaseFrame p.releaseTime) := by
    have hlength : (after (calls ++ [.prepare request])).calls.length = calls.length + 1 := by
      rw [length_calls_after, List.length_append, List.length_singleton]
    rw [hsplit, after_append, step_eq]
    dsimp only
    rw [List.getElem?_append_right (by omega), hlength, Nat.sub_self]
    unfold QueueCall.apply Runtime.drainDue
    dsimp only
    rw [drainLoop_eq]
    rfl
  have hmem : (after calls).runtime.preparedPayload calls.length request ∈
      (after (calls ++ [.prepare request])).runtime.pending.filter fun p =>
        shouldReleaseDelayedInput currentFrame now p.releaseFrame p.releaseTime := by
    rw [hqueue]
    exact List.mem_filter.mpr ⟨List.mem_append_right _ (List.mem_singleton_self _), hrelease⟩
  have hrequest : (calls ++ [.prepare request, .drainDue currentFrame now])[calls.length]? =
      some (.prepare request) := by
    rw [List.getElem?_append_right (Nat.le_refl _), Nat.sub_self]
    rfl
  rcases hnever _ _ _ _ hcalls _ hmem request hrequest with hdue | hdue
  · omega
  · omega

/-- Nothing is lost, duplicated or reordered, whatever the delays. A drain sends nothing before the
frame and the time its delay stands for if every delay that is queued fits, and after a request
whose delay does not fit there is a drain that does. -/
theorem delayed_delivery_exactly_once (calls : List QueueCall) :
    ExactlyOnce calls ∧
      ((∀ call ∈ calls, call.Fits) → NeverEarly calls) ∧
      ∀ request, ¬ (QueueCall.prepare request).Fits →
        ∃ currentFrame now, request.frame ≤ currentFrame ∧ request.now ≤ now ∧
          ¬ NeverEarly (calls ++ [.prepare request, .drainDue currentFrame now]) := by
  refine ⟨exactlyOnce calls, neverEarly, ?_⟩
  intro request hfits
  unfold QueueCall.Fits at hfits
  push Not at hfits
  obtain ⟨hdrop, hdelay, hnot⟩ := hfits
  exact exists_early calls hdrop hdelay hnot

/-- The request of a frame at the beginning of time. -/
def delayedRequest (frame : Nat) (delayFrames jitterFrames : Int) : SendRequest where
  generation := 7
  frame := frame
  input := {}
  config := { delayFrames, jitterFrames }
  localInputs := ∅
  now := 0

/-- Three frames of delay, and a jitter of two. -/
def jitteredCalls : List QueueCall :=
  [.prepare (delayedRequest 11 3 2), .prepare (delayedRequest 12 3 2), .drainDue 15 49000000,
    .drainDue 15 50000000, .clear]

theorem delayed_delivery_exactly_once_jittered : NeverEarly jitteredCalls ∧
    (after jitteredCalls).calls.map (fun call => call.2.map (·.ticket)) = [[], [], [1], [], [0]] :=
  ⟨(delayed_delivery_exactly_once jitteredCalls).2.1 (by decide), by decide⟩

/-- With a delay of 2147484 frames the milliseconds wrap around, and the payload of frame 10 goes
out in the next frame, where it should wait until frame 2147494 or for ten hours. -/
theorem long_delay_sent_at_once :
    let calls := [.prepare (delayedRequest 10 2147484 0), .drainDue 11 0]
    ¬ NeverEarly calls ∧ (after calls).handed.map (·.ticket) = [0] ∧
      (delayedRequest 10 2147484 0).dueFrame = 2147494 ∧
      (delayedRequest 10 2147484 0).dueTime = 35791400000000 := by
  refine ⟨?_, by decide, by decide, by decide⟩
  intro hnever
  have hdue := hnever 1 11 0 _ rfl
    (({} : Runtime).preparedPayload 0 (delayedRequest 10 2147484 0)) (by decide) _ rfl
  exact absurd hdue (by decide)

/-- With jitter alone, the input of frame 12 overtakes the one of frame 11. -/
example :
    (after [.prepare (delayedRequest 11 0 2), .prepare (delayedRequest 12 0 2),
      .drainDue 13 0]).handed.map (·.ticket) = [1, 0] := by
  decide

end QueueRun

end Bigstar.Netplay.InputDelivery
