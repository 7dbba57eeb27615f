import Bigstar.Netplay.InputDelivery
import Bigstar.Netplay.Proofs.ContiguousFrameProofs

/-!
# What a packet carries and what its arrival does

One lemma for each function of the delivery: the frames and inputs of the bundle that
`selectUnackedInputs` cuts, where it starts, what becomes of an acknowledgement, and what a packet
that is handled adds to the timeline.
-/

namespace Bigstar.Netplay.InputDelivery

open OrderedMap InputTimeline RollbackRuntime RollbackStorage

/-! ## Building -/

/-- A bundle is a run of consecutive frames. -/
theorem map_frame_selectLoop (generation : Nat) {frame : Nat} (currentInput : InputState)
    (localInputs : InputMap) (hframe : frame ≤ u32Max) (rounds entryFrame : Nat) :
    (selectLoop generation frame currentInput localInputs rounds entryFrame).map FramedInput.frame =
      List.range' entryFrame (min rounds (frame + 1 - entryFrame)) := by
  induction rounds generalizing entryFrame with
  | zero => simp [selectLoop]
  | succ rounds ih =>
    unfold selectLoop
    by_cases hle : entryFrame ≤ frame
    · rw [if_pos hle, List.map_cons]
      by_cases hmax : entryFrame = u32Max
      · rw [if_pos hmax, show min (rounds + 1) (frame + 1 - entryFrame) = 1 by omega]
        rfl
      · rw [if_neg hmax, ih,
          show min (rounds + 1) (frame + 1 - entryFrame) =
            min rounds (frame + 1 - (entryFrame + 1)) + 1 by omega, List.range'_succ]
    · rw [if_neg hle, show min (rounds + 1) (frame + 1 - entryFrame) = 0 by omega]
      rfl

/-- An entry is for a frame of the run, with the recorded input of that frame if there is one. -/
theorem mem_selectLoop {generation frame : Nat} {currentInput : InputState} {localInputs : InputMap}
    {rounds entryFrame : Nat} {entry : FramedInput}
    (h : entry ∈ selectLoop generation frame currentInput localInputs rounds entryFrame) :
    entry.generation = generation ∧ entryFrame ≤ entry.frame ∧ entry.frame ≤ frame ∧
      entry.input = localInputs[entry.frame]?.getD currentInput := by
  induction rounds generalizing entryFrame with
  | zero => exact absurd h List.not_mem_nil
  | succ rounds ih =>
    unfold selectLoop at h
    split at h
    · next hle =>
      rcases List.mem_cons.mp h with rfl | h
      · exact ⟨rfl, Nat.le_refl entryFrame, hle, rfl⟩
      · split at h
        · exact absurd h List.not_mem_nil
        · obtain ⟨hgen, h₁, h₂, hinput⟩ := ih h
          exact ⟨hgen, by omega, h₂, hinput⟩
    · exact absurd h List.not_mem_nil

theorem firstUnackedFrame_le (frame : Nat) (localInputs : InputMap) (remoteAckFrame : Option Nat) :
    firstUnackedFrame frame localInputs remoteAckFrame ≤ frame := by
  have hcap : ∀ firstFrame, (if firstFrame > frame then frame else firstFrame) ≤ frame := by
    intro firstFrame
    split
    · exact Nat.le_refl frame
    · next h => exact Nat.le_of_not_lt h
  exact hcap _

/-- With the recorded inputs starting at `begin`, the bundle starts there or right behind what has
been acknowledged. -/
theorem firstUnackedFrame_eq {frame begin : Nat} {localInputs : InputMap}
    (remoteAckFrame : Option Nat)
    (hbegin : localInputs.firstKey = some begin) (hle : begin ≤ frame) :
    firstUnackedFrame frame localInputs remoteAckFrame =
      match remoteAckFrame with
      | none => begin
      | some ack => if ack < frame then max (ack + 1) begin else frame := by
  unfold firstUnackedFrame
  rw [hbegin]
  cases remoteAckFrame with
  | none =>
    dsimp only
    rw [Nat.min_eq_right hle, Nat.max_self, if_neg (Nat.not_lt.mpr hle)]
  | some ack =>
    dsimp only
    by_cases hack : ack < frame
    · rw [if_pos hack, if_pos hack, if_neg]
      omega
    · rw [if_neg hack, if_neg hack, Nat.max_eq_left hle, if_neg (Nat.lt_irrefl frame)]

/-- What a packet built for `frame` holds, given the inputs that are on record. -/
structure Carries (generation frame : Nat) (localInputs : InputMap) (remoteAckFrame : Option Nat)
    (ackFrameToSend : Option Nat) (payload : Payload) : Prop where
  entries : ∀ entry ∈ payload.entries,
    entry.generation = generation ∧ localInputs[entry.frame]? = some entry.input
  ackFrame : AtMost payload.ackFrame ackFrameToSend
  bundle : ∀ entries ackFrame, payload = .bundle entries ackFrame →
    ∃ length, 0 < length ∧ entries.map FramedInput.frame =
      List.range' (firstUnackedFrame frame localInputs remoteAckFrame) length

theorem atMost_wireAckFrame (ackFrame : Option Nat) : AtMost (wireAckFrame ackFrame) ackFrame := by
  unfold wireAckFrame
  split
  · exact atMost_none ackFrame
  · exact AtMost.refl ackFrame

/-- Every frame from the first recorded one to the newest being on record, no gap of the bundle is
filled with the current input. -/
theorem carries_buildPayload (generation : Nat) {frame begin : Nat} {input : InputState}
    (bundleHistory : Int) {localInputs : InputMap} (remoteAckFrame ackFrameToSend : Option Nat)
    (hmax : frame ≤ u32Max) (hbegin : localInputs.firstKey = some begin) (hle : begin ≤ frame)
    (hrecorded : ∀ f, begin ≤ f → f ≤ frame → ∃ v, localInputs[f]? = some v)
    (hinput : localInputs[frame]? = some input) :
    Carries generation frame localInputs remoteAckFrame ackFrameToSend
      (buildPayload generation frame input bundleHistory localInputs remoteAckFrame
        ackFrameToSend) := by
  unfold buildPayload
  split
  · refine ⟨?_, atMost_none ackFrameToSend, ?_⟩
    · intro entry hentry
      obtain rfl := List.mem_singleton.mp hentry
      exact ⟨rfl, hinput⟩
    · intro entries ackFrame h
      exact absurd h (by simp)
  · have hfirst := firstUnackedFrame_le frame localInputs remoteAckFrame
    refine ⟨?_, atMost_wireAckFrame ackFrameToSend, ?_⟩
    · intro entry hentry
      obtain ⟨hgen, h₁, h₂, hvalue⟩ := mem_selectLoop hentry
      refine ⟨hgen, ?_⟩
      have hge : begin ≤ entry.frame := by
        refine Nat.le_trans ?_ h₁
        rw [firstUnackedFrame_eq remoteAckFrame hbegin hle]
        split
        · exact Nat.le_refl begin
        · split
          · exact Nat.le_max_right _ _
          · exact hle
      obtain ⟨v, hv⟩ := hrecorded entry.frame hge h₂
      rw [hvalue, hv]
      rfl
    · intro entries ackFrame h
      obtain ⟨rfl, -⟩ := Payload.bundle.inj h
      refine ⟨_, ?_, map_frame_selectLoop generation input localInputs hmax _ _⟩
      have hrounds : (min (max (kMaxInputBundleEntries : Int) 1) kMaxInputBundleEntries).toNat =
          32 := by
        decide
      rw [hrounds]
      omega

/-! ## Acknowledgements -/

/-- The recorded acknowledgement moves to the one that came in or stays, and never goes back. -/
theorem recordRemoteAck_cases (remoteAckFrame : Option Nat) (ackFrame lastSent noFrame : Nat) :
    (recordRemoteAck remoteAckFrame ackFrame lastSent noFrame).1 = remoteAckFrame ∨
      (recordRemoteAck remoteAckFrame ackFrame lastSent noFrame).1 = some ackFrame ∧
        AtMost remoteAckFrame (some ackFrame) := by
  unfold recordRemoteAck
  split
  · exact Or.inl rfl
  · cases remoteAckFrame with
    | none => exact Or.inr ⟨rfl, atMost_none _⟩
    | some current =>
      dsimp only
      split
      · exact Or.inl rfl
      · refine Or.inr ⟨rfl, ?_⟩
        intro x hx
        obtain rfl := Option.some.inj hx
        exact ⟨ackFrame, rfl, by omega⟩

namespace Peer

theorem recordAck_cases (p : Peer) (ackFrame : Option Nat) :
    p.recordAck ackFrame = p ∨
      p.recordAck ackFrame = { p with remoteAckFrame := ackFrame } ∧
        AtMost p.remoteAckFrame ackFrame := by
  unfold recordAck
  cases ackFrame with
  | none => exact Or.inl rfl
  | some ack =>
    rcases recordRemoteAck_cases p.remoteAckFrame ack p.inputs.lastSentInputFrame kNoFrame with
      h | ⟨h, hle⟩
    · exact Or.inl (by dsimp only; rw [h])
    · exact Or.inr ⟨by dsimp only; rw [h], hle⟩

/-! ## Receiving -/

/-- What a packet may change on the side that handles it. -/
structure Received (p p' : Peer) (payload : Payload) : Prop where
  stored : Runtime.Stored p.inputs p'.inputs
    (payload.entries.map fun entry => (entry.frame, entry.input))
  remoteAck : p'.remoteAckFrame = p.remoteAckFrame ∨
    p'.remoteAckFrame = payload.ackFrame ∧ AtMost p.remoteAckFrame payload.ackFrame

theorem stored_foldl (rollbackEnabled : Bool) (localFrame : Nat) (entries : List FramedInput)
    (p : Peer) :
    Runtime.Stored p.inputs (entries.foldl (storeRemoteInput rollbackEnabled localFrame) p).inputs
        (entries.map fun entry => (entry.frame, entry.input)) ∧
      (entries.foldl (storeRemoteInput rollbackEnabled localFrame) p).remoteAckFrame =
        p.remoteAckFrame := by
  induction entries generalizing p with
  | nil => exact ⟨Runtime.stored_self p.inputs [], rfl⟩
  | cons entry entries ih =>
    obtain ⟨hstored, hack⟩ := ih (p.storeRemoteInput rollbackEnabled localFrame entry)
    have hfirst : Runtime.Stored p.inputs
      (p.storeRemoteInput rollbackEnabled localFrame entry).inputs
        [(entry.frame, entry.input)] :=
      Runtime.stored_storeRemoteInputLocked p.sharedLogicalEpoch rollbackEnabled localFrame p.inputs
        { frame := entry.frame, input := entry.input }
    exact ⟨hfirst.trans hstored, hack⟩

theorem received_receive (generation : Nat) (rollbackEnabled : Bool) (localFrame : Nat) (p : Peer)
    (payload : Payload) :
    Received p (p.receive generation rollbackEnabled localFrame payload) payload := by
  cases payload with
  | input packet =>
    unfold receive
    dsimp only
    split
    · have hstored := (stored_foldl rollbackEnabled localFrame [packet] p).1
      exact ⟨hstored, Or.inl rfl⟩
    · exact ⟨Runtime.stored_self p.inputs _, Or.inl rfl⟩
  | bundle entries ackFrame =>
    unfold receive
    dsimp only
    split
    · obtain ⟨hstored, hack⟩ :=
        stored_foldl rollbackEnabled localFrame entries (p.recordAck ackFrame)
      rcases p.recordAck_cases ackFrame with heq | ⟨heq, hle⟩
      · rw [heq] at hstored hack ⊢
        exact ⟨hstored, Or.inl hack⟩
      · rw [heq] at hstored hack ⊢
        exact ⟨hstored, Or.inr ⟨hack, hle⟩⟩
    · exact ⟨Runtime.stored_self p.inputs _, Or.inl rfl⟩

/-- A packet of another generation changes nothing. -/
theorem receive_of_foreign {generation : Nat} (rollbackEnabled : Bool) (localFrame : Nat) (p : Peer)
    {payload : Payload} (h : ∃ entry ∈ payload.entries.head?, entry.generation ≠ generation) :
    p.receive generation rollbackEnabled localFrame payload = p := by
  obtain ⟨entry, hentry, hne⟩ := h
  cases payload with
  | input packet =>
    obtain rfl : packet = entry := Option.some.inj hentry
    unfold receive
    dsimp only
    rw [if_neg hne]
  | bundle entries ackFrame =>
    unfold receive
    dsimp only
    rw [if_neg (fun h => hne (h entry hentry))]

end Peer

end Bigstar.Netplay.InputDelivery
