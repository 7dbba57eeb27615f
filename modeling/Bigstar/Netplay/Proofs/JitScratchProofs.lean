import Bigstar.Netplay.JitScratch

/-!
# What a replay presents to the game

The tick, the keys and the touch screen of a history entry are computed from the frame and from the
inputs. The action, and the tick of a frame without a canonical one, are read from the guest's
memory when the correction is armed, not from the memory of the frame that is replayed.
-/

namespace Bigstar.Netplay.JitScratch

open Arm LittleEndian GameRAMRollback RollbackStorage InputTimeline

/-! ## The scratch write -/

theorem length_packet (mem : Memory) (tick : Nat) (action : UInt8) (input : InputState) :
    (packet mem tick action input).length = 52 := by
  simp only [packet, metadataBytes, List.length_append, length_toBytes, List.length_cons,
    List.length_nil, List.length_map, List.length_range]

theorem keysOf_lt (input : InputState) : keysOf input < 256 ^ 2 := by
  unfold keysOf
  have h : (~~~input.keyMask &&& 0xFFF).toNat ≤ (0xFFF : UInt32).toNat := by
    rw [UInt32.toNat_and]
    exact Nat.and_le_right
  have hmax : (0xFFF : UInt32).toNat < 256 ^ 2 := by decide
  omega

section Player

variable {tick : Nat} {action : UInt8} {input : Fin 2 → InputState} {mem : Memory} {player : Fin 2}

/-- The inputs of a player are written to their two places only. -/
theorem writePlayer_outside {i : Nat}
    (hkeys : i < scratchKeysAddr + player * 2 ∨ scratchKeysAddr + player * 2 + 2 ≤ i)
    (hpacket : i < scratchPacketsAddr + player * 0x40 ∨
      scratchPacketsAddr + player * 0x40 + 52 ≤ i) :
    writePlayer tick action input mem player i = mem i := by
  unfold writePlayer
  rw [storeBytes_outside _ _ (by rw [length_packet]; exact hpacket), store_outside _ _ _ hkeys]

theorem load_writePlayer_apart {width addr : Nat}
    (hkeys : addr + width ≤ scratchKeysAddr + player * 2 ∨ scratchKeysAddr + player * 2 + 2 ≤ addr)
    (hpacket : addr + width ≤ scratchPacketsAddr + player * 0x40 ∨
      scratchPacketsAddr + player * 0x40 + 52 ≤ addr) :
    load width (writePlayer tick action input mem player) addr = load width mem addr := by
  refine load_congr ?_
  intro i hle hlt
  exact writePlayer_outside (by omega) (by omega)

/-- The keys are there. -/
theorem load_writePlayer_keys (player : Fin 2) :
    load 2 (writePlayer tick action input mem player) (scratchKeysAddr + player * 2) =
      keysOf (input player) := by
  have hplayer := player.isLt
  unfold writePlayer
  dsimp only
  rw [load_storeBytes_apart _ _ (by unfold scratchKeysAddr scratchPacketsAddr; omega),
    load_store_self, Nat.mod_eq_of_lt (keysOf_lt _)]

/-- So are action and touch. -/
theorem load_writePlayer_metadata (player : Fin 2) :
    load 4 (writePlayer tick action input mem player) (scratchPacketsAddr + player * 0x40 + 4) =
      ofBytes (metadataBytes action (input player)) := by
  unfold writePlayer packet
  dsimp only
  have hinside := load_storeBytes_inside
    (store 2 mem (scratchKeysAddr + player * 2) (keysOf (input player)))
    (scratchPacketsAddr + player * 0x40) (toBytes 2 tick ++ toBytes 2 (keysOf (input player)))
    (metadataBytes action (input player))
  rw [List.length_append, length_toBytes, length_toBytes] at hinside
  exact hinside _

end Player

/-- The tick that the scratch write presents. -/
def tickOf (config : ScratchConfig) (frame : Nat) (mem : Memory) : Nat :=
  if config.canonical frame then (frame - config.sharedLogicalEpoch) % 0x10000
  else load 2 mem kNetPacketTickAddr

/-- The inputs of the players as they are presented. -/
def inputOf (automated : Automation) (localPlayer : Fin 2)
    (inputs : ReplayFrameInputs) (player : Fin 2) : InputState :=
  automated player
    (convertStockXToTouch
      (selectPlayerInput player localPlayer inputs.localInput inputs.remoteInput true))

/-- The entry of a tick as the gate reads it. -/
def entryOf (tick : Nat) (action : UInt8) (input : Fin 2 → InputState) : ReplayInput where
  tick := tick
  keys0 := keysOf (input 0)
  keys1 := keysOf (input 1)
  player0Metadata := ofBytes (metadataBytes action (input 0))
  player1Metadata := ofBytes (metadataBytes action (input 1))

/-- The memory with the tick of the frame, before the scratch area is written. -/
def tickMemory (config : ScratchConfig) (frame : Nat) (mem : Memory) : Memory :=
  if config.canonical frame then store 2 mem kNetPacketTickAddr (tickOf config frame mem) else mem

theorem tickOf_lt (config : ScratchConfig) (frame : Nat) (mem : Memory) :
    tickOf config frame mem < 256 ^ 2 := by
  unfold tickOf
  split
  · exact Nat.mod_lt _ (by decide)
  · exact load_lt 2 mem kNetPacketTickAddr

/-- The action of a packet is that of the guest. -/
theorem tickMemory_action (config : ScratchConfig) (frame : Nat) (mem : Memory) :
    tickMemory config frame mem kNetPacketActionAddr = mem kNetPacketActionAddr := by
  unfold tickMemory
  split
  · exact store_outside 2 mem _ (by unfold kNetPacketTickAddr kNetPacketActionAddr; omega)
  · rfl

section Write

variable (config : ScratchConfig) (automated : Automation) (frame : Nat) (mem : Memory)
  (localPlayer : Fin 2) (inputs : ReplayFrameInputs)

/-- The scratch area gets the inputs of both players. -/
theorem writeJitScratchInputs_eq :
    writeJitScratchInputs config automated frame mem localPlayer inputs.localInput
      inputs.remoteInput true =
      writePlayer (tickOf config frame mem) (mem kNetPacketActionAddr)
        (inputOf automated localPlayer inputs)
        (writePlayer (tickOf config frame mem) (mem kNetPacketActionAddr)
          (inputOf automated localPlayer inputs)
          (store 1 (store 2 (tickMemory config frame mem) scratchTickAddr (tickOf config frame mem))
            scratchActionAddr (mem kNetPacketActionAddr).toNat) 0) 1 := by
  have haction := tickMemory_action config frame mem
  unfold tickMemory tickOf at haction
  unfold writeJitScratchInputs tickMemory tickOf
  by_cases hcanonical : config.canonical frame = true
  · rw [if_pos hcanonical, if_pos hcanonical] at haction
    rw [if_pos hcanonical, if_pos hcanonical, if_pos hcanonical]
    dsimp only
    rw [haction]
    rfl
  · rw [if_neg hcanonical, if_neg hcanonical, if_neg hcanonical]
    rfl

/-- What was written is what the gate reads. -/
theorem readScratch_write :
    readScratch (writeJitScratchInputs config automated frame mem localPlayer inputs.localInput
      inputs.remoteInput true) =
      entryOf (tickOf config frame mem) (mem kNetPacketActionAddr)
        (inputOf automated localPlayer inputs) := by
  rw [writeJitScratchInputs_eq]
  unfold readScratch entryOf
  rw [ReplayInput.mk.injEq]
  refine ⟨?_, ?_, load_writePlayer_keys 1, ?_, load_writePlayer_metadata 1⟩
  · rw [load_writePlayer_apart (by decide) (by decide),
      load_writePlayer_apart (by decide) (by decide),
      load_store_apart _ _ (by decide), load_store_self,
      Nat.mod_eq_of_lt (tickOf_lt config frame mem)]
  · rw [load_writePlayer_apart (by decide) (by decide)]
    exact load_writePlayer_keys 0
  · rw [load_writePlayer_apart (by decide) (by decide)]
    exact load_writePlayer_metadata 0

/-- The write changes the scratch area and, for a canonical frame, the packet tick. -/
theorem writeJitScratchInputs_outside {i : Nat} (hscratch : i < scratchTickAddr)
    (htick : config.canonical frame = true → i < kNetPacketTickAddr ∨ kNetPacketTickAddr + 2 ≤ i) :
    writeJitScratchInputs config automated frame mem localPlayer inputs.localInput
      inputs.remoteInput true i =
      mem i := by
  unfold scratchTickAddr at hscratch
  rw [writeJitScratchInputs_eq,
    writePlayer_outside (by unfold scratchKeysAddr; omega) (by unfold scratchPacketsAddr; omega),
    writePlayer_outside (by unfold scratchKeysAddr; omega) (by unfold scratchPacketsAddr; omega),
    store_outside _ _ _ (by unfold scratchActionAddr; omega),
    store_outside _ _ _ (by unfold scratchTickAddr; omega)]
  unfold tickMemory
  split
  · next hcanonical => exact store_outside 2 mem _ (htick hcanonical)
  · rfl

end Write

theorem ScratchConfig.canonical_mono {config : ScratchConfig} {frame later : Nat}
    (h : config.canonical frame = true) (hle : frame ≤ later) : config.canonical later = true := by
  unfold canonical at h ⊢
  rw [Bool.and_eq_true] at h ⊢
  refine ⟨h.1, ?_⟩
  have hepoch := of_decide_eq_true h.2
  exact decide_eq_true (by omega)

/-- The write leaves what the writes of later frames read. -/
theorem reads_after_write (config : ScratchConfig) (automated : Automation) {frame later : Nat}
    (mem : Memory) (localPlayer : Fin 2) (inputs : ReplayFrameInputs) (hle : frame ≤ later) :
    let after := writeJitScratchInputs config automated frame mem localPlayer inputs.localInput
      inputs.remoteInput true
    after kNetPacketActionAddr = mem kNetPacketActionAddr ∧
      tickOf config later after = tickOf config later mem := by
  constructor
  · exact writeJitScratchInputs_outside _ _ _ _ _ _ (by decide) (fun _ => by decide)
  · unfold tickOf
    split
    · rfl
    · next hlater =>
      have hframe : ¬ config.canonical frame = true :=
        fun h => hlater (ScratchConfig.canonical_mono h hle)
      refine load_congr ?_
      intro i hi hi'
      unfold kNetPacketTickAddr at hi hi'
      exact writeJitScratchInputs_outside _ _ _ _ _ _ (by unfold scratchTickAddr; omega)
        (fun h => absurd h hframe)

/-! ## The history -/

section Replay

variable (config : ScratchConfig) (automated : Nat → Automation) (localPlayer : Fin 2)

theorem length_replayInputs (frame : Nat) (resolvedInputs : List ReplayFrameInputs) (mem : Memory) :
    (replayInputs config automated localPlayer frame resolvedInputs mem).1.length =
      resolvedInputs.length := by
  induction resolvedInputs generalizing frame mem with
  | nil => rfl
  | cons inputs resolvedInputs ih =>
    unfold replayInputs
    rw [List.length_cons, List.length_cons, ih]

/-- Every entry is computed from the memory before the loop. -/
theorem replayInputs_getElem? (frame : Nat) {resolvedInputs : List ReplayFrameInputs} (mem : Memory)
    {index : Nat} {inputs : ReplayFrameInputs} (h : resolvedInputs[index]? = some inputs) :
    (replayInputs config automated localPlayer frame resolvedInputs mem).1[index]? =
      some (entryOf (tickOf config (frame + index) mem) (mem kNetPacketActionAddr)
        (inputOf (automated (frame + index)) localPlayer inputs)) := by
  induction resolvedInputs generalizing frame mem index with
  | nil => cases h
  | cons first resolvedInputs ih =>
    unfold replayInputs
    cases index with
    | zero =>
      cases h
      exact congrArg some (readScratch_write _ _ _ _ _ _)
    | succ index =>
      rw [List.getElem?_cons_succ] at h ⊢
      have hreads := reads_after_write config (automated frame) mem localPlayer first
        (show frame ≤ frame + 1 + index by omega)
      rw [ih (frame + 1) _ h, hreads.1, hreads.2,
        show frame + 1 + index = frame + (index + 1) by omega]

end Replay

/-- The values of an entry fit into their fields. -/
structure ReplayInput.Fits (entry : ReplayInput) : Prop where
  tick : entry.tick < 256 ^ 2
  keys0 : entry.keys0 < 256 ^ 2
  keys1 : entry.keys1 < 256 ^ 2
  player0Metadata : entry.player0Metadata < 256 ^ 4
  player1Metadata : entry.player1Metadata < 256 ^ 4

theorem fits_entryOf {tick : Nat} (htick : tick < 256 ^ 2) (action : UInt8)
    (input : Fin 2 → InputState) :
    (entryOf tick action input).Fits where
  tick := htick
  keys0 := keysOf_lt _
  keys1 := keysOf_lt _
  player0Metadata := ofBytes_lt (metadataBytes action (input 0))
  player1Metadata := ofBytes_lt (metadataBytes action (input 1))

theorem readEntry_congr {mem mem' : Memory} {index : Nat}
    (h : ∀ i, entryAddress index ≤ i → i < entryAddress index + 16 → mem' i = mem i) :
    readEntry mem' index = readEntry mem index := by
  have hload : ∀ width offset, offset + width ≤ 16 →
      load width mem' (entryAddress index + offset) =
        load width mem (entryAddress index + offset) := by
    intro width offset hle
    refine load_congr ?_
    intro i hi hi'
    exact h i (by omega) (by omega)
  unfold readEntry
  rw [ReplayInput.mk.injEq]
  exact ⟨hload 2 0 (by omega), hload 2 2 (by omega), hload 2 4 (by omega), hload 4 8 (by omega),
    hload 4 12 (by omega)⟩

/-- An entry is read as it was written. -/
theorem readEntry_writeEntry_self {entry : ReplayInput} (h : entry.Fits)
    (mem : Memory) (index : Nat) :
    readEntry (writeEntry mem index entry) index = entry := by
  unfold readEntry writeEntry
  rw [load_store_apart _ _ (by omega), load_store_apart _ _ (by omega),
    load_store_apart _ _ (by omega),
    load_store_apart _ _ (by omega), load_store_apart _ _ (by omega), load_store_self,
    load_store_apart _ _ (by omega), load_store_apart _ _ (by omega),
    load_store_apart _ _ (by omega),
    load_store_apart _ _ (by omega), load_store_self,
    load_store_apart _ _ (by omega), load_store_apart _ _ (by omega),
    load_store_apart _ _ (by omega),
    load_store_self, load_store_apart _ _ (by omega), load_store_self, load_store_self,
    Nat.mod_eq_of_lt h.tick, Nat.mod_eq_of_lt h.keys0, Nat.mod_eq_of_lt h.keys1,
    Nat.mod_eq_of_lt h.player0Metadata, Nat.mod_eq_of_lt h.player1Metadata]

theorem writeEntry_outside {mem : Memory} {index i : Nat} {entry : ReplayInput}
    (h : i < entryAddress index ∨ entryAddress index + 16 ≤ i) :
    writeEntry mem index entry i = mem i := by
  unfold writeEntry
  rw [store_outside _ _ _ (by omega), store_outside _ _ _ (by omega),
    store_outside _ _ _ (by omega),
    store_outside _ _ _ (by omega), store_outside _ _ _ (by omega), store_outside _ _ _ (by omega)]

theorem readEntry_writeEntries_before {entries : List ReplayInput}
    {start index : Nat} (mem : Memory)
    (h : index < start) : readEntry (writeEntries start entries mem) index =
      readEntry mem index := by
  induction entries generalizing start mem with
  | nil => rfl
  | cons entry entries ih =>
    unfold writeEntries
    rw [ih _ (by omega)]
    refine readEntry_congr ?_
    intro i hi hi'
    refine writeEntry_outside (.inl ?_)
    unfold entryAddress kRomLoopHistoryEntrySize at hi' ⊢
    omega

/-- So is each of several. -/
theorem readEntry_writeEntries {entries : List ReplayInput} (hfits : ∀ entry ∈ entries, entry.Fits)
    {start index : Nat} (mem : Memory) {entry : ReplayInput} (h : entries[index]? = some entry) :
    readEntry (writeEntries start entries mem) (start + index) = entry := by
  induction entries generalizing start mem index with
  | nil => cases h
  | cons first entries ih =>
    unfold writeEntries
    cases index with
    | zero =>
      cases h
      rw [readEntry_writeEntries_before _ (by omega), Nat.add_zero,
        readEntry_writeEntry_self (hfits entry List.mem_cons_self)]
    | succ index =>
      rw [List.getElem?_cons_succ] at h
      rw [show start + (index + 1) = start + 1 + index by omega]
      exact ih (fun entry hentry => hfits entry (List.mem_cons_of_mem _ hentry)) _ h

/-- The entries of an armed correction. -/
theorem readEntry_arm {c : Correction} {mem armed : Memory}
    (h : c.arm mem = some armed) {index : Nat}
    {inputs : ReplayFrameInputs} (hinputs : c.resolvedInputs[index]? = some inputs) :
    readEntry armed index =
      entryOf (tickOf c.config (c.restoreFrame + index) mem) (mem kNetPacketActionAddr)
        (inputOf (c.automated (c.restoreFrame + index)) c.localPlayer inputs) := by
  unfold Correction.arm at h
  dsimp only at h
  split at h
  · cases h
  · cases h
    have hfits : ∀ entry ∈ (replayInputs c.config c.automated c.localPlayer c.restoreFrame
        c.resolvedInputs mem).1, entry.Fits := by
      intro entry hentry
      obtain ⟨i, hi⟩ := List.mem_iff_getElem?.mp hentry
      have hlt := (List.getElem?_eq_some_iff.mp hi).1
      rw [length_replayInputs] at hlt
      rw [replayInputs_getElem? _ _ _ _ _ (List.getElem?_eq_getElem hlt)] at hi
      cases hi
      exact fits_entryOf (tickOf_lt _ _ _) _ _
    have hstores : ∀ m : Memory, readEntry
        (store 4 (store 4 (store 4 m kRomLoopHistoryEnabledAddress 1) 0x02001AC4 0) 0x02001AC0 0)
          index =
        readEntry m index := by
      intro m
      refine readEntry_congr ?_
      intro i hi _
      unfold entryAddress kRomLoopHistoryAddress at hi
      rw [store_outside _ _ _ (by omega), store_outside _ _ _ (by omega),
        store_outside _ _ _ (by unfold kRomLoopHistoryEnabledAddress; omega)]
    rw [hstores]
    conv_lhs => rw [← Nat.zero_add index]
    exact readEntry_writeEntries hfits _
      (replayInputs_getElem? c.config c.automated c.localPlayer c.restoreFrame mem hinputs)

/-! ## The original presentation -/

/-- The guest's memory and the computer players at the time of a scratch write. -/
structure Moment where
  mem : Memory
  automated : Automation

/-- The inputs of both players that are resolved for a frame. -/
def Correction.players (c : Correction) (inputs : ReplayFrameInputs) (player : Fin 2) :
    InputState :=
  selectPlayerInput player c.localPlayer inputs.localInput inputs.remoteInput true

/-- The parts of an input that the scratch area shows. -/
def shown (input : InputState) : Nat × Bool × Nat × Nat :=
  (keysOf input, input.touching, min input.touchX.toNat 255, min input.touchY.toNat 191)

/-- What is read at the two moments, besides the frame and the inputs, is the same. -/
structure SameReads (config : ScratchConfig) (frame : Nat) (players : Fin 2 → InputState)
    (left right : Moment) : Prop where
  action : left.mem kNetPacketActionAddr = right.mem kNetPacketActionAddr
  tick : config.canonical frame = false →
    load 2 left.mem kNetPacketTickAddr = load 2 right.mem kNetPacketTickAddr
  automated : ∀ player, shown (left.automated player (convertStockXToTouch (players player))) =
    shown (right.automated player (convertStockXToTouch (players player)))

/-- The metadata say all of action and touch. -/
theorem metadataBytes_eq_iff {action action' : UInt8} {input input' : InputState} :
    metadataBytes action input = metadataBytes action' input' ↔
      action = action' ∧ input.touching = input'.touching ∧
        min input.touchX.toNat 255 = min input'.touchX.toNat 255 ∧
        min input.touchY.toNat 191 = min input'.touchY.toNat 191 := by
  have hbyte : ∀ m n : Nat, m < 256 → n < 256 → (UInt8.ofNat m = UInt8.ofNat n ↔ m = n) := by
    intro m n hm hn
    rw [← UInt8.toNat_inj, UInt8.toNat_ofNat_of_lt' hm, UInt8.toNat_ofNat_of_lt' hn]
  have htouching : ((if input.touching then 1 else 0 : UInt8) = if input'.touching then 1 else 0) ↔
      input.touching = input'.touching := by
    cases input.touching <;> cases input'.touching <;> decide
  unfold metadataBytes
  rw [List.cons.injEq, List.cons.injEq, List.cons.injEq, List.cons.injEq, htouching,
    hbyte _ _ (by omega) (by omega), hbyte _ _ (by omega) (by omega)]
  exact ⟨fun ⟨h₁, h₂, h₃, h₄, _⟩ => ⟨h₁, h₂, h₃, h₄⟩, fun ⟨h₁, h₂, h₃, h₄⟩ => ⟨h₁, h₂, h₃, h₄, rfl⟩⟩

/-- Entries say all of tick, action and inputs. -/
theorem entryOf_eq_iff {tick tick' : Nat} {action action' : UInt8}
    {input input' : Fin 2 → InputState} :
    entryOf tick action input = entryOf tick' action' input' ↔
      action = action' ∧ tick = tick' ∧ ∀ player, shown (input player) = shown (input' player) := by
  have hmetadata : ∀ player, ofBytes (metadataBytes action (input player)) =
      ofBytes (metadataBytes action' (input' player)) ↔
      metadataBytes action (input player) = metadataBytes action' (input' player) :=
    fun _ => ofBytes_inj rfl
  unfold entryOf
  rw [ReplayInput.mk.injEq, hmetadata, hmetadata, metadataBytes_eq_iff, metadataBytes_eq_iff,
    Fin.forall_fin_two]
  unfold shown
  simp only [Prod.mk.injEq]
  tauto

theorem tickOf_eq_iff {config : ScratchConfig} {frame : Nat} {mem mem' : Memory} :
    tickOf config frame mem = tickOf config frame mem' ↔
      (config.canonical frame = false →
        load 2 mem kNetPacketTickAddr = load 2 mem' kNetPacketTickAddr) := by
  unfold tickOf
  cases config.canonical frame with
  | true => simp
  | false => simp

/-- The scratch write of a frame shows the same at two moments if and only if it reads the same. -/
theorem entryOf_eq_iff_sameReads {config : ScratchConfig} {frame : Nat} (left right : Moment)
    {localPlayer localPlayer' : Fin 2} {inputs inputs' : ReplayFrameInputs}
    {players : Fin 2 → InputState}
    (hleft : ∀ player, inputOf left.automated localPlayer inputs player =
      left.automated player (convertStockXToTouch (players player)))
    (hright : ∀ player, inputOf right.automated localPlayer' inputs' player =
      right.automated player (convertStockXToTouch (players player))) :
    entryOf (tickOf config frame left.mem) (left.mem kNetPacketActionAddr)
        (inputOf left.automated localPlayer inputs) =
      entryOf (tickOf config frame right.mem) (right.mem kNetPacketActionAddr)
        (inputOf right.automated localPlayer' inputs') ↔
      SameReads config frame players left right := by
  rw [entryOf_eq_iff, tickOf_eq_iff]
  constructor
  · rintro ⟨haction, htick, hshown⟩
    refine ⟨haction, htick, ?_⟩
    intro player
    rw [← hleft, ← hright]
    exact hshown player
  · intro h
    refine ⟨h.action, h.tick, ?_⟩
    intro player
    rw [hleft, hright]
    exact h.automated player

/-- A correction presents to every replayed frame what its execution at its own time would have, and
two peers present the same for the same inputs, exactly where what they read is the same. -/
theorem replay_presents_original_iff {c : Correction} {mem armed : Memory}
    (h : c.arm mem = some armed) :
    (∀ own : Nat → Moment,
      (∀ index inputs, c.resolvedInputs[index]? = some inputs →
        readEntry armed index =
          presented c (own (c.restoreFrame + index)).mem (own (c.restoreFrame + index)).automated
            (c.restoreFrame + index) inputs) ↔
      ∀ index inputs, c.resolvedInputs[index]? = some inputs →
        SameReads c.config (c.restoreFrame + index) (c.players inputs)
          ⟨mem, c.automated (c.restoreFrame + index)⟩ (own (c.restoreFrame + index))) ∧
    ∀ (peer : Correction) (peerMem peerArmed : Memory), peer.config = c.config →
      peer.arm peerMem = some peerArmed →
      ∀ index index' inputs inputs', c.resolvedInputs[index]? = some inputs →
        peer.resolvedInputs[index']? = some inputs' →
        peer.restoreFrame + index' = c.restoreFrame + index →
          peer.players inputs' = c.players inputs →
        (readEntry armed index = readEntry peerArmed index' ↔
          SameReads c.config (c.restoreFrame + index) (c.players inputs)
            ⟨mem, c.automated (c.restoreFrame + index)⟩
            ⟨peerMem, peer.automated (c.restoreFrame + index)⟩) := by
  constructor
  · intro own
    refine forall_congr' fun index => forall_congr' fun inputs => imp_congr_right fun hinputs => ?_
    rw [readEntry_arm h hinputs, presented, readScratch_write]
    exact entryOf_eq_iff_sameReads ⟨mem, _⟩ (own _) (fun _ => rfl) (fun _ => rfl)
  · intro peer peerMem peerArmed hconfig hpeer index index' inputs inputs' hinputs
      hinputs' hframe hplayers
    rw [readEntry_arm h hinputs, readEntry_arm hpeer hinputs', hconfig, hframe]
    refine entryOf_eq_iff_sameReads ⟨mem, _⟩ ⟨peerMem, _⟩ (fun _ => rfl) ?_
    intro player
    rw [← hplayers]
    rfl

/-- The inputs of both players, as `ResolveReplayFrameInputs` returns them. -/
def pressed (localMask remoteMask : UInt32) : InputTimeline.ReplayFrameInputs where
  localInput := { keyMask := localMask }
  remoteInput := { keyMask := remoteMask }
  players := fun player => { keyMask := if player = 0 then localMask else remoteMask }

/-- Frames 19 and 20 replayed in frame 20, in a session whose epoch is 10, with inputs that
change. -/
def twoFrames : Correction where
  config := ⟨true, 10⟩
  automated := fun _ _ input => input
  localPlayer := 0
  restoreFrame := 19
  frame := 20
  gameFrame := 7
  resolvedInputs := [pressed 0xFFE 0xFFD, pressed 0xFFF 0xFFD]
  length_resolvedInputs := by decide

/-- A guest with the patched loop and a packet action. -/
def guestMemory (action : UInt8) : Memory := fun i =>
  if i = kNetPacketActionAddr then action
  else if i < kRomLoopMagicAddress then 0
  else ([0x47, 0x54, 0x50, 0x32] : List UInt8).getD (i - kRomLoopMagicAddress) 0

theorem load_guestMemory_magic (action : UInt8) :
    load 4 (guestMemory action) kRomLoopMagicAddress = kRomLoopMagic := by
  have hbyte : ∀ k ∈ List.range 4, guestMemory action (kRomLoopMagicAddress + k) =
      ([0x47, 0x54, 0x50, 0x32] : List UInt8).getD k 0 := by
    intro k hk
    have hlt := List.mem_range.mp hk
    unfold guestMemory
    rw [if_neg (by unfold kRomLoopMagicAddress kNetPacketActionAddr; omega),
      if_neg (by omega), Nat.add_sub_cancel_left]
  unfold load
  rw [List.map_congr_left hbyte]
  decide

theorem twoFrames_arms (action : UInt8) :
    ∃ armed, twoFrames.arm (guestMemory action) = some armed := by
  have hmagic := load_guestMemory_magic action
  unfold Correction.arm
  dsimp only
  rw [if_neg]
  · exact ⟨_, rfl⟩
  · rintro (h | h | h | h)
    · exact absurd h (by decide)
    · exact absurd h (by decide)
    · exact absurd h (by decide)
    · exact h hmagic

/-- The packet action has not changed since the frame was first executed. -/
theorem twoFrames_presents_original :
    ∃ armed, twoFrames.arm (guestMemory 5) = some armed ∧
      ∀ index inputs, twoFrames.resolvedInputs[index]? = some inputs →
        readEntry armed index =
          presented twoFrames (guestMemory 5) (fun _ input => input)
            (twoFrames.restoreFrame + index) inputs := by
  obtain ⟨armed, h⟩ := twoFrames_arms 5
  refine ⟨armed, h, ?_⟩
  refine ((replay_presents_original_iff h).1 fun _ => ⟨guestMemory 5, fun _ input => input⟩).mpr ?_
  intro index inputs _
  exact ⟨rfl, fun _ => rfl, fun _ => rfl⟩

/-- The packet action was 0 in frame 19 and is 5 when the frame is replayed. -/
theorem replay_presents_later_action :
    ∃ armed, twoFrames.arm (guestMemory 5) = some armed ∧
      ∃ inputs, twoFrames.resolvedInputs[0]? = some inputs ∧
        readEntry armed 0 ≠
          presented twoFrames (guestMemory 0)
            (fun _ input => input) twoFrames.restoreFrame inputs := by
  obtain ⟨armed, h⟩ := twoFrames_arms 5
  refine ⟨armed, h, _, rfl, ?_⟩
  rw [readEntry_arm h rfl, presented, readScratch_write]
  intro heq
  exact absurd (entryOf_eq_iff.mp heq).1 (by decide)

end Bigstar.Netplay.JitScratch
