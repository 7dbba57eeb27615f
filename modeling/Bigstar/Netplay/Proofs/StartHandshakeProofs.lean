import Bigstar.Netplay.StartHandshake

/-!
# Both peers start from the same snapshot

A peer that accepts has compared its current snapshot with some snapshot of the other one, which the
other one may have replaced since. The packet ticks exclude that. Let `a` and `b` be the accepted
snapshots, compared with `b'` and `a'`. An accepted snapshot is the last one its peer takes in the
generation, so the ticks satisfy `a = b' ≤ b = a' ≤ a`, and two snapshots of one peer with the same
tick are the same snapshot.
-/

namespace Bigstar.Netplay.StartHandshake

open SessionProtocol SessionPolicy TwoParty

/-! ## Matching -/

/-- The fields that `ValidateStartReady` compares. -/
structure Matches (a b : Message) : Prop where
  generation : a.generation = b.generation
  sharedLogicalEpoch : a.sharedLogicalEpoch = b.sharedLogicalEpoch
  stageID : a.stageID = b.stageID
  stageGroup : a.stageGroup = b.stageGroup
  matchSeed : a.matchSeed = b.matchSeed
  packetTick : a.packetTick = b.packetTick
  rngValue : a.rngValue = b.rngValue
  rngCallCount : a.rngCallCount = b.rngCallCount
  rngBranchAddress : a.rngBranchAddress = b.rngBranchAddress
  semanticHash : a.semanticHash = b.semanticHash

theorem matches_of_validate {localReady remote : Message} {generation epoch : Nat}
    (h : validateStartReady localReady remote generation epoch = .match) :
    Matches localReady remote := by
  unfold validateStartReady at h
  split_ifs at h with hgen hmissing hepoch hstage hseed htick hrng hhash
  push Not at hgen hepoch hstage hseed htick hrng hhash
  exact ⟨hgen.1.trans hgen.2.symm, hepoch.1.trans hepoch.2.symm, hstage.1, hstage.2, hseed, htick,
    hrng.1, hrng.2.1, hrng.2.2, hhash⟩

/-- `message` is the snapshot `ready` as it was sent: only the frame and the epoch may differ. -/
def SnapshotOf (ready message : Message) : Prop :=
  message = { ready with
    rawReadyFrame := message.rawReadyFrame, sharedLogicalEpoch := message.sharedLogicalEpoch }

/-- Two messages with the same snapshot and the same epoch agree on everything that is compared. -/
theorem SnapshotOf.matches {ready a b : Message} (ha : SnapshotOf ready a) (hb : SnapshotOf ready b)
    (hepoch : a.sharedLogicalEpoch = b.sharedLogicalEpoch) : Matches a b := by
  unfold SnapshotOf at ha hb
  rw [ha, hb]
  exact ⟨rfl, hepoch, rfl, rfl, rfl, rfl, rfl, rfl, rfl, rfl⟩

theorem SnapshotOf.generation {ready message : Message} (h : SnapshotOf ready message) :
    message.generation = ready.generation := by
  unfold SnapshotOf at h
  rw [h]

theorem SnapshotOf.packetTick {ready message : Message} (h : SnapshotOf ready message) :
    message.packetTick = ready.packetTick := by
  unfold SnapshotOf at h
  rw [h]

theorem Matches.trans {a b c : Message} (h : Matches a b) (h' : Matches b c) : Matches a c :=
  ⟨h.1.trans h'.1, h.2.trans h'.2, h.3.trans h'.3, h.4.trans h'.4, h.5.trans h'.5, h.6.trans h'.6,
    h.7.trans h'.7, h.8.trans h'.8, h.9.trans h'.9, h.10.trans h'.10⟩

/-! ## The invariant -/

/-- Snapshots of one generation in the order in which they were taken. -/
def Ascending (readies : List Message) : Prop :=
  readies.Pairwise fun r r' => r.generation = r'.generation → r.packetTick < r'.packetTick

/-- No snapshot of its generation was taken after `ready`. -/
def Latest (readies : List Message) (ready : Message) : Prop :=
  ∀ r ∈ readies, r.generation = ready.generation → r.packetTick ≤ ready.packetTick

/-- The part of the invariant that is about the epoch. -/
structure EpochValid (config : Config) (a : Peer) : Prop where
  connection : a.sharedLogicalEpoch = a.handshake.sharedLogicalEpoch
  established : a.handshake.logicalEpochEstablished = true →
    a.handshake.sharedLogicalEpoch = config.startFrame
  fits : a.handshake.sharedLogicalEpoch ≤ u32Max

/-- The part about the snapshots of the peer itself. -/
structure LocalValid (a : Peer) : Prop where
  ascending : Ascending a.readies
  generation_le : ∀ r ∈ a.readies, r.generation ≤ a.handshake.generation
  localReady : ∀ r, a.handshake.localReady = some r →
    r ∈ a.readies ∧ r.generation = a.handshake.generation ∧ Latest a.readies r

/-- The part about the message that was received last. -/
structure RemoteValid (a : Peer) (incoming : List Message) : Prop where
  remoteReady : ∀ message, a.handshake.remoteReady = some message → message ∈ incoming
  remoteReadyFrame : a.handshake.remoteReadyFrame.isSome = true →
    a.handshake.remoteReady.isSome = true
  checked : ∀ localReady remote, a.handshake.localReady = some localReady →
    a.handshake.remoteReady = some remote →
      a.handshake.validation = validateStartReady (a.normalized localReady) remote
        a.handshake.generation a.handshake.sharedLogicalEpoch

/-- What an acceptance rests on. -/
structure Accepted (a : Peer) (incoming : List Message) (acceptance : Acceptance) : Prop where
  ready : ∃ r ∈ a.readies, SnapshotOf r acceptance.ready
  latest : Latest a.readies acceptance.ready
  current : acceptance.ready.generation ≤ a.handshake.generation
  waited : acceptance.ready.generation = a.handshake.generation →
    a.handshake.waitedForPeerAtStart = true
  remote : ∃ message ∈ incoming, Matches acceptance.ready message
  logicalFrame : acceptance.logicalFrame = acceptance.ready.sharedLogicalEpoch

/-- The invariant of one peer. -/
structure Valid (config : Config) (a : Peer) (outgoing incoming : List Message) : Prop where
  epoch : EpochValid config a
  own : LocalValid a
  remote : RemoteValid a incoming
  outgoing : ∀ message ∈ outgoing, message.sharedLogicalEpoch = config.startFrame ∧
    ∃ r ∈ a.readies, SnapshotOf r message
  accepted : ∀ acceptance ∈ a.accepted, Accepted a incoming acceptance

/-- More messages on their way to a peer change nothing for it. -/
theorem Valid.incoming_append {config : Config} {a : Peer} {outgoing incoming : List Message}
    (h : Valid config a outgoing incoming) (messages : List Message) :
    Valid config a outgoing (incoming ++ messages) where
  epoch := h.epoch
  own := h.own
  remote := ⟨fun message hm => List.mem_append_left _ (h.remote.remoteReady message hm),
    h.remote.remoteReadyFrame, h.remote.checked⟩
  outgoing := h.outgoing
  accepted acceptance hacc := by
    obtain ⟨message, hm, hmatch⟩ := (h.accepted acceptance hacc).remote
    exact { h.accepted acceptance hacc with
      remote := ⟨message, List.mem_append_left _ hm, hmatch⟩ }

section Steps

variable {config : Config} {a : Peer} {outgoing incoming : List Message}

/-! ## A new generation, a new connection, a time-out -/

theorem Valid.beginGeneration (h : Valid config a outgoing incoming) (host : Bool) :
    Valid config (a.beginGeneration config host (a.handshake.generation + 1))
      outgoing incoming where
  epoch := by
    unfold Peer.beginGeneration Runtime.beginGeneration
    cases host
    · exact ⟨rfl, fun hest => absurd hest (by simp), Nat.zero_le _⟩
    · exact ⟨rfl, fun _ => rfl, config.fits⟩
  own := by
    refine ⟨h.own.ascending, ?_, fun r hr => absurd hr (by
      simp [Peer.beginGeneration, Runtime.beginGeneration, Runtime.resetStartHandshake])⟩
    intro r hr
    exact Nat.le_succ_of_le (h.own.generation_le r hr)
  remote := by
    unfold Peer.beginGeneration Runtime.beginGeneration Runtime.resetStartHandshake
    refine ⟨fun message hm => absurd hm (by simp), fun hm => absurd hm (by simp), ?_⟩
    intro localReady remote hl
    exact absurd hl (by simp)
  outgoing := h.outgoing
  accepted acceptance hacc := by
    have hold := h.accepted acceptance hacc
    refine ⟨hold.ready, hold.latest, Nat.le_succ_of_le hold.current, ?_, hold.remote,
      hold.logicalFrame⟩
    intro hgen
    have hle := hold.current
    have : acceptance.ready.generation = a.handshake.generation + 1 := hgen
    omega

/-- A change that keeps the snapshots and the generation. -/
theorem Valid.keep (h : Valid config a outgoing incoming) {a' : Peer}
    (hreadies : a'.readies = a.readies) (haccepted : a'.accepted = a.accepted)
    (hgen : a'.handshake.generation = a.handshake.generation)
    (hlocal : a'.handshake.localReady = a.handshake.localReady)
    (hwaited : a'.handshake.waitedForPeerAtStart = a.handshake.waitedForPeerAtStart)
    (hepoch : EpochValid config a') (hremote : RemoteValid a' incoming) :
    Valid config a' outgoing incoming where
  epoch := hepoch
  own := by
    refine ⟨hreadies ▸ h.own.ascending, ?_, ?_⟩
    · intro r hr
      rw [hgen]
      exact h.own.generation_le r (hreadies ▸ hr)
    · intro r hr
      rw [hgen, hreadies]
      exact h.own.localReady r (hlocal.symm.trans hr)
  remote := hremote
  outgoing := by
    rw [hreadies]
    exact h.outgoing
  accepted acceptance hacc := by
    have hold := h.accepted acceptance (haccepted ▸ hacc)
    refine ⟨hreadies ▸ hold.ready, hreadies ▸ hold.latest, hgen ▸ hold.current, ?_, hold.remote,
      hold.logicalFrame⟩
    intro hcurrent
    exact hwaited.trans (hold.waited (hcurrent.trans hgen))

/-- A change of the handshake that either keeps or forgets what was received. -/
theorem Valid.handshake (h : Valid config a outgoing incoming) {handshake : SessionPolicy.Runtime}
    (hgen : handshake.generation = a.handshake.generation)
    (hepoch : handshake.sharedLogicalEpoch = a.handshake.sharedLogicalEpoch)
    (hest : handshake.logicalEpochEstablished = a.handshake.logicalEpochEstablished)
    (hlocal : handshake.localReady = a.handshake.localReady)
    (hwaited : handshake.waitedForPeerAtStart = a.handshake.waitedForPeerAtStart)
    (hvalidation : handshake.validation = a.handshake.validation)
    (hremote : handshake.remoteReady = none ∧ handshake.remoteReadyFrame = none ∨
      handshake.remoteReady = a.handshake.remoteReady ∧
        handshake.remoteReadyFrame = a.handshake.remoteReadyFrame) :
    Valid config { a with handshake := handshake } outgoing incoming := by
  refine h.keep rfl rfl hgen hlocal hwaited ⟨?_, ?_, ?_⟩ ?_
  · exact h.epoch.connection.trans hepoch.symm
  · intro hestablished
    exact hepoch.trans (h.epoch.established (hest.symm.trans hestablished))
  · exact (Nat.le_of_eq hepoch).trans h.epoch.fits
  · rcases hremote with ⟨hnone, hframe⟩ | ⟨hsame, hframe⟩
    · refine ⟨fun message hm => absurd (hnone.symm.trans hm) (by simp), ?_, ?_⟩
      · intro hsome
        rw [show handshake.remoteReadyFrame = none from hframe] at hsome
        exact absurd hsome (by simp)
      · intro localReady remote _ hr
        exact absurd (hnone.symm.trans hr) (by simp)
    · refine ⟨fun message hm => h.remote.remoteReady message (hsame.symm.trans hm), ?_, ?_⟩
      · dsimp only
        rw [hframe, hsame]
        exact h.remote.remoteReadyFrame
      · intro localReady remote hl hr
        have hchecked := h.remote.checked localReady remote (hlocal.symm.trans hl)
          (hsame.symm.trans hr)
        unfold Peer.normalized at hchecked ⊢
        dsimp only
        rw [hvalidation, hgen, hepoch]
        exact hchecked

theorem Valid.onPeerConnected (h : Valid config a outgoing incoming) :
    Valid config { a with handshake := a.handshake.onPeerConnected } outgoing incoming :=
  h.handshake rfl rfl rfl rfl rfl rfl (Or.inl ⟨rfl, rfl⟩)

theorem Valid.timeout (h : Valid config a outgoing incoming) {a' : Peer}
    (ha' : a.timeout = some a') : Valid config a' outgoing incoming := by
  unfold Peer.timeout at ha'
  split at ha'
  · exact absurd ha' (by simp)
  · obtain rfl := Option.some.inj ha'
    exact h.handshake rfl rfl rfl rfl rfl rfl (Or.inr ⟨rfl, rfl⟩)

/-! ## Sending and receiving -/

theorem Valid.sendStartReady (h : Valid config a outgoing incoming) {force : Bool} {a' : Peer}
    {message : Message} (hsend : a.sendStartReady force = some (a', message)) :
    Valid config a' (outgoing ++ [message]) incoming := by
  unfold Peer.sendStartReady at hsend
  split at hsend
  · next frame localReady hframe hlocal =>
    dsimp only at hsend
    split at hsend
    · next hcan =>
      obtain ⟨rfl, rfl⟩ := Prod.mk.inj (Option.some.inj hsend)
      obtain ⟨hmem, hgen, -⟩ := h.own.localReady localReady hlocal
      have hestablished : a.handshake.logicalEpochEstablished = true := by
        simp only [Bool.and_eq_true] at hcan
        exact hcan.2
      have hkept : Valid config { a with handshake := a.handshake.markStartReadySent } outgoing
          incoming := h.handshake rfl rfl rfl rfl rfl rfl (Or.inr ⟨rfl, rfl⟩)
      refine { hkept with outgoing := ?_ }
      intro m hm
      rcases List.mem_append.mp hm with hm | hm
      · exact h.outgoing m hm
      · obtain rfl := List.mem_singleton.mp hm
        refine ⟨h.epoch.established hestablished, localReady, hmem, ?_⟩
        unfold SnapshotOf
        dsimp only
        rw [hgen]
    · exact absurd hsend (by simp)
  · exact absurd hsend (by simp)

/-- What the handshake keeps when a message is entered. -/
theorem receiveRemoteReady_cases (r : SessionPolicy.Runtime) (message : Message) :
    ∃ remoteReadyFrame remoteReady after,
      r.receiveRemoteReady message = { r with
        remoteReadyFrame := remoteReadyFrame
        remoteReady := remoteReady
        remoteReadyAfterLocal := after } ∧
      (remoteReady = some message ∨ remoteReady = none ∧ remoteReadyFrame = none) := by
  unfold Runtime.receiveRemoteReady
  dsimp only
  split
  · split
    · exact ⟨_, _, _, rfl, Or.inr ⟨rfl, rfl⟩⟩
    · exact ⟨_, _, r.remoteReadyAfterLocal, rfl, Or.inr ⟨rfl, rfl⟩⟩
  · split
    · exact ⟨_, _, _, rfl, Or.inl rfl⟩
    · exact ⟨_, _, r.remoteReadyAfterLocal, rfl, Or.inl rfl⟩

/-- Comparing with the message that has just been entered makes the result the current one. -/
theorem remoteValid_validated {a : Peer} {message : Message}
    (hmem : message ∈ incoming)
    (hremote : a.handshake.remoteReady = some message ∨
      a.handshake.remoteReady = none ∧ a.handshake.remoteReadyFrame = none) :
    RemoteValid
      (match a.handshake.localReady with
        | none => a
        | some localReady => a.validate localReady message) incoming := by
  have hframe : a.handshake.remoteReadyFrame.isSome = true →
      a.handshake.remoteReady.isSome = true := by
    intro hsome
    rcases hremote with hr | ⟨-, hnone⟩
    · rw [hr]
      rfl
    · rw [hnone] at hsome
      exact absurd hsome (by simp)
  have hreceived : ∀ m, a.handshake.remoteReady = some m → m = message := by
    intro m hm
    rcases hremote with hr | ⟨hnone, -⟩
    · exact Option.some.inj (hm.symm.trans hr)
    · rw [hnone] at hm
      exact absurd hm (by simp)
  cases hlocal : a.handshake.localReady with
  | none =>
    refine ⟨fun m hm => hreceived m hm ▸ hmem, hframe, ?_⟩
    intro localReady remote hl
    exact absurd (hlocal.symm.trans hl) (by simp)
  | some localReady =>
    refine ⟨fun m hm => hreceived m hm ▸ hmem, hframe, ?_⟩
    intro l remote hl hr
    obtain rfl : localReady = l := Option.some.inj (hlocal.symm.trans hl)
    obtain rfl := hreceived remote hr
    rfl

theorem Valid.receiveStartReady (h : Valid config a outgoing incoming) (host : Bool)
    {message : Message} (hmem : message ∈ incoming)
    (hepoch : message.sharedLogicalEpoch = config.startFrame) :
    Valid config (a.receiveStartReady host message) outgoing incoming := by
  unfold Peer.receiveStartReady
  split
  · exact h
  · dsimp only
    set adopted : Peer := if host then a else { a with
      handshake := a.handshake.adoptHostLogicalEpoch message.sharedLogicalEpoch
      sharedLogicalEpoch := message.sharedLogicalEpoch } with hadopted
    -- adopting the epoch keeps everything but the epoch
    have hkept : adopted.readies = a.readies ∧ adopted.accepted = a.accepted ∧
        adopted.handshake.generation = a.handshake.generation ∧
        adopted.handshake.localReady = a.handshake.localReady ∧
        adopted.handshake.waitedForPeerAtStart = a.handshake.waitedForPeerAtStart := by
      rw [hadopted]
      split
      · exact ⟨rfl, rfl, rfl, rfl, rfl⟩
      · exact ⟨rfl, rfl, rfl, rfl, rfl⟩
    have hadoptedEpoch : EpochValid config adopted := by
      rw [hadopted]
      split
      · exact h.epoch
      · exact ⟨rfl, fun _ => hepoch, (Nat.le_of_eq hepoch).trans config.fits⟩
    obtain ⟨hreadies, haccepted, hgen, hlocal, hwaited⟩ := hkept
    obtain ⟨remoteReadyFrame, remoteReady, after, heq, hremote⟩ :=
      receiveRemoteReady_cases adopted.handshake message
    rw [heq]
    set entered : Peer := { adopted with handshake := { adopted.handshake with
      remoteReadyFrame := remoteReadyFrame
      remoteReady := remoteReady
      remoteReadyAfterLocal := after } } with hentered
    have hvalidated := remoteValid_validated (a := entered) hmem hremote
    refine h.keep ?_ ?_ ?_ ?_ ?_ ?_ hvalidated
    · split <;> exact hreadies
    · split <;> exact haccepted
    · split <;> exact hgen
    · split <;> exact hlocal
    · split <;> exact hwaited
    · split <;> exact ⟨hadoptedEpoch.connection, hadoptedEpoch.established, hadoptedEpoch.fits⟩

/-! ## Waiting -/

/-- A new snapshot takes the place of the last one, and has been compared with what was received. -/
theorem Valid.takeSnapshot (h : Valid config a outgoing incoming)
    (hnotWaited : a.handshake.waitedForPeerAtStart ≠ true) (ready : Message)
    (validation : StartReadyValidation) (syncFrame : Nat)
    (hgen : ready.generation = a.handshake.generation)
    (hticks : ∀ r ∈ a.readies, r.generation = a.handshake.generation →
      r.packetTick < ready.packetTick)
    (hvalidation : ∀ remote, a.handshake.remoteReady = some remote →
      validation = validateStartReady (a.normalized ready) remote a.handshake.generation
        a.handshake.sharedLogicalEpoch) :
    Valid config { a with
      handshake := { a.handshake with
        localReadyFrame := some syncFrame
        localReady := some ready
        remoteReadyAfterLocal := false
        validation := validation }
      readies := a.readies ++ [ready] } outgoing incoming := by
  have hlatest : Latest (a.readies ++ [ready]) ready := by
    intro r hr hrgen
    rcases List.mem_append.mp hr with hr | hr
    · exact Nat.le_of_lt (hticks r hr (hrgen.trans hgen))
    · rw [List.mem_singleton.mp hr]
  have hascending : Ascending (a.readies ++ [ready]) := by
    refine List.pairwise_append.mpr ⟨h.own.ascending, List.pairwise_singleton _ _, ?_⟩
    intro r hr r' hr' hrgen
    rw [List.mem_singleton.mp hr'] at hrgen ⊢
    exact hticks r hr (hrgen.trans hgen)
  refine ⟨⟨h.epoch.connection, h.epoch.established, h.epoch.fits⟩, ⟨hascending, ?_, ?_⟩,
    ⟨h.remote.remoteReady, h.remote.remoteReadyFrame, ?_⟩, ?_, ?_⟩
  · intro r hr
    rcases List.mem_append.mp hr with hr | hr
    · exact h.own.generation_le r hr
    · rw [List.mem_singleton.mp hr]
      exact Nat.le_of_eq hgen
  · intro r hr
    obtain rfl := Option.some.inj hr
    exact ⟨List.mem_append_right _ (List.mem_singleton_self _), hgen, hlatest⟩
  · intro l remote hl hr
    obtain rfl := Option.some.inj hl
    exact hvalidation remote hr
  · intro message hm
    obtain ⟨hepoch, r, hr, hsnapshot⟩ := h.outgoing message hm
    exact ⟨hepoch, r, List.mem_append_left _ hr, hsnapshot⟩
  · intro acceptance hacc
    have hold := h.accepted acceptance hacc
    obtain ⟨r, hr, hsnapshot⟩ := hold.ready
    refine ⟨⟨r, List.mem_append_left _ hr, hsnapshot⟩, ?_, hold.current, hold.waited, hold.remote,
      hold.logicalFrame⟩
    intro r' hr' hrgen
    rcases List.mem_append.mp hr' with hr' | hr'
    · exact hold.latest r' hr' hrgen
    · -- a peer that has accepted does not take another snapshot
      rw [List.mem_singleton.mp hr'] at hrgen
      exact absurd (hold.waited (hrgen.symm.trans hgen)) hnotWaited

/-- The snapshot of a new wait has a larger tick than the ones of the generation before it. -/
theorem Valid.beginWait (h : Valid config a outgoing incoming)
    {snapshot : Message} {syncFrame : Nat}
    {a' : Peer} (ha' : a.beginWait snapshot syncFrame = some a')
    (hticks : ∀ ready ∈ a.readies, ready.generation = a.handshake.generation →
      ready.packetTick < snapshot.packetTick) : Valid config a' outgoing incoming := by
  unfold Peer.beginWait at ha'
  split at ha'
  · exact absurd ha' (by simp)
  · next hguard =>
    push Not at hguard
    obtain ⟨-, hnotWaited, hnoFrame, hframe⟩ := hguard
    dsimp only at ha'
    set ready : Message := { snapshot with
      kind := .startReady
      generation := a.handshake.generation
      rawReadyFrame := syncFrame
      sharedLogicalEpoch := a.handshake.sharedLogicalEpoch } with hready
    have hbegin : a.handshake.beginLocalReady ready = { a.handshake with
        localReadyFrame := some syncFrame
        localReady := some ready
        remoteReadyAfterLocal := false } := by
      unfold Runtime.beginLocalReady
      rw [if_neg hnoFrame, if_neg hframe]
    rw [hbegin] at ha'
    split at ha'
    · next hremote =>
      obtain rfl := Option.some.inj ha'
      refine h.takeSnapshot hnotWaited ready a.handshake.validation syncFrame rfl hticks ?_
      intro remote hr
      exact absurd (hremote.symm.trans hr) (by simp)
    · next remote hremote =>
      obtain rfl := Option.some.inj ha'
      refine h.takeSnapshot hnotWaited ready _ syncFrame rfl hticks ?_
      intro remote' hr
      obtain rfl := Option.some.inj (hremote.symm.trans hr)
      rfl

theorem Valid.waitRound (h : Valid config a outgoing incoming) {lastReceivedInputFrame : Nat}
    {delay : Int} {a' : Peer} (ha' : a.waitRound lastReceivedInputFrame delay = some a') :
    Valid config a' outgoing incoming := by
  unfold Peer.waitRound at ha'
  split at ha'
  · next frame localReady hframe hlocal =>
    split at ha'
    · exact absurd ha' (by simp)
    · next hguard =>
      split at ha'
      · obtain rfl := Option.some.inj ha'
        exact h.keep rfl rfl rfl rfl rfl ⟨h.epoch.connection, h.epoch.established, h.epoch.fits⟩
          ⟨h.remote.remoteReady, h.remote.remoteReadyFrame, h.remote.checked⟩
      · dsimp only at ha'
        split at ha'
        · next haccept =>
          obtain rfl := Option.some.inj ha'
          simp only [shouldAcceptStartReady, Runtime.startReadyValidated, Bool.and_eq_true,
            beq_iff_eq] at haccept
          obtain ⟨⟨hremoteFrame, -⟩, hmatch⟩ := haccept
          obtain ⟨remote, hremote⟩ :=
            Option.isSome_iff_exists.mp (h.remote.remoteReadyFrame hremoteFrame)
          have hchecked := h.remote.checked localReady remote hlocal hremote
          have hmatches := matches_of_validate (hchecked.symm.trans hmatch)
          obtain ⟨hmem, hgen, hlatest⟩ := h.own.localReady localReady hlocal
          refine ⟨⟨h.epoch.connection, h.epoch.established, h.epoch.fits⟩,
            ⟨h.own.ascending, h.own.generation_le, h.own.localReady⟩,
            ⟨h.remote.remoteReady, h.remote.remoteReadyFrame, h.remote.checked⟩, h.outgoing, ?_⟩
          intro acceptance hacc
          rcases List.mem_append.mp hacc with hacc | hacc
          · have hold := h.accepted acceptance hacc
            exact ⟨hold.ready, hold.latest, hold.current, fun _ => rfl, hold.remote,
              hold.logicalFrame⟩
          · obtain rfl := List.mem_singleton.mp hacc
            refine ⟨⟨localReady, hmem, rfl⟩, hlatest, Nat.le_of_eq hgen, fun _ => rfl,
              ⟨remote, h.remote.remoteReady remote hremote, hmatches⟩, ?_⟩
            -- the raw frame of the snapshot is where the logical frames start
            have hfits := h.epoch.fits
            unfold Peer.logicalFrame logicalInputFrame Peer.normalized u32
            unfold u32Max at hfits
            rw [hframe, h.epoch.connection]
            simp only [Bool.not_true, Bool.false_or, decide_eq_true_eq, Nat.lt_irrefl, if_false,
              Nat.sub_self, Nat.add_zero]
            exact Nat.mod_eq_of_lt (by omega)
        · obtain rfl := Option.some.inj ha'
          exact h
  · exact absurd ha' (by simp)

end Steps

/-! ## Every step and every run -/

/-- The invariant of both peers. -/
def Consistent (config : Config) (s : State) : Prop :=
  ∀ p, Valid config (s.side p) (s.sent p) (s.sent (other p))

theorem consistent_init (config : Config) : Consistent config (State.init config) := by
  intro p
  refine ⟨?_, ⟨List.Pairwise.nil, fun r hr => absurd hr List.not_mem_nil, ?_⟩, ⟨?_, ?_, ?_⟩,
    fun m hm => absurd hm List.not_mem_nil, fun acc hacc => absurd hacc List.not_mem_nil⟩
  · rcases eq_or_eq_other 0 p with rfl | rfl
    · exact ⟨rfl, fun _ => rfl, config.fits⟩
    · exact ⟨rfl, fun hest => absurd hest (by
        simp [State.init, State.isHost, other, Peer.beginGeneration, Runtime.beginGeneration]),
        Nat.zero_le _⟩
  · intro r hr
    exact absurd hr (by simp [State.init, Peer.beginGeneration, Runtime.beginGeneration,
      Runtime.resetStartHandshake])
  · intro m hm
    exact absurd hm (by simp [State.init, Peer.beginGeneration, Runtime.beginGeneration,
      Runtime.resetStartHandshake])
  · intro hm
    exact absurd hm (by simp [State.init, Peer.beginGeneration, Runtime.beginGeneration,
      Runtime.resetStartHandshake])
  · intro l m hl
    exact absurd hl (by simp [State.init, Peer.beginGeneration, Runtime.beginGeneration,
      Runtime.resetStartHandshake])

theorem Consistent.put {config : Config} {s : State} (h : Consistent config s)
    {p : Fin 2} {a : Peer} {messages : List Message}
    (ha : Valid config a (s.sent p ++ messages) (s.sent (other p))) :
    Consistent config (s.put p a messages) := by
  have hother := h (other p)
  rw [other_other] at hother
  exact Net.forall_put (I := fun _ a _ outgoing incoming => Valid config a outgoing incoming) ha
    (hother.incoming_append messages)

theorem consistent_step {config : Config} (s : State) (op : Op) (t : State)
    (h : Consistent config s) (hticks : TicksIncrease s op) (hstep : s.step config op = some t) :
    Consistent config t := by
  have hsilent : ∀ (p : Fin 2) (a : Peer), Valid config a (s.sent p) (s.sent (other p)) →
      Consistent config (s.put p a) := by
    intro p a ha
    refine h.put ?_
    rw [List.append_nil]
    exact ha
  cases op with
  | beginGeneration p =>
    obtain rfl := Option.some.inj hstep
    exact hsilent p _ ((h p).beginGeneration (State.isHost p))
  | beginWait p snapshot syncFrame =>
    obtain ⟨a', ha', rfl⟩ := Option.map_eq_some_iff.mp hstep
    exact hsilent p a' ((h p).beginWait ha' hticks)
  | send p force =>
    obtain ⟨⟨a', message⟩, hsend, rfl⟩ := Option.map_eq_some_iff.mp hstep
    exact h.put ((h p).sendStartReady hsend)
  | receive p index =>
    obtain ⟨message, hindex, rfl⟩ := Option.map_eq_some_iff.mp hstep
    have hmem := List.mem_of_getElem? hindex
    exact hsilent p _ ((h p).receiveStartReady (State.isHost p) hmem
      ((h (other p)).outgoing message hmem).1)
  | onPeerConnected p =>
    obtain rfl := Option.some.inj hstep
    exact hsilent p _ (h p).onPeerConnected
  | waitRound p lastReceivedInputFrame delay =>
    obtain ⟨a', ha', rfl⟩ := Option.map_eq_some_iff.mp hstep
    exact hsilent p a' ((h p).waitRound ha')
  | timeout p =>
    obtain ⟨a', ha', rfl⟩ := Option.map_eq_some_iff.mp hstep
    exact hsilent p a' ((h p).timeout ha')

theorem consistent_run {config : Config} {es : List Op} {s : State}
    (hticks : Run.Along (State.step config) TicksIncrease (State.init config) es)
    (hs : Run.run (State.step config) (State.init config) es = some s) : Consistent config s :=
  Run.run_invariant consistent_step (consistent_init config) hticks hs

/-! ## Agreement -/

/-- Two snapshots of one generation with the same tick are the same. -/
theorem Ascending.eq_of_packetTick {readies : List Message} (h : Ascending readies) {r r' : Message}
    (hr : r ∈ readies) (hr' : r' ∈ readies) (hgen : r.generation = r'.generation)
    (htick : r.packetTick = r'.packetTick) : r = r' := by
  obtain ⟨i, hi, rfl⟩ := List.getElem_of_mem hr
  obtain ⟨j, hj, rfl⟩ := List.getElem_of_mem hr'
  have hordered := List.pairwise_iff_getElem.mp h
  rcases Nat.lt_trichotomy i j with hlt | rfl | hlt
  · have := hordered i j hi hj hlt hgen
    omega
  · rfl
  · have := hordered j i hj hi hlt hgen.symm
    omega

theorem accepted_matches {config : Config} {a b : Peer} {outA outB : List Message}
    (ha : Valid config a outA outB) (hb : Valid config b outB outA) {x y : Acceptance}
    (hx : x ∈ a.accepted) (hy : y ∈ b.accepted)
    (hgen : x.ready.generation = y.ready.generation) : Matches x.ready y.ready := by
  have hx := ha.accepted x hx
  have hy := hb.accepted y hy
  obtain ⟨r, hr, hrx⟩ := hx.ready
  -- `b'`, which `a` was compared with, and `a'`, which `b` was compared with
  obtain ⟨b', hb', hmatchA⟩ := hx.remote
  obtain ⟨a', ha', hmatchB⟩ := hy.remote
  obtain ⟨hepochB, rb, hrb, hsnapB⟩ := hb.outgoing b' hb'
  obtain ⟨hepochA, ra, hra, hsnapA⟩ := ha.outgoing a' ha'
  have hraGen : ra.generation = x.ready.generation :=
    hsnapA.generation.symm.trans (hmatchB.generation.symm.trans hgen.symm)
  have hrbGen : rb.generation = y.ready.generation :=
    hsnapB.generation.symm.trans (hmatchA.generation.symm.trans hgen)
  have hle₁ : x.ready.packetTick ≤ y.ready.packetTick := by
    rw [hmatchA.packetTick, hsnapB.packetTick]
    exact hy.latest rb hrb hrbGen
  have hle₂ : y.ready.packetTick ≤ x.ready.packetTick := by
    rw [hmatchB.packetTick, hsnapA.packetTick]
    exact hx.latest ra hra hraGen
  -- so `a'` is the snapshot that `a` accepted with
  have hsame : r = ra := by
    refine ha.own.ascending.eq_of_packetTick hr hra (hrx.generation.symm.trans hraGen.symm) ?_
    rw [← hrx.packetTick, ← hsnapA.packetTick, ← hmatchB.packetTick]
    omega
  subst hsame
  have hepoch : x.ready.sharedLogicalEpoch = a'.sharedLogicalEpoch := by
    rw [hmatchA.sharedLogicalEpoch, hepochB, hepochA]
  have hback : Matches a' y.ready :=
    ⟨hmatchB.1.symm, hmatchB.2.symm, hmatchB.3.symm, hmatchB.4.symm, hmatchB.5.symm, hmatchB.6.symm,
      hmatchB.7.symm, hmatchB.8.symm, hmatchB.9.symm, hmatchB.10.symm⟩
  exact (hrx.matches hsnapA hepoch).trans hback

theorem startHandshake_agrees {config : Config} {es : List Op} {s : State}
    (hticks : Run.Along (State.step config) TicksIncrease (State.init config) es)
    (hs : Run.run (State.step config) (State.init config) es = some s) {x y : Acceptance}
    (hx : x ∈ (s.side 0).accepted) (hy : y ∈ (s.side 1).accepted)
    (hgen : x.ready.generation = y.ready.generation) :
    Matches x.ready y.ready ∧ x.logicalFrame = y.ready.sharedLogicalEpoch ∧
      y.logicalFrame = y.ready.sharedLogicalEpoch := by
  have h := consistent_run hticks hs
  have hmatches := accepted_matches (h 0) (h 1) hx hy hgen
  refine ⟨hmatches, ?_, ((h 1).accepted y hy).logicalFrame⟩
  exact ((h 0).accepted x hx).logicalFrame.trans hmatches.sharedLogicalEpoch

/-- A session for the examples. -/
def exampleConfig : Config := { startFrame := 840, fits := by decide }

/-- The host times out with a first snapshot and sends the second one, which the client matches. -/
def timeoutRun : List Op :=
  [.beginWait 0 { packetTick := 5 } 100, .timeout 0, .beginWait 0 { packetTick := 7 } 130,
    .send 0 false, .beginWait 1 { packetTick := 7 } 90, .receive 1 0,
    .send 1 false, .waitRound 1 0 3, .receive 0 0, .waitRound 0 0 3]

/-- The acceptance of a peer that took its snapshot in raw frame `rawReadyFrame`. -/
def acceptedIn (rawReadyFrame : Nat) : Acceptance :=
  { ready := {
      kind := .startReady
      rawReadyFrame := rawReadyFrame
      sharedLogicalEpoch := 840
      packetTick := 7 }
    logicalFrame := 840 }

theorem startHandshake_agrees_timeoutRun :
    let s := Run.final (State.step exampleConfig) (State.init exampleConfig) timeoutRun
    acceptedIn 130 ∈ (s.side 0).accepted ∧ acceptedIn 90 ∈ (s.side 1).accepted ∧
      Matches (acceptedIn 130).ready (acceptedIn 90).ready ∧
      (acceptedIn 130).logicalFrame = (acceptedIn 90).ready.sharedLogicalEpoch ∧
      (acceptedIn 90).logicalFrame = (acceptedIn 90).ready.sharedLogicalEpoch := by
  intro s
  have hx : acceptedIn 130 ∈ (s.side 0).accepted := by decide +kernel
  have hy : acceptedIn 90 ∈ (s.side 1).accepted := by decide +kernel
  have hrun := Run.run_eq_final (State.step exampleConfig) (State.init exampleConfig) timeoutRun
    (by decide +kernel)
  exact ⟨hx, hy, startHandshake_agrees (by decide +kernel) hrun hx hy rfl⟩

end Bigstar.Netplay.StartHandshake
