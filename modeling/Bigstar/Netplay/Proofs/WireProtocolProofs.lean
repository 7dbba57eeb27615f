import Bigstar.Netplay.WireProtocol

/-!
# Round trips and dispatch of the wire format

Every decoder undoes its encoder, the length of a packet leads to the decoder of its type, and what
a decoder accepts is again a value its encoder takes. A game state comes back as far as it travels:
the fields outside the wire list are zero at the receiver.
-/

namespace Bigstar.Netplay

open LittleEndian

/-! ## Input packets -/

namespace InputProtocol

open InputDelivery

/-- The words of an input are 32 bits wide. -/
structure Fits (input : FramedInput) : Prop where
  generation : input.generation < 2 ^ 32
  frame : input.frame < 2 ^ 32

theorem touching_flag_lt (touching : Bool) : (if touching then 1 else 0 : Nat) < 256 ^ 1 := by
  cases touching with
  | true => decide
  | false => decide

/-- The struct holds all of an input. -/
theorem fromWireInput_toWireInput (input : FramedInput) :
    fromWireInput (toWireInput input) = input := by
  obtain ⟨generation, frame, ⟨keyMask, touching, touchX, touchY⟩⟩ := input
  cases touching with
  | true => simp [fromWireInput, toWireInput]
  | false => simp [fromWireInput, toWireInput]

theorem fromBundleEntry_toBundleEntry (input : FramedInput) :
    fromBundleEntry input.generation (toBundleEntry input) = input := by
  obtain ⟨generation, frame, ⟨keyMask, touching, touchX, touchY⟩⟩ := input
  cases touching with
  | true => simp [fromBundleEntry, toBundleEntry]
  | false => simp [fromBundleEntry, toBundleEntry]

/-- The bytes hold all of the struct. -/
theorem ofImage_toWireInput {input : FramedInput} (h : Fits input) :
    WireInput.ofImage (toWireInput input).image = toWireInput input := by
  have hkeys : input.input.keyMask.toNat < 256 ^ 4 := input.input.keyMask.toNat_lt
  have hx : input.input.touchX.toNat < 256 ^ 2 := input.input.touchX.toNat_lt
  have hy : input.input.touchY.toNat < 256 ^ 2 := input.input.touchY.toNat_lt
  have htouch := touching_flag_lt input.input.touching
  have hmagic : kMagic < 256 ^ 4 := by decide
  have hversion : kInputVersion < 256 ^ 4 := by decide
  apply WireInput.ext
  case magic => exact readLE_of_take rfl hmagic
  case version => exact readLE_of_take rfl hversion
  case generation => exact readLE_of_take rfl h.generation
  case frame => exact readLE_of_take rfl h.frame
  case keyMask => exact readLE_of_take rfl hkeys
  case touchX => exact readLE_of_take rfl hx
  case touchY => exact readLE_of_take rfl hy
  case touching => exact readLE_of_take rfl htouch

theorem length_encodeInput (input : FramedInput) :
    (encodeInput input).length = kInputPacketSize := by
  simp [encodeInput, WireInput.image, kInputPacketSize]

/-- A single input survives the wire. -/
theorem decodeInput_encodeInput {input : FramedInput} (h : Fits input) :
    decodeInput (encodeInput input) = some input := by
  have hlen : ¬ (encodeInput input).length ≠ kInputPacketSize :=
    not_not.mpr (length_encodeInput input)
  have hwire : WireInput.ofImage (encodeInput input) = toWireInput input := ofImage_toWireInput h
  unfold decodeInput
  dsimp only
  rw [if_neg hlen, hwire, fromWireInput_toWireInput]
  simp [toWireInput]

/-- What is decoded fits into the wire. -/
theorem fits_of_decodeInput {bytes : List UInt8} {input : FramedInput}
    (h : decodeInput bytes = some input) : Fits input := by
  unfold decodeInput at h
  split at h
  · cases h
  · dsimp only at h
    split at h
    · cases h
    · cases h
      exact ⟨readLE_lt 4 bytes 8, readLE_lt 4 bytes 12⟩

/-! ## Input bundles -/

/-- What `EncodeInputBundle` accepts, with words that are 32 bits wide. -/
structure Bundles (inputs : List FramedInput) (ackFrame : Option Nat) : Prop where
  nonempty : inputs ≠ []
  length_le : inputs.length ≤ kMaxInputBundleEntries
  fits : ∀ input ∈ inputs, Fits input
  generation : ∀ input ∈ inputs, ∀ other ∈ inputs, input.generation = other.generation
  ack_fits : ∀ frame, ackFrame = some frame → frame < 2 ^ 32
  ack_ne : ackFrame ≠ some kNoAckFrame

theorem ofImage_toBundleEntry {input : FramedInput} (h : Fits input) (rest : List UInt8) :
    WireInputBundleEntry.ofImage ((toBundleEntry input).image ++ rest) = toBundleEntry input := by
  have hkeys : input.input.keyMask.toNat < 256 ^ 4 := input.input.keyMask.toNat_lt
  have hx : input.input.touchX.toNat < 256 ^ 2 := input.input.touchX.toNat_lt
  have hy : input.input.touchY.toNat < 256 ^ 2 := input.input.touchY.toNat_lt
  have htouch := touching_flag_lt input.input.touching
  apply WireInputBundleEntry.ext
  case frame => exact readLE_of_take rfl h.frame
  case keyMask => exact readLE_of_take rfl hkeys
  case touchX => exact readLE_of_take rfl hx
  case touchY => exact readLE_of_take rfl hy
  case touching => exact readLE_of_take rfl htouch

theorem length_entry_image (input : FramedInput) :
    (toBundleEntry input).image.length = kInputBundleEntrySize := by
  simp [WireInputBundleEntry.image, kInputBundleEntrySize]

theorem length_header_image (header : WireInputBundleHeader) :
    header.image.length = kInputBundleHeaderSize := by
  simp [WireInputBundleHeader.image, kInputBundleHeaderSize]

/-- The header `EncodeInputBundle` writes before the entries. -/
def bundleHeader (generation count : Nat) (ackFrame : Option Nat) : WireInputBundleHeader where
  magic := kMagic
  version := kInputBundleVersion
  kind := kInputBundleKind
  generation := generation
  count := count
  ackFrame := ackFrame.getD kNoAckFrame

/-- The bytes hold all of the header. -/
theorem ofImage_bundleHeader {generation count : Nat} {ackFrame : Option Nat}
    (hgeneration : generation < 2 ^ 32) (hcount : count ≤ kMaxInputBundleEntries)
    (hack : ∀ frame, ackFrame = some frame → frame < 2 ^ 32) (rest : List UInt8) :
    WireInputBundleHeader.ofImage ((bundleHeader generation count ackFrame).image ++ rest) =
      bundleHeader generation count ackFrame := by
  have hcount' : count < 256 ^ 4 := Nat.lt_of_le_of_lt hcount (by decide)
  have hack' : ackFrame.getD kNoAckFrame < 256 ^ 4 := by
    cases ackFrame with
    | none => decide
    | some frame => exact hack frame rfl
  have hmagic : kMagic < 256 ^ 4 := by decide
  have hversion : kInputBundleVersion < 256 ^ 4 := by decide
  have hkind : kInputBundleKind < 256 ^ 4 := by decide
  apply WireInputBundleHeader.ext
  case magic => exact readLE_of_take rfl hmagic
  case version => exact readLE_of_take rfl hversion
  case kind => exact readLE_of_take rfl hkind
  case generation => exact readLE_of_take rfl hgeneration
  case count => exact readLE_of_take rfl hcount'
  case ackFrame => exact readLE_of_take rfl hack'

/-- The bytes of a bundle that the encoder accepts. -/
theorem encodeInputBundle_eq {inputs : List FramedInput} {ackFrame : Option Nat}
    (h : Bundles inputs ackFrame) :
    ∃ first ∈ inputs, encodeInputBundle inputs ackFrame =
      (bundleHeader first.generation inputs.length ackFrame).image ++
        inputs.flatMap fun input => (toBundleEntry input).image := by
  cases inputs with
  | nil => exact absurd rfl h.nonempty
  | cons first rest =>
    have hmem : first ∈ first :: rest := List.mem_cons_self
    have hlen : ¬ kMaxInputBundleEntries < (first :: rest).length := Nat.not_lt.mpr h.length_le
    have hgen : ¬ ¬ ∀ input ∈ first :: rest, input.generation = first.generation :=
      not_not.mpr fun input hin => h.generation input hin first hmem
    refine ⟨first, hmem, ?_⟩
    unfold encodeInputBundle
    dsimp only
    rw [if_neg hlen, if_neg hgen]
    rfl

theorem length_flatMap_entries (inputs : List FramedInput) :
    (inputs.flatMap fun input => (toBundleEntry input).image).length =
      kInputBundleEntrySize * inputs.length :=
  length_flatMap_of_size length_entry_image inputs

/-- The length of an encoded bundle is that of the header and its entries, or zero. -/
theorem length_encodeInputBundle (inputs : List FramedInput) (ackFrame : Option Nat) :
    encodeInputBundle inputs ackFrame = [] ∨
      (encodeInputBundle inputs ackFrame).length =
        kInputBundleHeaderSize + kInputBundleEntrySize * inputs.length := by
  unfold encodeInputBundle
  cases inputs with
  | nil => exact Or.inl rfl
  | cons first rest =>
    dsimp only
    split
    · exact Or.inl rfl
    · split
      · exact Or.inl rfl
      · refine Or.inr ?_
        rw [List.length_append, length_header_image, length_flatMap_entries]

/-- The entry the decoder finds at an index of the encoded entries. -/
theorem entry_at {inputs : List FramedInput} (hfits : ∀ input ∈ inputs, Fits input)
    (header : WireInputBundleHeader) {index : Nat} (hindex : index < inputs.length) :
    WireInputBundleEntry.ofImage
      ((header.image ++ inputs.flatMap fun input => (toBundleEntry input).image).drop
        (kInputBundleHeaderSize + kInputBundleEntrySize * index)) =
      toBundleEntry (inputs.get ⟨index, hindex⟩) := by
  have hdrop : inputs.drop index = inputs.get ⟨index, hindex⟩ :: inputs.drop (index + 1) :=
    List.drop_eq_getElem_cons hindex
  rw [← length_header_image header, List.drop_length_add_append,
    drop_flatMap_of_size length_entry_image, hdrop, List.flatMap_cons]
  exact ofImage_toBundleEntry (hfits _ (List.get_mem inputs ⟨index, hindex⟩)) _

/-- A bundle survives the wire. -/
theorem decodeInputBundle_encodeInputBundle {inputs : List FramedInput} {ackFrame : Option Nat}
    (h : Bundles inputs ackFrame) :
    decodeInputBundle (encodeInputBundle inputs ackFrame) = some (inputs, ackFrame) := by
  obtain ⟨first, hmem, hbytes⟩ := encodeInputBundle_eq h
  have hlen : (encodeInputBundle inputs ackFrame).length =
      kInputBundleHeaderSize + kInputBundleEntrySize * inputs.length := by
    rw [hbytes, List.length_append, length_header_image, length_flatMap_entries]
  have hheader : WireInputBundleHeader.ofImage (encodeInputBundle inputs ackFrame) =
      bundleHeader first.generation inputs.length ackFrame := by
    rw [hbytes]
    exact ofImage_bundleHeader (h.fits first hmem).generation h.length_le h.ack_fits _
  have hpos : inputs.length ≠ 0 := fun hzero => h.nonempty (List.length_eq_zero_iff.mp hzero)
  have hack : (if ackFrame.getD kNoAckFrame ≠ kNoAckFrame then some (ackFrame.getD kNoAckFrame)
      else none) = ackFrame := by
    cases ackFrame with
    | none => simp
    | some frame =>
      have hne : frame ≠ kNoAckFrame := fun heq => h.ack_ne (by rw [heq])
      simp [hne]
  have hentries : ((List.range inputs.length).map fun index =>
      fromBundleEntry first.generation
        (.ofImage ((encodeInputBundle inputs ackFrame).drop
          (kInputBundleHeaderSize + kInputBundleEntrySize * index)))) = inputs := by
    apply List.ext_getElem
    · simp
    · intro index hl hr
      have hget := entry_at h.fits (bundleHeader first.generation inputs.length ackFrame) hr
      have hgen := h.generation _ (List.get_mem inputs ⟨index, hr⟩) first hmem
      rw [List.getElem_map, List.getElem_range, hbytes, hget, ← hgen]
      exact fromBundleEntry_toBundleEntry _
  unfold decodeInputBundle
  rw [if_neg (by rw [hlen]; omega)]
  dsimp only
  rw [hheader, if_neg]
  · exact congrArg some (Prod.ext hentries hack)
  · rintro (hbad | hbad | hbad | hbad | hbad | hbad)
    · exact hbad rfl
    · exact hbad rfl
    · exact hbad rfl
    · exact hpos hbad
    · exact absurd h.length_le (Nat.not_le.mpr hbad)
    · exact hbad hlen

/-- What is decoded forms a bundle. -/
theorem bundles_of_decodeInputBundle {bytes : List UInt8} {inputs : List FramedInput}
    {ackFrame : Option Nat} (h : decodeInputBundle bytes = some (inputs, ackFrame)) :
    Bundles inputs ackFrame := by
  unfold decodeInputBundle at h
  split at h
  · cases h
  · dsimp only at h
    split at h
    · cases h
    · next hok =>
      simp only [not_or, Nat.not_lt] at hok
      obtain ⟨-, -, -, hpos, hmax, -⟩ := hok
      cases h
      refine ⟨?_, ?_, ?_, ?_, ?_, ?_⟩
      · intro hnil
        have hzero := congrArg List.length hnil
        rw [List.length_map, List.length_range] at hzero
        exact hpos hzero
      · rw [List.length_map, List.length_range]
        exact hmax
      · intro input hin
        obtain ⟨index, -, rfl⟩ := List.mem_map.mp hin
        exact ⟨readLE_lt 4 bytes 12, readLE_lt 4 _ 0⟩
      · intro input hin other hother
        obtain ⟨index, -, rfl⟩ := List.mem_map.mp hin
        obtain ⟨index', -, rfl⟩ := List.mem_map.mp hother
        rfl
      · intro frame hframe
        split at hframe
        · cases hframe
          exact readLE_lt 4 bytes 20
        · cases hframe
      · split
        · next hne => exact fun heq => hne (Option.some.inj heq)
        · exact fun heq => by cases heq

end InputProtocol

/-! ## Session messages -/

namespace SessionProtocol

/-- The words of a message are 32 bits wide and its hash 64. -/
structure Fits (message : Message) : Prop where
  value : message.value < 2 ^ 32
  generation : message.generation < 2 ^ 32
  rawReadyFrame : message.rawReadyFrame < 2 ^ 32
  sharedLogicalEpoch : message.sharedLogicalEpoch < 2 ^ 32
  stageID : message.stageID < 2 ^ 32
  stageGroup : message.stageGroup < 2 ^ 32
  matchSeed : message.matchSeed < 2 ^ 32
  packetTick : message.packetTick < 2 ^ 32
  rngValue : message.rngValue < 2 ^ 32
  rngCallCount : message.rngCallCount < 2 ^ 32
  rngBranchAddress : message.rngBranchAddress < 2 ^ 32
  semanticHash : message.semanticHash < 2 ^ 64

/-- Kinds have different numbers. -/
theorem fromWireKind_toWireKind (kind : MessageKind) :
    fromWireKind (toWireKind kind) = some kind := by
  cases kind with
  | matchSeed => rfl
  | startReady => rfl
  | resume => rfl

theorem toWireKind_lt (kind : MessageKind) : toWireKind kind < 256 ^ 4 := by
  cases kind with
  | matchSeed => decide
  | startReady => decide
  | resume => decide

theorem length_encode (message : Message) : (encode message).length = kSessionPacketSize := by
  simp [encode, wireWords, kSessionPacketSize]

/-- A session message survives the wire. -/
theorem decode_encode {message : Message} (h : Fits message) :
    decode (encode message) = some message := by
  have hmagic : readLE 4 (encode message) 0 = kMagic := readLE_of_take rfl (by decide)
  have hversion : readLE 4 (encode message) 4 = kVersion := readLE_of_take rfl (by decide)
  have hkind : readLE 4 (encode message) 8 = toWireKind message.kind :=
    readLE_of_take rfl (toWireKind_lt message.kind)
  have hlow : readLE 4 (encode message) 56 = message.semanticHash % 2 ^ 32 :=
    readLE_of_take rfl (Nat.mod_lt _ (by decide))
  have hhigh : readLE 4 (encode message) 60 = message.semanticHash / 2 ^ 32 := by
    refine readLE_of_take rfl ?_
    have := h.semanticHash
    omega
  have hhash : readLE 4 (encode message) 60 * 2 ^ 32 + readLE 4 (encode message) 56 =
      message.semanticHash := by
    rw [hlow, hhigh]
    omega
  unfold decode
  rw [if_neg (not_not.mpr (length_encode message)), if_neg (by rw [hmagic, hversion]; simp), hkind,
    fromWireKind_toWireKind, hhash]
  have h1 : readLE 4 (encode message) 12 = message.value := readLE_of_take rfl h.value
  have h2 : readLE 4 (encode message) 16 = message.generation := readLE_of_take rfl h.generation
  have h3 : readLE 4 (encode message) 20 = message.rawReadyFrame :=
    readLE_of_take rfl h.rawReadyFrame
  have h4 : readLE 4 (encode message) 24 = message.sharedLogicalEpoch :=
    readLE_of_take rfl h.sharedLogicalEpoch
  have h5 : readLE 4 (encode message) 28 = message.stageID := readLE_of_take rfl h.stageID
  have h6 : readLE 4 (encode message) 32 = message.stageGroup := readLE_of_take rfl h.stageGroup
  have h7 : readLE 4 (encode message) 36 = message.matchSeed := readLE_of_take rfl h.matchSeed
  have h8 : readLE 4 (encode message) 40 = message.packetTick := readLE_of_take rfl h.packetTick
  have h9 : readLE 4 (encode message) 44 = message.rngValue := readLE_of_take rfl h.rngValue
  have h10 : readLE 4 (encode message) 48 = message.rngCallCount :=
    readLE_of_take rfl h.rngCallCount
  have h11 : readLE 4 (encode message) 52 = message.rngBranchAddress :=
    readLE_of_take rfl h.rngBranchAddress
  rw [h1, h2, h3, h4, h5, h6, h7, h8, h9, h10, h11]
  rfl

/-- What is decoded fits into the wire. -/
theorem fits_of_decode {bytes : List UInt8} {message : Message} (h : decode bytes = some message) :
    Fits message := by
  unfold decode at h
  split at h
  · cases h
  · split at h
    · cases h
    · obtain ⟨kind, -, rfl⟩ := Option.map_eq_some_iff.mp h
      have hword : ∀ offset, readLE 4 bytes offset < 2 ^ 32 := readLE_lt 4 bytes
      refine ⟨hword _, hword _, hword _, hword _, hword _, hword _, hword _, hword _, hword _,
        hword _, hword _, ?_⟩
      have hlow := hword 56
      have hhigh := hword 60
      dsimp only
      omega

end SessionProtocol

/-! ## Packets of the packet bridge -/

namespace PacketBridge

/-- A packet as `PrepareOutgoingPacket` builds it, of words that are 32 bits wide. -/
structure Fits (packet : WireNSMLPacket) : Prop where
  prepared : prepareOutgoingPacket packet.generation packet.frame packet.player packet.tick
    packet.packet = some packet
  generation : packet.generation < 2 ^ 32
  frame : packet.frame < 2 ^ 32
  tick : packet.tick < 2 ^ 32
  length : packet.packet.length = kPacketBytes

/-- What a prepared packet looks like. -/
theorem prepared_iff {packet : WireNSMLPacket} :
    prepareOutgoingPacket packet.generation packet.frame packet.player packet.tick packet.packet =
        some packet ↔
      packet.magic = SessionProtocol.kMagic ∧ packet.version = SessionProtocol.kVersion ∧
        packet.kind = kWireKindPacket ∧ packet.player ≤ 1 := by
  obtain ⟨magic, version, kind, generation, frame, player, tick, bytes⟩ := packet
  unfold prepareOutgoingPacket
  by_cases hplayer : 1 < player
  · simp only [if_pos hplayer]
    constructor
    · intro h
      cases h
    · rintro ⟨-, -, -, hle⟩
      exact absurd hplayer (Nat.not_lt.mpr hle)
  · simp only [if_neg hplayer, Option.some.injEq, WireNSMLPacket.mk.injEq, and_true]
    constructor
    · rintro ⟨rfl, rfl, rfl⟩
      exact ⟨rfl, rfl, rfl, Nat.not_lt.mp hplayer⟩
    · rintro ⟨rfl, rfl, rfl, -⟩
      exact ⟨rfl, rfl, rfl⟩

/-- What a packet of the game has to be like. -/
theorem accepted_iff {packet : WireNSMLPacket} {expectedGeneration : Nat} :
    isAcceptedIncomingPacket packet expectedGeneration = true ↔
      (packet.magic = SessionProtocol.kMagic ∧ packet.version = SessionProtocol.kVersion ∧
        packet.kind = kWireKindPacket ∧ packet.player ≤ 1) ∧
        packet.generation = expectedGeneration := by
  unfold isAcceptedIncomingPacket
  split
  · next hbad =>
    constructor
    · intro h
      cases h
    · rintro ⟨⟨hmagic, hversion, hkind, hplayer⟩, -⟩
      rcases hbad with h | h | h | h
      · exact absurd hmagic h
      · exact absurd hversion h
      · exact absurd hkind h
      · exact absurd hplayer (Nat.not_le.mpr h)
  · next hgood =>
    simp only [not_or, not_not, Nat.not_lt] at hgood
    simp [hgood]

theorem length_image {packet : WireNSMLPacket} (h : packet.packet.length = kPacketBytes) :
    packet.image.length = kNSMLPacketSize := by
  simp [WireNSMLPacket.image, h, kNSMLPacketSize, kPacketBytes]

/-- The bytes hold all of the struct. -/
theorem ofImage_image {packet : WireNSMLPacket} (h : Fits packet) :
    WireNSMLPacket.ofImage packet.image = packet := by
  obtain ⟨hmagic, hversion, hkind, hplayer⟩ := prepared_iff.mp h.prepared
  have hbytes : packet.image.drop 28 = packet.packet := rfl
  apply WireNSMLPacket.ext
  case magic => exact readLE_of_take rfl (by rw [hmagic]; decide)
  case version => exact readLE_of_take rfl (by rw [hversion]; decide)
  case kind => exact readLE_of_take rfl (by rw [hkind]; decide)
  case generation => exact readLE_of_take rfl h.generation
  case frame => exact readLE_of_take rfl h.frame
  case player => exact readLE_of_take rfl (Nat.lt_of_le_of_lt hplayer (by decide))
  case tick => exact readLE_of_take rfl h.tick
  case packet =>
    change (packet.image.drop 28).take kPacketBytes = packet.packet
    rw [hbytes, ← h.length, List.take_length]

/-- A packet of the game survives the wire. -/
theorem receivePacket_image {packet : WireNSMLPacket} (h : Fits packet) :
    receivePacket packet.generation packet.image = some packet := by
  have haccept : isAcceptedIncomingPacket packet packet.generation = true :=
    accepted_iff.mpr ⟨prepared_iff.mp h.prepared, rfl⟩
  unfold receivePacket
  dsimp only
  rw [if_neg (not_not.mpr (length_image h.length)), ofImage_image h, if_pos haccept]

/-- What is accepted fits into the wire, and is of the generation that was expected. -/
theorem fits_of_receivePacket {expectedGeneration : Nat} {bytes : List UInt8}
    {packet : WireNSMLPacket} (h : receivePacket expectedGeneration bytes = some packet) :
    Fits packet ∧ packet.generation = expectedGeneration := by
  unfold receivePacket at h
  split at h
  · cases h
  · next hlen =>
    dsimp only at h
    split at h
    · next haccept =>
      cases h
      obtain ⟨hprepared, hgeneration⟩ := accepted_iff.mp haccept
      have hsize : bytes.length = kNSMLPacketSize := not_not.mp hlen
      refine ⟨⟨prepared_iff.mpr hprepared, readLE_lt 4 bytes 12, readLE_lt 4 bytes 16,
        readLE_lt 4 bytes 24, ?_⟩, hgeneration⟩
      change ((bytes.drop 28).take kPacketBytes).length = kPacketBytes
      rw [List.length_take, List.length_drop, hsize]
      rfl
    · cases h

end PacketBridge

/-! ## Game states -/

namespace GameStateModel

theorem toNat_lo (value : UInt64) : (lo value).toNat = value.toNat % 2 ^ 32 := by
  have hand : value.toNat &&& 4294967295 = value.toNat % 2 ^ 32 :=
    Nat.and_two_pow_sub_one_eq_mod value.toNat 32
  rw [lo, UInt64.toNat_toUInt32, UInt64.toNat_and]
  change (value.toNat &&& 4294967295) % 2 ^ 32 = value.toNat % 2 ^ 32
  rw [hand, Nat.mod_mod]

theorem toNat_hi (value : UInt64) : (hi value).toNat = value.toNat / 2 ^ 32 := by
  have hvalue : value.toNat < 2 ^ 64 := value.toNat_lt
  rw [hi, UInt64.toNat_toUInt32, UInt64.toNat_shiftRight]
  change (value.toNat >>> 32) % 2 ^ 32 = value.toNat / 2 ^ 32
  rw [Nat.shiftRight_eq_div_pow]
  omega

/-- Two words make a long one. -/
theorem toNat_join (high low : UInt32) :
    (join high low).toNat = high.toNat * 2 ^ 32 + low.toNat := by
  have hhigh : high.toNat < 2 ^ 32 := high.toNat_lt
  have hlow : low.toNat < 2 ^ 32 := low.toNat_lt
  have hshift : high.toNat <<< 32 < 2 ^ 64 := by
    rw [Nat.shiftLeft_eq]
    omega
  rw [join, UInt64.toNat_or, UInt64.toNat_shiftLeft, UInt32.toNat_toUInt64, UInt32.toNat_toUInt64]
  change (high.toNat <<< 32) % 2 ^ 64 ||| low.toNat = high.toNat * 2 ^ 32 + low.toNat
  rw [Nat.mod_eq_of_lt hshift, ← Nat.shiftLeft_add_eq_or_of_lt hlow, Nat.shiftLeft_eq]

/-- A hash survives being sent as two words. -/
theorem join_hi_lo (value : UInt64) : join (hi value) (lo value) = value := by
  apply UInt64.toNat_inj.mp
  rw [toNat_join, toNat_hi, toNat_lo]
  omega

/-- What of a state the receiver gets to see. -/
def DecodedGameState.carried (state : DecodedGameState) : DecodedGameState :=
  { state with
    sample :=
      { word := fun field => if field ∈ wireFields then state.sample.word field else 0
        hash := state.hashes.basic } }

theorem length_wireLayout : wireLayout.length = 96 := by decide

theorem length_encodeGameState (state : DecodedGameState) :
    (encodeGameState state).length = kGameStateSize := by
  unfold encodeGameState WireGameState.image
  rw [length_flatMap_of_size fun field => length_toBytes 4 _, length_wireLayout]
  rfl

/-- A member of the struct is found where the layout puts it. -/
theorem ofImage_image {packet : WireGameState} {field : WireField} (h : field ∈ wireLayout) :
    WireGameState.ofImage packet.image field = packet field := by
  have hindex : wireLayout.idxOf field < wireLayout.length := List.idxOf_lt_length_iff.mpr h
  have hdrop : wireLayout.drop (wireLayout.idxOf field) =
      field :: wireLayout.drop (wireLayout.idxOf field + 1) := by
    rw [List.drop_eq_getElem_cons hindex, List.getElem_idxOf hindex]
  have htake : (packet.image.drop (4 * wireLayout.idxOf field)).take 4 =
      toBytes 4 (packet field).toNat := by
    rw [WireGameState.image, drop_flatMap_of_size fun f => length_toBytes 4 _, hdrop,
      List.flatMap_cons]
    rfl
  rw [WireGameState.ofImage, readLE_of_take htake (packet field).toNat_lt, UInt32.ofNat_toNat]

/-- The layout has a place for each field of the sample. -/
theorem mem_wireLayout_sample {field : GameStateField} (h : field ∈ wireFields) :
    WireField.sample field ∈ wireLayout :=
  List.mem_append_left _ (List.mem_append_right _ (List.mem_map_of_mem h))

/-- Of a game state, what the wire carries survives. -/
theorem decodeGameState_encodeGameState (state : DecodedGameState) :
    decodeGameState (encodeGameState state) = some state.carried := by
  have hword : ∀ field ∈ wireLayout, WireGameState.ofImage (encodeGameState state) field =
      encodeWireGameState state.frame state.instance_ state.generation state.sample state.hashes
        field := fun field h => ofImage_image h
  have hsample : ∀ field, (if field ∈ wireFields then
      WireGameState.ofImage (encodeGameState state) (.sample field) else 0) =
      if field ∈ wireFields then state.sample.word field else 0 := by
    intro field
    by_cases hmem : field ∈ wireFields
    · rw [if_pos hmem, if_pos hmem, hword _ (mem_wireLayout_sample hmem)]
      exact if_pos hmem
    · rw [if_neg hmem, if_neg hmem]
  unfold decodeGameState decodeWireGameState
  rw [hword .magic (by decide), hword .version (by decide), hword .kind (by decide),
    hword .generation (by decide), hword .frame (by decide), hword .instance_ (by decide),
    hword .basicHashLo (by decide), hword .basicHashHi (by decide),
    hword .playerGlobalHashLo (by decide), hword .playerGlobalHashHi (by decide),
    hword .wifiCandidateHashLo (by decide), hword .wifiCandidateHashHi (by decide),
    hword .renderCandidateHashLo (by decide), hword .renderCandidateHashHi (by decide),
    if_neg (by simp [encodeWireGameState])]
  simp only [encodeWireGameState, hsample, join_hi_lo]
  rfl

/-- A state that was decoded holds nothing that does not travel. -/
theorem carried_of_decodeGameState {bytes : List UInt8} {state : DecodedGameState}
    (h : decodeGameState bytes = some state) : state.carried = state := by
  unfold decodeGameState decodeWireGameState at h
  split at h
  · cases h
  · cases h
    unfold DecodedGameState.carried
    congr 2
    funext field
    by_cases hmem : field ∈ wireFields
    · exact if_pos hmem
    · rw [if_neg hmem]
      exact (if_neg hmem).symm

end GameStateModel

/-! ## Dispatch -/

namespace WireProtocol

open InputDelivery PacketClassifier

/-- The values that a peer in the given generation exchanges. -/
def Packet.Exchanged (generation : Nat) : Packet → Prop
  | .input packet => InputProtocol.Fits packet
  | .inputBundle inputs ackFrame => InputProtocol.Bundles inputs ackFrame
  | .session message => SessionProtocol.Fits message
  | .nsml packet => PacketBridge.Fits packet ∧ packet.generation = generation
  | .gameState _ => True

/-- What the other peer gets: a game state is cut down to the fields that travel. -/
def Packet.carried : Packet → Packet
  | .gameState state => .gameState state.carried
  | packet => packet

/-- No number of entries gives a bundle the size of another packet. -/
theorem bundle_size_apart (inputs : List FramedInput) (ackFrame : Option Nat) :
    (InputProtocol.encodeInputBundle inputs ackFrame).length ∉
      [knownPacketSizes.input, knownPacketSizes.session, knownPacketSizes.nsmlPacket,
        knownPacketSizes.gameState] := by
  change _ ∉ [28, 64, 80, 384]
  rcases InputProtocol.length_encodeInputBundle inputs ackFrame with hnil | hlen
  · rw [hnil]
    decide
  · rw [hlen]
    simp only [InputProtocol.kInputBundleHeaderSize, InputProtocol.kInputBundleEntrySize,
      List.mem_cons, List.not_mem_nil, or_false, not_or]
    omega

/-- No bundle is as long as another packet. -/
theorem classify_bundle {inputs : List FramedInput} {ackFrame : Option Nat}
    (h : InputProtocol.Bundles inputs ackFrame) :
    classify (InputProtocol.encodeInputBundle inputs ackFrame).length knownPacketSizes =
      .inputBundleCandidate := by
  have hapart := bundle_size_apart inputs ackFrame
  have hlong : knownPacketSizes.input <
      (InputProtocol.encodeInputBundle inputs ackFrame).length := by
    obtain ⟨first, hmem, hbytes⟩ := InputProtocol.encodeInputBundle_eq h
    have hpos : 0 < inputs.length := List.length_pos_of_mem hmem
    rw [hbytes, List.length_append, InputProtocol.length_header_image,
      InputProtocol.length_flatMap_entries]
    simp only [knownPacketSizes, InputProtocol.kInputPacketSize,
      InputProtocol.kInputBundleHeaderSize, InputProtocol.kInputBundleEntrySize]
    omega
  simp only [List.mem_cons, List.not_mem_nil, or_false, not_or] at hapart
  obtain ⟨hinput, hsession, hnsml, hstate⟩ := hapart
  simp [classify, isGamePacketSize, hinput, hsession, hnsml, hstate, hlong]

/-- Each packet is known by its length. -/
theorem classify_encode {generation : Nat} {packet : Packet} (h : packet.Exchanged generation) :
    classify packet.encode.length knownPacketSizes = packet.packetClass := by
  cases packet with
  | input packet =>
    rw [Packet.encode, InputProtocol.length_encodeInput]
    rfl
  | inputBundle inputs ackFrame => exact classify_bundle h
  | session message =>
    rw [Packet.encode, SessionProtocol.length_encode]
    rfl
  | nsml packet =>
    rw [Packet.encode, PacketBridge.length_image h.1.length]
    rfl
  | gameState state =>
    rw [Packet.encode, GameStateModel.length_encodeGameState]
    rfl

/-- Each packet survives the wire. -/
theorem decodeAs_encode {generation : Nat} {packet : Packet} (h : packet.Exchanged generation) :
    decodeAs generation packet.encode packet.packetClass = some packet.carried := by
  cases packet with
  | input packet =>
    rw [Packet.encode, Packet.packetClass, decodeAs, InputProtocol.decodeInput_encodeInput h]
    rfl
  | inputBundle inputs ackFrame =>
    rw [Packet.encode, Packet.packetClass, decodeAs,
      InputProtocol.decodeInputBundle_encodeInputBundle h]
    rfl
  | session message =>
    rw [Packet.encode, Packet.packetClass, decodeAs, SessionProtocol.decode_encode h]
    rfl
  | nsml packet =>
    obtain ⟨hfits, rfl⟩ := h
    rw [Packet.encode, Packet.packetClass, decodeAs, PacketBridge.receivePacket_image hfits]
    rfl
  | gameState state =>
    rw [Packet.encode, Packet.packetClass, decodeAs, GameStateModel.decodeGameState_encodeGameState]
    rfl

/-- What a decoder accepts is a value of its own type that its encoder takes as a whole. -/
theorem exchanged_of_decodeAs {generation : Nat} {bytes : List UInt8} {packetClass : PacketClass}
    {packet : Packet} (h : decodeAs generation bytes packetClass = some packet) :
    packet.packetClass = packetClass ∧ packet.Exchanged generation ∧ packet.carried = packet := by
  cases packetClass with
  | unknown => cases h
  | input =>
    obtain ⟨input, hinput, rfl⟩ := Option.map_eq_some_iff.mp h
    exact ⟨rfl, InputProtocol.fits_of_decodeInput hinput, rfl⟩
  | inputBundleCandidate =>
    obtain ⟨⟨inputs, ackFrame⟩, hbundle, rfl⟩ := Option.map_eq_some_iff.mp h
    exact ⟨rfl, InputProtocol.bundles_of_decodeInputBundle hbundle, rfl⟩
  | session =>
    obtain ⟨message, hmessage, rfl⟩ := Option.map_eq_some_iff.mp h
    exact ⟨rfl, SessionProtocol.fits_of_decode hmessage, rfl⟩
  | nsmlPacket =>
    obtain ⟨packet, hpacket, rfl⟩ := Option.map_eq_some_iff.mp h
    exact ⟨rfl, PacketBridge.fits_of_receivePacket hpacket, rfl⟩
  | gameState =>
    obtain ⟨state, hstate, rfl⟩ := Option.map_eq_some_iff.mp h
    refine ⟨rfl, trivial, ?_⟩
    change Packet.gameState state.carried = Packet.gameState state
    rw [GameStateModel.carried_of_decodeGameState hstate]

/-- Every packet is led to the decoder of its type, which returns what was encoded, a game state as
far as it travels; what a decoder accepts comes back from its own encoding; and no bundle has the
size of another packet. -/
theorem wire_round_trip (generation : Nat) :
    (∀ packet : Packet, packet.Exchanged generation →
      classify packet.encode.length knownPacketSizes = packet.packetClass ∧
        decodeAs generation packet.encode packet.packetClass = some packet.carried) ∧
    (∀ bytes packetClass packet, decodeAs generation bytes packetClass = some packet →
      decodeAs generation packet.encode packetClass = some packet ∧
        receive generation packet.encode = some packet) ∧
    ∀ inputs ackFrame, (InputProtocol.encodeInputBundle inputs ackFrame).length ∉
      [knownPacketSizes.input, knownPacketSizes.session, knownPacketSizes.nsmlPacket,
        knownPacketSizes.gameState] := by
  refine ⟨fun packet h => ⟨classify_encode h, decodeAs_encode h⟩, ?_, bundle_size_apart⟩
  intro bytes packetClass packet h
  obtain ⟨rfl, hexchanged, hcarried⟩ := exchanged_of_decodeAs h
  have hback := decodeAs_encode hexchanged
  rw [hcarried] at hback
  refine ⟨hback, ?_⟩
  rw [receive, classify_encode hexchanged]
  exact hback

/-- Two inputs that travel with an acknowledgement. -/
def twoInputs : List FramedInput :=
  [{ generation := 1, frame := 640, input := { keyMask := 0xFFE } },
    { generation := 1, frame := 641, input := { touching := true, touchX := 12, touchY := 90 } }]

theorem twoInputs_round_trip :
    InputProtocol.Bundles twoInputs (some 638) ∧
      decodeAs 1 (Packet.inputBundle twoInputs (some 638)).encode .inputBundleCandidate =
        some (.inputBundle twoInputs (some 638)) := by
  have hbundles : InputProtocol.Bundles twoInputs (some 638) := by
    refine ⟨by decide, by decide, ?_, by decide, by decide, by decide⟩
    intro input hin
    have hwords : ∀ input ∈ twoInputs, input.generation < 2 ^ 32 ∧ input.frame < 2 ^ 32 := by decide
    exact ⟨(hwords input hin).1, (hwords input hin).2⟩
  exact ⟨hbundles, ((wire_round_trip 1).1 (.inputBundle twoInputs (some 638)) hbundles).2⟩

/-- A state with a word outside the wire list. -/
def netState14Sample : GameStateModel.DecodedGameState where
  sample := { word := fun field => if field = .netState14 then 1 else 0 }

/-- The receiver does not get the words outside the wire list. -/
theorem gameState_not_returned :
    ¬ ∀ packet : Packet, packet.Exchanged 0 → receive 0 packet.encode = some packet := by
  intro hall
  have hexchanged : (Packet.gameState netState14Sample).Exchanged 0 := trivial
  have hback := hall (.gameState netState14Sample) hexchanged
  rw [receive, classify_encode hexchanged, decodeAs_encode hexchanged] at hback
  have hstate := Packet.gameState.inj (Option.some.inj hback)
  have hword : netState14Sample.carried.sample.word .netState14 =
      netState14Sample.sample.word .netState14 := by rw [hstate]
  exact absurd hword (by decide)

end WireProtocol

end Bigstar.Netplay
