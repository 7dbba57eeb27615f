import Bigstar.Rom.Proofs.RomSaveProofs

/-!
# The end address in the build info

Saving stores the end address of the compressed ARM9 binary in the binary itself, which can change
the compressed length again. The code stores it three times at most, and does not look again after
the third time.
-/

namespace Bigstar.Rom

open LittleEndian Pages

variable {tools : Tools} {buildInfo ramBase : Nat}

/-- The end address that is stored in the binary is the one that its compression has. -/
def Stable (tools : Tools) (buildInfo ramBase : Nat) (arm9 : List UInt8) : Prop :=
  ∃ packed, tools.compress arm9 ARM9_COMPRESSION_START = some packed ∧
    readU32 arm9 (buildInfo + 0x14) = .ok (u32 (ramBase + u32 packed.length))

/-- Stores the end address of the compressed binary. -/
def storeEnd (tools : Tools) (buildInfo ramBase : Nat) (arm9 : List UInt8) : Option (List UInt8) :=
  (tools.compress arm9 ARM9_COMPRESSION_START).bind fun packed =>
    (writeU32 arm9 (buildInfo + 0x14) (u32 (ramBase + u32 packed.length))).toOption

/-- The end address has settled after some number of rounds at most. -/
def Settles (tools : Tools) (buildInfo ramBase : Nat) : Nat → List UInt8 → Prop
  | 0, arm9 => Stable tools buildInfo ramBase arm9
  | rounds + 1, arm9 =>
    Stable tools buildInfo ramBase arm9 ∨
      ∃ arm9', storeEnd tools buildInfo ramBase arm9 = some arm9' ∧
      Settles tools buildInfo ramBase rounds arm9'

theorem compress_eq_ok {data packed : List UInt8} {start : Nat} {context : String}
    (h : compress tools data start context = .ok packed) :
    tools.compress data start = some packed := by
  unfold compress at h
  cases hpacked : tools.compress data start with
  | none =>
    rw [hpacked] at h
    cases h
  | some packed' =>
    rw [hpacked] at h
    cases h
    rfl

theorem stable_iff {arm9 packed : List UInt8}
    (h : tools.compress arm9 ARM9_COMPRESSION_START = some packed) :
    Stable tools buildInfo ramBase arm9 ↔
      readU32 arm9 (buildInfo + 0x14) = .ok (u32 (ramBase + u32 packed.length)) := by
  unfold Stable
  rw [h]
  simp

/-- The binary that the rounds leave has the end address of its own compression exactly when that
address has settled by then. -/
theorem compressRounds_stable_iff {rounds : Nat} {arm9 packed after packed' : List UInt8}
    (hpacked : tools.compress arm9 ARM9_COMPRESSION_START = some packed)
    (h : compressRounds tools buildInfo ramBase rounds arm9 packed = .ok (after, packed')) :
    readU32 after (buildInfo + 0x14) = .ok (u32 (ramBase + u32 packed'.length)) ↔
      Settles tools buildInfo ramBase rounds arm9 := by
  induction rounds generalizing arm9 packed with
  | zero =>
    cases h
    exact (stable_iff hpacked).symm
  | succ rounds ih =>
    unfold compressRounds at h
    dsimp only at h
    obtain ⟨stored, hstored, h⟩ := bind_eq_ok.mp h
    split at h
    case isTrue hstop =>
      cases h
      rw [hstop] at hstored
      exact iff_of_true hstored (.inl ((stable_iff hpacked).mpr hstored))
    case isFalse hstop =>
      obtain ⟨next, hnext, h⟩ := bind_eq_ok.mp h
      obtain ⟨repacked, hrepacked, h⟩ := bind_eq_ok.mp h
      rw [ih (compress_eq_ok hrepacked) h]
      have hstore : storeEnd tools buildInfo ramBase arm9 = some next := by
        unfold storeEnd
        rw [hpacked, Option.bind_some, hnext]
        rfl
      have hunstable : ¬ Stable tools buildInfo ramBase arm9 := by
        rw [stable_iff hpacked, hstored]
        exact fun heq => hstop (Except.ok.inj heq)
      rw [Settles, hstore]
      constructor
      · exact fun hsettles => .inr ⟨next, rfl, hsettles⟩
      · rintro (hstable | ⟨arm9', hsome, hsettles⟩)
        · exact absurd hstable hunstable
        · obtain rfl := Option.some.inj hsome
          exact hsettles

theorem decompress_compressArm9 (hlossless : tools.Lossless) {arm9 after packed : List UInt8}
    (h : compressArm9WithBuildInfo tools arm9 buildInfo ramBase = .ok (after, packed)) :
    tools.decompress packed = some after := by
  have hafter := (compressArm9_spec hlossless h).2 ""
  unfold decompress at hafter
  split at hafter
  · next image himage =>
    rw [himage, Except.ok.inj hafter]
  · cases hafter

/-- What `compress_arm9_with_build_info` returns decompresses to the binary with at most the end
address rewritten, and that is the end address of the result exactly when it has settled after three
rounds. -/
theorem build_info_consistent_iff (hlossless : tools.Lossless) {arm9 after packed : List UInt8}
    (h : compressArm9WithBuildInfo tools arm9 buildInfo ramBase = .ok (after, packed)) :
    ∃ image, tools.decompress packed = some image ∧ SameButWord (buildInfo + 0x14) arm9 image ∧
      (readU32 image (buildInfo + 0x14) = .ok (u32 (ramBase + u32 packed.length)) ↔
        Settles tools buildInfo ramBase 3 arm9) := by
  have hsame := (compressArm9_spec hlossless h).1
  have himage := decompress_compressArm9 hlossless h
  obtain ⟨first, hfirst, h⟩ := bind_eq_ok.mp h
  exact ⟨after, himage, hsame, compressRounds_stable_iff (compress_eq_ok hfirst) h⟩

/-- The address settles in the first round where the compression has a fixed length. -/
theorem small_build_info :
    ∃ image, storedTools.decompress (smallArm9 0 0x02000048 0x02000040 ++ List.replicate 8 0) =
      some image ∧
      readU32 image 0x14 = .ok 0x02000048 := by
  have hpacked := compressArm9_small (0, 0x02000040) (by decide)
  obtain ⟨image, himage, -, hiff⟩ := build_info_consistent_iff storedTools_lossless hpacked
  refine ⟨image, himage, hiff.mpr
    (.inr ⟨smallArm9 0 0x02000048 0x02000040, by decide +kernel, .inl ?_⟩)⟩
  exact ⟨_, rfl, by decide +kernel⟩

/-! ## An address that never settles -/

/-- One byte at the end of the compressed data tells how much has been appended to the rest. -/
def appendPadding (data : List UInt8) (padding : Nat) : List UInt8 :=
  data ++ List.replicate padding 0 ++ [UInt8.ofNat padding]

/-- A compression whose length is odd where the word behind the first `0x14` bytes of the compressed
part is even, and even where it is odd. -/
def alternatingPadding (data : List UInt8) (start : Nat) : Nat :=
  if (data.length + 1) % 2 = (data.getD (start + 0x14) 0).toNat % 2 then 1 else 0

/-- A compressor whose output never settles. -/
def alternatingTools : Tools where
  compress := fun data start => some (appendPadding data (alternatingPadding data start))
  decompress := fun packed =>
    packed.getLast?.map fun padding => packed.take (packed.length - (padding.toNat + 1))
  checksum := fun _ => 0

theorem alternatingPadding_le (data : List UInt8) (start : Nat) :
    alternatingPadding data start ≤ 1 := by
  unfold alternatingPadding
  split
  · exact Nat.le_refl 1
  · exact Nat.zero_le 1

theorem length_appendPadding (data : List UInt8) (padding : Nat) :
    (appendPadding data padding).length = data.length + padding + 1 := by
  unfold appendPadding
  rw [List.length_append, List.length_append, List.length_replicate, List.length_singleton]

theorem alternatingTools_lossless : alternatingTools.Lossless := by
  intro data start packed h
  obtain rfl := Option.some.inj h
  have hle := alternatingPadding_le data start
  generalize alternatingPadding data start = padding at hle
  have hlast : (appendPadding data padding).getLast? = some (UInt8.ofNat padding) :=
    List.getLast?_concat
  have hbyte : (UInt8.ofNat padding).toNat = padding := by
    rw [UInt8.toNat_ofNat']
    exact Nat.mod_eq_of_lt (by omega)
  change ((appendPadding data padding).getLast?.map fun padding' =>
    (appendPadding data padding).take
      ((appendPadding data padding).length - (padding'.toNat + 1))) = some data
  rw [hlast, Option.map_some, hbyte, length_appendPadding, Nat.add_assoc, Nat.add_sub_cancel]
  unfold appendPadding
  rw [List.append_assoc, List.take_left]

/-- What is not compressed stays. -/
theorem alternatingTools_start {data packed : List UInt8} {start : Nat}
    (h : alternatingTools.compress data start = some packed) (hstart : start ≤ data.length) :
    packed.take start = data.take start := by
  obtain rfl := Option.some.inj h
  unfold appendPadding
  rw [List.append_assoc, List.take_append_of_le_length hstart]

/-- The first byte of a word is even where the word is. -/
theorem readU32_parity {data : List UInt8} {off value : Nat} (h : readU32 data off = .ok value) :
    value % 2 = (data.getD off 0).toNat % 2 := by
  obtain ⟨bytes, hslice, hvalue⟩ := bind_eq_ok.mp h
  obtain ⟨hle, hbytes, -⟩ := slice_eq_ok hslice
  cases hvalue
  have hcons : data.drop off = data[off] :: data.drop (off + 1) :=
    List.drop_eq_getElem_cons (by omega)
  have hget : data.getD off 0 = data[off] := by
    rw [List.getD_eq_getElem?_getD, List.getElem?_eq_getElem (by omega), Option.getD_some]
  rw [hbytes, hcons, List.take_succ_cons, ofBytes, hget]
  omega

theorem not_stable_alternating (arm9 : List UInt8) :
    ¬ Stable alternatingTools ARM9_COMPRESSION_START 0x02000000 arm9 := by
  rintro ⟨packed, hpacked, hword⟩
  obtain rfl := Option.some.inj hpacked
  have hparity := readU32_parity hword
  have hlength := length_appendPadding arm9 (alternatingPadding arm9 ARM9_COMPRESSION_START)
  have hpadding : alternatingPadding arm9 ARM9_COMPRESSION_START =
      if (arm9.length + 1) % 2 = (arm9.getD (ARM9_COMPRESSION_START + 0x14) 0).toNat % 2 then
        1 else 0 := rfl
  unfold u32 at hparity
  split at hpadding <;> omega

theorem not_settles_alternating (rounds : Nat) (arm9 : List UInt8) :
    ¬ Settles alternatingTools ARM9_COMPRESSION_START 0x02000000 rounds arm9 := by
  induction rounds generalizing arm9 with
  | zero => exact not_stable_alternating arm9
  | succ rounds ih =>
    rw [Settles]
    rintro (hstable | ⟨arm9', -, hsettles⟩)
    · exact not_stable_alternating arm9 hstable
    · exact ih arm9' hsettles

theorem compressRounds_alternating (rounds : Nat) (arm9 packed : List UInt8)
    (hlength : ARM9_COMPRESSION_START + 0x18 ≤ arm9.length) :
    ∃ result, compressRounds alternatingTools ARM9_COMPRESSION_START 0x02000000 rounds arm9 packed =
      .ok result := by
  induction rounds generalizing arm9 packed with
  | zero => exact ⟨_, rfl⟩
  | succ rounds ih =>
    unfold compressRounds
    dsimp only
    by_cases hstop : readLE 4 arm9 (ARM9_COMPRESSION_START + 0x14) =
      u32 (0x02000000 + u32 packed.length)
    · refine ⟨(arm9, packed), bind_eq_ok.mpr ⟨_, readU32_of_length (by omega), ?_⟩⟩
      rw [if_pos hstop]
    · have hin : ARM9_COMPRESSION_START + 0x14
          + (toBytes 4 (u32 (0x02000000 + u32 packed.length))).length ≤ arm9.length := by
        rw [length_toBytes]
        omega
      obtain ⟨result, hresult⟩ := ih
        (writeAt arm9 (ARM9_COMPRESSION_START + 0x14)
          (toBytes 4 (u32 (0x02000000 + u32 packed.length))))
        (appendPadding _ (alternatingPadding _ ARM9_COMPRESSION_START))
          (by rw [length_writeAt hin]; exact hlength)
      refine ⟨result, bind_eq_ok.mpr ⟨_, readU32_of_length (by omega), ?_⟩⟩
      rw [if_neg hstop]
      refine bind_eq_ok.mpr ⟨_, ?_, bind_eq_ok.mpr ⟨_, rfl, hresult⟩⟩
      unfold writeU32 writeWord
      exact if_pos (by omega)

/-- With the build info in the compressed part of the binary, `Ok` is returned with a wrong end
address. -/
theorem end_never_settles :
    alternatingTools.Lossless ∧
    (∀ data packed, ARM9_COMPRESSION_START ≤ data.length →
      alternatingTools.compress data ARM9_COMPRESSION_START = some packed →
        packed.take ARM9_COMPRESSION_START = data.take ARM9_COMPRESSION_START) ∧
    ∃ after packed image,
      compressArm9WithBuildInfo alternatingTools (List.replicate (ARM9_COMPRESSION_START + 0x24) 0)
        ARM9_COMPRESSION_START 0x02000000 = .ok (after, packed) ∧
      alternatingTools.decompress packed = some image ∧
      readU32 image (ARM9_COMPRESSION_START + 0x14) ≠
        .ok (u32 (0x02000000 + u32 packed.length)) := by
  refine ⟨alternatingTools_lossless, fun data packed hstart h =>
    alternatingTools_start h hstart, ?_⟩
  obtain ⟨⟨after, packed⟩, hresult⟩ := compressRounds_alternating 3
    (List.replicate (ARM9_COMPRESSION_START + 0x24) 0)
    (appendPadding _ (alternatingPadding _ ARM9_COMPRESSION_START))
      (by rw [List.length_replicate]; omega)
  have hok : compressArm9WithBuildInfo alternatingTools
    (List.replicate (ARM9_COMPRESSION_START + 0x24) 0)
      ARM9_COMPRESSION_START 0x02000000 = .ok (after, packed) :=
    bind_eq_ok.mpr ⟨_, rfl, hresult⟩
  refine ⟨after, packed, after, hok, decompress_compressArm9 alternatingTools_lossless hok, ?_⟩
  rw [ne_eq, compressRounds_stable_iff rfl hresult]
  exact not_settles_alternating 3 _

end Bigstar.Rom
